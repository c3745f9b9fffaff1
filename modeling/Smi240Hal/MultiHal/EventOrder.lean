/-
# Smi240Hal.MultiHal.EventOrder — where the posted events go, and in which order

`Queues` is the part of the event path that moves events: the pending queue, the thread that empties
it and the history.  `QueueStep` says what can happen to it, in terms of lists, with the wake lock,
the sensor tables and the framework left out; `queues_step` shows that every step of the program is
one of these or leaves the queues alone.

While the background thread is between its blocking write and the next lock of the mutex, the chunk
it has just written (or given up) is still in `mPendingWriteEventsQueue`.  `Queues.awaiting` is the
queue without that chunk; with it every posted event is accounted for, once and in order.
-/
import Smi240Hal.Lib.Accounting
import Smi240Hal.MultiHal.EventSteps

namespace Smi240Hal.MultiHal

open Smi240Hal.Lib

/-! ## The queues by themselves -/

/-- What of the proxy the order of events depends on. -/
structure Queues where
  quantumCount : Nat
  pending : List (List Event × Nat)
  size : Nat
  thread : PendingWrites
  posted : List Event
  written : List Event
  droppedFull : List Event
  droppedFailed : List Event

/-- The events that wait, oldest first. -/
def pendingEvents (pending : List (List Event × Nat)) : List Event := pending.flatMap Prod.fst

@[simp] theorem pendingEvents_nil : pendingEvents [] = [] := rfl

@[simp] theorem pendingEvents_cons (v : List Event) (num : Nat) (rest : List (List Event × Nat)) :
    pendingEvents ((v, num) :: rest) = v ++ pendingEvents rest := rfl

@[simp] theorem pendingEvents_append (p q : List (List Event × Nat)) :
    pendingEvents (p ++ q) = pendingEvents p ++ pendingEvents q :=
  List.flatMap_append

namespace Queues

/-- The pending events without the chunk that has already been dealt with. -/
def awaiting (q : Queues) : List Event :=
  match q.thread with
  | .relocking _ n => (pendingEvents q.pending).drop n
  | _ => pendingEvents q.pending

/-- The numbers the background thread holds are about the front of the queue. -/
def Chunk (q : Queues) : Prop :=
  match q.thread with
  | .writing num size n =>
      size = q.quantumCount ∧ ∃ v rest, q.pending = (v, num) :: rest ∧ n = min v.length size
  | .relocking size n =>
      size = q.quantumCount ∧ ∃ v num rest, q.pending = (v, num) :: rest ∧ n = min v.length size
  | _ => True

/-- Every posted event is written, awaits its write or was dropped, in posting order and once; the
size counter is right and within its bound. -/
structure Ok (q : Queues) : Prop where
  chunk : q.Chunk
  size_eq : q.size = (pendingEvents q.pending).length
  bound : q.size ≤ kMaxSizePendingWriteEventsQueue
  account : Accounts q.posted (q.written ++ q.awaiting) (q.droppedFull ++ q.droppedFailed)

end Queues

/-- What can happen to the queues. -/
inductive QueueStep : Queues → Queues → Prop
  /-- A post writes `n` events directly, queues or discards the others. -/
  | post {q : Queues} {events discarded : List Event} {queued : List (List Event × Nat)} {n : Nat}
      (hempty : q.pending = [] ∨ n = 0)
      (hleft : pendingEvents queued ++ discarded = events.drop n)
      (hbound : queued = [] ∨
        q.size + (pendingEvents queued).length ≤ kMaxSizePendingWriteEventsQueue) :
      QueueStep q { q with
        pending := q.pending ++ queued
        size := q.size + (pendingEvents queued).length
        posted := q.posted ++ events
        written := q.written ++ events.take n
        droppedFull := q.droppedFull ++ discarded }
  | take {q : Queues} {v : List Event} {num : Nat} {rest : List (List Event × Nat)}
      (hpc : q.thread = .waiting) (hq : q.pending = (v, num) :: rest) :
      QueueStep q { q with
        thread := .writing num q.quantumCount (min v.length q.quantumCount) }
  | write {q : Queues} {v : List Event} {num num' size n : Nat} {rest : List (List Event × Nat)}
      (hpc : q.thread = .writing num' size n) (hq : q.pending = (v, num) :: rest) :
      QueueStep q { q with
        written := q.written ++ v.take n
        thread := .relocking size n }
  | fail {q : Queues} {v : List Event} {num num' size n : Nat} {rest : List (List Event × Nat)}
      (hpc : q.thread = .writing num' size n) (hq : q.pending = (v, num) :: rest) :
      QueueStep q { q with
        droppedFailed := q.droppedFailed ++ v.take n
        thread := .relocking size n }
  | relock {q : Queues} {v : List Event} {num size n : Nat} {rest : List (List Event × Nat)}
      (hpc : q.thread = .relocking size n) (hq : q.pending = (v, num) :: rest) :
      QueueStep q { q with
        pending := if size < v.length then (v.drop size, num) :: rest else rest
        size := subSize q.size n
        thread := .waiting }
  | exit {q : Queues} (hpc : q.thread = .waiting) : QueueStep q { q with thread := .ended }
  | clear {q : Queues} {quantumCount : Nat} (hpc : q.thread = .ended) :
      QueueStep q ⟨quantumCount, [], 0, .ended, [], [], [], []⟩
  | restart {q : Queues} (hpc : q.thread = .ended) : QueueStep q { q with thread := .waiting }

theorem subSize_eq {a b : Nat} (hb : b ≤ a) (ha : a < 2 ^ 64) : subSize a b = a - b := by
  unfold subSize
  omega

namespace Queues

/-- Until the mutex is retaken, the chunk that was dealt with is the front of the first vector. -/
theorem chunk_of_relocking {q : Queues} (h : q.Chunk) {size n : Nat}
    (hpc : q.thread = .relocking size n) :
    ∃ v num rest, q.pending = (v, num) :: rest ∧ n = min v.length size := by
  unfold Chunk at h
  rw [hpc] at h
  exact h.2

theorem chunk_le_pending {q : Queues} (h : q.Chunk) {size n : Nat}
    (hpc : q.thread = .relocking size n) : n ≤ (pendingEvents q.pending).length := by
  obtain ⟨v, num, rest, hq, hn⟩ := chunk_of_relocking h hpc
  rw [hq, pendingEvents_cons, List.length_append]
  omega

theorem awaiting_of_relocking {q : Queues} {v : List Event} {num size n : Nat}
    {rest : List (List Event × Nat)} (hpc : q.thread = .relocking size n)
    (hq : q.pending = (v, num) :: rest) (hn : n = min v.length size) :
    q.awaiting = v.drop n ++ pendingEvents rest := by
  unfold awaiting
  rw [hpc, hq]
  dsimp only
  rw [pendingEvents_cons, List.drop_append_of_le_length (by omega)]

/-- New events join the queue behind everything that awaits its write. -/
theorem awaiting_append {q : Queues} (h : q.Chunk) (queued : List (List Event × Nat)) :
    ({ q with pending := q.pending ++ queued } : Queues).awaiting =
      q.awaiting ++ pendingEvents queued := by
  unfold awaiting
  unfold Chunk at h
  cases hpc : q.thread with
  | relocking size n =>
      rw [hpc] at h
      obtain ⟨_, v, num, rest, hq, hn⟩ := h
      dsimp only
      rw [hq]
      have hle : n ≤ (v ++ pendingEvents rest).length := by
        rw [List.length_append]
        omega
      rw [pendingEvents_append, pendingEvents_cons, List.drop_append_of_le_length hle]
  | waiting => exact pendingEvents_append _ _
  | writing _ _ _ => exact pendingEvents_append _ _
  | ended => exact pendingEvents_append _ _

theorem awaiting_of_pending_nil {q : Queues} (hq : q.pending = []) : q.awaiting = [] := by
  unfold awaiting
  rw [hq]
  split <;> simp

/-- The chunk is at the front of what is pending. -/
theorem chunk_append {q : Queues} {v : List Event} {num size n num' : Nat}
    {rest : List (List Event × Nat)} (h : q.Chunk) (hpc : q.thread = .writing num' size n)
    (hq : q.pending = (v, num) :: rest) :
    size = q.quantumCount ∧ n = min v.length size ∧ num' = num ∧
      q.awaiting = v.take n ++ (pendingEvents q.pending).drop n := by
  unfold Chunk at h
  rw [hpc] at h
  obtain ⟨hsize, v', rest', hq', hn⟩ := h
  rw [hq] at hq'
  cases hq'
  refine ⟨hsize, hn, rfl, ?_⟩
  have htake : v.take n = (pendingEvents q.pending).take n := by
    rw [hq, pendingEvents_cons, List.take_append_of_le_length (by omega)]
  unfold awaiting
  rw [hpc, htake, List.take_append_drop]

theorem ok_post {q : Queues} (h : q.Ok) {events discarded : List Event}
    {queued : List (List Event × Nat)} {n : Nat} (hempty : q.pending = [] ∨ n = 0)
    (hleft : pendingEvents queued ++ discarded = events.drop n)
    (hbound : queued = [] ∨
      q.size + (pendingEvents queued).length ≤ kMaxSizePendingWriteEventsQueue) :
    Ok { q with
      pending := q.pending ++ queued
      size := q.size + (pendingEvents queued).length
      posted := q.posted ++ events
      written := q.written ++ events.take n
      droppedFull := q.droppedFull ++ discarded } where
  chunk := by
    have hchunk := h.chunk
    unfold Chunk at hchunk ⊢
    dsimp only
    split
    case h_1 num size n' hpc =>
      rw [hpc] at hchunk
      obtain ⟨hsize, v, rest, hq, hn⟩ := hchunk
      exact ⟨hsize, v, rest ++ queued, by rw [hq]; rfl, hn⟩
    case h_2 size n' hpc =>
      rw [hpc] at hchunk
      obtain ⟨hsize, v, num, rest, hq, hn⟩ := hchunk
      exact ⟨hsize, v, num, rest ++ queued, by rw [hq]; rfl, hn⟩
    case h_3 => trivial
  size_eq := by
    show q.size + _ = (pendingEvents (q.pending ++ queued)).length
    rw [pendingEvents_append, List.length_append, h.size_eq]
  bound := by
    show q.size + (pendingEvents queued).length ≤ _
    rcases hbound with rfl | hbound
    · exact h.bound
    · exact hbound
  account := by
    have hawait : ({ q with
        pending := q.pending ++ queued
        size := q.size + (pendingEvents queued).length
        posted := q.posted ++ events
        written := q.written ++ events.take n
        droppedFull := q.droppedFull ++ discarded } : Queues).awaiting =
        q.awaiting ++ pendingEvents queued := awaiting_append h.chunk queued
    rw [hawait]
    -- either nothing is pending or nothing is written directly
    have hmove : q.awaiting ++ events.take n = events.take n ++ q.awaiting := by
      rcases hempty with hq | rfl
      · rw [awaiting_of_pending_nil hq, List.nil_append, List.append_nil]
      · rw [List.take_zero, List.nil_append, List.append_nil]
    have hkept : (q.written ++ events.take n ++ (q.awaiting ++ pendingEvents queued)) ++ discarded =
        (q.written ++ q.awaiting) ++ events := by
      calc (q.written ++ events.take n ++ (q.awaiting ++ pendingEvents queued)) ++ discarded
          = q.written ++ ((events.take n ++ q.awaiting) ++ (pendingEvents queued ++ discarded)) := by
            simp only [List.append_assoc]
        _ = q.written ++ ((q.awaiting ++ events.take n) ++ events.drop n) := by
            rw [hmove, hleft]
        _ = (q.written ++ q.awaiting) ++ events := by
            rw [List.append_assoc q.awaiting, List.take_append_drop, List.append_assoc]
    apply (h.account.extend (Accounts.dropNewest hkept)).congrLost
    show (q.droppedFull ++ q.droppedFailed ++ discarded).Perm
      (q.droppedFull ++ discarded ++ q.droppedFailed)
    rw [List.append_assoc, List.append_assoc]
    exact List.Perm.append_left _ List.perm_append_comm

/-- After the write the chunk counts as written, and no longer as awaiting. -/
theorem ok_write {q : Queues} (h : q.Ok) {v : List Event} {num num' size n : Nat}
    {rest : List (List Event × Nat)} (hpc : q.thread = .writing num' size n)
    (hq : q.pending = (v, num) :: rest) :
    Ok { q with written := q.written ++ v.take n, thread := .relocking size n } := by
  obtain ⟨hsize, hn, _, hawait⟩ := chunk_append h.chunk hpc hq
  refine ⟨⟨hsize, v, num, rest, hq, hn⟩, h.size_eq, h.bound, ?_⟩
  show Accounts q.posted (q.written ++ v.take n ++ (pendingEvents q.pending).drop n) _
  rw [List.append_assoc, ← hawait]
  exact h.account

/-- After a failed write the chunk is lost. -/
theorem ok_fail {q : Queues} (h : q.Ok) {v : List Event} {num num' size n : Nat}
    {rest : List (List Event × Nat)} (hpc : q.thread = .writing num' size n)
    (hq : q.pending = (v, num) :: rest) :
    Ok { q with droppedFailed := q.droppedFailed ++ v.take n, thread := .relocking size n } := by
  obtain ⟨hsize, hn, _, hawait⟩ := chunk_append h.chunk hpc hq
  refine ⟨⟨hsize, v, num, rest, hq, hn⟩, h.size_eq, h.bound, ?_⟩
  have hlost : Accounts (q.written ++ q.awaiting)
      (q.written ++ (pendingEvents q.pending).drop n) ([] ++ v.take n) :=
    (Accounts.refl q.written).append (Accounts.dropOldest hawait.symm)
  apply (h.account.trans hlost).congrLost
  rw [List.nil_append, List.append_assoc]

/-- When the chunk leaves the queue, what awaits its write stays the same. -/
theorem pending_relock {q : Queues} (h : q.Chunk) {v : List Event} {num size n : Nat}
    {rest : List (List Event × Nat)} (hpc : q.thread = .relocking size n)
    (hq : q.pending = (v, num) :: rest) :
    n ≤ (pendingEvents q.pending).length ∧
      pendingEvents (if size < v.length then (v.drop size, num) :: rest else rest) = q.awaiting := by
  refine ⟨chunk_le_pending h hpc, ?_⟩
  obtain ⟨v', num', rest', hq', hn⟩ := chunk_of_relocking h hpc
  rw [hq] at hq'
  cases hq'
  rw [awaiting_of_relocking hpc hq hn]
  split
  case isTrue hlt =>
    -- the code drops `size` events, and a chunk of a longer vector is that long
    have hsize : n = size := by omega
    rw [hsize]
    rfl
  case isFalse hge =>
    have hall : v.drop n = [] := List.drop_eq_nil_of_le (by omega)
    rw [hall]
    rfl

/-- The chunk leaves the queue. -/
theorem ok_relock {q : Queues} (h : q.Ok) {v : List Event} {num size n : Nat}
    {rest : List (List Event × Nat)} (hpc : q.thread = .relocking size n)
    (hq : q.pending = (v, num) :: rest) :
    Ok { q with
      pending := if size < v.length then (v.drop size, num) :: rest else rest
      size := subSize q.size n
      thread := .waiting } := by
  obtain ⟨hle, hleft⟩ := pending_relock h.chunk hpc hq
  have hbound := h.bound
  rw [← h.size_eq] at hle
  have hsub : subSize q.size n = q.size - n :=
    subSize_eq hle (by unfold kMaxSizePendingWriteEventsQueue at hbound; omega)
  have hdrop : q.awaiting = (pendingEvents q.pending).drop n := by
    unfold awaiting
    rw [hpc]
  refine ⟨trivial, ?_, ?_, ?_⟩
  · show subSize q.size n = _
    rw [hsub, hleft, hdrop, List.length_drop, h.size_eq]
  · show subSize q.size n ≤ _
    omega
  · show Accounts q.posted (q.written ++ pendingEvents _) _
    rw [hleft]
    exact h.account

/-- The thread is between two rounds, before and after. -/
theorem ok_idle {q : Queues} (h : q.Ok) {pc : PendingWrites}
    (hold : q.awaiting = pendingEvents q.pending) (hpc : pc = .waiting ∨ pc = .ended) :
    Ok { q with thread := pc } := by
  have hacc := h.account
  rw [hold] at hacc
  rcases hpc with rfl | rfl
  · exact ⟨trivial, h.size_eq, h.bound, hacc⟩
  · exact ⟨trivial, h.size_eq, h.bound, hacc⟩

theorem ok_step {q r : Queues} (h : q.Ok) (hstep : QueueStep q r) : r.Ok := by
  cases hstep with
  | post hempty hleft hbound => exact ok_post h hempty hleft hbound
  | @take v num rest hpc hq =>
      refine ⟨⟨rfl, v, rest, hq, rfl⟩, h.size_eq, h.bound, ?_⟩
      have hacc := h.account
      unfold awaiting at hacc
      rw [hpc] at hacc
      exact hacc
  | write hpc hq => exact ok_write h hpc hq
  | fail hpc hq => exact ok_fail h hpc hq
  | relock hpc hq => exact ok_relock h hpc hq
  | exit hpc => exact ok_idle h (by unfold awaiting; rw [hpc]) (Or.inr rfl)
  | clear hpc => exact ⟨trivial, rfl, Nat.zero_le _, Accounts.refl []⟩
  | restart hpc => exact ok_idle h (by unfold awaiting; rw [hpc]) (Or.inl rfl)

end Queues

/-! ## The program moves its events like that -/

namespace Proxy

/-- That part of a proxy. -/
def queues (s : Proxy) : Queues where
  quantumCount := s.mEventQueue.quantumCount
  pending := s.mPendingWriteEventsQueue
  size := s.mSizePendingWriteEventsQueue
  thread := s.pendingWritesThread
  posted := s.session.posted
  written := s.session.written
  droppedFull := s.session.droppedFull
  droppedFailed := s.session.droppedFailed

/-- The pending events that have been neither written nor given up. -/
def awaiting (s : Proxy) : List Event := s.queues.awaiting

/-- Outside the window before the relock, that is the pending queue. -/
theorem awaiting_eq {s : Proxy} (hpc : ∀ size n, s.pendingWritesThread ≠ .relocking size n) :
    s.awaiting = pendingEvents s.mPendingWriteEventsQueue := by
  unfold awaiting Queues.awaiting
  split
  case h_1 size n hrelock => exact absurd hrelock (hpc size n)
  case h_2 => rfl

/-- The chunk in a blocking write and what awaits its write behind it. -/
theorem countP_awaiting {s : Proxy} (h : s.queues.Ok) {v : List Event} {num size n num' : Nat}
    {rest : List (List Event × Nat)} (hpc : s.pendingWritesThread = .writing num' size n)
    (hq : s.mPendingWriteEventsQueue = (v, num) :: rest) (p : Event → Bool) :
    s.awaiting.countP p = (v.take n).countP p +
      ((pendingEvents s.mPendingWriteEventsQueue).drop n).countP p := by
  obtain ⟨_, _, _, hawait⟩ := Queues.chunk_append h.chunk hpc hq
  exact (congrArg (List.countP p) hawait).trans List.countP_append

/-- While `initializeCommon` is at work the threads are told to stop, and they are gone while it
replaces the queues. -/
structure Phases (s : Proxy) : Prop where
  stopped : s.initializing ≠ .notRunning → s.mThreadsRun = false
  joined : s.initializing = .wakelockReset ∨ s.initializing = .cleared →
    s.pendingWritesThread = .ended ∧ s.wakelockThread = .ended

@[simp] theorem queues_decrement (s : Proxy) (delta : Nat) (timeoutStart : Int) :
    (s.decrementRefCountAndMaybeReleaseWakelock delta timeoutStart).queues = s.queues := by
  rw [decrement_eq]
  rfl

theorem queues_resetSharedWakelock (s : Proxy) (now : Int) :
    (s.resetSharedWakelock now).queues = s.queues :=
  queues_decrement s s.mWakelockRefCount (-1)

theorem queued_append_discarded (s : Proxy) (eventsLeft : List Event) (num : Nat) :
    pendingEvents (s.queuedPart eventsLeft num) ++ s.discardedPart eventsLeft = eventsLeft := by
  unfold queuedPart discardedPart
  split
  · simp
  · simp

theorem queuedPart_bound (s : Proxy) (eventsLeft : List Event) (num : Nat) :
    s.queuedPart eventsLeft num = [] ∨ s.mSizePendingWriteEventsQueue +
      (pendingEvents (s.queuedPart eventsLeft num)).length ≤ kMaxSizePendingWriteEventsQueue := by
  unfold queuedPart
  split
  case isTrue hfits =>
    apply Or.inr
    rw [pendingEvents_cons, pendingEvents_nil, List.append_nil]
    exact hfits.2
  case isFalse => exact Or.inl rfl

theorem queues_afterPost (s : Proxy) (p : Posting) (writeSucceeds : Bool) (now : Int) :
    QueueStep s.queues (s.afterPost p (s.numToWrite p.events writeSucceeds) now).queues :=
  .post (numToWrite_spec s p.events writeSucceeds).2 (queued_append_discarded s _ _)
    (queuedPart_bound s _ _)

/-- Every step of the program is a step of the queues, or leaves them alone. -/
theorem queues_step {env : Env} {s t : Proxy} {a : ProxyAct} (hphases : s.Phases)
    (h : s.step env a = some t) : t.queues = s.queues ∨ QueueStep s.queues t.queues := by
  cases step_cases h with
  | created => exact Or.inl rfl
  | createdUnlocked => exact Or.inl rfl
  | destroyed => exact Or.inl (queues_decrement _ _ _)
  | postRefused => exact Or.inl rfl
  | postStarted => exact Or.inl rfl
  | @posted k p writeSucceeds now => exact Or.inr (queues_afterPost s p writeSucceeds now)
  | returned => exact Or.inl (queues_decrement _ _ _)
  | taken hpc hq => exact Or.inr (.take hpc hq)
  | wrote hpc hq => exact Or.inr (.write hpc hq)
  | failed hpc hq =>
      apply Or.inr
      rw [queues_decrement]
      exact .fail hpc hq
  | relocked hpc hq => exact Or.inr (.relock hpc hq)
  | ended hpc => exact Or.inr (.exit hpc)
  | timedOut => exact Or.inl (queues_resetSharedWakelock _ _)
  | reads => exact Or.inl rfl
  | ackRead => exact Or.inl rfl
  | ackNotRead => exact Or.inl rfl
  | ackProcessed =>
      rw [decrement_eq]
      exact Or.inl rfl
  | @wakelocksEnded now => exact Or.inl (queues_resetSharedWakelock s now)
  | received => exact Or.inl rfl
  | acked => exact Or.inl rfl
  | stopped => exact Or.inl rfl
  | @joined now => exact Or.inl (queues_resetSharedWakelock s now)
  | @cleared quantumCount hi =>
      -- the queues are replaced only after the thread has been joined
      have hpc : s.queues.thread = .ended := (hphases.joined (Or.inl hi)).1
      have hstep : QueueStep s.queues ⟨quantumCount, [], 0, .ended, [], [], [], []⟩ := .clear hpc
      rw [← hpc] at hstep
      exact Or.inr hstep
  | restarted hi => exact Or.inr (.restart (hphases.joined (Or.inr hi)).1)

theorem phases_step {env : Env} {s t : Proxy} {a : ProxyAct} (hs : s.Phases)
    (h : s.step env a = some t) : t.Phases := by
  -- a thread that is still at work rules out that the threads have been joined
  have hpw : s.pendingWritesThread ≠ .ended → ∀ {P : Prop},
      s.initializing = .wakelockReset ∨ s.initializing = .cleared → P :=
    fun hne _ hi => absurd (hs.joined hi).1 hne
  have hwl : s.wakelockThread ≠ .ended → ∀ {P : Prop},
      s.initializing = .wakelockReset ∨ s.initializing = .cleared → P :=
    fun hne _ hi => absurd (hs.joined hi).2 hne
  cases step_cases h with
  | created => exact { hs with }
  | createdUnlocked => exact hs
  | destroyed =>
      rw [decrement_eq]
      exact { hs with }
  | postRefused => exact { hs with }
  | postStarted => exact { hs with }
  | posted => exact { hs with }
  | returned =>
      rw [decrement_eq]
      exact { hs with }
  | taken hpc => exact { hs with joined := hpw (by rw [hpc]; nofun) }
  | wrote hpc => exact { hs with joined := hpw (by rw [hpc]; nofun) }
  | failed hpc =>
      rw [decrement_eq]
      exact { hs with joined := hpw (by rw [hpc]; nofun) }
  | relocked hpc => exact { hs with joined := hpw (by rw [hpc]; nofun) }
  | ended => exact { hs with joined := fun hi => ⟨rfl, (hs.joined hi).2⟩ }
  | timedOut =>
      unfold resetSharedWakelock
      rw [decrement_eq]
      exact { hs with }
  | reads hpc => exact { hs with joined := hwl (by rw [hpc]; nofun) }
  | ackRead hpc => exact { hs with joined := hwl (by rw [hpc]; nofun) }
  | ackNotRead hpc => exact { hs with joined := hwl (by rw [hpc]; nofun) }
  | ackProcessed hpc =>
      rw [decrement_eq]
      exact { hs with joined := hwl (by rw [hpc]; nofun) }
  | wakelocksEnded =>
      unfold resetSharedWakelock
      rw [decrement_eq]
      exact { hs with joined := fun hi => ⟨(hs.joined hi).1, rfl⟩ }
  | received => exact { hs with }
  | acked => exact { hs with }
  | stopped => exact ⟨fun _ => rfl, by nofun⟩
  | joined hi hpw hwl =>
      unfold resetSharedWakelock
      rw [decrement_eq]
      exact ⟨fun _ => hs.stopped (by rw [hi]; nofun), fun _ => ⟨hpw, hwl⟩⟩
  | cleared hi =>
      exact ⟨fun _ => hs.stopped (by rw [hi]; nofun), fun _ => hs.joined (Or.inl hi)⟩
  | restarted => exact ⟨fun hne => absurd rfl hne, by nofun⟩

theorem phases_construct (env : Env) (now : Int) : (Proxy.construct env now).Phases :=
  ⟨fun hne => absurd rfl hne, fun _ => ⟨rfl, rfl⟩⟩

theorem phases_of_reach {env : Env} {s : Proxy} (h : (proxy env).Reach s) : s.Phases := by
  refine Machine.Reach.invariant (P := Phases) ?_ (fun _ _ _ => phases_step) h
  rintro s ⟨now, rfl⟩
  exact phases_construct env now

theorem queues_ok {env : Env} {s : Proxy} (h : (proxy env).Reach s) : s.queues.Ok := by
  refine Machine.Reach.invariant_of_reach (P := fun s : Proxy => s.queues.Ok) ?_ ?_ h
  · rintro s ⟨now, rfl⟩
    exact ⟨trivial, rfl, Nat.zero_le _, Accounts.refl []⟩
  · intro s a t hs hok hstep
    rcases queues_step (phases_of_reach hs) hstep with heq | hq
    · rw [heq]
      exact hok
    · exact Queues.ok_step hok hq

end Proxy

/-! ## Every posted event -/

/-- The step from `s` by `a` to `t` drops `full` for want of room and `failed` after a failed write. -/
structure Drops (s : Proxy) (a : ProxyAct) (t : Proxy) (full failed : List Event) : Prop where
  droppedFull : t.session.droppedFull = s.session.droppedFull ++ full
  droppedFailed : t.session.droppedFailed = s.session.droppedFailed ++ failed
  noRoom : full ≠ [] → (∃ k writeSucceeds now, a = .postWaiting k writeSucceeds now) ∧
    kMaxSizePendingWriteEventsQueue < s.mSizePendingWriteEventsQueue + full.length
  writeFailed : failed ≠ [] → a = .pendingFailed

theorem drops_nothing {s t : Proxy} {a : ProxyAct} (h : t.queues = s.queues) : Drops s a t [] [] where
  droppedFull := (congrArg Queues.droppedFull h).trans (List.append_nil _).symm
  droppedFailed := (congrArg Queues.droppedFailed h).trans (List.append_nil _).symm
  noRoom hne := absurd rfl hne
  writeFailed hne := absurd rfl hne

theorem discardedPart_noRoom {s : Proxy} {eventsLeft : List Event}
    (hne : s.discardedPart eventsLeft ≠ []) : kMaxSizePendingWriteEventsQueue <
      s.mSizePendingWriteEventsQueue + (s.discardedPart eventsLeft).length := by
  unfold Proxy.discardedPart at hne ⊢
  split at hne
  case isTrue => exact absurd rfl hne
  case isFalse hfits =>
    rw [if_neg hfits]
    exact Proxy.noRoom_of_not_fits hfits hne

/-- What a step drops, it drops for one of the two reasons; replacing the queues starts a new
history. -/
theorem drops_step {env : Env} {s t : Proxy} {a : ProxyAct} (h : s.step env a = some t)
    (hkeep : ∀ quantumCount, a ≠ .clearQueues quantumCount) :
    ∃ full failed, Drops s a t full failed := by
  have hsame : ∀ {u : Proxy}, u.session.droppedFull = s.session.droppedFull →
      u.session.droppedFailed = s.session.droppedFailed → ∃ full failed, Drops s a u full failed :=
    fun hfull hfailed => ⟨[], [], hfull.trans (List.append_nil _).symm,
      hfailed.trans (List.append_nil _).symm, absurd rfl, absurd rfl⟩
  cases Proxy.step_cases h with
  | created => exact hsame rfl rfl
  | createdUnlocked => exact hsame rfl rfl
  | destroyed => exact ⟨[], [], drops_nothing (Proxy.queues_decrement _ _ _)⟩
  | postRefused => exact hsame rfl rfl
  | postStarted => exact hsame rfl rfl
  | @posted k p writeSucceeds now =>
      exact ⟨_, [], rfl, (List.append_nil _).symm,
        fun hne => ⟨⟨k, writeSucceeds, now, rfl⟩, discardedPart_noRoom hne⟩, absurd rfl⟩
  | returned => exact ⟨[], [], drops_nothing (Proxy.queues_decrement _ _ _)⟩
  | taken => exact hsame rfl rfl
  | wrote => exact hsame rfl rfl
  | failed =>
      rw [Proxy.decrement_eq]
      exact ⟨[], _, (List.append_nil _).symm, rfl, absurd rfl, fun _ => rfl⟩
  | relocked => exact hsame rfl rfl
  | ended => exact hsame rfl rfl
  | timedOut => exact ⟨[], [], drops_nothing (Proxy.queues_resetSharedWakelock _ _)⟩
  | reads => exact hsame rfl rfl
  | ackRead => exact hsame rfl rfl
  | ackNotRead => exact hsame rfl rfl
  | ackProcessed => exact hsame rfl rfl
  | @wakelocksEnded now => exact ⟨[], [], drops_nothing (Proxy.queues_resetSharedWakelock s now)⟩
  | received => exact hsame rfl rfl
  | acked => exact hsame rfl rfl
  | stopped => exact hsame rfl rfl
  | @joined now => exact ⟨[], [], drops_nothing (Proxy.queues_resetSharedWakelock s now)⟩
  | @cleared quantumCount => exact absurd rfl (hkeep quantumCount)
  | restarted => exact hsame rfl rfl

/-- In every reachable state, so for every interleaving of posts, background writes and framework
reads since the queues were last replaced:

* what was written, followed by what awaits its write, is in posting order a part of what was
  posted, and every posted event is in exactly one of written, awaiting and dropped;
* what awaits its write is `mPendingWriteEventsQueue`, without the chunk at its front while the
  background thread has dealt with that chunk and not yet retaken the mutex;
* events are dropped only when they do not fit under the bound, and by a failed blocking write;
* the size counter is right and within the bound. -/
theorem events_accounted {env : Env} {s : Proxy} (h : (proxy env).Reach s) :
    Accounts s.session.posted (s.session.written ++ s.awaiting)
      (s.session.droppedFull ++ s.session.droppedFailed) ∧
    ((∀ size n, s.pendingWritesThread ≠ .relocking size n) →
      s.awaiting = pendingEvents s.mPendingWriteEventsQueue) ∧
    (∀ size n, s.pendingWritesThread = .relocking size n →
      ∃ v num rest, s.mPendingWriteEventsQueue = (v, num) :: rest ∧ n = min v.length size ∧
        s.awaiting = v.drop n ++ pendingEvents rest) ∧
    (∀ a t, s.step env a = some t → (∀ quantumCount, a ≠ .clearQueues quantumCount) →
      ∃ full failed, Drops s a t full failed) ∧
    s.mSizePendingWriteEventsQueue = (pendingEvents s.mPendingWriteEventsQueue).length ∧
    s.mSizePendingWriteEventsQueue ≤ kMaxSizePendingWriteEventsQueue := by
  have hok := Proxy.queues_ok h
  refine ⟨hok.account, Proxy.awaiting_eq, fun size n hpc => ?_, fun a t => drops_step, hok.size_eq,
    hok.bound⟩
  · have hthread : s.queues.thread = .relocking size n := hpc
    obtain ⟨v, num, rest, hq, hn⟩ := Queues.chunk_of_relocking hok.chunk hthread
    exact ⟨v, num, rest, hq, hn, Queues.awaiting_of_relocking hthread hq hn⟩

/-- Two events are posted; the event FMQ has room for one, so the second is written in the
background once the framework has read the first. -/
def secondEventWaits : List ProxyAct :=
  [.stopThreads, .resetAfterJoin 1, .clearQueues 1, .restartThreads,
    .postEvents 0 [⟨5, 1, 1, 0, []⟩] none, .postWaiting 0 true 6,
    .postEvents 0 [⟨7, 1, 1, 0, []⟩] none, .postWaiting 0 true 8,
    .pendingTake, .frameworkRead 1, .pendingWritten]

/-- One sub-HAL without sensors. -/
def plainEnv : Env := ⟨[some []], fun _ => false, 1000000000⟩

/-- After the blocking write the second event is both written and in `mPendingWriteEventsQueue`. -/
theorem written_event_still_pending : ∃ s,
    (proxy plainEnv).run (.construct plainEnv 0) secondEventWaits = some s ∧
      (⟨7, 1, 1, 0, []⟩ : Event) ∈ s.session.written ∧
      (⟨7, 1, 1, 0, []⟩ : Event) ∈ pendingEvents s.mPendingWriteEventsQueue ∧
      ¬ Accounts s.session.posted
        (s.session.written ++ pendingEvents s.mPendingWriteEventsQueue)
        (s.session.droppedFull ++ s.session.droppedFailed) := by
  refine ⟨_, rfl, by decide, by decide, fun h => ?_⟩
  have hlen := h.split.length_eq
  exact absurd hlen (by decide)

theorem events_accounted_second_waits : ∃ s,
    (proxy plainEnv).run (.construct plainEnv 0) secondEventWaits = some s ∧
      s.session.written = [⟨5, 1, 1, 0, []⟩, ⟨7, 1, 1, 0, []⟩] ∧
      Accounts s.session.posted (s.session.written ++ s.awaiting)
        (s.session.droppedFull ++ s.session.droppedFailed) := by
  have hstart : (proxy plainEnv).Reach (.construct plainEnv 0) := .start ⟨0, rfl⟩
  have hrun : (proxy plainEnv).run (.construct plainEnv 0) secondEventWaits = some _ := rfl
  exact ⟨_, hrun, rfl, (events_accounted (hstart.of_run hrun)).1⟩

end Smi240Hal.MultiHal
