/-
# Smi240Hal.MultiHal.Backlog — what has been posted gets through

While nothing new is posted and the framework goes on reading, the posts that wait for the mutex, the
background thread and the framework have only so much to do.  An event that is still queued costs
three steps of the background thread at most and one read of the framework; the number of events
bounds the steps.

Where none of these steps is possible any more, nothing is left on the way.
-/
import Smi240Hal.Lib.Progress
import Smi240Hal.MultiHal.PendingSize

namespace Smi240Hal.MultiHal

open Smi240Hal.Lib

/-! ## The event FMQ -/

namespace Proxy

/-- `mEventQueue` is the FMQ the framework reads and no `initializeCommon` is about to replace it. -/
def InUse (s : Proxy) : Prop := s.initializing = .notRunning ∨ s.initializing = .cleared

/-- The FMQ holds no more than it can, and as long as it is in use, what was written to it and not
read. -/
structure FmqOk (s : Proxy) : Prop where
  fits : s.mEventQueue.data.length ≤ s.mEventQueue.quantumCount
  written : s.InUse → s.session.received ++ s.mEventQueue.data = s.session.written

theorem FmqOk.writeEvents {s : Proxy} (hs : s.FmqOk) {events : List Event}
    (hroom : events.length ≤ s.mEventQueue.availableToWrite) : (s.writeEvents events).FmqOk := by
  have hfits := hs.fits
  unfold Fmq.availableToWrite at hroom
  refine ⟨?_, fun hi => ?_⟩
  · show (s.mEventQueue.data ++ events).length ≤ s.mEventQueue.quantumCount
    rw [List.length_append]
    omega
  · show s.session.received ++ (s.mEventQueue.data ++ events) = s.session.written ++ events
    rw [← hs.written hi, List.append_assoc]

theorem length_take_numToWrite (s : Proxy) (events : List Event) (writeSucceeds : Bool) :
    (events.take (s.numToWrite events writeSucceeds)).length ≤ s.mEventQueue.availableToWrite := by
  rw [List.length_take]
  unfold numToWrite
  split
  · omega
  · omega

theorem fmqOk_step {env : Env} {s t : Proxy} {a : ProxyAct} (hs : s.FmqOk)
    (h : s.step env a = some t) : t.FmqOk := by
  cases step_cases h with
  | created => exact { hs with }
  | createdUnlocked => exact hs
  | destroyed =>
      rw [decrement_eq]
      exact { hs with }
  | postRefused => exact { hs with }
  | postStarted => exact { hs with }
  | @posted k p writeSucceeds now =>
      exact { hs.writeEvents (length_take_numToWrite s p.events writeSucceeds) with }
  | returned =>
      rw [decrement_eq]
      exact { hs with }
  | taken => exact { hs with }
  | @wrote v num num' size n rest hpc hq hroom =>
      have hle : (v.take n).length ≤ s.mEventQueue.availableToWrite :=
        Nat.le_trans (List.length_take_le n v) hroom
      exact { hs.writeEvents hle with }
  | failed =>
      rw [decrement_eq]
      exact { hs with }
  | relocked => exact { hs with }
  | ended => exact { hs with }
  | timedOut =>
      unfold resetSharedWakelock
      rw [decrement_eq]
      exact { hs with }
  | reads => exact { hs with }
  | ackRead => exact { hs with }
  | ackNotRead => exact { hs with }
  | ackProcessed =>
      rw [decrement_eq]
      exact { hs with }
  | wakelocksEnded =>
      unfold resetSharedWakelock
      rw [decrement_eq]
      exact { hs with }
  | @received n hn =>
      refine ⟨?_, fun hi => ?_⟩
      · show (s.mEventQueue.data.drop n).length ≤ s.mEventQueue.quantumCount
        have hfits := hs.fits
        rw [List.length_drop]
        omega
      · show s.session.received ++ s.mEventQueue.data.take n ++ s.mEventQueue.data.drop n =
          s.session.written
        rw [List.append_assoc, List.take_append_drop]
        exact hs.written hi
  | acked => exact { hs with }
  | stopped => exact ⟨Nat.zero_le _, by rintro (hi | hi) <;> cases hi⟩
  | joined =>
      unfold resetSharedWakelock
      rw [decrement_eq]
      exact ⟨hs.fits, by rintro (hi | hi) <;> cases hi⟩
  | cleared => exact ⟨Nat.zero_le _, fun _ => rfl⟩
  | restarted hi => exact ⟨hs.fits, fun _ => hs.written (Or.inr hi)⟩

theorem fmqOk_of_reach {env : Env} {s : Proxy} (h : (proxy env).Reach s) : s.FmqOk := by
  refine Machine.Reach.invariant (P := FmqOk) ?_ (fun _ _ _ => fmqOk_step) h
  rintro s ⟨now, rfl⟩
  exact ⟨Nat.zero_le _, fun _ => rfl⟩

end Proxy

/-! ## The threads that run -/

namespace Proxy

/-- Between two calls of `initializeCommon` the threads run, once they have been started. -/
def Alive (s : Proxy) : Prop :=
  s.initializing = .notRunning → s.mThreadsRun = true ∧
    (s.callbackSet = true → s.pendingWritesThread ≠ .ended ∧ s.wakelockThread ≠ .ended)

theorem alive_step {env : Env} {s t : Proxy} {a : ProxyAct} (hs : s.Alive)
    (h : s.step env a = some t) : t.Alive := by
  cases step_cases h with
  | created | createdUnlocked | postRefused | postStarted | posted | received | acked => exact hs
  | destroyed | returned =>
      rw [decrement_eq]
      exact hs
  | timedOut =>
      unfold resetSharedWakelock
      rw [decrement_eq]
      exact hs
  | taken | wrote | relocked =>
      exact fun hi => ⟨(hs hi).1, fun hset => ⟨nofun, ((hs hi).2 hset).2⟩⟩
  | failed =>
      rw [decrement_eq]
      exact fun hi => ⟨(hs hi).1, fun hset => ⟨nofun, ((hs hi).2 hset).2⟩⟩
  | reads | ackRead | ackNotRead =>
      exact fun hi => ⟨(hs hi).1, fun hset => ⟨((hs hi).2 hset).1, nofun⟩⟩
  | ackProcessed =>
      rw [decrement_eq]
      exact fun hi => ⟨(hs hi).1, fun hset => ⟨((hs hi).2 hset).1, nofun⟩⟩
  -- the threads end only when they are told to stop
  | ended hpc hstopped | wakelocksEnded hpc hstopped =>
      intro hi
      have hup : s.initializing = .notRunning := by
        simpa [resetSharedWakelock, decrement_eq] using hi
      exact absurd (hstopped.symm.trans (hs hup).1) nofun
  | stopped => exact fun hi => absurd hi nofun
  | joined => exact fun hi => absurd hi nofun
  | cleared => exact fun hi => absurd hi nofun
  | restarted => exact fun _ => ⟨rfl, fun _ => ⟨nofun, nofun⟩⟩

theorem alive_of_reach {env : Env} {s : Proxy} (h : (proxy env).Reach s) : s.Alive := by
  refine Machine.Reach.invariant (P := Alive) ?_ (fun _ _ _ => alive_step) h
  rintro s ⟨now, rfl⟩
  exact fun _ => ⟨rfl, fun hset => absurd hset nofun⟩

end Proxy

/-! ## What is left to do -/

/-- A step that finishes something. -/
def ProxyAct.Drains : ProxyAct → Prop
  | .postWaiting _ _ _ | .postReturns _ | .pendingTake | .pendingWritten | .pendingFailed |
    .pendingRelock => True
  | .frameworkRead n => 0 < n
  | _ => False

/-- How far the background thread is with its chunk. -/
def PendingWrites.stepsLeft : PendingWrites → Nat
  | .relocking _ _ => 3
  | .waiting => 2
  | .writing _ _ _ => 1
  | .ended => 0

namespace Proxy

/-- The steps that are left until every event posted has been written, at most. -/
def backlog (s : Proxy) : Nat :=
  (s.posting.map fun p => 4 * p.events.length + 2).sum + s.returning.length +
    4 * s.awaiting.length + s.pendingWritesThread.stepsLeft + s.mEventQueue.data.length

theorem sum_posting {posting : List Posting} {k : Nat} {p : Posting} (f : Posting → Nat)
    (hk : posting[k]? = some p) : (posting.map f).sum = f p + ((posting.eraseIdx k).map f).sum :=
  ((perm_cons_eraseIdx hk).map f).sum_nat

/-- A post that gets the mutex leaves less to do. -/
theorem backlog_posted {s : Proxy} (hq : s.queues.Ok) {k : Nat} {p : Posting}
    (hk : s.posting[k]? = some p) (writeSucceeds : Bool) (now : Int) :
    ({ s with
      posting := s.posting.eraseIdx k
      returning := p.wakelock.toList ++ s.returning }.afterPost p
        (s.numToWrite p.events writeSucceeds) now).backlog < s.backlog := by
  set n := s.numToWrite p.events writeSucceeds with hn
  have hle : n ≤ p.events.length := (numToWrite_spec s p.events writeSucceeds).1
  have hposting := sum_posting (fun p => 4 * p.events.length + 2) hk
  have hqueued : (pendingEvents (s.queuedPart (p.events.drop n) p.numWakeupEvents)).length ≤
      p.events.length - n := by
    have hsplit := congrArg List.length
      (queued_append_discarded s (p.events.drop n) p.numWakeupEvents)
    rw [List.length_append, List.length_drop] at hsplit
    omega
  have hawaiting : ({ s with
      posting := s.posting.eraseIdx k
      returning := p.wakelock.toList ++ s.returning }.afterPost p n now).awaiting =
      s.awaiting ++ pendingEvents (s.queuedPart (p.events.drop n) p.numWakeupEvents) :=
    Queues.awaiting_append hq.chunk _
  have hdata : (s.mEventQueue.data ++ p.events.take n).length = s.mEventQueue.data.length + n := by
    rw [List.length_append, List.length_take]
    omega
  have hreturning : (p.wakelock.toList ++ s.returning).length ≤ 1 + s.returning.length := by
    rw [List.length_append]
    cases p.wakelock <;> simp
  unfold backlog
  rw [hawaiting, hposting, List.length_append]
  show _ + (p.wakelock.toList ++ s.returning).length + _ + s.pendingWritesThread.stepsLeft +
    (s.mEventQueue.data ++ p.events.take n).length < _
  rw [hdata]
  show ((s.posting.eraseIdx k).map fun p => 4 * p.events.length + 2).sum + _ + _ + _ + _ < _
  omega

/-- The background thread deals with at least one event of a vector at a time. -/
theorem chunk_pos {s : Proxy} (hq : s.queues.Ok) (hne : s.NoEmptyVector)
    (hcapacity : 0 < s.mEventQueue.quantumCount) {v : List Event} {num num' size n : Nat}
    {rest : List (List Event × Nat)} (hpc : s.pendingWritesThread = .writing num' size n)
    (hqueue : s.mPendingWriteEventsQueue = (v, num) :: rest) :
    0 < n ∧ n ≤ s.mEventQueue.quantumCount ∧ (v.take n).length = n ∧
      s.awaiting = v.take n ++ (pendingEvents s.mPendingWriteEventsQueue).drop n := by
  obtain ⟨hsize, hn, -, hawaiting⟩ := Queues.chunk_append hq.chunk hpc hqueue
  have hsize : size = s.mEventQueue.quantumCount := hsize
  have hv : 0 < v.length := List.length_pos_iff.mpr (hne (v, num) (hqueue ▸ List.mem_cons_self))
  refine ⟨by omega, by omega, ?_, hawaiting⟩
  rw [List.length_take]
  omega

theorem drains_lower {env : Env} {s t : Proxy} {a : ProxyAct} (hq : s.queues.Ok)
    (hne : s.NoEmptyVector) (hcapacity : 0 < s.mEventQueue.quantumCount) (ha : a.Drains)
    (h : s.step env a = some t) : t.backlog < s.backlog := by
  cases step_cases h with
  | created | createdUnlocked | destroyed | postRefused | postStarted | ended | timedOut | reads |
    ackRead | ackNotRead | ackProcessed | wakelocksEnded | acked | stopped | joined | cleared |
    restarted => exact absurd ha id
  | @posted k p writeSucceeds now hk => exact backlog_posted hq hk writeSucceeds now
  | @returned k createdAt hk =>
      have hlen := List.length_eraseIdx_add_one (List.getElem?_eq_some_iff.mp hk).1
      rw [decrement_eq]
      unfold backlog
      show (s.posting.map _).sum + (s.returning.eraseIdx k).length + 4 * s.awaiting.length +
        s.pendingWritesThread.stepsLeft + s.mEventQueue.data.length < _
      omega
  | taken hpc hqueue =>
      have hsame : s.awaiting = pendingEvents s.mPendingWriteEventsQueue :=
        awaiting_eq (by rw [hpc]; nofun)
      unfold backlog
      rw [hsame, hpc]
      exact Nat.add_lt_add_right (Nat.add_lt_add_left Nat.one_lt_two _) _
  | @wrote v num num' size n rest hpc hqueue hroom =>
      obtain ⟨hpos, -, htake, hawaiting⟩ := chunk_pos hq hne hcapacity hpc hqueue
      unfold backlog
      rw [hawaiting, hpc, List.length_append, htake]
      show _ + _ + 4 * ((pendingEvents s.mPendingWriteEventsQueue).drop n).length + 3 +
        (s.mEventQueue.data ++ v.take n).length < _ + _ + _ + 1 + _
      rw [List.length_append, htake]
      show (s.posting.map _).sum + s.returning.length + _ + _ + _ < _
      omega
  | @failed v num num' size n rest hs hpc hqueue =>
      obtain ⟨hpos, -, htake, hawaiting⟩ := chunk_pos hq hne hcapacity hpc hqueue
      rw [decrement_eq]
      unfold backlog
      rw [hawaiting, hpc, List.length_append, htake]
      show (s.posting.map _).sum + s.returning.length +
        4 * ((pendingEvents s.mPendingWriteEventsQueue).drop n).length + 3 +
        s.mEventQueue.data.length < _ + _ + _ + 1 + _
      omega
  | @relocked v num size n rest hpc hqueue =>
      have hleft : pendingEvents (if size < v.length then (v.drop size, num) :: rest else rest) =
          s.awaiting := (Queues.pending_relock hq.chunk hpc hqueue).2
      unfold backlog
      rw [← hleft, hpc]
      exact Nat.add_lt_add_right (Nat.add_lt_add_left (Nat.lt_succ_self 2) _) _
  | @received n hn =>
      have hpos : 0 < n := ha
      show _ + _ + _ + _ + (s.mEventQueue.data.drop n).length < s.backlog
      rw [List.length_drop]
      unfold backlog
      show (s.posting.map _).sum + s.returning.length + 4 * s.awaiting.length +
        s.pendingWritesThread.stepsLeft + _ < _
      omega

end Proxy

/-! ## Nothing is left -/

/-- The events of the posts that wait for the mutex. -/
def Proxy.waitingEvents (s : Proxy) : List Event := s.posting.flatMap Posting.events

/-- What such steps keep; `s` is the state they started from. -/
structure Draining (env : Env) (s t : Proxy) : Prop where
  reach : (proxy env).Reach t
  notRunning : t.initializing = .notRunning
  callbackSet : t.callbackSet = true
  capacity : 0 < t.mEventQueue.quantumCount
  /-- The posts that were waiting are posted, and no others. -/
  events : (t.session.posted ++ t.waitingEvents).Perm (s.session.posted ++ s.waitingEvents)

namespace Draining

variable {env : Env} {s t u : Proxy}

theorem step {a : ProxyAct} (h : Draining env s t) (ha : a.Drains)
    (hstep : t.step env a = some u) : Draining env s u := by
  have hreach : (proxy env).Reach u := .next h.reach trivial hstep
  cases Proxy.step_cases hstep with
  | created | createdUnlocked | destroyed | postRefused | postStarted | ended | timedOut | reads |
    ackRead | ackNotRead | ackProcessed | wakelocksEnded | acked | stopped | joined | cleared |
    restarted => exact absurd ha id
  | @posted k p writeSucceeds now hk =>
      refine ⟨hreach, h.notRunning, h.callbackSet, h.capacity, List.Perm.trans ?_ h.events⟩
      have hperm : t.waitingEvents.Perm (p.events ++ (t.posting.eraseIdx k).flatMap Posting.events) :=
        (Proxy.perm_cons_eraseIdx hk).flatMap_right Posting.events
      show (t.session.posted ++ p.events ++ (t.posting.eraseIdx k).flatMap Posting.events).Perm _
      rw [List.append_assoc]
      exact hperm.symm.append_left _
  | returned | failed =>
      rw [Proxy.decrement_eq] at hreach ⊢
      exact ⟨hreach, h.notRunning, h.callbackSet, h.capacity, h.events⟩
  | taken | wrote | relocked | received =>
      exact ⟨hreach, h.notRunning, h.callbackSet, h.capacity, h.events⟩

/-- Where no step is left the queues are empty. -/
theorem stuck (h : Draining env s t) (hstuck : ∀ a : ProxyAct, a.Drains → t.step env a = none) :
    t.posting = [] ∧ t.returning = [] ∧ t.mPendingWriteEventsQueue = [] ∧
      t.mEventQueue.data = [] := by
  obtain ⟨hrun, hthread⟩ := Proxy.alive_of_reach h.reach h.notRunning
  have hposting : t.posting = [] := by
    by_contra hne
    obtain ⟨p, rest, heq⟩ := List.exists_cons_of_ne_nil hne
    have := hstuck (.postWaiting 0 true 0) trivial
    simp [Proxy.step, Proxy.postWaiting, heq] at this
  have hreturning : t.returning = [] := by
    by_contra hne
    obtain ⟨createdAt, rest, heq⟩ := List.exists_cons_of_ne_nil hne
    have := hstuck (.postReturns 0) trivial
    simp [Proxy.step, Proxy.postReturns, heq] at this
  have hdata : t.mEventQueue.data = [] := by
    by_contra hne
    have hpos : 0 < t.mEventQueue.data.length := List.length_pos_iff.mpr hne
    have := hstuck (.frameworkRead t.mEventQueue.data.length) hpos
    simp [Proxy.step, Proxy.frameworkRead] at this
  refine ⟨hposting, hreturning, ?_, hdata⟩
  have hchunk := (Proxy.queues_ok h.reach).chunk
  -- the FMQ is empty, so the next chunk fits
  cases hpc : t.pendingWritesThread with
  | waiting =>
      by_contra hne
      obtain ⟨⟨v, num⟩, rest, heq⟩ := List.exists_cons_of_ne_nil hne
      have := hstuck .pendingTake trivial
      simp [Proxy.step, Proxy.pendingTake, hpc, heq, hrun] at this
  | writing num size n =>
      rw [Queues.Chunk, show t.queues.thread = .writing num size n from hpc] at hchunk
      obtain ⟨hsize, v, rest, heq, hn⟩ := hchunk
      have hsize : size = t.mEventQueue.quantumCount := hsize
      have heq : t.mPendingWriteEventsQueue = (v, num) :: rest := heq
      have hroom : n ≤ t.mEventQueue.availableToWrite := by
        rw [Fmq.availableToWrite, hdata, List.length_nil]
        omega
      have := hstuck .pendingWritten trivial
      simp [Proxy.step, Proxy.pendingWritten, hpc, heq, hroom] at this
  | relocking size n =>
      rw [Queues.Chunk, show t.queues.thread = .relocking size n from hpc] at hchunk
      obtain ⟨-, v, num, rest, heq, -⟩ := hchunk
      have heq : t.mPendingWriteEventsQueue = (v, num) :: rest := heq
      have := hstuck .pendingRelock trivial
      simp [Proxy.step, Proxy.pendingRelock, hpc, heq] at this
  | ended => exact absurd hpc (hthread h.callbackSet).1

end Draining

/-- In any state between two calls of `initializeCommon` with an event FMQ that holds at least one
event: the posts that wait, the background thread and the framework's reads end, after as many steps
as the backlog at most, however they are interleaved and whichever writes fail.  Then nothing is
pending, and of the events posted since the queues were replaced, those of the waiting posts among
them, the framework has read, in the order in which they were posted, all that were not dropped. -/
theorem posted_events_arrive {env : Env} {s : Proxy} (h : (proxy env).Reach s)
    (hup : s.initializing = .notRunning) (hset : s.callbackSet = true)
    (hcapacity : 0 < s.mEventQueue.quantumCount) :
    (proxy env).EndsIn ProxyAct.Drains s.backlog (fun t =>
      (t.posting = [] ∧ t.returning = [] ∧ t.mPendingWriteEventsQueue = [] ∧
        t.mEventQueue.data = []) ∧
      t.session.posted.Perm (s.session.posted ++ s.waitingEvents) ∧
      Accounts t.session.posted t.session.received
        (t.session.droppedFull ++ t.session.droppedFailed)) s := by
  apply Machine.endsIn_of_rank (I := Draining env s) (r := Proxy.backlog)
  · intro t a u ht ha hstep
    refine ⟨ht.step ha hstep, ?_⟩
    exact Proxy.drains_lower (Proxy.queues_ok ht.reach) (Proxy.noEmptyVector_of_reach ht.reach)
      ht.capacity ha hstep
  · intro t ht hstuck
    obtain ⟨hposting, hreturning, hpending, hdata⟩ := ht.stuck hstuck
    refine ⟨⟨hposting, hreturning, hpending, hdata⟩, ?_, ?_⟩
    · have hevents := ht.events
      rw [Proxy.waitingEvents, hposting, List.flatMap_nil, List.append_nil] at hevents
      exact hevents
    · have haccount := (Proxy.queues_ok ht.reach).account
      have hwritten := (Proxy.fmqOk_of_reach ht.reach).written (Or.inl ht.notRunning)
      rw [Queues.awaiting_of_pending_nil hpending, List.append_nil] at haccount
      rw [hdata, List.append_nil] at hwritten
      rw [hwritten]
      exact haccount
  · exact ⟨h, hup, hset, hcapacity, List.Perm.refl _⟩

/-- Two events are posted; the event FMQ has room for one. -/
theorem posted_events_arrive_second_waits : ∃ s,
    (proxy plainEnv).run (.construct plainEnv 0)
      [.stopThreads, .resetAfterJoin 1, .clearQueues 1, .restartThreads,
        .postEvents 0 [⟨10, 1, 1, 0, []⟩, ⟨20, 1, 1, 0, []⟩] none] = some s ∧
    s.backlog = 12 ∧
    (proxy plainEnv).EndsIn ProxyAct.Drains s.backlog (fun t =>
      (t.posting = [] ∧ t.returning = [] ∧ t.mPendingWriteEventsQueue = [] ∧
        t.mEventQueue.data = []) ∧
      t.session.posted.Perm (s.session.posted ++ s.waitingEvents) ∧
      Accounts t.session.posted t.session.received
        (t.session.droppedFull ++ t.session.droppedFailed)) s := by
  have hrun : ∃ s, (proxy plainEnv).run (.construct plainEnv 0)
      [.stopThreads, .resetAfterJoin 1, .clearQueues 1, .restartThreads,
        .postEvents 0 [⟨10, 1, 1, 0, []⟩, ⟨20, 1, 1, 0, []⟩] none] = some s ∧
      s.backlog = 12 ∧ s.initializing = .notRunning ∧ s.callbackSet = true ∧
      s.mEventQueue.quantumCount = 1 := ⟨_, rfl, rfl, rfl, rfl, rfl⟩
  obtain ⟨s, hs, hbacklog, hup, hset, hcapacity⟩ := hrun
  have hreach : (proxy plainEnv).Reach s := .of_run (.start ⟨0, rfl⟩) hs
  exact ⟨s, hs, hbacklog, posted_events_arrive hreach hup hset (by rw [hcapacity]; omega)⟩

end Smi240Hal.MultiHal
