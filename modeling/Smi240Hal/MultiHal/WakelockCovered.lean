/-
# Smi240Hal.MultiHal.WakelockCovered — when the wake lock outlives every outstanding event

`Covered` is the inequality that keeps the shared wake lock: the count, with the acknowledgements
already processed, is at least the written and the awaiting wake-up events plus the live
`ScopedWakelock`s.  One step of the program breaks it although everybody keeps to the rules: when the
last chunk of a batch fails, `handlePendingWrites` gives back `numWakeupEvents` of the whole batch,
also for the events of it that were written or lost before.
-/
import Smi240Hal.MultiHal.WakelockCount

namespace Smi240Hal.MultiHal

open Smi240Hal.Lib

namespace Proxy

/-- The references cover the outstanding wake-up events and the live `ScopedWakelock`s. -/
def Covered (env : Env) (s : Proxy) : Prop :=
  env.wakeUps s.session.written + env.wakeUps s.awaiting + s.liveWakelocks.length ≤
    s.mWakelockRefCount + s.session.handled

/-- A post with wake-up events comes with its locked `ScopedWakelock`, gets the mutex while the
threads run, and has its wake-up sensors in `mSensors`. -/
def PostCovers (env : Env) (s : Proxy) (k : Nat) : Prop :=
  ∀ p ∈ s.posting[k]?, 0 < env.wakeUps p.events →
    s.takesReferences p ∧ ∀ e ∈ p.events, env.isWakeUp e = true → env.isStaticWakeUp e = true

instance (env : Env) (s : Proxy) (k : Nat) : Decidable (s.PostCovers env k) :=
  inferInstanceAs (Decidable (∀ p ∈ s.posting[k]?, 0 < env.wakeUps p.events →
    s.takesReferences p ∧ ∀ e ∈ p.events, env.isWakeUp e = true → env.isStaticWakeUp e = true))

/-- If the chunk in the blocking write is the last of its batch, the number kept with the batch is
not more than the wake-up events that are left in it. -/
def LastChunkExact (env : Env) (s : Proxy) : Prop :=
  match s.pendingWritesThread, s.mPendingWriteEventsQueue with
  | .writing numWakeupEvents eventQueueSize _, (pendingWriteEvents, _) :: _ =>
      s.mThreadsRun = true → pendingWriteEvents.length ≤ eventQueueSize →
        numWakeupEvents ≤ env.staticWakeUps pendingWriteEvents
  | _, _ => True

/-- A step that gives no reference back too early: no timeout fires, posts cover their wake-up events,
and a blocking write fails only where the number given back is right. -/
def CoverOk (env : Env) (s : Proxy) : ProxyAct → Prop
  | .wakelockCheck now _ => s.sharedWakelockDidTimeout env now = false
  | .postWaiting k _ _ => s.PostCovers env k
  | .pendingFailed => s.LastChunkExact env
  | _ => True

/-- A direct write and the queued remainder together are at most the posted events. -/
theorem wakeUps_afterPost (env : Env) {s : Proxy} (hq : s.queues.Ok) (p : Posting) (n : Nat)
    (now : Int) :
    env.wakeUps (s.afterPost p n now).session.written + env.wakeUps (s.afterPost p n now).awaiting ≤
      env.wakeUps s.session.written + env.wakeUps s.awaiting + env.wakeUps p.events := by
  have hawait : (s.afterPost p n now).awaiting =
      s.awaiting ++ pendingEvents (s.queuedPart (p.events.drop n) p.numWakeupEvents) :=
    Queues.awaiting_append hq.chunk _
  have hsplit := wakeUps_take_add_drop env p.events n
  rw [← queued_append_discarded s (p.events.drop n) p.numWakeupEvents, wakeUps_append] at hsplit
  rw [hawait]
  show env.wakeUps (s.session.written ++ p.events.take n) + _ ≤ _
  rw [wakeUps_append, wakeUps_append]
  omega

/-- What is given back for a failed chunk is at most the wake-up events in it. -/
theorem givenBack_le {env : Env} {s : Proxy} (hs : s.Counted env) {v : List Event}
    {num size : Nat} (hlast : v.length ≤ size → num ≤ env.staticWakeUps v) :
    s.givenBack v num size ≤ env.wakeUps (v.take (min v.length size)) := by
  unfold givenBack
  split
  case isTrue =>
    split
    case isTrue hlt =>
      rw [hs.count, Nat.min_eq_right (Nat.le_of_lt hlt)]
      exact staticWakeUps_le env _
    case isFalse hge =>
      have hle : v.length ≤ size := Nat.not_lt.mp hge
      rw [Nat.min_eq_left hle, List.take_length]
      exact Nat.le_trans (hlast hle) (staticWakeUps_le env v)
  case isFalse => exact Nat.zero_le _

/-- A post takes a reference for each of its wake-up events. -/
theorem le_refTaken {env : Env} {s : Proxy} (hcounted : s.Counted env) {k : Nat} {p : Posting}
    (hk : s.posting[k]? = some p) (hok : 0 < env.wakeUps p.events →
      s.takesReferences p ∧ ∀ e ∈ p.events, env.isWakeUp e = true → env.isStaticWakeUp e = true) :
    s.mWakelockRefCount + env.wakeUps p.events ≤ s.refTaken p := by
  unfold refTaken
  rcases Nat.eq_zero_or_pos (env.wakeUps p.events) with hzero | hpos
  · split <;> omega
  · obtain ⟨htakes, hstatic⟩ := hok hpos
    have hnum : p.numWakeupEvents = env.wakeUps p.events :=
      (hcounted.posting p (List.mem_of_getElem? hk)).trans (staticWakeUps_eq env hstatic)
    rw [if_pos htakes]
    omega

/-- A failed write gives back no more references than the chunk it loses has wake-up events. -/
theorem le_refAfter_failed {env : Env} {s : Proxy} (hcounted : s.Counted env)
    (hexact : s.LastChunkExact env) {v : List Event} {num num' size n : Nat}
    {rest : List (List Event × Nat)} (hpc : s.pendingWritesThread = .writing num' size n)
    (hpending : s.mPendingWriteEventsQueue = (v, num) :: rest) :
    s.mWakelockRefCount ≤ s.refAfter (s.givenBack v num' size) (-1) +
      env.wakeUps (v.take (min v.length size)) := by
  by_cases hrun : s.mThreadsRun = true
  · -- the chunk is lost, and its references are all that is given back
    have hlast : v.length ≤ size → num' ≤ env.staticWakeUps v := by
      unfold LastChunkExact at hexact
      rw [hpc, hpending] at hexact
      exact hexact hrun
    have hback := givenBack_le hcounted hlast
    have hafter := le_refAfter_add s (s.givenBack v num' size) (-1)
    omega
  · -- a stopped program gives nothing back
    have hkeep : s.refAfter (s.givenBack v num' size) (-1) = s.mWakelockRefCount :=
      if_neg fun hcounts => hrun hcounts.1
    omega

section Covered

variable {env : Env} {s : Proxy}

theorem covered_created (hs : s.Covered env) (now : Int) :
    { s.incrementLocked 1 now with live := now :: s.live }.Covered env := by
  unfold Covered at hs
  show env.wakeUps s.session.written + env.wakeUps s.awaiting + (now :: s.liveWakelocks).length ≤
    s.mWakelockRefCount + 1 + s.session.handled
  rw [List.length_cons]
  omega

/-- The `ScopedWakelock`s may change hands. -/
theorem covered_moved (hs : s.Covered env) {live returning : List Int}
    (hperm : s.liveWakelocks.Perm { s with live := live, returning := returning }.liveWakelocks) :
    { s with live := live, returning := returning }.Covered env := by
  unfold Covered at hs ⊢
  rw [← hperm.length_eq]
  exact hs

/-- One of them is destroyed. -/
theorem covered_destroyed (hs : s.Covered env) {createdAt : Int} {live returning : List Int}
    (hperm : s.liveWakelocks.Perm
      (createdAt :: { s with live := live, returning := returning }.liveWakelocks)) :
    ({ s with live := live, returning := returning }.decrementRefCountAndMaybeReleaseWakelock 1
      createdAt).Covered env := by
  unfold Covered at hs
  have hlen := hperm.length_eq
  have href := le_refAfter_add s 1 createdAt
  rw [List.length_cons] at hlen
  rw [decrement_eq]
  show env.wakeUps s.session.written + env.wakeUps s.awaiting +
    { s with live := live, returning := returning }.liveWakelocks.length ≤
      s.refAfter 1 createdAt + s.session.handled
  omega

theorem covered_posted (hq : s.queues.Ok) (hcounted : s.Counted env) (hs : s.Covered env) {k : Nat}
    {p : Posting} {writeSucceeds : Bool} {now : Int} (hk : s.posting[k]? = some p)
    (hok : 0 < env.wakeUps p.events →
      s.takesReferences p ∧ ∀ e ∈ p.events, env.isWakeUp e = true → env.isStaticWakeUp e = true) :
    ({ s with
      posting := s.posting.eraseIdx k
      returning := p.wakelock.toList ++ s.returning }.afterPost p
        (s.numToWrite p.events writeSucceeds) now).Covered env := by
  unfold Covered at hs
  have href := le_refTaken hcounted hk hok
  have hlen := (liveWakelocks_posted hk).length_eq
  have hsum := wakeUps_afterPost env hq p (s.numToWrite p.events writeSucceeds) now
  show env.wakeUps (s.afterPost p (s.numToWrite p.events writeSucceeds) now).session.written +
    env.wakeUps (s.afterPost p (s.numToWrite p.events writeSucceeds) now).awaiting +
    { s with
      posting := s.posting.eraseIdx k
      returning := p.wakelock.toList ++ s.returning }.liveWakelocks.length ≤
      s.refTaken p + s.session.handled
  omega

theorem covered_wrote (hq : s.queues.Ok) (hs : s.Covered env) {v : List Event}
    {num num' size n : Nat} {rest : List (List Event × Nat)}
    (hpc : s.pendingWritesThread = .writing num' size n)
    (hpending : s.mPendingWriteEventsQueue = (v, num) :: rest) :
    { s.writeEvents (v.take n) with pendingWritesThread := .relocking size n }.Covered env := by
  unfold Covered at hs
  have hsum : env.wakeUps s.awaiting = env.wakeUps (v.take n) +
      env.wakeUps ((pendingEvents s.mPendingWriteEventsQueue).drop n) :=
    countP_awaiting hq hpc hpending _
  show env.wakeUps (s.session.written ++ v.take n) +
    env.wakeUps ((pendingEvents s.mPendingWriteEventsQueue).drop n) +
    s.liveWakelocks.length ≤ s.mWakelockRefCount + s.session.handled
  rw [wakeUps_append]
  omega

theorem covered_failed (hq : s.queues.Ok) (hcounted : s.Counted env) (hs : s.Covered env)
    (hexact : s.LastChunkExact env) {v : List Event} {num num' size n : Nat}
    {rest : List (List Event × Nat)} {tables : SensorTables}
    (hpc : s.pendingWritesThread = .writing num' size n)
    (hpending : s.mPendingWriteEventsQueue = (v, num) :: rest) :
    ({ s with
      tables := tables
      session := { s.session with droppedFailed := s.session.droppedFailed ++ v.take n }
      pendingWritesThread := .relocking size n }.decrementRefCountAndMaybeReleaseWakelock
        (s.givenBack v num' size) (-1)).Covered env := by
  unfold Covered at hs
  obtain ⟨_, hn, _, _⟩ := Queues.chunk_append hq.chunk hpc hpending
  have hsum : env.wakeUps s.awaiting = env.wakeUps (v.take n) +
      env.wakeUps ((pendingEvents s.mPendingWriteEventsQueue).drop n) :=
    countP_awaiting hq hpc hpending _
  have href : s.mWakelockRefCount ≤
      s.refAfter (s.givenBack v num' size) (-1) + env.wakeUps (v.take n) := by
    rw [hn]
    exact le_refAfter_failed hcounted hexact hpc hpending
  rw [decrement_eq]
  show env.wakeUps s.session.written +
    env.wakeUps ((pendingEvents s.mPendingWriteEventsQueue).drop n) +
    s.liveWakelocks.length ≤ s.refAfter (s.givenBack v num' size) (-1) + s.session.handled
  omega

theorem covered_relocked (hq : s.queues.Ok) (hs : s.Covered env) {v : List Event}
    {num size n : Nat} {rest : List (List Event × Nat)}
    (hpc : s.pendingWritesThread = .relocking size n)
    (hpending : s.mPendingWriteEventsQueue = (v, num) :: rest) :
    { s with
      mSizePendingWriteEventsQueue := subSize s.mSizePendingWriteEventsQueue n
      mPendingWriteEventsQueue := if size < v.length then (v.drop size, num) :: rest else rest
      pendingWritesThread := .waiting }.Covered env := by
  have hleft := (Queues.pending_relock hq.chunk hpc hpending).2
  show env.wakeUps s.session.written + env.wakeUps (pendingEvents
    (if size < v.length then (v.drop size, num) :: rest else rest)) +
    s.liveWakelocks.length ≤ s.mWakelockRefCount + s.session.handled
  rw [hleft]
  exact hs

/-- What the count loses by an acknowledgement, `handled` gains. -/
theorem covered_processed (hs : s.Covered env) (n : Nat) :
    { s.decrementRefCountAndMaybeReleaseWakelock n (-1) with
      wakelockThread := .waiting
      session := { s.session with handled := s.session.handled + n } }.Covered env := by
  unfold Covered at hs
  have href := le_refAfter_add s n (-1)
  rw [decrement_eq]
  show env.wakeUps s.session.written + env.wakeUps s.awaiting + s.liveWakelocks.length ≤
    s.refAfter n (-1) + (s.session.handled + n)
  omega

/-- A new history starts, with no event outstanding. -/
theorem covered_cleared (hphases : s.Phases) (hcounted : s.Counted env) (hs : s.Covered env)
    (hi : s.initializing = .wakelockReset) (quantumCount : Nat) :
    { s with
      tables := { s.tables with mDynamicSensors := ∅ }
      mEventQueue := ⟨quantumCount, []⟩
      mWakeLockQueue := []
      mPendingWriteEventsQueue := []
      mSizePendingWriteEventsQueue := 0
      session := .empty
      initializing := .cleared }.Covered env := by
  unfold Covered at hs ⊢
  have hle := hcounted.handled_le
  have hpw : s.pendingWritesThread = .ended := (hphases.joined (Or.inl hi)).1
  rw [awaiting_eq (by dsimp only; rw [hpw]; nofun)]
  show 0 + 0 + s.liveWakelocks.length ≤ s.mWakelockRefCount + 0
  omega

/-- With the threads told to stop, a reset changes its time only. -/
theorem covered_reset (hs : s.Covered env) (hrun : s.mThreadsRun = false) (now : Int) :
    (s.resetSharedWakelock now).Covered env := by
  unfold resetSharedWakelock
  rw [decrement_stopped hrun]
  exact hs

theorem covered_step {t : Proxy} {a : ProxyAct} (hphases : s.Phases) (hq : s.queues.Ok)
    (hcounted : s.Counted env) (hs : s.Covered env) (hok : s.CoverOk env a)
    (h : s.step env a = some t) : t.Covered env := by
  cases step_cases h with
  | created => exact covered_created hs _
  | createdUnlocked | reads | ackRead | ackNotRead | received | acked | stopped => exact hs
  | destroyed hk => exact covered_destroyed hs (liveWakelocks_destroyed hk)
  | postRefused _ hlive => exact covered_moved hs (liveWakelocks_refused hlive)
  | postStarted _ hlive =>
      unfold Covered at hs ⊢
      rw [← (liveWakelocks_started hlive).length_eq]
      exact hs
  | @posted k p writeSucceeds now hk => exact covered_posted hq hcounted hs hk (hok p hk)
  | returned hk => exact covered_destroyed hs (liveWakelocks_returned hk)
  | taken hpc | ended hpc =>
      unfold Covered at hs
      rw [awaiting_eq (by rw [hpc]; nofun)] at hs
      exact hs
  | wrote hpc hpending => exact covered_wrote hq hs hpc hpending
  | failed hpc hpending => exact covered_failed hq hcounted hs hok hpc hpending
  | relocked hpc hpending => exact covered_relocked hq hs hpc hpending
  | timedOut _ _ _ hout => exact absurd hout (by rw [hok]; decide)
  | ackProcessed => exact covered_processed hs _
  | @wakelocksEnded now _ hrun => exact covered_reset hs hrun now
  | @joined now hi => exact covered_reset hs (hphases.stopped (by rw [hi]; nofun)) now
  | @cleared quantumCount hi => exact covered_cleared hphases hcounted hs hi quantumCount
  | restarted hi =>
      have hpw : s.pendingWritesThread = .ended := (hphases.joined (Or.inr hi)).1
      unfold Covered at hs
      rw [awaiting_eq (by rw [hpw]; nofun)] at hs
      exact hs

end Covered

theorem covered_of_reachUnder {env : Env} {s : Proxy}
    (h : (proxy env).ReachUnder (CoverOk env) s) : s.Covered env :=
  invariant_of_counted (fun _ => Nat.le_refl 0)
    (fun _ _ _ hphases hq hcounted _ => covered_step hphases hq hcounted) h

end Proxy

/-- In every run whose steps meet `CoverOk`, for any interleaving of posts, direct and chunked
writes and acknowledgements, the count is at least the wake-up events written and not yet
acknowledged plus the live locked `ScopedWakelock`s, and the lock is held while there is one of
either. -/
theorem wakelock_covers {env : Env} {s : Proxy} (h : (proxy env).ReachUnder (Proxy.CoverOk env) s) :
    env.wakeUps s.session.written - s.session.acked + s.liveWakelocks.length ≤
        s.mWakelockRefCount ∧
      (s.session.acked < env.wakeUps s.session.written ∨ s.liveWakelocks ≠ [] →
        s.wakeLockHeld = true) := by
  have hcounted := Proxy.counted_of_reach h.reach
  have hcovered := Proxy.covered_of_reachUnder h
  unfold Proxy.Covered at hcovered
  have hacks := hcounted.acks
  have hacked := hcounted.handled_le
  have hcount : env.wakeUps s.session.written - s.session.acked + s.liveWakelocks.length ≤
      s.mWakelockRefCount := by omega
  refine ⟨hcount, fun houtstanding => hcounted.held ?_⟩
  rcases houtstanding with hlt | hlive
  · omega
  · have hpos := List.length_pos_iff.mpr hlive
    omega

/-- One sub-HAL with one wake-up sensor. -/
def wakeUpEnv : Env := ⟨[some [⟨1, "wake", 1, SensorFlagBits.WAKE_UP⟩]], fun _ => false, 1000000000⟩

/-- The first initialization, with room for `quantumCount` events. -/
def initialized (quantumCount : Nat) : List ProxyAct :=
  [.stopThreads, .resetAfterJoin 1, .clearQueues quantumCount, .restartThreads]

/-- Of a batch of two wake-up events one is written directly and the other fails in the background.
Both references are given back, and the lock is released with the first event unacknowledged. -/
theorem failed_rest_releases_early : ∃ s,
    (proxy wakeUpEnv).run (.construct wakeUpEnv 0) (initialized 1 ++
      [.createScopedWakelock 2, .postEvents 0 [⟨3, 1, 1, 0, []⟩, ⟨4, 1, 1, 0, []⟩] (some 0),
        .postWaiting 0 true 5, .postReturns 0, .pendingTake, .pendingFailed]) = some s ∧
      wakeUpEnv.wakeUps s.session.written = 1 ∧ s.session.acked = 0 ∧ s.liveWakelocks = [] ∧
      s.mWakelockRefCount = 0 ∧ s.wakeLockHeld = false ∧
      ¬ wakeUpEnv.wakeUps s.session.written - s.session.acked + s.liveWakelocks.length ≤
        s.mWakelockRefCount :=
  ⟨_, rfl, by decide, by decide, by decide, by decide, by decide, by decide⟩

/-- The same batch, while its second event is still pending. -/
theorem wakelock_covers_split_batch : ∃ s,
    (proxy wakeUpEnv).run (.construct wakeUpEnv 0) (initialized 1 ++
      [.createScopedWakelock 2, .postEvents 0 [⟨3, 1, 1, 0, []⟩, ⟨4, 1, 1, 0, []⟩] (some 0),
        .postWaiting 0 true 5]) = some s ∧
      s.mWakelockRefCount = 3 ∧
      wakeUpEnv.wakeUps s.session.written - s.session.acked + s.liveWakelocks.length ≤
        s.mWakelockRefCount := by
  have h : (proxy wakeUpEnv).ReachUnder (Proxy.CoverOk wakeUpEnv) _ :=
    .next (a := .postWaiting 0 true 5)
      (.next (a := .postEvents 0 [⟨3, 1, 1, 0, []⟩, ⟨4, 1, 1, 0, []⟩] (some 0))
        (.next (a := .createScopedWakelock 2)
          (.next (a := .restartThreads)
            (.next (a := .clearQueues 1)
              (.next (a := .resetAfterJoin 1)
                (.next (a := .stopThreads) (.start ⟨0, rfl⟩) trivial rfl)
                trivial rfl)
              trivial rfl)
            trivial rfl)
          trivial rfl)
        trivial rfl)
      (by show Proxy.PostCovers wakeUpEnv _ 0; decide) rfl
  exact ⟨_, rfl, by decide, (wakelock_covers h).1⟩

end Smi240Hal.MultiHal
