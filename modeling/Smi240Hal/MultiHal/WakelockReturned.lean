/-
# Smi240Hal.MultiHal.WakelockReturned — when every reference is given back

The other direction of the count.  `Returned` says that each reference still has somebody who will
give it back: a wake-up event that was written, one that awaits its write, or a `ScopedWakelock` that
is not older than the last reset.  The steps that break it are those that forget a reference: a
remainder with wake-up events that does not fit into the pending queue, a call that takes a reference
after the threads were told to stop, a new initialization while references are held, and a clock that
is set back behind the last reset.

A call past its test may take or give back its reference at any later time, so the result is about
the runs of `testedProxy`.  What the steps of `proxy` keep is shown first, with the `ScopedWakelock`s
that only `TestedProxy` knows of in `others`.
-/
import Smi240Hal.MultiHal.UnlockedTest
import Smi240Hal.MultiHal.WakelockCovered

namespace Smi240Hal.MultiHal

open Smi240Hal.Lib

namespace Proxy

/-- The `ScopedWakelock`s whose destruction gives a reference back. -/
def freshWakelocks (s : Proxy) (others : List Int) : Nat :=
  (s.liveWakelocks ++ others).countP fun createdAt => !s.isStale createdAt

/-- Each reference will be given back. -/
structure Returned (env : Env) (others : List Int) (s : Proxy) : Prop where
  refs : s.mWakelockRefCount + s.session.handled ≤
    env.wakeUps s.session.written + env.staticWakeUps s.awaiting + s.freshWakelocks others
  stopped : s.mThreadsRun = false → s.mWakelockRefCount = 0

/-- If the remainder of a post is too much for the pending queue, there is no wake-up event in it. -/
def DiscardsNoWakeUp (env : Env) (s : Proxy) (p : Posting) (writeSucceeds : Bool) : Prop :=
  kMaxSizePendingWriteEventsQueue <
      s.mSizePendingWriteEventsQueue + (p.events.drop (s.numToWrite p.events writeSucceeds)).length →
    env.staticWakeUps (p.events.drop (s.numToWrite p.events writeSucceeds)) = 0

instance (env : Env) (s : Proxy) (p : Posting) (writeSucceeds : Bool) :
    Decidable (s.DiscardsNoWakeUp env p writeSucceeds) :=
  inferInstanceAs (Decidable (_ < _ → _ = 0))

/-- A step of `proxy` that forgets no reference: no timeout fires, the clock is not behind the last
reset when a `ScopedWakelock` is created, no wake-up event of a locked post is discarded for want of
room, and `initialize` is called without references held. -/
def ReturnOk (env : Env) (s : Proxy) : ProxyAct → Prop
  | .createScopedWakelock now => s.mThreadsRun = true → s.mWakelockTimeoutResetTime ≤ now
  | .postWaiting k writeSucceeds _ =>
      ∀ p ∈ s.posting[k]?, s.takesReferences p → s.DiscardsNoWakeUp env p writeSucceeds
  | .wakelockCheck now _ => s.sharedWakelockDidTimeout env now = false
  | .stopThreads => s.mWakelockRefCount = 0
  | _ => True

theorem isStale_of_le {s : Proxy} {createdAt : Int} (h : s.mWakelockTimeoutResetTime ≤ createdAt) :
    s.isStale createdAt = false := by
  unfold isStale
  split <;> simp
  exact h

theorem freshWakelocks_perm {s : Proxy} {others l : List Int}
    (h : (s.liveWakelocks ++ others).Perm l) :
    s.freshWakelocks others = l.countP fun createdAt => !s.isStale createdAt :=
  h.countP_eq _

theorem freshWakelocks_cons {s : Proxy} {createdAt : Int} {others rest : List Int}
    (h : (s.liveWakelocks ++ others).Perm (createdAt :: rest)) :
    s.freshWakelocks others = rest.countP (fun c => !s.isStale c) +
      if s.isStale createdAt then 0 else 1 := by
  rw [freshWakelocks_perm h, List.countP_cons]
  cases s.isStale createdAt <;> rfl

section Returned

variable {env : Env} {others : List Int} {s : Proxy}

/-- With no references left there is nothing to give back. -/
theorem returned_of_zero (hcounted : s.Counted env) (hzero : s.mWakelockRefCount = 0) :
    s.Returned env others where
  refs := by
    have := hcounted.handled_le
    omega
  stopped _ := hzero

theorem refAfter_stopped (hs : s.Returned env others) (delta : Nat) (timeoutStart : Int)
    (hrun : s.mThreadsRun = false) : s.refAfter delta timeoutStart = 0 := by
  have hle := refAfter_le s delta timeoutStart
  rw [hs.stopped hrun] at hle
  exact Nat.le_zero.mp hle

/-- A decrement takes `delta`, or leaves nothing; after `stopThreads` there is nothing. -/
theorem refAfter_takes (hs : s.Returned env others) (delta : Nat) {timeoutStart : Int}
    (hfresh : s.isStale timeoutStart = false) :
    s.refAfter delta timeoutStart + delta ≤ s.mWakelockRefCount ∨
      s.refAfter delta timeoutStart = 0 := by
  cases hrun : s.mThreadsRun with
  | true => exact refAfter_add_le delta hrun hfresh
  | false => exact Or.inr (refAfter_stopped hs delta timeoutStart hrun)

/-- Past its test or not, a decrement does the same: with the threads told to stop there is nothing
to take. -/
theorem decrementLocked_of_zero {s : Proxy}
    (hstopped : s.mThreadsRun = false → s.mWakelockRefCount = 0) (delta : Nat)
    (timeoutStart : Int) : s.decrementLocked delta timeoutStart =
      s.decrementRefCountAndMaybeReleaseWakelock delta timeoutStart := by
  unfold decrementRefCountAndMaybeReleaseWakelock
  by_cases hrun : s.mThreadsRun = false
  · unfold decrementLocked
    rw [if_pos hrun, if_pos (Or.inl (hstopped hrun))]
  · rw [if_neg hrun]

/-- A `ScopedWakelock` is created while the threads run. -/
theorem returned_created (hs : s.Returned env others) {now : Int} (hrun : s.mThreadsRun = true)
    (hnow : s.mWakelockTimeoutResetTime ≤ now) :
    { s.incrementLocked 1 now with live := now :: s.live }.Returned env others := by
  refine ⟨?_, fun hno => absurd (hno.symm.trans hrun) (by decide)⟩
  have hrefs := hs.refs
  have hcount : List.countP (fun c => !s.isStale c) (now :: (s.liveWakelocks ++ others)) =
      s.freshWakelocks others + 1 := by
    rw [List.countP_cons, isStale_of_le hnow]
    rfl
  show s.mWakelockRefCount + 1 + s.session.handled ≤
    env.wakeUps s.session.written + env.staticWakeUps s.awaiting +
      List.countP (fun c => !s.isStale c) (now :: (s.liveWakelocks ++ others))
  omega

/-- The reference of a destroyed `ScopedWakelock` is given back; `fresh` are the others. -/
theorem refs_destroyed (hcounted : s.Counted env) (hs : s.Returned env others)
    {createdAt : Int} {fresh : Nat}
    (hfresh : s.freshWakelocks others = fresh + if s.isStale createdAt then 0 else 1) :
    s.refAfter 1 createdAt + s.session.handled ≤
      env.wakeUps s.session.written + env.staticWakeUps s.awaiting + fresh := by
  have hrefs := hs.refs
  have hhandled := hcounted.handled_le
  have hle := refAfter_le s 1 createdAt
  by_cases hstale : s.isStale createdAt = true
  · -- an old one was not counted, and gives nothing back
    rw [if_pos hstale] at hfresh
    omega
  · rw [if_neg hstale] at hfresh
    rcases refAfter_takes hs 1 (by simpa using hstale) with hsub | hzero
    · omega
    · omega

/-- The `ScopedWakelock`s may change hands, and one of them be destroyed. -/
theorem returned_destroyed (hcounted : s.Counted env) (hs : s.Returned env others)
    {createdAt : Int} {live returning others' : List Int}
    (hperm : (s.liveWakelocks ++ others).Perm
      (createdAt :: ({ s with live := live, returning := returning }.liveWakelocks ++ others'))) :
    ({ s with live := live, returning := returning }.decrementRefCountAndMaybeReleaseWakelock 1
      createdAt).Returned env others' := by
  rw [decrement_eq]
  exact ⟨refs_destroyed hcounted hs (freshWakelocks_cons hperm), refAfter_stopped hs 1 createdAt⟩

theorem discarded_of_ok {p : Posting} {writeSucceeds : Bool}
    (hok : s.DiscardsNoWakeUp env p writeSucceeds) : env.staticWakeUps (s.discardedPart
      (p.events.drop (s.numToWrite p.events writeSucceeds))) = 0 := by
  unfold discardedPart
  split
  case isTrue => rfl
  case isFalse hfits =>
    by_cases hempty : p.events.drop (s.numToWrite p.events writeSucceeds) = []
    · rw [hempty]
      rfl
    · exact hok (noRoom_of_not_fits hfits hempty)

/-- A post gets back what it took: its wake-up events are written or queued. -/
theorem refs_posted (hq : s.queues.Ok) (hs : s.Returned env others) {p : Posting}
    (writeSucceeds : Bool) {taken : Nat} (hnum : p.numWakeupEvents = env.staticWakeUps p.events)
    (htaken : taken = 0 ∨
      taken = p.numWakeupEvents ∧ s.DiscardsNoWakeUp env p writeSucceeds) :
    let t := s.wroteOrQueued p (s.numToWrite p.events writeSucceeds)
    s.mWakelockRefCount + taken + s.session.handled ≤
      env.wakeUps t.session.written + env.staticWakeUps t.awaiting + s.freshWakelocks others := by
  intro t
  have hrefs := hs.refs
  have hawait : t.awaiting = s.awaiting ++ pendingEvents (s.queuedPart
      (p.events.drop (s.numToWrite p.events writeSucceeds)) p.numWakeupEvents) :=
    Queues.awaiting_append hq.chunk _
  have hwritten : env.wakeUps t.session.written = env.wakeUps s.session.written +
      env.wakeUps (p.events.take (s.numToWrite p.events writeSucceeds)) := wakeUps_append env _ _
  rw [hawait, hwritten, staticWakeUps_append]
  rcases htaken with hnone | ⟨hall, hok⟩
  · omega
  · have hsplit := staticWakeUps_take_add_drop env p.events (s.numToWrite p.events writeSucceeds)
    have hle := staticWakeUps_le env (p.events.take (s.numToWrite p.events writeSucceeds))
    have hleft := congrArg env.staticWakeUps (queued_append_discarded s
      (p.events.drop (s.numToWrite p.events writeSucceeds)) p.numWakeupEvents)
    rw [staticWakeUps_append] at hleft
    have hdiscarded := discarded_of_ok hok
    omega

theorem returned_posted (hq : s.queues.Ok) (hcounted : s.Counted env)
    (hs : s.Returned env others) {k : Nat} {p : Posting} {writeSucceeds : Bool} {now : Int}
    (hk : s.posting[k]? = some p)
    (hok : s.takesReferences p → s.DiscardsNoWakeUp env p writeSucceeds) :
    ({ s with
      posting := s.posting.eraseIdx k
      returning := p.wakelock.toList ++ s.returning }.afterPost p
        (s.numToWrite p.events writeSucceeds) now).Returned env others := by
  have hnum := hcounted.posting p (List.mem_of_getElem? hk)
  have hfresh := freshWakelocks_perm ((liveWakelocks_posted hk).append_right others)
  refine ⟨Nat.le_trans ?_ (Nat.add_le_add_left (Nat.le_of_eq hfresh) _), fun hrun => ?_⟩
  · show s.refTaken p + s.session.handled ≤ _
    unfold refTaken
    split
    case isTrue htakes => exact refs_posted hq hs _ hnum (Or.inr ⟨rfl, hok htakes⟩)
    case isFalse => exact refs_posted hq hs writeSucceeds hnum (Or.inl rfl)
  · have hno : ¬ s.takesReferences p := fun htakes => absurd (hrun.symm.trans htakes.2) (by decide)
    exact (if_neg hno).trans (hs.stopped hrun)

/-- A failed chunk gives back at least the references of its wake-up events. -/
theorem le_givenBack (hcounted : s.Counted env) {v : List Event} {num size : Nat}
    (hnum : env.staticWakeUps v ≤ num) :
    env.staticWakeUps (v.take (min v.length size)) ≤ s.givenBack v num size := by
  have hsplit := staticWakeUps_take_add_drop env v (min v.length size)
  unfold givenBack
  split
  case isTrue =>
    split
    case isTrue hlt =>
      have hfits : min v.length size = size := Nat.min_eq_right (Nat.le_of_lt hlt)
      have hcount := hcounted.count (v.take size)
      rw [hfits]
      omega
    case isFalse => omega
  case isFalse => omega

theorem returned_wrote (hq : s.queues.Ok) (hs : s.Returned env others) {v : List Event}
    {num num' size n : Nat} {rest : List (List Event × Nat)}
    (hpc : s.pendingWritesThread = .writing num' size n)
    (hpending : s.mPendingWriteEventsQueue = (v, num) :: rest) :
    { s.writeEvents (v.take n) with
      pendingWritesThread := .relocking size n }.Returned env others := by
  have hrefs := hs.refs
  have hsum : env.staticWakeUps s.awaiting = env.staticWakeUps (v.take n) +
      env.staticWakeUps ((pendingEvents s.mPendingWriteEventsQueue).drop n) :=
    countP_awaiting hq hpc hpending _
  have hle := staticWakeUps_le env (v.take n)
  refine { hs with refs := ?_ }
  show s.mWakelockRefCount + s.session.handled ≤ env.wakeUps (s.session.written ++ v.take n) +
    env.staticWakeUps ((pendingEvents s.mPendingWriteEventsQueue).drop n) + s.freshWakelocks others
  rw [wakeUps_append]
  omega

theorem returned_failed (hq : s.queues.Ok) (hcounted : s.Counted env)
    (hs : s.Returned env others) {v : List Event} {num num' size n : Nat}
    {rest : List (List Event × Nat)} (hpc : s.pendingWritesThread = .writing num' size n)
    (hpending : s.mPendingWriteEventsQueue = (v, num) :: rest) (tables : SensorTables) :
    ({ s with
      tables := tables
      session := { s.session with droppedFailed := s.session.droppedFailed ++ v.take n }
      pendingWritesThread := .relocking size n }.decrementRefCountAndMaybeReleaseWakelock
        (s.givenBack v num' size) (-1)).Returned env others := by
  have hrefs := hs.refs
  have hhandled := hcounted.handled_le
  obtain ⟨_, hn, hnum, _⟩ := Queues.chunk_append hq.chunk hpc hpending
  have hsum : env.staticWakeUps s.awaiting = env.staticWakeUps (v.take n) +
      env.staticWakeUps ((pendingEvents s.mPendingWriteEventsQueue).drop n) :=
    countP_awaiting hq hpc hpending _
  have hback : env.staticWakeUps (v.take n) ≤ s.givenBack v num' size := by
    rw [hn, hnum]
    exact le_givenBack hcounted (hcounted.pending v num (by rw [hpending]; simp))
  rw [decrement_eq]
  refine ⟨?_, refAfter_stopped hs _ (-1)⟩
  show s.refAfter (s.givenBack v num' size) (-1) + s.session.handled ≤
    env.wakeUps s.session.written +
    env.staticWakeUps ((pendingEvents s.mPendingWriteEventsQueue).drop n) + s.freshWakelocks others
  rcases refAfter_takes hs (s.givenBack v num' size) (isStale_now s) with hsub | hzero
  · omega
  · omega

theorem returned_relocked (hq : s.queues.Ok) (hs : s.Returned env others) {v : List Event}
    {num size n : Nat} {rest : List (List Event × Nat)}
    (hpc : s.pendingWritesThread = .relocking size n)
    (hpending : s.mPendingWriteEventsQueue = (v, num) :: rest) :
    { s with
      mSizePendingWriteEventsQueue := subSize s.mSizePendingWriteEventsQueue n
      mPendingWriteEventsQueue := if size < v.length then (v.drop size, num) :: rest else rest
      pendingWritesThread := .waiting }.Returned env others := by
  refine { hs with refs := ?_ }
  show s.mWakelockRefCount + s.session.handled ≤ env.wakeUps s.session.written +
    env.staticWakeUps (pendingEvents
      (if size < v.length then (v.drop size, num) :: rest else rest)) + s.freshWakelocks others
  rw [(Queues.pending_relock hq.chunk hpc hpending).2]
  exact hs.refs

/-- An acknowledgement is processed: either the count goes down by `n`, or it is 0 and what was in
hand had been written. -/
theorem returned_processed (hcounted : s.Counted env) (hs : s.Returned env others) {n : Nat}
    (hpc : s.wakelockThread = .processing n) :
    { s.decrementRefCountAndMaybeReleaseWakelock n (-1) with
      wakelockThread := .waiting
      session := { s.session with handled := s.session.handled + n } }.Returned env others := by
  have hrefs := hs.refs
  have hhandled := hcounted.handled_le
  unfold acksInFlight at hhandled
  rw [hpc] at hhandled
  dsimp only [WakelockLoop.inHand] at hhandled
  rw [decrement_eq]
  refine ⟨?_, refAfter_stopped hs n (-1)⟩
  show s.refAfter n (-1) + (s.session.handled + n) ≤
    env.wakeUps s.session.written + env.staticWakeUps s.awaiting + s.freshWakelocks others
  rcases refAfter_takes hs n (isStale_now s) with hsub | hzero
  · omega
  · omega

/-- A reset while the threads are told to stop changes its time only. -/
theorem reset_stopped (hs : s.Returned env others) (hrun : s.mThreadsRun = false) (now : Int) :
    (s.resetSharedWakelock now).mWakelockRefCount = 0 := by
  unfold resetSharedWakelock
  rw [decrement_stopped hrun]
  exact hs.stopped hrun

theorem returned_step {t : Proxy} {a : ProxyAct} (hphases : s.Phases) (hq : s.queues.Ok)
    (hcounted : s.Counted env) (ht : t.Counted env) (hs : s.Returned env others)
    (hok : s.ReturnOk env a) (h : s.step env a = some t) : t.Returned env others := by
  have hrefs := hs.refs
  cases step_cases h with
  | created _ hrun => exact returned_created hs hrun (hok hrun)
  | createdUnlocked => exact hs
  | destroyed hk =>
      exact returned_destroyed hcounted hs ((liveWakelocks_destroyed hk).append_right others)
  | postRefused _ hlive =>
      refine { hs with refs := Nat.le_trans hrefs (Nat.add_le_add_left (Nat.le_of_eq ?_) _) }
      exact freshWakelocks_perm ((liveWakelocks_refused hlive).append_right others)
  | postStarted _ hlive =>
      refine { hs with refs := Nat.le_trans hrefs (Nat.add_le_add_left (Nat.le_of_eq ?_) _) }
      exact freshWakelocks_perm ((liveWakelocks_started hlive).append_right others)
  | @posted k p writeSucceeds now hk => exact returned_posted hq hcounted hs hk (hok p hk)
  | returned hk =>
      exact returned_destroyed hcounted hs ((liveWakelocks_returned hk).append_right others)
  | taken hpc | ended hpc =>
      rw [awaiting_eq (by rw [hpc]; nofun)] at hrefs
      exact { hs with refs := hrefs }
  | wrote hpc hpending => exact returned_wrote hq hs hpc hpending
  | failed hpc hpending => exact returned_failed hq hcounted hs hpc hpending _
  | relocked hpc hpending => exact returned_relocked hq hs hpc hpending
  | timedOut _ _ _ hout => exact absurd hout (by rw [hok]; decide)
  | reads | ackRead | ackNotRead | received | acked => exact { hs with }
  | ackProcessed hpc => exact returned_processed hcounted hs hpc
  | @wakelocksEnded now _ hrun => exact returned_of_zero ht (reset_stopped hs hrun now)
  | stopped => exact { hs with stopped := fun _ => hok }
  | @joined now hi =>
      exact returned_of_zero ht (reset_stopped hs (hphases.stopped (by rw [hi]; nofun)) now)
  | cleared hi | restarted hi =>
      exact returned_of_zero ht (hs.stopped (hphases.stopped (by rw [hi]; nofun)))

end Returned

end Proxy

namespace TestedProxy

/-- The `ScopedWakelock`s of the calls past their test. -/
def others (f : TestedProxy) : List Int :=
  f.destroying ++ (f.posting.bind Posting.wakelock).toList

/-- The locked `ScopedWakelock`s that exist. -/
def liveWakelocks (f : TestedProxy) : List Int := f.proxy.liveWakelocks ++ f.others

/-- A step that forgets no reference: those of `proxy`, and a call past its test takes its references
while the threads run. -/
def ReturnOk (env : Env) (f : TestedProxy) : TestedAct → Prop
  | .proxy a => f.proxy.ReturnOk env a
  | .create now => f.proxy.mThreadsRun = true ∧ f.proxy.mWakelockTimeoutResetTime ≤ now
  | .post writeSucceeds _ => ∀ p ∈ f.posting,
      (0 < p.numWakeupEvents → f.proxy.mThreadsRun = true) ∧
        f.proxy.DiscardsNoWakeUp env p writeSucceeds
  | .timeout _ => False
  | _ => True

/-- Each reference will be given back, and no timeout is at work. -/
structure Returned (env : Env) (f : TestedProxy) : Prop where
  proxy : f.proxy.Returned env f.others
  noTimeout : f.wakelocks = none ∨ f.wakelocks = some .processing

variable {env : Env} {f g : TestedProxy}

/-- A `ScopedWakelock` goes from one hand to another. -/
theorem Returned.moved (h : f.Returned env) {live returning others : List Int}
    (hperm : f.liveWakelocks.Perm
      ({ f.proxy with live := live, returning := returning }.liveWakelocks ++ others)) :
    { f.proxy with live := live, returning := returning }.Returned env others := by
  refine { h.proxy with
    refs := Nat.le_trans h.proxy.refs (Nat.add_le_add_left (Nat.le_of_eq ?_) _) }
  exact Proxy.freshWakelocks_perm hperm

/-- The `ScopedWakelock` of a locked post moves into the call, ... -/
theorem liveWakelocks_passPost {k : Nat} {p : Posting} (hnone : f.posting = none)
    (hk : f.proxy.posting[k]? = some p) : f.liveWakelocks.Perm
      ({ f.proxy with posting := f.proxy.posting.eraseIdx k }.liveWakelocks ++
        (f.destroying ++ p.wakelock.toList)) := by
  have hmap := (Proxy.perm_cons_eraseIdx hk).filterMap Posting.wakelock
  unfold liveWakelocks others Proxy.liveWakelocks
  rw [hnone, List.perm_iff_count]
  intro createdAt
  have hcount := hmap.count_eq createdAt
  rw [List.filterMap_cons] at hcount
  cases hlock : p.wakelock <;> rw [hlock] at hcount <;>
    simp only [List.count_append, List.count_cons, Option.bind_none, Option.toList_none,
      Option.toList_some, List.count_nil] at hcount ⊢ <;> omega

/-- ... and out of it. -/
theorem liveWakelocks_post {p : Posting} (hp : f.posting = some p) : f.liveWakelocks.Perm
    ({ f.proxy with
      returning := p.wakelock.toList ++ f.proxy.returning }.liveWakelocks ++ f.destroying) := by
  unfold liveWakelocks others Proxy.liveWakelocks
  rw [hp, List.perm_iff_count]
  intro createdAt
  simp only [List.count_append, Option.bind_some]
  omega

theorem returned_post (hok : f.Ok env) (h : f.Returned env) {p : Posting}
    (hp : f.posting = some p) {writeSucceeds : Bool} {now : Int}
    (hreturn : f.ReturnOk env (.post writeSucceeds now)) :
    (({ f.proxy with
      returning := p.wakelock.toList ++ f.proxy.returning }.incrementLocked
        p.numWakeupEvents now).wroteOrQueued p
          (f.proxy.numToWrite p.events writeSucceeds)).Returned env f.destroying := by
  obtain ⟨hrun, hdiscards⟩ := hreturn p hp
  have hfresh := Proxy.freshWakelocks_perm (liveWakelocks_post hp)
  have hrefs := Proxy.refs_posted hok.queues h.proxy _ (hok.posting p hp).2
    (Or.inr ⟨rfl, hdiscards⟩)
  refine ⟨Nat.le_trans hrefs (Nat.add_le_add_left (Nat.le_of_eq hfresh) _), fun hstop => ?_⟩
  have hzero : p.numWakeupEvents = 0 := by
    by_contra hne
    exact absurd (hstop.symm.trans (hrun (Nat.pos_of_ne_zero hne))) (by decide)
  show f.proxy.mWakelockRefCount + p.numWakeupEvents = 0
  rw [hzero, h.proxy.stopped hstop]

/-- The references of a chunk that was not written are given back when the thread gets there. -/
theorem returned_giveBack (hok : f.Ok env) (h : f.Returned env) {delta : Nat} {v : List Event}
    {num num' size n : Nat} {rest : List (List Event × Nat)} (hgive : f.givingBack = some delta)
    (hpc : f.proxy.pendingWritesThread = .writing num' size n)
    (hq : f.proxy.mPendingWriteEventsQueue = (v, num) :: rest) :
    ({ f.proxy with
      session := { f.proxy.session with
        droppedFailed := f.proxy.session.droppedFailed ++ v.take n }
      pendingWritesThread := .relocking size n }.decrementLocked delta (-1)).Returned env
        f.others := by
  have hdelta : delta = f.proxy.givenBack v num' size := by
    obtain ⟨w, m, m', size', n', rest', hpc', hq', hdelta⟩ := hok.givingBack delta hgive
    cases hpc.symm.trans hpc'
    cases hq.symm.trans hq'
    exact hdelta
  have hback := Proxy.returned_failed hok.queues hok.counted h.proxy hpc hq
    f.proxy.tables
  rw [hdelta, Proxy.decrementLocked_of_zero]
  · exact hback
  · exact h.proxy.stopped

theorem returned_step {a : TestedAct} (hok : f.Ok env) (hok' : g.Ok env) (h : f.Returned env)
    (hreturn : f.ReturnOk env a) (hstep : f.step env a = some g) : g.Returned env := by
  have htimeout : ∀ {w : WakelockUpdate} {P : Prop}, f.wakelocks = some w → w ≠ .processing → P := by
    intro w P hw hne
    rcases h.noTimeout with hnone | hprocessing
    · exact absurd (hw.symm.trans hnone) nofun
    · exact absurd (Option.some.inj (hw.symm.trans hprocessing)) hne
  cases step_cases hstep with
  | proxy _ ht =>
      refine { h with proxy := ?_ }
      exact Proxy.returned_step hok.phases hok.queues hok.counted hok'.counted h.proxy hreturn ht
  | passCreate => exact { h with }
  | create => exact { h with proxy := Proxy.returned_created h.proxy hreturn.1 hreturn.2 }
  | passDestroy hrun hk =>
      refine { h with proxy := h.moved ?_ }
      exact ((Proxy.liveWakelocks_destroyed hk).append_right _).trans List.perm_middle.symm
  | passReturn hrun hk =>
      refine { h with proxy := h.moved ?_ }
      exact ((Proxy.liveWakelocks_returned hk).append_right _).trans List.perm_middle.symm
  | destroy hfree hk =>
      refine { h with proxy := ?_ }
      rw [Proxy.decrementLocked_of_zero h.proxy.stopped]
      apply Proxy.returned_destroyed hok.counted h.proxy
      have hothers := (Proxy.perm_cons_eraseIdx hk).append_right (f.posting.bind Posting.wakelock).toList
      exact (hothers.append_left f.proxy.liveWakelocks).trans List.perm_middle
  | passPost hnone hrun hk hlocked =>
      have hfresh := Proxy.freshWakelocks_perm (liveWakelocks_passPost hnone hk)
      refine { h with proxy := { h.proxy with
        refs := Nat.le_trans h.proxy.refs (Nat.add_le_add_left (Nat.le_of_eq hfresh) _) } }
  | post hfree hp =>
      refine { h with proxy := ?_ }
      show Proxy.Returned env (f.destroying ++ []) _
      rw [List.append_nil]
      exact returned_post hok h hp hreturn
  | passFailed => exact { h with proxy := { h.proxy with } }
  | giveBack hfree hgive hpc hq => exact { h with proxy := returned_giveBack hok h hgive hpc hq }
  | passProcess => exact { h with noTimeout := Or.inr rfl }
  | process hw hpc =>
      refine ⟨?_, Or.inl rfl⟩
      rw [Proxy.decrementLocked_of_zero h.proxy.stopped]
      exact Proxy.returned_processed hok.counted h.proxy hpc
  | timeout => exact absurd hreturn id
  | passReset hw => exact htimeout hw nofun
  | reset hw => exact htimeout hw nofun
  | skipReset hw => exact htimeout hw nofun

theorem returned_of_reachUnder (h : (testedProxy env).ReachUnder (ReturnOk env) f) :
    f.Returned env := by
  refine h.invariant_of_reach ?_ ?_
  · rintro f ⟨now, rfl⟩
    exact ⟨Proxy.returned_of_zero (Proxy.counted_construct env now) rfl, Or.inl rfl⟩
  · intro f a g hf hreturned hok hstep
    exact returned_step (ok_of_reach hf.reach) (ok_of_reach (hf.next hok hstep).reach) hreturned hok
      hstep

end TestedProxy

/-- In every run whose steps meet `ReturnOk`, wherever its calls stop between their test and their
update: once no wake-up event is pending, every written one has been acknowledged and its
acknowledgement processed, and no `ScopedWakelock` is alive, the count is 0. -/
theorem references_returned {env : Env} {f : TestedProxy}
    (h : (testedProxy env).ReachUnder (TestedProxy.ReturnOk env) f)
    (hpending : env.wakeUps (pendingEvents f.proxy.mPendingWriteEventsQueue) = 0)
    (hacked : env.wakeUps f.proxy.session.written ≤ f.proxy.session.handled)
    (hlive : f.liveWakelocks = []) : f.proxy.mWakelockRefCount = 0 := by
  have hrefs := (TestedProxy.returned_of_reachUnder h).proxy.refs
  have hfresh : f.proxy.freshWakelocks f.others = 0 := by
    unfold Proxy.freshWakelocks
    rw [show f.proxy.liveWakelocks ++ f.others = [] from hlive]
    rfl
  have hawait : env.staticWakeUps f.proxy.awaiting ≤ 0 := by
    rw [← hpending]
    apply Nat.le_trans (staticWakeUps_le env f.proxy.awaiting)
    apply List.Sublist.countP_le
    unfold Proxy.awaiting Queues.awaiting
    split
    · exact List.drop_sublist _ _
    · exact List.Sublist.refl _
  omega

/-- A wake-up event is posted, read, acknowledged, and its acknowledgement processed; every call
stops after its test. -/
theorem references_returned_one_event : ∃ f,
    (testedProxy wakeUpEnv).run (.idle (.construct wakeUpEnv 0))
      ((initialized 1).map .proxy ++
        [.passCreate, .create 2, .proxy (.postEvents 0 [⟨3, 1, 1, 0, []⟩] (some 0)), .passPost 0,
          .post true 4, .passReturn 0, .destroy 0, .proxy (.frameworkRead 1),
          .proxy (.frameworkAck 1), .proxy (.wakelockCheck 5 5), .proxy .wakelockRead, .passProcess,
          .process]) = some f ∧
      wakeUpEnv.wakeUps f.proxy.session.written = 1 ∧ f.proxy.mWakelockRefCount = 0 := by
  have h : (testedProxy wakeUpEnv).ReachUnder (TestedProxy.ReturnOk wakeUpEnv) _ :=
    .next (a := .process)
      (.next (a := .passProcess)
        (.next (a := .proxy .wakelockRead)
          (.next (a := .proxy (.wakelockCheck 5 5))
            (.next (a := .proxy (.frameworkAck 1))
              (.next (a := .proxy (.frameworkRead 1))
                (.next (a := .destroy 0)
                  (.next (a := .passReturn 0)
                    (.next (a := .post true 4)
                      (.next (a := .passPost 0)
                        (.next (a := .proxy (.postEvents 0 [⟨3, 1, 1, 0, []⟩] (some 0)))
                          (.next (a := .create 2)
                            (.next (a := .passCreate)
                              (.next (a := .proxy .restartThreads)
                                (.next (a := .proxy (.clearQueues 1))
                                  (.next (a := .proxy (.resetAfterJoin 1))
                                    (.next (a := .proxy .stopThreads) (.start ⟨0, rfl⟩) rfl rfl)
                                    trivial rfl)
                                  trivial rfl)
                                trivial rfl)
                              trivial rfl)
                            (by exact ⟨rfl, by decide⟩) rfl)
                          trivial rfl)
                        trivial rfl)
                      (by rintro p ⟨⟩; exact ⟨fun _ => rfl, by decide⟩) rfl)
                    trivial rfl)
                  trivial rfl)
                trivial rfl)
              trivial rfl)
            rfl rfl)
          trivial rfl)
        trivial rfl)
      trivial rfl
  exact ⟨_, rfl, rfl, references_returned h rfl (Nat.le_refl 1) rfl⟩

/-! ## A batch that does not fit -/

section Overflow

def wakeEvent : Event := ⟨3, 1, 1, 0, []⟩

/-- After the first initialization, with room for one event, a sub-HAL has created a locked
`ScopedWakelock`. -/
def lockedOnce : Proxy :=
  { Proxy.construct wakeUpEnv 0 with
    mEventQueue := ⟨1, []⟩
    mWakelockRefCount := 1
    mWakelockTimeoutStartTime := 2
    mWakelockTimeoutResetTime := 1
    wakeLockHeld := true
    pendingWritesThread := .waiting
    wakelockThread := .waiting
    callbackSet := true
    live := [2] }

variable (rest : List Event) (num : Nat)

/-- It posts one wake-up event and `rest` with it. -/
def lockedPosting : Proxy :=
  { lockedOnce with
    tables := lockedOnce.tables.lookups ((wakeEvent :: rest).map Event.sensorHandle)
    live := []
    posting := [⟨wakeEvent :: rest, num, some 2⟩] }

/-- The one event is written, the rest is discarded. -/
def restDiscarded : Proxy :=
  { lockedPosting rest num with
    mEventQueue := ⟨1, [wakeEvent]⟩
    mWakelockRefCount := 1 + num
    mWakelockTimeoutStartTime := 4
    posting := []
    returning := [2]
    session := { Session.empty with
      posted := wakeEvent :: rest
      written := [wakeEvent]
      droppedFull := rest } }

theorem step_lockedPosting (hevents : (wakeEvent :: rest).map (processedEvent 0) = wakeEvent :: rest)
    (hnum : staticWakeUpCount lockedOnce.tables (wakeEvent :: rest) = num) :
    lockedOnce.step wakeUpEnv (.postEvents 0 (wakeEvent :: rest) (some 0)) =
      some (lockedPosting rest num) := by
  have hgo : ¬ (wakeEvent :: rest = [] ∨ lockedOnce.mThreadsRun = false) := by
    rintro (hempty | hrun)
    · exact absurd hempty (by simp)
    · exact absurd hrun (by decide)
  show some ({ lockedOnce with live := [] }.postEvents 0 (wakeEvent :: rest) (some 2)) = _
  unfold Proxy.postEvents
  rw [if_neg hgo, processEvents_eq, hevents]
  dsimp only
  rw [hnum]
  rfl

theorem step_restDiscarded (hrest : kMaxSizePendingWriteEventsQueue < rest.length) :
    (lockedPosting rest num).step wakeUpEnv (.postWaiting 0 true 4) =
      some (restDiscarded rest num) := by
  have hn : (lockedPosting rest num).numToWrite (wakeEvent :: rest) true = 1 := by
    unfold Proxy.numToWrite
    have hdirect : ((lockedPosting rest num).mPendingWriteEventsQueue.isEmpty && true) = true := rfl
    rw [if_pos hdirect, List.length_cons]
    exact Nat.min_eq_right (Nat.le_add_left 1 rest.length)
  have hfits : ¬ (lockedPosting rest num).fits rest := by
    rintro ⟨_, hle⟩
    have hle : 0 + rest.length ≤ kMaxSizePendingWriteEventsQueue := hle
    omega
  have hqueued : (lockedPosting rest num).queuedPart rest num = [] := if_neg hfits
  have hdiscarded : (lockedPosting rest num).discardedPart rest = rest := if_neg hfits
  show some (({ lockedPosting rest num with
    posting := []
    returning := [2] } : Proxy).postEventsToMessageQueue
      ⟨wakeEvent :: rest, num, some 2⟩ true 4) = _
  rw [Proxy.postEventsToMessageQueue_eq]
  show some (Proxy.afterPost _ _ ((lockedPosting rest num).numToWrite (wakeEvent :: rest) true) 4) = _
  rw [hn]
  apply congrArg some
  show ({ restDiscarded rest num with
    mPendingWriteEventsQueue := (lockedPosting rest num).queuedPart rest num
    mSizePendingWriteEventsQueue :=
      0 + (((lockedPosting rest num).queuedPart rest num).flatMap Prod.fst).length
    session := { Session.empty with
      posted := wakeEvent :: rest
      written := [wakeEvent]
      droppedFull := (lockedPosting rest num).discardedPart rest } } : Proxy) = _
  rw [hqueued, hdiscarded]
  rfl

/-- A locked post of more events than there is room for: the discarded ones keep their references
after everything else has been given back. -/
theorem discarded_keep_references : ∃ f,
    (testedProxy wakeUpEnv).run (.idle (.construct wakeUpEnv 0)) ((initialized 1 ++
      [ProxyAct.createScopedWakelock 2] ++
      [ProxyAct.postEvents 0 (wakeEvent :: List.replicate 100001 wakeEvent) (some 0),
        .postWaiting 0 true 4] ++
      [ProxyAct.postReturns 0, .frameworkRead 1, .frameworkAck 1, .wakelockCheck 5 5, .wakelockRead,
        .wakelockProcess]).map .proxy) = some f ∧
      wakeUpEnv.wakeUps (pendingEvents f.proxy.mPendingWriteEventsQueue) = 0 ∧
      wakeUpEnv.wakeUps f.proxy.session.written ≤ f.proxy.session.handled ∧
      f.liveWakelocks = [] ∧ f.proxy.mWakelockRefCount = 100001 ∧ f.proxy.wakeLockHeld = true := by
  have hlock : (proxy wakeUpEnv).run (.construct wakeUpEnv 0)
      (initialized 1 ++ [.createScopedWakelock 2]) = some lockedOnce := rfl
  have hposting := step_lockedPosting (List.replicate 100001 wakeEvent) 100002
    (by rw [List.map_cons, List.map_replicate]; rfl)
    (by rw [staticWakeUpCount_cons, staticWakeUpCount, List.countP_replicate, if_pos (by decide)]; rfl)
  have hposted := step_restDiscarded (List.replicate 100001 wakeEvent) 100002
    (by rw [List.length_replicate]; decide)
  have hpost : (proxy wakeUpEnv).run lockedOnce
      [.postEvents 0 (wakeEvent :: List.replicate 100001 wakeEvent) (some 0),
        .postWaiting 0 true 4] = some _ :=
    (proxy wakeUpEnv).run_cons_eq_some.mpr ⟨_, hposting,
      (proxy wakeUpEnv).run_cons_eq_some.mpr ⟨_, hposted, rfl⟩⟩
  -- what is left does not look at the discarded events
  have hquiet : ∀ rest : List Event, ∃ s, (proxy wakeUpEnv).run (restDiscarded rest 100002)
      [.postReturns 0, .frameworkRead 1, .frameworkAck 1, .wakelockCheck 5 5, .wakelockRead,
        .wakelockProcess] = some s ∧
      wakeUpEnv.wakeUps (pendingEvents s.mPendingWriteEventsQueue) = 0 ∧
      wakeUpEnv.wakeUps s.session.written ≤ s.session.handled ∧ s.liveWakelocks = [] ∧
      s.mWakelockRefCount = 100001 ∧ s.wakeLockHeld = true :=
    fun rest => ⟨_, rfl, rfl, Nat.le_refl 1, rfl, rfl, rfl⟩
  obtain ⟨s, hrun, hpending, hacked, hlive, hfacts⟩ := hquiet (List.replicate 100001 wakeEvent)
  refine ⟨.idle s, TestedProxy.run_proxy ⟨rfl, rfl, rfl⟩ ?_, hpending, hacked, ?_, hfacts⟩
  · show (proxy wakeUpEnv).run (.construct wakeUpEnv 0) _ = _
    rw [Machine.run_append, Machine.run_append, hlock, Option.bind_some, hpost, Option.bind_some,
      hrun]
  · show s.liveWakelocks ++ [] = []
    rw [hlive]
    rfl

end Overflow

end Smi240Hal.MultiHal
