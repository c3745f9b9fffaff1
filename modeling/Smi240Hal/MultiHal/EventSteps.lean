/-
# Smi240Hal.MultiHal.EventSteps — what one step of the event path does

`Proxy.Step` lists, action by action, when an action is enabled and the state it leads to.
`step_cases` reads it off the code, once; the invariants of the event path are proved over it.

The reference count is written by three functions.  `decrement_eq` and `increment_eq` say that these
change the count, the lock and the start time, and nothing else, so whatever does not speak of these
three passes through them.
-/
import Mathlib.Data.List.Perm.Basic
import Smi240Hal.MultiHal.EventPath
import Smi240Hal.MultiHal.PostFrame

namespace Smi240Hal.MultiHal

open Smi240Hal.Lib

namespace Proxy

/-! ## Changing the reference count -/

/-- A decrement with this time takes effect. -/
def counts (s : Proxy) (timeoutStart : Int) : Prop :=
  s.mThreadsRun = true ∧ s.mWakelockRefCount ≠ 0 ∧ s.isStale timeoutStart = false

instance (s : Proxy) (timeoutStart : Int) : Decidable (s.counts timeoutStart) :=
  inferInstanceAs (Decidable (_ ∧ _))

/-- The count after a decrement. -/
def refAfter (s : Proxy) (delta : Nat) (timeoutStart : Int) : Nat :=
  if s.counts timeoutStart then s.mWakelockRefCount - delta else s.mWakelockRefCount

/-- The lock after a decrement. -/
def heldAfter (s : Proxy) (delta : Nat) (timeoutStart : Int) : Bool :=
  if s.counts timeoutStart ∧ s.mWakelockRefCount ≤ delta then false else s.wakeLockHeld

/-- As if the threads ran: what a call past the test goes by. -/
def running (s : Proxy) : Proxy := { s with mThreadsRun := true }

theorem running_eq {s : Proxy} (hrun : s.mThreadsRun = true) : s.running = s := by
  unfold running
  rw [← hrun]

theorem decrementLocked_eq (s : Proxy) (delta : Nat) (timeoutStart : Int) :
    s.decrementLocked delta timeoutStart = { s with
      mWakelockRefCount := s.running.refAfter delta timeoutStart
      wakeLockHeld := s.running.heldAfter delta timeoutStart } := by
  unfold decrementLocked refAfter heldAfter
  by_cases hignored : s.mWakelockRefCount = 0 ∨ s.isStale timeoutStart = true
  · have hno : ¬ s.running.counts timeoutStart := by
      rintro ⟨_, hpos, hfresh⟩
      rcases hignored with hzero | hstale
      · exact hpos hzero
      · exact absurd (hstale.symm.trans hfresh) (by decide)
    rw [if_pos hignored, if_neg hno, if_neg fun h => hno h.1]
    rfl
  · rw [not_or] at hignored
    have hcounts : s.running.counts timeoutStart :=
      ⟨rfl, hignored.1, (Bool.not_eq_true _).mp hignored.2⟩
    have hmin : s.mWakelockRefCount - min s.mWakelockRefCount delta =
        s.mWakelockRefCount - delta := by omega
    rw [if_neg (not_or.mpr hignored), if_pos hcounts]
    dsimp only
    rw [hmin]
    by_cases hle : s.mWakelockRefCount ≤ delta
    · rw [if_pos (Nat.sub_eq_zero_of_le hle), if_pos ⟨hcounts, hle⟩]
      rfl
    · rw [if_neg (fun h => hle (Nat.sub_eq_zero_iff_le.mp h)), if_neg (fun h => hle h.2)]
      rfl

theorem decrement_eq (s : Proxy) (delta : Nat) (timeoutStart : Int) :
    s.decrementRefCountAndMaybeReleaseWakelock delta timeoutStart =
      { s with
        mWakelockRefCount := s.refAfter delta timeoutStart
        wakeLockHeld := s.heldAfter delta timeoutStart } := by
  unfold decrementRefCountAndMaybeReleaseWakelock
  by_cases hrun : s.mThreadsRun = false
  · have hno : ¬ s.counts timeoutStart := fun h => absurd (hrun.symm.trans h.1) (by decide)
    unfold refAfter heldAfter
    rw [if_pos hrun, if_neg hno, if_neg fun h => hno h.1]
  · rw [if_neg hrun, decrementLocked_eq, running_eq (by simpa using hrun)]

theorem refAfter_le (s : Proxy) (delta : Nat) (timeoutStart : Int) :
    s.refAfter delta timeoutStart ≤ s.mWakelockRefCount := by
  unfold refAfter
  split <;> omega

/-- A decrement takes at most `delta`. -/
theorem le_refAfter_add (s : Proxy) (delta : Nat) (timeoutStart : Int) :
    s.mWakelockRefCount ≤ s.refAfter delta timeoutStart + delta := by
  unfold refAfter
  split <;> omega

/-- A decrement that is not for an old reference takes `delta`, or all there is. -/
theorem refAfter_add_le {s : Proxy} (delta : Nat) {timeoutStart : Int}
    (hrun : s.mThreadsRun = true) (hfresh : s.isStale timeoutStart = false) :
    s.refAfter delta timeoutStart + delta ≤ s.mWakelockRefCount ∨
      s.refAfter delta timeoutStart = 0 := by
  unfold refAfter
  by_cases hpos : s.mWakelockRefCount = 0
  · right
    split <;> omega
  · rw [if_pos ⟨hrun, hpos, hfresh⟩]
    omega

theorem isStale_now (s : Proxy) : s.isStale (-1) = false := by
  unfold isStale
  simp

/-- Without running threads nothing is given back. -/
theorem decrement_stopped {s : Proxy} (hrun : s.mThreadsRun = false) (delta : Nat)
    (timeoutStart : Int) :
    s.decrementRefCountAndMaybeReleaseWakelock delta timeoutStart = s := by
  unfold decrementRefCountAndMaybeReleaseWakelock
  rw [if_pos hrun]

theorem increment_running {s : Proxy} (hrun : s.mThreadsRun = true) (delta : Nat) (now : Int) :
    s.incrementRefCountAndMaybeAcquireWakelock delta now =
      (s.incrementLocked delta now, some now) := by
  unfold incrementRefCountAndMaybeAcquireWakelock
  rw [if_neg (by simp [hrun])]

theorem increment_stopped {s : Proxy} (hrun : s.mThreadsRun = false) (delta : Nat) (now : Int) :
    s.incrementRefCountAndMaybeAcquireWakelock delta now = (s, none) := by
  unfold incrementRefCountAndMaybeAcquireWakelock
  rw [if_pos hrun]

/-- A post takes its references. -/
def takesReferences (s : Proxy) (p : Posting) : Prop :=
  p.wakelock.isSome = true ∧ s.mThreadsRun = true

instance (s : Proxy) (p : Posting) : Decidable (s.takesReferences p) :=
  inferInstanceAs (Decidable (_ ∧ _))

/-- The count, the lock and the start time after a post has taken its references. -/
def refTaken (s : Proxy) (p : Posting) : Nat :=
  if s.takesReferences p then s.mWakelockRefCount + p.numWakeupEvents else s.mWakelockRefCount

/-- Whether the wake lock is held once a post has taken its references. -/
def heldTaken (s : Proxy) (p : Posting) : Bool :=
  if s.takesReferences p then s.wakeLockHeld || s.mWakelockRefCount == 0 else s.wakeLockHeld

/-- The time the timeout runs from once it has. -/
def startTaken (s : Proxy) (p : Posting) (now : Int) : Int :=
  if s.takesReferences p then now else s.mWakelockTimeoutStartTime

theorem locked_eq (s : Proxy) (p : Posting) (now : Int) :
    (if p.wakelock.isSome then
      (s.incrementRefCountAndMaybeAcquireWakelock p.numWakeupEvents now).1 else s) =
      { s with
        wakeLockHeld := s.heldTaken p
        mWakelockTimeoutStartTime := s.startTaken p now
        mWakelockRefCount := s.refTaken p } := by
  unfold refTaken heldTaken startTaken
  by_cases htakes : s.takesReferences p
  · obtain ⟨hlock, hrun⟩ := id htakes
    simp only [if_pos htakes]
    rw [if_pos hlock, increment_running hrun]
    rfl
  · simp only [if_neg htakes]
    by_cases hlock : p.wakelock.isSome = true
    · have hrun : s.mThreadsRun = false := by
        by_contra hrun
        exact htakes ⟨hlock, by simpa using hrun⟩
      rw [if_pos hlock, increment_stopped hrun]
    · rw [if_neg hlock]

/-- The remainder of a post fits into the pending queue. -/
def fits (s : Proxy) (eventsLeft : List Event) : Prop :=
  0 < eventsLeft.length ∧
    s.mSizePendingWriteEventsQueue + eventsLeft.length ≤ kMaxSizePendingWriteEventsQueue

instance (s : Proxy) (eventsLeft : List Event) : Decidable (s.fits eventsLeft) :=
  inferInstanceAs (Decidable (_ ∧ _))

theorem noRoom_of_not_fits {s : Proxy} {eventsLeft : List Event} (h : ¬ s.fits eventsLeft)
    (hne : eventsLeft ≠ []) :
    kMaxSizePendingWriteEventsQueue < s.mSizePendingWriteEventsQueue + eventsLeft.length := by
  by_contra hle
  exact h ⟨List.length_pos_iff.mpr hne, Nat.not_lt.mp hle⟩

/-- What goes to the pending queue. -/
def queuedPart (s : Proxy) (eventsLeft : List Event) (numWakeupEvents : Nat) :
    List (List Event × Nat) :=
  if s.fits eventsLeft then [(eventsLeft, numWakeupEvents)] else []

/-- What is discarded because the pending queue is full. -/
def discardedPart (s : Proxy) (eventsLeft : List Event) : List Event :=
  if s.fits eventsLeft then [] else eventsLeft

theorem queueLeft_eq (s : Proxy) (eventsLeft : List Event) (numWakeupEvents : Nat) :
    s.queueLeft eventsLeft numWakeupEvents = { s with
      mPendingWriteEventsQueue :=
        s.mPendingWriteEventsQueue ++ s.queuedPart eventsLeft numWakeupEvents
      mSizePendingWriteEventsQueue := s.mSizePendingWriteEventsQueue +
        ((s.queuedPart eventsLeft numWakeupEvents).flatMap Prod.fst).length
      session := { s.session with
        droppedFull := s.session.droppedFull ++ s.discardedPart eventsLeft } } := by
  unfold queuedPart discardedPart
  by_cases hfits : s.fits eventsLeft
  · simp only [if_pos hfits, List.append_nil, List.flatMap_singleton]
    exact if_pos hfits
  · simp only [if_neg hfits, List.append_nil, List.flatMap_nil, List.length_nil, Nat.add_zero]
    exact if_neg hfits

/-- The events after a post of which `n` are written directly. -/
def wroteOrQueued (s : Proxy) (p : Posting) (n : Nat) : Proxy :=
  { s with
    mEventQueue := { s.mEventQueue with data := s.mEventQueue.data ++ p.events.take n }
    mPendingWriteEventsQueue :=
      s.mPendingWriteEventsQueue ++ s.queuedPart (p.events.drop n) p.numWakeupEvents
    mSizePendingWriteEventsQueue := s.mSizePendingWriteEventsQueue +
      ((s.queuedPart (p.events.drop n) p.numWakeupEvents).flatMap Prod.fst).length
    session := { s.session with
      posted := s.session.posted ++ p.events
      written := s.session.written ++ p.events.take n
      droppedFull := s.session.droppedFull ++ s.discardedPart (p.events.drop n) } }

theorem writeOrQueue_eq (s : Proxy) (p : Posting) (writeSucceeds : Bool) :
    s.writeOrQueue p writeSucceeds = s.wroteOrQueued p (s.numToWrite p.events writeSucceeds) := by
  unfold writeOrQueue
  rw [queueLeft_eq]
  rfl

/-- The state after `postEventsToMessageQueue`, when `n` events are written directly. -/
def afterPost (s : Proxy) (p : Posting) (n : Nat) (now : Int) : Proxy :=
  { s with
    wakeLockHeld := s.heldTaken p
    mWakelockTimeoutStartTime := s.startTaken p now
    mWakelockRefCount := s.refTaken p }.wroteOrQueued p n

theorem postEventsToMessageQueue_eq (s : Proxy) (p : Posting) (writeSucceeds : Bool) (now : Int) :
    s.postEventsToMessageQueue p writeSucceeds now =
      s.afterPost p (s.numToWrite p.events writeSucceeds) now := by
  unfold postEventsToMessageQueue
  rw [locked_eq, writeOrQueue_eq]
  rfl

/-- A direct write takes events only while nothing is pending. -/
theorem numToWrite_spec (s : Proxy) (events : List Event) (writeSucceeds : Bool) :
    s.numToWrite events writeSucceeds ≤ events.length ∧
      (s.mPendingWriteEventsQueue = [] ∨ s.numToWrite events writeSucceeds = 0) := by
  unfold numToWrite
  by_cases hempty : s.mPendingWriteEventsQueue = []
  · refine ⟨?_, Or.inl hempty⟩
    split
    · exact Nat.min_le_left _ _
    · exact Nat.zero_le _
  · rw [if_neg (by simp [hempty])]
    exact ⟨Nat.zero_le _, Or.inr rfl⟩

/-- How many references are given back for a chunk that was not written. -/
def givenBack (s : Proxy) (pendingWriteEvents : List Event) (numWakeupEvents eventQueueSize : Nat) :
    Nat :=
  if 0 < numWakeupEvents then
    if eventQueueSize < pendingWriteEvents.length then
      staticWakeUpCount s.tables (pendingWriteEvents.take eventQueueSize)
    else numWakeupEvents
  else 0

theorem decrement_zero (s : Proxy) (timeoutStart : Int) :
    s.decrementRefCountAndMaybeReleaseWakelock 0 timeoutStart = s := by
  have hheld : s.heldAfter 0 timeoutStart = s.wakeLockHeld :=
    if_neg fun h => h.1.2.1 (Nat.le_zero.mp h.2)
  have href : s.refAfter 0 timeoutStart = s.mWakelockRefCount := by
    unfold refAfter
    split <;> rfl
  rw [decrement_eq, hheld, href]

theorem giveBackFailed_spec (s : Proxy) (pendingWriteEvents : List Event)
    (numWakeupEvents eventQueueSize : Nat) :
    ∃ hs : List Handle, s.giveBackFailed pendingWriteEvents numWakeupEvents eventQueueSize =
      some ({ s with tables := s.tables.lookups hs }.decrementRefCountAndMaybeReleaseWakelock
        (s.givenBack pendingWriteEvents numWakeupEvents eventQueueSize) (-1)) := by
  unfold giveBackFailed givenBack
  by_cases hnum : 0 < numWakeupEvents
  · simp only [if_pos hnum]
    by_cases hsize : eventQueueSize < pendingWriteEvents.length
    · refine ⟨(pendingWriteEvents.take eventQueueSize).map Event.sensorHandle, ?_⟩
      rw [if_pos hsize, if_pos hsize, countNumWakeupEvents_eq (Nat.le_of_lt hsize)]
      rfl
    · refine ⟨[], ?_⟩
      rw [if_neg hsize, if_neg hsize]
      rfl
  · simp only [if_neg hnum]
    exact ⟨[], congrArg some (decrement_zero s (-1)).symm⟩

/-! ## One step -/

/-- When an action is enabled, and what it leads to. -/
inductive Step (env : Env) (s : Proxy) : ProxyAct → Proxy → Prop
  | created {now : Int} (hset : s.callbackSet = true) (hrun : s.mThreadsRun = true) :
      Step env s (.createScopedWakelock now) { s with
        wakeLockHeld := s.wakeLockHeld || s.mWakelockRefCount == 0
        mWakelockTimeoutStartTime := now
        mWakelockRefCount := s.mWakelockRefCount + 1
        live := now :: s.live }
  | createdUnlocked {now : Int} (hset : s.callbackSet = true) (hrun : s.mThreadsRun = false) :
      Step env s (.createScopedWakelock now) s
  | destroyed {k : Nat} {createdAt : Int} (hk : s.live[k]? = some createdAt) :
      Step env s (.destroyScopedWakelock k)
        ({ s with live := s.live.eraseIdx k }.decrementRefCountAndMaybeReleaseWakelock 1 createdAt)
  | postRefused {i : Nat} {events : List Event} {k : Option Nat} {wakelock : Option Int}
      {live : List Int} (hset : s.callbackSet = true) (hlive : s.live.Perm (wakelock.toList ++ live))
      (hno : events = [] ∨ s.mThreadsRun = false) :
      Step env s (.postEvents i events k) { s with
        live := live
        returning := wakelock.toList ++ s.returning }
  | postStarted {i : Nat} {events : List Event} {k : Option Nat} {wakelock : Option Int}
      {live : List Int} (hset : s.callbackSet = true) (hlive : s.live.Perm (wakelock.toList ++ live))
      (hne : events ≠ []) (hrun : s.mThreadsRun = true) :
      Step env s (.postEvents i events k) { s with
        live := live
        tables := s.tables.lookups ((events.map (processedEvent i)).map Event.sensorHandle)
        posting := s.posting ++ [⟨events.map (processedEvent i),
          staticWakeUpCount s.tables (events.map (processedEvent i)), wakelock⟩] }
  | posted {k : Nat} {p : Posting} {writeSucceeds : Bool} {now : Int}
      (hk : s.posting[k]? = some p) :
      Step env s (.postWaiting k writeSucceeds now) ({ s with
        posting := s.posting.eraseIdx k
        returning := p.wakelock.toList ++ s.returning }.afterPost p
          (s.numToWrite p.events writeSucceeds) now)
  | returned {k : Nat} {createdAt : Int} (hk : s.returning[k]? = some createdAt) :
      Step env s (.postReturns k)
        ({ s with
          returning := s.returning.eraseIdx k }.decrementRefCountAndMaybeReleaseWakelock 1 createdAt)
  | taken {v : List Event} {num : Nat} {rest : List (List Event × Nat)}
      (hpc : s.pendingWritesThread = .waiting)
      (hq : s.mPendingWriteEventsQueue = (v, num) :: rest) (hrun : s.mThreadsRun = true) :
      Step env s .pendingTake { s with
        pendingWritesThread := .writing num s.mEventQueue.quantumCount
          (min v.length s.mEventQueue.quantumCount) }
  | wrote {v : List Event} {num num' size n : Nat} {rest : List (List Event × Nat)}
      (hpc : s.pendingWritesThread = .writing num' size n)
      (hq : s.mPendingWriteEventsQueue = (v, num) :: rest)
      (hroom : n ≤ s.mEventQueue.availableToWrite) :
      Step env s .pendingWritten { s.writeEvents (v.take n) with
        pendingWritesThread := .relocking size n }
  | failed {v : List Event} {num num' size n : Nat} {rest : List (List Event × Nat)}
      {hs : List Handle} (hpc : s.pendingWritesThread = .writing num' size n)
      (hq : s.mPendingWriteEventsQueue = (v, num) :: rest) :
      Step env s .pendingFailed ({ s with
        tables := s.tables.lookups hs
        session := { s.session with
          droppedFailed := s.session.droppedFailed ++ v.take n }
        pendingWritesThread := .relocking size n }.decrementRefCountAndMaybeReleaseWakelock
          (s.givenBack v num' size) (-1))
  | relocked {v : List Event} {num size n : Nat} {rest : List (List Event × Nat)}
      (hpc : s.pendingWritesThread = .relocking size n)
      (hq : s.mPendingWriteEventsQueue = (v, num) :: rest) :
      Step env s .pendingRelock { s with
        mSizePendingWriteEventsQueue := subSize s.mSizePendingWriteEventsQueue n
        mPendingWriteEventsQueue := if size < v.length then (v.drop size, num) :: rest else rest
        pendingWritesThread := .waiting }
  | ended (hpc : s.pendingWritesThread = .waiting) (hrun : s.mThreadsRun = false) :
      Step env s .pendingExit { s with pendingWritesThread := .ended }
  | timedOut {now resetNow : Int} (hpc : s.wakelockThread = .waiting) (hrun : s.mThreadsRun = true)
      (hpos : 0 < s.mWakelockRefCount) (hout : s.sharedWakelockDidTimeout env now = true) :
      Step env s (.wakelockCheck now resetNow) (s.resetSharedWakelock resetNow)
  | reads {now resetNow : Int} (hpc : s.wakelockThread = .waiting) (hrun : s.mThreadsRun = true)
      (hpos : 0 < s.mWakelockRefCount) :
      Step env s (.wakelockCheck now resetNow) { s with wakelockThread := .reading }
  | ackRead {n : Nat} {rest : List Nat} (hpc : s.wakelockThread = .reading)
      (hq : s.mWakeLockQueue = n :: rest) :
      Step env s .wakelockRead { s with
        mWakeLockQueue := rest
        wakelockThread := .processing n }
  | ackNotRead (hpc : s.wakelockThread = .reading) :
      Step env s .wakelockReadFails { s with wakelockThread := .waiting }
  | ackProcessed {n : Nat} (hpc : s.wakelockThread = .processing n) :
      Step env s .wakelockProcess { s.decrementRefCountAndMaybeReleaseWakelock n (-1) with
        wakelockThread := .waiting
        session := { s.session with handled := s.session.handled + n } }
  | wakelocksEnded {now : Int} (hpc : s.wakelockThread = .waiting) (hrun : s.mThreadsRun = false) :
      Step env s (.wakelockExit now) { s.resetSharedWakelock now with wakelockThread := .ended }
  | received {n : Nat} (hn : n ≤ s.mEventQueue.data.length) :
      Step env s (.frameworkRead n) { s with
        mEventQueue := { s.mEventQueue with data := s.mEventQueue.data.drop n }
        session := { s.session with received := s.session.received ++ s.mEventQueue.data.take n } }
  | acked {n : Nat} (hn : s.session.acked + n ≤ env.wakeUps s.session.received) :
      Step env s (.frameworkAck n) { s with
        mWakeLockQueue := s.mWakeLockQueue ++ [n]
        session := { s.session with acked := s.session.acked + n } }
  | stopped (hi : s.initializing = .notRunning) :
      Step env s .stopThreads { s with
        mThreadsRun := false
        mEventQueue := { s.mEventQueue with data := [] }
        mWakeLockQueue := s.mWakeLockQueue ++ [0]
        initializing := .joining }
  | joined {now : Int} (hi : s.initializing = .joining) (hpw : s.pendingWritesThread = .ended)
      (hwl : s.wakelockThread = .ended) :
      Step env s (.resetAfterJoin now) { s.resetSharedWakelock now with
        initializing := .wakelockReset }
  | cleared {quantumCount : Nat} (hi : s.initializing = .wakelockReset) :
      Step env s (.clearQueues quantumCount) { s with
        tables := { s.tables with mDynamicSensors := ∅ }
        mEventQueue := ⟨quantumCount, []⟩
        mWakeLockQueue := []
        mPendingWriteEventsQueue := []
        mSizePendingWriteEventsQueue := 0
        session := .empty
        initializing := .cleared }
  | restarted (hi : s.initializing = .cleared) :
      Step env s .restartThreads { s with
        mThreadsRun := true
        pendingWritesThread := .waiting
        wakelockThread := .waiting
        callbackSet := true
        initializing := .notRunning }

theorem perm_cons_eraseIdx {α : Type*} {l : List α} {k : Nat} {x : α} (h : l[k]? = some x) :
    l.Perm (x :: l.eraseIdx k) := by
  obtain ⟨hk, rfl⟩ := List.getElem?_eq_some_iff.mp h
  exact (List.getElem_cons_eraseIdx_perm hk).symm

theorem postEvents_cases {env : Env} {s t : Proxy} {i : Nat} {events : List Event} {k : Option Nat}
    (hset : s.callbackSet = true) (h : s.postEventsWith i events k = some t) :
    Step env s (.postEvents i events k) t := by
  -- what happens once the wake lock has been taken out of `live`
  have hpost : ∀ (wakelock : Option Int) (live : List Int),
      s.live.Perm (wakelock.toList ++ live) →
      Step env s (.postEvents i events k) ({ s with live := live }.postEvents i events wakelock) := by
    intro wakelock live hlive
    unfold postEvents
    split
    case isTrue hno => exact .postRefused hset hlive hno
    case isFalse hyes =>
      rw [not_or] at hyes
      rw [processEvents_eq]
      exact .postStarted hset hlive hyes.1 (by simpa using hyes.2)
  cases k with
  | none =>
      cases h
      exact hpost none s.live (List.Perm.refl _)
  | some k =>
      obtain ⟨createdAt, hk, heq⟩ := Option.bind_eq_some_iff.mp h
      cases heq
      exact hpost (some createdAt) (s.live.eraseIdx k) (perm_cons_eraseIdx hk)

theorem createScopedWakelock_cases {env : Env} {s : Proxy} {now : Int} (hset : s.callbackSet = true) :
    Step env s (.createScopedWakelock now) (s.createScopedWakelock now) := by
  unfold createScopedWakelock
  by_cases hrun : s.mThreadsRun = true
  · rw [increment_running hrun]
    exact .created hset hrun
  · have hrun : s.mThreadsRun = false := by simpa using hrun
    rw [increment_stopped hrun]
    exact .createdUnlocked hset hrun

theorem destroyScopedWakelock_cases {env : Env} {s t : Proxy} {k : Nat}
    (h : s.destroyScopedWakelock k = some t) : Step env s (.destroyScopedWakelock k) t := by
  obtain ⟨createdAt, hk, heq⟩ := Option.bind_eq_some_iff.mp h
  cases heq
  exact .destroyed hk

theorem postWaiting_cases {env : Env} {s t : Proxy} {k : Nat} {writeSucceeds : Bool} {now : Int}
    (h : s.postWaiting k writeSucceeds now = some t) :
    Step env s (.postWaiting k writeSucceeds now) t := by
  obtain ⟨p, hk, heq⟩ := Option.bind_eq_some_iff.mp h
  cases heq
  rw [postEventsToMessageQueue_eq]
  exact .posted hk

theorem postReturns_cases {env : Env} {s t : Proxy} {k : Nat} (h : s.postReturns k = some t) :
    Step env s (.postReturns k) t := by
  obtain ⟨createdAt, hk, heq⟩ := Option.bind_eq_some_iff.mp h
  cases heq
  exact .returned hk

theorem pendingTake_cases {env : Env} {s t : Proxy} (h : s.pendingTake = some t) :
    Step env s .pendingTake t := by
  unfold pendingTake at h
  split at h
  case h_1 v num rest hpc hq =>
    split at h
    case isTrue hrun =>
      cases h
      exact .taken hpc hq hrun
    case isFalse => cases h
  case h_2 => cases h

theorem pendingWritten_cases {env : Env} {s t : Proxy} (h : s.pendingWritten = some t) :
    Step env s .pendingWritten t := by
  unfold pendingWritten at h
  split at h
  case h_1 hpc hq =>
    split at h
    case isTrue hroom =>
      cases h
      exact .wrote hpc hq hroom
    case isFalse => cases h
  case h_2 => cases h

theorem pendingFailed_cases {env : Env} {s t : Proxy} (h : s.pendingFailed = some t) :
    Step env s .pendingFailed t := by
  unfold pendingFailed at h
  split at h
  case h_1 num size n v num' rest hpc hq =>
    obtain ⟨hs, heq⟩ := giveBackFailed_spec { s with
      session := { s.session with droppedFailed := s.session.droppedFailed ++ v.take n }
      pendingWritesThread := .relocking size n } v num size
    rw [heq] at h
    cases h
    exact .failed hpc hq
  case h_2 => cases h

theorem pendingRelock_cases {env : Env} {s t : Proxy} (h : s.pendingRelock = some t) :
    Step env s .pendingRelock t := by
  unfold pendingRelock at h
  split at h
  case h_1 hpc hq =>
    cases h
    exact .relocked hpc hq
  case h_2 => cases h

theorem wakelockCheck_cases {env : Env} {s t : Proxy} {now resetNow : Int}
    (h : s.wakelockCheck env now resetNow = some t) :
    Step env s (.wakelockCheck now resetNow) t := by
  obtain ⟨⟨hpc, hrun, hpos⟩, heq⟩ := Option.ite_none_right_eq_some.mp h
  by_cases hout : s.sharedWakelockDidTimeout env now = true
  · rw [if_pos hout] at heq
    cases heq
    exact .timedOut hpc hrun hpos hout
  · rw [if_neg hout] at heq
    cases heq
    exact .reads hpc hrun hpos

theorem wakelockRead_cases {env : Env} {s t : Proxy} (h : s.wakelockRead = some t) :
    Step env s .wakelockRead t := by
  unfold wakelockRead at h
  split at h
  case h_1 hpc hq =>
    cases h
    exact .ackRead hpc hq
  case h_2 => cases h

theorem wakelockProcess_cases {env : Env} {s t : Proxy} (h : s.wakelockProcess = some t) :
    Step env s .wakelockProcess t := by
  unfold wakelockProcess at h
  split at h
  case h_1 n hpc =>
    cases h
    exact .ackProcessed hpc
  case h_2 => cases h

/-- What the code does in one step is in the list. -/
theorem step_cases {env : Env} {s t : Proxy} {a : ProxyAct} (h : s.step env a = some t) :
    Step env s a t := by
  cases a with
  | createScopedWakelock now =>
      obtain ⟨hset, heq⟩ := Option.ite_none_right_eq_some.mp h
      cases heq
      exact createScopedWakelock_cases hset
  | destroyScopedWakelock k => exact destroyScopedWakelock_cases h
  | postEvents i events k =>
      obtain ⟨hset, heq⟩ := Option.ite_none_right_eq_some.mp h
      exact postEvents_cases hset heq
  | postWaiting k writeSucceeds now => exact postWaiting_cases h
  | postReturns k => exact postReturns_cases h
  | pendingTake => exact pendingTake_cases h
  | pendingWritten => exact pendingWritten_cases h
  | pendingFailed => exact pendingFailed_cases h
  | pendingRelock => exact pendingRelock_cases h
  | pendingExit =>
      obtain ⟨⟨hpc, hrun⟩, heq⟩ := Option.ite_none_right_eq_some.mp h
      cases heq
      exact .ended hpc hrun
  | wakelockCheck now resetNow => exact wakelockCheck_cases h
  | wakelockRead => exact wakelockRead_cases h
  | wakelockReadFails =>
      obtain ⟨hpc, heq⟩ := Option.ite_none_right_eq_some.mp h
      cases heq
      exact .ackNotRead hpc
  | wakelockProcess => exact wakelockProcess_cases h
  | wakelockExit now =>
      obtain ⟨⟨hpc, hrun⟩, heq⟩ := Option.ite_none_right_eq_some.mp h
      cases heq
      exact .wakelocksEnded hpc hrun
  | frameworkRead n =>
      obtain ⟨hn, heq⟩ := Option.ite_none_right_eq_some.mp h
      cases heq
      exact .received hn
  | frameworkAck n =>
      obtain ⟨hn, heq⟩ := Option.ite_none_right_eq_some.mp h
      cases heq
      exact .acked hn.1
  | stopThreads =>
      obtain ⟨hi, heq⟩ := Option.ite_none_right_eq_some.mp h
      cases heq
      exact .stopped hi
  | resetAfterJoin now =>
      obtain ⟨⟨hi, hpw, hwl⟩, heq⟩ := Option.ite_none_right_eq_some.mp h
      cases heq
      exact .joined hi hpw hwl
  | clearQueues quantumCount =>
      obtain ⟨hi, heq⟩ := Option.ite_none_right_eq_some.mp h
      cases heq
      exact .cleared hi
  | restartThreads =>
      obtain ⟨hi, heq⟩ := Option.ite_none_right_eq_some.mp h
      cases heq
      exact .restarted hi

end Proxy

end Smi240Hal.MultiHal
