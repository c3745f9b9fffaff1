/-
# Smi240Hal.Direct.ObjectLifetimes — what `initialize` deletes, and who is in it

`initialize` replaces the event queue, the event flag, the callback and the wake-lock queue, and
deletes what was there.  `eventPath` knows whether a pointer is set; it does not know that a thread
may still be inside `write` of the queue the pointer has left.  Here a call of a method takes two
steps, and the thread that reads the wake-lock queue is a part of the system: `initialize` stops and
joins it before it replaces its queue, and starts it again.

An object that is deleted while somebody is in one of its methods is a fault, and so is a
`std::thread` that is assigned to while it is joinable, or joined while it is not.  `mWakeLockLock`
is left out: it is held for `updateWakeLock` alone, by one thread at a time.
-/
import Smi240Hal.Direct.EventPointers
import Smi240Hal.Lib.Simulation

namespace Smi240Hal.Direct

open Smi240Hal.Lib

/-! ## The code -/

/-- An instruction of `initialize`. -/
inductive LifeInstr
  /-- an instruction of `eventPath` -/
  | base (i : InitInstr)
  /-- `if (mReadWakeLockQueueRun.load()) mReadWakeLockQueueRun = false`, which skips the join
  otherwise -/
  | stopReader
  /-- `mWakeLockThread.join()` -/
  | joinReader
  /-- `mWakeLockQueue = ..`, of a queue just made -/
  | setWakeLockQueue
  /-- `mReadWakeLockQueueRun = true` and `mWakeLockThread = std::thread(..)` -/
  | startReader
deriving DecidableEq, Repr

/-- The instruction as `eventPath` has it; it has none about the wake-lock queue. -/
def LifeInstr.base? : LifeInstr → Option InitInstr
  | .base i => some i
  | .stopReader | .joinReader | .setWakeLockQueue | .startReader => none

/-- What `initialize` does before the thread that reads the wake-lock queue is stopped. -/
def initHead (mSensors : List Int) : FrontEnd → List LifeInstr
  | .sensors => mSensors.map fun h => .base (.disable h)
  | .aidl => .base .setQueue :: mSensors.map fun h => .base (.disable h)
  | .subHal => []

/-- What it does from there on: the thread is stopped and joined before its queue is replaced, and
started on the new one. -/
def initTail : FrontEnd → List LifeInstr
  | .sensors => [.stopReader, .joinReader, .base .setQueue, .base .deleteFlag, .base .createFlag,
      .setWakeLockQueue, .startReader]
  | .aidl => [.stopReader, .joinReader, .base .deleteFlag, .base .createFlag, .setWakeLockQueue,
      .startReader]
  | .subHal => [.base .setCallback]

/-- `initialize` of the three front ends. -/
def lifeInstrs (mSensors : List Int) (fe : FrontEnd) : List LifeInstr :=
  initHead mSensors fe ++ initTail fe

/-- What an instruction deletes, if the pointer to it is set. -/
def InitInstr.deletes : InitInstr → Option Pointer
  | .setQueue => some .mEventQueue
  | .deleteFlag => some .mEventQueueFlag
  | .setCallback => some .mCallback
  | .disable _ | .createFlag => none

/-- The object whose method an instruction of `postEvents` calls. -/
def PostInstr.calls : PostInstr → Option Pointer
  | .write => some .mEventQueue
  | .wake => some .mEventQueueFlag
  | .createScopedWakelock | .callbackPost => some .mCallback
  | .lock | .returnIfNull | .unlock => none

/-- Whether there is an object to delete. -/
def Shared.isSet (s : Shared) : Pointer → Bool
  | .mEventQueue => s.mEventQueue
  | .mEventQueueFlag => s.mEventQueueFlag
  | .mCallback => s.mCallback

/-- Where `readWakeLockFMQ` stands: before its loop test, before it goes through `mWakeLockQueue`,
in `readBlocking`, before `updateWakeLock`, or at its end. -/
inductive WakeLockThread
  | notJoinable
  | testing
  | entering
  | reading
  | updating
  | ended
deriving DecidableEq, Repr

/-- What must not happen. -/
inductive Fault
  | deletedInUse (p : Pointer)
  | wakeLockQueueDeletedInUse
  | nullWakeLockQueue
  /-- `std::terminate` -/
  | terminate
deriving DecidableEq, Repr

/-- A front end, with what its threads are in the middle of. -/
structure Lifetimes where
  hal : HalState
  /-- what is left of `initialize` -/
  initRest : List LifeInstr
  /-- the object the thread of a sensor is in a method of -/
  uses : Int → Option Pointer
  /-- the same of the binder thread -/
  callerUses : Option Pointer
  mWakeLockQueue : Bool
  mReadWakeLockQueueRun : Bool
  mWakeLockThread : WakeLockThread
  faults : List Fault

/-- A step of the framework, of `initialize`, of a `flush`, of the thread of a sensor, or of
`readWakeLockFMQ`. -/
inductive LifeAct
  | call (c : HalCall)
  /-- the next instruction of `initialize`, one of `eventPath` -/
  | initStep
  /-- the next instruction of `initialize`, one that is about the wake-lock queue -/
  | initReader
  | initReturns
  /-- the next instruction of a `flush` -/
  | flush (written : Bool)
  | flushLeaves
  | sample (sensorHandle : Int)
  /-- the next instruction of the thread of a sensor, into the method it calls -/
  | thread (sensorHandle : Int) (written : Bool)
  /-- the method returns -/
  | leave (sensorHandle : Int)
  | readerGoesOn
  | readerEnds
  | reader
deriving DecidableEq

section Machine

variable (fe : FrontEnd) (mSensors : List Int) (oneShot : Int → Bool)

namespace Lifetimes

/-- Before the first `initialize`: no queue, and no thread that reads it. -/
def init : Lifetimes where
  hal := .init
  initRest := []
  uses _ := none
  callerUses := none
  mWakeLockQueue := false
  mReadWakeLockQueueRun := false
  mWakeLockThread := .notJoinable
  faults := []

/-- Whether some thread is in a method of the object. -/
def isUsed (s : Lifetimes) (p : Pointer) : Bool :=
  s.callerUses == some p || mSensors.any fun h => s.uses h == some p

/-- The thread of a sensor enters a method, or leaves it. -/
def setUses (s : Lifetimes) (h : Int) (p : Option Pointer) : Lifetimes :=
  { s with uses := fun j => if j = h then p else s.uses j }

/-- The object of a pointer is deleted. -/
def delete (s : Lifetimes) : Option Pointer → Lifetimes
  | none => s
  | some p =>
      if s.hal.shared.isSet p && s.isUsed mSensors p then
        { s with faults := s.faults ++ [.deletedInUse p] }
      else s

/-- `Sensor::activate` waits for a thread that is in a method, too. -/
def MayActivate (s : Lifetimes) (h : Int) (enable : Bool) : Prop :=
  s.hal.mIsEnabled h = enable ∨ s.uses h = none

instance (s : Lifetimes) (h : Int) (enable : Bool) : Decidable (s.MayActivate h enable) :=
  inferInstanceAs (Decidable (_ ∨ _))

/-- Of the calls only `activate` waits. -/
def MayCall (s : Lifetimes) : HalCall → Prop
  | .activate h enabled => s.MayActivate h enabled
  | .batch _ _ | .flush _ | .initializeCall _ => True

instance (s : Lifetimes) : (c : HalCall) → Decidable (s.MayCall c)
  | .activate h enabled => inferInstanceAs (Decidable (s.MayActivate h enabled))
  | .batch _ _ | .flush _ | .initializeCall _ => isTrue trivial

/-- Of the instructions only the `activate` of a sensor waits. -/
def MayInit (s : Lifetimes) : InitInstr → Prop
  | .disable h => s.MayActivate h false
  | .setQueue | .deleteFlag | .createFlag | .setCallback => True

instance (s : Lifetimes) : (i : InitInstr) → Decidable (s.MayInit i)
  | .disable h => inferInstanceAs (Decidable (s.MayActivate h false))
  | .setQueue | .deleteFlag | .createFlag | .setCallback => isTrue trivial

/-- What a call leaves to be done. -/
def restOf (s : Lifetimes) : HalCall → List LifeInstr
  | .initializeCall _ => lifeInstrs mSensors fe
  | .activate _ _ | .batch _ _ | .flush _ => s.initRest

/-- The next instruction of `initialize`, where it is one of `eventPath`: the object it replaces is
deleted. -/
def stepInit (s : Lifetimes) : Option Lifetimes :=
  match s.initRest with
  | .base i :: rest =>
      if s.MayInit i then
        (s.hal.step fe mSensors oneShot (.caller true)).map fun t =>
          { s.delete mSensors i.deletes with hal := t, initRest := rest }
      else none
  | _ => none

/-- The next instruction, where it is about the wake-lock queue.  `join` waits for the end of the
thread. -/
def stepInitReader (s : Lifetimes) : Option Lifetimes :=
  match s.initRest with
  | .stopReader :: rest =>
      -- the join is in the branch, so without a thread both instructions are skipped
      some (if s.mReadWakeLockQueueRun then
          { s with mReadWakeLockQueueRun := false, initRest := rest }
        else { s with initRest := rest.tail })
  | .joinReader :: rest =>
      match s.mWakeLockThread with
      | .ended => some { s with mWakeLockThread := .notJoinable, initRest := rest }
      | .notJoinable => some { s with faults := s.faults ++ [.terminate], initRest := rest }
      | .testing | .entering | .reading | .updating => none
  | .setWakeLockQueue :: rest =>
      some { s with
        mWakeLockQueue := true
        initRest := rest
        faults := if s.mWakeLockQueue && s.mWakeLockThread == .reading then
            s.faults ++ [.wakeLockQueueDeletedInUse] else s.faults }
  | .startReader :: rest =>
      some { s with
        mReadWakeLockQueueRun := true
        mWakeLockThread := .testing
        initRest := rest
        faults := if s.mWakeLockThread == .notJoinable then s.faults
          else s.faults ++ [.terminate] }
  | _ => none

/-- `readWakeLockFMQ`, but for its loop test.  `readBlocking` returns after its timeout at the
latest. -/
def stepReader (s : Lifetimes) : Option Lifetimes :=
  match s.mWakeLockThread with
  | .entering =>
      some { s with
        mWakeLockThread := .reading
        faults := if s.mWakeLockQueue then s.faults else s.faults ++ [.nullWakeLockQueue] }
  | .reading => some { s with mWakeLockThread := .updating }
  | .updating => some { s with mWakeLockThread := .testing }
  | .notJoinable | .testing | .ended => none

/-- A thread that is in a method goes on only by returning from it. -/
def step (s : Lifetimes) : LifeAct → Option Lifetimes
  | .call c =>
      if s.MayCall c then
        (s.hal.step fe mSensors oneShot (.call c)).map fun t =>
          { s with hal := t, initRest := s.restOf fe mSensors c }
      else none
  | .initStep => s.stepInit fe mSensors oneShot
  | .initReader => s.stepInitReader
  | .initReturns =>
      match s.hal.caller, s.initRest with
      | .initializing _ _, [] =>
          (s.hal.step fe mSensors oneShot (.caller true)).map fun t => { s with hal := t }
      | _, _ => none
  | .flush written =>
      match s.hal.caller, s.callerUses with
      | .flushing _ rest, none =>
          (s.hal.step fe mSensors oneShot (.caller written)).map fun t =>
            { s with hal := t, callerUses := rest.head?.bind PostInstr.calls }
      | _, _ => none
  | .flushLeaves => if s.callerUses = none then none else some { s with callerUses := none }
  | .sample h =>
      if s.uses h = none then
        (s.hal.step fe mSensors oneShot (.sample h)).map fun t => { s with hal := t }
      else none
  | .thread h written =>
      if s.uses h = none then
        (s.hal.step fe mSensors oneShot (.thread h written)).map fun t =>
          { s.setUses h ((s.hal.posting h).head?.bind PostInstr.calls) with hal := t }
      else none
  | .leave h => if s.uses h = none then none else some (s.setUses h none)
  | .readerGoesOn =>
      if s.mWakeLockThread = .testing ∧ s.mReadWakeLockQueueRun = true then
        some { s with mWakeLockThread := .entering }
      else none
  | .readerEnds =>
      if s.mWakeLockThread = .testing ∧ s.mReadWakeLockQueueRun = false then
        some { s with mWakeLockThread := .ended }
      else none
  | .reader => s.stepReader

/-- When an action is enabled, and what it leads to. -/
inductive Step (s : Lifetimes) : LifeAct → Lifetimes → Prop
  | call {c : HalCall} {u : HalState} (hmay : s.MayCall c)
      (hstep : s.hal.step fe mSensors oneShot (.call c) = some u) :
      Step s (.call c) { s with hal := u, initRest := s.restOf fe mSensors c }
  | initStep {i : InitInstr} {rest : List LifeInstr} {u : HalState}
      (hrest : s.initRest = .base i :: rest) (hmay : s.MayInit i)
      (hstep : s.hal.step fe mSensors oneShot (.caller true) = some u) :
      Step s .initStep { s.delete mSensors i.deletes with hal := u, initRest := rest }
  | stopReader {rest : List LifeInstr} (hrest : s.initRest = .stopReader :: rest)
      (hrun : s.mReadWakeLockQueueRun = true) :
      Step s .initReader { s with mReadWakeLockQueueRun := false, initRest := rest }
  | skipJoin {rest : List LifeInstr} (hrest : s.initRest = .stopReader :: rest)
      (hrun : s.mReadWakeLockQueueRun = false) :
      Step s .initReader { s with initRest := rest.tail }
  | joinReader {rest : List LifeInstr} (hrest : s.initRest = .joinReader :: rest)
      (hended : s.mWakeLockThread = .ended) :
      Step s .initReader { s with mWakeLockThread := .notJoinable, initRest := rest }
  | joinFails {rest : List LifeInstr} (hrest : s.initRest = .joinReader :: rest)
      (hnone : s.mWakeLockThread = .notJoinable) :
      Step s .initReader { s with faults := s.faults ++ [.terminate], initRest := rest }
  | setWakeLockQueue {rest : List LifeInstr} (hrest : s.initRest = .setWakeLockQueue :: rest) :
      Step s .initReader { s with
        mWakeLockQueue := true
        initRest := rest
        faults := if s.mWakeLockQueue && s.mWakeLockThread == .reading then
            s.faults ++ [.wakeLockQueueDeletedInUse] else s.faults }
  | startReader {rest : List LifeInstr} (hrest : s.initRest = .startReader :: rest) :
      Step s .initReader { s with
        mReadWakeLockQueueRun := true
        mWakeLockThread := .testing
        initRest := rest
        faults := if s.mWakeLockThread == .notJoinable then s.faults
          else s.faults ++ [.terminate] }
  | initReturns {rest : List InitInstr} {flagOk : Bool} {u : HalState}
      (hcaller : s.hal.caller = .initializing rest flagOk) (hnil : s.initRest = [])
      (hstep : s.hal.step fe mSensors oneShot (.caller true) = some u) :
      Step s .initReturns { s with hal := u }
  | flush {written : Bool} {h : Int} {rest : List PostInstr} {u : HalState}
      (hcaller : s.hal.caller = .flushing h rest) (hout : s.callerUses = none)
      (hstep : s.hal.step fe mSensors oneShot (.caller written) = some u) :
      Step s (.flush written)
        { s with hal := u, callerUses := rest.head?.bind PostInstr.calls }
  | flushLeaves (hin : s.callerUses ≠ none) : Step s .flushLeaves { s with callerUses := none }
  | sample {h : Int} {u : HalState} (hout : s.uses h = none)
      (hstep : s.hal.step fe mSensors oneShot (.sample h) = some u) :
      Step s (.sample h) { s with hal := u }
  | thread {h : Int} {written : Bool} {u : HalState} (hout : s.uses h = none)
      (hstep : s.hal.step fe mSensors oneShot (.thread h written) = some u) :
      Step s (.thread h written)
        { s.setUses h ((s.hal.posting h).head?.bind PostInstr.calls) with hal := u }
  | leave {h : Int} (hin : s.uses h ≠ none) : Step s (.leave h) (s.setUses h none)
  | readerGoesOn (htest : s.mWakeLockThread = .testing) (hrun : s.mReadWakeLockQueueRun = true) :
      Step s .readerGoesOn { s with mWakeLockThread := .entering }
  | readerEnds (htest : s.mWakeLockThread = .testing) (hrun : s.mReadWakeLockQueueRun = false) :
      Step s .readerEnds { s with mWakeLockThread := .ended }
  | enter (hthread : s.mWakeLockThread = .entering) :
      Step s .reader { s with
        mWakeLockThread := .reading
        faults := if s.mWakeLockQueue then s.faults else s.faults ++ [.nullWakeLockQueue] }
  | read (hthread : s.mWakeLockThread = .reading) :
      Step s .reader { s with mWakeLockThread := .updating }
  | update (hthread : s.mWakeLockThread = .updating) :
      Step s .reader { s with mWakeLockThread := .testing }

variable {fe mSensors oneShot}

theorem initReader_cases {s t : Lifetimes} (h : s.stepInitReader = some t) :
    s.Step fe mSensors oneShot .initReader t := by
  unfold stepInitReader at h
  split at h
  case h_1 rest hrest =>
    cases h
    split
    case isTrue hrun => exact .stopReader hrest hrun
    case isFalse hrun => exact .skipJoin hrest (Bool.not_eq_true _ ▸ hrun)
  case h_2 rest hrest =>
    split at h
    case h_1 hended =>
      cases h
      exact .joinReader hrest hended
    case h_2 hnone =>
      cases h
      exact .joinFails hrest hnone
    all_goals cases h
  case h_3 rest hrest =>
    cases h
    exact .setWakeLockQueue hrest
  case h_4 rest hrest =>
    cases h
    exact .startReader hrest
  case h_5 => cases h

theorem reader_cases {s t : Lifetimes} (h : s.stepReader = some t) :
    s.Step fe mSensors oneShot .reader t := by
  unfold stepReader at h
  split at h
  case h_1 hthread =>
    cases h
    exact .enter hthread
  case h_2 hthread =>
    cases h
    exact .read hthread
  case h_3 hthread =>
    cases h
    exact .update hthread
  all_goals cases h

theorem step_cases {s t : Lifetimes} {a : LifeAct} (h : s.step fe mSensors oneShot a = some t) :
    s.Step fe mSensors oneShot a t := by
  cases a with
  | call c =>
      obtain ⟨hmay, h⟩ := Option.ite_none_right_eq_some.mp h
      obtain ⟨u, hu, rfl⟩ := Option.map_eq_some_iff.mp h
      exact .call hmay hu
  | initStep =>
      simp only [step, stepInit] at h
      split at h
      case h_2 => cases h
      case h_1 i rest hrest =>
        obtain ⟨hmay, h⟩ := Option.ite_none_right_eq_some.mp h
        obtain ⟨u, hu, rfl⟩ := Option.map_eq_some_iff.mp h
        exact .initStep hrest hmay hu
  | initReader => exact initReader_cases h
  | initReturns =>
      simp only [step] at h
      split at h
      case h_2 => cases h
      case h_1 rest flagOk hcaller hnil =>
        obtain ⟨u, hu, rfl⟩ := Option.map_eq_some_iff.mp h
        exact .initReturns hcaller hnil hu
  | flush written =>
      simp only [step] at h
      split at h
      case h_2 => cases h
      case h_1 j rest hcaller hout =>
        obtain ⟨u, hu, rfl⟩ := Option.map_eq_some_iff.mp h
        exact .flush hcaller hout hu
  | flushLeaves =>
      obtain ⟨hin, h⟩ := Option.ite_none_left_eq_some.mp h
      cases h
      exact .flushLeaves hin
  | sample j =>
      obtain ⟨hout, h⟩ := Option.ite_none_right_eq_some.mp h
      obtain ⟨u, hu, rfl⟩ := Option.map_eq_some_iff.mp h
      exact .sample hout hu
  | thread j written =>
      obtain ⟨hout, h⟩ := Option.ite_none_right_eq_some.mp h
      obtain ⟨u, hu, rfl⟩ := Option.map_eq_some_iff.mp h
      exact .thread hout hu
  | leave j =>
      obtain ⟨hin, h⟩ := Option.ite_none_left_eq_some.mp h
      cases h
      exact .leave hin
  | readerGoesOn =>
      obtain ⟨⟨htest, hrun⟩, h⟩ := Option.ite_none_right_eq_some.mp h
      cases h
      exact .readerGoesOn htest hrun
  | readerEnds =>
      obtain ⟨⟨htest, hrun⟩, h⟩ := Option.ite_none_right_eq_some.mp h
      cases h
      exact .readerEnds htest hrun
  | reader => exact reader_cases h

end Lifetimes

/-- A front end under every schedule, down to the methods its threads are in. -/
def lifetimes : Machine Lifetimes LifeAct where
  Start s := s = .init
  step := Lifetimes.step fe mSensors oneShot

/-- What a framework has to keep to: `CallsOk`; and the AIDL front end and the sub-HAL, which do not
disable the sensors before they replace an object, are initialized with all sensors disabled. -/
def LifeOk (s : Lifetimes) : LifeAct → Prop
  | .call c => CallsOk fe mSensors s.hal (.call c) ∧
      ∀ flagOk, c = .initializeCall flagOk → fe ≠ .sensors → ∀ h, s.hal.mIsEnabled h = false
  | _ => True

end Machine

/-! ## The pointers -/

/-- Whatever the methods do, the pointers are those of `eventPath`. -/
def pathSimulation (fe : FrontEnd) (mSensors : List Int) (oneShot : Int → Bool) :
    Simulation (lifetimes fe mSensors oneShot) (eventPath fe mSensors oneShot) where
  Rel s x := s.hal = x
  label
    | .call c => [.call c]
    | .initStep | .initReturns => [.caller true]
    | .flush written => [.caller written]
    | .sample h => [.sample h]
    | .thread h written => [.thread h written]
    | .initReader | .flushLeaves | .leave _ | .readerGoesOn | .readerEnds | .reader => []
  start := by
    rintro s rfl
    exact ⟨_, rfl, rfl⟩
  step := by
    rintro s a t _ rfl h
    have hone : ∀ {b : PathAct}, s.hal.step fe mSensors oneShot b = some t.hal →
        ∃ y, (eventPath fe mSensors oneShot).run s.hal [b] = some y ∧ t.hal = y := by
      intro b hb
      exact ⟨t.hal, Machine.run_cons_eq_some _ |>.mpr ⟨t.hal, hb, rfl⟩, rfl⟩
    cases Lifetimes.step_cases h with
    | call _ hu | initStep _ _ hu | initReturns _ _ hu | flush _ _ hu | sample _ hu | thread _ hu =>
        exact hone hu
    | stopReader | skipJoin | joinReader | joinFails | setWakeLockQueue | startReader
    | flushLeaves | leave | readerGoesOn | readerEnds | enter | read | update =>
        exact ⟨s.hal, rfl, rfl⟩

/-! ## The invariant -/

/-- An instruction of `initHead`. -/
def LifeInstr.InHead (fe : FrontEnd) (i : LifeInstr) : Prop :=
  (∃ h, i = .base (.disable h)) ∨ fe = .aidl ∧ i = .base .setQueue

/-- What can be left of `initialize`. -/
inductive RestOk (fe : FrontEnd) : List LifeInstr → Prop
  | head {pre : List LifeInstr} (hpre : ∀ i ∈ pre, i.InHead fe) : RestOk fe (pre ++ initTail fe)
  | tail {rest : List LifeInstr} (hsuffix : rest <:+ initTail fe) : RestOk fe rest

/-- The thread that reads the wake-lock queue runs between two calls of `initialize`, once it has
been started, and is joined while its queue is replaced. -/
structure Lifetimes.ReaderOk (s : Lifetimes) : Prop where
  running : .stopReader ∈ s.initRest ∨ .startReader ∉ s.initRest →
    s.mReadWakeLockQueueRun = true ∧ s.mWakeLockThread ≠ .notJoinable ∧
      s.mWakeLockThread ≠ .ended ∨
    s.mReadWakeLockQueueRun = false ∧ s.mWakeLockThread = .notJoinable
  stopping : .stopReader ∉ s.initRest → .joinReader ∈ s.initRest →
    s.mReadWakeLockQueueRun = false ∧ s.mWakeLockThread ≠ .notJoinable
  joined : .joinReader ∉ s.initRest → .startReader ∈ s.initRest →
    s.mReadWakeLockQueueRun = false ∧ s.mWakeLockThread = .notJoinable
  queue : s.mWakeLockThread ≠ .notJoinable → s.mWakeLockQueue = true
  made : .setWakeLockQueue ∉ s.initRest → .startReader ∈ s.initRest → s.mWakeLockQueue = true

/-- What holds between any two steps. -/
structure Lifetimes.Ok (fe : FrontEnd) (mSensors : List Int) (s : Lifetimes) : Prop where
  sound : s.hal.Sound fe mSensors
  noFault : s.faults = []
  /-- a thread that is in a method has `mRunMutex`, under which its sensor is disabled -/
  enabled : ∀ h, s.uses h ≠ none → s.hal.mIsEnabled h = true
  flushing : s.callerUses ≠ none → ∃ h rest, s.hal.caller = .flushing h rest
  program : ∀ rest flagOk, s.hal.caller = .initializing rest flagOk →
    RestOk fe s.initRest ∧ rest = s.initRest.filterMap LifeInstr.base?
  between : (∀ rest flagOk, s.hal.caller ≠ .initializing rest flagOk) → s.initRest = []
  disabled : fe ≠ .sensors → ∀ rest flagOk, s.hal.caller = .initializing rest flagOk →
    ∀ h, s.hal.mIsEnabled h = false
  reader : s.ReaderOk

section Invariant

variable {fe : FrontEnd} {mSensors : List Int} {oneShot : Int → Bool}

/-! ### What is left of the call -/

theorem restOk_lifeInstrs : RestOk fe (lifeInstrs mSensors fe) := by
  refine .head ?_
  intro i hi
  cases fe with
  | sensors =>
      obtain ⟨h, _, rfl⟩ := List.mem_map.mp hi
      exact Or.inl ⟨h, rfl⟩
  | aidl =>
      rcases List.mem_cons.mp hi with rfl | hi
      · exact Or.inr ⟨rfl, rfl⟩
      · obtain ⟨h, _, rfl⟩ := List.mem_map.mp hi
        exact Or.inl ⟨h, rfl⟩
  | subHal => cases hi

theorem RestOk.cons_cases {i : LifeInstr} {rest : List LifeInstr} (h : RestOk fe (i :: rest)) :
    RestOk fe rest ∧ (i.InHead fe ∨ (i :: rest) <:+ initTail fe) := by
  generalize hall : i :: rest = all at h
  cases h with
  | @head pre hpre =>
      rcases pre with _ | ⟨j, pre⟩
      · rw [List.nil_append] at hall
        have hsuffix : i :: rest <:+ initTail fe := hall ▸ List.suffix_refl _
        exact ⟨.tail ((List.suffix_cons i rest).trans hsuffix), Or.inr (hall ▸ hsuffix)⟩
      · rw [List.cons_append] at hall
        obtain ⟨rfl, rfl⟩ := List.cons.inj hall
        exact ⟨.head fun k hk => hpre k (List.mem_cons_of_mem _ hk),
          Or.inl (hpre _ List.mem_cons_self)⟩
  | tail hsuffix =>
      rw [← hall] at hsuffix
      exact ⟨.tail ((List.suffix_cons i rest).trans hsuffix), Or.inr (hall ▸ hsuffix)⟩

theorem base_lifeInstrs :
    (lifeInstrs mSensors fe).filterMap LifeInstr.base? = initInstrs mSensors fe := by
  have hdisable : (mSensors.map fun h => LifeInstr.base (.disable h)).filterMap LifeInstr.base? =
      mSensors.map InitInstr.disable := by
    rw [List.filterMap_map]
    exact congrFun (List.filterMap_eq_map' (f := InitInstr.disable)) mSensors
  unfold lifeInstrs initInstrs
  cases fe with
  | sensors =>
      rw [List.filterMap_append, initHead, hdisable]
      rfl
  | aidl =>
      rw [List.filterMap_append, initHead, List.filterMap_cons, hdisable]
      rfl
  | subHal => rfl

/-- In the second half the sensors have been disabled. -/
theorem disabled_of_tail {s : HalState} (hs : s.Sound fe mSensors) (hfe : fe ≠ .subHal)
    {rest : List LifeInstr} {flagOk : Bool}
    (hc : s.caller = .initializing (rest.filterMap LifeInstr.base?) flagOk)
    (htail : rest <:+ initTail fe) (h : Int) : s.mIsEnabled h = false := by
  by_contra hen
  have hmem := (hs.initializing _ _ hc).disables hfe h (by simpa using hen)
  obtain ⟨i, hi, hbase⟩ := List.mem_filterMap.mp hmem
  have hin := htail.subset hi
  cases fe with
  | sensors =>
      simp only [initTail, List.mem_cons, List.not_mem_nil, or_false] at hin
      rcases hin with rfl | rfl | rfl | rfl | rfl | rfl | rfl <;> cases hbase
  | aidl =>
      simp only [initTail, List.mem_cons, List.not_mem_nil, or_false] at hin
      rcases hin with rfl | rfl | rfl | rfl | rfl | rfl <;> cases hbase
  | subHal => exact hfe rfl

/-! ### The instructions around the thread -/

theorem RestOk.suffix_of_own {i : LifeInstr} {rest : List LifeInstr} (h : RestOk fe (i :: rest))
    (hown : i.base? = none) : i :: rest <:+ initTail fe := by
  refine h.cons_cases.2.resolve_left ?_
  rintro (⟨k, rfl⟩ | ⟨_, rfl⟩)
  · cases hown
  · cases hown

theorem RestOk.of_append {own rest : List LifeInstr} (h : RestOk fe (own ++ rest)) :
    RestOk fe rest := by
  induction own with
  | nil => exact h
  | cons i own ih => exact ih h.cons_cases.1

theorem after_stopReader {rest : List LifeInstr} (h : RestOk fe (.stopReader :: rest)) :
    ∃ rest', rest = .joinReader :: rest' ∧ .stopReader ∉ rest' ∧ .joinReader ∉ rest' ∧
      .startReader ∈ rest' ∧ .setWakeLockQueue ∈ rest' := by
  have hsuffix := h.suffix_of_own rfl
  cases fe with
  | sensors | aidl =>
      simp only [initTail, List.suffix_cons_iff, List.cons.injEq, reduceCtorEq, false_and, true_and,
        List.suffix_nil, or_false] at hsuffix
      subst hsuffix
      exact ⟨_, rfl, by decide, by decide, by decide, by decide⟩
  | subHal => simp [initTail, List.suffix_cons_iff] at hsuffix

theorem after_joinReader {rest : List LifeInstr} (h : RestOk fe (.joinReader :: rest)) :
    .stopReader ∉ rest ∧ .joinReader ∉ rest ∧ .startReader ∈ rest ∧ .setWakeLockQueue ∈ rest := by
  have hsuffix := h.suffix_of_own rfl
  cases fe with
  | sensors | aidl =>
      simp only [initTail, List.suffix_cons_iff, List.cons.injEq, reduceCtorEq, false_and, true_and,
        List.suffix_nil, or_false, false_or] at hsuffix
      subst hsuffix
      decide
  | subHal => simp [initTail, List.suffix_cons_iff] at hsuffix

theorem after_setWakeLockQueue {rest : List LifeInstr} (h : RestOk fe (.setWakeLockQueue :: rest)) :
    rest = [.startReader] := by
  have hsuffix := h.suffix_of_own rfl
  cases fe with
  | sensors | aidl => simpa [initTail, List.suffix_cons_iff] using hsuffix
  | subHal => simp [initTail, List.suffix_cons_iff] at hsuffix

theorem after_startReader {rest : List LifeInstr} (h : RestOk fe (.startReader :: rest)) :
    rest = [] := by
  have hsuffix := h.suffix_of_own rfl
  cases fe with
  | sensors | aidl => simpa [initTail, List.suffix_cons_iff] using hsuffix
  | subHal => simp [initTail, List.suffix_cons_iff] at hsuffix

/-! ### Nothing that is in use is deleted -/

namespace Lifetimes

variable {s t : Lifetimes}

theorem delete_unused (h : ∀ p, s.isUsed mSensors p = false) (o : Option Pointer) :
    s.delete mSensors o = s := by
  rcases o with _ | p
  · rfl
  · rw [delete, h p, Bool.and_false]
    rfl

theorem Ok.unused (hs : s.Ok fe mSensors) {rest : List InitInstr} {flagOk : Bool}
    (hc : s.hal.caller = .initializing rest flagOk) (hoff : ∀ h, s.hal.mIsEnabled h = false)
    (p : Pointer) : s.isUsed mSensors p = false := by
  have huses : ∀ h, s.uses h = none := by
    intro h
    by_contra hsome
    cases (hoff h).symm.trans (hs.enabled h hsome)
  have hcaller : s.callerUses = none := by
    by_contra hsome
    obtain ⟨h, r, hflush⟩ := hs.flushing hsome
    cases hc.symm.trans hflush
  unfold isUsed
  rw [hcaller, Bool.or_eq_false_iff]
  refine ⟨rfl, List.any_eq_false.mpr ?_⟩
  intro h _
  rw [huses h]
  exact Bool.false_ne_true

/-- Something is left of a call only while the binder thread is in it. -/
theorem Ok.calling (hs : s.Ok fe mSensors) (hne : s.initRest ≠ []) :
    ∃ rest flagOk, s.hal.caller = .initializing rest flagOk := by
  by_contra hnot
  exact hne (hs.between fun rest flagOk hc => hnot ⟨rest, flagOk, hc⟩)

/-- What `initialize` deletes is in nobody's use. -/
theorem Ok.delete_eq (hs : s.Ok fe mSensors) {i : InitInstr} {rest : List LifeInstr}
    (hrest : s.initRest = .base i :: rest) : s.delete mSensors i.deletes = s := by
  rcases i.deletes.eq_none_or_eq_some with hnone | ⟨p, hp⟩
  · rw [hnone]
    rfl
  obtain ⟨r, f, hc⟩ := hs.calling (by rw [hrest]; exact List.cons_ne_nil _ _)
  refine delete_unused (hs.unused hc ?_) _
  by_cases hfe : fe = .sensors
  · -- the 2.X front end deletes nothing before the sensors are disabled
    subst hfe
    obtain ⟨hprogram, rfl⟩ := hs.program r f hc
    rw [hrest] at hprogram
    rcases hprogram.cons_cases.2 with (⟨h, heq⟩ | ⟨heq, _⟩) | htail
    · cases heq
      cases hp
    · cases heq
    · rw [← hrest] at htail
      exact disabled_of_tail hs.sound (by decide) hc htail
  · exact hs.disabled hfe r f hc

/-! ### The steps -/

theorem ReaderOk.of_same (hs : s.ReaderOk)
    (hmem : ∀ i : LifeInstr, i.base? = none → (i ∈ t.initRest ↔ i ∈ s.initRest))
    (hrun : t.mReadWakeLockQueueRun = s.mReadWakeLockQueueRun)
    (hthread : t.mWakeLockThread = s.mWakeLockThread)
    (hqueue : t.mWakeLockQueue = s.mWakeLockQueue) : t.ReaderOk := by
  have hstop := hmem .stopReader rfl
  have hjoin := hmem .joinReader rfl
  have hset := hmem .setWakeLockQueue rfl
  have hstart := hmem .startReader rfl
  constructor
  · rw [hstop, hstart, hrun, hthread]
    exact hs.running
  · rw [hstop, hjoin, hrun, hthread]
    exact hs.stopping
  · rw [hjoin, hstart, hrun, hthread]
    exact hs.joined
  · rw [hthread, hqueue]
    exact hs.queue
  · rw [hset, hstart, hqueue]
    exact hs.made

/-- A new call finds the thread running, or never started. -/
theorem ReaderOk.called (hs : s.ReaderOk) (hnil : s.initRest = [])
    (ht : t = { s with hal := t.hal, initRest := lifeInstrs mSensors fe }) : t.ReaderOk := by
  rw [ht]
  have hrunning := hs.running (Or.inr (by rw [hnil]; exact List.not_mem_nil))
  refine ⟨fun _ => hrunning, fun hstop hjoin => ?_, fun hjoin hstart => ?_, hs.queue,
    fun hset hstart => ?_⟩
  · cases fe with
    | sensors => exact absurd (by simp [lifeInstrs, initTail]) hstop
    | aidl => exact absurd (by simp [lifeInstrs, initTail]) hstop
    | subHal => simp [lifeInstrs, initHead, initTail] at hjoin
  · cases fe with
    | sensors => exact absurd (by simp [lifeInstrs, initTail]) hjoin
    | aidl => exact absurd (by simp [lifeInstrs, initTail]) hjoin
    | subHal => simp [lifeInstrs, initHead, initTail] at hstart
  · cases fe with
    | sensors => exact absurd (by simp [lifeInstrs, initTail]) hset
    | aidl => exact absurd (by simp [lifeInstrs, initTail]) hset
    | subHal => simp [lifeInstrs, initHead, initTail] at hstart

/-- A call enables only the sensor it names, and a sensor is not disabled while its thread is in a
method. -/
theorem Ok.enabled_of_activate (hs : s.Ok fe mSensors) {u : HalState} {h : Int} {enable : Bool}
    (hmay : s.MayActivate h enable) (hstep : s.hal.sensorActivate h enable = some u) :
    ∀ j, s.uses j ≠ none → u.mIsEnabled j = true := by
  intro j hj
  have hen := hs.enabled j hj
  rcases HalState.sensorActivate_cases hstep with ⟨rfl, _⟩ | ⟨rfl, _⟩
  · exact hen
  · show (if j = h then enable else s.hal.mIsEnabled j) = true
    split
    case isTrue heq =>
      subst heq
      exact (hmay.resolve_right hj).symm.trans hen
    case isFalse => exact hen

/-- What is left of `initialize`, where something is. -/
theorem Ok.restOk (hs : s.Ok fe mSensors) {i : LifeInstr} {rest : List LifeInstr}
    (hrest : s.initRest = i :: rest) : RestOk fe (i :: rest) := by
  obtain ⟨r, f, hc⟩ := hs.calling (by rw [hrest]; exact List.cons_ne_nil _ _)
  exact hrest ▸ (hs.program r f hc).1

/-- The binder thread runs the first of the instructions it has left. -/
theorem caller_cases {v w : HalState} {i : InitInstr} {rest : List InitInstr}
    {flagOk written : Bool}
    (hc : v.caller = .initializing (i :: rest) flagOk)
    (h : v.step fe mSensors oneShot (.caller written) = some w) :
    ∃ u, v.runInit flagOk i = some u ∧ w = { u with caller := .initializing rest flagOk } := by
  have hmap : (v.runInit flagOk i).map (fun u =>
      ({ u with caller := .initializing rest flagOk } : HalState)) = some w := by
    simpa [HalState.step, HalState.stepCaller, hc] using h
  obtain ⟨u, hu, rfl⟩ := Option.map_eq_some_iff.mp hmap
  exact ⟨u, hu, rfl⟩

theorem ok_initStep (hs : s.Ok fe mSensors) (h : s.Step fe mSensors oneShot .initStep t) :
    t.Ok fe mSensors := by
  cases h with
  | @initStep i rest w hrest hmay hw =>
      obtain ⟨r, f, hc⟩ := hs.calling (by rw [hrest]; exact List.cons_ne_nil _ _)
      obtain ⟨hprogram, rfl⟩ := hs.program r f hc
      have hsound := HalState.sound_step hs.sound (a := .caller true) trivial hw
      rw [hrest] at hprogram hc
      obtain ⟨u, hu, rfl⟩ := caller_cases hc hw
      -- only `disable` changes a sensor, and it waits for the thread of that sensor
      have hframe : (∀ j, s.uses j ≠ none → u.mIsEnabled j = true) ∧
          ∀ j, u.mIsEnabled j = true → s.hal.mIsEnabled j = true := by
        cases i with
        | disable k => exact ⟨hs.enabled_of_activate hmay hu, (HalState.sensorActivate_false hu).2.1⟩
        | setQueue | deleteFlag | createFlag | setCallback =>
            cases hu
            exact ⟨hs.enabled, fun _ => id⟩
      rw [hs.delete_eq hrest]
      refine ⟨hsound, hs.noFault, hframe.1, fun hsome => ?_, ?_, fun hnot => ?_, ?_, ?_⟩
      · obtain ⟨k, l, hflush⟩ := hs.flushing hsome
        cases hc.symm.trans hflush
      · rintro _ _ ⟨⟩
        exact ⟨hprogram.cons_cases.1, rfl⟩
      · exact absurd rfl (hnot _ _)
      · rintro hfe _ _ _ j
        by_contra hon
        cases (hs.disabled hfe _ _ hc j).symm.trans (hframe.2 j (by simpa using hon))
      · refine hs.reader.of_same ?_ rfl rfl rfl
        intro j hj
        rw [hrest, List.mem_cons]
        exact ⟨Or.inr, fun hmem => hmem.resolve_left (by rintro rfl; cases hj)⟩

/-- The binder thread goes past instructions that `eventPath` does not have. -/
theorem Ok.withReader (hs : s.Ok fe mSensors) (own : List LifeInstr) {rest : List LifeInstr}
    (hrest : s.initRest = own ++ rest) (hown : ∀ i ∈ own, i.base? = none) (hne : own ≠ [])
    (hhal : t.hal = s.hal) (huses : t.uses = s.uses) (hcaller : t.callerUses = s.callerUses)
    (hinit : t.initRest = rest) (hfault : t.faults = []) (hreader : t.ReaderOk) :
    t.Ok fe mSensors := by
  obtain ⟨r, f, hc⟩ := hs.calling fun hnil => by
    rw [hnil] at hrest
    exact hne (List.append_eq_nil_iff.mp hrest.symm).1
  have hbase : s.initRest.filterMap LifeInstr.base? = rest.filterMap LifeInstr.base? := by
    rw [hrest, List.filterMap_append, List.filterMap_eq_nil_iff.mpr hown, List.nil_append]
  constructor
  · rw [hhal]
    exact hs.sound
  · exact hfault
  · rw [huses, hhal]
    exact hs.enabled
  · rw [hcaller, hhal]
    exact hs.flushing
  · intro r f hc
    rw [hhal] at hc
    obtain ⟨hprogram, rfl⟩ := hs.program r f hc
    rw [hinit, hbase]
    rw [hrest] at hprogram
    exact ⟨hprogram.of_append, rfl⟩
  · intro hnot
    rw [hhal] at hnot
    exact absurd hc (hnot r f)
  · rw [hhal]
    exact hs.disabled
  · exact hreader

/-- The instructions around the thread: it is stopped if it runs, joined at its end, and started on
the new queue. -/
theorem ok_initReader (hs : s.Ok fe mSensors) (h : s.Step fe mSensors oneShot .initReader t) :
    t.Ok fe mSensors := by
  obtain ⟨hrunning, hstopping, hjoined, hqueue, hmade⟩ := hs.reader
  cases h with
  | stopReader hrest hrun =>
      -- the thread runs: it is told to end, and joined next
      obtain ⟨rest, rfl, hstop, hjoin, hstart, hset⟩ := after_stopReader (hs.restOk hrest)
      rw [hrest] at hrunning
      have hthread : s.mWakeLockThread ≠ .notJoinable := by
        rcases hrunning (Or.inl List.mem_cons_self) with ⟨_, hthread, _⟩ | ⟨hnot, _⟩
        · exact hthread
        · cases hrun.symm.trans hnot
      refine hs.withReader [.stopReader] hrest (by simp [LifeInstr.base?]) nofun rfl rfl rfl
        rfl hs.noFault ⟨fun hor => ?_, fun _ _ => ⟨rfl, hthread⟩, fun hnot => ?_, hqueue,
          fun hnot => absurd (List.mem_cons_of_mem _ hset) hnot⟩
      · exact absurd hor (by simp [hstop, hstart])
      · exact absurd List.mem_cons_self hnot
  | skipJoin hrest hrun =>
      -- it has never been started: the next instruction is past the join
      obtain ⟨rest, rfl, hstop, hjoin, hstart, hset⟩ := after_stopReader (hs.restOk hrest)
      rw [hrest] at hrunning
      have hthread : s.mWakeLockThread = .notJoinable := by
        rcases hrunning (Or.inl List.mem_cons_self) with ⟨hnot, _⟩ | ⟨_, hthread⟩
        · cases hrun.symm.trans hnot
        · exact hthread
      refine hs.withReader [.stopReader, .joinReader] hrest (by simp [LifeInstr.base?]) nofun
        rfl rfl rfl rfl hs.noFault
        ⟨fun hor => ?_, fun _ hmem => absurd hmem hjoin, fun _ _ => ⟨hrun, hthread⟩, hqueue,
          fun hnot => absurd hset hnot⟩
      exact absurd hor (by simp [hstop, hstart])
  | joinReader hrest hended =>
      obtain ⟨hstop, hjoin, hstart, hset⟩ := after_joinReader (hs.restOk hrest)
      rw [hrest] at hstopping
      obtain ⟨hrun, -⟩ := hstopping (by simp [hstop]) List.mem_cons_self
      refine hs.withReader [.joinReader] hrest (by simp [LifeInstr.base?]) nofun rfl rfl rfl
        rfl hs.noFault ⟨fun hor => ?_, fun _ hmem => absurd hmem hjoin, fun _ _ => ⟨hrun, rfl⟩,
          fun hne => absurd rfl hne, fun hnot => absurd hset hnot⟩
      exact absurd hor (by simp [hstop, hstart])
  | joinFails hrest hnone =>
      -- told to end and not yet joined, the thread is joinable
      obtain ⟨hstop, -, -, -⟩ := after_joinReader (hs.restOk hrest)
      rw [hrest] at hstopping
      exact absurd hnone (hstopping (by simp [hstop]) List.mem_cons_self).2
  | setWakeLockQueue hrest =>
      obtain rfl := after_setWakeLockQueue (hs.restOk hrest)
      rw [hrest] at hjoined
      obtain ⟨hrun, hthread⟩ := hjoined (by decide) (by decide)
      refine hs.withReader [.setWakeLockQueue] hrest (by simp [LifeInstr.base?]) nofun rfl rfl
        rfl rfl ?_ ⟨fun hor => ?_, fun _ hmem => ?_, fun _ _ => ⟨hrun, hthread⟩, fun _ => rfl,
          fun _ _ => rfl⟩
      · show (if s.mWakeLockQueue && s.mWakeLockThread == .reading then _ else s.faults) = []
        rw [hthread, hs.noFault]
        simp
      · exact absurd hor (by simp)
      · exact absurd hmem (by simp)
  | startReader hrest =>
      obtain rfl := after_startReader (hs.restOk hrest)
      rw [hrest] at hjoined hmade
      obtain ⟨hrun, hthread⟩ := hjoined (by decide) List.mem_cons_self
      have hqueue := hmade (by decide) List.mem_cons_self
      refine hs.withReader [.startReader] hrest (by simp [LifeInstr.base?]) nofun rfl rfl rfl
        rfl ?_ ⟨fun _ => Or.inl ⟨rfl, nofun, nofun⟩, fun _ => nofun, fun _ => nofun,
          fun _ => hqueue, fun _ => nofun⟩
      show (if s.mWakeLockThread == .notJoinable then s.faults else _) = []
      rw [hthread]
      exact hs.noFault

/-- The binder thread is not in `initialize`, before the step or after it. -/
theorem Ok.outside (hs : s.Ok fe mSensors) {u : HalState} (hsound : u.Sound fe mSensors)
    (hbefore : ∀ rest flagOk, s.hal.caller ≠ .initializing rest flagOk)
    (hafter : ∀ rest flagOk, u.caller ≠ .initializing rest flagOk) {p : Option Pointer}
    (hflushing : p ≠ none → ∃ h rest, u.caller = .flushing h rest)
    (henabled : ∀ j, s.uses j ≠ none → u.mIsEnabled j = true) :
    Lifetimes.Ok fe mSensors { s with hal := u, callerUses := p } where
  sound := hsound
  noFault := hs.noFault
  enabled := henabled
  flushing := hflushing
  program rest flagOk hc := absurd hc (hafter rest flagOk)
  between _ := hs.between hbefore
  disabled _ rest flagOk hc := absurd hc (hafter rest flagOk)
  reader := hs.reader.of_same (fun _ _ => Iff.rfl) rfl rfl rfl

/-- The thread of a sensor goes on, wherever the binder thread is. -/
theorem Ok.beside (hs : s.Ok fe mSensors) {u : HalState} (hsound : u.Sound fe mSensors)
    (hcaller : u.caller = s.hal.caller) (hsame : u.mIsEnabled = s.hal.mIsEnabled)
    {uses : Int → Option Pointer} (huses : ∀ j, uses j ≠ none → s.hal.mIsEnabled j = true) :
    Lifetimes.Ok fe mSensors { s with hal := u, uses := uses } := by
  constructor
  · exact hsound
  · exact hs.noFault
  · intro j hj
    show u.mIsEnabled j = true
    rw [hsame]
    exact huses j hj
  · show s.callerUses ≠ none → ∃ h rest, u.caller = .flushing h rest
    rw [hcaller]
    exact hs.flushing
  · intro rest flagOk hc
    exact hs.program rest flagOk (hcaller ▸ hc)
  · intro hnot
    exact hs.between fun rest flagOk hc => hnot rest flagOk (hcaller.trans hc)
  · intro hfe rest flagOk hc j
    show u.mIsEnabled j = false
    rw [hsame]
    exact hs.disabled hfe rest flagOk (hcaller ▸ hc) j
  · exact hs.reader.of_same (fun _ _ => Iff.rfl) rfl rfl rfl

/-- The thread that reads the wake-lock queue goes on; it ends only when it is told to. -/
theorem Ok.readerMoves (hs : s.Ok fe mSensors) (hjoinable : s.mWakeLockThread ≠ .notJoinable)
    (next : WakeLockThread) (hnext : next ≠ .notJoinable)
    (hend : next = .ended → s.mReadWakeLockQueueRun = false) {faults : List Fault}
    (hfaults : faults = []) :
    Lifetimes.Ok fe mSensors { s with mWakeLockThread := next, faults := faults } := by
  refine ⟨hs.sound, hfaults, hs.enabled, hs.flushing, hs.program, hs.between, hs.disabled, ?_⟩
  constructor
  · intro hwhen
    -- between two calls it runs: if it ended, it would have been told to
    rcases hs.reader.running hwhen with ⟨hrun, _, _⟩ | ⟨_, hnone⟩
    · refine Or.inl ⟨hrun, hnext, fun hended => ?_⟩
      cases hrun.symm.trans (hend hended)
    · exact absurd hnone hjoinable
  · exact fun hstop hjoin => ⟨(hs.reader.stopping hstop hjoin).1, hnext⟩
  · exact fun hjoin hstart => absurd (hs.reader.joined hjoin hstart).2 hjoinable
  · exact fun _ => hs.reader.queue hjoinable
  · exact hs.reader.made

theorem ok_call (hs : s.Ok fe mSensors) {c : HalCall} (hok : LifeOk fe mSensors s (.call c))
    (h : s.Step fe mSensors oneShot (.call c) t) : t.Ok fe mSensors := by
  cases h with
  | @call _ u hmay hu =>
      have hsound := HalState.sound_step hs.sound hok.1 hu
      obtain ⟨hidle, hu⟩ := Option.ite_none_right_eq_some.mp hu
      have hbefore : ∀ rest flagOk, s.hal.caller ≠ .initializing rest flagOk := by
        intro rest flagOk hc
        cases hidle.symm.trans hc
      have hout : s.callerUses = none := by
        by_contra hsome
        obtain ⟨j, rest, hflush⟩ := hs.flushing hsome
        cases hidle.symm.trans hflush
      cases c with
      | activate j enabled =>
          simp only [HalState.call] at hu
          split at hu
          · have hcaller : u.caller = .idle := by
              rcases HalState.sensorActivate_cases hu with ⟨rfl, _⟩ | ⟨rfl, _⟩
              · exact hidle
              · exact hidle
            refine hs.outside hsound hbefore ?_ (fun hsome => absurd hout hsome)
              (hs.enabled_of_activate hmay hu)
            intro rest flagOk hc
            cases hcaller.symm.trans hc
          · cases hu
            exact hs
      | batch j period =>
          cases hu
          exact hs
      | flush j =>
          simp only [HalState.call] at hu
          split at hu
          · cases hu
            exact hs.outside hsound hbefore (by rintro _ _ ⟨⟩) (fun hsome => absurd hout hsome)
              hs.enabled
          · cases hu
            exact hs
      | initializeCall flagOk =>
          cases hu
          constructor
          · exact hsound
          · exact hs.noFault
          · exact hs.enabled
          · exact fun hsome => absurd hout hsome
          · rintro _ _ ⟨⟩
            exact ⟨restOk_lifeInstrs, base_lifeInstrs.symm⟩
          · exact fun hnot => absurd rfl (hnot _ _)
          · exact fun hfe _ _ _ => hok.2 flagOk rfl hfe
          · exact hs.reader.called (hs.between hbefore) rfl

/-- A `flush` goes on in `postEvents`, or returns. -/
theorem ok_flush (hs : s.Ok fe mSensors) {written : Bool}
    (h : s.Step fe mSensors oneShot (.flush written) t) : t.Ok fe mSensors := by
  cases h with
  | @flush _ j rest u hc _ hu =>
      have hsound := HalState.sound_step hs.sound (a := .caller written) trivial hu
      have hbefore : ∀ r f, s.hal.caller ≠ .initializing r f := by
        intro r f hinit
        cases hc.symm.trans hinit
      cases rest with
      | nil =>
          -- `postEvents` has returned, and the call with it
          have hidle : some ({ s.hal with caller := .idle } : HalState) = some u := by
            simpa [HalState.step, HalState.stepCaller, hc] using hu
          cases hidle
          exact hs.outside hsound hbefore (by rintro _ _ ⟨⟩) (fun hsome => absurd rfl hsome)
            hs.enabled
      | cons i rest =>
          have hmap : (s.hal.shared.runPost written (i :: rest)).map (fun r =>
              ({ s.hal with shared := r.2, caller := .flushing j r.1 } : HalState)) = some u := by
            simpa [HalState.step, HalState.stepCaller, hc] using hu
          obtain ⟨r, _, rfl⟩ := Option.map_eq_some_iff.mp hmap
          exact hs.outside hsound hbefore (by rintro _ _ ⟨⟩) (fun _ => ⟨j, r.1, rfl⟩) hs.enabled

theorem ok_sample (hs : s.Ok fe mSensors) {j : Int}
    (h : s.Step fe mSensors oneShot (.sample j) t) : t.Ok fe mSensors := by
  cases h with
  | sample _ hu =>
      have hsound := HalState.sound_step hs.sound (a := .sample j) trivial hu
      obtain ⟨-, hu⟩ := Option.ite_none_right_eq_some.mp hu
      cases hu
      exact hs.beside hsound rfl rfl hs.enabled

/-- The thread of a sensor goes on in `postEvents`, which it is in only while the sensor is
enabled. -/
theorem ok_thread (hs : s.Ok fe mSensors) {j : Int} {written : Bool}
    (h : s.Step fe mSensors oneShot (.thread j written) t) : t.Ok fe mSensors := by
  cases h with
  | thread _ hu =>
      have hsound := HalState.sound_step hs.sound (a := .thread j written) trivial hu
      obtain ⟨r, hrun, rfl⟩ := Option.map_eq_some_iff.mp hu
      have hpost : s.hal.posting j ≠ [] := by
        intro hnil
        rw [hnil] at hrun
        cases hrun
      refine hs.beside hsound rfl rfl ?_
      intro k hk
      by_cases hkj : k = j
      · subst hkj
        exact hs.sound.enabled k hpost
      · exact hs.enabled k ((if_neg hkj).symm.trans_ne hk)

theorem ok_leave (hs : s.Ok fe mSensors) {j : Int} (h : s.Step fe mSensors oneShot (.leave j) t) :
    t.Ok fe mSensors := by
  cases h with
  | leave _ =>
      refine hs.beside hs.sound rfl rfl ?_
      intro k hk
      by_cases hkj : k = j
      · exact absurd (if_pos hkj) hk
      · exact hs.enabled k ((if_neg hkj).symm.trans_ne hk)

/-- `initialize` returns to its caller. -/
theorem ok_initReturns (hs : s.Ok fe mSensors)
    (h : s.Step fe mSensors oneShot .initReturns t) : t.Ok fe mSensors := by
  cases h with
  | @initReturns rest flagOk u hc hnil hu =>
      have hsound := HalState.sound_step hs.sound (a := .caller true) trivial hu
      -- `eventPath` has nothing left of the call either
      have hrest : rest = [] := by
        rw [(hs.program rest flagOk hc).2, hnil]
        rfl
      subst hrest
      have hidle : some ({ s.hal with caller := .idle } : HalState) = some u := by
        simpa [HalState.step, HalState.stepCaller, hc] using hu
      cases hidle
      refine ⟨hsound, hs.noFault, hs.enabled, fun hsome => ?_, ?_, fun _ => hnil, ?_, ?_⟩
      · obtain ⟨k, l, hflush⟩ := hs.flushing hsome
        cases hc.symm.trans hflush
      · rintro _ _ ⟨⟩
      · rintro _ _ _ ⟨⟩
      · exact hs.reader.of_same (fun _ _ => Iff.rfl) rfl rfl rfl

/-- What a permitted step keeps. -/
theorem ok_step {a : LifeAct} (hs : s.Ok fe mSensors) (hok : LifeOk fe mSensors s a)
    (h : s.step fe mSensors oneShot a = some t) : t.Ok fe mSensors := by
  have hstep := step_cases h
  cases a with
  | call c => exact ok_call hs hok hstep
  | initStep => exact ok_initStep hs hstep
  | initReader => exact ok_initReader hs hstep
  | initReturns => exact ok_initReturns hs hstep
  | flush written => exact ok_flush hs hstep
  | flushLeaves =>
      cases hstep
      exact ⟨hs.sound, hs.noFault, hs.enabled, fun hne => absurd rfl hne, hs.program, hs.between,
        hs.disabled, hs.reader.of_same (fun _ _ => Iff.rfl) rfl rfl rfl⟩
  | sample j => exact ok_sample hs hstep
  | thread j written => exact ok_thread hs hstep
  | leave j => exact ok_leave hs hstep
  | readerGoesOn =>
      cases hstep with
      | readerGoesOn htest _ =>
          exact hs.readerMoves (by simp [htest]) .entering (by decide) (by rintro ⟨⟩) hs.noFault
  | readerEnds =>
      cases hstep with
      | readerEnds htest hrun =>
          exact hs.readerMoves (by simp [htest]) .ended (by decide) (fun _ => hrun) hs.noFault
  | reader =>
      cases hstep with
      | enter hthread =>
          -- there is a thread, so the queue it reads has been made
          have hjoinable : s.mWakeLockThread ≠ .notJoinable := by simp [hthread]
          refine hs.readerMoves hjoinable .reading (by decide) (by rintro ⟨⟩) ?_
          rw [if_pos (hs.reader.queue hjoinable)]
          exact hs.noFault
      | read hthread =>
          exact hs.readerMoves (by simp [hthread]) .updating (by decide) (by rintro ⟨⟩) hs.noFault
      | update hthread =>
          exact hs.readerMoves (by simp [hthread]) .testing (by decide) (by rintro ⟨⟩) hs.noFault

theorem ok_init : Lifetimes.init.Ok fe mSensors where
  sound := HalState.sound_init
  noFault := rfl
  enabled _ h := absurd rfl h
  flushing h := absurd rfl h
  program _ _ h := nomatch h
  between _ := rfl
  disabled _ _ _ h := nomatch h
  reader :=
    { running := fun _ => Or.inr ⟨rfl, rfl⟩
      stopping := fun _ h => absurd h List.not_mem_nil
      joined := fun _ h => absurd h List.not_mem_nil
      queue := fun h => absurd rfl h
      made := fun _ h => absurd h List.not_mem_nil }

theorem ok_of_reach (h : (lifetimes fe mSensors oneShot).ReachUnder (LifeOk fe mSensors) s) :
    s.Ok fe mSensors := by
  refine h.invariant ?_ ?_
  · rintro s rfl
    exact ok_init
  · exact fun s a t hs hok hstep => ok_step hs hok hstep

end Lifetimes

end Invariant

/-! ## Every schedule -/

/-- In every run whose calls keep to `LifeOk`, `initialize` has deleted no object that a thread was
in a method of, the thread that reads the wake-lock queue has been started and joined in turn, on a
queue that is there, and no event path has gone through a null pointer; the rest of the front end is
in a state that `eventPath` has. -/
theorem nothing_deleted_in_use (fe : FrontEnd) (mSensors : List Int) (oneShot : Int → Bool)
    {s : Lifetimes} (h : (lifetimes fe mSensors oneShot).ReachUnder (LifeOk fe mSensors) s) :
    s.faults = [] ∧ s.hal.shared.nullDerefs = [] ∧ (eventPath fe mSensors oneShot).Reach s.hal := by
  have hs := Lifetimes.ok_of_reach h
  obtain ⟨x, hx, hhal⟩ := (pathSimulation fe mSensors oneShot).reach h.reach
  have hreach : (eventPath fe mSensors oneShot).Reach s.hal := hhal ▸ hx
  exact ⟨hs.noFault, hs.sound.noDeref, hreach⟩

/-- A run without a call needs no permission. -/
theorem reachUnder_of_run {fe : FrontEnd} {mSensors : List Int} {oneShot : Int → Bool}
    {l : List LifeAct} {s t : Lifetimes}
    (hs : (lifetimes fe mSensors oneShot).ReachUnder (LifeOk fe mSensors) s)
    (hquiet : ∀ a ∈ l, ∀ c, a ≠ .call c)
    (h : (lifetimes fe mSensors oneShot).run s l = some t) :
    (lifetimes fe mSensors oneShot).ReachUnder (LifeOk fe mSensors) t := by
  induction l generalizing s with
  | nil =>
      cases h
      exact hs
  | cons a l ih =>
      obtain ⟨u, hu, hrest⟩ := Machine.run_cons_eq_some _ |>.mp h
      have hok : LifeOk fe mSensors s a := by
        cases a with
        | call c => exact absurd rfl (hquiet _ List.mem_cons_self c)
        | _ => trivial
      exact ih (hs.next hok hu) (fun b hb => hquiet b (List.mem_cons_of_mem a hb)) hrest

/-- A sensor is enabled after a first `initialize`, and is in `write` while the thread that reads
the wake-lock queue is in `readBlocking`; the second `initialize` goes on when both have left. -/
theorem nothing_deleted_in_use_twice : ∃ s : Lifetimes,
    (lifetimes .sensors [1] fun _ => false).ReachUnder (LifeOk .sensors [1]) s ∧
      s.hal.caller = .idle ∧ s.mWakeLockThread = .testing ∧
      s.faults = [] ∧ s.hal.shared.nullDerefs = [] ∧
      (eventPath .sensors [1] fun _ => false).Reach s.hal := by
  have hstart : (lifetimes .sensors [1] fun _ => false).ReachUnder (LifeOk .sensors [1]) .init :=
    .start rfl
  have hcall := hstart.next (a := LifeAct.call (.initializeCall true))
    ⟨fun h => (nomatch h), fun _ _ h => absurd rfl h⟩ rfl
  have hreturns := reachUnder_of_run (l := [.initStep, .initReader, .initStep, .initStep, .initStep,
    .initReader, .initReader, .initReturns]) hcall (by simp) rfl
  have hactive := hreturns.next (a := LifeAct.call (.activate 1 true))
    ⟨fun _ => ⟨rfl, rfl⟩, fun _ h => (nomatch h)⟩ rfl
  have hwrites := reachUnder_of_run (l := [.sample 1, .thread 1 true, .thread 1 true,
    .readerGoesOn, .reader]) hactive (by simp) rfl
  have hagain := hwrites.next (a := LifeAct.call (.initializeCall true))
    ⟨fun h => (nomatch h), fun _ _ h => absurd rfl h⟩ rfl
  have hdone := reachUnder_of_run (l := [.leave 1, .thread 1 true, .leave 1, .thread 1 true,
    .initStep, .initReader, .reader, .reader, .readerEnds, .initReader, .initStep, .initStep,
    .initStep, .initReader, .initReader, .initReturns]) hagain (by simp) rfl
  exact ⟨_, hdone, rfl, rfl, nothing_deleted_in_use .sensors [1] (fun _ => false) hdone⟩

/-- The AIDL front end replaces its queue before it disables the sensors: one that is in `write`
loses the queue it writes to. -/
theorem aidl_queue_deleted_in_use : ∃ s : Lifetimes,
    (lifetimes .aidl [1] fun _ => false).run .init
      [.call (.initializeCall true), .initStep, .initStep, .initReader, .initStep, .initStep,
        .initReader, .initReader, .initReturns, .call (.activate 1 true), .sample 1,
        .thread 1 true, .thread 1 true, .thread 1 true, .call (.initializeCall true),
        .initStep] = some s ∧
      s.faults = [.deletedInUse .mEventQueue] ∧ s.hal.shared.nullDerefs = [] :=
  ⟨_, rfl, rfl, rfl⟩

end Smi240Hal.Direct
