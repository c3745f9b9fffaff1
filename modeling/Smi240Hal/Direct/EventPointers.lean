/-
# Smi240Hal.Direct.EventPointers — which pointers an event path finds set

The three Android front ends share the sensors (`Sensor.cpp`): a thread for each sensor takes
`mRunMutex`, and while `mIsEnabled` is set calls `postEvents` under it.  They differ in what
`postEvents` dereferences, what it checks, and in which order `initialize` sets it.

The binder thread is one (`configureRpcThreadpool(1, true)`,
`ABinderProcess_setThreadPoolMaxThreadCount(0)`), so its calls follow each other; the sensor threads
run beside them.  A thread inside `postEvents`, and the binder thread inside `initialize`, stand
before the first of the instructions they have left, and every instruction is one step, so a
schedule preempts them anywhere.  A pointer is modelled by whether it is set.  Only the instructions
that touch what `postEvents` reads are listed, and `nullDerefs` logs every dereference of a null one.
-/
import Smi240Hal.Lib.Machine

namespace Smi240Hal.Direct

open Smi240Hal.Lib

/-! ## The code -/

/-- The three services that have an event path of their own. -/
inductive FrontEnd
  /-- `2.X/Sensors.h` -/
  | sensors
  /-- `SensorsHalAidl` -/
  | aidl
  /-- `ISensorsSubHalBase` -/
  | subHal
deriving DecidableEq, Repr

/-- The pointers an event path goes through. -/
inductive Pointer
  | mEventQueue
  | mEventQueueFlag
  | mCallback
deriving DecidableEq, Repr

/-- An instruction of `postEvents`. -/
inductive PostInstr
  /-- `std::lock_guard<std::mutex> lock(mWriteLock)` -/
  | lock
  /-- `if (mEventQueue == nullptr) return` -/
  | returnIfNull
  /-- `mEventQueue->write(events)`; when it fails, the branch is left out -/
  | write
  /-- `mEventQueueFlag->wake(..)` -/
  | wake
  | unlock
  /-- `mCallback->createScopedWakelock(wakeup)` -/
  | createScopedWakelock
  /-- `mCallback->postEvents(..)` -/
  | callbackPost
deriving DecidableEq, Repr

/-- `postEvents` of the three front ends. -/
def postEvents : FrontEnd → List PostInstr
  | .sensors => [.lock, .write, .wake, .unlock]
  | .aidl => [.lock, .returnIfNull, .write, .wake, .unlock]
  | .subHal => [.createScopedWakelock, .callbackPost]

/-- An instruction of `initialize` that an event path depends on. -/
inductive InitInstr
  /-- `sensor.second->activate(false)` -/
  | disable (sensorHandle : Int)
  /-- `mEventQueue = ..`, of a queue just made -/
  | setQueue
  /-- `deleteEventFlag()`, which leaves the flag null -/
  | deleteFlag
  /-- `EventFlag::createEventFlag(.., &mEventQueueFlag)`, which leaves the flag null when it fails -/
  | createFlag
  /-- `mCallback = ..`, of a wrapper just made -/
  | setCallback
deriving DecidableEq, Repr

/-- `initialize` of the three front ends, `mSensors` by its handles. -/
def initInstrs (mSensors : List Int) : FrontEnd → List InitInstr
  | .sensors => mSensors.map .disable ++ [.setQueue, .deleteFlag, .createFlag]
  | .aidl => .setQueue :: (mSensors.map .disable ++ [.deleteFlag, .createFlag])
  | .subHal => [.setCallback]

/-- What `postEvents` reads and writes: the three pointers, `mWriteLock`, and the log. -/
structure Shared where
  mEventQueue : Bool
  mEventQueueFlag : Bool
  mCallback : Bool
  mWriteLock : Bool
  nullDerefs : List Pointer
deriving DecidableEq

namespace Shared

/-- Dereference a pointer, given whether it is set. -/
def deref (s : Shared) (p : Pointer) (set : Bool) : Shared :=
  if set then s else { s with nullDerefs := s.nullDerefs ++ [p] }

/-- The first instruction; the rest of them, and the state.  `written` says whether the queue takes
the events.  `none` is a thread waiting for the mutex, or one that has finished. -/
def runPost (s : Shared) (written : Bool) : List PostInstr → Option (List PostInstr × Shared)
  | [] => none
  | .lock :: rest => if s.mWriteLock then none else some (rest, { s with mWriteLock := true })
  | .returnIfNull :: rest => some (if s.mEventQueue then rest else [.unlock], s)
  | .write :: rest =>
      some (if s.mEventQueue && written then rest else [.unlock],
        s.deref .mEventQueue s.mEventQueue)
  | .wake :: rest => some (rest, s.deref .mEventQueueFlag s.mEventQueueFlag)
  | .unlock :: rest => some (rest, { s with mWriteLock := false })
  | .createScopedWakelock :: rest => some (rest, s.deref .mCallback s.mCallback)
  | .callbackPost :: rest => some (rest, s.deref .mCallback s.mCallback)

end Shared

/-- The binder thread: between two calls, inside `initialize` (with the outcome of
`createEventFlag`), or inside the `postEvents` of a `flush`. -/
inductive Caller
  | idle
  | initializing (rest : List InitInstr) (flagOk : Bool)
  | flushing (sensorHandle : Int) (rest : List PostInstr)
deriving DecidableEq

/-- A front end: the shared part, the sensors by handle (`mIsEnabled`, and what is left of the
`postEvents` of its thread), and the binder thread. -/
structure HalState where
  shared : Shared
  mIsEnabled : Int → Bool
  posting : Int → List PostInstr
  caller : Caller

/-- A call of the framework; `flagOk` says whether `createEventFlag` succeeds in it. -/
inductive HalCall
  | activate (sensorHandle : Int) (enabled : Bool)
  | batch (sensorHandle samplingPeriodNs : Int)
  | flush (sensorHandle : Int)
  | initializeCall (flagOk : Bool)
deriving DecidableEq

/-- A step of one of the threads. -/
inductive PathAct
  /-- the binder thread takes a call -/
  | call (c : HalCall)
  /-- the next instruction of the binder thread -/
  | caller (written : Bool)
  /-- the thread of a sensor finds it enabled, and its next sample due -/
  | sample (sensorHandle : Int)
  /-- the next instruction of the thread of a sensor -/
  | thread (sensorHandle : Int) (written : Bool)
deriving DecidableEq

namespace HalState

/-- Before the first `initialize`: every pointer is null, every sensor disabled. -/
def init : HalState where
  shared := ⟨false, false, false, false, []⟩
  mIsEnabled _ := false
  posting _ := []
  caller := .idle

/-- One sensor is enabled or disabled, the others stay. -/
def setEnabled (s : HalState) (h : Int) (enabled : Bool) : HalState :=
  { s with mIsEnabled := fun j => if j = h then enabled else s.mIsEnabled j }

/-- The thread of one sensor has `rest` left to do. -/
def setPosting (s : HalState) (h : Int) (rest : List PostInstr) : HalState :=
  { s with posting := fun j => if j = h then rest else s.posting j }

/-- `Sensor::activate`: a change waits for `mRunMutex`, which the thread holds while it posts. -/
def sensorActivate (s : HalState) (h : Int) (enable : Bool) : Option HalState :=
  if s.mIsEnabled h ≠ enable then
    if s.posting h ≠ [] then none else some (s.setEnabled h enable)
  else some s

/-- One instruction of `initialize`. -/
def runInit (s : HalState) (flagOk : Bool) : InitInstr → Option HalState
  | .disable h => s.sensorActivate h false
  | .setQueue => some { s with shared := { s.shared with mEventQueue := true } }
  | .deleteFlag => some { s with shared := { s.shared with mEventQueueFlag := false } }
  | .createFlag => some { s with shared := { s.shared with mEventQueueFlag := flagOk } }
  | .setCallback => some { s with shared := { s.shared with mCallback := true } }

end HalState

section Machine

variable (fe : FrontEnd) (mSensors : List Int) (oneShot : Int → Bool)

namespace HalState

/-- A call of the binder thread, up to its return or to its first instruction.  A handle that is not
in `mSensors` is refused; `batch` only wakes the thread. -/
def call (s : HalState) : HalCall → Option HalState
  | .activate h enabled => if h ∈ mSensors then s.sensorActivate h enabled else some s
  | .batch _ _ => some s
  | .flush h =>
      if h ∈ mSensors ∧ s.mIsEnabled h = true ∧ oneShot h = false then
        some { s with caller := .flushing h (postEvents fe) }
      else some s
  | .initializeCall flagOk =>
      some { s with caller := .initializing (initInstrs mSensors fe) flagOk }

/-- One instruction of the binder thread. -/
def stepCaller (s : HalState) (written : Bool) : Option HalState :=
  match s.caller with
  | .idle => none
  | .initializing [] _ => some { s with caller := .idle }
  | .initializing (i :: rest) flagOk =>
      (s.runInit flagOk i).map fun t => { t with caller := .initializing rest flagOk }
  | .flushing _ [] => some { s with caller := .idle }
  | .flushing h rest =>
      (s.shared.runPost written rest).map fun r =>
        { s with shared := r.2, caller := .flushing h r.1 }

/-- A sample becomes due only for a thread that is not in `postEvents`. -/
def step (s : HalState) : PathAct → Option HalState
  | .call c => if s.caller = .idle then s.call fe mSensors oneShot c else none
  | .caller written => s.stepCaller written
  | .sample h =>
      if h ∈ mSensors ∧ s.mIsEnabled h = true ∧ s.posting h = [] then
        some (s.setPosting h (postEvents fe))
      else none
  | .thread h written =>
      (s.shared.runPost written (s.posting h)).map fun r =>
        HalState.setPosting { s with shared := r.2 } h r.1

end HalState

/-- A front end under every schedule. -/
def eventPath : Machine HalState PathAct where
  Start s := s = .init
  step := HalState.step fe mSensors oneShot

end Machine

/-! ## What the framework has to keep to -/

/-- The pointers `postEvents` goes through are set: of the AIDL front end, the flag once the queue
is. -/
def Shared.Ready (s : Shared) : FrontEnd → Prop
  | .sensors => s.mEventQueue = true ∧ s.mEventQueueFlag = true
  | .aidl => s.mEventQueue = true → s.mEventQueueFlag = true
  | .subHal => s.mCallback = true

/-- A sensor is enabled only while the pointers are set; and the AIDL front end, whose `initialize`
sets the queue before it disables the sensors, is not initialized with a sensor enabled while it has
no flag. -/
def CallsOk (fe : FrontEnd) (mSensors : List Int) (s : HalState) : PathAct → Prop
  | .call (.activate h true) => h ∈ mSensors → s.shared.Ready fe
  | .call (.initializeCall _) =>
      fe = .aidl → s.shared.mEventQueueFlag = true ∨ ∀ h, s.mIsEnabled h = false
  | _ => True

/-! ## The invariant -/

/-- What a thread has left of `postEvents`: past the check of the AIDL front end, the queue is
set. -/
structure Shared.PostOk (s : Shared) (fe : FrontEnd) (rest : List PostInstr) : Prop where
  suffix : rest <:+ postEvents fe
  checked : fe = .aidl → .returnIfNull ∉ rest → .wake ∈ rest → s.mEventQueue = true

/-- The sensors are disabled before the flag is deleted. -/
def DisablesFirst (i j : InitInstr) : Prop :=
  i = .deleteFlag ∨ i = .createFlag → ∀ h, j ≠ .disable h

/-- What the binder thread has left of `initialize`. -/
structure HalState.InitOk (s : HalState) (fe : FrontEnd) (rest : List InitInstr) : Prop where
  order : rest.Pairwise DisablesFirst
  disables : fe ≠ .subHal → ∀ h, s.mIsEnabled h = true → .disable h ∈ rest
  queue : fe = .aidl → .setQueue ∈ rest →
    s.shared.mEventQueueFlag = true ∨ ∀ h, s.mIsEnabled h = false

/-- A sensor is enabled only while the pointers of its event path are set, and so is one whose thread
is in `postEvents`. -/
structure HalState.Sound (fe : FrontEnd) (mSensors : List Int) (s : HalState) : Prop where
  noDeref : s.shared.nullDerefs = []
  known : ∀ h, s.mIsEnabled h = true → h ∈ mSensors
  ready : ∀ h, s.mIsEnabled h = true → s.shared.Ready fe
  /-- a sensor is disabled only under `mRunMutex` -/
  enabled : ∀ h, s.posting h ≠ [] → s.mIsEnabled h = true
  posting : ∀ h, s.shared.PostOk fe (s.posting h)
  flushing : ∀ h rest, s.caller = .flushing h rest →
    s.mIsEnabled h = true ∧ s.shared.PostOk fe rest
  initializing : ∀ rest flagOk, s.caller = .initializing rest flagOk → s.InitOk fe rest

section Invariant

variable {fe : FrontEnd} {mSensors : List Int} {oneShot : Int → Bool} {s t : HalState}

/-! ### One instruction of `postEvents` -/

namespace Shared

variable {sh sh' : Shared} {rest rest' : List PostInstr}

theorem postOk_nil : sh.PostOk fe [] where
  suffix := List.nil_suffix
  checked _ _ h := absurd h List.not_mem_nil

theorem postOk_postEvents : sh.PostOk fe (postEvents fe) where
  suffix := List.suffix_refl _
  checked hfe h := by
    subst hfe
    exact absurd (by decide) h

theorem PostOk.of_queue (h : sh.PostOk fe rest)
    (hq : sh.mEventQueue = true → sh'.mEventQueue = true) : sh'.PostOk fe rest :=
  ⟨h.suffix, fun hfe hnot hwake => hq (h.checked hfe hnot hwake)⟩

/-- While the pointers are set, an instruction dereferences no null one, and changes nothing but the
mutex. -/
theorem runPost_ready {written : Bool} (hready : sh.Ready fe) (hok : sh.PostOk fe rest)
    (h : sh.runPost written rest = some (rest', sh')) :
    sh' = { sh with mWriteLock := sh'.mWriteLock } ∧ sh.PostOk fe rest' := by
  obtain ⟨hsuffix, hchecked⟩ := hok
  cases fe with
  | sensors =>
      obtain ⟨hq, hf⟩ := hready
      simp only [postEvents, List.suffix_cons_iff, List.suffix_nil] at hsuffix
      rcases hsuffix with rfl | rfl | rfl | rfl | rfl
      · simp only [runPost] at h
        split at h
        · exact absurd h (by simp)
        · cases h
          exact ⟨rfl, by decide, nofun⟩
      · cases written <;> simp only [runPost, hq, deref] at h <;> cases h <;>
          exact ⟨rfl, by decide, nofun⟩
      · simp only [runPost, hf, deref] at h
        cases h
        exact ⟨rfl, by decide, nofun⟩
      · cases h
        exact ⟨rfl, by decide, nofun⟩
      · cases h
  | aidl =>
      simp only [postEvents, List.suffix_cons_iff, List.suffix_nil] at hsuffix
      rcases hsuffix with rfl | rfl | rfl | rfl | rfl | rfl
      · simp only [runPost] at h
        split at h
        · exact absurd h (by simp)
        · cases h
          exact ⟨rfl, by decide, fun _ hnot => absurd (by decide) hnot⟩
      · -- the check
        simp only [runPost] at h
        split at h
        case isTrue hq =>
          cases h
          exact ⟨rfl, by decide, fun _ _ _ => hq⟩
        case isFalse =>
          cases h
          exact ⟨rfl, by decide, fun _ _ hwake => absurd hwake (by decide)⟩
      · have hq : sh.mEventQueue = true := hchecked rfl (by decide) (by decide)
        cases written <;> simp only [runPost, hq, deref] at h <;> cases h
        · exact ⟨rfl, by decide, fun _ _ hwake => absurd hwake (by decide)⟩
        · exact ⟨rfl, by decide, fun _ _ _ => hq⟩
      · have hf : sh.mEventQueueFlag = true := hready (hchecked rfl (by decide) (by decide))
        simp only [runPost, hf, deref] at h
        cases h
        exact ⟨rfl, by decide, fun _ _ hwake => absurd hwake (by decide)⟩
      · cases h
        exact ⟨rfl, by decide, fun _ _ hwake => absurd hwake (by decide)⟩
      · cases h
  | subHal =>
      have hc : sh.mCallback = true := hready
      simp only [postEvents, List.suffix_cons_iff, List.suffix_nil] at hsuffix
      rcases hsuffix with rfl | rfl | rfl
      · simp only [runPost, hc, deref] at h
        cases h
        exact ⟨rfl, by decide, nofun⟩
      · simp only [runPost, hc, deref] at h
        cases h
        exact ⟨rfl, by decide, nofun⟩
      · cases h

end Shared

/-! ### One step -/

namespace HalState

/-- Only the mutex of the shared part changes: what the invariant says of the pointers stays. -/
theorem Sound.withLock (hs : s.Sound fe mSensors) {sh : Shared}
    (hsh : sh = { s.shared with mWriteLock := sh.mWriteLock }) :
    HalState.Sound fe mSensors { s with shared := sh } := by
  rw [hsh]
  have hready : ∀ h, s.mIsEnabled h = true →
      Shared.Ready { s.shared with mWriteLock := sh.mWriteLock } fe := by
    intro h hh
    have := hs.ready h hh
    cases fe <;> exact this
  refine ⟨hs.noDeref, hs.known, hready, hs.enabled, ?_, ?_, ?_⟩
  · exact fun h => (hs.posting h).of_queue id
  · exact fun h rest hc => ⟨(hs.flushing h rest hc).1, (hs.flushing h rest hc).2.of_queue id⟩
  · intro rest flagOk hc
    obtain ⟨horder, hdis, hqueue⟩ := hs.initializing rest flagOk hc
    exact ⟨horder, hdis, hqueue⟩

theorem Sound.setPosting (hs : s.Sound fe mSensors) {h : Int} {rest : List PostInstr}
    (hen : rest ≠ [] → s.mIsEnabled h = true) (hok : s.shared.PostOk fe rest) :
    (s.setPosting h rest).Sound fe mSensors := by
  refine ⟨hs.noDeref, hs.known, hs.ready, fun j => ?_, fun j => ?_, hs.flushing, fun r f hc => ?_⟩
  · show (if j = h then rest else s.posting j) ≠ [] → s.mIsEnabled j = true
    split
    case isTrue hj => exact hj ▸ hen
    case isFalse => exact hs.enabled j
  · show s.shared.PostOk fe (if j = h then rest else s.posting j)
    split
    · exact hok
    · exact hs.posting j
  · obtain ⟨horder, hdis, hqueue⟩ := hs.initializing r f hc
    exact ⟨horder, hdis, hqueue⟩

/-- The binder thread goes on with something else. -/
theorem Sound.withCaller (hs : s.Sound fe mSensors) {c : Caller}
    (hflush : ∀ h rest, c = .flushing h rest → s.mIsEnabled h = true ∧ s.shared.PostOk fe rest)
    (hinit : ∀ rest flagOk, c = .initializing rest flagOk → s.InitOk fe rest) :
    HalState.Sound fe mSensors { s with caller := c } where
  noDeref := hs.noDeref
  known := hs.known
  ready := hs.ready
  enabled := hs.enabled
  posting := hs.posting
  flushing := hflush
  initializing rest flagOk hc := by
    obtain ⟨horder, hdis, hqueue⟩ := hinit rest flagOk hc
    exact ⟨horder, hdis, hqueue⟩

theorem Sound.idle (hs : s.Sound fe mSensors) :
    HalState.Sound fe mSensors { s with caller := .idle } :=
  hs.withCaller nofun nofun

theorem Sound.flushingNow (hs : s.Sound fe mSensors) {h : Int} {rest : List PostInstr}
    (hen : s.mIsEnabled h = true) (hok : s.shared.PostOk fe rest) :
    HalState.Sound fe mSensors { s with caller := .flushing h rest } := by
  refine hs.withCaller ?_ nofun
  rintro _ _ ⟨⟩
  exact ⟨hen, hok⟩

theorem Sound.initializingNow (hs : s.Sound fe mSensors) {rest : List InitInstr} {flagOk : Bool}
    (hok : s.InitOk fe rest) :
    HalState.Sound fe mSensors { s with caller := .initializing rest flagOk } := by
  refine hs.withCaller nofun ?_
  rintro _ _ ⟨⟩
  exact hok

/-- `Sensor::activate`: the flag of one sensor, whose thread is not posting. -/
theorem sensorActivate_cases {h : Int} {enable : Bool}
    (hstep : s.sensorActivate h enable = some t) :
    t = s ∧ s.mIsEnabled h = enable ∨ t = s.setEnabled h enable ∧ s.posting h = [] := by
  unfold sensorActivate at hstep
  split at hstep
  case isFalse hsame =>
    cases hstep
    exact .inl ⟨rfl, not_not.mp hsame⟩
  case isTrue =>
    split at hstep
    case isTrue => exact absurd hstep (by simp)
    case isFalse hpost =>
      cases hstep
      exact .inr ⟨rfl, not_not.mp hpost⟩

theorem setEnabled_true {h j : Int} {enable : Bool}
    (hj : (s.setEnabled h enable).mIsEnabled j = true) :
    j = h ∧ enable = true ∨ j ≠ h ∧ s.mIsEnabled j = true := by
  have hj' : (if j = h then enable else s.mIsEnabled j) = true := hj
  split at hj'
  case isTrue heq => exact .inl ⟨heq, hj'⟩
  case isFalse hne => exact .inr ⟨hne, hj'⟩

/-- After `activate(false)` the sensor is disabled, and nothing else has been enabled. -/
theorem sensorActivate_false {h : Int} (hstep : s.sensorActivate h false = some t) :
    t.mIsEnabled h = false ∧ (∀ j, t.mIsEnabled j = true → s.mIsEnabled j = true) ∧
      t.posting = s.posting ∧ t.shared = s.shared ∧
      (∀ j, s.posting j ≠ [] → s.mIsEnabled j = true → t.mIsEnabled j = true) := by
  rcases sensorActivate_cases hstep with ⟨rfl, hoff⟩ | ⟨rfl, hpost⟩
  · exact ⟨hoff, fun _ => id, rfl, rfl, fun _ _ => id⟩
  · refine ⟨if_pos rfl, fun j hj => ?_, rfl, rfl, fun j hj hen => ?_⟩
    · rcases setEnabled_true hj with ⟨_, hf⟩ | ⟨_, hj⟩
      · exact absurd hf (by decide)
      · exact hj
    · have hne : j ≠ h := by
        rintro rfl
        exact hj hpost
      exact (if_neg hne).trans hen

/-- Where `initialize` deletes and makes the flag, it has disabled every sensor. -/
theorem InitOk.disabled {i : InitInstr} {rest : List InitInstr} (hok : s.InitOk fe (i :: rest))
    (hi : i = .deleteFlag ∨ i = .createFlag) (hfe : fe ≠ .subHal) (h : Int) :
    s.mIsEnabled h = false := by
  by_contra hen
  rcases List.mem_cons.mp (hok.disables hfe h (Bool.not_eq_false _ ▸ hen)) with heq | hmem
  · rcases hi with rfl | rfl <;> cases heq
  · exact (List.pairwise_cons.mp hok.order).1 _ hmem hi h rfl

/-- A pointer is set or reset, with the sensors as they are. -/
theorem Sound.withShared (hs : s.Sound fe mSensors) {sh : Shared} {rest : List InitInstr}
    {flagOk : Bool} (hlog : sh.nullDerefs = s.shared.nullDerefs)
    (hqueue : s.shared.mEventQueue = true → sh.mEventQueue = true)
    (hready : ∀ h, s.mIsEnabled h = true → sh.Ready fe)
    (hinit : HalState.InitOk { s with shared := sh } fe rest) :
    HalState.Sound fe mSensors { s with shared := sh, caller := .initializing rest flagOk } where
  noDeref := hlog.trans hs.noDeref
  known := hs.known
  ready := hready
  enabled := hs.enabled
  posting h := (hs.posting h).of_queue hqueue
  flushing _ _ h := nomatch h
  initializing _ _ hc := by
    cases hc
    exact ⟨hinit.order, hinit.disables, hinit.queue⟩

theorem sound_runInit (hs : s.Sound fe mSensors) {i : InitInstr} {rest : List InitInstr}
    {flagOk : Bool} {u : HalState} (hok : s.InitOk fe (i :: rest))
    (hstep : s.runInit flagOk i = some u) :
    HalState.Sound fe mSensors { u with caller := .initializing rest flagOk } := by
  have horder : rest.Pairwise DisablesFirst := (List.pairwise_cons.mp hok.order).2
  have hdis : (∀ h, i ≠ .disable h) → fe ≠ .subHal → ∀ h, s.mIsEnabled h = true →
      .disable h ∈ rest := by
    intro hi hfe h hen
    exact (List.mem_cons.mp (hok.disables hfe h hen)).resolve_left (Ne.symm (hi h))
  have hq : fe = .aidl → .setQueue ∈ rest →
      s.shared.mEventQueueFlag = true ∨ ∀ h, s.mIsEnabled h = false :=
    fun hfe hmem => hok.queue hfe (List.mem_cons_of_mem _ hmem)
  -- the flag changes only while no sensor is enabled
  have hflag : i = .deleteFlag ∨ i = .createFlag → ∀ f : Bool,
      HalState.Sound fe mSensors
        { s with shared := { s.shared with mEventQueueFlag := f },
                 caller := .initializing rest flagOk } := by
    intro hi f
    refine hs.withShared rfl id (fun h hen => ?_) ⟨horder, hdis ?_, fun hfe _ => .inr ?_⟩
    · by_cases hfe : fe = .subHal
      · subst hfe
        exact hs.ready h hen
      · rw [hok.disabled hi hfe h] at hen
        exact absurd hen (by decide)
    · rcases hi with rfl | rfl <;> exact nofun
    · exact hok.disabled hi (by rw [hfe]; decide)
  cases i with
  | disable h =>
      obtain ⟨hoff, hmono, hpost, hsh, hkeep⟩ := sensorActivate_false hstep
      refine ⟨hsh ▸ hs.noDeref, fun j hj => hs.known j (hmono j hj),
        fun j hj => hsh ▸ hs.ready j (hmono j hj), fun j hj => ?_, fun j => ?_, nofun, ?_⟩
      · have hj' : s.posting j ≠ [] := hpost ▸ hj
        exact hkeep j hj' (hs.enabled j hj')
      · show u.shared.PostOk fe (u.posting j)
        rw [hsh, hpost]
        exact hs.posting j
      · intro r f hc
        cases hc
        refine ⟨horder, fun hfe j hj => ?_, fun hfe hmem => ?_⟩
        · rcases List.mem_cons.mp (hok.disables hfe j (hmono j hj)) with heq | hmem
          · cases heq
            exact absurd (hoff.symm.trans hj) (by decide)
          · exact hmem
        · rcases hq hfe hmem with hset | hnone
          · exact .inl (hsh ▸ hset)
          · exact .inr fun j => Bool.eq_false_iff.mpr fun hj =>
              absurd ((hnone j).symm.trans (hmono j hj)) (by decide)
  | setQueue =>
      cases hstep
      refine hs.withShared rfl (fun _ => rfl) (fun h hen => ?_) ⟨horder, hdis nofun, hq⟩
      have hready := hs.ready h hen
      cases fe with
      | sensors => exact ⟨rfl, hready.2⟩
      | subHal => exact hready
      | aidl =>
          intro _
          rcases hok.queue rfl (List.mem_cons_self ..) with hset | hnone
          · exact hset
          · rw [hnone h] at hen
            exact absurd hen (by decide)
  | deleteFlag =>
      cases hstep
      exact hflag (.inl rfl) false
  | createFlag =>
      cases hstep
      exact hflag (.inr rfl) flagOk
  | setCallback =>
      cases hstep
      refine hs.withShared rfl id (fun h hen => ?_) ⟨horder, hdis nofun, hq⟩
      have hready := hs.ready h hen
      cases fe with
      | sensors => exact hready
      | aidl => exact hready
      | subHal => rfl

theorem initOk_initInstrs (hs : s.Sound fe mSensors)
    (hok : fe = .aidl → s.shared.mEventQueueFlag = true ∨ ∀ h, s.mIsEnabled h = false) :
    s.InitOk fe (initInstrs mSensors fe) := by
  refine ⟨?_, fun hfe h hen => ?_, fun hfe _ => hok hfe⟩
  · have htrue : mSensors.Pairwise fun _ _ => True := List.pairwise_of_forall fun _ _ => trivial
    cases fe <;>
      simp [initInstrs, List.pairwise_append, List.pairwise_map, DisablesFirst, htrue]
  · have hmem := hs.known h hen
    cases fe with
    | sensors => simp [initInstrs, hmem]
    | aidl => simp [initInstrs, hmem]
    | subHal => exact absurd rfl hfe

/-- A call, up to its first instruction. -/
theorem sound_call (hs : s.Sound fe mSensors) (hidle : s.caller = .idle) {c : HalCall}
    (hok : CallsOk fe mSensors s (.call c)) (hstep : s.call fe mSensors oneShot c = some t) :
    t.Sound fe mSensors := by
  cases c with
  | activate h enable =>
      simp only [call] at hstep
      split at hstep
      case isFalse =>
        cases hstep
        exact hs
      case isTrue hmem =>
        rcases sensorActivate_cases hstep with ⟨rfl, _⟩ | ⟨rfl, hpost⟩
        · exact hs
        have hon : ∀ j, (s.setEnabled h enable).mIsEnabled j = true →
            j ∈ mSensors ∧ s.shared.Ready fe := by
          intro j hj
          rcases setEnabled_true hj with ⟨rfl, rfl⟩ | ⟨_, hj⟩
          · exact ⟨hmem, hok hmem⟩
          · exact ⟨hs.known j hj, hs.ready j hj⟩
        refine ⟨hs.noDeref, fun j hj => (hon j hj).1, fun j hj => (hon j hj).2, fun j hj => ?_,
          hs.posting, fun r f hc => ?_, fun r f hc => ?_⟩
        · have hne : j ≠ h := by
            rintro rfl
            exact hj hpost
          exact (if_neg hne).trans (hs.enabled j hj)
        · exact nomatch hidle.symm.trans hc
        · exact nomatch hidle.symm.trans hc
  | batch =>
      cases hstep
      exact hs
  | flush h =>
      simp only [call] at hstep
      split at hstep
      case isTrue hen =>
        cases hstep
        exact hs.flushingNow hen.2.1 Shared.postOk_postEvents
      case isFalse =>
        cases hstep
        exact hs
  | initializeCall flagOk =>
      cases hstep
      exact hs.initializingNow (initOk_initInstrs hs hok)

/-- An instruction of the binder thread. -/
theorem sound_stepCaller (hs : s.Sound fe mSensors) {written : Bool}
    (hstep : s.stepCaller written = some t) : t.Sound fe mSensors := by
  unfold stepCaller at hstep
  split at hstep
  · exact absurd hstep (by simp)
  · cases hstep
    exact hs.idle
  · next i rest flagOk hc =>
    obtain ⟨u, hu, rfl⟩ := Option.map_eq_some_iff.mp hstep
    exact sound_runInit hs (hs.initializing _ _ hc) hu
  · cases hstep
    exact hs.idle
  · next h rest hc =>
    obtain ⟨⟨rest', sh⟩, hrun, rfl⟩ := Option.map_eq_some_iff.mp hstep
    obtain ⟨hen, hok⟩ := hs.flushing _ _ hc
    obtain ⟨hlock, hok'⟩ := Shared.runPost_ready (hs.ready _ hen) hok hrun
    refine (hs.withLock hlock).flushingNow hen (hok'.of_queue fun hq => ?_)
    rw [hlock]
    exact hq

/-- What a permitted step keeps. -/
theorem sound_step (hs : s.Sound fe mSensors) {a : PathAct} (hok : CallsOk fe mSensors s a)
    (hstep : s.step fe mSensors oneShot a = some t) : t.Sound fe mSensors := by
  cases a with
  | call c =>
      simp only [step] at hstep
      split at hstep
      case isFalse => exact absurd hstep (by simp)
      case isTrue hidle => exact sound_call hs hidle hok hstep
  | caller written => exact sound_stepCaller hs hstep
  | sample h =>
      simp only [step] at hstep
      split at hstep
      case isFalse => exact absurd hstep (by simp)
      case isTrue hen =>
        cases hstep
        exact hs.setPosting (fun _ => hen.2.1) Shared.postOk_postEvents
  | thread h written =>
      obtain ⟨⟨rest, sh⟩, hrun, rfl⟩ := Option.map_eq_some_iff.mp hstep
      have hpost : s.posting h ≠ [] := by
        intro hnil
        rw [hnil] at hrun
        exact absurd hrun (by simp [Shared.runPost])
      have hen := hs.enabled h hpost
      obtain ⟨hlock, hok'⟩ := Shared.runPost_ready (hs.ready h hen) (hs.posting h) hrun
      refine (hs.withLock hlock).setPosting (fun _ => hen) (hok'.of_queue fun hq => ?_)
      rw [hlock]
      exact hq

theorem sound_init : init.Sound fe mSensors where
  noDeref := rfl
  known _ h := nomatch h
  ready _ h := nomatch h
  enabled _ h := absurd rfl h
  posting _ := Shared.postOk_nil
  flushing _ _ h := nomatch h
  initializing _ _ h := nomatch h

end HalState

end Invariant

/-! ## Every schedule -/

/-- In every run whose calls keep to `CallsOk`, no event path has dereferenced a null pointer. -/
theorem no_null_deref (fe : FrontEnd) (mSensors : List Int) (oneShot : Int → Bool)
    {s : HalState} (h : (eventPath fe mSensors oneShot).ReachUnder (CallsOk fe mSensors) s) :
    s.shared.nullDerefs = [] := by
  have hsound : s.Sound fe mSensors := by
    refine h.invariant ?_ ?_
    · rintro s rfl
      exact HalState.sound_init
    · exact fun s a t hs hok hstep => HalState.sound_step hs hok hstep
  exact hsound.noDeref

/-- A sensor is enabled after `initialize`, and samples. -/
theorem no_null_deref_one_sample : ∃ s : HalState,
    (eventPath .sensors [1, 2] fun _ => false).ReachUnder (CallsOk .sensors [1, 2]) s ∧
      s.mIsEnabled 1 = true ∧ s.shared.nullDerefs = [] := by
  have hstart : (eventPath .sensors [1, 2] fun _ => false).ReachUnder
      (CallsOk .sensors [1, 2]) .init := .start rfl
  have hinit := hstart.next (a := PathAct.call (.initializeCall true)) (fun h => nomatch h) rfl
  have hoff1 := hinit.next (a := PathAct.caller true) trivial rfl
  have hoff2 := hoff1.next (a := PathAct.caller true) trivial rfl
  have hqueue := hoff2.next (a := PathAct.caller true) trivial rfl
  have hdelete := hqueue.next (a := PathAct.caller true) trivial rfl
  have hcreate := hdelete.next (a := PathAct.caller true) trivial rfl
  have hreturn := hcreate.next (a := PathAct.caller true) trivial rfl
  have hactive := hreturn.next (a := PathAct.call (.activate 1 true)) (fun _ => ⟨rfl, rfl⟩) rfl
  have hsample := hactive.next (a := PathAct.sample 1) trivial rfl
  have hlock := hsample.next (a := PathAct.thread 1 true) trivial rfl
  have hwrite := hlock.next (a := PathAct.thread 1 true) trivial rfl
  have hwake := hwrite.next (a := PathAct.thread 1 true) trivial rfl
  exact ⟨_, hwake, rfl, no_null_deref .sensors [1, 2] (fun _ => false) hwake⟩

/-- Enabled before the first `initialize`, a sensor samples through a null queue and a null callback;
and, of the AIDL front end, through a null flag while `initialize` runs. -/
theorem null_deref_early :
    (¬ ∀ s : HalState, (eventPath .sensors [1, 2] fun _ => false).Reach s →
      s.shared.nullDerefs = []) ∧
    (¬ ∀ s : HalState, (eventPath .aidl [1, 2] fun _ => false).Reach s →
      s.shared.nullDerefs = []) ∧
    (¬ ∀ s : HalState, (eventPath .subHal [1, 2] fun _ => false).Reach s →
      s.shared.nullDerefs = []) := by
  refine ⟨fun hall => ?_, fun hall => ?_, fun hall => ?_⟩
  · obtain ⟨s, hrun, hlog⟩ : ∃ s, (eventPath .sensors [1, 2] fun _ => false).run .init
        [.call (.activate 1 true), .sample 1, .thread 1 true, .thread 1 true] = some s ∧
        s.shared.nullDerefs = [.mEventQueue] := ⟨_, rfl, rfl⟩
    exact absurd (hlog.symm.trans (hall s (Machine.Reach.of_run (.start rfl) hrun))) (by decide)
  · obtain ⟨s, hrun, hlog⟩ : ∃ s, (eventPath .aidl [1, 2] fun _ => false).run .init
        [.call (.activate 1 true), .call (.initializeCall true), .caller true, .sample 1,
          .thread 1 true, .thread 1 true, .thread 1 true, .thread 1 true] = some s ∧
        s.shared.nullDerefs = [.mEventQueueFlag] := ⟨_, rfl, rfl⟩
    exact absurd (hlog.symm.trans (hall s (Machine.Reach.of_run (.start rfl) hrun))) (by decide)
  · obtain ⟨s, hrun, hlog⟩ : ∃ s, (eventPath .subHal [1, 2] fun _ => false).run .init
        [.call (.activate 1 true), .sample 1, .thread 1 true] = some s ∧
        s.shared.nullDerefs = [.mCallback] := ⟨_, rfl, rfl⟩
    exact absurd (hlog.symm.trans (hall s (Machine.Reach.of_run (.start rfl) hrun))) (by decide)

end Smi240Hal.Direct
