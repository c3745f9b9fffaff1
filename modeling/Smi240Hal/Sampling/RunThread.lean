/-
# Smi240Hal.Sampling.RunThread — the thread of `run`, its mutex, and the destructor

`Sampling.SensorLoop` lets an iteration come at any time.  Here the thread is taken apart at
`mRunMutex` and `mWaitCV`.  It has the mutex except in `wait` and `wait_for`; `activate` takes it to
change `mIsEnabled`, `batch` notifies without it.  A notification reaches the thread only while it
waits.  A call of `activate` or `batch` is one action: neither blocks in its critical section.

The destructor has to get the thread out of the loop before it can return.  The multihal build lets
the mutex go before the `join`; the 2.X and the AIDL build call `release`, which drops the ownership
of the mutex and leaves it locked.

An iteration, up to its `wait_for`, is one action as well.  `batch` does not take the mutex, so in the
program a call of it may fall inside an iteration, between two reads of `mSamplingPeriodNs`; what is
said here about `batch` is about calls between two iterations.
-/
import Smi240Hal.Lib.Progress
import Smi240Hal.Lib.Simulation
import Smi240Hal.Sampling.SensorLoop

namespace Smi240Hal.Sampling

open Smi240Hal.Lib

/-! ## The thread and the destructor -/

/-- Where the thread of `run` is. -/
inductive RunThread
  /-- Before it has `mRunMutex`. -/
  | starting
  /-- At the test of the loop, with the mutex. -/
  | head
  /-- At the predicate of `wait`, with the mutex. -/
  | testing
  /-- In `wait`. -/
  | waiting
  /-- In `wait`, woken, before it has the mutex again. -/
  | waking
  /-- In `wait_for`. -/
  | waitingFor
  /-- In `wait_for`, woken or timed out, before it has the mutex again. -/
  | wakingFor
  | ended
deriving DecidableEq, Repr

/-- What `mWaitCV.notify_all()` does to the thread. -/
def RunThread.notifyAll : RunThread → RunThread
  | .waiting => .waking
  | .waitingFor => .wakingFor
  | pc => pc

/-- Where the call of the destructor is. -/
inductive Destructor
  | notCalled
  /-- At the constructor of `lock`. -/
  | locking
  /-- The thread has been notified. -/
  | notified
  | joining
  | returned
deriving DecidableEq, Repr

/-- Who has `mRunMutex`. -/
inductive Holder
  | runThread
  | destructor
deriving DecidableEq, Repr

/-- A sensor, with its mutex, its thread and its destructor. -/
structure SensorThread where
  loop : Loop
  mRunMutex : Option Holder
  runThread : RunThread
  destructor : Destructor
deriving DecidableEq, Repr

/-- A call, a step of the thread, or one of the destructor. -/
inductive SensorThreadAct
  | batch (samplingPeriodNs : Int)
  | activate (enable : Bool)
  /-- The thread takes its next step, other than an iteration. -/
  | advance
  /-- The `else` branch of the loop, up to `wait_for`. -/
  | iterate (tv_sec tv_nsec : Int)
  /-- `wait_for` ends by itself. -/
  | timeout
  /-- `wait` ends although nothing was notified. -/
  | spurious
  /-- The destructor is called. -/
  | destroy
  /-- It gets the mutex and notifies the thread. -/
  | lock
  /-- The end of the inner block, or `lock.release()`. -/
  | unlock
  | join
deriving DecidableEq, Repr

/-- Whether `mRunMutex` is free when the destructor comes to the `join`. -/
def Variant.unlocksBeforeJoin : Variant → Bool
  | .v2X => false
  | .aidl => false
  | .multihal => true

namespace SensorThread

/-- The constructor has started the thread. -/
def start (mStopThread : Bool) : SensorThread := ⟨.start mStopThread, none, .starting, .notCalled⟩

/-- A call of `batch`; the thread is notified of a new period. -/
def batch (v : Variant) (d : Delays) (s : SensorThread) (samplingPeriodNs : Int) :
    Option SensorThread :=
  if s.destructor = .notCalled then
    let sensor := s.loop.sensor.batch v d samplingPeriodNs
    some { s with
      loop := { s.loop with sensor := sensor }
      runThread := if s.loop.sensor.mSamplingPeriodNs ≠ v.clampPeriod d samplingPeriodNs then
          s.runThread.notifyAll
        else s.runThread }
  else none

/-- A call of `activate`; a change waits for the mutex. -/
def activate (s : SensorThread) (enable : Bool) : Option SensorThread :=
  if s.destructor = .notCalled then
    if s.loop.sensor.mIsEnabled ≠ enable then
      if s.mRunMutex = none then
        some { s with
          loop := { s.loop with sensor := s.loop.sensor.activate enable }
          runThread := s.runThread.notifyAll }
      else none
    else some s
  else none

/-- A step of the thread that neither samples nor ends a wait. -/
def advance (s : SensorThread) : Option SensorThread :=
  match s.runThread with
  | .starting =>
      if s.mRunMutex = none then some { s with mRunMutex := some .runThread, runThread := .head }
      else none
  | .head =>
      if s.loop.sensor.mStopThread then some { s with mRunMutex := none, runThread := .ended }
      else if s.loop.sensor.mIsEnabled then none
      else some { s with runThread := .testing }
  | .testing =>
      if s.loop.sensor.mIsEnabled || s.loop.sensor.mStopThread then
        some { s with runThread := .head }
      else some { s with mRunMutex := none, runThread := .waiting }
  | .waking =>
      if s.mRunMutex = none then some { s with mRunMutex := some .runThread, runThread := .testing }
      else none
  | .wakingFor =>
      if s.mRunMutex = none then some { s with mRunMutex := some .runThread, runThread := .head }
      else none
  | .waiting | .waitingFor | .ended => none

/-- The iteration of `Loop`; at its end the thread waits and lets the mutex go. -/
def iterate (s : SensorThread) (tv_sec tv_nsec : Int) : Option SensorThread :=
  if s.runThread = .head ∧ s.loop.sensor.mIsEnabled = true then do
    let loop ← s.loop.runIteration tv_sec tv_nsec
    some { s with loop := loop, mRunMutex := none, runThread := .waitingFor }
  else none

/-- The thread stands at one place at a time; its iteration up to `wait_for` is one step. -/
def step (v : Variant) (d : Delays) (s : SensorThread) : SensorThreadAct → Option SensorThread
  | .batch samplingPeriodNs => s.batch v d samplingPeriodNs
  | .activate enable => s.activate enable
  | .advance => s.advance
  | .iterate tv_sec tv_nsec => s.iterate tv_sec tv_nsec
  | .timeout =>
      if s.runThread = .waitingFor then some { s with runThread := .wakingFor } else none
  | .spurious => if s.runThread = .waiting then some { s with runThread := .waking } else none
  | .destroy =>
      if s.destructor = .notCalled then some { s with destructor := .locking } else none
  | .lock =>
      if s.destructor = .locking ∧ s.mRunMutex = none then
        some { s with
          loop := { s.loop with sensor := s.loop.sensor.destroy }
          mRunMutex := some .destructor
          runThread := s.runThread.notifyAll
          destructor := .notified }
      else none
  | .unlock =>
      if s.destructor = .notified then
        some { s with
          mRunMutex := if v.unlocksBeforeJoin then none else s.mRunMutex
          destructor := .joining }
      else none
  | .join =>
      if s.destructor = .joining ∧ s.runThread = .ended then
        some { s with destructor := .returned }
      else none

end SensorThread

/-- A sensor whose constructor has found `mStopThread` in memory. -/
def sensorThread (v : Variant) (d : Delays) (mStopThread : Bool) :
    Machine SensorThread SensorThreadAct where
  Start s := s = .start mStopThread
  step := SensorThread.step v d

/-! ## What a step can do -/

namespace SensorThread

/-- The steps of the thread: where it is afterwards, and who has the mutex. -/
inductive Advances (s : SensorThread) : RunThread → Option Holder → Prop
  | starts (hpc : s.runThread = .starting) (hfree : s.mRunMutex = none) :
      Advances s .head (some .runThread)
  | ends (hpc : s.runThread = .head) (hstop : s.loop.sensor.mStopThread = true) :
      Advances s .ended none
  | disabled (hpc : s.runThread = .head) (hstop : s.loop.sensor.mStopThread = false)
      (henabled : s.loop.sensor.mIsEnabled = false) : Advances s .testing s.mRunMutex
  | leaves (hpc : s.runThread = .testing)
      (hor : s.loop.sensor.mIsEnabled = true ∨ s.loop.sensor.mStopThread = true) :
      Advances s .head s.mRunMutex
  | sleeps (hpc : s.runThread = .testing) (hstop : s.loop.sensor.mStopThread = false)
      (henabled : s.loop.sensor.mIsEnabled = false) : Advances s .waiting none
  | wakes (hpc : s.runThread = .waking) (hfree : s.mRunMutex = none) :
      Advances s .testing (some .runThread)
  | wakesFor (hpc : s.runThread = .wakingFor) (hfree : s.mRunMutex = none) :
      Advances s .head (some .runThread)

variable {v : Variant} {d : Delays} {s t : SensorThread}

theorem advance_cases (h : s.advance = some t) :
    ∃ pc m, s.Advances pc m ∧ t = { s with mRunMutex := m, runThread := pc } := by
  unfold advance at h
  split at h
  · next hpc =>
      obtain ⟨hfree, heq⟩ := Option.ite_none_right_eq_some.mp h
      exact ⟨_, _, .starts hpc hfree, (Option.some.inj heq).symm⟩
  · next hpc =>
      split at h
      · next hstop => exact ⟨_, _, .ends hpc hstop, (Option.some.inj h).symm⟩
      · next hstop =>
          obtain ⟨henabled, heq⟩ := Option.ite_none_left_eq_some.mp h
          rw [Bool.not_eq_true] at hstop henabled
          exact ⟨_, _, .disabled hpc hstop henabled, (Option.some.inj heq).symm⟩
  · next hpc =>
      split at h
      · next hor =>
          exact ⟨_, _, .leaves hpc ((Bool.or_eq_true _ _).mp hor), (Option.some.inj h).symm⟩
      · next hor =>
          rw [Bool.not_eq_true, Bool.or_eq_false_iff] at hor
          exact ⟨_, _, .sleeps hpc hor.2 hor.1, (Option.some.inj h).symm⟩
  · next hpc =>
      obtain ⟨hfree, heq⟩ := Option.ite_none_right_eq_some.mp h
      exact ⟨_, _, .wakes hpc hfree, (Option.some.inj heq).symm⟩
  · next hpc =>
      obtain ⟨hfree, heq⟩ := Option.ite_none_right_eq_some.mp h
      exact ⟨_, _, .wakesFor hpc hfree, (Option.some.inj heq).symm⟩
  all_goals exact nomatch h

theorem advance_of {pc : RunThread} {m : Option Holder} (h : s.Advances pc m) :
    s.advance = some { s with mRunMutex := m, runThread := pc } := by
  cases h with
  | starts hpc hfree | wakes hpc hfree | wakesFor hpc hfree => simp [advance, hpc, hfree]
  | ends hpc hstop => simp [advance, hpc, hstop]
  | disabled hpc hstop henabled => simp [advance, hpc, hstop, henabled]
  | leaves hpc hor => simp [advance, hpc, hor]
  | sleeps hpc hstop henabled => simp [advance, hpc, hstop, henabled]

/-- What else a step can be. -/
inductive Steps (v : Variant) (d : Delays) (s : SensorThread) :
    SensorThreadAct → SensorThread → Prop
  | batch {samplingPeriodNs : Int} {pc : RunThread} (hcall : s.destructor = .notCalled)
      (hpc : pc = s.runThread.notifyAll ∨ pc = s.runThread) :
      Steps v d s (.batch samplingPeriodNs) { s with
        loop := { s.loop with sensor := s.loop.sensor.batch v d samplingPeriodNs }
        runThread := pc }
  | sameEnabled {enable : Bool} (hcall : s.destructor = .notCalled)
      (hsame : s.loop.sensor.mIsEnabled = enable) : Steps v d s (.activate enable) s
  | activate {enable : Bool} (hcall : s.destructor = .notCalled) (hfree : s.mRunMutex = none) :
      Steps v d s (.activate enable) { s with
        loop := { s.loop with sensor := s.loop.sensor.activate enable }
        runThread := s.runThread.notifyAll }
  | advance {pc : RunThread} {m : Option Holder} (hmove : s.Advances pc m) :
      Steps v d s .advance { s with mRunMutex := m, runThread := pc }
  | iterate {tv_sec tv_nsec : Int} {loop : Loop} (hpc : s.runThread = .head)
      (henabled : s.loop.sensor.mIsEnabled = true)
      (hloop : s.loop.runIteration tv_sec tv_nsec = some loop) :
      Steps v d s (.iterate tv_sec tv_nsec)
        { s with loop := loop, mRunMutex := none, runThread := .waitingFor }
  | timeout (hpc : s.runThread = .waitingFor) :
      Steps v d s .timeout { s with runThread := .wakingFor }
  | spurious (hpc : s.runThread = .waiting) : Steps v d s .spurious { s with runThread := .waking }
  | destroy (hcall : s.destructor = .notCalled) :
      Steps v d s .destroy { s with destructor := .locking }
  | lock (hdestructor : s.destructor = .locking) (hfree : s.mRunMutex = none) :
      Steps v d s .lock { s with
        loop := { s.loop with sensor := s.loop.sensor.destroy }
        mRunMutex := some .destructor
        runThread := s.runThread.notifyAll
        destructor := .notified }
  | unlock (hdestructor : s.destructor = .notified) :
      Steps v d s .unlock { s with
        mRunMutex := if v.unlocksBeforeJoin then none else s.mRunMutex
        destructor := .joining }
  | join (hdestructor : s.destructor = .joining) (hpc : s.runThread = .ended) :
      Steps v d s .join { s with destructor := .returned }

theorem step_cases {a : SensorThreadAct} (h : s.step v d a = some t) : s.Steps v d a t := by
  cases a with
  | batch p =>
      obtain ⟨hcall, heq⟩ := Option.ite_none_right_eq_some.mp h
      cases heq
      exact .batch hcall (ite_eq_or_eq _ _ _)
  | activate enable =>
      obtain ⟨hcall, h⟩ := Option.ite_none_right_eq_some.mp h
      split at h
      · obtain ⟨hfree, heq⟩ := Option.ite_none_right_eq_some.mp h
        cases heq
        exact .activate hcall hfree
      · next hsame =>
          cases h
          exact .sameEnabled hcall (not_not.mp hsame)
  | advance =>
      obtain ⟨pc, m, hmove, rfl⟩ := advance_cases h
      exact .advance hmove
  | iterate tv_sec tv_nsec =>
      obtain ⟨⟨hpc, henabled⟩, h⟩ := Option.ite_none_right_eq_some.mp h
      obtain ⟨loop, hloop, heq⟩ := Option.bind_eq_some_iff.mp h
      cases heq
      exact .iterate hpc henabled hloop
  | timeout =>
      obtain ⟨hpc, heq⟩ := Option.ite_none_right_eq_some.mp h
      cases heq
      exact .timeout hpc
  | spurious =>
      obtain ⟨hpc, heq⟩ := Option.ite_none_right_eq_some.mp h
      cases heq
      exact .spurious hpc
  | destroy =>
      obtain ⟨hcall, heq⟩ := Option.ite_none_right_eq_some.mp h
      cases heq
      exact .destroy hcall
  | lock =>
      obtain ⟨⟨hdestructor, hfree⟩, heq⟩ := Option.ite_none_right_eq_some.mp h
      cases heq
      exact .lock hdestructor hfree
  | unlock =>
      obtain ⟨hdestructor, heq⟩ := Option.ite_none_right_eq_some.mp h
      cases heq
      exact .unlock hdestructor
  | join =>
      obtain ⟨⟨hdestructor, hpc⟩, heq⟩ := Option.ite_none_right_eq_some.mp h
      cases heq
      exact .join hdestructor hpc

end SensorThread

/-! ## What `SensorLoop` sees of it -/

/-- The actions of the loop in an action here. -/
def SensorThreadAct.loopActs : SensorThreadAct → List LoopAct
  | .batch samplingPeriodNs => [.batch samplingPeriodNs]
  | .activate enable => [.activate enable]
  | .iterate tv_sec tv_nsec => [.iterate tv_sec tv_nsec]
  | .lock => [.destroy]
  | .advance | .timeout | .spurious | .destroy | .unlock | .join => []

/-- The loop follows the thread. -/
def loopSimulation (v : Variant) (d : Delays) (mStopThread : Bool) :
    Simulation (sensorThread v d mStopThread) (samplingLoop v d) where
  Rel s x := x = s.loop
  label := SensorThreadAct.loopActs
  start := by
    rintro s rfl
    exact ⟨_, ⟨mStopThread, rfl⟩, rfl⟩
  step := by
    rintro s a t x rfl hstep
    cases SensorThread.step_cases hstep with
    | batch hcall hpc => exact ⟨_, rfl, rfl⟩
    | sameEnabled hcall hsame =>
        refine ⟨_, rfl, ?_⟩
        show ({ s.loop with sensor := s.loop.sensor.activate _ } : Loop) = s.loop
        rw [Sensor.activate_eq, ← hsame]
    | activate hcall hfree => exact ⟨_, rfl, rfl⟩
    | advance hmove => exact ⟨_, rfl, rfl⟩
    | iterate hpc henabled hloop =>
        exact ⟨_, Machine.run_cons_eq_some _ |>.mpr ⟨_, hloop, rfl⟩, rfl⟩
    | timeout hpc => exact ⟨_, rfl, rfl⟩
    | spurious hpc => exact ⟨_, rfl, rfl⟩
    | destroy hcall => exact ⟨_, rfl, rfl⟩
    | lock hdestructor hfree => exact ⟨_, rfl, rfl⟩
    | unlock hdestructor => exact ⟨_, rfl, rfl⟩
    | join hdestructor hpc => exact ⟨_, rfl, rfl⟩

/-! ## The invariant -/

/-- The loop has been told to end. -/
def Destructor.hasStopped : Destructor → Bool
  | .notCalled | .locking => false
  | .notified | .joining | .returned => true

/-- An iteration starts only without `mStopThread`, and does not set it. -/
theorem Loop.runIteration_running {s t : Loop} {tv_sec tv_nsec : Int}
    (h : s.runIteration tv_sec tv_nsec = some t) :
    s.sensor.mStopThread = false ∧ t.sensor.mStopThread = false := by
  have hrunning : s.sensor.mStopThread = false := by
    obtain ⟨hstop, -⟩ := Option.ite_none_left_eq_some.mp h
    exact Bool.eq_false_of_not_eq_true hstop
  refine ⟨hrunning, ?_⟩
  rcases runIteration_cases h with rfl | ⟨now, i, -, hi, rfl⟩
  · exact hrunning
  · rcases Sensor.iterate_cases hi with ⟨-, rfl⟩ | ⟨-, rfl⟩
    · exact hrunning
    · exact hrunning

namespace SensorThread

/-- Who has the mutex, and what is known of a thread that waits or has ended. -/
structure Ok (v : Variant) (mStopThread : Bool) (s : SensorThread) : Prop where
  held : s.mRunMutex = some .runThread ↔ s.runThread = .head ∨ s.runThread = .testing
  locked : s.mRunMutex = some .destructor ↔ s.destructor = .notified ∨
    v.unlocksBeforeJoin = false ∧ (s.destructor = .joining ∨ s.destructor = .returned)
  asleep : s.runThread = .waiting →
    s.loop.sensor.mIsEnabled = false ∧ s.loop.sensor.mStopThread = false
  stop : s.loop.sensor.mStopThread = (mStopThread || s.destructor.hasStopped)
  ended : s.runThread = .ended → s.loop.sensor.mStopThread = true
  notified : s.destructor.hasStopped = true → s.runThread ≠ .waitingFor
  returned : s.destructor = .returned → s.runThread = .ended
  /-- With the mutex at the destructor the thread does not get to its end. -/
  endedBy : s.runThread = .ended → mStopThread = true ∨
    v.unlocksBeforeJoin = true ∧ (s.destructor = .joining ∨ s.destructor = .returned)

variable {v : Variant} {d : Delays} {mStopThread : Bool} {s t : SensorThread}

theorem ok_start : (start mStopThread).Ok v mStopThread := by
  constructor <;> simp [start, Loop.start, Sensor.construct, Destructor.hasStopped]

theorem notifyAll_held (pc : RunThread) :
    pc.notifyAll = .head ∨ pc.notifyAll = .testing ↔ pc = .head ∨ pc = .testing := by
  cases pc <;> simp [RunThread.notifyAll]

theorem notifyAll_ended (pc : RunThread) : pc.notifyAll = .ended ↔ pc = .ended := by
  cases pc <;> simp [RunThread.notifyAll]

theorem notifyAll_waits (pc : RunThread) :
    pc.notifyAll ≠ .waiting ∧ pc.notifyAll ≠ .waitingFor := by
  cases pc <;> simp [RunThread.notifyAll]

/-- The thread ends with the mutex, so the destructor does not have it. -/
theorem Ok.endedBy_head (h : s.Ok v mStopThread) (hpc : s.runThread = .head)
    (hstop : s.loop.sensor.mStopThread = true) : mStopThread = true ∨
      v.unlocksBeforeJoin = true ∧ (s.destructor = .joining ∨ s.destructor = .returned) := by
  have hlocked := h.locked
  rw [h.held.mpr (Or.inl hpc)] at hlocked
  have hor : (mStopThread || s.destructor.hasStopped) = true := h.stop ▸ hstop
  rcases (Bool.or_eq_true _ _).mp hor with hfound | hstopped
  · exact Or.inl hfound
  · refine Or.inr ?_
    cases hdestructor : s.destructor <;> simp_all [Destructor.hasStopped]

theorem Ok.advance {pc : RunThread} {m : Option Holder} (h : s.Ok v mStopThread)
    (hmove : s.Advances pc m) :
    ({ s with mRunMutex := m, runThread := pc } : SensorThread).Ok v mStopThread := by
  have hheld := h.held
  have hlocked := h.locked
  have hreturned := h.returned
  cases hmove with
  | starts hpc hfree =>
      refine ⟨by simp, ?_, nofun, h.stop, nofun, fun _ => nofun, ?_, nofun⟩ <;> simp_all
  | ends hpc hstop =>
      refine ⟨by simp, ?_, nofun, h.stop, fun _ => hstop, fun _ => nofun, fun _ => rfl,
        fun _ => h.endedBy_head hpc hstop⟩
      simp_all
  | disabled hpc hstop henabled =>
      refine ⟨?_, ?_, nofun, h.stop, nofun, fun _ => nofun, ?_, nofun⟩ <;> simp_all
  | leaves hpc hor =>
      refine ⟨?_, ?_, nofun, h.stop, nofun, fun _ => nofun, ?_, nofun⟩ <;> simp_all
  | sleeps hpc hstop henabled =>
      refine ⟨by simp, ?_, fun _ => ⟨henabled, hstop⟩, h.stop, nofun, fun _ => nofun, ?_, nofun⟩
        <;> simp_all
  | wakes hpc hfree =>
      refine ⟨by simp, ?_, nofun, h.stop, nofun, fun _ => nofun, ?_, nofun⟩ <;> simp_all
  | wakesFor hpc hfree =>
      refine ⟨by simp, ?_, nofun, h.stop, nofun, fun _ => nofun, ?_, nofun⟩ <;> simp_all

/-- A call of `batch` or `activate` may wake the thread and leaves everything else. -/
theorem Ok.called {loop : Loop} {pc : RunThread} (h : s.Ok v mStopThread)
    (hcall : s.destructor = .notCalled) (hpc : pc = s.runThread.notifyAll ∨ pc = s.runThread)
    (hstop : loop.sensor.mStopThread = s.loop.sensor.mStopThread)
    (hasleep : pc = .waiting → loop.sensor.mIsEnabled = s.loop.sensor.mIsEnabled) :
    ({ s with loop := loop, runThread := pc } : SensorThread).Ok v mStopThread := by
  have hheld : pc = .head ∨ pc = .testing ↔ s.runThread = .head ∨ s.runThread = .testing := by
    rcases hpc with rfl | rfl
    · exact notifyAll_held _
    · exact Iff.rfl
  have hended : pc = .ended ↔ s.runThread = .ended := by
    rcases hpc with rfl | rfl
    · exact notifyAll_ended _
    · exact Iff.rfl
  refine ⟨h.held.trans hheld.symm, h.locked, ?_, hstop.trans h.stop, ?_, ?_, ?_, ?_⟩
  · intro hwaiting
    rcases hpc with rfl | rfl
    · exact absurd hwaiting (notifyAll_waits _).1
    · rw [hasleep hwaiting, hstop]
      exact h.asleep hwaiting
  · intro hpc
    rw [hstop]
    exact h.ended (hended.mp hpc)
  · intro hstopped
    rw [hcall] at hstopped
    exact absurd hstopped nofun
  · intro hreturned
    rw [hcall] at hreturned
    exact absurd hreturned nofun
  · exact fun hpc => h.endedBy (hended.mp hpc)

theorem Ok.step {a : SensorThreadAct} (h : s.Ok v mStopThread) (hstep : s.step v d a = some t) :
    t.Ok v mStopThread := by
  cases step_cases hstep with
  | batch hcall hpc =>
      apply h.called hcall hpc
      · rw [Sensor.batch_eq]
      · rw [Sensor.batch_eq]
        exact fun _ => rfl
  | sameEnabled hcall hsame => exact h
  | activate hcall hfree =>
      apply h.called hcall (Or.inl rfl)
      · rw [Sensor.activate_eq]
      · exact fun hwaiting => absurd hwaiting (notifyAll_waits _).1
  | advance hmove => exact h.advance hmove
  | iterate hpc henabled hloop =>
      obtain ⟨hrunning, hstill⟩ := Loop.runIteration_running hloop
      have hstop := h.stop
      rw [hrunning] at hstop
      -- an iteration is over before the destructor has the mutex
      have hbefore : s.destructor.hasStopped = false :=
        (Bool.or_eq_false_iff.mp hstop.symm).2
      have hlocked := h.locked
      rw [h.held.mpr (Or.inl hpc)] at hlocked
      refine ⟨by simp, ?_, nofun, hstill.trans hstop, nofun, ?_, ?_, nofun⟩
      · simpa using hlocked
      · exact fun hstopped => absurd (hbefore.symm.trans hstopped) nofun
      · intro hreturned
        rw [show s.destructor = .returned from hreturned] at hbefore
        exact absurd hbefore nofun
  | timeout hpc =>
      have hheld := h.held
      have hreturned := h.returned
      refine ⟨?_, h.locked, nofun, h.stop, nofun, fun _ => nofun, ?_, nofun⟩ <;> simp_all
  | spurious hpc =>
      have hheld := h.held
      have hreturned := h.returned
      refine ⟨?_, h.locked, nofun, h.stop, nofun, fun _ => nofun, ?_, nofun⟩ <;> simp_all
  | destroy hcall =>
      have hlocked := h.locked
      have hstop := h.stop
      have hended := h.endedBy
      refine ⟨h.held, ?_, h.asleep, ?_, h.ended, nofun, nofun, ?_⟩
      · simp_all
      · rw [hcall] at hstop
        exact hstop
      · simpa [hcall] using hended
  | lock hdestructor hfree =>
      have hheld := h.held
      have hended := h.endedBy
      -- the notification is given with the mutex: no thread is asleep after it
      refine ⟨?_, by simp, ?_, ?_, fun _ => rfl, ?_, nofun, ?_⟩
      · rw [notifyAll_held]
        simp_all
      · exact fun hwaiting => absurd hwaiting (notifyAll_waits _).1
      · show true = (mStopThread || true)
        rw [Bool.or_true]
      · exact fun _ => (notifyAll_waits _).2
      · intro hpc
        rw [hdestructor] at hended
        exact Or.inl ((hended ((notifyAll_ended _).mp hpc)).resolve_right (by simp))
  | unlock hdestructor =>
      have hheld := h.held
      have hlocked := h.locked
      have hstop := h.stop
      have hnotified := h.notified
      have hended := h.endedBy
      refine ⟨?_, ?_, h.asleep, ?_, h.ended, ?_, nofun, ?_⟩
      · cases v <;> simp_all [Variant.unlocksBeforeJoin]
      · cases v <;> simp_all [Variant.unlocksBeforeJoin]
      · rw [hdestructor] at hstop
        exact hstop
      · rw [hdestructor] at hnotified
        exact hnotified
      · intro hpc
        rw [hdestructor] at hended
        exact Or.inl ((hended hpc).resolve_right (by simp))
  | join hdestructor hpc =>
      have hlocked := h.locked
      have hstop := h.stop
      have hended := h.endedBy
      refine ⟨h.held, ?_, h.asleep, ?_, h.ended, ?_, fun _ => hpc, ?_⟩
      · rw [hdestructor] at hlocked
        simpa using hlocked
      · rw [hdestructor] at hstop
        exact hstop
      · exact fun _ hwaits => absurd (hpc.symm.trans hwaits) nofun
      · intro hpc
        exact (hended hpc).imp_right fun hjoined => ⟨hjoined.1, Or.inr rfl⟩

theorem ok_of_reach (h : (sensorThread v d mStopThread).Reach s) : s.Ok v mStopThread :=
  h.invariant (fun _ hs => hs ▸ ok_start) fun _ _ _ hs hstep => hs.step hstep

end SensorThread

/-! ## The end of the thread -/

namespace SensorThread

/-- The steps the destructor and the thread still have before them. -/
def stepsToEnd (s : SensorThread) : Nat :=
  (match s.destructor with
    | .notified => 2
    | .joining => 1
    | _ => 0) +
  match s.runThread with
    | .waking => 3
    | .starting | .wakingFor | .testing => 2
    | .head => 1
    | _ => 0

/-- What holds from the notification on: without the mutex the thread stays where it was. -/
structure Stopping (v : Variant) (mStopThread : Bool) (pc : RunThread) (s : SensorThread) : Prop
    extends s.Ok v mStopThread where
  stopped : s.destructor.hasStopped = true
  stays : v.unlocksBeforeJoin = false → s.runThread = pc

variable {v : Variant} {d : Delays} {mStopThread : Bool} {pc : RunThread} {s t : SensorThread}

theorem Stopping.mStopThread_true (h : s.Stopping v mStopThread pc) :
    s.loop.sensor.mStopThread = true := by
  rw [h.stop, h.stopped, Bool.or_true]

/-- With the mutex at the destructor the thread cannot go on. -/
theorem Stopping.not_advances (h : s.Stopping v mStopThread pc) (hv : v.unlocksBeforeJoin = false)
    {next : RunThread} {m : Option Holder} : ¬ s.Advances next m := by
  have hlocked : s.mRunMutex = some .destructor := by
    rw [h.locked]
    have hstopped := h.stopped
    cases hdestructor : s.destructor <;> simp_all [Destructor.hasStopped]
  have hheld := h.held
  rw [hlocked] at hheld
  intro hmove
  cases hmove <;> simp_all

theorem Stopping.step {a : SensorThreadAct} (h : s.Stopping v mStopThread pc)
    (hstep : s.step v d a = some t) :
    t.Stopping v mStopThread pc ∧ t.stepsToEnd < s.stepsToEnd := by
  have hok := h.toOk.step hstep
  have hstopped := h.stopped
  have hstop := h.mStopThread_true
  cases step_cases hstep with
  | batch hcall hpc | sameEnabled hcall hsame | activate hcall hfree | destroy hcall =>
      rw [hcall] at hstopped
      exact absurd hstopped nofun
  | advance hmove =>
      refine ⟨⟨hok, hstopped, fun hv => absurd hmove (h.not_advances hv)⟩, ?_⟩
      cases hmove with
      | disabled hpc hrunning henabled => exact absurd (hstop.symm.trans hrunning) nofun
      | sleeps hpc hrunning henabled => exact absurd (hstop.symm.trans hrunning) nofun
      | starts hpc | ends hpc | leaves hpc | wakes hpc | wakesFor hpc => simp [stepsToEnd, hpc]
  | iterate hpc henabled hloop =>
      exact absurd (hstop.symm.trans (Loop.runIteration_running hloop).1) nofun
  -- since the notification the thread is in neither wait
  | timeout hpc => exact absurd hpc (h.notified hstopped)
  | spurious hpc => exact absurd (hstop.symm.trans (h.asleep hpc).2) nofun
  | lock hdestructor hfree =>
      rw [hdestructor] at hstopped
      exact absurd hstopped nofun
  | unlock hdestructor => exact ⟨⟨hok, rfl, h.stays⟩, by simp [stepsToEnd, hdestructor]⟩
  | join hdestructor hpc => exact ⟨⟨hok, rfl, h.stays⟩, by simp [stepsToEnd, hdestructor]⟩

/-- Where nothing is possible any more the thread has ended and been joined, or never will be. -/
theorem Stopping.stuck (h : s.Stopping v mStopThread pc) (hstuck : ∀ a, s.step v d a = none) :
    s.destructor = .returned ↔ v.unlocksBeforeJoin = true ∨ pc = .ended := by
  have hjoining : s.destructor = .joining ∨ s.destructor = .returned := by
    have hstopped := h.stopped
    cases hdestructor : s.destructor with
    | notCalled | locking => simp [hdestructor, Destructor.hasStopped] at hstopped
    | notified => exact absurd ((if_pos hdestructor).symm.trans (hstuck .unlock)) nofun
    | joining => exact Or.inl rfl
    | returned => exact Or.inr rfl
  have hended : s.runThread = .ended → s.destructor = .returned := by
    intro hpc
    refine hjoining.resolve_left fun hdestructor => ?_
    exact absurd ((if_pos ⟨hdestructor, hpc⟩).symm.trans (hstuck .join)) nofun
  have hblocked : ∀ next m, ¬ s.Advances next m := by
    intro next m hmove
    exact absurd ((advance_of hmove).symm.trans (hstuck .advance)) nofun
  cases hv : v.unlocksBeforeJoin with
  | false =>
      -- the thread is where it was, and is joined exactly if that was the end
      simp only [Bool.false_eq_true, false_or]
      constructor
      · intro hreturned
        exact (h.stays hv).symm.trans (h.returned hreturned)
      · intro hpc
        exact hended ((h.stays hv).trans hpc)
  | true =>
      refine iff_of_true (hended ?_) (Or.inl rfl)
      have hstop := h.mStopThread_true
      have hheld := h.held
      -- the destructor has let the mutex go, so it is free unless the thread has it
      have hfree : s.mRunMutex = none ∨ s.mRunMutex = some .runThread := by
        have hlocked := h.locked
        rcases hmutex : s.mRunMutex with _ | _ | _
        · exact Or.inl rfl
        · exact Or.inr rfl
        · rcases hjoining with hdestructor | hdestructor <;> simp_all
      cases hpc : s.runThread with
      | ended => rfl
      | waiting => exact absurd (hstop.symm.trans (h.asleep hpc).2) nofun
      | waitingFor => exact absurd hpc (h.notified h.stopped)
      | head => exact absurd (.ends hpc hstop) (hblocked _ _)
      | testing => exact absurd (.leaves hpc (Or.inr hstop)) (hblocked _ _)
      | starting =>
          refine absurd (.starts hpc (hfree.resolve_right ?_)) (hblocked _ _)
          simp [hheld, hpc]
      | waking =>
          refine absurd (.wakes hpc (hfree.resolve_right ?_)) (hblocked _ _)
          simp [hheld, hpc]
      | wakingFor =>
          refine absurd (.wakesFor hpc (hfree.resolve_right ?_)) (hblocked _ _)
          simp [hheld, hpc]

end SensorThread

theorem unlocksBeforeJoin_iff (v : Variant) : v.unlocksBeforeJoin = true ↔ v = .multihal := by
  cases v <;> simp [Variant.unlocksBeforeJoin]

/-- In the 2.X and the AIDL build the destructor never returns, unless the constructor has found
`mStopThread` set: from its notification on there are five steps at most, and where none is left it
has returned exactly in the multihal build, or if the thread had ended before. -/
theorem destructor_returns_iff (v : Variant) (d : Delays) (mStopThread : Bool) (s : SensorThread)
    (h : (sensorThread v d mStopThread).Reach s) :
    (s.destructor = .returned → v = .multihal ∨ mStopThread = true) ∧
    (s.destructor = .notified → (sensorThread v d mStopThread).EndsIn (fun _ => True) 5
      (fun t => t.destructor = .returned ↔ v = .multihal ∨ s.runThread = .ended) s) := by
  have hok := SensorThread.ok_of_reach h
  constructor
  · intro hreturned
    rcases hok.endedBy (hok.returned hreturned) with hfound | ⟨hv, -⟩
    · exact Or.inr hfound
    · exact Or.inl ((unlocksBeforeJoin_iff v).mp hv)
  · intro hnotified
    have hstopping : s.Stopping v mStopThread s.runThread :=
      ⟨hok, by rw [hnotified]; rfl, fun _ => rfl⟩
    have hends : (sensorThread v d mStopThread).EndsIn (fun _ => True) s.stepsToEnd
        (fun t => t.destructor = .returned ↔ v.unlocksBeforeJoin = true ∨ s.runThread = .ended) s := by
      apply Machine.endsIn_of_rank (I := fun t => t.Stopping v mStopThread s.runThread)
      · intro t a u ht _ hstep
        exact ht.step hstep
      · intro t ht hstuck
        exact ht.stuck (d := d) fun a => hstuck a trivial
      · exact hstopping
    apply hends.mono
    · unfold SensorThread.stepsToEnd
      rw [hnotified]
      cases s.runThread <;> simp
    · intro t hiff
      rw [hiff, unlocksBeforeJoin_iff]

/-- In the 2.X build a sampling thread is woken and never gets its mutex. -/
theorem destructor_returns_iff_v2X :
    let s : SensorThread := ⟨⟨⟨false, 10000000, 1000000000, true⟩, 1000000000,
      [⟨1000000000, 10000000⟩], [⟨10000000, 10000000⟩]⟩, some .destructor, .wakingFor, .notified⟩
    (s.destructor = .returned → Variant.v2X = .multihal ∨ false = true) ∧
    (s.destructor = .notified → (sensorThread .v2X smi240Delays false).EndsIn (fun _ => True) 5
      (fun t => t.destructor = .returned ↔ Variant.v2X = .multihal ∨ s.runThread = .ended) s) :=
  destructor_returns_iff .v2X smi240Delays false _ (Machine.Reach.of_run (.start rfl)
    (rfl : (sensorThread .v2X smi240Delays false).run (.start false)
      [.batch 0, .activate true, .advance, .iterate 1 0, .destroy, .lock] = _))

/-! ## The thread on its own -/

/-- A step for which nobody has to call or notify. -/
def SensorThreadAct.IsOwn (a : SensorThreadAct) : Prop := a = .advance ∨ a = .timeout

namespace SensorThread

/-- Where the thread comes to by itself. -/
def restsAt (sensor : Sensor) : RunThread :=
  if sensor.mStopThread then .ended else if sensor.mIsEnabled then .head else .waiting

/-- The steps it has to go from the head of the loop. -/
def fromHead (sensor : Sensor) : Nat :=
  if sensor.mStopThread then 1 else if sensor.mIsEnabled then 0 else 2

/-- And from the predicate of `wait`. -/
def fromTesting (sensor : Sensor) : Nat :=
  if sensor.mIsEnabled || sensor.mStopThread then fromHead sensor + 1 else 1

/-- How far the thread is from a place where it waits for a call. -/
def stepsToRest (s : SensorThread) : Nat :=
  match s.runThread with
  | .starting | .wakingFor => fromHead s.loop.sensor + 1
  | .waitingFor => fromHead s.loop.sensor + 2
  | .head => fromHead s.loop.sensor
  | .testing => fromTesting s.loop.sensor
  | .waking => fromTesting s.loop.sensor + 1
  | .waiting | .ended => 0

variable {v : Variant} {d : Delays} {mStopThread : Bool} {s t : SensorThread}

theorem stepsToRest_le (s : SensorThread) : s.stepsToRest ≤ 4 := by
  have hhead : fromHead s.loop.sensor ≤ 2 := by
    unfold fromHead
    split
    · omega
    · split <;> omega
  have htesting : fromTesting s.loop.sensor ≤ 3 := by
    unfold fromTesting
    split <;> omega
  unfold stepsToRest
  split <;> omega

/-- A step of its own brings the thread nearer, and touches nothing else. -/
theorem own_step {a : SensorThreadAct} (ha : a.IsOwn) (hstep : s.step v d a = some t) :
    t.loop = s.loop ∧ t.destructor = s.destructor ∧ t.stepsToRest < s.stepsToRest := by
  rcases ha with rfl | rfl
  · cases step_cases hstep with
    | advance hmove =>
        refine ⟨rfl, rfl, ?_⟩
        cases hmove with
        | starts hpc hfree | wakes hpc hfree | wakesFor hpc hfree => simp [stepsToRest, hpc]
        | ends hpc hstop => simp [stepsToRest, fromHead, hpc, hstop]
        | disabled hpc hstop henabled =>
            simp [stepsToRest, fromHead, fromTesting, hpc, hstop, henabled]
        | leaves hpc hor => simp [stepsToRest, fromTesting, hpc, hor]
        | sleeps hpc hstop henabled =>
            simp [stepsToRest, fromTesting, hpc, hstop, henabled]
  · cases step_cases hstep with
    | timeout hpc => exact ⟨rfl, rfl, by simp [stepsToRest, hpc]⟩

/-- A thread that cannot go on by itself rests where it should: no wake-up has been lost. -/
theorem Ok.rests (h : s.Ok v mStopThread) (hbefore : s.destructor.hasStopped = false)
    (hstuck : ∀ a : SensorThreadAct, a.IsOwn → s.step v d a = none) :
    s.runThread = restsAt s.loop.sensor := by
  have hblocked : ∀ next m, ¬ s.Advances next m := by
    intro next m hmove
    exact absurd ((advance_of hmove).symm.trans (hstuck .advance (Or.inl rfl))) nofun
  have hfree : s.mRunMutex = none ∨ s.mRunMutex = some .runThread := by
    have hlocked := h.locked
    rcases hmutex : s.mRunMutex with _ | _ | _
    · exact Or.inl rfl
    · exact Or.inr rfl
    · cases hdestructor : s.destructor <;> simp_all [Destructor.hasStopped]
  have hheld := h.held
  cases hpc : s.runThread with
  | starting =>
      refine absurd (.starts hpc (hfree.resolve_right ?_)) (hblocked _ _)
      simp [hheld, hpc]
  | waking =>
      refine absurd (.wakes hpc (hfree.resolve_right ?_)) (hblocked _ _)
      simp [hheld, hpc]
  | wakingFor =>
      refine absurd (.wakesFor hpc (hfree.resolve_right ?_)) (hblocked _ _)
      simp [hheld, hpc]
  | waitingFor =>
      exact absurd ((if_pos hpc).symm.trans (hstuck .timeout (Or.inr rfl))) nofun
  | head =>
      unfold restsAt
      cases hstop : s.loop.sensor.mStopThread with
      | true => exact absurd (.ends hpc hstop) (hblocked _ _)
      | false =>
          cases henabled : s.loop.sensor.mIsEnabled with
          | true => rfl
          | false => exact absurd (.disabled hpc hstop henabled) (hblocked _ _)
  | testing =>
      cases hstop : s.loop.sensor.mStopThread with
      | true => exact absurd (.leaves hpc (Or.inr hstop)) (hblocked _ _)
      | false =>
          cases henabled : s.loop.sensor.mIsEnabled with
          | true => exact absurd (.leaves hpc (Or.inl henabled)) (hblocked _ _)
          | false => exact absurd (.sleeps hpc hstop henabled) (hblocked _ _)
  | waiting =>
      obtain ⟨henabled, hstop⟩ := h.asleep hpc
      simp [restsAt, henabled, hstop]
  | ended => simp [restsAt, h.ended hpc]

end SensorThread

/-- Before the destructor has the mutex, whatever was called, `batch` between two iterations, and
whenever the thread woke up: with no further call or notification it is at its next iteration after
four steps at most if the sensor is enabled, and asleep in `wait` if it is not.  What it has posted by
then is apart by the period. -/
theorem run_thread_comes_round (v : Variant) (d : Delays) (mStopThread : Bool) (s : SensorThread)
    (h : (sensorThread v d mStopThread).Reach s) (hbefore : s.destructor.hasStopped = false) :
    (sensorThread v d mStopThread).EndsIn SensorThreadAct.IsOwn 4 (fun t => t.loop = s.loop ∧
      t.runThread = if mStopThread then .ended
        else if s.loop.sensor.mIsEnabled then .head else .waiting) s ∧
    s.loop.posted.IsChain (fun earlier later => earlier.time + later.period ≤ later.time) := by
  have hok := SensorThread.ok_of_reach h
  have hstop : s.loop.sensor.mStopThread = mStopThread := by
    rw [hok.stop, hbefore, Bool.or_false]
  constructor
  · have hends : (sensorThread v d mStopThread).EndsIn SensorThreadAct.IsOwn s.stepsToRest
        (fun t => t.loop = s.loop ∧ t.runThread = SensorThread.restsAt s.loop.sensor) s := by
      apply Machine.endsIn_of_rank (I := fun t => t.Ok v mStopThread ∧ t.loop = s.loop ∧
        t.destructor = s.destructor)
      · rintro t a u ⟨hok, hloop, hdestructor⟩ ha hstep
        obtain ⟨hsame, hsameCall, hlower⟩ := SensorThread.own_step ha hstep
        exact ⟨⟨hok.step hstep, hsame.trans hloop, hsameCall.trans hdestructor⟩, hlower⟩
      · rintro t ⟨hok, hloop, hdestructor⟩ hstuck
        refine ⟨hloop, ?_⟩
        rw [← hloop]
        exact hok.rests (hdestructor ▸ hbefore) hstuck
      · exact ⟨hok, rfl, rfl⟩
    apply hends.mono s.stepsToRest_le
    rintro t ⟨hloop, hpc⟩
    rw [SensorThread.restsAt, hstop] at hpc
    exact ⟨hloop, hpc⟩
  · obtain ⟨x, hx, rfl⟩ := (loopSimulation v d mStopThread).reach h
    exact (Loop.paced_of_reach hx).apart

/-- Enabled while it is about to fall asleep again. -/
theorem run_thread_comes_round_enabled :
    let s : SensorThread := ⟨⟨⟨true, 50000000, 0, false⟩, 0, [], []⟩, none, .waking, .notCalled⟩
    (sensorThread .aidl smi240Delays false).EndsIn SensorThreadAct.IsOwn 4
      (fun t => t.loop = s.loop ∧ t.runThread = if false then .ended
        else if s.loop.sensor.mIsEnabled then .head else .waiting) s ∧
    s.loop.posted.IsChain (fun earlier later => earlier.time + later.period ≤ later.time) :=
  run_thread_comes_round .aidl smi240Delays false _ (Machine.Reach.of_run (.start rfl)
    (rfl : (sensorThread .aidl smi240Delays false).run (.start false)
      [.batch 50000000, .advance, .advance, .advance, .activate true] = _)) rfl

end Smi240Hal.Sampling
