/-
# Smi240Hal.Sampling.SensorLoop — the `Sensor` object and its sampling thread

The same class is written three times, for the 2.X, the AIDL and the multihal build.  The three
differ in how `batch` clamps the period; `activate` and `run` are the same.

One action is a call of `batch` or `activate`, one iteration of the loop in `run`, or the destructor.
An iteration may come at any time: `wait_for` ends early on a notification and on its own, and late
when the thread is not scheduled.  The clock is `CLOCK_BOOTTIME`; it starts at zero and never goes
back.  A sum that leaves `int64_t` has no behaviour.
-/
import Smi240Hal.Lib.Machine
import Mathlib.Data.List.Chain
import Mathlib.Algebra.Order.Ring.Int

namespace Smi240Hal.Sampling

open Smi240Hal.Lib

/-! ## The limits and the three clamps -/

/-- `minDelay` and `maxDelay` of `SensorInfo`, in microseconds. -/
structure Delays where
  minDelay : Int
  maxDelay : Int
  nonneg : 0 ≤ minDelay
  ordered : minDelay ≤ maxDelay

/-- What the constructors of `Smi240Accel` and `Smi240Gyro` set. -/
def smi240Delays : Delays where
  minDelay := 10000
  maxDelay := 200000
  nonneg := by omega
  ordered := by omega

/-- The period in nanoseconds is one the sensor advertises. -/
def Delays.Admits (d : Delays) (periodNs : Int) : Prop :=
  d.minDelay * 1000 ≤ periodNs ∧ periodNs ≤ d.maxDelay * 1000

instance (d : Delays) (periodNs : Int) : Decidable (d.Admits periodNs) :=
  inferInstanceAs (Decidable (_ ∧ _))

/-- The three builds. -/
inductive Variant
  | v2X
  | aidl
  | multihal
deriving DecidableEq, Repr

/-- The `if … else if` of the 2.X and the AIDL build. -/
def clampIfElse (d : Delays) (samplingPeriodNs : Int) : Int :=
  if samplingPeriodNs < d.minDelay * 1000 then d.minDelay * 1000
  else if samplingPeriodNs > d.maxDelay * 1000 then d.maxDelay * 1000
  else samplingPeriodNs

/-- `std::clamp`. -/
def stdClamp (v lo hi : Int) : Int :=
  if v < lo then lo else if hi < v then hi else v

/-- The period `batch` keeps of the one it is given. -/
def Variant.clampPeriod (v : Variant) (d : Delays) (samplingPeriodNs : Int) : Int :=
  match v with
  | .v2X => clampIfElse d samplingPeriodNs
  | .aidl => clampIfElse d samplingPeriodNs
  | .multihal => stdClamp samplingPeriodNs (d.minDelay * 1000) (d.maxDelay * 1000)

theorem Variant.clampPeriod_eq (v : Variant) (d : Delays) (samplingPeriodNs : Int) :
    v.clampPeriod d samplingPeriodNs = clampIfElse d samplingPeriodNs := by
  cases v with
  | v2X => rfl
  | aidl => rfl
  | multihal => rfl

/-- Each of the three puts any period within the limits. -/
theorem Variant.clampPeriod_admits (v : Variant) (d : Delays) (samplingPeriodNs : Int) :
    d.Admits (v.clampPeriod d samplingPeriodNs) := by
  have hordered : d.minDelay * 1000 ≤ d.maxDelay * 1000 :=
    Int.mul_le_mul_of_nonneg_right d.ordered (by omega)
  rw [v.clampPeriod_eq, clampIfElse, Delays.Admits]
  split
  · exact ⟨Int.le_refl _, hordered⟩
  · split
    · exact ⟨hordered, Int.le_refl _⟩
    · constructor <;> omega

theorem Delays.Admits.nonneg {d : Delays} {periodNs : Int} (h : d.Admits periodNs) :
    0 ≤ periodNs :=
  Int.le_trans (Int.mul_nonneg d.nonneg (by omega)) h.1

/-! ## The object and its calls -/

/-- The members `batch`, `activate` and `run` share. -/
structure Sensor where
  mIsEnabled : Bool
  mSamplingPeriodNs : Int
  mLastSampleTimeNs : Int
  mStopThread : Bool
deriving DecidableEq, Repr

namespace Sensor

/-- The constructor, which leaves `mStopThread` as it finds it. -/
def construct (mStopThread : Bool) : Sensor where
  mIsEnabled := false
  mSamplingPeriodNs := 0
  mLastSampleTimeNs := 0
  mStopThread := mStopThread

/-- `Sensor::batch`; the notification of the thread is left to `SensorThread`. -/
def batch (v : Variant) (d : Delays) (s : Sensor) (samplingPeriodNs : Int) : Sensor :=
  let samplingPeriodNs := v.clampPeriod d samplingPeriodNs
  if s.mSamplingPeriodNs ≠ samplingPeriodNs then { s with mSamplingPeriodNs := samplingPeriodNs }
  else s

/-- `Sensor::activate`, as for `batch`. -/
def activate (s : Sensor) (enable : Bool) : Sensor :=
  if s.mIsEnabled ≠ enable then { s with mIsEnabled := enable } else s

/-- The destructor, up to the `join`. -/
def destroy (s : Sensor) : Sensor :=
  { s with mStopThread := true, mIsEnabled := false }

theorem batch_eq (v : Variant) (d : Delays) (s : Sensor) (p : Int) :
    s.batch v d p = { s with mSamplingPeriodNs := v.clampPeriod d p } := by
  simp only [batch]
  split
  · rfl
  · next hsame =>
      have : s.mSamplingPeriodNs = v.clampPeriod d p := not_not.mp hsame
      rw [← this]

theorem activate_eq (s : Sensor) (enable : Bool) :
    s.activate enable = { s with mIsEnabled := enable } := by
  unfold activate
  split
  · rfl
  · next hsame =>
      have : s.mIsEnabled = enable := not_not.mp hsame
      rw [← this]

end Sensor

/-! ## One iteration of `run` -/

/-- A result in `int64_t`. -/
def int64 (x : Int) : Option Int :=
  if -(2 ^ 63) ≤ x ∧ x < 2 ^ 63 then some x else none

theorem int64_eq_some {x y : Int} (h : int64 x = some y) : y = x := by
  simp only [int64, Option.ite_none_right_eq_some, Option.some.injEq] at h
  exact h.2.symm

/-- A call of `postEvents`: the reading of the clock it was made for, and the period at that time. -/
structure Post where
  time : Int
  period : Int
deriving DecidableEq, Repr

/-- A call of `wait_for`, and the period at that time. -/
structure Wait where
  argument : Int
  period : Int
deriving DecidableEq, Repr

/-- What one iteration leaves. -/
structure Iteration where
  sensor : Sensor
  posts : List Post
  wait : Wait

/-- The `else` branch of the loop in `run`. -/
def Sensor.iterate (s : Sensor) (now : Int) : Option Iteration := do
  let nextSampleTime ← int64 (s.mLastSampleTimeNs + s.mSamplingPeriodNs)
  if now ≥ nextSampleTime then
    let s := { s with mLastSampleTimeNs := now }
    let nextSampleTime ← int64 (s.mLastSampleTimeNs + s.mSamplingPeriodNs)
    let argument ← int64 (nextSampleTime - now)
    some ⟨s, [⟨now, s.mSamplingPeriodNs⟩], ⟨argument, s.mSamplingPeriodNs⟩⟩
  else
    let argument ← int64 (nextSampleTime - now)
    some ⟨s, [], ⟨argument, s.mSamplingPeriodNs⟩⟩

def kNanosecondsInSeconds : Int := 1000 * 1000 * 1000

/-! ## The machine -/

/-- The object, the last reading of the clock, and everything posted and waited for so far. -/
structure Loop where
  sensor : Sensor
  clock : Int
  posted : List Post
  waited : List Wait
deriving DecidableEq, Repr

/-- A call, or an iteration of the thread. -/
inductive LoopAct
  | batch (samplingPeriodNs : Int)
  | activate (enable : Bool)
  | destroy
  /-- One iteration of `run`, with what `clock_gettime` returns in it. -/
  | iterate (tv_sec tv_nsec : Int)
deriving DecidableEq, Repr

namespace Loop

/-- The loop ends with `mStopThread`; a disabled sensor only waits to be enabled. -/
def runIteration (s : Loop) (tv_sec tv_nsec : Int) : Option Loop :=
  if s.sensor.mStopThread then none
  else if s.sensor.mIsEnabled then do
    let now ← int64 (tv_sec * kNanosecondsInSeconds + tv_nsec)
    if s.clock ≤ now then
      let i ← s.sensor.iterate now
      some ⟨i.sensor, now, s.posted ++ i.posts, s.waited ++ [i.wait]⟩
    else none
  else some s

/-- An iteration is one step: calls come between two of them. -/
def step (v : Variant) (d : Delays) (s : Loop) : LoopAct → Option Loop
  | .batch samplingPeriodNs => some { s with sensor := s.sensor.batch v d samplingPeriodNs }
  | .activate enable => some { s with sensor := s.sensor.activate enable }
  | .destroy => some { s with sensor := s.sensor.destroy }
  | .iterate tv_sec tv_nsec => s.runIteration tv_sec tv_nsec

/-- Before the first iteration; the clock has not been read. -/
def start (mStopThread : Bool) : Loop := ⟨.construct mStopThread, 0, [], []⟩

end Loop

/-- One sensor under its calls, from its constructor on. -/
def samplingLoop (v : Variant) (d : Delays) : Machine Loop LoopAct where
  Start s := ∃ mStopThread, s = .start mStopThread
  step := Loop.step v d

/-! ## The distance between two samples -/

/-- Once the period is over an iteration posts one sample and waits for a period; before that it waits
for what is left of it. -/
theorem Sensor.iterate_cases {s : Sensor} {now : Int} {i : Iteration}
    (h : s.iterate now = some i) :
    (s.mLastSampleTimeNs + s.mSamplingPeriodNs ≤ now ∧
      i = ⟨{ s with mLastSampleTimeNs := now }, [⟨now, s.mSamplingPeriodNs⟩],
        ⟨now + s.mSamplingPeriodNs - now, s.mSamplingPeriodNs⟩⟩) ∨
    (now < s.mLastSampleTimeNs + s.mSamplingPeriodNs ∧
      i = ⟨s, [], ⟨s.mLastSampleTimeNs + s.mSamplingPeriodNs - now, s.mSamplingPeriodNs⟩⟩) := by
  simp only [iterate, Option.bind_eq_bind] at h
  obtain ⟨nextSampleTime, hnext, h⟩ := Option.bind_eq_some_iff.mp h
  obtain rfl := int64_eq_some hnext
  split at h
  · next hdue =>
      obtain ⟨next, hnext, h⟩ := Option.bind_eq_some_iff.mp h
      obtain ⟨argument, hargument, h⟩ := Option.bind_eq_some_iff.mp h
      obtain rfl := int64_eq_some hnext
      obtain rfl := int64_eq_some hargument
      cases h
      exact Or.inl ⟨hdue, rfl⟩
  · next hearly =>
      obtain ⟨argument, hargument, h⟩ := Option.bind_eq_some_iff.mp h
      obtain rfl := int64_eq_some hargument
      cases h
      exact Or.inr ⟨not_le.mp hearly, rfl⟩

/-- With a clock that has not gone back the wait is never negative and never more than the period. -/
theorem Sensor.iterate_wait {s : Sensor} {now : Int} {i : Iteration}
    (hperiod : 0 ≤ s.mSamplingPeriodNs) (hlast : s.mLastSampleTimeNs ≤ now)
    (h : s.iterate now = some i) : 0 ≤ i.wait.argument ∧ i.wait.argument ≤ i.wait.period := by
  rcases iterate_cases h with ⟨-, rfl⟩ | ⟨hearly, rfl⟩
  · constructor <;> dsimp only <;> omega
  · constructor <;> dsimp only <;> omega

namespace Loop

/-- An iteration waits to be enabled, or gets to the clock. -/
theorem runIteration_cases {s t : Loop} {tv_sec tv_nsec : Int}
    (h : s.runIteration tv_sec tv_nsec = some t) :
    t = s ∨ ∃ now i, s.clock ≤ now ∧ s.sensor.iterate now = some i ∧
      t = ⟨i.sensor, now, s.posted ++ i.posts, s.waited ++ [i.wait]⟩ := by
  simp only [runIteration] at h
  split at h
  · exact absurd h nofun
  · split at h
    · obtain ⟨now, -, h⟩ := Option.bind_eq_some_iff.mp h
      split at h
      · next hclock =>
          obtain ⟨i, hi, h⟩ := Option.bind_eq_some_iff.mp h
          cases h
          exact Or.inr ⟨now, i, hclock, hi, rfl⟩
      · exact absurd h nofun
    · cases h
      exact Or.inl rfl

/-- Two samples are apart by at least the period of the later one. -/
def Apart (posted : List Post) : Prop :=
  posted.IsChain fun earlier later => earlier.time + later.period ≤ later.time

/-- The samples posted are apart by the period that was in force, and the loop has not run ahead of
the clock. -/
structure Paced (s : Loop) : Prop where
  last : 0 ≤ s.sensor.mLastSampleTimeNs
  clock : s.sensor.mLastSampleTimeNs ≤ s.clock
  period : 0 ≤ s.sensor.mSamplingPeriodNs
  newest : ∀ p ∈ s.posted.getLast?, p.time = s.sensor.mLastSampleTimeNs
  apart : Apart s.posted
  waited : ∀ w ∈ s.waited, 0 ≤ w.argument ∧ w.argument ≤ w.period

theorem paced_start (mStopThread : Bool) : (start mStopThread).Paced where
  last := Int.le_refl 0
  clock := Int.le_refl 0
  period := Int.le_refl 0
  newest := nofun
  apart := List.isChain_nil
  waited := nofun

/-- What an iteration that gets to the clock leaves. -/
theorem Paced.iterate {s : Loop} (h : s.Paced) {now : Int} (hclock : s.clock ≤ now)
    {i : Iteration} (hi : s.sensor.iterate now = some i) :
    (⟨i.sensor, now, s.posted ++ i.posts, s.waited ++ [i.wait]⟩ : Loop).Paced := by
  have hlast : s.sensor.mLastSampleTimeNs ≤ now := Int.le_trans h.clock hclock
  have hwaited : ∀ w ∈ s.waited ++ [i.wait], 0 ≤ w.argument ∧ w.argument ≤ w.period := by
    intro w hw
    rcases List.mem_append.mp hw with hw | hw
    · exact h.waited w hw
    · rw [List.mem_singleton.mp hw]
      exact Sensor.iterate_wait h.period hlast hi
  rcases Sensor.iterate_cases hi with ⟨hdue, rfl⟩ | ⟨-, rfl⟩
  · refine ⟨Int.le_trans h.last hlast, Int.le_refl now, h.period, ?_, ?_, hwaited⟩
    · intro p hp
      rw [List.getLast?_concat, Option.mem_def, Option.some.injEq] at hp
      rw [← hp]
    · -- the newest sample so far was taken at `mLastSampleTimeNs`
      rw [Apart, List.isChain_append]
      refine ⟨h.apart, List.isChain_singleton _, ?_⟩
      intro earlier hearlier later hlater
      rw [List.head?_cons, Option.mem_def, Option.some.injEq] at hlater
      rw [← hlater, h.newest earlier hearlier]
      exact hdue
  · refine ⟨h.last, hlast, h.period, ?_, ?_, hwaited⟩
    · rw [List.append_nil]
      exact h.newest
    · rw [List.append_nil]
      exact h.apart

theorem Paced.step {v : Variant} {d : Delays} {s t : Loop} {a : LoopAct} (h : s.Paced)
    (hstep : s.step v d a = some t) : t.Paced := by
  cases a with
  | batch p =>
      cases hstep
      rw [Sensor.batch_eq]
      exact ⟨h.last, h.clock, (v.clampPeriod_admits d p).nonneg, h.newest, h.apart, h.waited⟩
  | activate enable =>
      cases hstep
      rw [Sensor.activate_eq]
      exact ⟨h.last, h.clock, h.period, h.newest, h.apart, h.waited⟩
  | destroy =>
      cases hstep
      exact ⟨h.last, h.clock, h.period, h.newest, h.apart, h.waited⟩
  | iterate tv_sec tv_nsec =>
      rcases runIteration_cases hstep with rfl | ⟨now, i, hclock, hi, rfl⟩
      · exact h
      · exact h.iterate hclock hi

theorem paced_of_reach {v : Variant} {d : Delays} {s : Loop} (h : (samplingLoop v d).Reach s) :
    s.Paced :=
  h.invariant (fun _ ⟨mStopThread, hs⟩ => hs ▸ paced_start mStopThread)
    fun _ _ _ hs hstep => hs.step hstep

end Loop

/-- In every state the loop can be in, whatever has been called in between and whenever the thread
woke up: two consecutive samples are apart by at least the period in force when the later one was
posted, no `wait_for` was given a negative time or more than the period, and the next iteration posts
one sample at most. -/
theorem run_never_ahead (v : Variant) (d : Delays) (s : Loop) (h : (samplingLoop v d).Reach s) :
    s.posted.IsChain (fun earlier later => earlier.time + later.period ≤ later.time) ∧
    (∀ w ∈ s.waited, 0 ≤ w.argument ∧ w.argument ≤ w.period) ∧
    ∀ tv_sec tv_nsec t, (samplingLoop v d).step s (.iterate tv_sec tv_nsec) = some t →
      ∃ posts, t.posted = s.posted ++ posts ∧ posts.length ≤ 1 := by
  have hpaced := Loop.paced_of_reach h
  refine ⟨hpaced.apart, hpaced.waited, ?_⟩
  intro tv_sec tv_nsec t hstep
  rcases Loop.runIteration_cases hstep with rfl | ⟨now, i, hclock, hi, rfl⟩
  · exact ⟨[], (List.append_nil _).symm, Nat.zero_le 1⟩
  · refine ⟨i.posts, rfl, ?_⟩
    rcases Sensor.iterate_cases hi with ⟨-, rfl⟩ | ⟨-, rfl⟩
    · exact Nat.le_refl 1
    · exact Nat.zero_le 1

/-- At 50 ms; the thread is woken early by a shorter period, and comes late after that. -/
theorem run_never_ahead_woken :
    let s : Loop := ⟨⟨true, 20000000, 1500000000, false⟩, 1500000000,
      [⟨1000000000, 50000000⟩, ⟨1500000000, 20000000⟩],
      [⟨50000000, 50000000⟩, ⟨10000000, 20000000⟩, ⟨20000000, 20000000⟩]⟩
    s.posted.IsChain (fun earlier later => earlier.time + later.period ≤ later.time) ∧
    (∀ w ∈ s.waited, 0 ≤ w.argument ∧ w.argument ≤ w.period) ∧
    ∀ tv_sec tv_nsec t,
      (samplingLoop .aidl smi240Delays).step s (.iterate tv_sec tv_nsec) = some t →
      ∃ posts, t.posted = s.posted ++ posts ∧ posts.length ≤ 1 :=
  run_never_ahead .aidl smi240Delays _
    (Machine.Reach.of_run (.start ⟨false, rfl⟩)
      (rfl : (samplingLoop .aidl smi240Delays).run (.start false)
        [.batch 50000000, .activate true, .iterate 1 0, .batch 20000000, .iterate 1 10000000,
          .iterate 1 500000000] = _))

/-! ## The period of an enabled sensor -/

/-- What an action makes of `mIsEnabled`. -/
def LoopAct.enables : LoopAct → Option Bool
  | .activate enable => some enable
  | .destroy => some false
  | _ => none

/-- Whether the last call that says so leaves the sensor enabled. -/
def enabledBy (as : List LoopAct) : Bool :=
  (as.filterMap LoopAct.enables).getLast?.getD false

namespace Loop

variable {v : Variant} {d : Delays} {s t : Loop}

/-- An iteration changes neither the period nor whether the sensor is enabled. -/
theorem runIteration_config {tv_sec tv_nsec : Int} (h : s.runIteration tv_sec tv_nsec = some t) :
    t.sensor.mSamplingPeriodNs = s.sensor.mSamplingPeriodNs ∧
      t.sensor.mIsEnabled = s.sensor.mIsEnabled := by
  rcases runIteration_cases h with rfl | ⟨now, i, -, hi, rfl⟩
  · exact ⟨rfl, rfl⟩
  · rcases Sensor.iterate_cases hi with ⟨-, rfl⟩ | ⟨-, rfl⟩
    · exact ⟨rfl, rfl⟩
    · exact ⟨rfl, rfl⟩

theorem step_enabled {a : LoopAct} (h : s.step v d a = some t) :
    t.sensor.mIsEnabled = a.enables.getD s.sensor.mIsEnabled := by
  cases a with
  | batch p => cases h; rw [Sensor.batch_eq]; rfl
  | activate enable => cases h; rw [Sensor.activate_eq]; rfl
  | destroy => cases h; rfl
  | iterate tv_sec tv_nsec => exact (runIteration_config h).2

theorem run_enabled {as : List LoopAct} (h : (samplingLoop v d).run s as = some t) :
    t.sensor.mIsEnabled = (as.filterMap LoopAct.enables).getLast?.getD s.sensor.mIsEnabled := by
  apply Machine.run_history (M := samplingLoop v d) (P := fun as t => t.sensor.mIsEnabled =
    (as.filterMap LoopAct.enables).getLast?.getD s.sensor.mIsEnabled) _ rfl h
  intro before u a t hu hstep
  rw [step_enabled hstep, hu, List.filterMap_append]
  cases henables : a.enables <;> simp [henables]

/-- A call of `batch` puts the period within the limits; nothing else changes it. -/
theorem step_period {a : LoopAct} (h : s.step v d a = some t) :
    ((∃ p, a = .batch p) ∧ d.Admits t.sensor.mSamplingPeriodNs) ∨
      ((∀ p, a ≠ .batch p) ∧ t.sensor.mSamplingPeriodNs = s.sensor.mSamplingPeriodNs) := by
  cases a with
  | batch p =>
      cases h
      rw [Sensor.batch_eq]
      exact Or.inl ⟨⟨p, rfl⟩, v.clampPeriod_admits d p⟩
  | activate enable =>
      cases h
      rw [Sensor.activate_eq]
      exact Or.inr ⟨nofun, rfl⟩
  | destroy =>
      cases h
      exact Or.inr ⟨nofun, rfl⟩
  | iterate tv_sec tv_nsec => exact Or.inr ⟨nofun, (runIteration_config h).1⟩

/-- The period at the end of a run is as it was, or one that `batch` has set. -/
theorem run_period {as : List LoopAct} (h : (samplingLoop v d).run s as = some t) :
    ((∃ p, .batch p ∈ as) ∨ d.Admits s.sensor.mSamplingPeriodNs →
      d.Admits t.sensor.mSamplingPeriodNs) ∧
      ((∀ p, .batch p ∉ as) → t.sensor.mSamplingPeriodNs = s.sensor.mSamplingPeriodNs) := by
  apply Machine.run_history (M := samplingLoop v d) (P := fun as t =>
    ((∃ p, .batch p ∈ as) ∨ d.Admits s.sensor.mSamplingPeriodNs →
      d.Admits t.sensor.mSamplingPeriodNs) ∧
      ((∀ p, .batch p ∉ as) → t.sensor.mSamplingPeriodNs = s.sensor.mSamplingPeriodNs)) _ _ h
  · rintro before u a t ⟨hset, hsame⟩ hstep
    rcases step_period hstep with ⟨⟨p, rfl⟩, hadmits⟩ | ⟨hother, hkept⟩
    · refine ⟨fun _ => hadmits, fun hnone => absurd ?_ (hnone p)⟩
      exact List.mem_append_right _ List.mem_cons_self
    · rw [hkept]
      -- the action is not a call of `batch`, so the calls are those before it
      have hcalls : ∀ p, LoopAct.batch p ∈ before ++ [a] ↔ LoopAct.batch p ∈ before := by
        intro p
        rw [List.mem_append, List.mem_singleton, or_iff_left (Ne.symm (hother p))]
      simp only [hcalls]
      exact ⟨hset, hsame⟩
  · exact ⟨fun hor => hor.resolve_left (by simp), fun _ => rfl⟩

end Loop

/-- The constructor leaves the period at zero, below the least one, and `activate` does not look at
it: the period of a sensor that is enabled is within its limits exactly if `batch` has been called. -/
theorem enabled_period_admitted_iff (v : Variant) (mStopThread : Bool) (as : List LoopAct)
    (t : Loop) (hrun : (samplingLoop v smi240Delays).run (.start mStopThread) as = some t) :
    (t.sensor.mIsEnabled = true → 10000 * 1000 ≤ t.sensor.mSamplingPeriodNs ∧
      t.sensor.mSamplingPeriodNs ≤ 200000 * 1000) ↔
    (enabledBy as = false ∨ ∃ p, .batch p ∈ as) := by
  obtain ⟨hset, hsame⟩ := Loop.run_period hrun
  have henabled : t.sensor.mIsEnabled = enabledBy as := Loop.run_enabled hrun
  rw [henabled]
  constructor
  · intro hadmitted
    by_contra hneither
    obtain ⟨hon, hnever⟩ := not_or.mp hneither
    have hzero : t.sensor.mSamplingPeriodNs = 0 := hsame (not_exists.mp hnever)
    have hlow := (hadmitted (Bool.not_eq_false _ ▸ hon)).1
    rw [hzero] at hlow
    omega
  · rintro (hoff | hbatch) hon
    · exact absurd (hoff.symm.trans hon) nofun
    · exact hset (Or.inl hbatch)

/-- With a call of `batch` in front, of any period. -/
theorem enabled_period_admitted_batched :
    (10000 * 1000 : Int) ≤ 10000000 ∧ (10000000 : Int) ≤ 200000 * 1000 :=
  (enabled_period_admitted_iff .multihal false [.batch 0, .activate true, .iterate 1 0]
    ⟨⟨true, 10000000, 1000000000, false⟩, 1000000000, [⟨1000000000, 10000000⟩],
      [⟨10000000, 10000000⟩]⟩ rfl).mpr (Or.inr ⟨0, List.mem_cons_self⟩) rfl

/-- Enabled without a call of `batch`, the sensor samples with a period of zero. -/
theorem enabled_period_unset :
    ¬ ∀ (v : Variant) (mStopThread : Bool) (as : List LoopAct) (t : Loop),
      (samplingLoop v smi240Delays).run (.start mStopThread) as = some t →
      t.sensor.mIsEnabled = true → 10000 * 1000 ≤ t.sensor.mSamplingPeriodNs ∧
        t.sensor.mSamplingPeriodNs ≤ 200000 * 1000 := by
  intro hall
  have hlow := (hall .v2X false [.activate true] _ rfl rfl).1
  exact absurd hlow (by decide)

end Smi240Hal.Sampling
