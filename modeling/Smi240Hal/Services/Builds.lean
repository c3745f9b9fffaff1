/-
# Smi240Hal.Services.Builds — the same service three times

The 2.X, the AIDL and the multihal build are three texts of one service.  They part in what a file
that does not hold three numbers comes to, in the coordinate of a number that is not a `float`, in
`initialize`, which the multihal build leaves to the proxy to disable the sensors in, and in an
injected `ADDITIONAL_INFO`, which only the AIDL build takes.  On every schedule without these the
three post the same events and say `ok` to the same calls.
-/
import Smi240Hal.Sampling.FloatReaders
import Smi240Hal.Services.Loops

namespace Smi240Hal.Services

open Smi240Hal.Lib Smi240Hal.Lib.BinaryFloat Smi240Hal.Sampling
open Smi240Hal.MultiHal (Handle)
open Smi240Hal.MultiHal.SensorType (ADDITIONAL_INFO)

variable {N ρ : Type}

/-! ## One call -/

/-- A call that both builds do alike. -/
def Call.Shared (v v' : Variant) : Call → Prop
  | .initializeBase _ => (frontEnd v).disables = (frontEnd v').disables
  | .injectSensorData _ sensorType => sensorType ≠ ADDITIONAL_INFO
  | _ => True

/-- A call, and whether it was answered with `ok`. -/
def answered [DecidableEq ρ] (ok : ρ) (a : Call × ρ) : Call × Bool := (a.1, decide (a.2 = ok))

theorem injectEvent_not_ok (v : Variant) {sensorType : Int} (htype : sensorType ≠ ADDITIONAL_INFO)
    (flags : BitVec 32) : (frontEnd v).injectEvent flags sensorType ≠ (frontEnd v).ok := by
  cases v with
  | v2X => exact fun h => nomatch (show MultiHal.Result.INVALID_OPERATION = .OK from h)
  | multihal => exact fun h => nomatch (show MultiHal.Result.INVALID_OPERATION = .OK from h)
  | aidl =>
      show (aidl.injectEvent flags sensorType : ScopedAStatus) ≠ .ok
      dsimp only [aidl]
      rw [if_neg htype]
      split <;> exact nofun

theorem lastMode_eq {ok bad : ρ} {sensors : Nat} (hsome : sensors ≠ 0)
    (mode : MultiHal.OperationMode) :
    lastMode ok bad sensors mode = if mode = .NORMAL then ok else bad := by
  obtain ⟨n, rfl⟩ := Nat.exists_eq_succ_of_ne_zero hsome
  rw [lastMode, List.range_succ, List.foldl_append]
  rfl

/-- With a sensor at all, `setOperationMode` takes `NORMAL` alone. -/
theorem setOperationMode_ok (v : Variant) {sensors : Nat} (hsome : sensors ≠ 0)
    (mode : MultiHal.OperationMode) :
    (frontEnd v).setOperationMode sensors mode = (frontEnd v).ok ↔ mode = .NORMAL := by
  cases v with
  | v2X =>
      show lastMode MultiHal.Result.OK .BAD_VALUE sensors mode = .OK ↔ _
      rw [lastMode_eq hsome]
      cases mode <;> decide
  | aidl =>
      show lastMode ScopedAStatus.ok (.fromExceptionCode .EX_ILLEGAL_ARGUMENT) sensors mode =
        .ok ↔ _
      rw [lastMode_eq hsome]
      cases mode <;> decide
  | multihal =>
      show (if mode = .NORMAL then MultiHal.Result.OK else .BAD_VALUE) = .OK ↔ _
      cases mode <;> decide

/-- Two builds that both disable the sensors, or both do not, come out of `initialize` alike. -/
theorem initialized_ok {v v' : Variant} (hsame : (frontEnd v).disables = (frontEnd v').disables)
    (made : Bool) :
    (frontEnd v).initialized made = (frontEnd v).ok ↔
      (frontEnd v').initialized made = (frontEnd v').ok := by
  revert hsame made
  cases v <;> cases v' <;> decide

theorem batch_build (v v' : Variant) (samplingPeriodNs : Int) :
    (Device.batch v samplingPeriodNs : Device N → Device N) =
      Device.batch v' samplingPeriodNs := by
  funext d
  simp only [Device.batch, Sensor.batch, Variant.clampPeriod_eq]

/-- What two builds do on a call: the same but for the text of the answer. -/
structure Outcome.Agree {ρ ρ' : Type} (ok : ρ) (ok' : ρ') (o : Outcome N ρ) (o' : Outcome N ρ') :
    Prop where
  mSensors : o'.mSensors = o.mSensors
  posts : o'.posts = o.posts
  answer : o'.answer = ok' ↔ o.answer = ok

theorem call_agrees {v v' : Variant} {mSensors : DeviceMap N} (hsome : mSensors.size ≠ 0)
    {c : Call} (hc : c.Shared v v') :
    Outcome.Agree (frontEnd v).ok (frontEnd v').ok ((frontEnd v).call mSensors c)
      ((frontEnd v').call mSensors c) := by
  obtain ⟨hsensor, hflush, hinject, hdirect⟩ := frontEnd_not_ok v
  obtain ⟨hsensor', hflush', hinject', hdirect'⟩ := frontEnd_not_ok v'
  cases c with
  | activate h enabled =>
      simp only [FrontEnd.call, FrontEnd.activate]
      split
      · exact ⟨rfl, rfl, iff_of_true rfl rfl⟩
      · exact ⟨rfl, rfl, iff_of_false hsensor' hsensor⟩
  | batch h samplingPeriodNs maxReportLatencyNs =>
      simp only [FrontEnd.call, FrontEnd.batch]
      split
      · exact ⟨by rw [batch_build], rfl, iff_of_true rfl rfl⟩
      · exact ⟨rfl, rfl, iff_of_false hsensor' hsensor⟩
  | flush h =>
      simp only [FrontEnd.call, FrontEnd.flush]
      split
      · exact ⟨rfl, rfl, iff_of_false hsensor' hsensor⟩
      · split
        · exact ⟨rfl, rfl, iff_of_false hflush' hflush⟩
        · exact ⟨rfl, rfl, iff_of_true rfl rfl⟩
  | injectSensorData h sensorType =>
      simp only [FrontEnd.call, FrontEnd.injectSensorData]
      split
      · exact ⟨rfl, rfl, iff_of_false hinject' hinject⟩
      · exact ⟨rfl, rfl, iff_of_false (injectEvent_not_ok v' hc _) (injectEvent_not_ok v hc _)⟩
  | setOperationMode mode =>
      exact ⟨rfl, rfl, (setOperationMode_ok v' hsome mode).trans
        (setOperationMode_ok v hsome mode).symm⟩
  | directChannel => exact ⟨rfl, rfl, iff_of_false hdirect' hdirect⟩
  | initializeBase made =>
      have hsame : (frontEnd v).disables = (frontEnd v').disables := hc
      refine ⟨?_, rfl, (initialized_ok hsame made).symm⟩
      simp only [FrontEnd.call, FrontEnd.initializeBase, hsame]

/-! ## Runs -/

section Runs

variable [Zero N] {numbers : CNumbers N} {v v' : Variant} {mStopThread : Handle → Bool}
  {classes : List (SensorClass N)} {as : List ServiceAct}

/-- A file the two builds read alike is the same sample. -/
theorem iterate_build {v v' : Variant} {file : Option (List UInt8)}
    (hfile : ∀ resolution, ReadAlike numbers v v' resolution file) (d : Device N)
    (tv_sec tv_nsec timestamp : Int) :
    d.iterate numbers v tv_sec tv_nsec timestamp file =
      d.iterate numbers v' tv_sec tv_nsec timestamp file := by
  have hpost : d.postSample numbers v timestamp file = d.postSample numbers v' timestamp file :=
    congrArg (Option.map _) (readEvents_alike (hfile d.info.resolution))
  simp only [Device.iterate, hpost]

/-- An action that both builds do alike. -/
def ServiceAct.Alike (numbers : CNumbers N) (v v' : Variant) : ServiceAct → Prop
  | .call c => c.Shared v v'
  | .iterate _ _ _ _ file => ∀ resolution, ReadAlike numbers v v' resolution file

theorem size_of_run {fe : FrontEnd ρ} {t : Service N ρ} (hlen : classes.length < 2 ^ 32)
    (hclasses : classes ≠ [])
    (hrun : (service numbers fe classes).run (.construct mStopThread classes) as = some t) :
    t.mSensors.size ≠ 0 := by
  obtain ⟨c, classes, rfl⟩ := List.exists_cons_of_ne_nil hclasses
  obtain ⟨d, hget, -⟩ := device_of_run (h := 1) hlen hrun rfl
  intro hzero
  rw [Std.ExtTreeMap.eq_empty_iff_size_eq_zero.mpr hzero] at hget
  exact nomatch hget

/-- Two builds that do every action alike are the same service, whatever reads the files. -/
theorem runs_agree (hlen : classes.length < 2 ^ 32) (hclasses : classes ≠ [])
    (halike : ∀ a ∈ as, a.Alike numbers v v') {t : Service N (Reply v)}
    (hrun : (service numbers (frontEnd v) classes).run (.construct mStopThread classes) as =
      some t) :
    ∃ t', (service numbers (frontEnd v') classes).run (.construct mStopThread classes) as = some t' ∧
      t'.mSensors = t.mSensors ∧ t'.posts = t.posts ∧
      t'.answers.map (answered (frontEnd v').ok) = t.answers.map (answered (frontEnd v).ok) := by
  induction as using List.reverseRecOn generalizing t with
  | nil =>
      cases hrun
      exact ⟨_, rfl, rfl, rfl, rfl⟩
  | append_singleton as a ih =>
      rw [Machine.run_concat] at hrun
      obtain ⟨s, hs, hstep⟩ := Option.bind_eq_some_iff.mp hrun
      obtain ⟨s', hs', hsensors, hposts, hanswers⟩ :=
        ih (fun b hb => halike b (List.mem_append_left _ hb)) hs
      have ha : a.Alike numbers v v' := halike a (by simp)
      simp only [Machine.run_concat, hs', Option.bind_some]
      cases a with
      | call c =>
          cases hstep
          -- the flush of one build is refused where that of the other is: the sensors are the same
          have hagree := call_agrees (size_of_run hlen hclasses hs) ha
          refine ⟨_, rfl, ?_⟩
          rw [hsensors]
          refine ⟨hagree.mSensors, ?_, ?_⟩
          · rw [hposts, hagree.posts]
          · rw [List.map_append, List.map_append, hanswers]
            congr 1
            simp only [List.map_cons, List.map_nil, answered, hagree.answer]
      | iterate h tv_sec tv_nsec timestamp file =>
          obtain ⟨d, hget, hbind⟩ := Option.bind_eq_some_iff.mp hstep
          obtain ⟨⟨d', posts⟩, hiterate, heq⟩ := Option.bind_eq_some_iff.mp hbind
          cases heq
          -- the loop is the same program, and the file is read alike
          rw [frontEnd_variant, iterate_build ha] at hiterate
          refine ⟨{ s' with mSensors := s'.mSensors.insert h d', posts := s'.posts ++ posts }, ?_, ?_⟩
          · simp only [service, Service.step, hsensors, hget, frontEnd_variant, hiterate,
              Option.bind_eq_bind, Option.bind_some]
          · exact ⟨by rw [hsensors], by rw [hposts], hanswers⟩

end Runs

/-! ## The C library of the three -/

section Shared

variable {number : List UInt8 → Option Extended} {reported : ℚ → Bool} {v v' : Variant}
  {mStopThread : Handle → Bool} {classes : List (SensorClass (Number binary32))}
  {as : List ServiceAct}

/-- An action that two of the builds share. -/
def ServiceAct.Shared (number : List UInt8 → Option Extended) (v v' : Variant) : ServiceAct → Prop
  | .call c => c.Shared v v'
  | .iterate _ _ _ _ file => FileShared number v v' file

theorem ServiceAct.Shared.alike {a : ServiceAct} (h : a.Shared number v v') :
    a.Alike (ieee number reported) v v' := by
  cases a with
  | call c => exact h
  | iterate sensorHandle tv_sec tv_nsec timestamp file => exact readAlike_of_shared h

/-- On every schedule of what they share, two of the three builds are the same service: if the one
runs, so does the other, with the same sensors, the same events posted in the same order, and `ok`
said to the same calls. -/
theorem builds_agree (hlen : classes.length < 2 ^ 32) (hclasses : classes ≠ [])
    (hshared : ∀ a ∈ as, a.Shared number v v')
    {t : Service (Number binary32) (Reply v)}
    (hrun : (service (ieee number reported) (frontEnd v) classes).run
      (.construct mStopThread classes) as = some t) :
    ∃ t', (service (ieee number reported) (frontEnd v') classes).run
        (.construct mStopThread classes) as = some t' ∧
      t'.mSensors = t.mSensors ∧ t'.posts = t.posts ∧
      t'.answers.map (answered (frontEnd v').ok) = t.answers.map (answered (frontEnd v).ok) :=
  runs_agree hlen hclasses (fun a ha => (hshared a ha).alike) hrun

end Shared

/-- A digit, as a number. -/
def readDigit : List UInt8 → Option Extended
  | [c] => if 48 ≤ c ∧ c ≤ 57 then some (.finite ((c.toNat : ℤ) - 48 : ℤ)) else none
  | _ => none

/-- The AIDL build follows the 2.X build, through an initialization. -/
theorem builds_agree_aidl :
    let numbers := ieee readDigit fun _ => true
    let resolution : Number binary32 := .round binary32 (.finite (1 / 2000))
    let classes : List (SensorClass (Number binary32)) :=
      [smi240Accel resolution, smi240Gyro resolution]
    let as : List ServiceAct :=
      [.call (.activate 1 true), .call (.initializeBase true), .call (.activate 2 true),
        .iterate 2 1 0 7 (some [49, 32, 50, 32, 51, 10]), .call (.flush 1), .call (.flush 2),
        .call (.setOperationMode .DATA_INJECTION)]
    ∃ t', (service numbers (frontEnd .aidl) classes).run (.construct (fun _ => false) classes) as =
        some t' ∧ t'.posts.length = 2 ∧
      t'.answers.map (answered (frontEnd .aidl).ok) =
        [(.activate 1 true, true), (.initializeBase true, true), (.activate 2 true, true),
          (.flush 1, false), (.flush 2, true), (.setOperationMode .DATA_INJECTION, false)] := by
  intro numbers resolution classes as
  have hlog : ((service numbers (frontEnd .v2X) classes).run
      (.construct (fun _ => false) classes) as).map
        (fun t => (t.posts.length, t.answers.map (answered (frontEnd .v2X).ok))) =
      some (2, [(.activate 1 true, true), (.initializeBase true, true), (.activate 2 true, true),
        (.flush 1, false), (.flush 2, true), (.setOperationMode .DATA_INJECTION, false)]) := by
    decide +kernel
  obtain ⟨t, hrun, hlog⟩ := Option.map_eq_some_iff.mp hlog
  have hfile : FileShared readDigit .v2X .aidl (some [49, 32, 50, 32, 51, 10]) := by
    refine ⟨_, [49], [50], [51], [], rfl, rfl, Or.inr ?_⟩
    simp only [List.forall_mem_cons, List.not_mem_nil, false_imp_iff, implies_true, and_true]
    exact ⟨saysFloat_intCast (n := 1) (by decide) rfl, saysFloat_intCast (n := 2) (by decide) rfl,
      saysFloat_intCast (n := 3) (by decide) rfl⟩
  have hshared : ∀ a ∈ as, a.Shared readDigit .v2X .aidl := by
    have hdisables : (frontEnd .v2X).disables = (frontEnd .aidl).disables := rfl
    simp only [as, List.forall_mem_cons, ServiceAct.Shared, Call.Shared, hfile, hdisables,
      List.not_mem_nil, false_imp_iff, implies_true, and_self]
  obtain ⟨t', hrun', -, hposts, hanswers⟩ :=
    builds_agree (by decide) (List.cons_ne_nil _ _) hshared hrun
  rw [Prod.mk.injEq] at hlog
  exact ⟨t', hrun', by rw [hposts]; exact hlog.1, hanswers.trans hlog.2⟩

end Smi240Hal.Services
