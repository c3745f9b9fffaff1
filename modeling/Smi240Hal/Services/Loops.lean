/-
# Smi240Hal.Services.Loops — each sensor is alone with its loop

A call for one sensor and an iteration of its thread do not touch another: seen from one handle, a
service is the sampling loop of that sensor under the calls that are for it.  What holds of the loop
under every schedule then holds of each sensor of a service, whatever is done with the others.
-/
import Smi240Hal.Lib.Simulation
import Smi240Hal.Services.Sensors

namespace Smi240Hal.Services

open Smi240Hal.Lib Smi240Hal.Sampling
open Smi240Hal.MultiHal (Handle cmpHandle)

variable {N ρ : Type}

/-! ## What the loop of one sensor sees -/

/-- The actions of the loop of the sensor `h` that an action of the service comes to. -/
def loopActs (fe : FrontEnd ρ) (h : Handle) : ServiceAct → List LoopAct
  | .call (.activate sensorHandle enabled) =>
      if sensorHandle = h then [.activate enabled] else []
  | .call (.batch sensorHandle samplingPeriodNs _) =>
      if sensorHandle = h then [.batch samplingPeriodNs] else []
  | .call (.initializeBase _) => if fe.disables then [.activate false] else []
  | .call _ => []
  | .iterate sensorHandle tv_sec tv_nsec _ _ =>
      if sensorHandle = h then [.iterate tv_sec tv_nsec] else []

/-- The sensor is the same one, and its loop has taken these actions. -/
structure Device.Took (v : Variant) (as : List LoopAct) (d d' : Device N) : Prop where
  sensorHandle : d'.sensorHandle = d.sensorHandle
  info : d'.info = d.info
  loop : (samplingLoop v d.info.delays).run d.loop as = some d'.loop

theorem Device.Took.nothing (v : Variant) (d : Device N) : d.Took v [] d := ⟨rfl, rfl, rfl⟩

theorem Device.took_activate (v : Variant) (enable : Bool) (d : Device N) :
    d.Took v [.activate enable] (d.activate enable) := ⟨rfl, rfl, rfl⟩

theorem Device.took_batch (v : Variant) (samplingPeriodNs : Int) (d : Device N) :
    d.Took v [.batch samplingPeriodNs] (d.batch v samplingPeriodNs) := ⟨rfl, rfl, rfl⟩

/-! ## Updating one sensor of a map -/

section Map

variable {mSensors : DeviceMap N} {h k : Handle} {f : Device N → Device N}

theorem modify_get :
    (mSensors.modify k f)[h]? = if k = h then mSensors[h]?.map f else mSensors[h]? := by
  rw [Std.ExtTreeMap.getElem?_modify]
  by_cases heq : k = h
  · rw [if_pos heq, heq, if_pos Std.ReflCmp.compare_self]
  · rw [if_neg heq, if_neg fun hcmp => heq (Std.LawfulEqCmp.eq_of_compare hcmp)]

theorem insert_get {d : Device N} :
    (mSensors.insert k d)[h]? = if k = h then some d else mSensors[h]? := by
  rw [Std.ExtTreeMap.getElem?_insert]
  by_cases heq : k = h
  · rw [if_pos heq, heq, if_pos Std.ReflCmp.compare_self]
  · rw [if_neg heq, if_neg fun hcmp => heq (Std.LawfulEqCmp.eq_of_compare hcmp)]

end Map

/-! ## One step, seen from one handle -/

/-- What a call makes of the sensor `h`. -/
def afterCall (fe : FrontEnd ρ) (h : Handle) : Call → Device N → Device N
  | .activate k enabled => if k = h then Device.activate enabled else id
  | .batch k samplingPeriodNs _ => if k = h then Device.batch fe.variant samplingPeriodNs else id
  | .initializeBase _ => if fe.disables then Device.activate false else id
  | _ => id

theorem modify_if_mem {mSensors : DeviceMap N} {h k : Handle} (f : Device N → Device N) :
    (if k ∈ mSensors then mSensors.modify k f else mSensors)[h]? =
      mSensors[h]?.map (if k = h then f else id) := by
  by_cases hk : k = h
  · subst hk
    rw [if_pos rfl]
    split
    · rw [modify_get, if_pos rfl]
    · next hno =>
        rw [Std.ExtTreeMap.getElem?_eq_none hno, Option.map_none]
  · rw [if_neg hk, Option.map_id]
    split
    · rw [modify_get, if_neg hk]
      rfl
    · rfl

theorem call_get (fe : FrontEnd ρ) (mSensors : DeviceMap N) (c : Call) (h : Handle) :
    (fe.call mSensors c).mSensors[h]? = mSensors[h]?.map (afterCall fe h c) := by
  cases c with
  | activate k enabled =>
      rw [afterCall, ← modify_if_mem]
      simp only [FrontEnd.call, FrontEnd.activate]
      split <;> rfl
  | batch k samplingPeriodNs maxReportLatencyNs =>
      rw [afterCall, ← modify_if_mem]
      simp only [FrontEnd.call, FrontEnd.batch]
      split <;> rfl
  | flush k =>
      refine Eq.trans ?_ Option.map_id_apply.symm
      simp only [FrontEnd.call, FrontEnd.flush]
      split
      · rfl
      · split <;> rfl
  | injectSensorData k sensorType =>
      refine Eq.trans ?_ Option.map_id_apply.symm
      simp only [FrontEnd.call, FrontEnd.injectSensorData]
      split <;> rfl
  | setOperationMode mode => exact (Option.map_id_apply).symm
  | directChannel => exact (Option.map_id_apply).symm
  | initializeBase made =>
      simp only [FrontEnd.call, FrontEnd.initializeBase, afterCall]
      split
      · rw [Std.ExtTreeMap.getElem?_map]
      · exact (Option.map_id_apply).symm

theorem afterCall_took (fe : FrontEnd ρ) (h : Handle) (c : Call) (d : Device N) :
    d.Took fe.variant (loopActs fe h (.call c)) (afterCall fe h c d) := by
  cases c with
  | activate k enabled =>
      simp only [afterCall, loopActs]
      split
      · exact d.took_activate _ enabled
      · exact .nothing _ d
  | batch k samplingPeriodNs maxReportLatencyNs =>
      simp only [afterCall, loopActs]
      split
      · exact d.took_batch _ samplingPeriodNs
      · exact .nothing _ d
  | initializeBase made =>
      simp only [afterCall, loopActs]
      split
      · exact d.took_activate _ false
      · exact .nothing _ d
  | flush | injectSensorData | setOperationMode | directChannel => exact .nothing _ d

/-- The sample an iteration posts. -/
structure Device.Sampled [Zero N] (numbers : CNumbers N) (v : Variant)
    (d : Device N) (loop : Loop) (post : PostEvents N) : Prop where
  enabled : d.loop.sensor.mIsEnabled = true
  posted : ∃ p, loop.posted = d.loop.posted ++ [p]
  read : ∃ timestamp file, d.postSample numbers v timestamp file = some post

/-- An iteration posts nothing, or one sample of an enabled sensor. -/
theorem runIteration_posted {s t : Loop} {tv_sec tv_nsec : Int}
    (h : s.runIteration tv_sec tv_nsec = some t) :
    t.posted = s.posted ∨ (s.sensor.mIsEnabled = true ∧ ∃ p, t.posted = s.posted ++ [p]) := by
  by_cases hen : s.sensor.mIsEnabled = true
  · rcases Loop.runIteration_cases h with rfl | ⟨now, i, -, hi, rfl⟩
    · exact Or.inl rfl
    · rcases Sensor.iterate_cases hi with ⟨-, rfl⟩ | ⟨-, rfl⟩
      · exact Or.inr ⟨hen, _, rfl⟩
      · exact Or.inl (List.append_nil _)
  · -- a disabled sensor only waits
    rw [Loop.runIteration, if_neg hen] at h
    obtain ⟨-, hsame⟩ := Option.ite_none_left_eq_some.mp h
    cases hsame
    exact Or.inl rfl

section Step

variable [Zero N] {numbers : CNumbers N} {fe : FrontEnd ρ}

theorem Device.iterate_cases {v : Variant} {d d' : Device N} {tv_sec tv_nsec timestamp : Int}
    {file : Option (List UInt8)} {posts : List (PostEvents N)}
    (h : d.iterate numbers v tv_sec tv_nsec timestamp file = some (d', posts)) :
    ∃ loop, d.loop.runIteration tv_sec tv_nsec = some loop ∧ d' = { d with loop := loop } ∧
      ((posts = [] ∧ loop.posted = d.loop.posted) ∨
        ∃ post, posts = [post] ∧ d.Sampled numbers v loop post) := by
  simp only [iterate, Option.bind_eq_bind] at h
  obtain ⟨loop, hloop, h⟩ := Option.bind_eq_some_iff.mp h
  refine ⟨loop, hloop, ?_⟩
  rcases runIteration_posted hloop with hsame | ⟨henabled, p, hmore⟩
  · -- the loop posts nothing, and no file is read
    rw [if_pos (by rw [hsame])] at h
    cases h
    exact ⟨rfl, Or.inl ⟨rfl, hsame⟩⟩
  · rw [if_neg (by rw [hmore, List.length_append, List.length_singleton]; omega)] at h
    obtain ⟨post, hpost, h⟩ := Option.bind_eq_some_iff.mp h
    cases h
    exact ⟨rfl, Or.inr ⟨post, rfl, henabled, ⟨p, hmore⟩, timestamp, file, hpost⟩⟩

/-- What a step does: a call, or an iteration of one sensor. -/
inductive Service.Step (numbers : CNumbers N) (fe : FrontEnd ρ) (s : Service N ρ) :
    ServiceAct → Service N ρ → Prop
  | called (c : Call) : Step numbers fe s (.call c)
      ⟨(fe.call s.mSensors c).mSensors, s.posts ++ (fe.call s.mSensors c).posts,
        s.answers ++ [(c, (fe.call s.mSensors c).answer)]⟩
  | iterated {k : Handle} {tv_sec tv_nsec timestamp : Int} {file : Option (List UInt8)}
      {d : Device N} {loop : Loop} {posts : List (PostEvents N)} (hget : s.mSensors[k]? = some d)
      (hloop : d.loop.runIteration tv_sec tv_nsec = some loop)
      (hposts : (posts = [] ∧ loop.posted = d.loop.posted) ∨
        ∃ post, posts = [post] ∧ d.Sampled numbers fe.variant loop post) :
      Step numbers fe s (.iterate k tv_sec tv_nsec timestamp file)
        { s with mSensors := s.mSensors.insert k { d with loop := loop },
                 posts := s.posts ++ posts }

theorem Service.step_cases {s t : Service N ρ} {a : ServiceAct} (h : s.step numbers fe a = some t) :
    s.Step numbers fe a t := by
  cases a with
  | call c =>
      cases h
      exact .called c
  | iterate k tv_sec tv_nsec timestamp file =>
      simp only [step, Option.bind_eq_bind] at h
      obtain ⟨d, hget, h⟩ := Option.bind_eq_some_iff.mp h
      obtain ⟨⟨d', posts⟩, hiterate, h⟩ := Option.bind_eq_some_iff.mp h
      cases h
      obtain ⟨loop, hloop, rfl, hposts⟩ := Device.iterate_cases hiterate
      exact .iterated hget hloop hposts

/-- A step is a step of the loop of each sensor, under the actions it comes to there. -/
theorem step_took {s t : Service N ρ} {a : ServiceAct} (hstep : s.step numbers fe a = some t)
    {h : Handle} {d : Device N} (hget : s.mSensors[h]? = some d) :
    ∃ d', t.mSensors[h]? = some d' ∧ d.Took fe.variant (loopActs fe h a) d' := by
  rcases Service.step_cases hstep with c | ⟨hk, hloop, -⟩
  · exact ⟨_, (call_get fe _ c h).trans (congrArg _ hget), afterCall_took fe h c d⟩
  · rename_i k tv_sec tv_nsec _ _ e loop _
    dsimp only
    rw [insert_get, loopActs]
    by_cases hkh : k = h
    · -- the iteration is one of the sensor itself
      rw [if_pos hkh, if_pos hkh]
      rw [hkh, hget] at hk
      cases hk
      refine ⟨_, rfl, rfl, rfl, ?_⟩
      rw [Machine.run_cons_eq_some]
      exact ⟨loop, hloop, rfl⟩
    · rw [if_neg hkh, if_neg hkh]
      exact ⟨d, hget, .nothing _ d⟩

theorem step_get_none {s t : Service N ρ} {a : ServiceAct} (hstep : s.step numbers fe a = some t)
    {h : Handle} (hget : s.mSensors[h]? = none) : t.mSensors[h]? = none := by
  rcases Service.step_cases hstep with c | ⟨hk, -, -⟩
  · exact (call_get fe _ c h).trans (congrArg _ hget)
  · rename_i k _ _ _ _ e _ _
    dsimp only
    rw [insert_get, if_neg]
    · exact hget
    · rintro rfl
      rw [hget] at hk
      exact nomatch hk

end Step

/-! ## The simulation -/

theorem construct_get {mStopThread : Handle → Bool} {classes : List (SensorClass N)}
    (hlen : classes.length < 2 ^ 32) (h : Handle) :
    (Service.construct (ρ := ρ) mStopThread classes).mSensors[h]? =
      (classAt classes h).map fun c => ⟨h, c, .start (mStopThread h)⟩ :=
  (addSensors_get mStopThread hlen h).1

/-- The loop of the sensor `h` follows the service. -/
def loopSimulation [Zero N] (numbers : CNumbers N) (fe : FrontEnd ρ)
    {classes : List (SensorClass N)} (hlen : classes.length < 2 ^ 32) {h : Handle}
    {c : SensorClass N} (hc : classAt classes h = some c) :
    Simulation (service numbers fe classes) (samplingLoop fe.variant c.delays) where
  Rel s x := ∃ d, s.mSensors[h]? = some d ∧ d.info = c ∧ d.loop = x
  label := loopActs fe h
  start := by
    rintro s ⟨mStopThread, rfl⟩
    refine ⟨.start (mStopThread h), ⟨mStopThread h, rfl⟩, ⟨h, c, .start (mStopThread h)⟩, ?_,
      rfl, rfl⟩
    rw [construct_get hlen, hc]
    rfl
  step := by
    rintro s a t x ⟨d, hget, rfl, rfl⟩ hstep
    obtain ⟨d', hget', htook⟩ := step_took hstep hget
    exact ⟨d'.loop, htook.loop, d', hget', htook.info, rfl⟩

/-! ## The samples of one sensor -/

/-- The event, when it is a sample of the sensor `h`. -/
def SensorEvent.sampleOf (h : Handle) : SensorEvent N → Option (Sampling.Event N)
  | .data event => if event.sensorHandle = h.toInt then some event else none
  | .flushComplete _ => none

/-- The samples among the events of these calls. -/
def samplesOf (h : Handle) (posts : List (PostEvents N)) : List (Sampling.Event N) :=
  (posts.flatMap PostEvents.events).filterMap (SensorEvent.sampleOf h)

theorem samplesOf_append (h : Handle) (posts more : List (PostEvents N)) :
    samplesOf h (posts ++ more) = samplesOf h posts ++ samplesOf h more := by
  rw [samplesOf, List.flatMap_append, List.filterMap_append]
  rfl

/-- A call posts nothing, or it is a flush that is granted. -/
theorem call_posts_cases (fe : FrontEnd ρ) (mSensors : DeviceMap N) (c : Call) :
    ((fe.call mSensors c).posts = [] ∧ ∀ k, c = .flush k →
      (fe.call mSensors c).answer = fe.noSensor ∨
        (fe.call mSensors c).answer = fe.flushRefused) ∨
    ∃ k d, c = .flush k ∧ mSensors[k]? = some d ∧ d.loop.sensor.mIsEnabled = true ∧
      d.isOneShot = false ∧ (fe.call mSensors c).answer = fe.ok ∧
      (fe.call mSensors c).posts =
        [⟨[.flushComplete d.sensorHandle.toInt], d.isWakeUpSensor⟩] := by
  cases c with
  | flush k =>
      simp only [FrontEnd.call, FrontEnd.flush]
      split
      · exact Or.inl ⟨rfl, fun _ _ => Or.inl rfl⟩
      · next d hget =>
          split
          · exact Or.inl ⟨rfl, fun _ _ => Or.inr rfl⟩
          · next post hflush =>
              simp only [Device.flush] at hflush
              split at hflush
              · exact absurd hflush nofun
              · next hgranted =>
                  cases hflush
                  simp only [Bool.or_eq_true, Bool.not_eq_true', not_or,
                    Bool.not_eq_false, Bool.not_eq_true] at hgranted
                  exact Or.inr ⟨k, d, rfl, hget, hgranted.1, hgranted.2, rfl, rfl⟩
  | activate k enabled =>
      simp only [FrontEnd.call, FrontEnd.activate]
      split <;> exact Or.inl ⟨rfl, nofun⟩
  | batch k samplingPeriodNs maxReportLatencyNs =>
      simp only [FrontEnd.call, FrontEnd.batch]
      split <;> exact Or.inl ⟨rfl, nofun⟩
  | injectSensorData k sensorType =>
      simp only [FrontEnd.call, FrontEnd.injectSensorData]
      split <;> exact Or.inl ⟨rfl, nofun⟩
  | setOperationMode | directChannel | initializeBase => exact Or.inl ⟨rfl, nofun⟩

theorem samplesOf_call (fe : FrontEnd ρ) (mSensors : DeviceMap N) (c : Call) (h : Handle) :
    samplesOf h (fe.call mSensors c).posts = [] := by
  rcases call_posts_cases fe mSensors c with ⟨hnone, -⟩ | ⟨_, _, -, -, -, -, -, hpost⟩
  · rw [hnone]
    rfl
  · rw [hpost]
    rfl

theorem afterCall_posted (fe : FrontEnd ρ) (h : Handle) (c : Call) (d : Device N) :
    (afterCall fe h c d).loop.posted = d.loop.posted := by
  unfold afterCall
  split <;> first | rfl | (split <;> rfl)

/-- Every sensor stands at its own handle, and its samples are those its loop has posted. -/
def Service.Sampled (s : Service N ρ) : Prop :=
  ∀ h d, s.mSensors[h]? = some d →
    d.sensorHandle = h ∧ (samplesOf h s.posts).length = d.loop.posted.length

theorem sampled_construct {mStopThread : Handle → Bool} {classes : List (SensorClass N)}
    (hlen : classes.length < 2 ^ 32) :
    (Service.construct (ρ := ρ) mStopThread classes).Sampled := by
  intro h d hget
  rw [construct_get hlen] at hget
  obtain ⟨c, -, rfl⟩ := Option.map_eq_some_iff.mp hget
  exact ⟨rfl, rfl⟩

section Samples

variable [Zero N] {numbers : CNumbers N} {fe : FrontEnd ρ}

/-- A sample is one event, with the handle and the type of its sensor. -/
theorem postSample_events {v : Variant} {d : Device N} {timestamp : Int}
    {file : Option (List UInt8)} {post : PostEvents N}
    (h : d.postSample numbers v timestamp file = some post) :
    ∃ e, post = ⟨[.data e], d.isWakeUpSensor⟩ ∧ e.sensorHandle = d.sensorHandle.toInt ∧
      e.sensorType = d.info.type := by
  obtain ⟨events, hread, rfl⟩ := Option.map_eq_some_iff.mp h
  obtain ⟨payload, -, hevents⟩ := Option.bind_eq_some_iff.mp hread
  cases hevents
  exact ⟨_, rfl, rfl, rfl⟩

/-- What an iteration of the sensor `k` posts are samples of that sensor. -/
theorem samplesOf_iterated {v : Variant} {d : Device N} {loop : Loop} {posts : List (PostEvents N)}
    (hposts : (posts = [] ∧ loop.posted = d.loop.posted) ∨
      ∃ post, posts = [post] ∧ d.Sampled numbers v loop post) (h : Handle) :
    (samplesOf h posts).length =
      if d.sensorHandle = h then loop.posted.length - d.loop.posted.length else 0 := by
  rcases hposts with ⟨rfl, hsame⟩ | ⟨post, rfl, -, ⟨p, hmore⟩, timestamp, file, hread⟩
  · rw [hsame, Nat.sub_self, ite_self]
    rfl
  · obtain ⟨e, rfl, hhandle, -⟩ := postSample_events hread
    rw [hmore, List.length_append, List.length_singleton, Nat.add_sub_cancel_left]
    by_cases heq : d.sensorHandle = h
    · rw [if_pos heq]
      simp [samplesOf, SensorEvent.sampleOf, hhandle, heq]
    · -- handles that differ are different as the `int32_t` of the event, too
      rw [if_neg heq]
      have hne : e.sensorHandle ≠ h.toInt := by
        rw [hhandle]
        exact fun hsame => heq (BitVec.eq_of_toInt_eq hsame)
      simp [samplesOf, SensorEvent.sampleOf, hne]

theorem sampled_step {s t : Service N ρ} {a : ServiceAct} (hs : s.Sampled)
    (hstep : s.step numbers fe a = some t) : t.Sampled := by
  intro h d' hget'
  rcases Service.step_cases hstep with c | ⟨hk, hloop, hposts⟩
  · -- a call adds no sample on either side
    dsimp only at hget' ⊢
    rw [call_get] at hget'
    obtain ⟨d, hget, rfl⟩ := Option.map_eq_some_iff.mp hget'
    obtain ⟨hhandle, hcount⟩ := hs h d hget
    refine ⟨(afterCall_took fe h c d).sensorHandle.trans hhandle, ?_⟩
    rw [samplesOf_append, samplesOf_call, List.append_nil, afterCall_posted]
    exact hcount
  · -- an iteration of `k` adds as many on both, and none for another sensor
    rename_i k _ _ _ _ d loop posts
    obtain ⟨hhandle, hcount⟩ := hs k d hk
    dsimp only at hget' ⊢
    rw [insert_get] at hget'
    rw [samplesOf_append, List.length_append, samplesOf_iterated hposts, hhandle]
    split at hget'
    · next heq =>
        cases hget'
        subst heq
        have hgrows : d.loop.posted.length ≤ loop.posted.length := by
          rcases runIteration_posted hloop with hsame | ⟨-, p, hmore⟩
          · rw [hsame]
          · rw [hmore, List.length_append]
            omega
        refine ⟨hhandle, ?_⟩
        rw [if_pos rfl, hcount]
        dsimp only
        omega
    · next hne =>
        rw [if_neg hne]
        exact hs h d' hget'

theorem sampled_of_run {mStopThread : Handle → Bool} {classes : List (SensorClass N)}
    (hlen : classes.length < 2 ^ 32) {as : List ServiceAct} {t : Service N ρ}
    (hrun : (service numbers fe classes).run (.construct mStopThread classes) as = some t) :
    t.Sampled :=
  (service numbers fe classes).run_invariant (P := Service.Sampled) (G := fun _ _ => True)
    (fun _ _ _ hs _ hstep => sampled_step hs hstep) (sampled_construct hlen)
    (fun _ _ _ _ => trivial) hrun

end Samples

/-! ## Runs -/

section Runs

variable [Zero N] {numbers : CNumbers N} {fe : FrontEnd ρ}
  {mStopThread : Handle → Bool} {classes : List (SensorClass N)} {as : List ServiceAct}
  {t : Service N ρ}

/-- The sensor with a handle, after a run. -/
theorem device_of_run (hlen : classes.length < 2 ^ 32)
    (hrun : (service numbers fe classes).run (.construct mStopThread classes) as = some t)
    {h : Handle} {c : SensorClass N} (hc : classAt classes h = some c) :
    ∃ d, t.mSensors[h]? = some d ∧ d.info = c ∧
      (samplingLoop fe.variant c.delays).run (.start (mStopThread h))
        (as.flatMap (loopActs fe h)) = some d.loop := by
  have hstart : (loopSimulation numbers fe hlen hc).Rel (.construct mStopThread classes)
      (.start (mStopThread h)) := by
    refine ⟨⟨h, c, .start (mStopThread h)⟩, ?_, rfl, rfl⟩
    rw [construct_get hlen, hc]
    rfl
  obtain ⟨x, hloop, d, hget, hinfo, rfl⟩ := (loopSimulation numbers fe hlen hc).run hstart hrun
  exact ⟨d, hget, hinfo, hloop⟩

theorem get_none_of_run (hlen : classes.length < 2 ^ 32)
    (hrun : (service numbers fe classes).run (.construct mStopThread classes) as = some t)
    {h : Handle} (hc : classAt classes h = none) : t.mSensors[h]? = none := by
  have hstart : (Service.construct (ρ := ρ) mStopThread classes).mSensors[h]? = none := by
    rw [construct_get hlen, hc]
    rfl
  exact (service numbers fe classes).run_invariant (P := fun s => s.mSensors[h]? = none)
    (G := fun _ _ => True) (fun _ _ _ hs _ hstep => step_get_none hstep hs) hstart
    (fun _ _ _ _ => trivial) hrun

/-- What stands at a handle: a sensor of the class the handle was given to, which the calls so far
have left enabled or not. -/
theorem get_of_run (hlen : classes.length < 2 ^ 32)
    (hrun : (service numbers fe classes).run (.construct mStopThread classes) as = some t)
    {h : Handle} {d : Device N} (hget : t.mSensors[h]? = some d) :
    classAt classes h = some d.info ∧ d.sensorHandle = h ∧
      d.loop.sensor.mIsEnabled = enabledBy (as.flatMap (loopActs fe h)) := by
  cases hc : classAt classes h with
  | none =>
      rw [get_none_of_run hlen hrun hc] at hget
      exact nomatch hget
  | some c =>
      obtain ⟨e, hsome, rfl, hloop⟩ := device_of_run hlen hrun hc
      rw [hget, Option.some.injEq] at hsome
      subst hsome
      exact ⟨rfl, (sampled_of_run hlen hrun h d hget).1, Loop.run_enabled hloop⟩

/-- Seen from one sensor, a run of a service is a run of its sampling loop under the calls for it
and its own iterations alone: the period, whether it is enabled and when it samples do not depend on
calls for other sensors, of unknown handles or of other methods.  The service posts one sample of it
for each sample of the loop, and two of them are apart by the period in force at the later one. -/
theorem sensors_independent (hlen : classes.length < 2 ^ 32)
    (hrun : (service numbers fe classes).run (.construct mStopThread classes) as = some t)
    {h : Handle} {c : SensorClass N} (hc : classAt classes h = some c) :
    ∃ d, t.mSensors[h]? = some d ∧ d.info = c ∧
      (samplingLoop fe.variant c.delays).run (.start (mStopThread h))
        (as.flatMap (loopActs fe h)) = some d.loop ∧
      (samplesOf h t.posts).length = d.loop.posted.length ∧
      d.loop.posted.IsChain (fun earlier later => earlier.time + later.period ≤ later.time) := by
  obtain ⟨d, hget, hinfo, hloop⟩ := device_of_run hlen hrun hc
  have hreach : (samplingLoop fe.variant c.delays).Reach d.loop :=
    .of_run (.start ⟨mStopThread h, rfl⟩) hloop
  exact ⟨d, hget, hinfo, hloop, (sampled_of_run hlen hrun h d hget).2,
    (Loop.paced_of_reach hreach).apart⟩

end Runs

/-- The first sensor samples twice, 20 ms apart, while the second one does as it is told. -/
theorem sensors_independent_two :
    let classes : List (SensorClass Int) := [smi240Accel 1, smi240Gyro 1]
    let as : List ServiceAct :=
      [.call (.batch 1 20000000 0), .call (.activate 1 true), .call (.activate 2 true),
        .iterate 2 1 0 7 none, .iterate 1 1 0 8 none, .call (.batch 2 0 0),
        .call (.activate 2 false), .call (.flush 1), .iterate 1 1 20000000 9 none]
    ∃ t d, (service (.ofParse fun _ => none) aidl classes).run
        (.construct (fun _ => false) classes) as = some t ∧
      t.mSensors[(1 : Handle)]? = some d ∧ (samplesOf 1 t.posts).length = 2 ∧
      (samplingLoop .aidl smi240Delays).run (.start false)
        [.batch 20000000, .activate true, .iterate 1 0, .iterate 1 20000000] = some d.loop := by
  intro classes as
  have hsome : ((service (.ofParse fun _ => none) aidl classes).run
      (.construct (fun _ => false) classes) as).isSome = true := rfl
  obtain ⟨t, hrun⟩ := Option.isSome_iff_exists.mp hsome
  obtain ⟨d, hget, -, hloop, hcount, -⟩ := sensors_independent (h := 1) (by decide) hrun rfl
  refine ⟨t, d, hrun, hget, hcount.trans ?_, hloop⟩
  have hposted := congrArg (Option.map fun loop : Loop => loop.posted.length) hloop
  exact (Option.some.inj hposted).symm

end Smi240Hal.Services
