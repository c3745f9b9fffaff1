/-
# Smi240Hal.Services.Framework — the sensors behind the proxy, as the framework sees them

Each sub-HAL follows the proxy under the calls routed to it, and each sensor follows its sub-HAL; so
a sensor behind the proxy is alone with its loop too, under the calls for the handle the framework
has for it.  `initializeCommon` is one more call to disable it, as `initialize` is of a direct HAL:
the framework cannot tell the two from what it hears of a sensor.
-/
import Smi240Hal.Services.HalProxy

namespace Smi240Hal.Services

open Smi240Hal.Lib Smi240Hal.Sampling
open Smi240Hal.MultiHal (Handle Result OperationMode SensorTables SubHalCall)

variable {N : Type}

/-! ## One sub-HAL -/

/-- What an action of the proxy comes to for the sub-HAL `i`. -/
def subHalActs (subHalCount : Nat) (i : Nat) (classes : List (SensorClass N)) :
    ProxyAct → List ServiceAct
  | .call c => callsFor i (routed subHalCount c)
  | .stopThreads => []
  | .initializeCommon =>
      (ownHandles classes).map (fun h => .call (.activate h false)) ++
        [.call (.initializeBase true)]
  | .iterate subHalIndex sensorHandle tv_sec tv_nsec timestamp file =>
      if subHalIndex = i then [.iterate sensorHandle tv_sec tv_nsec timestamp file] else []

/-- Disabling a list of handles, seen from one sub-HAL. -/
theorem callsFor_disable {subHalCount i : Nat} (hi : i < subHalCount) (hs : List Handle) :
    (hs.flatMap fun h => callsFor i (routed subHalCount (.activate h false))) =
      ((hs.filter fun h => MultiHal.extractSubHalIndex h = i).map
        MultiHal.clearSubHalIndex).map fun h => .call (.activate h false) := by
  induction hs with
  | nil => rfl
  | cons h hs ih =>
      rw [List.flatMap_cons, ih, List.filter_cons]
      by_cases heq : MultiHal.extractSubHalIndex h = i
      · have hone : callsFor i (routed subHalCount (.activate h false)) =
            [.call (.activate (MultiHal.clearSubHalIndex h) false)] := by
          simp [routed, routedTo, callsFor, subHalCall, heq, hi]
        rw [if_pos (decide_eq_true heq), hone]
        rfl
      · have hnone : callsFor i (routed subHalCount (.activate h false)) = [] := by
          rw [routed, routedTo]
          split <;> simp [callsFor, heq]
        rw [if_neg (by simpa using heq), hnone, List.nil_append]

section Steps

variable [Zero N] {layout : SensorEvent N → MultiHal.Event}
  {numbers : CNumbers N} {subHals : List (List (SensorClass N))}

/-- Disabling sensors, each through its route. -/
theorem disable_moved (hfits : Fits subHals) (hs : List Handle) {s t : HalProxy N}
    (hok : s.Ok numbers subHals)
    (h : hs.foldlM (fun s h => s.route layout numbers (MultiHal.activate s.reply s.tables h false).2)
      s = some t) :
    s.Moved numbers
      (fun i => hs.flatMap fun h => callsFor i (routed subHals.length (.activate h false))) t := by
  induction hs generalizing s with
  | nil =>
      cases h
      exact .refl _
  | cons k hs ih =>
      obtain ⟨u, hu, hrest⟩ := Option.bind_eq_some_iff.mp h
      have hcalls := outcome_calls hok (.activate k false)
      have hmoved := route_moved hfits _ hok hu
      rw [show (MultiHal.activate s.reply s.tables k false).2 =
        routed subHals.length (.activate k false) from hcalls] at hmoved
      exact hmoved.trans (ih (hmoved.ok hok) hrest)

/-- The same call to each of the sub-HALs. -/
theorem each_moved (hfits : Fits subHals) (a : ServiceAct) (n : Nat) {s t : HalProxy N}
    (hok : s.Ok numbers subHals)
    (h : (List.range n).foldlM (fun s i => s.perform layout numbers i a) s = some t) :
    s.Moved numbers (fun i => if i < n then [a] else []) t := by
  induction n generalizing t with
  | zero =>
      cases h
      exact .refl _
  | succ n ih =>
      rw [List.range_succ, List.foldlM_append] at h
      obtain ⟨u, hu, hlast⟩ := Option.bind_eq_some_iff.mp h
      have hmoved := ih hu
      obtain ⟨w, hw, hdone⟩ := Option.bind_eq_some_iff.mp hlast
      cases hdone
      have hall := hmoved.trans (perform_moved hfits (hmoved.ok hok) hw)
      have hacts : (fun i => if i < n + 1 then [a] else []) =
          fun i => (if i < n then [a] else []) ++ if n = i then [a] else [] := by
        funext i
        rcases Nat.lt_trichotomy i n with hlt | rfl | hgt
        · rw [if_pos hlt, if_pos (by omega), if_neg (by omega), List.append_nil]
        · rw [if_neg (Nat.lt_irrefl _), if_pos (by omega), if_pos rfl, List.nil_append]
        · rw [if_neg (by omega), if_neg (by omega), if_neg (by omega), List.append_nil]
      rw [hacts]
      exact hall

/-- A sub-HAL goes from the one to the other. -/
def SubHalRun (numbers : CNumbers N) (i : Nat) (as : List ServiceAct)
    (s t : HalProxy N) : Prop :=
  ∀ x, s.mSubHalList[i]? = some x → ∃ y, t.mSubHalList[i]? = some y ∧
    ∀ classes, (service numbers subHal classes).run x as = some y

/-- The sub-HALs refuse any other mode, so `HalProxy` stays in `NORMAL` as well. -/
theorem modeAfter_normal {s : HalProxy N} (hok : s.Ok numbers subHals) (c : ProxyCall)
    (hsome : subHals ≠ []) : s.modeAfter c = .NORMAL := by
  have hmode := hok.mode hsome
  cases c with
  | setOperationMode mode =>
      obtain ⟨x, rest, hlist⟩ := List.exists_cons_of_length_pos
        (hok.count ▸ List.length_pos_iff.mpr hsome)
      simp only [HalProxy.modeAfter, HalProxy.setOperationMode, hlist, List.map_cons, hmode]
      cases mode with
      | DATA_INJECTION => rfl
      | NORMAL =>
          unfold MultiHal.setOperationMode
          dsimp only
          split <;> rfl
  | activate | batch | flush | injectSensorData => exact hmode

theorem ok_restart {s : HalProxy N} (hok : s.Ok numbers subHals) : s.restart.Ok numbers subHals :=
  ⟨⟨hok.tables.count, rfl, hok.tables.mem, hok.tables.wakeUp⟩, fun _ => rfl, rfl, hok.count,
    hok.services⟩

/-- What a step does to one sub-HAL. -/
theorem step_subHal (hfits : Fits subHals) {s t : HalProxy N} (hok : s.Ok numbers subHals)
    {a : ProxyAct} (hstep : s.step layout numbers a = some t) :
    t.Ok numbers subHals ∧ ∀ i classes, subHals[i]? = some classes →
      SubHalRun numbers i (subHalActs subHals.length i classes a) s t := by
  cases a with
  | call c =>
      simp only [HalProxy.step] at hstep
      split at hstep
      · exact nomatch hstep
      · obtain ⟨u, hu, hlast⟩ := Option.bind_eq_some_iff.mp hstep
        cases hlast
        have hmoved := route_moved hfits _ hok hu
        rw [outcome_calls hok] at hmoved
        have hok' := hmoved.ok hok
        exact ⟨⟨hok'.tables, modeAfter_normal hok c, hok'.threads, hok'.count, hok'.services⟩,
          fun i classes _ => hmoved.services i⟩
  | stopThreads =>
      simp only [HalProxy.step] at hstep
      split at hstep
      · exact nomatch hstep
      · cases hstep
        exact ⟨⟨hok.tables, hok.mode, (Bool.and_false _).symm, hok.count, hok.services⟩,
          fun i classes _ x hx => ⟨x, hx, fun _ => rfl⟩⟩
  | initializeCommon =>
      simp only [HalProxy.step] at hstep
      split at hstep
      · obtain ⟨u, hu, hrest⟩ := Option.bind_eq_some_iff.mp hstep
        have hdisabled := disable_moved hfits _ hok hu
        have hok' := hdisabled.ok hok
        have hrestarted := ok_restart hok'
        have heach := each_moved hfits _ _ hrestarted hrest
        refine ⟨heach.ok hrestarted, fun i classes hi x hx => ?_⟩
        obtain ⟨y, hy, hrun⟩ := hdisabled.services i x hx
        obtain ⟨z, hz, hrun'⟩ := heach.services i y hy
        refine ⟨z, hz, fun classes' => ?_⟩
        have hlt : i < subHals.length := (List.getElem?_eq_some_iff.mp hi).1
        have hhandles : s.tables.disableAllSensorsHandles = s.tables.mSensors.keys := by
          rw [SensorTables.disableAllSensorsHandles, hok.tables.dynamic]
          exact List.append_nil _
        have hown := hrun classes'
        rw [hhandles, callsFor_disable hlt, keys_of_subHal hfits hok.tables hi] at hown
        have hlast := hrun' classes'
        rw [if_pos (hok'.count ▸ hlt)] at hlast
        rw [subHalActs, Machine.run_append, hown]
        exact hlast
      · exact nomatch hstep
  | iterate j k tv_sec tv_nsec timestamp file =>
      have hmoved := perform_moved hfits hok hstep
      exact ⟨hmoved.ok hok, fun i classes _ => hmoved.services i⟩

end Steps

/-! ## The simulations -/

section Simulations

variable [Zero N] (layout : SensorEvent N → MultiHal.Event)
  (numbers : CNumbers N) {subHals : List (List (SensorClass N))} (hfits : Fits subHals)

include hfits in
theorem ok_construct (mStopThread : Nat → Handle → Bool) :
    (HalProxy.construct mStopThread subHals).Ok numbers subHals := by
  refine ⟨listsSensors_construct hfits mStopThread, fun _ => rfl, rfl, ?_, fun i x hx => ?_⟩
  · simp [HalProxy.construct]
  · rw [construct_subHal] at hx
    obtain ⟨classes, hclasses, rfl⟩ := Option.map_eq_some_iff.mp hx
    exact ⟨classes, mStopThread i, [], hclasses, rfl⟩

variable {i : Nat} {classes : List (SensorClass N)} (hi : subHals[i]? = some classes)

/-- A sub-HAL follows the proxy. -/
def subHalSimulation :
    Simulation (halProxy layout numbers subHals) (service numbers subHal classes) where
  Rel s x := s.Ok numbers subHals ∧ s.mSubHalList[i]? = some x
  label := subHalActs subHals.length i classes
  start := by
    rintro s ⟨mStopThread, rfl⟩
    refine ⟨.construct (mStopThread i) classes, ⟨mStopThread i, rfl⟩,
      ok_construct numbers hfits mStopThread, ?_⟩
    rw [construct_subHal, hi]
    rfl
  step := by
    rintro s a t x ⟨hok, hx⟩ hstep
    obtain ⟨hok', hrun⟩ := step_subHal hfits hok hstep
    obtain ⟨y, hy, hacts⟩ := hrun i classes hi x hx
    exact ⟨y, hacts classes, hok', hy⟩

/-- The actions of the loop of a sensor, by the handle the framework has for it. -/
def frameworkActs (i : Nat) (h : Handle) : ProxyAct → List LoopAct
  | .call (.activate sensorHandle enabled) =>
      if sensorHandle = MultiHal.setSubHalIndex h i then [.activate enabled] else []
  | .call (.batch sensorHandle samplingPeriodNs _) =>
      if sensorHandle = MultiHal.setSubHalIndex h i then [.batch samplingPeriodNs] else []
  | .initializeCommon => [.activate false]
  | .iterate subHalIndex sensorHandle tv_sec tv_nsec _ _ =>
      if subHalIndex = i ∧ sensorHandle = h then [.iterate tv_sec tv_nsec] else []
  | _ => []

end Simulations

/-- A call goes to the sub-HAL `i` for its handle `h` exactly if it is for the handle made of the
two. -/
theorem routed_iff {subHalCount i : Nat} {h k : Handle} (hcount : subHalCount ≤ 128)
    (hi : i < subHalCount) (hclear : MultiHal.subHalIndexIsClear h = true) :
    (MultiHal.extractSubHalIndex k < subHalCount ∧ MultiHal.extractSubHalIndex k = i ∧
      MultiHal.clearSubHalIndex k = h) ↔ k = MultiHal.setSubHalIndex h i := by
  constructor
  · rintro ⟨hvalid, rfl, rfl⟩
    have hpos : k.toNat < 2 ^ 31 := by
      by_contra hneg
      have hlarge := MultiHal.extractSubHalIndex_of_neg (Nat.le_of_not_lt hneg)
      omega
    rw [MultiHal.extractSubHalIndex_of_nonneg hpos]
    exact (MultiHal.setSubHalIndex_clear k).2.symm
  · rintro rfl
    obtain ⟨hextract, hown⟩ := MultiHal.decode_setSubHalIndex hclear (show i < 128 by omega)
    rw [hextract]
    exact ⟨hi, rfl, hown⟩

/-- What a routed call comes to for the loop of one sensor. -/
theorem routedTo_loopActs {subHalCount i : Nat} {h k : Handle} (hcount : subHalCount ≤ 128)
    (hi : i < subHalCount) (hclear : MultiHal.subHalIndexIsClear h = true)
    (call : Handle → SubHalCall) (act : LoopAct)
    (hact : ∀ own, loopActs subHal h (.call (subHalCall (call own))) =
      if own = h then [act] else []) :
    (callsFor i (routedTo subHalCount k call)).flatMap (loopActs subHal h) =
      if k = MultiHal.setSubHalIndex h i then [act] else [] := by
  have hiff := routed_iff (k := k) hcount hi hclear
  unfold routedTo callsFor
  by_cases hvalid : MultiHal.extractSubHalIndex k < subHalCount
  · by_cases hsub : MultiHal.extractSubHalIndex k = i
    · rw [if_pos hvalid, List.flatMap_singleton, if_pos hsub, List.flatMap_singleton, hact]
      by_cases hown : MultiHal.clearSubHalIndex k = h
      · rw [if_pos hown, if_pos (hiff.mp ⟨hvalid, hsub, hown⟩)]
      · rw [if_neg hown, if_neg fun hk => hown (hiff.mpr hk).2.2]
    · rw [if_pos hvalid, List.flatMap_singleton, if_neg hsub,
        if_neg fun hk => hsub (hiff.mpr hk).2.1]
      rfl
  · rw [if_neg hvalid, if_neg fun hk => hvalid (hiff.mpr hk).1]
    rfl

/-- A call that is none of the loop's comes to nothing. -/
theorem routedTo_nothing {subHalCount i : Nat} {h k : Handle} {call : Handle → SubHalCall}
    (hnone : ∀ own, loopActs subHal h (.call (subHalCall (call own))) = []) :
    (callsFor i (routedTo subHalCount k call)).flatMap (loopActs subHal h) = [] := by
  unfold routedTo callsFor
  split
  · rw [List.flatMap_singleton]
    split
    · rw [List.flatMap_singleton, hnone]
    · rfl
  · rfl

theorem flatMap_ite_eq {α β : Type} [DecidableEq α] (l : List α) (a : α) (b : β) :
    (l.flatMap fun x => if x = a then [b] else []) = List.replicate (l.count a) b := by
  induction l with
  | nil => rfl
  | cons x l ih =>
      rw [List.flatMap_cons, ih, List.count_cons]
      by_cases hx : x = a
      · rw [if_pos hx, if_pos (beq_iff_eq.mpr hx), List.replicate_succ]
        rfl
      · rw [if_neg hx, if_neg fun heq => hx (beq_iff_eq.mp heq)]
        rfl

/-- An iteration is of one thread. -/
theorem iterate_loopActs (i : Nat) (h : Handle) (j : Nat) (k : Handle)
    {tv_sec tv_nsec timestamp : Int} {file : Option (List UInt8)} :
    (if j = i then [ServiceAct.iterate k tv_sec tv_nsec timestamp file] else []).flatMap
        (loopActs subHal h) =
      if j = i ∧ k = h then [.iterate tv_sec tv_nsec] else [] := by
  by_cases hj : j = i
  · rw [if_pos hj, List.flatMap_singleton, loopActs]
    by_cases hk : k = h
    · rw [if_pos hk, if_pos (And.intro hj hk)]
    · rw [if_neg hk, if_neg fun hboth : j = i ∧ k = h => hk hboth.2]
  · rw [if_neg hj, if_neg fun hboth : j = i ∧ k = h => hj hboth.1]
    rfl

section Loops

variable {subHals : List (List (SensorClass N))} {i : Nat} {classes : List (SensorClass N)}
  {h : Handle} {c : SensorClass N}

/-- Through the proxy and its sub-HAL, the loop of a sensor gets what is for its handle. -/
theorem subHalActs_loopActs (hfits : Fits subHals) (hi : subHals[i]? = some classes)
    (hc : classAt classes h = some c) (a : ProxyAct) :
    (subHalActs subHals.length i classes a).flatMap (loopActs subHal h) =
      frameworkActs i h a := by
  have hcount := hfits.count
  obtain ⟨hlt, hclear⟩ := HasSensor.clear hfits ⟨classes, hi, hc⟩
  cases a with
  | call call =>
      cases call with
      | activate k enabled =>
          exact routedTo_loopActs hcount hlt hclear (.activate · enabled) (.activate enabled)
            fun _ => rfl
      | batch k samplingPeriodNs maxReportLatencyNs =>
          exact routedTo_loopActs hcount hlt hclear (.batch · samplingPeriodNs maxReportLatencyNs)
            (.batch samplingPeriodNs) fun _ => rfl
      | flush k => exact routedTo_nothing fun _ => rfl
      | setOperationMode mode => rfl
      | injectSensorData event =>
          simp only [subHalActs, routed]
          split
          · rfl
          · exact routedTo_nothing fun _ => rfl
  | stopThreads => rfl
  | initializeCommon =>
      have hlen := hfits.sensors classes (List.mem_of_getElem? hi)
      have hnodup : (ownHandles classes).Nodup :=
        (ownHandles_sorted hlen).imp fun hlt heq => Nat.ne_of_lt hlt (congrArg _ heq)
      have hone : (ownHandles classes).count h = 1 :=
        List.count_eq_one_of_mem hnodup ((mem_ownHandles hlen).mpr ⟨c, hc⟩)
      have hdisable : ((ownHandles classes).map fun k =>
          (.call (.activate k false) : ServiceAct)).flatMap (loopActs subHal h) =
            [.activate false] := by
        have hrepeat := flatMap_ite_eq (ownHandles classes) h (LoopAct.activate false)
        rw [hone] at hrepeat
        rw [List.flatMap_map]
        exact hrepeat
      have hlast : loopActs subHal h (.call (.initializeBase true)) = [] := rfl
      rw [subHalActs, List.flatMap_append, hdisable, List.flatMap_singleton, hlast]
      rfl
  | iterate j k tv_sec tv_nsec timestamp file =>
      exact iterate_loopActs i h j k

end Loops

/-! ## Runs -/

/-- An accelerometer in one sub-HAL and a gyroscope in another. -/
def twoSubHals : List (List (SensorClass Int)) := [[smi240Accel 1], [smi240Gyro 1]]

theorem twoSubHals_fit : Fits twoSubHals := ⟨by decide, by decide⟩

/-- The proxy started, and the gyroscope set to 20 ms and enabled. -/
def gyroEnabled : List ProxyAct :=
  [.stopThreads, .initializeCommon, .call (.batch 0x1000001 20000000 0),
    .call (.activate 0x1000001 true)]

/-- A run of the proxy over the two, with a property of its end. -/
def ProxyRun (as : List ProxyAct) (P : HalProxy Int → Prop) : Prop :=
  ∃ t, (halProxy (fun _ => ⟨0, 0, 0, 0, []⟩) (.ofParse fun _ => none) twoSubHals).run
    (.construct (fun _ _ => false) twoSubHals) as = some t ∧ P t

section Runs

variable [Zero N] {layout : SensorEvent N → MultiHal.Event}
  {numbers : CNumbers N} {subHals : List (List (SensorClass N))}
  {mStopThread : Nat → Handle → Bool} {as : List ProxyAct} {a : ProxyAct} {s t : HalProxy N}
  {i : Nat} {h : Handle} {c : SensorClass N}

theorem ok_of_run (hfits : Fits subHals)
    (hrun : (halProxy layout numbers subHals).run (.construct mStopThread subHals) as = some t) :
    t.Ok numbers subHals :=
  (halProxy layout numbers subHals).run_invariant (P := HalProxy.Ok numbers subHals)
    (G := fun _ _ => True) (fun _ _ _ hok _ hstep => (step_subHal hfits hok hstep).1)
    (ok_construct numbers hfits mStopThread) (fun _ _ _ _ => trivial) hrun

/-- The sensor of a sub-HAL, after a run of the proxy. -/
theorem device_behind_proxy (hfits : Fits subHals)
    (hrun : (halProxy layout numbers subHals).run (.construct mStopThread subHals) as = some t)
    (hsensor : HasSensor subHals i h c) :
    ∃ x d, t.mSubHalList[i]? = some x ∧ x.mSensors[h]? = some d ∧ d.info = c ∧
      (samplingLoop .multihal c.delays).run (.start (mStopThread i h))
        (as.flatMap (frameworkActs i h)) = some d.loop := by
  obtain ⟨classes, hi, hc⟩ := hsensor
  have hlen : classes.length < 2 ^ 32 := by
    have := hfits.sensors classes (List.mem_of_getElem? hi)
    omega
  -- the loop follows the sub-HAL, which follows the proxy
  let both := (loopSimulation numbers subHal hlen hc).comp (subHalSimulation layout numbers hfits hi)
  have hstart : both.Rel (.construct mStopThread subHals) (.start (mStopThread i h)) := by
    refine ⟨.construct (mStopThread i) classes, ⟨ok_construct numbers hfits mStopThread, ?_⟩,
      ⟨h, c, .start (mStopThread i h)⟩, ?_, rfl, rfl⟩
    · rw [construct_subHal, hi]
      rfl
    · rw [construct_get hlen, hc]
      rfl
  obtain ⟨loop, hloop, x, ⟨-, hx⟩, d, hd, hinfo, rfl⟩ := both.run hstart hrun
  refine ⟨x, d, hx, hd, hinfo, ?_⟩
  have hlabel : both.label = frameworkActs i h := by
    funext a
    exact subHalActs_loopActs hfits hi hc a
  rw [← hlabel]
  exact hloop

/-- A sensor behind the proxy, of any sub-HAL, is alone with its loop: what it does is what the loop
does under the calls of `activate` and `batch` for the handle the framework has for it and its own
iterations, with one call to disable it for each `initializeCommon`; and its samples are apart by the
period in force. -/
theorem sensors_independent_proxied (hfits : Fits subHals)
    (hrun : (halProxy layout numbers subHals).run (.construct mStopThread subHals) as = some t)
    (hsensor : HasSensor subHals i h c) :
    ∃ x d, t.mSubHalList[i]? = some x ∧ x.mSensors[h]? = some d ∧ d.info = c ∧
      (samplingLoop .multihal c.delays).run (.start (mStopThread i h))
        (as.flatMap (frameworkActs i h)) = some d.loop ∧
      d.loop.posted.IsChain (fun earlier later => earlier.time + later.period ≤ later.time) := by
  obtain ⟨x, d, hx, hd, hinfo, hloop⟩ := device_behind_proxy hfits hrun hsensor
  have hreach : (samplingLoop .multihal c.delays).Reach d.loop :=
    .of_run (.start ⟨mStopThread i h, rfl⟩) hloop
  exact ⟨x, d, hx, hd, hinfo, hloop, (Loop.paced_of_reach hreach).apart⟩

/-- The gyroscope samples as it is told by its handle. -/
theorem sensors_independent_proxied_gyro :
    ProxyRun (gyroEnabled ++ [.call (.activate 1 true), .iterate 1 1 1 0 7 none, .stopThreads,
      .iterate 1 1 1 20000000 7 none, .initializeCommon]) fun t =>
      ∃ x d, t.mSubHalList[1]? = some x ∧ x.mSensors[(1 : Handle)]? = some d ∧
        (samplingLoop .multihal smi240Delays).run (.start false)
          [.activate false, .batch 20000000, .activate true, .iterate 1 0, .iterate 1 20000000,
            .activate false] = some d.loop := by
  have hsome : ((halProxy (fun _ => ⟨0, 0, 0, 0, []⟩) (.ofParse fun _ => none) twoSubHals).run
      (.construct (fun _ _ => false) twoSubHals) (gyroEnabled ++ [.call (.activate 1 true),
        .iterate 1 1 1 0 7 none, .stopThreads, .iterate 1 1 1 20000000 7 none,
        .initializeCommon])).isSome = true := rfl
  obtain ⟨t, hrun⟩ := Option.isSome_iff_exists.mp hsome
  obtain ⟨x, d, hx, hd, -, hloop, -⟩ := sensors_independent_proxied (i := 1) (h := 1)
    (c := smi240Gyro 1) twoSubHals_fit hrun ⟨_, rfl, rfl⟩
  exact ⟨t, hrun, x, d, hx, hd, hloop⟩

/-- What a sub-HAL says of a sensor is what the calls of the framework have left. -/
theorem enabled_of_run (hfits : Fits subHals)
    (hrun : (halProxy layout numbers subHals).run (.construct mStopThread subHals) as = some t)
    {x : Service N Result} (hx : t.mSubHalList[i]? = some x) {d : Device N}
    (hd : x.mSensors[h]? = some d) :
    HasSensor subHals i h d.info ∧
      d.loop.sensor.mIsEnabled = enabledBy (as.flatMap (frameworkActs i h)) := by
  have hsensor := ((ok_of_run hfits hrun).sensor hfits hx hd).1
  obtain ⟨x', d', hx', hd', -, hloop⟩ := device_behind_proxy hfits hrun hsensor
  rw [hx, Option.some.injEq] at hx'
  subst hx'
  rw [hd, Option.some.injEq] at hd'
  subst hd'
  exact ⟨hsensor, Loop.run_enabled hloop⟩

end Runs

/-! ## What the framework hears -/

/-- A flush for the handle made of the two, or an iteration of the thread of that sensor. -/
def ProxyAct.PostsFor (i : Nat) (h : Handle) (a : ProxyAct) : Prop :=
  a = .call (.flush (MultiHal.setSubHalIndex h i)) ∨
    ∃ tv_sec tv_nsec timestamp file, a = .iterate i h tv_sec tv_nsec timestamp file

/-- A routed call that posts is a flush. -/
theorem flush_of_postsFor {call : SubHalCall} {k : Handle}
    (h : ServiceAct.PostsFor k (.call (subHalCall call))) : call = .flush k := by
  rcases h with hflush | ⟨_, _, _, _, hiterate⟩
  · cases call with
    | flush k' =>
        cases hflush
        rfl
    | activate | batch | injectSensorData => exact nomatch hflush
  · exact nomatch hiterate

/-- The routed call of a call of the framework: one at most. -/
theorem routed_cases (subHalCount : Nat) (c : ProxyCall) :
    routed subHalCount c = [] ∨
      ∃ k call, routed subHalCount c = [(MultiHal.extractSubHalIndex k, call)] ∧
        MultiHal.extractSubHalIndex k < subHalCount ∧
        ∀ own, call = .flush own → c = .flush k ∧ own = MultiHal.clearSubHalIndex k := by
  have hone : ∀ (k : Handle) (call : Handle → SubHalCall),
      (∀ own own', call own = .flush own' → c = .flush k ∧ own' = own) →
      routedTo subHalCount k call = [] ∨
        ∃ k' call', routedTo subHalCount k call = [(MultiHal.extractSubHalIndex k', call')] ∧
          MultiHal.extractSubHalIndex k' < subHalCount ∧
          ∀ own, call' = .flush own → c = .flush k' ∧ own = MultiHal.clearSubHalIndex k' := by
    intro k call hflush
    by_cases hvalid : MultiHal.extractSubHalIndex k < subHalCount
    · exact Or.inr ⟨k, _, if_pos hvalid, hvalid, fun own heq => hflush _ own heq⟩
    · exact Or.inl (if_neg hvalid)
  cases c with
  | activate k enabled =>
      apply hone k (.activate · enabled)
      intro own own' heq
      cases heq
  | batch k samplingPeriodNs maxReportLatencyNs =>
      apply hone k (.batch · samplingPeriodNs maxReportLatencyNs)
      intro own own' heq
      cases heq
  | flush k =>
      apply hone k .flush
      intro own own' heq
      cases heq
      exact ⟨rfl, rfl⟩
  | setOperationMode mode => exact Or.inl rfl
  | injectSensorData event =>
      simp only [routed]
      split
      · exact Or.inl rfl
      · apply hone event.sensorHandle
          (fun own => .injectSensorData { event with sensorHandle := own })
        intro own own' heq
        cases heq

/-- After these actions a flush for the handle is granted: it is the handle of a sensor that is no
one-shot sensor and that the calls of the framework have left enabled. -/
def GrantsProxied (subHals : List (List (SensorClass N))) (before : List ProxyAct)
    (sensorHandle : Handle) : Prop :=
  ∃ i h c, sensorHandle = MultiHal.setSubHalIndex h i ∧ HasSensor subHals i h c ∧
    c.flags &&& ONE_SHOT_MODE = 0 ∧ enabledBy (before.flatMap (frameworkActs i h)) = true

/-- What the proxy grants is what the sub-HAL grants under its own handle. -/
theorem grantsProxied_iff {subHals : List (List (SensorClass N))} {as : List ProxyAct}
    (hfits : Fits subHals) {k : Handle}
    (hvalid : MultiHal.extractSubHalIndex k < subHals.length) {classes : List (SensorClass N)}
    (hi : subHals[MultiHal.extractSubHalIndex k]? = some classes) :
    GrantsProxied subHals as k ↔ Grants subHal classes
      (as.flatMap (subHalActs subHals.length (MultiHal.extractSubHalIndex k) classes))
      (MultiHal.clearSubHalIndex k) := by
  have hacts {c : SensorClass N} (hc : classAt classes (MultiHal.clearSubHalIndex k) = some c) :
      (as.flatMap (subHalActs subHals.length (MultiHal.extractSubHalIndex k) classes)).flatMap
          (loopActs subHal (MultiHal.clearSubHalIndex k)) =
        as.flatMap (frameworkActs (MultiHal.extractSubHalIndex k)
          (MultiHal.clearSubHalIndex k)) := by
    rw [List.flatMap_assoc]
    congr 1
    funext a
    exact subHalActs_loopActs hfits hi hc a
  constructor
  · rintro ⟨i, h, c, hk, hsensor, honeShot, henabled⟩
    obtain ⟨hlt, hclear⟩ := hsensor.clear hfits
    obtain ⟨-, rfl, rfl⟩ := (routed_iff hfits.count hlt hclear).mpr hk
    obtain ⟨classes', hclasses', hc⟩ := hsensor
    rw [hi, Option.some.injEq] at hclasses'
    subst hclasses'
    exact ⟨c, hc, honeShot, (congrArg enabledBy (hacts hc)).trans henabled⟩
  · rintro ⟨c, hc, honeShot, henabled⟩
    have hclear := (MultiHal.setSubHalIndex_clear k).1
    exact ⟨_, _, c, (routed_iff hfits.count hvalid hclear).mp ⟨hvalid, rfl, rfl⟩, ⟨classes, hi, hc⟩,
      honeShot, (congrArg enabledBy (hacts hc)).symm.trans henabled⟩

/-- Between the steps of `initializeCommon` a post goes out, if it goes anywhere. -/
theorem postEvents_complete {layout : SensorEvent N → MultiHal.Event} {s t : HalProxy N} {i : Nat}
    {own : Handle} {wakeup : Bool}
    (hthreads : s.mThreadsRun = (s.callbacks && !s.initializing)) (hidle : s.initializing = false)
    (h : s.postEvents layout i ⟨[.flushComplete own.toInt], wakeup⟩ = some t) :
    t.answers = s.answers ∧ ∃ e n, t.posted = s.posted ++ [([e], n)] ∧
      e.sensorHandle = MultiHal.setSubHalIndex own i ∧ e.sensorType = META_DATA := by
  unfold HalProxy.postEvents at h
  split at h
  · exact nomatch h
  · next hcallbacks =>
      have hset : s.callbacks = true := by simpa using hcallbacks
      have hrun : s.mThreadsRun = true := by
        rw [hthreads, hidle, hset]
        rfl
      rw [hrun, MultiHal.processEvents_eq] at h
      cases h
      refine ⟨rfl, _, _, rfl, ?_, rfl⟩
      rw [MultiHal.processedEvent_sensorHandle]
      exact congrArg (MultiHal.setSubHalIndex · i) (BitVec.ofInt_toInt ..)

section Posts

variable [Zero N] {layout : SensorEvent N → MultiHal.Event}
  {numbers : CNumbers N} {subHals : List (List (SensorClass N))}
  {mStopThread : Nat → Handle → Bool} {as : List ProxyAct} {a : ProxyAct} {s t : HalProxy N}

/-- A step posts nothing, or one event of an enabled sensor. -/
theorem step_posted (hfits : Fits subHals) (hok : s.Ok numbers subHals)
    (hstep : s.step layout numbers a = some t) :
    t.posted = s.posted ∨ ∃ i h x d batch, s.mSubHalList[i]? = some x ∧ x.mSensors[h]? = some d ∧
      d.loop.sensor.mIsEnabled = true ∧ a.PostsFor i h ∧ t.posted = s.posted ++ [batch] ∧
      PostedFor subHals i h batch := by
  cases a with
  | call c =>
      simp only [HalProxy.step] at hstep
      split at hstep
      · exact nomatch hstep
      · obtain ⟨u, hu, hlast⟩ := Option.bind_eq_some_iff.mp hstep
        cases hlast
        rw [outcome_calls hok] at hu
        rcases routed_cases subHals.length c with hnone | ⟨H, call, hone, hvalid, hflush⟩
        · rw [hnone] at hu
          cases hu
          exact Or.inl rfl
        · rw [hone] at hu
          obtain ⟨w, hw, hdone⟩ := Option.bind_eq_some_iff.mp hu
          cases hdone
          obtain ⟨x, y, hx, -, -, hposted⟩ := perform_cases hfits hok hw
          rcases hposted with hsame | ⟨-, k, d, batch, hd, hon, hpost, hbatch, hfor⟩
          · exact Or.inl hsame
          · refine Or.inr ⟨_, k, x, d, batch, hx, hd, hon, Or.inl ?_, hbatch, hfor⟩
            obtain ⟨rfl, hown⟩ := hflush k (flush_of_postsFor hpost)
            have hclear := ((hok.sensor hfits hx hd).1.clear hfits).2
            rw [← (routed_iff hfits.count hvalid hclear).mp ⟨hvalid, rfl, hown.symm⟩]
  | stopThreads =>
      simp only [HalProxy.step] at hstep
      split at hstep
      · exact nomatch hstep
      · cases hstep
        exact Or.inl rfl
  | initializeCommon =>
      simp only [HalProxy.step] at hstep
      split at hstep
      · next hinitializing =>
          obtain ⟨u, hu, hrest⟩ := Option.bind_eq_some_iff.mp hstep
          have hdisabled := disable_moved hfits _ hok hu
          have heach := each_moved hfits _ _ (ok_restart (hdisabled.ok hok)) hrest
          have hstopped : s.mThreadsRun = false := by
            rw [hok.threads, hinitializing]
            exact Bool.and_false _
          refine Or.inl ((heach.silent (Or.inr ?_)).trans (hdisabled.silent (Or.inl hstopped)))
          intro i b hb k hposts
          split at hb
          · rw [List.mem_singleton.mp hb] at hposts
            rcases hposts with hflush | ⟨_, _, _, _, hiterate⟩
            · exact nomatch hflush
            · exact nomatch hiterate
          · exact absurd hb List.not_mem_nil
      · exact nomatch hstep
  | iterate i h tv_sec tv_nsec timestamp file =>
      obtain ⟨x, y, hx, -, -, hposted⟩ := perform_cases hfits hok hstep
      rcases hposted with hsame | ⟨-, k, d, batch, hd, hon, hpost, hbatch, hfor⟩
      · exact Or.inl hsame
      · refine Or.inr ⟨i, k, x, d, batch, hx, hd, hon, Or.inr ?_, hbatch, hfor⟩
        rcases hpost with hflush | ⟨_, _, _, _, hiterate⟩
        · exact nomatch hflush
        · cases hiterate
          exact ⟨_, _, _, _, rfl⟩

/-- After any run of the proxy, an action hands nothing on to the event queue, or it is a flush for a
handle or an iteration of the thread of that sensor, and hands one event on: under that handle, which
is in the list the framework was given, of a sensor that the calls of the framework have left
enabled, and counted as a wake-up event if its class says so. -/
theorem posts_of_enabled_proxied (hfits : Fits subHals)
    (hrun : (halProxy layout numbers subHals).run (.construct mStopThread subHals) as = some s)
    (hstep : (halProxy layout numbers subHals).step s a = some t) :
    t.posted = s.posted ∨ ∃ i h batch, t.posted = s.posted ++ [batch] ∧
      PostedFor subHals i h batch ∧ a.PostsFor i h ∧
      MultiHal.setSubHalIndex h i ∈ t.tables.mSensors ∧
      enabledBy (as.flatMap (frameworkActs i h)) = true := by
  have hok := ok_of_run hfits hrun
  have hok' := (step_subHal hfits hok hstep).1
  rcases step_posted hfits hok hstep with hsame | ⟨i, h, x, d, batch, hx, hd, hon, ha, hbatch, hfor⟩
  · exact Or.inl hsame
  · obtain ⟨hsensor, henabled⟩ := enabled_of_run hfits hrun hx hd
    refine Or.inr ⟨i, h, batch, hbatch, hfor, ha, ?_, henabled.symm.trans hon⟩
    exact (hok'.tables.mem _).mpr ⟨i, h, d.info, hsensor, rfl⟩

/-- Its sample comes out under its handle. -/
theorem posts_of_enabled_proxied_gyro :
    ProxyRun gyroEnabled fun s => ∃ t, s.step (fun _ => ⟨0, 0, 0, 0, []⟩) (.ofParse fun _ => none)
        (.iterate 1 1 1 0 7 none) = some t ∧
      ∃ batch, t.posted = [batch] ∧ PostedFor twoSubHals 1 1 batch := by
  have hposted : ((halProxy (fun _ => ⟨0, 0, 0, 0, []⟩) (.ofParse fun _ => none) twoSubHals).run
      (.construct (fun _ _ => false) twoSubHals)
      (gyroEnabled ++ [.iterate 1 1 1 0 7 none])).map (fun t => t.posted.length) = some 1 := rfl
  have hsome : ((halProxy (fun _ => ⟨0, 0, 0, 0, []⟩) (.ofParse fun _ => none) twoSubHals).run
      (.construct (fun _ _ => false) twoSubHals) gyroEnabled).isSome = true := rfl
  obtain ⟨s, hs⟩ := Option.isSome_iff_exists.mp hsome
  obtain ⟨t, hrun, hone⟩ := Option.map_eq_some_iff.mp hposted
  rw [Machine.run_concat, hs, Option.bind_some] at hrun
  have hnone : s.posted = [] :=
    (Option.some.inj (congrArg (Option.map HalProxy.posted) hs)).symm
  rcases posts_of_enabled_proxied twoSubHals_fit hs hrun with
    hsame | ⟨i, h, batch, hbatch, hfor, ha, -⟩
  · rw [hsame, hnone] at hone
    exact absurd hone nofun
  · refine ⟨s, hs, t, hrun, batch, by rw [hbatch, hnone, List.nil_append], ?_⟩
    rcases ha with hflush | ⟨_, _, _, _, hiterate⟩
    · exact nomatch hflush
    · cases hiterate
      exact hfor

/-- A call that a sub-HAL gets. -/
theorem perform_call {i : Nat} {x : Service N Result} (hx : s.mSubHalList[i]? = some x) (c : Call) :
    s.perform layout numbers i (.call c) =
      (subHal.call x.mSensors c).posts.foldlM (HalProxy.postEvents layout i)
        { s with
          mSubHalList := s.mSubHalList.set i
            (.mk (subHal.call x.mSensors c).mSensors (x.posts ++ (subHal.call x.mSensors c).posts)
              (x.answers ++ [(c, (subHal.call x.mSensors c).answer)])) } := by
  unfold HalProxy.perform
  rw [hx]
  show ((x.posts ++ (subHal.call x.mSensors c).posts).drop x.posts.length).foldlM _ _ = _
  rw [List.drop_left]

/-- A flush of the framework, after any run: granted exactly if it is for the handle of a sensor that
is no one-shot sensor and is enabled; then `OK` is answered and one `META_DATA` with that handle is
handed on, and else `BAD_VALUE` is answered and nothing is. -/
theorem flush_proxied (hfits : Fits subHals)
    (hrun : (halProxy layout numbers subHals).run (.construct mStopThread subHals) as = some s)
    {k : Handle} (hstep : (halProxy layout numbers subHals).step s (.call (.flush k)) = some t) :
    (GrantsProxied subHals as k ∧ t.answers = s.answers ++ [(.flush k, .OK)] ∧
      ∃ e n, t.posted = s.posted ++ [([e], n)] ∧ e.sensorHandle = k ∧ e.sensorType = META_DATA) ∨
    (¬ GrantsProxied subHals as k ∧ t.answers = s.answers ++ [(.flush k, .BAD_VALUE)] ∧
      t.posted = s.posted) := by
  have hok := ok_of_run hfits hrun
  simp only [halProxy, HalProxy.step] at hstep
  split at hstep
  · exact nomatch hstep
  rename_i hidle
  obtain ⟨u, hu, hlast⟩ := Option.bind_eq_some_iff.mp hstep
  cases hlast
  have hcount : s.tables.subHalCount = subHals.length := hok.tables.count
  by_cases hvalid : MultiHal.extractSubHalIndex k < subHals.length
  · -- the flush goes to the sub-HAL of the handle
    have hclasses := List.getElem?_eq_getElem hvalid
    generalize subHals[MultiHal.extractSubHalIndex k] = classes at hclasses
    have hlen := hfits.sensors classes (List.mem_of_getElem? hclasses)
    have hstart : (subHalSimulation layout numbers hfits hclasses).Rel
        (.construct mStopThread subHals)
        (.construct (mStopThread (MultiHal.extractSubHalIndex k)) classes) := by
      refine ⟨ok_construct numbers hfits mStopThread, ?_⟩
      rw [construct_subHal, hclasses]
      rfl
    obtain ⟨x, hxrun, -, hx⟩ := (subHalSimulation layout numbers hfits hclasses).run hstart hrun
    have hout : s.outcome (.flush k) =
        ((subHal.flush x.mSensors (MultiHal.clearSubHalIndex k)).answer,
          [(MultiHal.extractSubHalIndex k, .flush (MultiHal.clearSubHalIndex k))]) := by
      have hrouted : s.outcome (.flush k) =
          (s.reply (MultiHal.extractSubHalIndex k) (.flush (MultiHal.clearSubHalIndex k)),
            [(MultiHal.extractSubHalIndex k, .flush (MultiHal.clearSubHalIndex k))]) :=
        if_neg (by simpa [MultiHal.isSubHalIndexValid, hcount] using hvalid)
      rw [hrouted, HalProxy.reply, hx]
      rfl
    rw [hout] at hu ⊢
    obtain ⟨w, hw, hdone⟩ := Option.bind_eq_some_iff.mp hu
    cases hdone
    have hperform : s.perform layout numbers (MultiHal.extractSubHalIndex k)
        (.call (.flush (MultiHal.clearSubHalIndex k))) = some u := hw
    rw [perform_call hx] at hperform
    rw [grantsProxied_iff hfits hvalid hclasses]
    by_cases hgrants : Grants subHal classes
      (as.flatMap (subHalActs subHals.length (MultiHal.extractSubHalIndex k) classes))
      (MultiHal.clearSubHalIndex k)
    · obtain ⟨wakeup, hflush⟩ := flush_granted (by omega) hxrun hgrants
      have hcall : (subHal.call x.mSensors (.flush (MultiHal.clearSubHalIndex k))).posts =
          [⟨[.flushComplete (MultiHal.clearSubHalIndex k).toInt], wakeup⟩] :=
        congrArg Outcome.posts hflush
      rw [hcall] at hperform
      obtain ⟨v, hv, hlast⟩ := Option.bind_eq_some_iff.mp hperform
      cases hlast
      obtain ⟨hanswers, e, n, hposted, hhandle, htype⟩ :=
        postEvents_complete (by exact hok.threads) (by simpa using hidle) hv
      refine Or.inl ⟨hgrants, ?_, e, n, hposted, ?_, htype⟩
      · dsimp only
        rw [hanswers, hflush]
        rfl
      · have hclear := (MultiHal.setSubHalIndex_clear k).1
        rw [hhandle, ← (routed_iff hfits.count hvalid hclear).mp ⟨hvalid, rfl, rfl⟩]
    · obtain ⟨hposts, hanswer⟩ := flush_refused (by omega) hxrun hgrants
      have hcall : (subHal.call x.mSensors (.flush (MultiHal.clearSubHalIndex k))).posts = [] :=
        hposts
      rw [hcall] at hperform
      cases hperform
      refine Or.inr ⟨hgrants, ?_, rfl⟩
      rcases hanswer with hanswer | hanswer <;> rw [hanswer] <;> rfl
  · -- no sub-HAL has the index of the handle
    have hout : s.outcome (.flush k) = (.BAD_VALUE, []) :=
      if_pos (by simpa [MultiHal.isSubHalIndexValid, hcount] using hvalid)
    rw [hout] at hu ⊢
    cases hu
    refine Or.inr ⟨?_, rfl, rfl⟩
    rintro ⟨i, h, c, hk, hsensor, -⟩
    obtain ⟨hlt, hclear⟩ := hsensor.clear hfits
    exact hvalid ((routed_iff hfits.count hlt hclear).mpr hk).1

/-- A flush for it is granted. -/
theorem flush_proxied_gyro :
    ProxyRun gyroEnabled fun s => ∃ t, s.step (fun _ => ⟨0, 0, 0, 0, []⟩) (.ofParse fun _ => none)
        (.call (.flush 0x1000001)) = some t ∧
      ∃ e n, t.posted = [([e], n)] ∧ e.sensorHandle = 0x1000001 := by
  have hsome : ((halProxy (fun _ => ⟨0, 0, 0, 0, []⟩) (.ofParse fun _ => none) twoSubHals).run
      (.construct (fun _ _ => false) twoSubHals)
      (gyroEnabled ++ [.call (.flush 0x1000001)])).isSome = true := rfl
  obtain ⟨t, hrun⟩ := Option.isSome_iff_exists.mp hsome
  rw [Machine.run_concat] at hrun
  obtain ⟨s, hs, hstep⟩ := Option.bind_eq_some_iff.mp hrun
  have hnone : s.posted = [] :=
    (Option.some.inj (congrArg (Option.map HalProxy.posted) hs)).symm
  refine ⟨s, hs, t, hstep, ?_⟩
  rcases flush_proxied twoSubHals_fit hs hstep with
    ⟨-, -, e, n, hposted, hhandle, -⟩ | ⟨hrefused, -⟩
  · exact ⟨e, n, by rw [hposted, hnone, List.nil_append], hhandle⟩
  · exact absurd ⟨1, 1, smi240Gyro 1, rfl, ⟨_, rfl, rfl⟩, rfl, rfl⟩ hrefused

end Posts

end Smi240Hal.Services
