/-
# Smi240Hal.MultiHal.SensorList — the sensor list the constructor makes

The constructor goes through the sub-HALs with two accumulators, the map and the sub-HAL chosen for
direct channels, and what it does to a sensor depends on the choice so far.  Seen from the end it is
a plain function of what was reported: the first sensor with a direct flag makes the choice, every
sensor is listed with its direct flags if it is of the chosen sub-HAL and without them if not, and of
two sensors that get one handle the later is listed.
-/
import Smi240Hal.MultiHal.DirectChannel

namespace Smi240Hal.MultiHal

/-! ## What is reported -/

/-- A sensor that a sub-HAL reports, with the index of the sub-HAL. -/
structure Report where
  sensor : SensorInfo
  subHal : Nat

/-- The handle of the framework for it. -/
def Report.handle (r : Report) : Handle := setSubHalIndex r.sensor.sensorHandle r.subHal

/-- The sensors reported under handles whose first byte is clear, in the order of the sub-HALs. -/
def reports (reported : List (Option (List SensorInfo))) : List Report :=
  reported.zipIdx.flatMap fun subHal =>
    ((subHal.1.getD []).filter fun s => subHalIndexIsClear s.sensorHandle).map (⟨·, subHal.2⟩)

theorem mem_reports {reported : List (Option (List SensorInfo))} {r : Report} :
    r ∈ reports reported ↔ ∃ sensors, reported[r.subHal]? = some (some sensors) ∧
      r.sensor ∈ sensors ∧ subHalIndexIsClear r.sensor.sensorHandle = true := by
  unfold reports
  rw [List.mem_flatMap]
  constructor
  · rintro ⟨⟨sensors, i⟩, hp, hr⟩
    obtain ⟨s, hs, rfl⟩ := List.mem_map.mp hr
    obtain ⟨hs, hclear⟩ := List.mem_filter.mp hs
    have hget := List.mem_zipIdx_iff_getElem?.mp hp
    cases sensors with
    | none => exact absurd hs List.not_mem_nil
    | some sensors => exact ⟨sensors, hget, hs, hclear⟩
  · rintro ⟨sensors, hget, hs, hclear⟩
    exact ⟨(some sensors, r.subHal), List.mem_zipIdx_iff_getElem?.mpr hget,
      List.mem_map.mpr ⟨r.sensor, List.mem_filter.mpr ⟨hs, hclear⟩, rfl⟩⟩

/-! ## The plain list -/

/-- The sub-HAL of the first sensor with a direct flag. -/
def directChoice (rs : List Report) : Option Nat :=
  (rs.find? fun r => r.sensor.supportsDirectChannel).map Report.subHal

/-- The sensor as it is listed. -/
def Report.listedInfo (chosen : Option Nat) (r : Report) : SensorInfo :=
  if chosen = some r.subHal then r.sensor.withSubHal r.subHal
  else { r.sensor.withSubHal r.subHal with flags := r.sensor.flags &&& ~~~directMask }

/-- The last sensor reported for a handle. -/
def lastReport (rs : List Report) (k : Handle) : Option Report :=
  rs.reverse.find? fun r => r.handle = k

theorem lastReport_concat (rs : List Report) (r : Report) (k : Handle) :
    lastReport (rs ++ [r]) k = if r.handle = k then some r else lastReport rs k := by
  rw [lastReport, List.reverse_append, List.reverse_singleton, List.singleton_append,
    List.find?_cons]
  by_cases heq : r.handle = k
  · rw [if_pos heq, decide_eq_true heq]
  · rw [if_neg heq, decide_eq_false heq]
    rfl

theorem handle_of_lastReport {rs : List Report} {k : Handle} {r : Report}
    (h : lastReport rs k = some r) : r ∈ rs ∧ r.handle = k := by
  unfold lastReport at h
  exact ⟨List.mem_reverse.mp (List.mem_of_find?_eq_some h), by simpa using List.find?_some h⟩

theorem lastReport_isSome {rs : List Report} {k : Handle} :
    (lastReport rs k).isSome ↔ ∃ r ∈ rs, r.handle = k := by
  rw [lastReport, List.find?_isSome]
  simp

/-- Without a direct flag there is nothing to take away. -/
theorem listedInfo_of_no_direct {r : Report} (hno : r.sensor.supportsDirectChannel = false)
    (chosen : Option Nat) : r.listedInfo chosen = r.sensor.withSubHal r.subHal := by
  have hkept : r.sensor.flags &&& ~~~directMask = r.sensor.flags := by
    have hzero : r.sensor.flags &&& directMask = 0 := by
      simpa [SensorInfo.supportsDirectChannel] using hno
    calc r.sensor.flags &&& ~~~directMask
        = r.sensor.flags &&& directMask ||| r.sensor.flags &&& ~~~directMask := by
          rw [hzero]
          exact BitVec.zero_or.symm
      _ = r.sensor.flags := by
          ext i hi
          simp only [BitVec.getElem_or, BitVec.getElem_and, BitVec.getElem_not]
          cases r.sensor.flags[i] <;> cases directMask[i] <;> rfl
  unfold Report.listedInfo
  split
  · rfl
  · rw [hkept]
    rfl

/-! ## The loop -/

/-- The tables are those of the reports so far. -/
structure Lists (rs : List Report) (t : SensorTables) : Prop where
  chosen : t.mDirectChannelSubHal = directChoice rs
  mSensors : ∀ k : Handle,
    t.mSensors[k]? = (lastReport rs k).map (Report.listedInfo (directChoice rs))
  mDynamicSensors : t.mDynamicSensors = ∅

theorem directChoice_concat (rs : List Report) (r : Report) :
    directChoice (rs ++ [r]) =
      (directChoice rs).or (if r.sensor.supportsDirectChannel then some r.subHal else none) := by
  unfold directChoice
  rw [List.find?_append, List.find?_singleton, Option.map_or]
  split <;> rfl

/-- A later choice does not change how the sensors before it are listed. -/
theorem listedInfo_stable {rs : List Report} {r : Report} (hr : r ∈ rs) (next : Report) :
    r.listedInfo (directChoice (rs ++ [next])) = r.listedInfo (directChoice rs) := by
  rw [directChoice_concat]
  cases hchoice : directChoice rs with
  | some c => rfl
  | none =>
      -- no sensor so far has a direct flag
      have hno : r.sensor.supportsDirectChannel = false := by
        rw [directChoice, Option.map_eq_none_iff, List.find?_eq_none] at hchoice
        exact Bool.not_eq_true _ ▸ hchoice r hr
      rw [listedInfo_of_no_direct hno, listedInfo_of_no_direct hno]

/-- Before the choice no flag is taken away. -/
theorem setDirectChannelFlags_none (s : SensorInfo) (i : Nat) :
    setDirectChannelFlags none s i = (s, if s.supportsDirectChannel then some i else none) := by
  show (if s.supportsDirectChannel then (s, some i) else (s, none)) = _
  split <;> rfl

/-- What the constructor makes of one sensor is how it is listed in the end. -/
theorem setDirectChannelFlags_listed (rs : List Report) (r : Report) :
    setDirectChannelFlags (directChoice rs) (r.sensor.withSubHal r.subHal) r.subHal =
      (r.listedInfo (directChoice (rs ++ [r])), directChoice (rs ++ [r])) := by
  rw [directChoice_concat]
  cases directChoice rs with
  | none =>
      rw [setDirectChannelFlags_none, Option.none_or]
      show (r.sensor.withSubHal r.subHal,
        if r.sensor.supportsDirectChannel then some r.subHal else none) = _
      by_cases hdirect : r.sensor.supportsDirectChannel = true
      · rw [if_pos hdirect, Report.listedInfo, if_pos rfl]
      · rw [if_neg hdirect, listedInfo_of_no_direct (Bool.not_eq_true _ ▸ hdirect)]
  | some c =>
      unfold setDirectChannelFlags
      dsimp only
      rw [Option.some_or, Report.listedInfo]
      by_cases hc : r.subHal = c
      · rw [if_neg (not_not_intro hc), if_pos (congrArg some hc.symm)]
      · rw [if_pos hc, if_neg fun h => hc (Option.some.inj h).symm]
        rfl

theorem lists_loadSensor {rs : List Report} {t : SensorTables} (h : Lists rs t) {r : Report}
    (hclear : subHalIndexIsClear r.sensor.sensorHandle = true) :
    Lists (rs ++ [r]) (loadSensor r.subHal t r.sensor) := by
  have hset := setDirectChannelFlags_listed rs r
  rw [← h.chosen] at hset
  have hload : loadSensor r.subHal t r.sensor =
      { t with
        mSensors := t.mSensors.insert r.handle (r.listedInfo (directChoice (rs ++ [r])))
        mDirectChannelSubHal := directChoice (rs ++ [r]) } := by
    have hhandle := setDirectChannelFlags_handle t.mDirectChannelSubHal
      (r.sensor.withSubHal r.subHal) r.subHal
    unfold loadSensor
    rw [if_neg (by rw [hclear]; decide)]
    unfold SensorInfo.withSubHal at hset hhandle
    rw [hset] at hhandle
    dsimp only
    rw [hset]
    dsimp only at hhandle ⊢
    rw [hhandle]
    rfl
  rw [hload]
  refine ⟨rfl, fun k => ?_, h.mDynamicSensors⟩
  dsimp only
  rw [Std.ExtTreeMap.getElem?_insert, lastReport_concat]
  by_cases heq : r.handle = k
  · rw [if_pos heq, if_pos (Std.LawfulEqCmp.compare_eq_iff_eq.mpr heq), Option.map_some]
  · rw [if_neg heq, if_neg fun hcmp => heq (Std.LawfulEqCmp.compare_eq_iff_eq.mp hcmp),
      h.mSensors]
    cases hlast : lastReport rs k with
    | none => rfl
    | some r' =>
        rw [Option.map_some, Option.map_some, listedInfo_stable (handle_of_lastReport hlast).1]

/-- The two loops of the constructor are one loop over the reports. -/
theorem construct_eq_foldl (reported : List (Option (List SensorInfo))) :
    SensorTables.construct reported =
      (reports reported).foldl (fun t r => loadSensor r.subHal t r.sensor)
        ⟨reported.length, ∅, ∅, none⟩ := by
  have hskip : ∀ (i : Nat) (sensors : List SensorInfo) (t : SensorTables),
      (sensors.filter fun s => subHalIndexIsClear s.sensorHandle).foldl (loadSensor i) t =
        sensors.foldl (loadSensor i) t := by
    intro i sensors
    induction sensors with
    | nil => exact fun _ => rfl
    | cons s sensors ih =>
        intro t
        by_cases hclear : subHalIndexIsClear s.sensorHandle = true
        · rw [List.filter_cons, if_pos hclear, List.foldl_cons, List.foldl_cons, ih]
        · have hsame : loadSensor i t s = t := if_pos (Bool.not_eq_true _ ▸ hclear)
          rw [List.filter_cons, if_neg hclear, List.foldl_cons, hsame, ih]
  unfold SensorTables.construct initializeSensorList reports
  rw [List.foldl_flatMap]
  congr 1
  funext t subHal
  rw [List.foldl_map, loadSubHal, ← hskip]

theorem lists_construct (reported : List (Option (List SensorInfo))) :
    Lists (reports reported) (.construct reported) := by
  rw [construct_eq_foldl]
  have hclear : ∀ r ∈ reports reported, subHalIndexIsClear r.sensor.sensorHandle = true :=
    fun r hr => (mem_reports.mp hr).choose_spec.2.2
  generalize reports reported = rs at hclear ⊢
  induction rs using List.reverseRecOn with
  | nil => exact ⟨rfl, fun _ => Std.ExtTreeMap.getElem?_empty, rfl⟩
  | append_singleton rs r ih =>
      rw [List.foldl_append]
      exact lists_loadSensor (ih fun r hr => hclear r (List.mem_append_left _ hr))
        (hclear r (by simp))

/-- The list of the constructor, for any reports of any sub-HALs: it is ordered by handle and has each
handle once; a handle stands for the last sensor reported for it, with the direct flags of the sensor
if it is of the sub-HAL of the first sensor that has one and without them if not; and the calls for
direct channels go to that sub-HAL. -/
theorem sensor_list_right (reported : List (Option (List SensorInfo))) :
    let t := SensorTables.construct reported
    let rs := reports reported
    t.mDirectChannelSubHal = directChoice rs ∧
    t.getSensorsList21.Pairwise (fun a b => a.sensorHandle.toInt < b.sensorHandle.toInt) ∧
    ∀ info, info ∈ t.getSensorsList21 ↔
      ∃ r, lastReport rs info.sensorHandle = some r ∧ info = r.listedInfo (directChoice rs) := by
  intro t rs
  have hlists : Lists rs t := lists_construct reported
  have hhandle : ∀ {k : Handle} {info : SensorInfo}, t.mSensors[k]? = some info →
      info.sensorHandle = k := by
    intro k info hk
    rw [hlists.mSensors] at hk
    obtain ⟨r, hr, rfl⟩ := Option.map_eq_some_iff.mp hk
    rw [← (handle_of_lastReport hr).2, Report.listedInfo]
    split <;> rfl
  refine ⟨hlists.chosen, ?_, fun info => ?_⟩
  · have hordered : t.mSensors.toList.Pairwise fun a b => cmpHandle a.1 b.1 = .lt :=
      Std.ExtTreeMap.ordered_keys_toList
    rw [SensorTables.getSensorsList21, List.pairwise_map]
    apply hordered.imp_of_mem
    intro a b ha hb hlt
    rw [hhandle (Std.ExtTreeMap.mem_toList_iff_getElem?_eq_some.mp ha),
      hhandle (Std.ExtTreeMap.mem_toList_iff_getElem?_eq_some.mp hb)]
    exact compare_lt_iff_lt.mp hlt
  · rw [SensorTables.getSensorsList21, List.mem_map]
    constructor
    · rintro ⟨⟨k, info⟩, hmem, rfl⟩
      have hk := Std.ExtTreeMap.mem_toList_iff_getElem?_eq_some.mp hmem
      dsimp only
      rw [hhandle hk]
      rw [hlists.mSensors] at hk
      obtain ⟨r, hr, heq⟩ := Option.map_eq_some_iff.mp hk
      exact ⟨r, hr, heq.symm⟩
    · rintro ⟨r, hr, heq⟩
      refine ⟨(info.sensorHandle, info), ?_, rfl⟩
      rw [Std.ExtTreeMap.mem_toList_iff_getElem?_eq_some, hlists.mSensors, hr, Option.map_some,
        ← heq]

end Smi240Hal.MultiHal
