/-
# Smi240Hal.MultiHal.Routing — a handle names one sensor of one sub-HAL

A handle with its first byte clear is a number below `2 ^ 24`, and setting the byte to `i` adds
`i * 2 ^ 24`.  Reading the byte back goes through a signed shift: it gives `i` again below index
128, and above it a number no list of sub-HALs is long enough for.

`Registry` runs the tables together with a log of the handles that were exposed to the framework,
each with the sub-HAL and the handle it stands for.
-/
import Smi240Hal.Lib.Machine
import Smi240Hal.MultiHal.SensorTables

namespace Smi240Hal.MultiHal

open Smi240Hal.Lib

/-! ## The bits of a handle -/

/-- Masking with the first byte drops the low 24 bits. -/
theorem and_mask_toNat (h : Handle) :
    (h &&& kSensorHandleSubHalIndexMask).toNat = (h.toNat >>> 24) <<< 24 := by
  have hmask : kSensorHandleSubHalIndexMask.toNat = (2 ^ 8 - 1) <<< 24 := rfl
  rw [BitVec.toNat_and, hmask]
  apply Nat.eq_of_testBit_eq
  intro i
  rw [Nat.testBit_and, Nat.testBit_shiftLeft, Nat.testBit_shiftLeft, Nat.testBit_shiftRight,
    Nat.testBit_two_pow_sub_one]
  by_cases hlow : 24 ≤ i
  · have hi : 24 + (i - 24) = i := by omega
    rw [hi]
    by_cases hhigh : i < 32
    · simp [hlow, show i - 24 < 8 by omega]
    · have hbit : h.toNat.testBit i = false :=
        Nat.testBit_lt_two_pow
          (Nat.lt_of_lt_of_le h.isLt (Nat.pow_le_pow_right (by decide) (by omega)))
      simp [hbit]
  · simp [hlow]

/-- Handles with a clear first byte are the numbers below `2 ^ 24`. -/
theorem subHalIndexIsClear_iff (h : Handle) : subHalIndexIsClear h = true ↔ h.toNat < 2 ^ 24 := by
  unfold subHalIndexIsClear
  rw [beq_iff_eq, BitVec.toNat_eq, and_mask_toNat, Nat.shiftLeft_eq, Nat.shiftRight_eq_div_pow]
  show h.toNat / 2 ^ 24 * 2 ^ 24 = 0 ↔ _
  omega

theorem setSubHalIndex_toNat {own : Handle} {i : Nat} (hown : own.toNat < 2 ^ 24) (hi : i < 256) :
    (setSubHalIndex own i).toNat = i * 2 ^ 24 + own.toNat := by
  have hofNat : (BitVec.ofNat 32 i).toNat = i := by
    rw [BitVec.toNat_ofNat]
    exact Nat.mod_eq_of_lt (by omega)
  unfold setSubHalIndex kBitsAfterSubHalIndex
  rw [BitVec.toNat_or, BitVec.toNat_shiftLeft, hofNat, Nat.mod_eq_of_lt (by rw [Nat.shiftLeft_eq]; omega),
    Nat.or_comm, ← Nat.shiftLeft_add_eq_or_of_lt hown, Nat.shiftLeft_eq]

/-- Of the index only the lowest byte gets into the handle. -/
theorem setSubHalIndex_mod (own : Handle) (i : Nat) :
    setSubHalIndex own (i % 256) = setSubHalIndex own i := by
  have hshift : BitVec.ofNat 32 (i % 256) <<< 24 = BitVec.ofNat 32 i <<< 24 := by
    apply BitVec.eq_of_toNat_eq
    rw [BitVec.toNat_shiftLeft, BitVec.toNat_shiftLeft, BitVec.toNat_ofNat, BitVec.toNat_ofNat,
      Nat.shiftLeft_eq, Nat.shiftLeft_eq]
    omega
  unfold setSubHalIndex kBitsAfterSubHalIndex
  rw [hshift]

theorem clearSubHalIndex_toNat (h : Handle) : (clearSubHalIndex h).toNat = h.toNat % 2 ^ 24 := by
  have hmask : (~~~kSensorHandleSubHalIndexMask).toNat = 2 ^ 24 - 1 := rfl
  unfold clearSubHalIndex
  rw [BitVec.toNat_and, hmask, Nat.and_two_pow_sub_one_eq_mod]

/-- Below the sign bit the index comes back. -/
theorem extractSubHalIndex_of_nonneg {h : Handle} (hpos : h.toNat < 2 ^ 31) :
    extractSubHalIndex h = h.toNat / 2 ^ 24 := by
  have hmsb : h.msb = false := by
    rw [BitVec.msb_eq_decide]
    exact decide_eq_false (by omega)
  have hshift : (h >>> 24).toNat = h.toNat / 2 ^ 24 := by
    rw [BitVec.toNat_ushiftRight, Nat.shiftRight_eq_div_pow]
  have hmsb' : (h >>> 24).msb = false := by
    rw [BitVec.msb_eq_decide, hshift]
    exact decide_eq_false (by omega)
  unfold extractSubHalIndex kBitsAfterSubHalIndex
  rw [BitVec.sshiftRight_eq_of_msb_false hmsb, BitVec.signExtend_eq_setWidth_of_msb_false hmsb',
    BitVec.toNat_setWidth, hshift]
  exact Nat.mod_eq_of_lt (by omega)

/-- With the sign bit set the index is larger than any list. -/
theorem extractSubHalIndex_of_neg {h : Handle} (hneg : 2 ^ 31 ≤ h.toNat) :
    2 ^ 32 ≤ extractSubHalIndex h := by
  -- the shifted value is negative, so the widened one is close to `2 ^ 64`
  have hint : h.toInt < 0 := by
    rw [BitVec.toInt_eq_toNat_cond, if_neg (by omega)]
    have := h.isLt
    omega
  have hext : ((h.sshiftRight 24).signExtend 64).toInt = h.toInt / 2 ^ 24 := by
    rw [BitVec.toInt_signExtend_of_le (by decide), BitVec.toInt_sshiftRight,
      Int.shiftRight_eq_div_pow]
    rfl
  rw [BitVec.toInt_eq_toNat_cond] at hext
  unfold extractSubHalIndex kBitsAfterSubHalIndex
  split at hext
  · -- a small number would be non-negative
    omega
  · omega

/-- Taking the byte off a handle gives a clear handle, and putting the byte back the handle. -/
theorem setSubHalIndex_clear (h : Handle) :
    subHalIndexIsClear (clearSubHalIndex h) = true ∧
      setSubHalIndex (clearSubHalIndex h) (h.toNat / 2 ^ 24) = h := by
  have hlt := h.isLt
  have hclear : (clearSubHalIndex h).toNat < 2 ^ 24 := by
    rw [clearSubHalIndex_toNat]
    omega
  refine ⟨(subHalIndexIsClear_iff _).mpr hclear, BitVec.eq_of_toNat_eq ?_⟩
  rw [setSubHalIndex_toNat hclear (by omega), clearSubHalIndex_toNat]
  omega

section Encoded

variable {own own' : Handle} {i j : Nat}

/-- Whatever the index, taking the byte off a made handle gives the sub-HAL's own handle. -/
theorem clear_setSubHalIndex (hown : subHalIndexIsClear own = true) (i : Nat) :
    clearSubHalIndex (setSubHalIndex own i) = own := by
  have hlt := (subHalIndexIsClear_iff own).mp hown
  apply BitVec.eq_of_toNat_eq
  rw [clearSubHalIndex_toNat, ← setSubHalIndex_mod, setSubHalIndex_toNat hlt (by omega)]
  omega

/-- Different sub-HALs, or different handles of one, give different handles. -/
theorem setSubHalIndex_injective (hown : subHalIndexIsClear own = true)
    (hown' : subHalIndexIsClear own' = true) (hi : i < 256) (hj : j < 256)
    (h : setSubHalIndex own i = setSubHalIndex own' j) : i = j ∧ own = own' := by
  have hlt := (subHalIndexIsClear_iff own).mp hown
  have hlt' := (subHalIndexIsClear_iff own').mp hown'
  have heq : i * 2 ^ 24 + own.toNat = j * 2 ^ 24 + own'.toNat := by
    rw [← setSubHalIndex_toNat hlt hi, ← setSubHalIndex_toNat hlt' hj, h]
  exact ⟨by omega, BitVec.eq_of_toNat_eq (by omega)⟩

/-- Below index 128 a made handle comes apart again. -/
theorem decode_setSubHalIndex (hown : subHalIndexIsClear own = true) (hi : i < 128) :
    extractSubHalIndex (setSubHalIndex own i) = i ∧
      clearSubHalIndex (setSubHalIndex own i) = own := by
  have hlt := (subHalIndexIsClear_iff own).mp hown
  have hnat := setSubHalIndex_toNat hlt (show i < 256 by omega)
  constructor
  · rw [extractSubHalIndex_of_nonneg (by omega), hnat]
    omega
  · exact clear_setSubHalIndex hown i

/-- A valid index is the first byte. -/
theorem extractSubHalIndex_of_valid {t : SensorTables} {h : Handle} (hn : t.subHalCount ≤ 256)
    (hv : isSubHalIndexValid t h = true) :
    extractSubHalIndex h = h.toNat / 2 ^ 24 ∧ h.toNat / 2 ^ 24 < t.subHalCount := by
  have hlt : extractSubHalIndex h < t.subHalCount := of_decide_eq_true hv
  have hpos : h.toNat < 2 ^ 31 := by
    by_contra hneg
    have := extractSubHalIndex_of_neg (Nat.le_of_not_lt hneg)
    omega
  have heq := extractSubHalIndex_of_nonneg hpos
  exact ⟨heq, heq ▸ hlt⟩

end Encoded

/-! ## Routing one call -/

section Route

variable {reply : Nat → SubHalCall → Result} {t : SensorTables} {h : Handle}
  {call : Handle → SubHalCall}

/-- The call went to sub-HAL `i` and to no other, with the handle `own`. -/
def RoutedTo (reply : Nat → SubHalCall → Result) (call : Handle → SubHalCall) (i : Nat)
    (own : Handle) (out : Result × List (Nat × SubHalCall)) : Prop :=
  out = (reply i (call own), [(i, call own)])

/-- Refused without a call, or sent to the sub-HAL the handle encodes, under the handle that
sub-HAL uses itself. -/
def BadOrRouted (reply : Nat → SubHalCall → Result) (t : SensorTables)
    (call : Handle → SubHalCall) (h : Handle) (out : Result × List (Nat × SubHalCall)) : Prop :=
  out = (.BAD_VALUE, []) ∨ ∃ i own, i < t.subHalCount ∧ subHalIndexIsClear own = true ∧
    h = setSubHalIndex own i ∧ RoutedTo reply call i own out

theorem routeCall_badOrRouted (hn : t.subHalCount ≤ 256) :
    BadOrRouted reply t call h (routeCall reply t h call) := by
  unfold routeCall
  split
  case isTrue => exact Or.inl rfl
  case isFalse hv =>
    obtain ⟨hext, hlt⟩ := extractSubHalIndex_of_valid hn (by simpa using hv)
    obtain ⟨hclear, hset⟩ := setSubHalIndex_clear h
    refine Or.inr ⟨h.toNat / 2 ^ 24, clearSubHalIndex h, hlt, hclear, hset.symm, ?_⟩
    unfold RoutedTo
    rw [hext]

theorem routeCall_reaches {own : Handle} {i : Nat} (hn : t.subHalCount ≤ 128)
    (hown : subHalIndexIsClear own = true) (hi : i < t.subHalCount)
    (hh : h = setSubHalIndex own i) : RoutedTo reply call i own (routeCall reply t h call) := by
  obtain ⟨hext, hclear⟩ := decode_setSubHalIndex hown (Nat.lt_of_lt_of_le hi hn)
  rw [← hh] at hext hclear
  have hv : isSubHalIndexValid t h = true := by
    unfold isSubHalIndexValid
    rw [hext]
    exact decide_eq_true hi
  unfold routeCall RoutedTo
  rw [if_neg (by rw [hv]; decide), hext, hclear]

end Route

/-! ## Every history of hot plugging -/

/-- A handle given to the framework, the sub-HAL it stands for and the handle that one uses. -/
structure Exposure where
  subHal : Nat
  own : Handle
  handle : Handle
deriving DecidableEq

/-- What a list of sensors of one sub-HAL exposes: the sensors whose first byte is not clear are
left out. -/
def exposures (subHalIndex : Nat) (sensors : List SensorInfo) : List Exposure :=
  (sensors.filter fun s => subHalIndexIsClear s.sensorHandle).map fun s =>
    ⟨subHalIndex, s.sensorHandle, setSubHalIndex s.sensorHandle subHalIndex⟩

/-- What the lists reported at construction expose. -/
def staticExposures (reported : List (Option (List SensorInfo))) : List Exposure :=
  reported.zipIdx.flatMap fun subHal => exposures subHal.2 (subHal.1.getD [])

/-- The tables, and every handle exposed so far. -/
structure Registry where
  tables : SensorTables
  exposed : List Exposure

/-- A sub-HAL reports dynamic sensors coming and going; only an existing one can.  Or the framework
starts over. -/
inductive HotPlug
  | connect (subHalIndex : Nat) (sensors : List SensorInfo)
  | disconnect (subHalIndex : Nat) (handles : List Handle)
  | initializeCommon
deriving DecidableEq

/-- Sensors come and go; a handle once exposed stays in the record. -/
def Registry.step (r : Registry) : HotPlug → Option Registry
  | .connect i sensors =>
      if i < r.tables.subHalCount then
        some ⟨(r.tables.onDynamicSensorsConnected sensors i).2, r.exposed ++ exposures i sensors⟩
      else none
  | .disconnect i handles =>
      if i < r.tables.subHalCount then
        some ⟨(r.tables.onDynamicSensorsDisconnected handles i).2, r.exposed⟩
      else none
  | .initializeCommon => some ⟨r.tables.clearDynamicSensors, r.exposed⟩

/-- The tables from construction on, with the handles exposed. -/
def registry (reported : List (Option (List SensorInfo))) : Machine Registry HotPlug where
  Start r := r = ⟨.construct reported, staticExposures reported⟩
  step := Registry.step

theorem mem_exposures {i : Nat} {sensors : List SensorInfo} {e : Exposure} :
    e ∈ exposures i sensors ↔ ∃ s ∈ sensors, subHalIndexIsClear s.sensorHandle = true ∧
      e = ⟨i, s.sensorHandle, setSubHalIndex s.sensorHandle i⟩ := by
  unfold exposures
  rw [List.mem_map]
  constructor
  · rintro ⟨s, hs, rfl⟩
    obtain ⟨hmem, hclear⟩ := List.mem_filter.mp hs
    exact ⟨s, hmem, hclear, rfl⟩
  · rintro ⟨s, hmem, hclear, rfl⟩
    exact ⟨s, List.mem_filter.mpr ⟨hmem, hclear⟩, rfl⟩

/-- The sensors a connect call reports to the framework are the ones it exposes. -/
theorem connected_sensors (t : SensorTables) (sensors : List SensorInfo) (i : Nat) :
    (t.onDynamicSensorsConnected sensors i).1.map SensorInfo.sensorHandle =
      (exposures i sensors).map Exposure.handle := by
  have hloop : ∀ (sensors : List SensorInfo) (acc : List SensorInfo × SensorTables),
      (sensors.foldl (SensorTables.connectSensor i) acc).1.map SensorInfo.sensorHandle =
        acc.1.map SensorInfo.sensorHandle ++ (exposures i sensors).map Exposure.handle := by
    intro sensors
    induction sensors with
    | nil =>
        intro acc
        simp [exposures]
    | cons s sensors ih =>
        intro acc
        rw [List.foldl_cons, ih]
        unfold SensorTables.connectSensor exposures
        cases hs : subHalIndexIsClear s.sensorHandle <;> simp [hs]
  exact hloop sensors ([], t)

/-! ## The invariant of the registry -/

/-- Every exposure is made from a clear handle and an existing sub-HAL, and every sensor in
`mSensors` is exposed under its handle. -/
structure Registered (n : Nat) (r : Registry) : Prop where
  count : r.tables.subHalCount = n
  made : ∀ e ∈ r.exposed, e.subHal < n ∧ subHalIndexIsClear e.own = true ∧
    e.handle = setSubHalIndex e.own e.subHal
  listed : ∀ info ∈ r.tables.getSensorsList21, ∃ e ∈ r.exposed, e.handle = info.sensorHandle

/-- A table entry comes with its own key, and is exposed. -/
def Entries (exposed : List Exposure) (t : SensorTables) : Prop :=
  ∀ (k : Handle) (info : SensorInfo), t.mSensors[k]? = some info →
    ∃ e ∈ exposed, e.handle = info.sensorHandle

theorem setDirectChannelFlags_handle (chosen : Option Nat) (sensor : SensorInfo) (i : Nat) :
    (setDirectChannelFlags chosen sensor i).1.sensorHandle = sensor.sensorHandle := by
  unfold setDirectChannelFlags
  cases chosen with
  | none =>
      dsimp only
      split <;> rfl
  | some c =>
      dsimp only
      split <;> rfl

theorem entries_loadSensor {exposed : List Exposure} {t : SensorTables} {i : Nat}
    {sensor : SensorInfo} (h : Entries exposed t)
    (he : subHalIndexIsClear sensor.sensorHandle = true →
      ⟨i, sensor.sensorHandle, setSubHalIndex sensor.sensorHandle i⟩ ∈ exposed) :
    Entries exposed (loadSensor i t sensor) ∧
      (loadSensor i t sensor).subHalCount = t.subHalCount := by
  unfold loadSensor
  split
  case isTrue => exact ⟨h, rfl⟩
  case isFalse hclear =>
    refine ⟨fun k info hk => ?_, rfl⟩
    dsimp only at hk
    rw [Std.ExtTreeMap.getElem?_insert] at hk
    split at hk
    · cases hk
      have hsame := setDirectChannelFlags_handle t.mDirectChannelSubHal
        { sensor with sensorHandle := setSubHalIndex sensor.sensorHandle i } i
      exact ⟨_, he (by simpa using hclear), hsame.symm⟩
    · exact h k info hk

/-- Loading the list of one sub-HAL. -/
theorem entries_loadList {exposed : List Exposure} {i : Nat} (sensors : List SensorInfo) :
    ∀ t : SensorTables, Entries exposed t → (∀ e ∈ exposures i sensors, e ∈ exposed) →
      Entries exposed (sensors.foldl (loadSensor i) t) ∧
        (sensors.foldl (loadSensor i) t).subHalCount = t.subHalCount := by
  induction sensors with
  | nil => exact fun t h _ => ⟨h, rfl⟩
  | cons s sensors ih =>
      intro t h hsub
      have hs := entries_loadSensor (i := i) h fun hclear =>
        hsub ⟨i, s.sensorHandle, setSubHalIndex s.sensorHandle i⟩
          (mem_exposures.mpr ⟨s, by simp, hclear, rfl⟩)
      have hrest := ih (loadSensor i t s) hs.1 fun e he => by
        obtain ⟨s', hs', hclear, rfl⟩ := mem_exposures.mp he
        exact hsub _ (mem_exposures.mpr ⟨s', by simp [hs'], hclear, rfl⟩)
      exact ⟨hrest.1, hrest.2.trans hs.2⟩

/-- The tables after the constructor list exposed sensors only. -/
theorem entries_construct (reported : List (Option (List SensorInfo))) :
    Entries (staticExposures reported) (.construct reported) ∧
      (SensorTables.construct reported).subHalCount = reported.length := by
  have hloop : ∀ (subHals : List (Option (List SensorInfo) × Nat)) (t : SensorTables),
      Entries (staticExposures reported) t →
      (∀ p ∈ subHals, ∀ e ∈ exposures p.2 (p.1.getD []), e ∈ staticExposures reported) →
      Entries (staticExposures reported) (subHals.foldl loadSubHal t) ∧
        (subHals.foldl loadSubHal t).subHalCount = t.subHalCount := by
    intro subHals
    induction subHals with
    | nil => exact fun t h _ => ⟨h, rfl⟩
    | cons p subHals ih =>
        intro t h hsub
        have hlist := entries_loadList (p.1.getD []) t h (hsub p (by simp))
        have hrest := ih (loadSubHal t p) hlist.1 fun q hq => hsub q (by simp [hq])
        exact ⟨hrest.1, hrest.2.trans hlist.2⟩
  refine hloop reported.zipIdx ⟨reported.length, ∅, ∅, none⟩ ?_ ?_
  · intro k info hk
    simp at hk
  · intro p hp e he
    exact List.mem_flatMap.mpr ⟨p, hp, he⟩

theorem registered_construct (reported : List (Option (List SensorInfo))) :
    Registered reported.length ⟨.construct reported, staticExposures reported⟩ where
  count := (entries_construct reported).2
  made := by
    intro e he
    obtain ⟨p, hp, he⟩ := List.mem_flatMap.mp he
    obtain ⟨s, _, hclear, rfl⟩ := mem_exposures.mp he
    have hlt := List.snd_lt_of_mem_zipIdx hp
    exact ⟨by simpa using hlt, hclear, rfl⟩
  listed := by
    intro info hinfo
    obtain ⟨⟨k, info'⟩, hmem, rfl⟩ := List.mem_map.mp hinfo
    exact (entries_construct reported).1 k info'
      (Std.ExtTreeMap.mem_toList_iff_getElem?_eq_some.mp hmem)

theorem registered_step {n : Nat} {r u : Registry} {a : HotPlug} (h : Registered n r)
    (hstep : r.step a = some u) : Registered n u := by
  cases a with
  | connect i sensors =>
      simp only [Registry.step] at hstep
      split at hstep
      case isTrue hi =>
        cases hstep
        obtain ⟨hcount, hsensors⟩ := r.tables.connected_frame sensors i
        refine ⟨hcount.trans h.count, fun e he => ?_, fun info hinfo => ?_⟩
        · rcases List.mem_append.mp he with he | he
          · exact h.made e he
          · obtain ⟨s, _, hclear, rfl⟩ := mem_exposures.mp he
            exact ⟨h.count ▸ hi, hclear, rfl⟩
        · unfold SensorTables.getSensorsList21 at hinfo
          rw [hsensors] at hinfo
          obtain ⟨e, he, heq⟩ := h.listed info hinfo
          exact ⟨e, List.mem_append_left _ he, heq⟩
      case isFalse => cases hstep
  | disconnect i handles =>
      simp only [Registry.step] at hstep
      split at hstep
      case isTrue =>
        cases hstep
        obtain ⟨hcount, hsensors⟩ := r.tables.disconnected_frame handles i
        refine ⟨hcount.trans h.count, h.made, fun info hinfo => ?_⟩
        unfold SensorTables.getSensorsList21 at hinfo
        rw [hsensors] at hinfo
        exact h.listed info hinfo
      case isFalse => cases hstep
  | initializeCommon =>
      cases hstep
      exact ⟨h.count, h.made, h.listed⟩

theorem registered_of_reach {reported : List (Option (List SensorInfo))} {r : Registry}
    (h : (registry reported).Reach r) : Registered reported.length r := by
  refine Machine.Reach.invariant (P := Registered reported.length) ?_ ?_ h
  · rintro r rfl
    exact registered_construct reported
  · intro r a u hr hstep
    exact registered_step hr hstep

/-- Each routed call for the exposed handle goes to its sub-HAL, under that sub-HAL's handle; data
injection only gets as far as routing in the right mode. -/
structure ReachesOwn (reply : Nat → SubHalCall → Result) (t : SensorTables) (e : Exposure) :
    Prop where
  activate : ∀ enabled, RoutedTo reply (fun own => .activate own enabled) e.subHal e.own
    (activate reply t e.handle enabled)
  batch : ∀ period latency, RoutedTo reply (fun own => .batch own period latency) e.subHal e.own
    (batch reply t e.handle period latency)
  flush : RoutedTo reply .flush e.subHal e.own (flush reply t e.handle)
  inject : ∀ mode event, event.sensorHandle = e.handle →
    (mode = .NORMAL → event.sensorType = SensorType.ADDITIONAL_INFO) →
    RoutedTo reply (fun own => .injectSensorData { event with sensorHandle := own }) e.subHal e.own
      (injectSensorData reply t mode event)

theorem reachesOwn {reply : Nat → SubHalCall → Result} {t : SensorTables} {e : Exposure}
    (hn : t.subHalCount ≤ 128) (hown : subHalIndexIsClear e.own = true)
    (hi : e.subHal < t.subHalCount) (hh : e.handle = setSubHalIndex e.own e.subHal) :
    ReachesOwn reply t e where
  activate _ := routeCall_reaches hn hown hi hh
  batch _ _ := routeCall_reaches hn hown hi hh
  flush := routeCall_reaches hn hown hi hh
  inject := by
    intro mode event hevent hmode
    unfold injectSensorData
    rw [if_neg (fun hno => hno.2 (hmode hno.1))]
    exact routeCall_reaches hn hown hi (hevent.trans hh)

/-- In every history of hot plugging over up to 256 sub-HALs:

* exposures with the same handle are of the same sub-HAL and of the same handle of it;
* every sensor the framework is told about, by the sensor list or by a connect call, is exposed;
* activate, batch, flush and injectSensorData refuse a handle with BAD_VALUE and no call, or make
  one call, to the sub-HAL the handle encodes and under that sub-HAL's own handle;
* with at most 128 sub-HALs every exposed handle does reach its own sub-HAL. -/
theorem routing_right {reported : List (Option (List SensorInfo))} {r : Registry}
    (h : (registry reported).Reach r) (hn : reported.length ≤ 256)
    (reply : Nat → SubHalCall → Result) :
    (∀ e ∈ r.exposed, ∀ e' ∈ r.exposed, e.handle = e'.handle →
      e.subHal = e'.subHal ∧ e.own = e'.own) ∧
    (∀ info ∈ r.tables.getSensorsList21, ∃ e ∈ r.exposed, e.handle = info.sensorHandle) ∧
    (∀ i sensors u, r.step (.connect i sensors) = some u →
      ∀ info ∈ (r.tables.onDynamicSensorsConnected sensors i).1,
        ∃ e ∈ u.exposed, e.subHal = i ∧ e.handle = info.sensorHandle) ∧
    (∀ sensorHandle enabled, BadOrRouted reply r.tables (fun own => .activate own enabled)
      sensorHandle (activate reply r.tables sensorHandle enabled)) ∧
    (∀ sensorHandle period latency, BadOrRouted reply r.tables
      (fun own => .batch own period latency) sensorHandle
      (batch reply r.tables sensorHandle period latency)) ∧
    (∀ sensorHandle, BadOrRouted reply r.tables .flush sensorHandle
      (flush reply r.tables sensorHandle)) ∧
    (∀ mode event, BadOrRouted reply r.tables
      (fun own => .injectSensorData { event with sensorHandle := own }) event.sensorHandle
      (injectSensorData reply r.tables mode event)) ∧
    (reported.length ≤ 128 → ∀ e ∈ r.exposed, ReachesOwn reply r.tables e) := by
  have hr := registered_of_reach h
  have hcount : r.tables.subHalCount ≤ 256 := hr.count ▸ hn
  refine ⟨fun e he e' he' heq => ?_, hr.listed, fun i sensors u hstep info hinfo => ?_,
    fun _ _ => routeCall_badOrRouted hcount, fun _ _ _ => routeCall_badOrRouted hcount,
    fun _ => routeCall_badOrRouted hcount, fun mode event => ?_, fun hsmall e he => ?_⟩
  · -- both are made by the same encoder, which is injective below 256
    obtain ⟨hlt, hclear, hmade⟩ := hr.made e he
    obtain ⟨hlt', hclear', hmade'⟩ := hr.made e' he'
    rw [hmade, hmade'] at heq
    have hinj := setSubHalIndex_injective hclear hclear' (by omega) (by omega) heq
    exact hinj
  · have hmem : info.sensorHandle ∈ (exposures i sensors).map Exposure.handle := by
      rw [← connected_sensors]
      exact List.mem_map_of_mem hinfo
    obtain ⟨e, he, heq⟩ := List.mem_map.mp hmem
    have hsub : e.subHal = i := by
      obtain ⟨s, _, _, rfl⟩ := mem_exposures.mp he
      rfl
    simp only [Registry.step] at hstep
    split at hstep
    · cases hstep
      exact ⟨e, List.mem_append_right _ he, hsub, heq⟩
    · cases hstep
  · unfold injectSensorData
    split
    · exact Or.inl rfl
    · exact routeCall_badOrRouted hcount
  · obtain ⟨hlt, hclear, hmade⟩ := hr.made e he
    exact reachesOwn (hr.count ▸ hsmall) hclear (hr.count ▸ hlt) hmade

/-- Two sub-HALs with the same handle, one static and one dynamic, and a call for the dynamic one. -/
theorem routing_right_two_subHals :
    let reported := [some [(⟨1, "accel", 1, 0⟩ : SensorInfo)], some []]
    let reply : Nat → SubHalCall → Result := fun _ _ => .OK
    ∃ r, (registry reported).run
        ⟨.construct reported, staticExposures reported⟩ [.connect 1 [⟨1, "dynamic", 1, 0⟩]] = some r ∧
      r.exposed = [⟨0, 1, 1⟩, ⟨1, 1, 0x1000001⟩] ∧
      ReachesOwn reply r.tables ⟨1, 1, 0x1000001⟩ :=
  have hreach : (registry [some [(⟨1, "accel", 1, 0⟩ : SensorInfo)], some []]).Reach _ :=
    .next (a := .connect 1 [⟨1, "dynamic", 1, 0⟩]) (.start rfl) trivial rfl
  have hright := routing_right hreach (by decide) (fun _ _ => .OK)
  ⟨_, rfl, by decide, hright.2.2.2.2.2.2.2 (by decide) _ (by decide)⟩

end Smi240Hal.MultiHal
