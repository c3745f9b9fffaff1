/-
# Smi240Hal.Legacy.SensorTable — the table of all sensors, and which of them a batch divides by

`bosch_all_sensors` has an entry for each of the 64 list indices, with four reporting modes; an unused
entry is one of the special mode.  `ap_get_sensorlist` copies those whose bit is set in its register,
a constant of two bits.  The period of an on-change sensor is set to 0 on the way from `ap_batch` to
`batch_configref_resort`, which divides by it: the table has such entries, the list has none.
-/
import Smi240Hal.Legacy.HwcntlSteps

namespace Smi240Hal.Legacy

open Smi240Hal.Lib

/-! ## The table -/

def SENSOR_FLAG_WAKE_UP : Nat := 1

def SENSOR_MINDELAY_ONCHANGE : Int := 200000
def SENSOR_MINDELAY_ONESHOT : Int := -1
def SENSOR_MINDELAY_SPECIAL : Int := 0
def SENSOR_MAXDELAY_ONESHOT : Int := 0
def SENSOR_MAXDELAY_SPECIAL : Int := 0
def SENSOR_MAXDELAY_ONCHANGE : Int := 1800000000

/-- `UNUSED_SENSOR_T`. -/
def unusedSensorT (name : String) : SensorT :=
  ⟨some name, BSX_SENSOR_ID_INVALID, 0, 0, SENSOR_FLAG_SPECIAL_REPORTING_MODE⟩

/-- `bosch_all_sensors`; the handles are the values of `sensor_identifier_t`. -/
def boschAllSensorsTable : List SensorT :=
  [⟨some "BOSCH GAS Resist Sensor", 103, 1000000, 1000000, SENSOR_FLAG_ON_CHANGE_MODE⟩,
   ⟨some "BOSCH Accelerometer Sensor", 1, BST_SENSOR_MINDELAY_uS, 200000,
     SENSOR_FLAG_CONTINUOUS_MODE⟩,
   ⟨some "BOSCH Magnetic Field Sensor", 2, 40000, 200000, SENSOR_FLAG_CONTINUOUS_MODE⟩,
   ⟨some "BOSCH Orientation Sensor", 3, BST_SENSOR_MINDELAY_uS, 200000,
     SENSOR_FLAG_CONTINUOUS_MODE⟩,
   ⟨some "BOSCH Gyroscope Sensor", 4, BST_SENSOR_MINDELAY_uS, 200000, SENSOR_FLAG_CONTINUOUS_MODE⟩,
   ⟨some "BOSCH light", 5, SENSOR_MINDELAY_ONCHANGE, SENSOR_MAXDELAY_ONCHANGE,
     SENSOR_FLAG_ON_CHANGE_MODE⟩,
   ⟨some "BOSCH Pressure Sensor", 6, 160000, 160000, SENSOR_FLAG_CONTINUOUS_MODE⟩,
   ⟨some "BOSCH Temperature Sensor", 7, 1000000, 1000000, SENSOR_FLAG_ON_CHANGE_MODE⟩,
   unusedSensorT "BOSCH proximity",
   ⟨some "BOSCH Gravity Sensor", 9, BST_SENSOR_MINDELAY_uS, 200000, SENSOR_FLAG_CONTINUOUS_MODE⟩,
   ⟨some "BOSCH Linear Acceleration Sensor", 10, BST_SENSOR_MINDELAY_uS, 200000,
     SENSOR_FLAG_CONTINUOUS_MODE⟩,
   ⟨some "BOSCH Rotation Vector Sensor", 11, BST_SENSOR_MINDELAY_uS, 200000,
     SENSOR_FLAG_CONTINUOUS_MODE⟩,
   ⟨some "BOSCH Relative Humidity Sensor", 12, 1000000, 1000000, SENSOR_FLAG_ON_CHANGE_MODE⟩,
   ⟨some "BOSCH Ambient Temperature Sensor", 13, 1000000, 1000000, SENSOR_FLAG_ON_CHANGE_MODE⟩,
   ⟨some "BOSCH Magnetic Field Uncalibrated Sensor", 14, 40000, 200000,
     SENSOR_FLAG_CONTINUOUS_MODE⟩,
   ⟨some "BOSCH Game Rotation Vector Sensor", 15, BST_SENSOR_MINDELAY_uS, 200000,
     SENSOR_FLAG_CONTINUOUS_MODE⟩,
   ⟨some "BOSCH Gyroscope Uncalibrated Sensor", 16, BST_SENSOR_MINDELAY_uS, 200000,
     SENSOR_FLAG_CONTINUOUS_MODE⟩,
   unusedSensorT "BOSCH significant motion nonwakeup",
   ⟨some "BOSCH Step Detector Sensor", 18, SENSOR_MINDELAY_SPECIAL, SENSOR_MAXDELAY_SPECIAL,
     SENSOR_FLAG_SPECIAL_REPORTING_MODE⟩,
   ⟨some "BOSCH Step Counter Sensor", 19, SENSOR_MINDELAY_ONCHANGE, SENSOR_MAXDELAY_ONCHANGE,
     SENSOR_FLAG_ON_CHANGE_MODE⟩,
   ⟨some "BOSCH Geomagnetic Rotation Vector Sensor", 20, 40000, 200000,
     SENSOR_FLAG_CONTINUOUS_MODE⟩,
   ⟨some "BOSCH heart rate", 21, SENSOR_MINDELAY_ONCHANGE, SENSOR_MAXDELAY_ONCHANGE,
     SENSOR_FLAG_ON_CHANGE_MODE⟩,
   unusedSensorT "BOSCH tilt detector nonwakeup",
   unusedSensorT "BOSCH wake gesture nonwakeup",
   unusedSensorT "BOSCH glance gesture nonwakeup",
   unusedSensorT "BOSCH pickup gesture nonwakeup",
   unusedSensorT "BOSCH magnetic uncal offset",
   unusedSensorT "BOSCH gyroscope uncal offset",
   unusedSensorT "BOSCH power consumption nonwakeup",
   ⟨some "BOSCH Ambient Alcohol Sensor", 100, 1000000, 1000000, SENSOR_FLAG_ON_CHANGE_MODE⟩,
   ⟨some "BOSCH Ambient CO2 Sensor", 101, 1000000, 1000000, SENSOR_FLAG_ON_CHANGE_MODE⟩,
   ⟨some "BOSCH Ambient IAQ Sensor", 102, 1000000, 1000000, SENSOR_FLAG_ON_CHANGE_MODE⟩,
   unusedSensorT "BOSCH Signi Pressure (Wakeup) Sensor",
   ⟨some "BOSCH Accelerometer (Wakeup) Sensor", 33, BST_SENSOR_MINDELAY_uS, 200000,
     SENSOR_FLAG_CONTINUOUS_MODE ||| SENSOR_FLAG_WAKE_UP⟩,
   ⟨some "BOSCH Magnetic Field (Wakeup) Sensor", 34, 40000, 200000,
     SENSOR_FLAG_CONTINUOUS_MODE ||| SENSOR_FLAG_WAKE_UP⟩,
   ⟨some "BOSCH Orientation (Wakeup) Sensor", 35, BST_SENSOR_MINDELAY_uS, 200000,
     SENSOR_FLAG_CONTINUOUS_MODE ||| SENSOR_FLAG_WAKE_UP⟩,
   ⟨some "BOSCH Gyroscope (Wakeup) Sensor", 36, BST_SENSOR_MINDELAY_uS, 200000,
     SENSOR_FLAG_CONTINUOUS_MODE ||| SENSOR_FLAG_WAKE_UP⟩,
   ⟨some "BOSCH light wakeup", 37, SENSOR_MINDELAY_ONCHANGE, SENSOR_MAXDELAY_ONCHANGE,
     SENSOR_FLAG_ON_CHANGE_MODE ||| SENSOR_FLAG_WAKE_UP⟩,
   ⟨some "BOSCH Pressure (Wakeup) Sensor", 38, 10000, 200000,
     SENSOR_FLAG_CONTINUOUS_MODE ||| SENSOR_FLAG_WAKE_UP⟩,
   ⟨some "BOSCH Temperature (Wakeup) Sensor", 39, SENSOR_MINDELAY_ONCHANGE,
     SENSOR_MAXDELAY_ONCHANGE, SENSOR_FLAG_ON_CHANGE_MODE ||| SENSOR_FLAG_WAKE_UP⟩,
   ⟨some "BOSCH proximity wakeup", 40, SENSOR_MINDELAY_ONCHANGE, SENSOR_MAXDELAY_ONCHANGE,
     SENSOR_FLAG_ON_CHANGE_MODE ||| SENSOR_FLAG_WAKE_UP⟩,
   ⟨some "BOSCH Gravity (Wakeup) Sensor", 41, BST_SENSOR_MINDELAY_uS, 200000,
     SENSOR_FLAG_CONTINUOUS_MODE ||| SENSOR_FLAG_WAKE_UP⟩,
   ⟨some "BOSCH Linear Acceleration (Wakeup) Sensor", 42, BST_SENSOR_MINDELAY_uS, 200000,
     SENSOR_FLAG_CONTINUOUS_MODE ||| SENSOR_FLAG_WAKE_UP⟩,
   ⟨some "BOSCH Rotation Vector (Wakeup) Sensor", 43, BST_SENSOR_MINDELAY_uS, 200000,
     SENSOR_FLAG_CONTINUOUS_MODE ||| SENSOR_FLAG_WAKE_UP⟩,
   ⟨some "BOSCH Relative Humidity (Wakeup) Sensor", 44, SENSOR_MINDELAY_ONCHANGE,
     SENSOR_MAXDELAY_ONCHANGE, SENSOR_FLAG_ON_CHANGE_MODE ||| SENSOR_FLAG_WAKE_UP⟩,
   ⟨some "BOSCH Ambient Temperature (Wakeup) Sensor", 45, SENSOR_MINDELAY_ONCHANGE,
     SENSOR_MAXDELAY_ONCHANGE, SENSOR_FLAG_ON_CHANGE_MODE ||| SENSOR_FLAG_WAKE_UP⟩,
   ⟨some "BOSCH Magnetic Uncalibrated (Wakeup) Sensor", 46, 40000, 200000,
     SENSOR_FLAG_CONTINUOUS_MODE ||| SENSOR_FLAG_WAKE_UP⟩,
   ⟨some "BOSCH Game Rotation Vector (Wakeup) Sensor", 47, BST_SENSOR_MINDELAY_uS, 200000,
     SENSOR_FLAG_CONTINUOUS_MODE ||| SENSOR_FLAG_WAKE_UP⟩,
   ⟨some "BOSCH Gyroscope Uncalibrated (Wakeup) Sensor", 48, BST_SENSOR_MINDELAY_uS, 200000,
     SENSOR_FLAG_CONTINUOUS_MODE ||| SENSOR_FLAG_WAKE_UP⟩,
   ⟨some "BOSCH Significant Motion Sensor", 49, SENSOR_MINDELAY_ONESHOT,
     SENSOR_MAXDELAY_ONESHOT, SENSOR_FLAG_ONE_SHOT_MODE ||| SENSOR_FLAG_WAKE_UP⟩,
   ⟨some "BOSCH Step Detector (Wakeup) Sensor", 50, SENSOR_MINDELAY_SPECIAL,
     SENSOR_MAXDELAY_SPECIAL, SENSOR_FLAG_SPECIAL_REPORTING_MODE ||| SENSOR_FLAG_WAKE_UP⟩,
   ⟨some "BOSCH Step Counter (Wakeup) Sensor", 51, SENSOR_MINDELAY_ONCHANGE,
     SENSOR_MAXDELAY_ONCHANGE, SENSOR_FLAG_ON_CHANGE_MODE ||| SENSOR_FLAG_WAKE_UP⟩,
   ⟨some "BOSCH Geomagnetic Rotation Vector (Wakeup) Sensor", 52, 40000, 200000,
     SENSOR_FLAG_CONTINUOUS_MODE ||| SENSOR_FLAG_WAKE_UP⟩,
   ⟨some "BOSCH heart rate wakeup", 53, SENSOR_MINDELAY_ONCHANGE, SENSOR_MAXDELAY_ONCHANGE,
     SENSOR_FLAG_ON_CHANGE_MODE ||| SENSOR_FLAG_WAKE_UP⟩,
   ⟨some "BOSCH Tilt Detector Sensor", 54, SENSOR_MINDELAY_SPECIAL, SENSOR_MAXDELAY_SPECIAL,
     SENSOR_FLAG_SPECIAL_REPORTING_MODE ||| SENSOR_FLAG_WAKE_UP⟩,
   ⟨some "BOSCH Wake Gesture Sensor", 55, SENSOR_MINDELAY_ONESHOT, SENSOR_MAXDELAY_ONESHOT,
     SENSOR_FLAG_ONE_SHOT_MODE ||| SENSOR_FLAG_WAKE_UP⟩,
   ⟨some "BOSCH Glance Gesture Sensor", 56, SENSOR_MINDELAY_ONESHOT, SENSOR_MAXDELAY_ONESHOT,
     SENSOR_FLAG_ONE_SHOT_MODE ||| SENSOR_FLAG_WAKE_UP⟩,
   ⟨some "BOSCH Pickup Gesture Sensor", 57, SENSOR_MINDELAY_ONESHOT, SENSOR_MAXDELAY_ONESHOT,
     SENSOR_FLAG_ONE_SHOT_MODE ||| SENSOR_FLAG_WAKE_UP⟩,
   unusedSensorT "BOSCH magnetic uncal offset wakeup",
   unusedSensorT "BOSCH gyroscope uncal offset wakeup",
   unusedSensorT "BOSCH power consumption wakeup",
   ⟨some "BOSCH Activity Recognition Sensor", 30, SENSOR_MINDELAY_ONCHANGE,
     SENSOR_MAXDELAY_ONCHANGE, SENSOR_FLAG_ON_CHANGE_MODE ||| SENSOR_FLAG_WAKE_UP⟩,
   unusedSensorT "BOSCH Ambient CO2 (Wakeup) Sensor",
   unusedSensorT "BOSCH Ambient IAQ (Wakeup) Sensor"]

/-! ## The sensors that are made available -/

/-- `avail_sens_regval`. -/
def availSensRegval : Nat :=
  (1 <<< SENSORLIST_INX_ACCELEROMETER.toNat) ||| (1 <<< SENSORLIST_INX_GYROSCOPE_UNCALIBRATED.toNat)

/-- The copy loop of `ap_get_sensorlist`, `n` iterations of it left. -/
def copyLoop : Nat → Nat → Nat → List (SensorT × Int)
  | 0, _, _ => []
  | n + 1, i, regval =>
      if regval = 0 then []
      else
        (if regval &&& 0x1 ≠ 0 then (boschAllSensorsTable[i]?).toList.map fun p => (p, (i : Int))
          else []) ++ copyLoop n (i + 1) (regval >>> 1)

/-- It copies the two sensors of the list. -/
theorem copyLoop_availSensRegval :
    copyLoop SENSORLIST_INX_END.toNat 0 availSensRegval = boschSensorlist := rfl

/-! ## From a sensor to the quotient -/

/-- `ap_batch` on a sensor that was found, up to the return of `batch_configref_resort`. -/
def batchChain (s : ActiveConfigs) (e : SensorT × Int) (samplingPeriodNs maxReportLatencyNs : Int) :
    Option (Int × ActiveConfigs) :=
  if e.1.reportingMode = SENSOR_FLAG_ONE_SHOT_MODE then some (0, s)
  else if e.1.reportingMode = SENSOR_FLAG_SPECIAL_REPORTING_MODE then some (0, s)
  else batchConfigrefResort s e.2 (e.1.batchArgs samplingPeriodNs maxReportLatencyNs)

theorem apBatch_eq_chain {s : HwConfig} {handle : Int} {e : SensorT × Int}
    (hget : getSensorT handle = some e) (periodNs latency : Int) :
    s.apBatch handle periodNs latency =
      (batchChain s.configs e periodNs latency).bind fun out =>
        if out.1 ≠ 0 then
          (HwConfig.apSendConfig { s with configs := out.2 } e.2).map fun t => (0, t)
        else some (0, { s with configs := out.2 }) := by
  obtain ⟨p, i⟩ := e
  rw [HwConfig.apBatch, HwConfig.apBatchWith, hget]
  unfold batchChain
  dsimp only
  split
  · rfl
  · split
    · rfl
    · simp only [Option.map_eq_bind]
      rfl

/-- The modes of the table: what is batched with a period has limits of its own. -/
theorem boschAllSensorsTable_modes : ∀ p ∈ boschAllSensorsTable,
    p.reportingMode = SENSOR_FLAG_ONE_SHOT_MODE ∨
      p.reportingMode = SENSOR_FLAG_SPECIAL_REPORTING_MODE ∨
      p.reportingMode = SENSOR_FLAG_ON_CHANGE_MODE ∨
      (p.reportingMode = SENSOR_FLAG_CONTINUOUS_MODE ∧ 0 < p.minDelay ∧ 0 < p.maxDelay) := by
  decide

theorem clampPeriod_pos {p : SensorT} (hmin : 0 < p.minDelay) (hmax : 0 < p.maxDelay)
    (periodNs : Int) : 0 < p.clampPeriod periodNs := by
  unfold SensorT.clampPeriod
  split_ifs <;> omega

/-- The period that is handed on is 0 exactly for an on-change sensor. -/
theorem batchArgs_period {p : SensorT} (hp : p ∈ boschAllSensorsTable)
    (hone : p.reportingMode ≠ SENSOR_FLAG_ONE_SHOT_MODE)
    (hspecial : p.reportingMode ≠ SENSOR_FLAG_SPECIAL_REPORTING_MODE) (periodNs latency : Int) :
    (p.batchArgs periodNs latency).samplingPeriodNs = 0 ↔
      p.reportingMode = SENSOR_FLAG_ON_CHANGE_MODE := by
  unfold SensorT.batchArgs
  dsimp only
  rcases boschAllSensorsTable_modes p hp with h | h | h | ⟨hmode, hmin, hmax⟩
  · exact absurd h hone
  · exact absurd h hspecial
  · rw [if_pos h]
    exact iff_of_true rfl h
  · have hchange : p.reportingMode ≠ SENSOR_FLAG_ON_CHANGE_MODE := by
      rw [hmode]
      decide
    rw [if_neg hchange]
    exact iff_of_false (clampPeriod_pos hmin hmax periodNs).ne' hchange

theorem batchConfigrefResort_none {s : ActiveConfigs} {calls : List ConfCall} {i : Int}
    {a : BatchArgs} (h : Tracks s calls) (hi : 0 ≤ i ∧ i < SENSORLIST_INX_END) :
    batchConfigrefResort s i a = none ↔ a.samplingPeriodNs = 0 := by
  constructor
  · intro hnone
    by_contra hp
    obtain ⟨cfg, _, hsome⟩ :=
      batchConfigrefResort_eq h (show (ConfCall.batch i a).Valid from ⟨hi, hp⟩)
    rw [hsome] at hnone
    cases hnone
  · intro hzero
    cases hout : batchConfigrefResort s i a with
    | none => rfl
    | some out =>
        -- a call that gets through has a period
        have hstep : activeConfigs.step s (.batch i a) = some out.2 := by
          show (batchConfigrefResort s i a).map Prod.snd = _
          rw [hout, Option.map_some]
        exact absurd hzero (valid_of_step (c := .batch i a) h hi hstep).2

/-- In every state reached, with any period and latency: for an entry of the table the chain divides
by zero, in whichever branch, exactly if the entry is an on-change one; and for the sensors that are
made available it does not. -/
theorem batch_division_safe {s : ActiveConfigs}
    (h : activeConfigs.ReachUnder (fun _ c => c.InList) s) (periodNs latency : Int) :
    (∀ e ∈ copyLoop SENSORLIST_INX_END.toNat 0 availSensRegval,
        ∃ out, batchChain s e periodNs latency = some out) ∧
      ∀ (k : Nat) p, boschAllSensorsTable[k]? = some p →
        (batchChain s (p, (k : Int)) periodNs latency = none ↔
          p.reportingMode = SENSOR_FLAG_ON_CHANGE_MODE) := by
  obtain ⟨calls, htracks⟩ := exists_tracks h
  have hentry : ∀ (k : Nat) p, boschAllSensorsTable[k]? = some p →
      (batchChain s (p, (k : Int)) periodNs latency = none ↔
        p.reportingMode = SENSOR_FLAG_ON_CHANGE_MODE) := by
    intro k p hk
    obtain ⟨hlt, -⟩ := List.getElem?_eq_some_iff.mp hk
    have hlen : boschAllSensorsTable.length = 64 := rfl
    have hi : 0 ≤ (k : Int) ∧ (k : Int) < SENSORLIST_INX_END :=
      ⟨by omega, show (k : Int) < 64 by omega⟩
    unfold batchChain
    dsimp only
    split
    case isTrue hone => exact iff_of_false nofun (by rw [hone]; decide)
    case isFalse hone =>
      split
      case isTrue hspecial => exact iff_of_false nofun (by rw [hspecial]; decide)
      case isFalse hspecial =>
        rw [batchConfigrefResort_none htracks hi,
          batchArgs_period (List.mem_of_getElem? hk) hone hspecial]
  refine ⟨fun e he => ?_, hentry⟩
  rw [copyLoop_availSensRegval] at he
  have hplaced : ∀ e ∈ boschSensorlist, boschAllSensorsTable[e.2.toNat]? = some e.1 ∧
      ((e.2.toNat : Nat) : Int) = e.2 ∧ e.1.reportingMode ≠ SENSOR_FLAG_ON_CHANGE_MODE := by
    decide
  obtain ⟨hk, hidx, hmode⟩ := hplaced e he
  have hnot := (not_congr (hentry _ _ hk)).mpr hmode
  rw [hidx] at hnot
  exact Option.ne_none_iff_exists'.mp hnot

/-- The initial state: 0 ns for the accelerometer, and an entry that would not be safe. -/
theorem batch_division_safe_init :
    (∀ e ∈ boschSensorlist, ∃ out, batchChain .init e 0 (2 ^ 63 - 1) = some out) ∧
      ∃ p, boschAllSensorsTable[5]? = some p ∧ batchChain .init (p, 5) 0 (2 ^ 63 - 1) = none := by
  obtain ⟨hplaced, hentry⟩ := batch_division_safe (.start rfl) 0 (2 ^ 63 - 1)
  obtain ⟨p, hp, hmode⟩ : ∃ p, boschAllSensorsTable[5]? = some p ∧
    p.reportingMode = SENSOR_FLAG_ON_CHANGE_MODE := ⟨_, rfl, rfl⟩
  exact ⟨hplaced, p, hp, (hentry 5 p hp).mpr hmode⟩

end Smi240Hal.Legacy
