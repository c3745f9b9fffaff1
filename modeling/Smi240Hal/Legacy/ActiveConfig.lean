/-
# Smi240Hal.Legacy.ActiveConfig — the sorted arrays of active sensor configurations

`sensord_hwcntl.cpp` keeps one configuration table and one array of references for each of two
ranges of list indices, the non-wake-up and the wake-up sensors.  `activate_configref_resort` keeps
the references of the active sensors sorted at the front of the array, by shifting with `memmove`;
`batch_configref_resort` changes the configuration of a sensor whether it is active or not.

A reference `&p_config[k]` is its offset `k`, a NULL reference is `none`; an access outside an array,
a subtraction from a NULL reference and a division by zero all make the call `none`.  A `float` is the
rational it holds: `BinaryFloat.round 23` stands wherever the source computes one.
-/
import Smi240Hal.Lib.BinaryFloat
import Smi240Hal.Lib.Machine
import Smi240Hal.Lib.SlotArray
import Mathlib.Data.List.Sort
import Mathlib.Data.Rat.Defs
import Mathlib.Algebra.Order.Ring.Unbundled.Rat

namespace Smi240Hal.Legacy

open Smi240Hal.Lib

/-! ## Encodings -/

def BSX_CONFSTR_2000Hz : Nat := 18
def BSX_CONFSTR_1600Hz : Nat := 17
def BSX_CONFSTR_1000Hz : Nat := 16
def BSX_CONFSTR_800Hz : Nat := 15
def BSX_CONFSTR_400Hz : Nat := 1
def BSX_CONFSTR_200Hz : Nat := 2
def BSX_CONFSTR_100Hz : Nat := 3
def BSX_CONFSTR_50Hz : Nat := 4
def BSX_CONFSTR_25Hz : Nat := 5
def BSX_CONFSTR_12_5Hz : Nat := 6
def BSX_CONFSTR_6_25Hz : Nat := 7
def BSX_CONFSTR_5Hz : Nat := 8
def BSX_CONFSTR_1Hz : Nat := 9

def BSX_CONFSTR_UNITns : Nat := 0x00
def BSX_CONFSTR_UNITus : Nat := 0x40
def BSX_CONFSTR_UNITms : Nat := 0x80
def BSX_CONFSTR_UNITs : Nat := 0xC0

/-- The rate `encode_datarate` computes. -/
def dataHz (periodNs : Int) : ℚ := BinaryFloat.round 23 (1000000000 / BinaryFloat.round 23 periodNs)

/-- The code `encode_datarate` returns for a rate. -/
def rateCode (hz : ℚ) : Nat :=
  if hz > 1600 ∧ hz ≤ 2000 then BSX_CONFSTR_2000Hz
  else if hz > 1000 ∧ hz ≤ 1600 then BSX_CONFSTR_1600Hz
  else if hz > 800 ∧ hz ≤ 1000 then BSX_CONFSTR_1000Hz
  else if hz > 400 ∧ hz ≤ 800 then BSX_CONFSTR_800Hz
  else if hz > 200 ∧ hz ≤ 400 then BSX_CONFSTR_400Hz
  else if hz > 100 ∧ hz ≤ 200 then BSX_CONFSTR_200Hz
  else if hz > 50 ∧ hz ≤ 100 then BSX_CONFSTR_100Hz
  else if hz > 25 ∧ hz ≤ 50 then BSX_CONFSTR_50Hz
  else if hz > 12 ∧ hz ≤ 25 then BSX_CONFSTR_25Hz
  else if hz > 6 ∧ hz ≤ 12 then BSX_CONFSTR_12_5Hz
  else if hz > 5 ∧ hz ≤ 6 then BSX_CONFSTR_6_25Hz
  else if hz > 1 ∧ hz ≤ 5 then BSX_CONFSTR_5Hz
  else if hz ≤ 1 then BSX_CONFSTR_1Hz
  else 0

/-- `encode_datarate`, over the computation of the rate. -/
def encodeDatarateOf (hzOf : Int → ℚ) (samplingPeriodNs : Int) : Nat :=
  if samplingPeriodNs = 0 then 0 else rateCode (hzOf samplingPeriodNs)

/-- `encode_datarate`: the code of the rate a sampling period asks for. -/
def encodeDatarate (samplingPeriodNs : Int) : Nat := encodeDatarateOf dataHz samplingPeriodNs

/-- A value stored in a `uint16_t`. -/
def toUInt16 (n : Int) : Nat := (n % 65536).toNat

/-- The value and the unit written for a report latency. -/
def encodeMaxLatency (maxReportLatencyNs : Int) : Nat × Nat :=
  if 1000000 ≤ maxReportLatencyNs ∧ maxReportLatencyNs < 1000000000 then
    (toUInt16 (maxReportLatencyNs.tdiv 1000000), BSX_CONFSTR_UNITms)
  else if 1000 ≤ maxReportLatencyNs ∧ maxReportLatencyNs < 1000000 then
    (toUInt16 (maxReportLatencyNs.tdiv 1000), BSX_CONFSTR_UNITus)
  else if maxReportLatencyNs < 1000 then (toUInt16 maxReportLatencyNs, BSX_CONFSTR_UNITns)
  else if 1000000000 ≤ maxReportLatencyNs ∧ maxReportLatencyNs < 16383000000000 then
    (toUInt16 (maxReportLatencyNs.tdiv 1000000000), BSX_CONFSTR_UNITs)
  else (16383, BSX_CONFSTR_UNITs)

/-! ## The tables and the arrays -/

/-- `BSX_SENSOR_CONFIG`. -/
structure SensorConfig where
  dataRate : Nat
  latencyUnit : Nat
  maxLatency : Nat
  fifoDataLen : Nat
  delayOnchangeHz : ℚ
deriving DecidableEq

/-- `DEFAULT_SENSOR_CONFIG`. -/
def defaultSensorConfig (odr unit latency len : Nat) (delay : ℚ) : SensorConfig :=
  ⟨odr, unit, latency, len, delay⟩

def SENSORLIST_INX_GAS_RESIST : Int := 0
def SENSORLIST_INX_AMBIENT_IAQ : Int := 31
def SENSORLIST_INX_WAKEUP_SIGNI_PRESSURE : Int := 32
def SENSORLIST_INX_END : Int := 64

/-- `BSX_sensor_config_nonwk` as initialised. -/
def sensorConfigNonwk : List SensorConfig :=
  [defaultSensorConfig 0 0 0 4 0,
   defaultSensorConfig BSX_CONFSTR_50Hz BSX_CONFSTR_UNITms 200 7 0,
   defaultSensorConfig BSX_CONFSTR_50Hz BSX_CONFSTR_UNITms 200 7 0,
   defaultSensorConfig BSX_CONFSTR_50Hz BSX_CONFSTR_UNITms 200 7 0,
   defaultSensorConfig BSX_CONFSTR_50Hz BSX_CONFSTR_UNITms 200 7 0,
   defaultSensorConfig BSX_CONFSTR_50Hz BSX_CONFSTR_UNITms 200 2 5,
   defaultSensorConfig BSX_CONFSTR_6_25Hz BSX_CONFSTR_UNITms 200 3 0,
   defaultSensorConfig BSX_CONFSTR_1Hz BSX_CONFSTR_UNITms 200 2 5,
   defaultSensorConfig BSX_CONFSTR_50Hz BSX_CONFSTR_UNITms 200 2 0,
   defaultSensorConfig BSX_CONFSTR_50Hz BSX_CONFSTR_UNITms 200 7 0,
   defaultSensorConfig BSX_CONFSTR_50Hz BSX_CONFSTR_UNITms 200 7 0,
   defaultSensorConfig BSX_CONFSTR_50Hz BSX_CONFSTR_UNITms 200 9 0,
   defaultSensorConfig BSX_CONFSTR_1Hz BSX_CONFSTR_UNITms 200 2 5,
   defaultSensorConfig BSX_CONFSTR_1Hz BSX_CONFSTR_UNITms 200 2 5,
   defaultSensorConfig BSX_CONFSTR_50Hz BSX_CONFSTR_UNITms 200 6 0,
   defaultSensorConfig BSX_CONFSTR_50Hz BSX_CONFSTR_UNITms 200 8 0,
   defaultSensorConfig BSX_CONFSTR_50Hz BSX_CONFSTR_UNITms 200 6 0,
   defaultSensorConfig 0 0 0 0 0,
   defaultSensorConfig 0 0 0 0 0,
   defaultSensorConfig BSX_CONFSTR_50Hz BSX_CONFSTR_UNITms 200 4 5,
   defaultSensorConfig BSX_CONFSTR_50Hz BSX_CONFSTR_UNITms 200 9 0,
   defaultSensorConfig BSX_CONFSTR_50Hz BSX_CONFSTR_UNITms 200 1 5,
   defaultSensorConfig 0 0 0 0 0,
   defaultSensorConfig 0 0 0 0 0,
   defaultSensorConfig 0 0 0 0 0,
   defaultSensorConfig 0 0 0 0 0,
   defaultSensorConfig 0 0 0 6 0,
   defaultSensorConfig 0 0 0 6 0,
   defaultSensorConfig 0 0 0 3 0,
   defaultSensorConfig BSX_CONFSTR_1Hz BSX_CONFSTR_UNITms 0 2 5,
   defaultSensorConfig BSX_CONFSTR_1Hz BSX_CONFSTR_UNITms 0 2 5,
   defaultSensorConfig BSX_CONFSTR_1Hz BSX_CONFSTR_UNITms 0 2 5]

/-- `BSX_sensor_config_wk` as initialised. -/
def sensorConfigWk : List SensorConfig :=
  [defaultSensorConfig 0 0 0 0 0,
   defaultSensorConfig BSX_CONFSTR_50Hz BSX_CONFSTR_UNITms 200 7 0,
   defaultSensorConfig BSX_CONFSTR_50Hz BSX_CONFSTR_UNITms 200 7 0,
   defaultSensorConfig BSX_CONFSTR_50Hz BSX_CONFSTR_UNITms 200 7 0,
   defaultSensorConfig BSX_CONFSTR_50Hz BSX_CONFSTR_UNITms 200 7 0,
   defaultSensorConfig BSX_CONFSTR_50Hz BSX_CONFSTR_UNITms 200 2 5,
   defaultSensorConfig BSX_CONFSTR_50Hz BSX_CONFSTR_UNITms 200 3 0,
   defaultSensorConfig BSX_CONFSTR_1Hz BSX_CONFSTR_UNITms 200 2 5,
   defaultSensorConfig BSX_CONFSTR_1Hz BSX_CONFSTR_UNITms 200 2 5,
   defaultSensorConfig BSX_CONFSTR_50Hz BSX_CONFSTR_UNITms 200 7 0,
   defaultSensorConfig BSX_CONFSTR_50Hz BSX_CONFSTR_UNITms 200 7 0,
   defaultSensorConfig BSX_CONFSTR_50Hz BSX_CONFSTR_UNITms 200 9 0,
   defaultSensorConfig BSX_CONFSTR_1Hz BSX_CONFSTR_UNITms 200 2 5,
   defaultSensorConfig BSX_CONFSTR_1Hz BSX_CONFSTR_UNITms 200 2 5,
   defaultSensorConfig BSX_CONFSTR_50Hz BSX_CONFSTR_UNITms 200 6 0,
   defaultSensorConfig BSX_CONFSTR_50Hz BSX_CONFSTR_UNITms 200 8 0,
   defaultSensorConfig BSX_CONFSTR_50Hz BSX_CONFSTR_UNITms 200 6 0,
   defaultSensorConfig 0 0 0 0 0,
   defaultSensorConfig 0 0 0 0 0,
   defaultSensorConfig BSX_CONFSTR_50Hz BSX_CONFSTR_UNITms 200 4 5,
   defaultSensorConfig BSX_CONFSTR_50Hz BSX_CONFSTR_UNITms 200 9 0,
   defaultSensorConfig BSX_CONFSTR_50Hz BSX_CONFSTR_UNITms 200 1 5,
   defaultSensorConfig 0 0 0 0 0,
   defaultSensorConfig 0 0 0 0 0,
   defaultSensorConfig 0 0 0 0 0,
   defaultSensorConfig 0 0 0 0 0,
   defaultSensorConfig 0 0 0 6 0,
   defaultSensorConfig 0 0 0 6 0,
   defaultSensorConfig 0 0 0 0 0,
   defaultSensorConfig 0 0 0 2 5,
   defaultSensorConfig 0 0 0 2 0,
   defaultSensorConfig BSX_CONFSTR_1Hz BSX_CONFSTR_UNITms 0 2 0]

/-- The two ranges of list indices. -/
inductive ConfRange
  | nonwk
  | wk
deriving DecidableEq, Repr

namespace ConfRange

/-- The range a list index is looked up in. -/
def of (bsxListIndex : Int) : ConfRange :=
  if bsxListIndex ≤ SENSORLIST_INX_AMBIENT_IAQ then nonwk else wk

/-- `bsx_listinx_base`. -/
def base : ConfRange → Int
  | nonwk => SENSORLIST_INX_GAS_RESIST
  | wk => SENSORLIST_INX_WAKEUP_SIGNI_PRESSURE

/-- `loop_end`. -/
def loopEnd : ConfRange → Nat
  | nonwk => (SENSORLIST_INX_AMBIENT_IAQ - SENSORLIST_INX_GAS_RESIST + 1).toNat
  | wk => (SENSORLIST_INX_END - SENSORLIST_INX_WAKEUP_SIGNI_PRESSURE).toNat

end ConfRange

/-- One range: `p_config`, `p_config_refers` and `*p_active_sensor_cnt`. -/
structure ConfBank where
  config : List SensorConfig
  configRefers : List (Option Int)
  activeSensorCnt : Nat
deriving DecidableEq

/-- All globals of the two functions. -/
structure ActiveConfigs where
  nonwk : ConfBank
  wk : ConfBank
deriving DecidableEq

namespace ActiveConfigs

/-- The initial values: all references NULL, both counters 0. -/
def init : ActiveConfigs where
  nonwk := ⟨sensorConfigNonwk, List.replicate 32 none, 0⟩
  wk := ⟨sensorConfigWk, List.replicate 32 none, 0⟩

/-- The arrays a list index belongs to. -/
def bank (s : ActiveConfigs) : ConfRange → ConfBank
  | .nonwk => s.nonwk
  | .wk => s.wk

/-- One of the two banks is replaced. -/
def setBank (s : ActiveConfigs) : ConfRange → ConfBank → ActiveConfigs
  | .nonwk, b => { s with nonwk := b }
  | .wk, b => { s with wk := b }

@[simp] theorem bank_setBank_same (s : ActiveConfigs) (r : ConfRange) (b : ConfBank) :
    (s.setBank r b).bank r = b := by
  cases r <;> rfl

theorem bank_setBank_of_ne (s : ActiveConfigs) {r q : ConfRange} (b : ConfBank) (h : q ≠ r) :
    (s.setBank r b).bank q = s.bank q := by
  cases r <;> cases q <;> first | exact absurd rfl h | rfl

theorem setBank_setBank (s : ActiveConfigs) (r : ConfRange) (b b' : ConfBank) :
    (s.setBank r b).setBank r b' = s.setBank r b' := by
  cases r <;> rfl

theorem setBank_comm (s : ActiveConfigs) {r q : ConfRange} (b b' : ConfBank) (h : q ≠ r) :
    (s.setBank r b).setBank q b' = (s.setBank q b').setBank r b := by
  cases r <;> cases q <;> first | exact absurd rfl h | rfl

end ActiveConfigs

/-! ## `activate_configref_resort` -/

/-- A `uint32_t` read as an `int`. -/
def asInt (n : Nat) : Int := if n < 2147483648 then n else (n : Int) - 4294967296

/-- The search loop, `n` iterations of it left; the result is the return value and the bank. -/
def activateLoop (base bsxListIndex isEnable : Int) (b : ConfBank) :
    Nat → Nat → Option (Int × ConfBank)
  | 0, _ => some (0, b)
  | n + 1, i => do
      match ← SlotArray.load b.configRefers i with
      | none =>
          if isEnable ≠ 0 then
            -- a blank: insert the current one
            let refers ← SlotArray.store b.configRefers i (some (bsxListIndex - base))
            some (1, { b with configRefers := refers
                              activeSensorCnt := (b.activeSensorCnt + 1) % 2 ^ 32 })
          else some (0, b)
      | some ref =>
          let currentBsxindex := base + ref
          if bsxListIndex > currentBsxindex then activateLoop base bsxListIndex isEnable b n (i + 1)
          else if bsxListIndex = currentBsxindex then
            if isEnable ≠ 0 then some (0, b)
            else
              let cnt := (b.activeSensorCnt + (2 ^ 32 - 1)) % 2 ^ 32
              let moved ← SlotArray.memmove b.configRefers i (i + 1) (asInt cnt - i)
              let refers ← SlotArray.store moved cnt none
              some (1, { b with configRefers := refers, activeSensorCnt := cnt })
          else
            if isEnable ≠ 0 then
              let moved ← SlotArray.memmove b.configRefers (i + 1) i (asInt b.activeSensorCnt - i)
              let refers ← SlotArray.store moved i (some (bsxListIndex - base))
              some (1, { b with configRefers := refers
                                activeSensorCnt := (b.activeSensorCnt + 1) % 2 ^ 32 })
            else some (0, b)

/-- Both branches of `activate_configref_resort`, the non-wake-up and the wake-up one: they differ in
the bank and in the bounds of its indices. -/
def activateConfigrefResort (s : ActiveConfigs) (bsxListIndex isEnable : Int) :
    Option (Int × ActiveConfigs) :=
  let r := ConfRange.of bsxListIndex
  (activateLoop r.base bsxListIndex isEnable (s.bank r) r.loopEnd 0).map
    fun out => (out.1, s.setBank r out.2)

/-! ## `batch_configref_resort` -/

/-- The arguments of a batch, after the index. -/
structure BatchArgs where
  samplingPeriodNs : Int
  maxReportLatencyNs : Int
  delayHz : ℚ
deriving DecidableEq

/-- The configuration a batch writes; `none` is the division by a zero period. -/
def batchConfig (a : BatchArgs) : Option SensorConfig :=
  if a.samplingPeriodNs = 0 then none
  else
    let latency := encodeMaxLatency a.maxReportLatencyNs
    some
      { dataRate := encodeDatarate a.samplingPeriodNs
        latencyUnit := latency.2
        maxLatency := latency.1
        fifoDataLen := toUInt16 (a.maxReportLatencyNs.tdiv a.samplingPeriodNs)
        delayOnchangeHz := a.delayHz }

/-- Store the configuration a batch writes into `p_config[k]`. -/
def writeConfig (b : ConfBank) (k : Int) (a : BatchArgs) : Option ConfBank :=
  if 0 ≤ k then do
    let c ← batchConfig a
    let config ← SlotArray.store b.config k.toNat c
    some { b with config := config }
  else none

/-- The search among the active references, `n` iterations of it left. -/
def batchLoop (base bsxListIndex : Int) (a : BatchArgs) (b : ConfBank) :
    Nat → Nat → Option (Int × ConfBank)
  | 0, _ => (writeConfig b (bsxListIndex - base) a).map fun b' => (0, b')
  | n + 1, i => do
      let slot ← SlotArray.load b.configRefers i
      let ref ← slot
      if bsxListIndex = base + ref then (writeConfig b ref a).map fun b' => (1, b')
      else batchLoop base bsxListIndex a b n (i + 1)

/-- Both branches of `batch_configref_resort`, as for `activateConfigrefResort`. -/
def batchConfigrefResort (s : ActiveConfigs) (bsxListIndex : Int) (a : BatchArgs) :
    Option (Int × ActiveConfigs) :=
  let r := ConfRange.of bsxListIndex
  (batchLoop r.base bsxListIndex a (s.bank r) (s.bank r).activeSensorCnt 0).map
    fun out => (out.1, s.setBank r out.2)

end Smi240Hal.Legacy
