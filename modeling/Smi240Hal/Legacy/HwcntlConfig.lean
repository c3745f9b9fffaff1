/-
# Smi240Hal.Legacy.HwcntlConfig — activate and batch of the poll device, down to the polling interval

`ap_activate` and `ap_batch` of `sensord_hwcntl_implement.cpp` look the handle up in the sensor list,
change the configuration arrays and send the configuration on to the physical sensor.  What reaches
the hardware is `sampling_interval`, the pause of the polling thread in microseconds: the node of
the accelerometer sets it, the node of the gyroscope does not.

The sensor list is the one `ap_get_sensorlist` builds from its register of available sensors, and
both chips are the SMI240, as `sensord_cfg.cpp` sets them.  A call is `none` when an array access
leaves its array.
-/
import Smi240Hal.Legacy.ActiveConfig
import Smi240Hal.Legacy.SensorData

namespace Smi240Hal.Legacy

open Smi240Hal.Lib

/-! ## The sensor list -/

def SENSORLIST_INX_ACCELEROMETER : Int := 1
def SENSORLIST_INX_GYROSCOPE_UNCALIBRATED : Int := 16
def SENSORLIST_INX_WAKEUP_ACTIVITY : Int := 61

def SENSOR_FLAG_CONTINUOUS_MODE : Nat := 0
def SENSOR_FLAG_ON_CHANGE_MODE : Nat := 2
def SENSOR_FLAG_ONE_SHOT_MODE : Nat := 4
def SENSOR_FLAG_SPECIAL_REPORTING_MODE : Nat := 6
def REPORTING_MODE_MASK : Nat := 0xE

def BSX_SENSOR_ID_INVALID : Int := 255
def BST_SENSOR_MINDELAY_uS : Int := 500

/-- `sensor_t`, as far as the poll device reads it. -/
structure SensorT where
  name : Option String
  handle : Int
  minDelay : Int
  maxDelay : Int
  flags : Nat
deriving DecidableEq

def SensorT.reportingMode (p : SensorT) : Nat := p.flags &&& REPORTING_MODE_MASK

/-- The clamp of `ap_batch`: a period is silently brought into the range of the sensor. -/
def SensorT.clampPeriod (p : SensorT) (samplingPeriodNs : Int) : Int :=
  if samplingPeriodNs < p.minDelay * 1000 then p.minDelay * 1000
  else if samplingPeriodNs > p.maxDelay * 1000 then p.maxDelay * 1000
  else samplingPeriodNs

/-- The entries of `bosch_all_sensors` that are made available. -/
def boschAllSensors (bsxListInx : Int) : Option SensorT :=
  if bsxListInx = SENSORLIST_INX_ACCELEROMETER then
    some ⟨some "BOSCH Accelerometer Sensor", BSX_SENSOR_ID_ACCELEROMETER, BST_SENSOR_MINDELAY_uS,
      200000, SENSOR_FLAG_CONTINUOUS_MODE⟩
  else if bsxListInx = SENSORLIST_INX_GYROSCOPE_UNCALIBRATED then
    some ⟨some "BOSCH Gyroscope Uncalibrated Sensor", BSX_SENSOR_ID_GYROSCOPE_UNCALIBRATED,
      BST_SENSOR_MINDELAY_uS, 200000, SENSOR_FLAG_CONTINUOUS_MODE⟩
  else none

/-- `bosch_sensorlist`: the sensors and `bsx_list_index`. -/
def boschSensorlist : List (SensorT × Int) :=
  [SENSORLIST_INX_ACCELEROMETER, SENSORLIST_INX_GYROSCOPE_UNCALIBRATED].filterMap
    fun i => (boschAllSensors i).map fun p => (p, i)

/-- `get_sensor_t`: the first named sensor with the handle. -/
def getSensorT (handle : Int) : Option (SensorT × Int) :=
  boschSensorlist.find? fun e => e.1.name.isSome && e.1.handle == handle

/-- The arguments `ap_batch` hands on for a sensor. -/
def SensorT.batchArgs (p : SensorT) (samplingPeriodNs maxReportLatencyNs : Int) : BatchArgs :=
  let period := p.clampPeriod samplingPeriodNs
  -- an on-change sensor keeps its period as a delay
  let onChange := p.reportingMode = SENSOR_FLAG_ON_CHANGE_MODE
  { samplingPeriodNs := if onChange then 0 else period
    maxReportLatencyNs := maxReportLatencyNs
    delayHz := if onChange then BinaryFloat.round 23 (1000000000 / BinaryFloat.round 23 period) else 0 }

/-! ## Sending a configuration -/

def BSX_VIRTUAL_SENSOR_ID_INVALID : Int := 0

/-- `bsx_inx_splid_maptbl`. -/
def bsxInxSplidMaptbl : List (Int × Int) :=
  [(1, 4), (2, 24), (3, 52), (4, 14), (9, 32), (10, 36), (11, 40), (14, 22), (15, 44), (16, 12),
   (18, 66), (19, 68), (20, 48), (33, 8), (34, 28), (35, 54), (36, 18), (41, 34), (42, 38),
   (43, 42), (46, 30), (47, 46), (48, 20), (49, 72), (51, 70), (52, 50), (54, 64), (55, 74),
   (56, 76), (57, 78), (61, 80)]

/-- `convert_BSX_ListInx`. -/
def convertBSXListInx (bsxListInx : Int) : Int :=
  ((bsxInxSplidMaptbl.find? fun e => e.1 == bsxListInx).map Prod.snd).getD
    BSX_VIRTUAL_SENSOR_ID_INVALID

/-- `CONVERT_DATARATE_CODE`. -/
def convertDatarateCode (code : Nat) : ℚ :=
  if code = BSX_CONFSTR_2000Hz then 2000
  else if code = BSX_CONFSTR_1600Hz then 1600
  else if code = BSX_CONFSTR_1000Hz then 1000
  else if code = BSX_CONFSTR_800Hz then 800
  else if code = BSX_CONFSTR_400Hz then 400
  else if code = BSX_CONFSTR_200Hz then 200
  else if code = BSX_CONFSTR_100Hz then 100
  else if code = BSX_CONFSTR_50Hz then 50
  else if code = BSX_CONFSTR_25Hz then 25
  else if code = BSX_CONFSTR_12_5Hz then 12.5
  else if code = BSX_CONFSTR_6_25Hz then 6.25
  else if code = BSX_CONFSTR_5Hz then 5
  else if code = BSX_CONFSTR_1Hz then 1
  else 0

def SMI240_ODR_5HZ : Nat := 5
def SMI240_ODR_50HZ : Nat := 50
def SMI240_ODR_100HZ : Nat := 100
def SMI240_ODR_200HZ : Nat := 200
def SMI240_ODR_400HZ : Nat := 400

/-- `SMI240_convert_ODR`. -/
def smi240ConvertODR (hz : ℚ) : Nat :=
  if hz > 200 then SMI240_ODR_400HZ
  else if hz > 100 ∧ hz ≤ 200 then SMI240_ODR_200HZ
  else if hz > 50 ∧ hz ≤ 100 then SMI240_ODR_100HZ
  else if hz > 5 ∧ hz ≤ 50 then SMI240_ODR_50HZ
  else if hz ≤ 5 then SMI240_ODR_5HZ
  else 0

def US_PER_SEC : Nat := 1000000
def SAMPLE_RATE_DISABLED : ℚ := 65535

/-- The configuration arrays and `sampling_interval`. -/
structure HwConfig where
  configs : ActiveConfigs
  samplingInterval : Nat
deriving DecidableEq

namespace HwConfig

def init : HwConfig where
  configs := .init
  samplingInterval := US_PER_SEC

/-- `ap_config_phyACC`. -/
def apConfigPhyACC (s : HwConfig) (sampleRate : ℚ) : HwConfig :=
  if sampleRate = SAMPLE_RATE_DISABLED then s
  else { s with samplingInterval := US_PER_SEC / smi240ConvertODR sampleRate }

/-- `ap_config_phyGYR`: both branches only write to the log. -/
def apConfigPhyGYR (s : HwConfig) (_sampleRate : ℚ) : HwConfig := s

/-- `ap_config_physensor`; no input id is `BSX_PHYSICAL_SENSOR_ID_INVALID`. -/
def apConfigPhysensor (s : HwConfig) (inputId : Nat) (sampleRate : ℚ) : HwConfig :=
  if inputId = BSX_INPUT_ID_ACCELERATION then s.apConfigPhyACC sampleRate
  else if inputId = BSX_INPUT_ID_ANGULARRATE then s.apConfigPhyGYR sampleRate
  else s

/-- The switch from a list index to a physical sensor. -/
def inputIdOf (bsxListInx : Int) : Option Nat :=
  if bsxListInx = SENSORLIST_INX_ACCELEROMETER then some BSX_INPUT_ID_ACCELERATION
  else if bsxListInx = SENSORLIST_INX_GYROSCOPE_UNCALIBRATED then some BSX_INPUT_ID_ANGULARRATE
  else none

/-- The sample rate `ap_send_config` takes out of the table. -/
def configuredRate (s : HwConfig) (bsxListInx : Int) : Option ℚ := do
  let r := ConfRange.of bsxListInx
  let pSensor ← boschAllSensors bsxListInx
  let config ← SlotArray.load (s.configs.bank r).config (bsxListInx - r.base).toNat
  if bsxListInx = SENSORLIST_INX_WAKEUP_ACTIVITY then some 0
  else if pSensor.reportingMode = SENSOR_FLAG_ON_CHANGE_MODE then some config.delayOnchangeHz
  else some (convertDatarateCode config.dataRate)

/-- `ap_send_config`. -/
def apSendConfig (s : HwConfig) (bsxListInx : Int) : Option HwConfig :=
  if convertBSXListInx bsxListInx = BSX_VIRTUAL_SENSOR_ID_INVALID then some s
  else do
    let rate ← s.configuredRate bsxListInx
    match inputIdOf bsxListInx with
    | none => some s
    | some inputId => some (s.apConfigPhysensor inputId rate)

/-- `ap_send_disable_config`. -/
def apSendDisableConfig (s : HwConfig) (bsxListInx : Int) : HwConfig :=
  if convertBSXListInx bsxListInx = BSX_VIRTUAL_SENSOR_ID_INVALID then s
  else
    match inputIdOf bsxListInx with
    | none => s
    | some inputId => s.apConfigPhysensor inputId SAMPLE_RATE_DISABLED

/-! ## The calls of the poll device -/

def EINVAL : Int := 22

/-- `ap_activate`: the configuration is sent whatever `activate_configref_resort` returns. -/
def apActivate (s : HwConfig) (handle enabled : Int) : Option (Int × HwConfig) :=
  if handle = BSX_SENSOR_ID_INVALID then some (0, s)
  else
    match getSensorT handle with
    | none => some (-EINVAL, s)
    | some (_, bsxListInx) => do
        let (_, configs) ← activateConfigrefResort s.configs bsxListInx enabled
        let s := { s with configs := configs }
        if enabled ≠ 0 then do
          let s ← s.apSendConfig bsxListInx
          some (0, s)
        else some (0, s.apSendDisableConfig bsxListInx)

/-- `ap_batch`, over the function that writes the configuration. -/
def apBatchWith (resort : ActiveConfigs → Int → BatchArgs → Option (Int × ActiveConfigs))
    (s : HwConfig) (handle samplingPeriodNs maxReportLatencyNs : Int) : Option (Int × HwConfig) :=
  match getSensorT handle with
  | none => some (if maxReportLatencyNs = 0 then 0 else -EINVAL, s)
  | some (pSensor, bsxListInx) =>
      if pSensor.reportingMode = SENSOR_FLAG_ONE_SHOT_MODE then some (0, s)
      else if pSensor.reportingMode = SENSOR_FLAG_SPECIAL_REPORTING_MODE then some (0, s)
      else do
        let (ret, configs) ←
          resort s.configs bsxListInx (pSensor.batchArgs samplingPeriodNs maxReportLatencyNs)
        let s := { s with configs := configs }
        if ret ≠ 0 then do
          let s ← s.apSendConfig bsxListInx
          some (0, s)
        else some (0, s)

/-- `ap_batch`. -/
def apBatch (s : HwConfig) (handle samplingPeriodNs maxReportLatencyNs : Int) :
    Option (Int × HwConfig) :=
  s.apBatchWith batchConfigrefResort handle samplingPeriodNs maxReportLatencyNs

end HwConfig

/-- A call of the poll device, with the arguments the driver reads. -/
inductive PollCall
  | activate (handle enabled : Int)
  | batch (handle samplingPeriodNs maxReportLatencyNs : Int)
deriving DecidableEq

def HwConfig.call (s : HwConfig) : PollCall → Option (Int × HwConfig)
  | .activate handle enabled => s.apActivate handle enabled
  | .batch handle period latency => s.apBatch handle period latency

/-- The driver under a sequence of calls. -/
def pollDevice : Machine HwConfig PollCall where
  Start s := s = .init
  step s c := (s.call c).map Prod.snd

end Smi240Hal.Legacy
