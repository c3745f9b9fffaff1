/-
# Smi240Hal.Legacy.SensorData — the samples and events of the legacy pipeline

`HW_DATA_UNION` carries a sample from the sysfs node to the algorithm, `bsx_fifo_data_t` is the copy
put into the library input package and `sensors_event_t` is what is written to the HAL pipe.

The C code stores the sensor values as `float`.  Nothing here depends on rounding, so the arithmetic
is a parameter: `CFloat F` names the operations the code performs, and `ℚ` is the exact instance.
A pointer returned by `calloc` is identified by the number of the allocation (`addr`), so two
samples with equal contents stay different samples.
-/
import Mathlib.Data.Rat.Defs
import Mathlib.Data.List.Basic
import Mathlib.Algebra.Order.Ring.Unbundled.Rat

namespace Smi240Hal.Legacy

/-- The `float` operations the legacy code uses. -/
class CFloat (F : Type) where
  /-- A constant, or an `int32_t` converted to `float`. -/
  ofRat : ℚ → F
  /-- A `float` converted to `int32_t`. -/
  toInt : F → Int
  mul : F → F → F
  sub : F → F → F

instance : CFloat ℚ where
  ofRat q := q
  toInt q := q.num.tdiv q.den
  mul a b := a * b
  sub a b := a - b

/-! ## Constants -/

def SENSOR_TYPE_ACCELEROMETER : Nat := 1
def SENSOR_TYPE_GYROSCOPE_UNCALIBRATED : Nat := 16

def BSX_INPUT_ID_ACCELERATION : Nat := 1
def BSX_INPUT_ID_ANGULARRATE : Nat := 3

def BSX_SENSOR_ID_ACCELEROMETER : Nat := 1
def BSX_SENSOR_ID_GYROSCOPE_UNCALIBRATED : Nat := 16

/-- `accl_range`, set in `sensord_cfg.cpp` and assigned nowhere else. -/
def acclRange : Nat := 16

/-- `gyro_range`, set in `sensord_cfg.cpp` and assigned nowhere else. -/
def gyroRange : Nat := 300

/-- `g_place_g`, set in `sensord_cfg.cpp` and assigned nowhere else. -/
def gPlaceG : Nat := 0

/-! ## Samples -/

/-- What one pass of a polling loop reads: the three numbers extracted from the node and the
`timespec` of `clock_gettime`.  `calloc` and `nod` say whether the two allocations of the pass (the
sample and its list node) succeed. -/
structure SysfsReading where
  x : Int
  y : Int
  z : Int
  tvSec : Int
  tvNsec : Int
  calloc : Bool
  nod : Bool
deriving DecidableEq

/-- `timestamp.tv_sec * 1000000000LL + timestamp.tv_nsec`. -/
def SysfsReading.timestamp (r : SysfsReading) : Int := r.tvSec * 1000000000 + r.tvNsec

/-- Both allocations of the pass succeed. -/
def SysfsReading.AllocOk (r : SysfsReading) : Prop := r.calloc = true ∧ r.nod = true

instance (r : SysfsReading) : Decidable r.AllocOk := inferInstanceAs (Decidable (_ ∧ _))

/-- `HW_DATA_UNION`, with the number of the allocation that made it. -/
structure HwDataUnion (F : Type) where
  addr : Nat
  id : Nat
  x : F
  y : F
  z : F
  timestamp : Int
deriving DecidableEq

variable {F : Type} [CFloat F]

/-- `struct axis_remap_m`. -/
structure AxisRemapM where
  rxY : Bool
  sx : Bool
  sy : Bool
  sz : Bool

/-- `axis_remap_matrix`, rows P0 to P7. -/
def axisRemapMatrix : List AxisRemapM :=
  [⟨false, false, false, false⟩, ⟨false, true, false, true⟩, ⟨false, true, true, false⟩,
   ⟨false, false, true, true⟩, ⟨true, true, false, false⟩, ⟨true, false, true, false⟩,
   ⟨true, false, false, true⟩, ⟨true, true, true, true⟩]

/-- `hw_remap_sensor_data`; a position outside the table has no row (`none`). -/
def hwRemapSensorData (v : F × F × F) (position : Nat) : Option (F × F × F) :=
  (axisRemapMatrix[position]?).map fun m =>
    let neg (b : Bool) (a : F) : F := if b then CFloat.sub (CFloat.ofRat 0) a else a
    let (x, y) := if m.rxY then (v.2.1, v.1) else (v.1, v.2.1)
    (neg m.sx x, neg m.sy y, neg m.sz v.2.2)

/-- The sample `ap_hw_poll_smi240acc` fills in. -/
def accHwData (addr : Nat) (r : SysfsReading) : HwDataUnion F where
  addr := addr
  id := SENSOR_TYPE_ACCELEROMETER
  x := CFloat.ofRat r.x
  y := CFloat.ofRat r.y
  z := CFloat.ofRat r.z
  timestamp := r.timestamp

/-- The sample `ap_hw_poll_smi240gyro` fills in, after the axis remapping. -/
def gyroHwData (addr : Nat) (r : SysfsReading) : HwDataUnion F :=
  let raw : F × F × F := (CFloat.ofRat r.x, CFloat.ofRat r.y, CFloat.ofRat r.z)
  let v := (hwRemapSensorData raw gPlaceG).getD raw
  { addr := addr
    id := SENSOR_TYPE_GYROSCOPE_UNCALIBRATED
    x := v.1
    y := v.2.1
    z := v.2.2
    timestamp := r.timestamp }

/-! ## The library input package and the events -/

/-- `bsx_fifo_data_t`: the three `sli` words, the time stamp and the input id. -/
structure BsxFifoData where
  timeStamp : Int
  sensorId : Nat
  x : Int
  y : Int
  z : Int
deriving DecidableEq

/-- `sensors_event_t`, the fields of a data event. -/
structure SensorsEvent (F : Type) where
  sensor : Nat
  type : Nat
  timestamp : Int
  x : F
  y : F
  z : F
deriving DecidableEq

/-- `convert_acc` for a configured range, `none` for the `default` case. -/
def convertAcc (range : Nat) : Option F :=
  let perBit : ℚ := (981 / 100) / 32767
  match range with
  | 2 => some (CFloat.ofRat (perBit * 2))
  | 4 => some (CFloat.ofRat (perBit * 4))
  | 8 => some (CFloat.ofRat (perBit * 8))
  | 16 => some (CFloat.ofRat (perBit * 16))
  | _ => none

/-- `convert_gyro` for a configured range, `none` for the `default` case. -/
def convertGyro (range : Nat) : Option F :=
  let perBit : ℚ := (314 / 100) / 180 / 32767
  match range with
  | 125 => some (CFloat.ofRat (perBit * 125))
  | 250 => some (CFloat.ofRat (perBit * 250))
  | 300 => some (CFloat.ofRat (perBit * 300))
  | 500 => some (CFloat.ofRat (perBit * 500))
  | 1000 => some (CFloat.ofRat (perBit * 1000))
  | 2000 => some (CFloat.ofRat (perBit * 2000))
  | _ => none

/-- `sli * convert`. -/
def scale (sli : Int) (convert : F) : F := CFloat.mul (CFloat.ofRat sli) convert

/-- The body of the delivery loop: the event made from one entry of the package.  `none` is a
`continue`, which delivers nothing. -/
def packageEvent (d : BsxFifoData) : Option (SensorsEvent F) :=
  if d.sensorId = BSX_INPUT_ID_ACCELERATION then
    (convertAcc acclRange).map fun c =>
      ⟨BSX_SENSOR_ID_ACCELEROMETER, SENSOR_TYPE_ACCELEROMETER, d.timeStamp,
        scale d.x c, scale d.y c, scale d.z c⟩
  else if d.sensorId = BSX_INPUT_ID_ANGULARRATE then
    (convertGyro gyroRange).map fun c =>
      ⟨BSX_SENSOR_ID_GYROSCOPE_UNCALIBRATED, SENSOR_TYPE_GYROSCOPE_UNCALIBRATED, d.timeStamp,
        scale d.x c, scale d.y c, scale d.z c⟩
  else none

/-- `accel_in_data` after a sample has been copied into it. -/
def accelInData (s : HwDataUnion F) : BsxFifoData :=
  ⟨s.timestamp, BSX_INPUT_ID_ACCELERATION, CFloat.toInt s.x, CFloat.toInt s.y, CFloat.toInt s.z⟩

/-- `ang_in_data` after a sample has been copied into it. -/
def angInData (s : HwDataUnion F) : BsxFifoData :=
  ⟨s.timestamp, BSX_INPUT_ID_ANGULARRATE, CFloat.toInt s.x, CFloat.toInt s.y, CFloat.toInt s.z⟩

/-- The event an accelerometer sample becomes: 16 G is the configured range. -/
def accEvent (s : HwDataUnion F) : SensorsEvent F :=
  let c : F := CFloat.ofRat ((981 / 100) / 32767 * 16)
  ⟨BSX_SENSOR_ID_ACCELEROMETER, SENSOR_TYPE_ACCELEROMETER, s.timestamp,
    scale (CFloat.toInt s.x) c, scale (CFloat.toInt s.y) c, scale (CFloat.toInt s.z) c⟩

/-- The event a gyroscope sample becomes: 300 dps is the configured range. -/
def gyroEvent (s : HwDataUnion F) : SensorsEvent F :=
  let c : F := CFloat.ofRat ((314 / 100) / 180 / 32767 * 300)
  ⟨BSX_SENSOR_ID_GYROSCOPE_UNCALIBRATED, SENSOR_TYPE_GYROSCOPE_UNCALIBRATED, s.timestamp,
    scale (CFloat.toInt s.x) c, scale (CFloat.toInt s.y) c, scale (CFloat.toInt s.z) c⟩

/-- The configured ranges have a conversion factor, so no sample falls into a `default` case. -/
theorem packageEvent_accelInData (s : HwDataUnion F) :
    packageEvent (accelInData s) = some (accEvent s) := rfl

theorem packageEvent_angInData (s : HwDataUnion F) :
    packageEvent (angInData s) = some (gyroEvent s) := rfl

/-- The event of a sample of either sensor. -/
def sampleEvent (s : HwDataUnion F) : SensorsEvent F :=
  if s.id = SENSOR_TYPE_ACCELEROMETER then accEvent s else gyroEvent s

@[simp] theorem sampleEvent_timestamp (s : HwDataUnion F) :
    (sampleEvent s).timestamp = s.timestamp := by
  unfold sampleEvent
  split <;> rfl

end Smi240Hal.Legacy
