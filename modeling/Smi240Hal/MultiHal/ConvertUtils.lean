/-
# Smi240Hal.MultiHal.ConvertUtils — the two conversions at the AIDL boundary

`convertToHidlEvent` and `convertToAidlEvent` are two switches over the sensor type.  What a case of
theirs copies is a pair `readVec3`, `writeVec3` (and so on): the member of the HIDL union as the AIDL
structure, and back, field by field in the order of the source.

A failed `CHECK_GE` and a `get` of a member that is not set end the process: `none`.  Both functions
fill an event of the caller; what they do not write stays.
-/
import Smi240Hal.MultiHal.EventPayload

namespace Smi240Hal.MultiHal

open Smi240Hal.Lib

/-! ## What the cases copy -/

namespace Hidl

variable (e : EventPayload)

/-- The cases of META_DATA. -/
def readMeta : Aidl.MetaData where
  what := u.metaData.what.read e

def writeMeta (m : Aidl.MetaData) : EventPayload := u.metaData.what.write m.what e

/-- The cases of the accelerometer and of the five other types with three values and a status. -/
def readVec3 : Aidl.Vec3 where
  x := u.vec3.x.read e
  y := u.vec3.y.read e
  z := u.vec3.z.read e
  status := u.vec3.status.read e

def writeVec3 (v : Aidl.Vec3) : EventPayload :=
  e |> u.vec3.x.write v.x |> u.vec3.y.write v.y |> u.vec3.z.write v.z
    |> u.vec3.status.write v.status

/-- The cases of GAME_ROTATION_VECTOR; four values without a status. -/
def readVec4 : Aidl.Vec4 where
  x := u.vec4.x.read e
  y := u.vec4.y.read e
  z := u.vec4.z.read e
  w := u.vec4.w.read e

def writeVec4 (v : Aidl.Vec4) : EventPayload :=
  e |> u.vec4.x.write v.x |> u.vec4.y.write v.y |> u.vec4.z.write v.z |> u.vec4.w.write v.w

/-- Five values, in an array of as many floats; the others of a new `Data` are zero. -/
def readFirst5 : Aidl.Data where
  values := u.data.first5.write (u.data.first5.read e) fun _ => 0

/-- Of the array of a `Data` no more than those five is copied back. -/
def writeFirst5 (d : Aidl.Data) : EventPayload :=
  u.data.first5.write (u.data.first5.read d.values) e

/-- The cases of the three uncalibrated types: three values and their biases. -/
def readUncal : Aidl.Uncal where
  x := u.uncal.x.read e
  y := u.uncal.y.read e
  z := u.uncal.z.read e
  xBias := u.uncal.x_bias.read e
  yBias := u.uncal.y_bias.read e
  zBias := u.uncal.z_bias.read e

def writeUncal (v : Aidl.Uncal) : EventPayload :=
  e |> u.uncal.x.write v.x |> u.uncal.y.write v.y |> u.uncal.z.write v.z
    |> u.uncal.x_bias.write v.xBias |> u.uncal.y_bias.write v.yBias |> u.uncal.z_bias.write v.zBias

/-- The cases of HEART_RATE. -/
def readHeartRate : Aidl.HeartRate where
  bpm := u.heartRate.bpm.read e
  status := u.heartRate.status.read e

def writeHeartRate (r : Aidl.HeartRate) : EventPayload :=
  e |> u.heartRate.bpm.write r.bpm |> u.heartRate.status.write r.status

/-- The cases of POSE_6DOF, an array copied as a whole. -/
def readPose6Dof : Aidl.Pose6Dof where
  values := u.pose6DOF.read e

def writePose6Dof (p : Aidl.Pose6Dof) : EventPayload := u.pose6DOF.write p.values e

/-- A `bool` in memory. -/
def boolOfByte (b : Bytes 1) : Bool := b 0 != 0

/-- The byte a `bool` is stored as. -/
def byteOfBool (b : Bool) : Bytes 1 := fun _ => if b then 1 else 0

/-- The cases of DYNAMIC_SENSOR_META.  `connected` is a `bool` on both sides, a byte in the union. -/
def readDynamic : Aidl.DynamicSensorInfo where
  connected := boolOfByte (u.dynamic.connected.read e)
  sensorHandle := u.dynamic.sensorHandle.read e
  uuid := u.dynamic.uuid.read e

def writeDynamic (d : Aidl.DynamicSensorInfo) : EventPayload :=
  e |> u.dynamic.connected.write (byteOfBool d.connected)
    |> u.dynamic.sensorHandle.write d.sensorHandle |> u.dynamic.uuid.write d.uuid

/-- The cases of ADDITIONAL_INFO.  On the way to AIDL the payload is read as `int32_t`, whatever it
was written as. -/
def readAdditional : Aidl.AdditionalInfo where
  type := u.additional.type.read e
  serial := u.additional.serial.read e
  payload := .dataInt32 (u.additional.data_int32.read e)

def writeAdditional (a : Aidl.AdditionalInfo) : EventPayload :=
  let e := e |> u.additional.type.write a.type |> u.additional.serial.write a.serial
  match a.payload with
  | .dataInt32 values => u.additional.data_int32.write values e
  | .dataFloat values => u.additional.data_float.write values e

/-- The cases of HEAD_TRACKER, which HIDL has no member for: the first seven elements of `data`. -/
def readHeadTracker : Aidl.HeadTracker where
  rx := u.data.elem0.read e
  ry := u.data.elem1.read e
  rz := u.data.elem2.read e
  vx := u.data.elem3.read e
  vy := u.data.elem4.read e
  vz := u.data.elem5.read e
  -- `reinterpret_cast<const int32_t*>`
  discontinuityCount := u.data.elem6.read e

def writeHeadTracker (h : Aidl.HeadTracker) : EventPayload :=
  e |> u.data.elem0.write h.rx |> u.data.elem1.write h.ry |> u.data.elem2.write h.rz
    |> u.data.elem3.write h.vx |> u.data.elem4.write h.vy |> u.data.elem5.write h.vz
    |> u.data.elem6.write h.discontinuityCount

/-- The default cases, of the types from DEVICE_PRIVATE_BASE on: the sixteen elements of `data`. -/
def readData : Aidl.Data where
  values := u.data.read e

def writeData (d : Aidl.Data) : EventPayload := u.data.write d.values e

end Hidl

/-! `payload.get<..>()`, which ends the process when another member is set. -/

namespace Aidl.EventPayload

/-- `payload.get<Aidl::EventPayload::Tag::meta>()`, and so on for each member. -/
def metaData? : EventPayload → Option MetaData
  | .metaData m => some m
  | _ => none

def vec3? : EventPayload → Option Vec3
  | .vec3 v => some v
  | _ => none

def vec4? : EventPayload → Option Vec4
  | .vec4 v => some v
  | _ => none

def uncal? : EventPayload → Option Uncal
  | .uncal v => some v
  | _ => none

def scalar? : EventPayload → Option (Bytes 4)
  | .scalar v => some v
  | _ => none

def stepCount? : EventPayload → Option (Bytes 8)
  | .stepCount n => some n
  | _ => none

def heartRate? : EventPayload → Option HeartRate
  | .heartRate r => some r
  | _ => none

def pose6DOF? : EventPayload → Option Pose6Dof
  | .pose6DOF p => some p
  | _ => none

def dynamic? : EventPayload → Option DynamicSensorInfo
  | .dynamic d => some d
  | _ => none

def additional? : EventPayload → Option AdditionalInfo
  | .additional a => some a
  | _ => none

def data? : EventPayload → Option Data
  | .data d => some d
  | _ => none

def headTracker? : EventPayload → Option HeadTracker
  | .headTracker h => some h
  | _ => none

end Aidl.EventPayload

/-! ## The two switches -/

open Hidl

/-- The payload `convertToHidlEvent` leaves in an event that held `old`. -/
def convertToHidlPayload (sensorType : Int) (payload : Aidl.EventPayload)
    (old : Hidl.EventPayload) : Option Hidl.EventPayload :=
  match SensorType.ofValue? sensorType with
  | some .metaData => payload.metaData?.map (writeMeta old)
  | some .accelerometer | some .magneticField | some .orientation | some .gyroscope
  | some .gravity | some .linearAcceleration => payload.vec3?.map (writeVec3 old)
  | some .gameRotationVector => payload.vec4?.map (writeVec4 old)
  | some .rotationVector | some .geomagneticRotationVector => payload.data?.map (writeFirst5 old)
  | some .accelerometerUncalibrated | some .magneticFieldUncalibrated
  | some .gyroscopeUncalibrated => payload.uncal?.map (writeUncal old)
  | some .deviceOrientation | some .light | some .pressure | some .proximity
  | some .relativeHumidity | some .ambientTemperature | some .significantMotion
  | some .stepDetector | some .tiltDetector | some .wakeGesture | some .glanceGesture
  | some .pickUpGesture | some .wristTiltGesture | some .stationaryDetect | some .motionDetect
  | some .heartBeat | some .lowLatencyOffbodyDetect | some .hingeAngle =>
      payload.scalar?.map fun v => u.scalar.write v old
  | some .stepCounter => payload.stepCount?.map fun n => u.stepCount.write n old
  | some .heartRate => payload.heartRate?.map (writeHeartRate old)
  | some .pose6Dof => payload.pose6DOF?.map (writePose6Dof old)
  | some .dynamicSensorMeta => payload.dynamic?.map (writeDynamic old)
  | some .additionalInfo => payload.additional?.map (writeAdditional old)
  | some .headTracker => payload.headTracker?.map (writeHeadTracker old)
  | _ =>
      -- `CHECK_GE`
      if sensorType < SensorType.devicePrivateBase then none
      else payload.data?.map (writeData old)

/-- The payload `convertToAidlEvent` sets. -/
def convertToAidlPayload (sensorType : Int) (e : Hidl.EventPayload) : Option Aidl.EventPayload :=
  match SensorType.ofValue? sensorType with
  | some .metaData => some (.metaData (readMeta e))
  | some .accelerometer | some .magneticField | some .orientation | some .gyroscope
  | some .gravity | some .linearAcceleration => some (.vec3 (readVec3 e))
  | some .gameRotationVector => some (.vec4 (readVec4 e))
  | some .rotationVector | some .geomagneticRotationVector => some (.data (readFirst5 e))
  | some .magneticFieldUncalibrated | some .gyroscopeUncalibrated
  | some .accelerometerUncalibrated => some (.uncal (readUncal e))
  | some .deviceOrientation | some .light | some .pressure | some .proximity
  | some .relativeHumidity | some .ambientTemperature | some .significantMotion
  | some .stepDetector | some .tiltDetector | some .wakeGesture | some .glanceGesture
  | some .pickUpGesture | some .wristTiltGesture | some .stationaryDetect | some .motionDetect
  | some .heartBeat | some .lowLatencyOffbodyDetect | some .hingeAngle =>
      some (.scalar (u.scalar.read e))
  | some .stepCounter => some (.stepCount (u.stepCount.read e))
  | some .heartRate => some (.heartRate (readHeartRate e))
  | some .pose6Dof => some (.pose6DOF (readPose6Dof e))
  | some .dynamicSensorMeta => some (.dynamic (readDynamic e))
  | some .additionalInfo => some (.additional (readAdditional e))
  | _ =>
      if sensorType = SensorType.headTracker.value then some (.headTracker (readHeadTracker e))
      else if sensorType < SensorType.devicePrivateBase then none
      else some (.data (readData e))

/-- The four members of an event; the payload is written over the one the caller's event had. -/
def convertToHidlEvent (aidlEvent : Aidl.Event) (hidlEvent : Hidl.Event) : Option Hidl.Event :=
  (convertToHidlPayload aidlEvent.sensorType aidlEvent.payload hidlEvent.u).map fun u =>
    { timestamp := aidlEvent.timestamp
      sensorHandle := aidlEvent.sensorHandle
      sensorType := aidlEvent.sensorType
      u }

/-- The four members of an event; the payload is set anew. -/
def convertToAidlEvent (hidlEvent : Hidl.Event) : Option Aidl.Event :=
  (convertToAidlPayload hidlEvent.sensorType hidlEvent.u).map fun payload =>
    { timestamp := hidlEvent.timestamp
      sensorHandle := hidlEvent.sensorHandle
      sensorType := hidlEvent.sensorType
      payload }

end Smi240Hal.MultiHal
