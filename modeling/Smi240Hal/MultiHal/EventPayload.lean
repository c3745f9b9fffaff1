/-
# Smi240Hal.MultiHal.EventPayload — an event on both sides of the AIDL boundary

The HIDL 2.1 event has a plain union of 64 bytes, the AIDL event a union that knows which of its
members is set.  A value is kept as its bytes: neither conversion computes with one.
-/
import Smi240Hal.Lib.Overlay

namespace Smi240Hal.MultiHal

open Smi240Hal.Lib

/-- The bytes of a value. -/
abbrev Bytes (k : Nat) := Fin k → BitVec 8

/-! ## The sensor types -/

/-- The enumerators of the AIDL `SensorType`.  Those up to `hingeAngle` are also the HIDL 2.1 ones,
with the same values. -/
inductive SensorType
  | metaData
  | accelerometer
  | magneticField
  | orientation
  | gyroscope
  | light
  | pressure
  | proximity
  | gravity
  | linearAcceleration
  | rotationVector
  | relativeHumidity
  | ambientTemperature
  | magneticFieldUncalibrated
  | gameRotationVector
  | gyroscopeUncalibrated
  | significantMotion
  | stepDetector
  | stepCounter
  | geomagneticRotationVector
  | heartRate
  | tiltDetector
  | wakeGesture
  | glanceGesture
  | pickUpGesture
  | wristTiltGesture
  | deviceOrientation
  | pose6Dof
  | stationaryDetect
  | motionDetect
  | heartBeat
  | dynamicSensorMeta
  | additionalInfo
  | lowLatencyOffbodyDetect
  | accelerometerUncalibrated
  | hingeAngle
  | headTracker
  | accelerometerLimitedAxes
  | gyroscopeLimitedAxes
  | accelerometerLimitedAxesUncalibrated
  | gyroscopeLimitedAxesUncalibrated
  | heading
deriving DecidableEq, Repr

namespace SensorType

/-- The `int32_t` of an enumerator. -/
def value : SensorType → Int
  | metaData => 0
  | accelerometer => 1
  | magneticField => 2
  | orientation => 3
  | gyroscope => 4
  | light => 5
  | pressure => 6
  | proximity => 8
  | gravity => 9
  | linearAcceleration => 10
  | rotationVector => 11
  | relativeHumidity => 12
  | ambientTemperature => 13
  | magneticFieldUncalibrated => 14
  | gameRotationVector => 15
  | gyroscopeUncalibrated => 16
  | significantMotion => 17
  | stepDetector => 18
  | stepCounter => 19
  | geomagneticRotationVector => 20
  | heartRate => 21
  | tiltDetector => 22
  | wakeGesture => 23
  | glanceGesture => 24
  | pickUpGesture => 25
  | wristTiltGesture => 26
  | deviceOrientation => 27
  | pose6Dof => 28
  | stationaryDetect => 29
  | motionDetect => 30
  | heartBeat => 31
  | dynamicSensorMeta => 32
  | additionalInfo => 33
  | lowLatencyOffbodyDetect => 34
  | accelerometerUncalibrated => 35
  | hingeAngle => 36
  | headTracker => 37
  | accelerometerLimitedAxes => 38
  | gyroscopeLimitedAxes => 39
  | accelerometerLimitedAxesUncalibrated => 40
  | gyroscopeLimitedAxesUncalibrated => 41
  | heading => 42

/-- All of them, in the order of the declaration. -/
def enumerators : List SensorType :=
  [metaData, accelerometer, magneticField, orientation, gyroscope, light, pressure, proximity,
    gravity, linearAcceleration, rotationVector, relativeHumidity, ambientTemperature,
    magneticFieldUncalibrated, gameRotationVector, gyroscopeUncalibrated, significantMotion,
    stepDetector, stepCounter, geomagneticRotationVector, heartRate, tiltDetector, wakeGesture,
    glanceGesture, pickUpGesture, wristTiltGesture, deviceOrientation, pose6Dof, stationaryDetect,
    motionDetect, heartBeat, dynamicSensorMeta, additionalInfo, lowLatencyOffbodyDetect,
    accelerometerUncalibrated, hingeAngle, headTracker, accelerometerLimitedAxes,
    gyroscopeLimitedAxes, accelerometerLimitedAxesUncalibrated, gyroscopeLimitedAxesUncalibrated,
    heading]

/-- The enumerator of a value: a variable of an enumeration may hold any other `int32_t` too. -/
def ofValue? (v : Int) : Option SensorType := enumerators.find? fun t => t.value = v

/-- `SensorType::DEVICE_PRIVATE_BASE`. -/
def devicePrivateBase : Int := 0x10000

theorem ofValue?_value (t : SensorType) : ofValue? t.value = some t := by
  cases t <;> rfl

theorem value_of_ofValue? {v : Int} {t : SensorType} (h : ofValue? v = some t) : t.value = v := by
  have := List.find?_some h
  simpa using this

end SensorType

/-! ## HIDL -/

namespace Hidl

/-- `V1_0::EventPayload`. -/
abbrev EventPayload := Bytes 64

/-- `V2_1::Event`. -/
structure Event where
  timestamp : Int
  sensorHandle : Int
  sensorType : Int
  u : EventPayload

/-! The members of the union. -/

namespace u

/-- `meta`, `vec3`, `vec4` and `uncal` begin with their first value; `status` and the biases follow
the floats. -/
def metaData.what : Field 64 4 := ⟨0, by decide⟩

def vec3.x : Field 64 4 := ⟨0, by decide⟩
def vec3.y : Field 64 4 := ⟨4, by decide⟩
def vec3.z : Field 64 4 := ⟨8, by decide⟩
def vec3.status : Field 64 1 := ⟨12, by decide⟩

def vec4.x : Field 64 4 := ⟨0, by decide⟩
def vec4.y : Field 64 4 := ⟨4, by decide⟩
def vec4.z : Field 64 4 := ⟨8, by decide⟩
def vec4.w : Field 64 4 := ⟨12, by decide⟩

def uncal.x : Field 64 4 := ⟨0, by decide⟩
def uncal.y : Field 64 4 := ⟨4, by decide⟩
def uncal.z : Field 64 4 := ⟨8, by decide⟩
def uncal.x_bias : Field 64 4 := ⟨12, by decide⟩
def uncal.y_bias : Field 64 4 := ⟨16, by decide⟩
def uncal.z_bias : Field 64 4 := ⟨20, by decide⟩

/-- `float scalar`, `uint64_t stepCount` and `heartRate`, a float and its status. -/
def scalar : Field 64 4 := ⟨0, by decide⟩

def stepCount : Field 64 8 := ⟨0, by decide⟩

def heartRate.bpm : Field 64 4 := ⟨0, by decide⟩
def heartRate.status : Field 64 1 := ⟨4, by decide⟩

/-- `float[15]` -/
def pose6DOF : Field 64 60 := ⟨0, by decide⟩

/-- A `bool`, aligned like the handle behind it. -/
def dynamic.connected : Field 64 1 := ⟨0, by decide⟩
def dynamic.sensorHandle : Field 64 4 := ⟨4, by decide⟩
def dynamic.uuid : Field 64 16 := ⟨8, by decide⟩

/-- `type` and `serial` stand before the union of the two arrays. -/
def additional.type : Field 64 4 := ⟨0, by decide⟩
def additional.serial : Field 64 4 := ⟨4, by decide⟩
/-- `int32_t[14]` -/
def additional.data_int32 : Field 64 56 := ⟨8, by decide⟩
/-- `float[14]` -/
def additional.data_float : Field 64 56 := ⟨8, by decide⟩

/-- `float[16]` -/
def data : Field 64 64 := ⟨0, by decide⟩
/-- `data[0]` to `data[4]` -/
def data.first5 : Field 64 20 := ⟨0, by decide⟩
/-! `data[0]` to `data[6]` -/
def data.elem0 : Field 64 4 := ⟨0, by decide⟩
def data.elem1 : Field 64 4 := ⟨4, by decide⟩
def data.elem2 : Field 64 4 := ⟨8, by decide⟩
def data.elem3 : Field 64 4 := ⟨12, by decide⟩
def data.elem4 : Field 64 4 := ⟨16, by decide⟩
def data.elem5 : Field 64 4 := ⟨20, by decide⟩
def data.elem6 : Field 64 4 := ⟨24, by decide⟩

end u

end Hidl

/-! ## AIDL -/

namespace Aidl

/-- `Event::EventPayload::MetaData`. -/
structure MetaData where
  what : Bytes 4

/-- `Event::EventPayload::Vec3`, with the status of the sample. -/
structure Vec3 where
  x : Bytes 4
  y : Bytes 4
  z : Bytes 4
  status : Bytes 1

/-- `Event::EventPayload::Vec4`. -/
structure Vec4 where
  x : Bytes 4
  y : Bytes 4
  z : Bytes 4
  w : Bytes 4

/-- `Event::EventPayload::Uncal`: the values, and what calibration would take off them. -/
structure Uncal where
  x : Bytes 4
  y : Bytes 4
  z : Bytes 4
  xBias : Bytes 4
  yBias : Bytes 4
  zBias : Bytes 4

/-- `Event::EventPayload::HeartRate`. -/
structure HeartRate where
  bpm : Bytes 4
  status : Bytes 1

/-- `float[15]` -/
structure Pose6Dof where
  values : Bytes 60

/-- `DynamicSensorInfo`: a sensor that has come or gone. -/
structure DynamicSensorInfo where
  connected : Bool
  sensorHandle : Bytes 4
  /-- `uuid.values` -/
  uuid : Bytes 16

/-- `int32_t[14]` or `float[14]` -/
inductive AdditionalInfoPayload
  | dataInt32 (values : Bytes 56)
  | dataFloat (values : Bytes 56)

/-- `AdditionalInfo`, one frame of a report of several. -/
structure AdditionalInfo where
  type : Bytes 4
  serial : Bytes 4
  payload : AdditionalInfoPayload

/-- `float[16]` -/
structure Data where
  values : Bytes 64

/-- `Event::EventPayload::HeadTracker`: a rotation, its velocity, and a counter of the resets. -/
structure HeadTracker where
  rx : Bytes 4
  ry : Bytes 4
  rz : Bytes 4
  vx : Bytes 4
  vy : Bytes 4
  vz : Bytes 4
  discontinuityCount : Bytes 4

/-- `Event::EventPayload`: what the three members without a HIDL counterpart hold is left out. -/
inductive EventPayload
  | metaData (m : MetaData)
  | vec3 (v : Vec3)
  | vec4 (v : Vec4)
  | uncal (v : Uncal)
  | scalar (v : Bytes 4)
  | stepCount (n : Bytes 8)
  | heartRate (r : HeartRate)
  | pose6DOF (p : Pose6Dof)
  | dynamic (d : DynamicSensorInfo)
  | additional (a : AdditionalInfo)
  | data (d : Data)
  | headTracker (h : HeadTracker)
  | limitedAxesImu
  | limitedAxesImuUncal
  | heading

/-- The AIDL `Event`; its payload knows which member is set, whatever `sensorType` says. -/
structure Event where
  timestamp : Int
  sensorHandle : Int
  sensorType : Int
  payload : EventPayload

end Aidl

end Smi240Hal.MultiHal
