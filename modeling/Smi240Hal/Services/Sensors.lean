/-
# Smi240Hal.Services.Sensors — the sensor services the framework calls

`2.X/Sensors.h`, `SensorsHalAidl` and `ISensorsSubHalBase` keep a map of sensors by handle, pass the
calls on to the sensor they are for, and are the callback their sensors post to.  They are one text
with different answers: `FrontEnd` is what they differ in, and `sensors`, `aidl` and `subHal` are the
three.

A call of the one binder thread is one step, and so is an iteration of the thread of a sensor:
`activate` waits for the mutex an iteration holds, and what an iteration does commutes with the test
in `flush` and with disabling another sensor.  Every call of `postEvents` is logged, and so is every
answer.  What becomes of posted events is not modelled here, and neither is when the queues they go
to are there.
-/
import Smi240Hal.MultiHal.SensorTables
import Smi240Hal.Sampling.PayloadReaders

namespace Smi240Hal.Services

open Smi240Hal.Lib Smi240Hal.Sampling
open Smi240Hal.MultiHal (Handle cmpHandle Result OperationMode)
open Smi240Hal.MultiHal.SensorFlagBits (WAKE_UP)
open Smi240Hal.MultiHal.SensorType (ADDITIONAL_INFO)

variable {N ρ : Type}

/-! ## The sensors -/

/-- `SensorFlagBits::ONE_SHOT_MODE`. -/
def ONE_SHOT_MODE : BitVec 32 := 0x4

/-- `SensorFlagBits::DATA_INJECTION`. -/
def DATA_INJECTION : BitVec 32 := 0x10

/-- What a sensor class sets in `mSensorInfo`, beside the handle, as far as it is read. -/
structure SensorClass (N : Type) where
  type : Int
  resolution : N
  flags : BitVec 32
  delays : Delays

/-- `Smi240Accel`; the resolution is a `float` constant of the class. -/
def smi240Accel (resolution : N) : SensorClass N := ⟨1, resolution, 0, smi240Delays⟩

/-- `Smi240Gyro`. -/
def smi240Gyro (resolution : N) : SensorClass N := ⟨4, resolution, 0, smi240Delays⟩

/-- An event a sensor posts. -/
inductive SensorEvent (N : Type)
  | data (event : Sampling.Event N)
  /-- `META_DATA` with `META_DATA_FLUSH_COMPLETE`. -/
  | flushComplete (sensorHandle : Int)

/-- The sensor an event is of. -/
def SensorEvent.sensorHandle : SensorEvent N → Int
  | .data event => event.sensorHandle
  | .flushComplete sensorHandle => sensorHandle

/-- A call of `postEvents`. -/
structure PostEvents (N : Type) where
  events : List (SensorEvent N)
  wakeup : Bool

/-- A `Sensor` object: its `mSensorInfo`, and its other fields with what its thread has done. -/
structure Device (N : Type) where
  sensorHandle : Handle
  info : SensorClass N
  loop : Loop

namespace Device

/-- `Sensor::isWakeUpSensor`. -/
def isWakeUpSensor (d : Device N) : Bool := d.info.flags &&& WAKE_UP != 0

/-- `flush` refuses a one-shot sensor. -/
def isOneShot (d : Device N) : Bool := d.info.flags &&& ONE_SHOT_MODE != 0

/-- `Sensor::batch` of the device. -/
def batch (v : Variant) (samplingPeriodNs : Int) (d : Device N) : Device N :=
  { d with loop := { d.loop with
      sensor := d.loop.sensor.batch v d.info.delays samplingPeriodNs } }

/-- `Sensor::activate` of the device. -/
def activate (enable : Bool) (d : Device N) : Device N :=
  { d with loop := { d.loop with sensor := d.loop.sensor.activate enable } }

/-- What `flush` posts; `none` when it refuses. -/
def flush (d : Device N) : Option (PostEvents N) :=
  if !d.loop.sensor.mIsEnabled || d.isOneShot then none
  else some ⟨[.flushComplete d.sensorHandle.toInt], d.isWakeUpSensor⟩

section Iterate

variable [Zero N] (numbers : CNumbers N)

/-- What `readEvents` returns, posted. -/
def postSample (v : Variant) (d : Device N) (timestamp : Int) (file : Option (List UInt8)) :
    Option (PostEvents N) :=
  (v.readEvents numbers ⟨d.sensorHandle.toInt, d.info.type, d.info.resolution⟩ timestamp file).map
    fun events => ⟨events.map .data, d.isWakeUpSensor⟩

/-- One iteration of `run`, with what the clock, `elapsedRealtimeNano` and the sensor file give in
it. -/
def iterate (v : Variant) (d : Device N) (tv_sec tv_nsec timestamp : Int)
    (file : Option (List UInt8)) : Option (Device N × List (PostEvents N)) := do
  let loop ← d.loop.runIteration tv_sec tv_nsec
  if loop.posted.length = d.loop.posted.length then some ({ d with loop := loop }, [])
  else
    -- a sample is due
    let post ← d.postSample numbers v timestamp file
    some ({ d with loop := loop }, [post])

end Iterate

end Device

/-- `std::map<int32_t, std::shared_ptr<Sensor>>`. -/
abbrev DeviceMap (N : Type) := Std.ExtTreeMap Handle (Device N) cmpHandle

/-- `AddSensor`, for each of the classes: the map and `mNextHandle`. -/
def addSensor (mStopThread : Handle → Bool) (s : DeviceMap N × Handle) (c : SensorClass N) :
    DeviceMap N × Handle :=
  (s.1.insert s.2 ⟨s.2, c, .start (mStopThread s.2)⟩, s.2 + 1)

/-- The sensors after the constructor; the objects leave `mStopThread` as they find it. -/
def addSensors (mStopThread : Handle → Bool) (classes : List (SensorClass N)) :
    DeviceMap N × Handle :=
  classes.foldl (addSensor mStopThread) (∅, 1)

/-- The class of the sensor with a handle: handles are given from 1 on. -/
def classAt (classes : List (SensorClass N)) (h : Handle) : Option (SensorClass N) :=
  if h = 0 then none else classes[h.toNat - 1]?

/-! ## The front ends -/

/-- A call of the framework. -/
inductive Call
  | activate (sensorHandle : Handle) (enabled : Bool)
  | batch (sensorHandle : Handle) (samplingPeriodNs maxReportLatencyNs : Int)
  | flush (sensorHandle : Handle)
  /-- with the type of the event -/
  | injectSensorData (sensorHandle : Handle) (sensorType : Int)
  | setOperationMode (mode : OperationMode)
  /-- `registerDirectChannel`, `unregisterDirectChannel` and `configDirectReport` -/
  | directChannel
  /-- with whether the event flag was made and the callback is set -/
  | initializeBase (made : Bool)
deriving DecidableEq, Repr

/-- What the three front ends differ in. -/
structure FrontEnd (ρ : Type) where
  variant : Variant
  ok : ρ
  /-- The answer to `activate`, `batch` and `flush` of a handle that is not in the map. -/
  noSensor : ρ
  /-- The answer of a sensor that is disabled or one-shot. -/
  flushRefused : ρ
  noSensorToInject : ρ
  /-- `Sensor::injectEvent`, of a sensor with these flags. -/
  injectEvent : BitVec 32 → Int → ρ
  /-- How many sensors there are, and the mode. -/
  setOperationMode : Nat → OperationMode → ρ
  directChannel : ρ
  /-- `initialize` disables every sensor. -/
  disables : Bool
  initialized : Bool → ρ

/-- `Sensor::setOperationMode` of each sensor; the last answer counts. -/
def lastMode (ok bad : ρ) (sensors : Nat) (mode : OperationMode) : ρ :=
  (List.range sensors).foldl (fun _ _ => if mode = .NORMAL then ok else bad) ok

/-- `2.X/Sensors.h`. -/
def sensors : FrontEnd Result where
  variant := .v2X
  ok := .OK
  noSensor := .BAD_VALUE
  flushRefused := .BAD_VALUE
  noSensorToInject := .BAD_VALUE
  injectEvent _ _ := .INVALID_OPERATION
  setOperationMode := lastMode .OK .BAD_VALUE
  directChannel := .INVALID_OPERATION
  disables := true
  initialized made := if made then .OK else .BAD_VALUE

/-- The binder exceptions the AIDL build answers with. -/
inductive ExceptionCode
  | EX_SECURITY
  | EX_ILLEGAL_ARGUMENT
  | EX_UNSUPPORTED_OPERATION
  | EX_TRANSACTION_FAILED
deriving DecidableEq, Repr

/-- Its service-specific errors. -/
inductive ServiceError
  | ERROR_NO_MEMORY
  | ERROR_BAD_VALUE
deriving DecidableEq, Repr

/-- `ndk::ScopedAStatus`, as far as the AIDL build makes one. -/
inductive ScopedAStatus
  | ok
  | fromExceptionCode (code : ExceptionCode)
  | fromServiceSpecificError (error : ServiceError)
deriving DecidableEq, Repr

/-- `SensorsHalAidl`. -/
def aidl : FrontEnd ScopedAStatus where
  variant := .aidl
  ok := .ok
  noSensor := .fromExceptionCode .EX_ILLEGAL_ARGUMENT
  flushRefused := .fromServiceSpecificError .ERROR_BAD_VALUE
  noSensorToInject := .fromServiceSpecificError .ERROR_BAD_VALUE
  injectEvent flags sensorType :=
    if sensorType = ADDITIONAL_INFO then .ok
    else if flags &&& DATA_INJECTION = 0 then .fromExceptionCode .EX_UNSUPPORTED_OPERATION
    else .fromServiceSpecificError .ERROR_BAD_VALUE
  setOperationMode := lastMode .ok (.fromExceptionCode .EX_ILLEGAL_ARGUMENT)
  directChannel := .fromExceptionCode .EX_UNSUPPORTED_OPERATION
  disables := true
  initialized made := if made then .ok else .fromExceptionCode .EX_ILLEGAL_ARGUMENT

/-- `ISensorsSubHalBase`. -/
def subHal : FrontEnd Result where
  variant := .multihal
  ok := .OK
  noSensor := .BAD_VALUE
  flushRefused := .BAD_VALUE
  noSensorToInject := .BAD_VALUE
  injectEvent _ _ := .INVALID_OPERATION
  setOperationMode _ mode := if mode = .NORMAL then .OK else .BAD_VALUE
  directChannel := .INVALID_OPERATION
  disables := false
  initialized _ := .OK

/-- What each of the three answers with. -/
def Reply : Variant → Type
  | .v2X => Result
  | .aidl => ScopedAStatus
  | .multihal => Result

instance : (v : Variant) → DecidableEq (Reply v)
  | .v2X => inferInstanceAs (DecidableEq Result)
  | .aidl => inferInstanceAs (DecidableEq ScopedAStatus)
  | .multihal => inferInstanceAs (DecidableEq Result)

/-- The three front ends. -/
def frontEnd : (v : Variant) → FrontEnd (Reply v)
  | .v2X => sensors
  | .aidl => aidl
  | .multihal => subHal

theorem frontEnd_variant (v : Variant) : (frontEnd v).variant = v := by
  cases v <;> rfl

/-- The answers that are not `ok`. -/
theorem frontEnd_not_ok (v : Variant) :
    (frontEnd v).noSensor ≠ (frontEnd v).ok ∧ (frontEnd v).flushRefused ≠ (frontEnd v).ok ∧
      (frontEnd v).noSensorToInject ≠ (frontEnd v).ok ∧
      (frontEnd v).directChannel ≠ (frontEnd v).ok := by
  cases v with
  | v2X => decide
  | aidl => decide
  | multihal => decide

/-- What a call does: its answer, the map, and what is posted in it. -/
structure Outcome (N ρ : Type) where
  answer : ρ
  mSensors : DeviceMap N
  posts : List (PostEvents N)

namespace FrontEnd

variable (fe : FrontEnd ρ) (mSensors : DeviceMap N)

/-- Of an unknown handle nothing changes; so for each of the calls. -/
def activate (sensorHandle : Handle) (enabled : Bool) : Outcome N ρ :=
  if sensorHandle ∈ mSensors then
    ⟨fe.ok, mSensors.modify sensorHandle (Device.activate enabled), []⟩
  else ⟨fe.noSensor, mSensors, []⟩

def batch (sensorHandle : Handle) (samplingPeriodNs : Int) : Outcome N ρ :=
  if sensorHandle ∈ mSensors then
    ⟨fe.ok, mSensors.modify sensorHandle (Device.batch fe.variant samplingPeriodNs), []⟩
  else ⟨fe.noSensor, mSensors, []⟩

/-- The event is posted before the call returns. -/
def flush (sensorHandle : Handle) : Outcome N ρ :=
  match mSensors[sensorHandle]? with
  | none => ⟨fe.noSensor, mSensors, []⟩
  | some sensor =>
      match sensor.flush with
      | none => ⟨fe.flushRefused, mSensors, []⟩
      | some post => ⟨fe.ok, mSensors, [post]⟩

/-- Nothing is injected by any of the builds; what they answer depends on the flags. -/
def injectSensorData (sensorHandle : Handle) (sensorType : Int) : Outcome N ρ :=
  match mSensors[sensorHandle]? with
  | none => ⟨fe.noSensorToInject, mSensors, []⟩
  | some sensor => ⟨fe.injectEvent sensor.info.flags sensorType, mSensors, []⟩

/-- `initialize`, as far as the sensors see it. -/
def initializeBase (made : Bool) : Outcome N ρ :=
  ⟨fe.initialized made,
    if fe.disables then mSensors.map fun _ sensor => sensor.activate false else mSensors, []⟩

/-- What a front end does on a call. -/
def call : Call → Outcome N ρ
  | .activate sensorHandle enabled => fe.activate mSensors sensorHandle enabled
  | .batch sensorHandle samplingPeriodNs _ => fe.batch mSensors sensorHandle samplingPeriodNs
  | .flush sensorHandle => fe.flush mSensors sensorHandle
  | .injectSensorData sensorHandle sensorType =>
      fe.injectSensorData mSensors sensorHandle sensorType
  | .setOperationMode mode => ⟨fe.setOperationMode mSensors.size mode, mSensors, []⟩
  | .directChannel => ⟨fe.directChannel, mSensors, []⟩
  | .initializeBase made => fe.initializeBase mSensors made

end FrontEnd

/-! ## The machine -/

/-- The sensors, everything posted, and every call with its answer. -/
structure Service (N ρ : Type) where
  mSensors : DeviceMap N
  posts : List (PostEvents N)
  answers : List (Call × ρ)

/-- A call, or an iteration of one of the threads. -/
inductive ServiceAct
  | call (c : Call)
  /-- One iteration of the thread of a sensor. -/
  | iterate (sensorHandle : Handle) (tv_sec tv_nsec timestamp : Int) (file : Option (List UInt8))
deriving DecidableEq

namespace Service

/-- Sensors of the given classes, nothing posted and nothing answered. -/
def construct (mStopThread : Handle → Bool) (classes : List (SensorClass N)) : Service N ρ :=
  ⟨(addSensors mStopThread classes).1, [], []⟩

section Step

variable [Zero N] (numbers : CNumbers N) (fe : FrontEnd ρ)

/-- The threads of the sensors do not wait for each other, nor for a call. -/
def step (s : Service N ρ) : ServiceAct → Option (Service N ρ)
  | .call c =>
      let outcome := fe.call s.mSensors c
      some ⟨outcome.mSensors, s.posts ++ outcome.posts, s.answers ++ [(c, outcome.answer)]⟩
  | .iterate sensorHandle tv_sec tv_nsec timestamp file => do
      let sensor ← s.mSensors[sensorHandle]?
      let (sensor, posts) ← sensor.iterate numbers fe.variant tv_sec tv_nsec timestamp file
      some { s with
        mSensors := s.mSensors.insert sensorHandle sensor
        posts := s.posts ++ posts }

end Step

end Service

/-- A front end with sensors of these classes. -/
def service [Zero N] (numbers : CNumbers N) (fe : FrontEnd ρ)
    (classes : List (SensorClass N)) : Machine (Service N ρ) ServiceAct where
  Start s := ∃ mStopThread, s = .construct mStopThread classes
  step := Service.step numbers fe

/-! ## The map -/

/-- The sensors get the handles from 1 on, in the order of their classes. -/
theorem addSensors_get (mStopThread : Handle → Bool) {classes : List (SensorClass N)}
    (hlen : classes.length < 2 ^ 32) (h : Handle) :
    (addSensors mStopThread classes).1[h]? =
        (classAt classes h).map (fun c => ⟨h, c, .start (mStopThread h)⟩) ∧
      (addSensors mStopThread classes).2.toNat = (classes.length + 1) % 2 ^ 32 := by
  induction classes using List.reverseRecOn generalizing h with
  | nil =>
      refine ⟨?_, rfl⟩
      rw [classAt, List.getElem?_nil, ite_self]
      exact Std.ExtTreeMap.getElem?_empty
  | append_singleton classes c ih =>
      rw [List.length_append, List.length_singleton] at hlen
      obtain ⟨hget, hnext⟩ := ih (by omega) h
      have hfold : addSensors mStopThread (classes ++ [c]) =
          addSensor mStopThread (addSensors mStopThread classes) c := by
        rw [addSensors, List.foldl_append]
        rfl
      rw [Nat.mod_eq_of_lt hlen] at hnext
      rw [hfold, List.length_append, List.length_singleton]
      dsimp only [addSensor]
      constructor
      · rw [Std.ExtTreeMap.getElem?_insert]
        split
        case isTrue heq =>
          -- the new sensor, at the end of the list
          have hnew : (addSensors mStopThread classes).2 = h :=
            Std.LawfulEqCmp.eq_of_compare heq
          rw [hnew] at hnext ⊢
          have hne : h ≠ 0 := by
            rintro rfl
            exact absurd hnext (by simp)
          rw [classAt, if_neg hne, hnext, Nat.add_sub_cancel, List.getElem?_concat_length, Option.map_some]
        case isFalse hne =>
          rw [hget, classAt, classAt]
          split
          · rfl
          · next hzero =>
              have hother : h.toNat ≠ classes.length + 1 := by
                intro hsame
                apply hne
                rw [BitVec.eq_of_toNat_eq (hnext.trans hsame.symm)]
                exact Std.ReflCmp.compare_self
              have hpos : h.toNat ≠ 0 := fun hz => hzero (BitVec.eq_of_toNat_eq hz)
              rcases Nat.lt_or_ge (h.toNat - 1) classes.length with hlt | hge
              · rw [List.getElem?_append_left hlt]
              · rw [List.getElem?_eq_none hge, List.getElem?_eq_none (by simp; omega)]
      · rw [BitVec.toNat_add, hnext]
        rfl

end Smi240Hal.Services
