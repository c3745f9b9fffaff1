/-
# Smi240Hal.MultiHal.ConvertRoundTrip — what comes back from the other side of the AIDL boundary

`PayloadKind` is what a sensor type says about the payload: which member of the union it stands for,
and which of its fields mean something.  Both switches of `ConvertUtils` put every type where its
kind belongs, so a round trip of an event is a round trip of a payload of one kind.
-/
import Smi240Hal.MultiHal.ConvertUtils

namespace Smi240Hal.MultiHal

open Smi240Hal.Lib
open Hidl

/-! ## What a sensor type prescribes -/

/-- The member of the union a sensor type stands for. -/
inductive PayloadKind
  | metaData
  | vec3
  | vec4
  /-- the first five values of `data` -/
  | first5
  | uncal
  | scalar
  | stepCount
  | heartRate
  | pose6DOF
  | dynamic
  | additional
  | headTracker
  | data
  | limitedAxesImu
  | limitedAxesImuUncal
  | heading
deriving DecidableEq, Repr

/-- The member a type is converted through. -/
def SensorType.kind : SensorType → PayloadKind
  | metaData => .metaData
  | accelerometer | magneticField | orientation | gyroscope | gravity | linearAcceleration => .vec3
  | gameRotationVector => .vec4
  | rotationVector | geomagneticRotationVector => .first5
  | magneticFieldUncalibrated | gyroscopeUncalibrated | accelerometerUncalibrated => .uncal
  | light | pressure | proximity | relativeHumidity | ambientTemperature | significantMotion
  | stepDetector | tiltDetector | wakeGesture | glanceGesture | pickUpGesture | wristTiltGesture
  | deviceOrientation | stationaryDetect | motionDetect | heartBeat | lowLatencyOffbodyDetect
  | hingeAngle => .scalar
  | stepCounter => .stepCount
  | heartRate => .heartRate
  | pose6Dof => .pose6DOF
  | dynamicSensorMeta => .dynamic
  | additionalInfo => .additional
  | headTracker => .headTracker
  | accelerometerLimitedAxes | gyroscopeLimitedAxes => .limitedAxesImu
  | accelerometerLimitedAxesUncalibrated | gyroscopeLimitedAxesUncalibrated => .limitedAxesImuUncal
  | heading => .heading

/-- A type from `DEVICE_PRIVATE_BASE` on has the raw values; any other value that is not an
enumerator has nothing. -/
def payloadKind (sensorType : Int) : Option PayloadKind :=
  match SensorType.ofValue? sensorType with
  | some t => some t.kind
  | none => if SensorType.devicePrivateBase ≤ sensorType then some .data else none

namespace PayloadKind

/-- HIDL 2.1 has a payload of this kind. -/
def inHidl : PayloadKind → Bool
  | limitedAxesImu | limitedAxesImuUncal | heading => false
  | _ => true

/-- The fields of the HIDL union the kind defines, `connected` of the dynamic sensors apart. -/
def fields : PayloadKind → List (Σ k, Field 64 k)
  | metaData => [⟨_, u.metaData.what⟩]
  | vec3 => [⟨_, u.vec3.x⟩, ⟨_, u.vec3.y⟩, ⟨_, u.vec3.z⟩, ⟨_, u.vec3.status⟩]
  | vec4 => [⟨_, u.vec4.x⟩, ⟨_, u.vec4.y⟩, ⟨_, u.vec4.z⟩, ⟨_, u.vec4.w⟩]
  | first5 => [⟨_, u.data.first5⟩]
  | uncal => [⟨_, u.uncal.x⟩, ⟨_, u.uncal.y⟩, ⟨_, u.uncal.z⟩, ⟨_, u.uncal.x_bias⟩,
      ⟨_, u.uncal.y_bias⟩, ⟨_, u.uncal.z_bias⟩]
  | scalar => [⟨_, u.scalar⟩]
  | stepCount => [⟨_, u.stepCount⟩]
  | heartRate => [⟨_, u.heartRate.bpm⟩, ⟨_, u.heartRate.status⟩]
  | pose6DOF => [⟨_, u.pose6DOF⟩]
  | dynamic => [⟨_, u.dynamic.sensorHandle⟩, ⟨_, u.dynamic.uuid⟩]
  | additional => [⟨_, u.additional.type⟩, ⟨_, u.additional.serial⟩, ⟨_, u.additional.data_int32⟩]
  | headTracker => [⟨_, u.data.elem0⟩, ⟨_, u.data.elem1⟩, ⟨_, u.data.elem2⟩,
      ⟨_, u.data.elem3⟩, ⟨_, u.data.elem4⟩, ⟨_, u.data.elem5⟩, ⟨_, u.data.elem6⟩]
  | data => [⟨_, u.data⟩]
  | limitedAxesImu | limitedAxesImuUncal | heading => []

/-- Two HIDL payloads agree on every field the kind defines. -/
structure AgreeOn (k : PayloadKind) (a b : Hidl.EventPayload) : Prop where
  fields : ∀ f ∈ k.fields, f.2.read a = f.2.read b
  connected : k = .dynamic →
    boolOfByte (u.dynamic.connected.read a) = boolOfByte (u.dynamic.connected.read b)

/-- The AIDL payload made of a HIDL one. -/
def toAidl (e : Hidl.EventPayload) : PayloadKind → Option Aidl.EventPayload
  | metaData => some (.metaData (readMeta e))
  | vec3 => some (.vec3 (readVec3 e))
  | vec4 => some (.vec4 (readVec4 e))
  | first5 => some (.data (readFirst5 e))
  | uncal => some (.uncal (readUncal e))
  | scalar => some (.scalar (u.scalar.read e))
  | stepCount => some (.stepCount (u.stepCount.read e))
  | heartRate => some (.heartRate (readHeartRate e))
  | pose6DOF => some (.pose6DOF (readPose6Dof e))
  | dynamic => some (.dynamic (readDynamic e))
  | additional => some (.additional (readAdditional e))
  | headTracker => some (.headTracker (readHeadTracker e))
  | data => some (.data (readData e))
  | limitedAxesImu | limitedAxesImuUncal | heading => none

/-- The HIDL payload made of an AIDL one, over the old one. -/
def toHidl (payload : Aidl.EventPayload) (old : Hidl.EventPayload) :
    PayloadKind → Option Hidl.EventPayload
  | metaData => payload.metaData?.map (writeMeta old)
  | vec3 => payload.vec3?.map (writeVec3 old)
  | vec4 => payload.vec4?.map (writeVec4 old)
  | first5 => payload.data?.map (writeFirst5 old)
  | uncal => payload.uncal?.map (writeUncal old)
  | scalar => payload.scalar?.map fun v => u.scalar.write v old
  | stepCount => payload.stepCount?.map fun n => u.stepCount.write n old
  | heartRate => payload.heartRate?.map (writeHeartRate old)
  | pose6DOF => payload.pose6DOF?.map (writePose6Dof old)
  | dynamic => payload.dynamic?.map (writeDynamic old)
  | additional => payload.additional?.map (writeAdditional old)
  | headTracker => payload.headTracker?.map (writeHeadTracker old)
  | data => payload.data?.map (writeData old)
  | limitedAxesImu | limitedAxesImuUncal | heading => none

end PayloadKind

/-! ## The switches agree with it -/

variable {sensorType : Int} {k : PayloadKind}

theorem payloadKind_cases (h : payloadKind sensorType = some k) :
    (∃ t, SensorType.ofValue? sensorType = some t ∧ t.value = sensorType ∧ k = t.kind) ∨
      SensorType.ofValue? sensorType = none ∧ SensorType.devicePrivateBase ≤ sensorType ∧
        k = .data := by
  unfold payloadKind at h
  split at h
  case h_1 t ht =>
    cases h
    exact .inl ⟨t, ht, SensorType.value_of_ofValue? ht, rfl⟩
  case h_2 hnone =>
    split at h
    case isTrue hbase =>
      cases h
      exact .inr ⟨hnone, hbase, rfl⟩
    case isFalse => exact absurd h (by simp)

/-- The case of `convertToAidlEvent` a type falls into. -/
theorem convertToAidlPayload_of_kind (h : payloadKind sensorType = some k)
    (e : Hidl.EventPayload) : convertToAidlPayload sensorType e = k.toAidl e := by
  rcases payloadKind_cases h with ⟨t, ht, rfl, rfl⟩ | ⟨hnone, hbase, rfl⟩
  · unfold convertToAidlPayload
    rw [ht]
    cases t <;> rfl
  · have hhead : sensorType ≠ SensorType.headTracker.value := by
      rintro rfl
      exact absurd hbase (by decide)
    unfold convertToAidlPayload
    rw [hnone]
    exact (if_neg hhead).trans (if_neg (Int.not_lt.mpr hbase))

/-- The case of `convertToHidlEvent` a type falls into. -/
theorem convertToHidlPayload_of_kind (h : payloadKind sensorType = some k)
    (payload : Aidl.EventPayload) (old : Hidl.EventPayload) :
    convertToHidlPayload sensorType payload old = k.toHidl payload old := by
  rcases payloadKind_cases h with ⟨t, ht, rfl, rfl⟩ | ⟨hnone, hbase, rfl⟩
  · unfold convertToHidlPayload
    rw [ht]
    cases t <;> rfl
  · unfold convertToHidlPayload
    rw [hnone]
    exact if_neg (Int.not_lt.mpr hbase)

/-! ## What is written into a HIDL payload is read back -/

section Structures

variable (e : Hidl.EventPayload)

@[simp] theorem readMeta_writeMeta (m : Aidl.MetaData) : readMeta (writeMeta e m) = m := by
  simp only [readMeta, writeMeta, Field.read_write]

@[simp] theorem readVec3_writeVec3 (v : Aidl.Vec3) : readVec3 (writeVec3 e v) = v := by
  simp (disch := decide) only [readVec3, writeVec3, Field.read_write, Field.read_write_of_apart]

@[simp] theorem readVec4_writeVec4 (v : Aidl.Vec4) : readVec4 (writeVec4 e v) = v := by
  simp (disch := decide) only [readVec4, writeVec4, Field.read_write, Field.read_write_of_apart]

@[simp] theorem readUncal_writeUncal (v : Aidl.Uncal) : readUncal (writeUncal e v) = v := by
  simp (disch := decide) only [readUncal, writeUncal, Field.read_write, Field.read_write_of_apart]

@[simp] theorem readHeartRate_writeHeartRate (r : Aidl.HeartRate) :
    readHeartRate (writeHeartRate e r) = r := by
  simp (disch := decide) only [readHeartRate, writeHeartRate, Field.read_write,
    Field.read_write_of_apart]

@[simp] theorem readPose6Dof_writePose6Dof (p : Aidl.Pose6Dof) :
    readPose6Dof (writePose6Dof e p) = p := by
  simp only [readPose6Dof, writePose6Dof, Field.read_write]

@[simp] theorem boolOfByte_byteOfBool (b : Bool) : boolOfByte (byteOfBool b) = b := by
  cases b <;> rfl

@[simp] theorem readDynamic_writeDynamic (d : Aidl.DynamicSensorInfo) :
    readDynamic (writeDynamic e d) = d := by
  simp (disch := decide) only [readDynamic, writeDynamic, Field.read_write,
    Field.read_write_of_apart, boolOfByte_byteOfBool]

@[simp] theorem readHeadTracker_writeHeadTracker (h : Aidl.HeadTracker) :
    readHeadTracker (writeHeadTracker e h) = h := by
  simp (disch := decide) only [readHeadTracker, writeHeadTracker, Field.read_write,
    Field.read_write_of_apart]

@[simp] theorem readData_writeData (d : Aidl.Data) : readData (writeData e d) = d := by
  simp only [readData, writeData, Field.read_write]

end Structures

/-! ## Both round trips, kind by kind -/

namespace PayloadKind

/-- The member that is set is the one of the kind. -/
def Prescribes (p : Aidl.EventPayload) : PayloadKind → Prop
  | metaData => ∃ m, p = .metaData m
  | vec3 => ∃ v, p = .vec3 v
  | vec4 => ∃ v, p = .vec4 v
  | uncal => ∃ v, p = .uncal v
  | scalar => ∃ v, p = .scalar v
  | stepCount => ∃ n, p = .stepCount n
  | heartRate => ∃ r, p = .heartRate r
  | pose6DOF => ∃ q, p = .pose6DOF q
  | dynamic => ∃ d, p = .dynamic d
  | additional => ∃ a, p = .additional a
  | first5 | data => ∃ d, p = .data d
  | headTracker => ∃ h, p = .headTracker h
  | limitedAxesImu => p = .limitedAxesImu
  | limitedAxesImuUncal => p = .limitedAxesImuUncal
  | heading => p = .heading

/-- The same member, with the same value in every field the kind defines. -/
def SameOn : PayloadKind → Aidl.EventPayload → Aidl.EventPayload → Prop
  | first5, .data a, .data b => u.data.first5.read a.values = u.data.first5.read b.values
  | _, p, q => p = q

end PayloadKind

/-- The HIDL union does not say which of `data_int32` and `data_float` was written: what comes back
are integers. -/
def Aidl.EventPayload.asInt32 : Aidl.EventPayload → Aidl.EventPayload
  | .additional ⟨type, serial, .dataFloat values⟩ => .additional ⟨type, serial, .dataInt32 values⟩
  | p => p

theorem readAdditional_writeAdditional (e : Hidl.EventPayload) (a : Aidl.AdditionalInfo) :
    Aidl.EventPayload.additional (readAdditional (writeAdditional e a)) =
      (Aidl.EventPayload.additional a).asInt32 := by
  obtain ⟨type, serial, values | values⟩ := a
  · simp (disch := decide) only [readAdditional, writeAdditional, Field.read_write,
      Field.read_write_of_apart, Aidl.EventPayload.asInt32]
  · -- the two arrays are the same cells
    have hsame : u.additional.data_int32 = u.additional.data_float := rfl
    simp (disch := decide) only [readAdditional, writeAdditional, hsame, Field.read_write,
      Field.read_write_of_apart, Aidl.EventPayload.asInt32]

namespace PayloadKind

/-- Into the HIDL union and out of it. -/
theorem toAidl_toHidl (hin : k.inHidl = true) {p : Aidl.EventPayload} (hp : k.Prescribes p)
    (old : Hidl.EventPayload) :
    ∃ h q, k.toHidl p old = some h ∧ k.toAidl h = some q ∧ k.SameOn q p.asInt32 := by
  cases k with
  | metaData =>
      obtain ⟨m, rfl⟩ := hp
      exact ⟨_, _, rfl, rfl, congrArg _ (readMeta_writeMeta old m)⟩
  | vec3 =>
      obtain ⟨v, rfl⟩ := hp
      exact ⟨_, _, rfl, rfl, congrArg _ (readVec3_writeVec3 old v)⟩
  | vec4 =>
      obtain ⟨v, rfl⟩ := hp
      exact ⟨_, _, rfl, rfl, congrArg _ (readVec4_writeVec4 old v)⟩
  | first5 =>
      obtain ⟨d, rfl⟩ := hp
      refine ⟨_, _, rfl, rfl, ?_⟩
      simp only [Aidl.EventPayload.asInt32, SameOn, readFirst5, writeFirst5, Field.read_write]
  | uncal =>
      obtain ⟨v, rfl⟩ := hp
      exact ⟨_, _, rfl, rfl, congrArg _ (readUncal_writeUncal old v)⟩
  | scalar =>
      obtain ⟨v, rfl⟩ := hp
      exact ⟨_, _, rfl, rfl, congrArg _ (Field.read_write _ v old)⟩
  | stepCount =>
      obtain ⟨n, rfl⟩ := hp
      exact ⟨_, _, rfl, rfl, congrArg _ (Field.read_write _ n old)⟩
  | heartRate =>
      obtain ⟨r, rfl⟩ := hp
      exact ⟨_, _, rfl, rfl, congrArg _ (readHeartRate_writeHeartRate old r)⟩
  | pose6DOF =>
      obtain ⟨q, rfl⟩ := hp
      exact ⟨_, _, rfl, rfl, congrArg _ (readPose6Dof_writePose6Dof old q)⟩
  | dynamic =>
      obtain ⟨d, rfl⟩ := hp
      exact ⟨_, _, rfl, rfl, congrArg _ (readDynamic_writeDynamic old d)⟩
  | additional =>
      obtain ⟨a, rfl⟩ := hp
      exact ⟨_, _, rfl, rfl, readAdditional_writeAdditional old a⟩
  | headTracker =>
      obtain ⟨h, rfl⟩ := hp
      exact ⟨_, _, rfl, rfl, congrArg _ (readHeadTracker_writeHeadTracker old h)⟩
  | data =>
      obtain ⟨d, rfl⟩ := hp
      exact ⟨_, _, rfl, rfl, congrArg _ (readData_writeData old d)⟩
  | limitedAxesImu | limitedAxesImuUncal | heading => exact absurd hin (by decide)

/-- The AIDL payload has every field of the HIDL one. -/
theorem agreeOn_of_sameOn {a b : Hidl.EventPayload} {p q : Aidl.EventPayload}
    (ha : k.toAidl a = some p) (hb : k.toAidl b = some q) (h : k.SameOn p q) : k.AgreeOn a b := by
  cases k with
  | limitedAxesImu | limitedAxesImuUncal | heading => exact absurd ha nofun
  | dynamic =>
      cases ha
      cases hb
      simp only [SameOn, readDynamic, Aidl.EventPayload.dynamic.injEq,
        Aidl.DynamicSensorInfo.mk.injEq] at h
      exact ⟨by simpa [fields] using h.2, fun _ => h.1⟩
  | first5 =>
      cases ha
      cases hb
      simp only [SameOn, readFirst5, Field.read_write] at h
      exact ⟨by simpa [fields] using h, nofun⟩
  | _ =>
      cases ha
      cases hb
      refine ⟨?_, nofun⟩
      simpa [fields, SameOn, readMeta, readVec3, readVec4, readUncal, readHeartRate, readPose6Dof,
        readAdditional, readHeadTracker, readData] using h

/-- The AIDL payload made of a HIDL one has the member of the kind, and integers. -/
theorem prescribes_toAidl (hin : k.inHidl = true) (e : Hidl.EventPayload) :
    ∃ p, k.toAidl e = some p ∧ k.Prescribes p ∧ p.asInt32 = p := by
  cases k with
  | limitedAxesImu | limitedAxesImuUncal | heading => exact absurd hin (by decide)
  | _ => exact ⟨_, rfl, ⟨_, rfl⟩, rfl⟩

end PayloadKind

/-! ## Out through AIDL and back -/

/-- A HIDL event of a type HIDL 2.1 knows, of `HEAD_TRACKER` or of a private type, converted to AIDL
and back over any other event: the timestamp, the handle, the type and every field the type defines
are the same. -/
theorem hidl_event_survives (e old : Hidl.Event) (hk : payloadKind e.sensorType = some k)
    (hin : k.inHidl = true) :
    ∃ a h, convertToAidlEvent e = some a ∧ convertToHidlEvent a old = some h ∧
      h.timestamp = e.timestamp ∧ h.sensorHandle = e.sensorHandle ∧
      h.sensorType = e.sensorType ∧ k.AgreeOn h.u e.u := by
  obtain ⟨p, hp, hpres, hint⟩ := PayloadKind.prescribes_toAidl hin e.u
  obtain ⟨u, q, hu, hq, hsame⟩ := PayloadKind.toAidl_toHidl hin hpres old.u
  rw [hint] at hsame
  have ha : convertToAidlEvent e = some ⟨e.timestamp, e.sensorHandle, e.sensorType, p⟩ := by
    simp only [convertToAidlEvent, convertToAidlPayload_of_kind hk, hp, Option.map_some]
  refine ⟨_, ⟨e.timestamp, e.sensorHandle, e.sensorType, u⟩, ha, ?_, rfl, rfl, rfl,
    PayloadKind.agreeOn_of_sameOn hq hp hsame⟩
  simp only [convertToHidlEvent, convertToHidlPayload_of_kind hk, hu, Option.map_some]

/-- An accelerometer event over a rotation vector. -/
theorem hidl_event_survives_accelerometer :
    ∃ a h, convertToAidlEvent ⟨7, 1, 1, fun i => BitVec.ofNat 8 i⟩ = some a ∧
      convertToHidlEvent a ⟨3, 2, 11, fun _ => 9⟩ = some h ∧ h.timestamp = 7 ∧
      h.sensorHandle = 1 ∧ h.sensorType = 1 ∧
      PayloadKind.vec3.AgreeOn h.u fun i => BitVec.ofNat 8 i :=
  hidl_event_survives ⟨7, 1, 1, fun i => BitVec.ofNat 8 i⟩ ⟨3, 2, 11, fun _ => 9⟩ rfl rfl

/-- These are all the events `convertToAidlEvent` does not abort on. -/
theorem convertToAidlEvent_isSome_iff (e : Hidl.Event) :
    (convertToAidlEvent e).isSome = true ↔
      ∃ k, payloadKind e.sensorType = some k ∧ k.inHidl = true := by
  rw [convertToAidlEvent, Option.isSome_map]
  constructor
  · intro h
    by_cases hk : ∃ k, payloadKind e.sensorType = some k
    · obtain ⟨k, hk⟩ := hk
      rw [convertToAidlPayload_of_kind hk] at h
      refine ⟨k, hk, ?_⟩
      cases k with
      | limitedAxesImu | limitedAxesImuUncal | heading => exact absurd h Bool.false_ne_true
      | _ => rfl
    · -- neither an enumerator nor a private type
      rw [not_exists] at hk
      unfold payloadKind at hk
      split at hk
      case h_1 t ht => exact absurd rfl (hk t.kind)
      case h_2 hnone =>
        split at hk
        case isTrue => exact absurd rfl (hk .data)
        case isFalse hbase =>
          have hhead : e.sensorType ≠ SensorType.headTracker.value := by
            intro heq
            rw [heq, SensorType.ofValue?_value] at hnone
            exact absurd hnone (by simp)
          have habort : convertToAidlPayload e.sensorType e.u = none := by
            unfold convertToAidlPayload
            rw [hnone]
            exact (if_neg hhead).trans (if_pos (Int.not_le.mp hbase))
          rw [habort] at h
          exact absurd h (by decide)
  · rintro ⟨k, hk, hin⟩
    obtain ⟨p, hp, _⟩ := PayloadKind.prescribes_toAidl hin e.u
    rw [convertToAidlPayload_of_kind hk, hp]
    rfl

/-! ## In through AIDL and back -/

/-- An AIDL event whose member is the one its type prescribes.  Of a type HIDL 2.1 has a payload for,
converted to HIDL over any other event and back: the timestamp, the handle, the type, the member and
every field the type defines are the same, but additional information comes back as integers.  Of
another type, it is refused. -/
theorem aidl_event_survives (e : Aidl.Event) (old : Hidl.Event)
    (hk : payloadKind e.sensorType = some k) (hp : k.Prescribes e.payload) :
    (k.inHidl = true → ∃ h a, convertToHidlEvent e old = some h ∧ convertToAidlEvent h = some a ∧
      a.timestamp = e.timestamp ∧ a.sensorHandle = e.sensorHandle ∧
      a.sensorType = e.sensorType ∧ k.SameOn a.payload e.payload.asInt32) ∧
    (k.inHidl = false → convertToHidlEvent e old = none) := by
  constructor
  · intro hin
    obtain ⟨u, q, hu, hq, hsame⟩ := PayloadKind.toAidl_toHidl hin hp old.u
    have hh : convertToHidlEvent e old =
        some ⟨e.timestamp, e.sensorHandle, e.sensorType, u⟩ := by
      simp only [convertToHidlEvent, convertToHidlPayload_of_kind hk, hu, Option.map_some]
    refine ⟨_, ⟨e.timestamp, e.sensorHandle, e.sensorType, q⟩, hh, ?_, rfl, rfl, rfl, hsame⟩
    simp only [convertToAidlEvent, convertToAidlPayload_of_kind hk, hq, Option.map_some]
  · intro hin
    have hnone : k.toHidl e.payload old.u = none := by
      cases k with
      | limitedAxesImu | limitedAxesImuUncal | heading => rfl
      | _ => exact absurd hin (by decide)
    simp only [convertToHidlEvent, convertToHidlPayload_of_kind hk, hnone, Option.map_none]

/-- A private event with sixteen values. -/
theorem aidl_event_survives_private :
    ∃ h a, convertToHidlEvent ⟨7, 1, 0x10000, .data ⟨fun i => BitVec.ofNat 8 i⟩⟩
        ⟨3, 2, 11, fun _ => 9⟩ = some h ∧
      convertToAidlEvent h = some a ∧ a.timestamp = 7 ∧ a.sensorHandle = 1 ∧
      a.sensorType = 0x10000 ∧
      PayloadKind.data.SameOn a.payload (.data ⟨fun i => BitVec.ofNat 8 i⟩) :=
  (aidl_event_survives ⟨7, 1, 0x10000, .data ⟨fun i => BitVec.ofNat 8 i⟩⟩ ⟨3, 2, 11, fun _ => 9⟩
    rfl ⟨_, rfl⟩).1 rfl

/-- Additional information that holds floats comes back holding integers. -/
theorem additional_floats_lost :
    ¬ ∀ (e : Aidl.Event) (old : Hidl.Event) (k : PayloadKind),
      payloadKind e.sensorType = some k → k.Prescribes e.payload →
      ∃ h a, convertToHidlEvent e old = some h ∧ convertToAidlEvent h = some a ∧
        a.timestamp = e.timestamp ∧ a.sensorHandle = e.sensorHandle ∧
        a.sensorType = e.sensorType ∧ k.SameOn a.payload e.payload := by
  intro hall
  obtain ⟨h, a, hh, ha, _, _, _, hsame⟩ :=
    hall ⟨7, 1, 33, .additional ⟨fun _ => 0, fun _ => 0, .dataFloat fun _ => 0⟩⟩
      ⟨0, 0, 0, fun _ => 0⟩ .additional rfl ⟨_, rfl⟩
  cases hh
  cases ha
  simp only [PayloadKind.SameOn, readAdditional, Aidl.EventPayload.additional.injEq,
    Aidl.AdditionalInfo.mk.injEq, reduceCtorEq, and_false] at hsame

end Smi240Hal.MultiHal
