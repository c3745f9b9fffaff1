/-
# Smi240Hal.MultiHal.SensorTables — sensor handles, the sensor tables and call routing

The framework sees one flat set of sensor handles.  `HalProxy` makes a handle by putting the index
of the sub-HAL into the first byte of the handle the sub-HAL uses itself, keeps the sensors it was
told about in `mSensors` (at construction) and `mDynamicSensors` (while running), and takes the byte
out again when the framework calls.

An `int32_t` handle is a `BitVec 32` and a `std::map<int32_t, ..>` is ordered by the signed value.
A sub-HAL is its index in `mSubHalList`; what it answers is a parameter of the routed calls.
-/
import Mathlib.Algebra.Order.Ring.Nat
import Mathlib.Data.List.Basic

namespace Smi240Hal.MultiHal

/-! ## Handles -/

/-- An `int32_t` sensor handle. -/
abbrev Handle := BitVec 32

def kBitsAfterSubHalIndex : Nat := 24

def kSensorHandleSubHalIndexMask : Handle := 0xFF000000

/-- Set the sub-HAL index as first byte of the sensor handle; `HalProxy` and the callback it gives to
the sub-HALs each have a copy. -/
def setSubHalIndex (sensorHandle : Handle) (subHalIndex : Nat) : Handle :=
  sensorHandle ||| (BitVec.ofNat 32 subHalIndex <<< kBitsAfterSubHalIndex)

/-- `static_cast<size_t>(sensorHandle >> kBitsAfterSubHalIndex)`: the shift keeps the sign, and so
does the widening. -/
def extractSubHalIndex (sensorHandle : Handle) : Nat :=
  ((sensorHandle.sshiftRight kBitsAfterSubHalIndex).signExtend 64).toNat

/-- The handle as its sub-HAL knows it. -/
def clearSubHalIndex (sensorHandle : Handle) : Handle :=
  sensorHandle &&& ~~~kSensorHandleSubHalIndexMask

/-- No sub-HAL index is in the handle. -/
def subHalIndexIsClear (sensorHandle : Handle) : Bool :=
  sensorHandle &&& kSensorHandleSubHalIndexMask == 0

/-! ## Sensors -/

/-- The order of `std::map<int32_t, ..>`. -/
def cmpHandle (a b : Handle) : Ordering := compare a.toInt b.toInt

instance : Std.TransCmp cmpHandle where
  eq_swap := by
    intro a b
    exact Std.OrientedOrd.eq_swap
  isLE_trans := by
    intro a b c hab hbc
    exact Std.TransOrd.isLE_trans hab hbc

instance : Std.LawfulEqCmp cmpHandle where
  compare_self := by
    intro a
    exact Std.ReflOrd.compare_self
  eq_of_compare h := BitVec.eq_of_toInt_eq (Std.LawfulEqOrd.eq_of_compare h)

namespace SensorFlagBits

def WAKE_UP : BitVec 32 := 1
def MASK_DIRECT_REPORT : BitVec 32 := 0x380
def MASK_DIRECT_CHANNEL : BitVec 32 := 0xC00

end SensorFlagBits

namespace SensorType

def ADDITIONAL_INFO : Nat := 33
def DYNAMIC_SENSOR_META : Nat := 32
def HINGE_ANGLE : Nat := 36

end SensorType

/-- The fields of `SensorInfo` that `HalProxy` reads or writes. -/
structure SensorInfo where
  sensorHandle : Handle
  name : String
  type : Nat
  flags : BitVec 32
deriving DecidableEq

/-- The value `operator[]` of a map makes for a missing key. -/
def SensorInfo.empty : SensorInfo := ⟨0, "", 0, 0⟩

/-- The flag of a wake-up sensor. -/
def SensorInfo.isWakeUp (s : SensorInfo) : Bool := s.flags &&& SensorFlagBits.WAKE_UP != 0

/-- `std::map<int32_t, SensorInfo>`. -/
abbrev SensorMap := Std.ExtTreeMap Handle SensorInfo cmpHandle

/-- The state of `HalProxy` that says which sensors there are; a sub-HAL is its index. -/
structure SensorTables where
  subHalCount : Nat
  mSensors : SensorMap
  mDynamicSensors : SensorMap
  mDirectChannelSubHal : Option Nat

/-! ## Building the tables -/

/-- `setDirectChannelFlags`: the flags of the sensor, and the sub-HAL chosen for direct channels. -/
def setDirectChannelFlags (chosen : Option Nat) (sensor : SensorInfo) (subHal : Nat) :
    SensorInfo × Option Nat :=
  let mask := SensorFlagBits.MASK_DIRECT_REPORT ||| SensorFlagBits.MASK_DIRECT_CHANNEL
  let sensorSupportsDirectChannel := sensor.flags &&& mask != 0
  match chosen with
  | none => if sensorSupportsDirectChannel then (sensor, some subHal) else (sensor, none)
  | some c =>
      if subHal ≠ c then ({ sensor with flags := sensor.flags &&& ~~~mask }, some c)
      else (sensor, some c)

/-- One sensor of the list a sub-HAL reports. -/
def loadSensor (subHalIndex : Nat) (t : SensorTables) (sensor : SensorInfo) : SensorTables :=
  if subHalIndexIsClear sensor.sensorHandle = false then t
  else
    let sensor := { sensor with sensorHandle := setSubHalIndex sensor.sensorHandle subHalIndex }
    let (sensor, chosen) := setDirectChannelFlags t.mDirectChannelSubHal sensor subHalIndex
    { t with mSensors := t.mSensors.insert sensor.sensorHandle sensor, mDirectChannelSubHal := chosen }

/-- The list of one sub-HAL, with its index; `none` is a `getSensorsList` call that fails. -/
def loadSubHal (t : SensorTables) (subHal : Option (List SensorInfo) × Nat) : SensorTables :=
  (subHal.1.getD []).foldl (loadSensor subHal.2) t

/-- All sub-HALs in order; one without a list is passed over. -/
def initializeSensorList (reported : List (Option (List SensorInfo))) (t : SensorTables) :
    SensorTables :=
  reported.zipIdx.foldl loadSubHal t

/-- The tables after the constructor. -/
def SensorTables.construct (reported : List (Option (List SensorInfo))) : SensorTables :=
  initializeSensorList reported ⟨reported.length, ∅, ∅, none⟩

namespace SensorTables

/-- `getSensorsList_2_1`. -/
def getSensorsList21 (t : SensorTables) : List SensorInfo := t.mSensors.toList.map Prod.snd

/-- `getSensorsList`. -/
def getSensorsList (t : SensorTables) : List SensorInfo :=
  t.getSensorsList21.filter fun s => s.type != SensorType.HINGE_ANGLE

/-- The handles `disableAllSensors` calls `activate` for. -/
def disableAllSensorsHandles (t : SensorTables) : List Handle :=
  t.mSensors.keys ++ t.mDynamicSensors.keys

/-- One round of the loop of `onDynamicSensorsConnected`. -/
def connectSensor (subHalIndex : Nat) (acc : List SensorInfo × SensorTables)
    (sensor : SensorInfo) : List SensorInfo × SensorTables :=
  if subHalIndexIsClear sensor.sensorHandle = false then acc
  else
    let sensor := { sensor with sensorHandle := setSubHalIndex sensor.sensorHandle subHalIndex }
    (acc.1 ++ [sensor],
      { acc.2 with
        mDynamicSensors := acc.2.mDynamicSensors.insert sensor.sensorHandle sensor })

/-- `onDynamicSensorsConnected`: the sensors reported to the framework, and the tables. -/
def onDynamicSensorsConnected (t : SensorTables) (dynamicSensorsAdded : List SensorInfo)
    (subHalIndex : Nat) : List SensorInfo × SensorTables :=
  dynamicSensorsAdded.foldl (connectSensor subHalIndex) ([], t)

/-- One round of the loop of `onDynamicSensorsDisconnected`. -/
def disconnectSensor (subHalIndex : Nat) (acc : List Handle × SensorTables)
    (sensorHandle : Handle) : List Handle × SensorTables :=
  if subHalIndexIsClear sensorHandle = false then acc
  else
    let sensorHandle := setSubHalIndex sensorHandle subHalIndex
    if sensorHandle ∈ acc.2.mDynamicSensors then
      (acc.1 ++ [sensorHandle],
        { acc.2 with mDynamicSensors := acc.2.mDynamicSensors.erase sensorHandle })
    else acc

/-- `onDynamicSensorsDisconnected`: the handles reported to the framework, and the tables. -/
def onDynamicSensorsDisconnected (t : SensorTables) (dynamicSensorHandlesRemoved : List Handle)
    (subHalIndex : Nat) : List Handle × SensorTables :=
  dynamicSensorHandlesRemoved.foldl (disconnectSensor subHalIndex) ([], t)

/-- What `initializeCommon` does to the tables. -/
def clearDynamicSensors (t : SensorTables) : SensorTables := { t with mDynamicSensors := ∅ }

/-- Connecting touches only `mDynamicSensors`. -/
theorem connected_frame (t : SensorTables) (sensors : List SensorInfo) (i : Nat) :
    (t.onDynamicSensorsConnected sensors i).2.subHalCount = t.subHalCount ∧
      (t.onDynamicSensorsConnected sensors i).2.mSensors = t.mSensors := by
  unfold onDynamicSensorsConnected
  refine List.foldlRecOn (motive := fun acc : List SensorInfo × SensorTables =>
    acc.2.subHalCount = t.subHalCount ∧ acc.2.mSensors = t.mSensors) _ _ ⟨rfl, rfl⟩ ?_
  intro acc hacc s _
  unfold connectSensor
  split <;> exact hacc

/-- So does disconnecting. -/
theorem disconnected_frame (t : SensorTables) (handles : List Handle) (i : Nat) :
    (t.onDynamicSensorsDisconnected handles i).2.subHalCount = t.subHalCount ∧
      (t.onDynamicSensorsDisconnected handles i).2.mSensors = t.mSensors := by
  unfold onDynamicSensorsDisconnected
  refine List.foldlRecOn (motive := fun acc : List Handle × SensorTables =>
    acc.2.subHalCount = t.subHalCount ∧ acc.2.mSensors = t.mSensors) _ _ ⟨rfl, rfl⟩ ?_
  intro acc hacc h _
  unfold disconnectSensor
  split
  · exact hacc
  · dsimp only
    split <;> exact hacc

/-- `getSensorInfo`: `mSensors[sensorHandle]`, which makes an entry when there is none. -/
def getSensorInfo (t : SensorTables) (sensorHandle : Handle) : SensorInfo × SensorTables :=
  match t.mSensors[sensorHandle]? with
  | some sensor => (sensor, t)
  | none => (.empty, { t with mSensors := t.mSensors.insert sensorHandle .empty })

end SensorTables

/-! ## Events -/

/-- `V2_1::Event`; of the payload union, the word that `u.dynamic.sensorHandle` names and the
others. -/
structure Event where
  timestamp : Int
  sensorHandle : Handle
  sensorType : Nat
  dynamicSensorHandle : Handle
  data : List (BitVec 32)
deriving DecidableEq

/-- The copy of an event that goes out, with framework handles. -/
def processedEvent (subHalIndex : Nat) (event : Event) : Event :=
  let event := { event with sensorHandle := setSubHalIndex event.sensorHandle subHalIndex }
  if event.sensorType = SensorType.DYNAMIC_SENSOR_META then
    { event with dynamicSensorHandle := setSubHalIndex event.dynamicSensorHandle subHalIndex }
  else event

/-- One round of the loop of `processEvents`. -/
def processEvent (subHalIndex : Nat) (acc : List Event × Nat × SensorTables) (event : Event) :
    List Event × Nat × SensorTables :=
  let event := processedEvent subHalIndex event
  let (sensor, t) := acc.2.2.getSensorInfo event.sensorHandle
  (acc.1 ++ [event], if sensor.isWakeUp then acc.2.1 + 1 else acc.2.1, t)

/-- `processEvents`: the events with framework handles, `numWakeupEvents`, and the tables. -/
def processEvents (t : SensorTables) (subHalIndex : Nat) (events : List Event) :
    List Event × Nat × SensorTables :=
  events.foldl (processEvent subHalIndex) ([], 0, t)

/-- The loop of `countNumWakeupEvents`, from index `i` on. -/
def countNumWakeupEventsLoop (events : List Event) : Nat → Nat → SensorTables →
    Option (Nat × SensorTables)
  | 0, _, t => some (0, t)
  | n + 1, i, t => do
      let event ← events[i]?
      let (sensor, t) := t.getSensorInfo event.sensorHandle
      let (count, t) ← countNumWakeupEventsLoop events n (i + 1) t
      some (if sensor.isWakeUp then count + 1 else count, t)

/-- `countNumWakeupEvents`: how many of the first `n` events are wake-up events.  Reading behind the
vector is `none`. -/
def countNumWakeupEvents (t : SensorTables) (events : List Event) (n : Nat) :
    Option (Nat × SensorTables) :=
  countNumWakeupEventsLoop events n 0 t

/-! ## Routing -/

/-- `V1_0::Result`. -/
inductive Result
  | OK
  | BAD_VALUE
  | PERMISSION_DENIED
  | NO_MEMORY
  | INVALID_OPERATION
deriving DecidableEq, Repr

/-- `V1_0::OperationMode`. -/
inductive OperationMode
  | NORMAL
  | DATA_INJECTION
deriving DecidableEq, Repr

/-- A call `HalProxy` makes to a sub-HAL. -/
inductive SubHalCall
  | activate (sensorHandle : Handle) (enabled : Bool)
  | batch (sensorHandle : Handle) (samplingPeriodNs maxReportLatencyNs : Int)
  | flush (sensorHandle : Handle)
  | injectSensorData (event : Event)
deriving DecidableEq

/-- The index in the handle is that of a sub-HAL. -/
def isSubHalIndexValid (t : SensorTables) (sensorHandle : Handle) : Bool :=
  extractSubHalIndex sensorHandle < t.subHalCount

/-- The common shape of the routed methods: `BAD_VALUE` for an index without a sub-HAL, else the
answer of that sub-HAL to `call`; the second component is the calls made. -/
def routeCall (reply : Nat → SubHalCall → Result) (t : SensorTables) (sensorHandle : Handle)
    (call : Handle → SubHalCall) : Result × List (Nat × SubHalCall) :=
  if isSubHalIndexValid t sensorHandle = false then (.BAD_VALUE, [])
  else
    let subHal := extractSubHalIndex sensorHandle
    let c := call (clearSubHalIndex sensorHandle)
    (reply subHal c, [(subHal, c)])

section Route

variable (reply : Nat → SubHalCall → Result) (t : SensorTables)

/-- `HalProxy::activate`; `batch` and `flush` are routed alike. -/
def activate (sensorHandle : Handle) (enabled : Bool) : Result × List (Nat × SubHalCall) :=
  routeCall reply t sensorHandle fun h => .activate h enabled

def batch (sensorHandle : Handle) (samplingPeriodNs maxReportLatencyNs : Int) :
    Result × List (Nat × SubHalCall) :=
  routeCall reply t sensorHandle fun h => .batch h samplingPeriodNs maxReportLatencyNs

def flush (sensorHandle : Handle) : Result × List (Nat × SubHalCall) :=
  routeCall reply t sensorHandle fun h => .flush h

/-- `injectSensorData`, which first checks the operation mode. -/
def injectSensorData (mode : OperationMode) (event : Event) : Result × List (Nat × SubHalCall) :=
  if mode = .NORMAL ∧ event.sensorType ≠ SensorType.ADDITIONAL_INFO then (.BAD_VALUE, [])
  else
    routeCall reply t event.sensorHandle fun h => .injectSensorData { event with sensorHandle := h }

end Route

end Smi240Hal.MultiHal
