/-
# Smi240Hal.Services.HalProxy — the services behind the proxy

`HalProxy` with sub-HALs of this repository: a call of the framework goes to the sub-HAL its handle
names, a sensor thread runs beside the binder thread, and what a sub-HAL posts comes out under the
handles of the framework.  The tables, the routing and the processing of events are those of
`SensorTables`; the sub-HALs are the services.

The binder thread is inside `initializeCommon` between `stopThreads` and the rest of it.  What is
posted then is dropped, and before the first one has given the sub-HALs their callbacks a post goes
through a null pointer and has no successor.  What the direct-channel calls do is left out, and so is
what the sub-HALs note of `setOperationMode`: neither comes to a sensor.
-/
import Smi240Hal.MultiHal.OperationModes
import Smi240Hal.MultiHal.PostFrame
import Smi240Hal.MultiHal.Routing
import Smi240Hal.MultiHal.SensorList
import Smi240Hal.Services.Posts

namespace Smi240Hal.Services

open Smi240Hal.Lib Smi240Hal.Sampling
open Smi240Hal.MultiHal (Handle Result OperationMode SensorTables SubHalCall)

variable {N : Type}

/-! ## What passes between a sub-HAL and the proxy -/

/-- The sensor as `getSensorsList` of the sub-HAL reports it; nothing here reads the name. -/
def Device.sensorInfo (d : Device N) : MultiHal.SensorInfo :=
  ⟨d.sensorHandle, "", d.info.type.toNat, d.info.flags⟩

/-- What a sub-HAL reports. -/
def Service.getSensorsList (s : Service N Result) : List MultiHal.SensorInfo :=
  s.mSensors.toList.map fun sensor => sensor.2.sensorInfo

/-- `SensorType::META_DATA`. -/
def META_DATA : Nat := 0

/-- The event as it is handed to the callback; `layout` is the time and the union. -/
def SensorEvent.toEvent (layout : SensorEvent N → MultiHal.Event) (e : SensorEvent N) :
    MultiHal.Event :=
  { layout e with
    sensorHandle := BitVec.ofInt 32 e.sensorHandle
    sensorType := match e with
      | .data event => event.sensorType.toNat
      | .flushComplete _ => META_DATA }

/-- A call of the proxy as the sub-HAL sees it. -/
def subHalCall : SubHalCall → Call
  | .activate sensorHandle enabled => .activate sensorHandle enabled
  | .batch sensorHandle samplingPeriodNs maxReportLatencyNs =>
      .batch sensorHandle samplingPeriodNs maxReportLatencyNs
  | .flush sensorHandle => .flush sensorHandle
  | .injectSensorData event => .injectSensorData event.sensorHandle event.sensorType

/-! ## The proxy -/

/-- A call of the framework that is for sensors. -/
inductive ProxyCall
  | activate (sensorHandle : Handle) (enabled : Bool)
  | batch (sensorHandle : Handle) (samplingPeriodNs maxReportLatencyNs : Int)
  | flush (sensorHandle : Handle)
  | injectSensorData (event : MultiHal.Event)
  | setOperationMode (mode : OperationMode)
deriving DecidableEq

/-- The proxy over services of this repository. -/
structure HalProxy (N : Type) where
  tables : SensorTables
  mCurrentOperationMode : OperationMode
  mThreadsRun : Bool
  /-- The binder thread is inside `initializeCommon`. -/
  initializing : Bool
  /-- The sub-HALs have their callbacks. -/
  callbacks : Bool
  mSubHalList : List (Service N Result)
  /-- What `postEventsToMessageQueue` was called with. -/
  posted : List (List MultiHal.Event × Nat)
  answers : List (ProxyCall × Result)

/-- A call of the framework, a part of `initializeCommon`, or an iteration in a sub-HAL. -/
inductive ProxyAct
  | call (c : ProxyCall)
  /-- The beginning of `initializeCommon`. -/
  | stopThreads
  /-- The rest of it. -/
  | initializeCommon
  /-- One iteration of the thread of a sensor. -/
  | iterate (subHalIndex : Nat) (sensorHandle : Handle) (tv_sec tv_nsec timestamp : Int)
      (file : Option (List UInt8))
deriving DecidableEq

namespace HalProxy

/-- The sub-HALs are constructed first; the tables are made of what they report. -/
def construct (mStopThread : Nat → Handle → Bool) (subHals : List (List (SensorClass N))) :
    HalProxy N :=
  let mSubHalList := subHals.zipIdx.map fun p => Service.construct (mStopThread p.2) p.1
  { tables := .construct (mSubHalList.map fun s => some s.getSensorsList)
    mCurrentOperationMode := .NORMAL
    mThreadsRun := false
    initializing := false
    callbacks := false
    mSubHalList := mSubHalList
    posted := []
    answers := [] }

section Step

variable [Zero N] (layout : SensorEvent N → MultiHal.Event)
  (numbers : CNumbers N)

/-- `postEvents` of the callback the sub-HAL was given. -/
def postEvents (subHalIndex : Nat) (s : HalProxy N) (post : PostEvents N) :
    Option (HalProxy N) :=
  if s.callbacks = false then none
  else if post.events.isEmpty || !s.mThreadsRun then some s
  else
    let (events, numWakeupEvents, tables) :=
      MultiHal.processEvents s.tables subHalIndex (post.events.map (SensorEvent.toEvent layout))
    some { s with tables := tables, posted := s.posted ++ [(events, numWakeupEvents)] }

/-- A sub-HAL does something, and posts what it posts. -/
def perform (subHalIndex : Nat) (a : ServiceAct) (s : HalProxy N) : Option (HalProxy N) := do
  let subHal ← s.mSubHalList[subHalIndex]?
  let subHal' ← subHal.step numbers Services.subHal a
  (subHal'.posts.drop subHal.posts.length).foldlM (postEvents layout subHalIndex)
    { s with mSubHalList := s.mSubHalList.set subHalIndex subHal' }

/-- What a sub-HAL answers. -/
def reply (s : HalProxy N) (subHalIndex : Nat) (c : SubHalCall) : Result :=
  match s.mSubHalList[subHalIndex]? with
  | none => .BAD_VALUE
  | some subHal => (Services.subHal.call subHal.mSensors (subHalCall c)).answer

/-- The calls a routed method makes. -/
def route (calls : List (Nat × SubHalCall)) (s : HalProxy N) : Option (HalProxy N) :=
  calls.foldlM (fun s c => s.perform layout numbers c.1 (.call (subHalCall c.2))) s

/-- `setOperationMode`, over sub-HALs that are always in `NORMAL`: the answer, and the mode. -/
def setOperationMode (s : HalProxy N) (mode : OperationMode) : Result × OperationMode :=
  let out := MultiHal.setOperationMode MultiHal.boschSubHal
    ⟨s.mSubHalList.map fun _ => (), s.mCurrentOperationMode⟩ mode
  (out.1, out.2.mCurrentOperationMode)

/-- The answer, and the calls made for it. -/
def outcome (s : HalProxy N) : ProxyCall → Result × List (Nat × SubHalCall)
  | .activate sensorHandle enabled => MultiHal.activate s.reply s.tables sensorHandle enabled
  | .batch sensorHandle samplingPeriodNs maxReportLatencyNs =>
      MultiHal.batch s.reply s.tables sensorHandle samplingPeriodNs maxReportLatencyNs
  | .flush sensorHandle => MultiHal.flush s.reply s.tables sensorHandle
  | .injectSensorData event =>
      MultiHal.injectSensorData s.reply s.tables s.mCurrentOperationMode event
  | .setOperationMode mode => ((s.setOperationMode mode).1, [])

/-- The mode after a call. -/
def modeAfter (s : HalProxy N) : ProxyCall → OperationMode
  | .setOperationMode mode => (s.setOperationMode mode).2
  | _ => s.mCurrentOperationMode

/-- A call is routed, and what the sub-HAL says is the answer. -/
def call (c : ProxyCall) (s : HalProxy N) : Option (HalProxy N) := do
  let t ← s.route layout numbers (s.outcome c).2
  some { t with
    mCurrentOperationMode := s.modeAfter c
    answers := t.answers ++ [(c, (s.outcome c).1)] }

/-- `activate(handle, false)` for every sensor in the tables, as a call each. -/
def disableAllSensors (s : HalProxy N) : Option (HalProxy N) :=
  s.tables.disableAllSensorsHandles.foldlM
    (fun s h => s.route layout numbers (MultiHal.activate s.reply s.tables h false).2) s

/-- What `initializeCommon` sets; the callbacks are given one by one, with nothing posted. -/
def restart (s : HalProxy N) : HalProxy N :=
  { s with
    tables := s.tables.clearDynamicSensors
    mThreadsRun := true
    initializing := false
    callbacks := true
    mCurrentOperationMode := .NORMAL }

/-- The part of `initializeCommon` behind `stopThreads`. -/
def initializeCommon (s : HalProxy N) : Option (HalProxy N) := do
  let s ← s.disableAllSensors layout numbers
  (List.range s.mSubHalList.length).foldlM
    (fun s i => s.perform layout numbers i (.call (.initializeBase true))) s.restart

/-- The framework waits for `initializeCommon`; the threads of the sub-HALs do not. -/
def step (s : HalProxy N) : ProxyAct → Option (HalProxy N)
  | .call c => if s.initializing then none else s.call layout numbers c
  | .stopThreads =>
      if s.initializing then none else some { s with initializing := true, mThreadsRun := false }
  | .initializeCommon => if s.initializing then s.initializeCommon layout numbers else none
  | .iterate subHalIndex sensorHandle tv_sec tv_nsec timestamp file =>
      s.perform layout numbers subHalIndex (.iterate sensorHandle tv_sec tv_nsec timestamp file)

end Step

end HalProxy

/-- The proxy with sub-HALs that have sensors of these classes. -/
def halProxy [Zero N] (layout : SensorEvent N → MultiHal.Event)
    (numbers : CNumbers N) (subHals : List (List (SensorClass N))) :
    Machine (HalProxy N) ProxyAct where
  Start s := ∃ mStopThread, s = .construct mStopThread subHals
  step := HalProxy.step layout numbers

/-! ## The tables of the services -/

/-- The handles of the sensors of these classes. -/
def ownHandles (classes : List (SensorClass N)) : List Handle :=
  (List.range classes.length).map fun n => BitVec.ofNat 32 (n + 1)

/-- Some sub-HAL of the proxy has a sensor with this handle. -/
def HasSensor (subHals : List (List (SensorClass N))) (i : Nat) (h : Handle)
    (c : SensorClass N) : Prop :=
  ∃ classes, subHals[i]? = some classes ∧ classAt classes h = some c

/-- As many as there are handles for: an index and a handle have a byte and three. -/
structure Fits (subHals : List (List (SensorClass N))) : Prop where
  count : subHals.length ≤ 128
  sensors : ∀ classes ∈ subHals, classes.length < 2 ^ 24

theorem classAt_toNat {classes : List (SensorClass N)} {h : Handle} {c : SensorClass N}
    (hc : classAt classes h = some c) : 0 < h.toNat ∧ h.toNat ≤ classes.length := by
  unfold classAt at hc
  split at hc
  · exact nomatch hc
  · next hzero =>
      have hpos : h.toNat ≠ 0 := fun hz => hzero (BitVec.eq_of_toNat_eq hz)
      obtain ⟨hlt, -⟩ := List.getElem?_eq_some_iff.mp hc
      omega

theorem HasSensor.clear {subHals : List (List (SensorClass N))} (hfits : Fits subHals) {i : Nat}
    {h : Handle} {c : SensorClass N} (hsensor : HasSensor subHals i h c) :
    i < subHals.length ∧ MultiHal.subHalIndexIsClear h = true := by
  obtain ⟨classes, hget, hc⟩ := hsensor
  have hlen := hfits.sensors classes (List.mem_of_getElem? hget)
  have hnat := classAt_toNat hc
  exact ⟨(List.getElem?_eq_some_iff.mp hget).1,
    (MultiHal.subHalIndexIsClear_iff h).mpr (by omega)⟩

/-- The tables know the sensors of the sub-HALs, each under the handle made for it. -/
structure ListsSensors (subHals : List (List (SensorClass N))) (t : SensorTables) : Prop where
  count : t.subHalCount = subHals.length
  dynamic : t.mDynamicSensors = ∅
  mem : ∀ k, k ∈ t.mSensors ↔
    ∃ i h c, HasSensor subHals i h c ∧ k = MultiHal.setSubHalIndex h i
  wakeUp : ∀ i h c, HasSensor subHals i h c →
    t.staticWakeUp (MultiHal.setSubHalIndex h i) = (c.flags &&& MultiHal.SensorFlagBits.WAKE_UP != 0)

theorem HasSensor.unique {subHals : List (List (SensorClass N))} {i : Nat} {h : Handle}
    {c c' : SensorClass N} (hc : HasSensor subHals i h c) (hc' : HasSensor subHals i h c') :
    c = c' := by
  obtain ⟨classes, hget, hclass⟩ := hc
  obtain ⟨classes', hget', hclass'⟩ := hc'
  rw [hget, Option.some.injEq] at hget'
  subst hget'
  rw [hclass, Option.some.injEq] at hclass'
  exact hclass'

/-- The sensor of a class as its sub-HAL reports it. -/
def SensorClass.sensorInfo (h : Handle) (c : SensorClass N) : MultiHal.SensorInfo :=
  ⟨h, "", c.type.toNat, c.flags⟩

theorem mem_getSensorsList {mStopThread : Handle → Bool} {classes : List (SensorClass N)}
    (hlen : classes.length < 2 ^ 32) {info : MultiHal.SensorInfo} :
    info ∈ (Service.construct mStopThread classes).getSensorsList ↔
      ∃ h c, classAt classes h = some c ∧ info = c.sensorInfo h := by
  rw [Service.getSensorsList, List.mem_map]
  constructor
  · rintro ⟨⟨h, d⟩, hmem, rfl⟩
    have hget := Std.ExtTreeMap.mem_toList_iff_getElem?_eq_some.mp hmem
    rw [construct_get hlen] at hget
    obtain ⟨c, hc, rfl⟩ := Option.map_eq_some_iff.mp hget
    exact ⟨h, c, hc, rfl⟩
  · rintro ⟨h, c, hc, rfl⟩
    refine ⟨(h, ⟨h, c, .start (mStopThread h)⟩), ?_, rfl⟩
    rw [Std.ExtTreeMap.mem_toList_iff_getElem?_eq_some, construct_get hlen, hc]
    rfl

section Tables

variable {subHals : List (List (SensorClass N))} (hfits : Fits subHals)
  (mStopThread : Nat → Handle → Bool)

/-- The sub-HALs as they are made. -/
theorem construct_subHal (i : Nat) :
    (HalProxy.construct mStopThread subHals).mSubHalList[i]? =
      (subHals[i]?).map fun classes => .construct (mStopThread i) classes := by
  simp only [HalProxy.construct, List.getElem?_map, List.getElem?_zipIdx, Option.map_map,
    Nat.zero_add]
  rfl

include hfits

theorem mem_reports_construct {r : MultiHal.Report} :
    r ∈ MultiHal.reports ((HalProxy.construct mStopThread subHals).mSubHalList.map
        fun s => some s.getSensorsList) ↔
      ∃ h c, HasSensor subHals r.subHal h c ∧ r.sensor = c.sensorInfo h := by
  rw [MultiHal.mem_reports]
  simp only [List.getElem?_map, construct_subHal, Option.map_map]
  constructor
  · rintro ⟨sensors, hget, hmem, -⟩
    obtain ⟨classes, hclasses, heq⟩ := Option.map_eq_some_iff.mp hget
    have hlen := hfits.sensors classes (List.mem_of_getElem? hclasses)
    cases heq
    obtain ⟨h, c, hc, hinfo⟩ := (mem_getSensorsList (by omega)).mp hmem
    exact ⟨h, c, ⟨classes, hclasses, hc⟩, hinfo⟩
  · rintro ⟨h, c, hsensor, hinfo⟩
    have hclear := (hsensor.clear hfits).2
    obtain ⟨classes, hclasses, hc⟩ := hsensor
    have hlen := hfits.sensors classes (List.mem_of_getElem? hclasses)
    refine ⟨_, Option.map_eq_some_iff.mpr ⟨classes, hclasses, rfl⟩, ?_, ?_⟩
    · exact (mem_getSensorsList (by omega)).mpr ⟨h, c, hc, hinfo⟩
    · rw [hinfo]
      exact hclear

theorem listsSensors_construct :
    ListsSensors subHals (HalProxy.construct mStopThread subHals).tables := by
  have hreports {r : MultiHal.Report} := mem_reports_construct hfits mStopThread (r := r)
  have hlists := MultiHal.lists_construct
    ((HalProxy.construct mStopThread subHals).mSubHalList.map fun s => some s.getSensorsList)
  generalize hreported : (HalProxy.construct mStopThread subHals).mSubHalList.map
    (fun s => some s.getSensorsList) = reported at hreports hlists
  have htables : (HalProxy.construct mStopThread subHals).tables = .construct reported :=
    congrArg SensorTables.construct hreported
  have hlength : reported.length = subHals.length := by
    rw [← hreported, List.length_map]
    simp [HalProxy.construct]
  rw [htables]
  constructor
  · exact (MultiHal.entries_construct reported).2.trans hlength
  · exact hlists.mDynamicSensors
  · intro k
    rw [Std.ExtTreeMap.mem_iff_isSome_getElem?, hlists.mSensors, Option.isSome_map,
      MultiHal.lastReport_isSome]
    constructor
    · rintro ⟨r, hr, rfl⟩
      obtain ⟨h, c, hsensor, hinfo⟩ := hreports.mp hr
      exact ⟨r.subHal, h, c, hsensor, by rw [MultiHal.Report.handle, hinfo]; rfl⟩
    · rintro ⟨i, h, c, hsensor, rfl⟩
      exact ⟨⟨c.sensorInfo h, i⟩, hreports.mpr ⟨h, c, hsensor, rfl⟩, rfl⟩
  · intro i h c hsensor
    have hmem : (MultiHal.lastReport (MultiHal.reports reported)
        (MultiHal.setSubHalIndex h i)).isSome :=
      MultiHal.lastReport_isSome.mpr
        ⟨⟨c.sensorInfo h, i⟩, hreports.mpr ⟨h, c, hsensor, rfl⟩, rfl⟩
    obtain ⟨r, hr⟩ := Option.isSome_iff_exists.mp hmem
    obtain ⟨hin, hhandle⟩ := MultiHal.handle_of_lastReport hr
    obtain ⟨h', c', hsensor', hinfo⟩ := hreports.mp hin
    -- the last report for the handle is of this sensor
    obtain ⟨hlt, hclear⟩ := hsensor.clear hfits
    obtain ⟨hlt', hclear'⟩ := hsensor'.clear hfits
    have hcount := hfits.count
    have hsame : MultiHal.setSubHalIndex h' r.subHal = MultiHal.setSubHalIndex h i := by
      rw [← hhandle, MultiHal.Report.handle, hinfo]
      rfl
    obtain ⟨hi, rfl⟩ := MultiHal.setSubHalIndex_injective hclear' hclear (by omega) (by omega) hsame
    rw [hi] at hsensor'
    obtain rfl := hsensor'.unique hsensor
    have hflags : (r.listedInfo (MultiHal.directChoice (MultiHal.reports reported))).flags &&&
        MultiHal.SensorFlagBits.WAKE_UP = c'.flags &&& MultiHal.SensorFlagBits.WAKE_UP := by
      have hkept : ~~~MultiHal.directMask &&& MultiHal.SensorFlagBits.WAKE_UP =
          MultiHal.SensorFlagBits.WAKE_UP := by decide
      rw [MultiHal.Report.listedInfo, hinfo]
      split
      · rfl
      · show c'.flags &&& ~~~MultiHal.directMask &&& _ = _
        rw [BitVec.and_assoc, hkept]
    rw [SensorTables.staticWakeUp, SensorTables.staticInfo, hlists.mSensors, hr, Option.map_some,
      Option.getD_some, MultiHal.SensorInfo.isWakeUp, hflags]

end Tables

/-! ## What a step does -/

/-- What the proxy makes of the one event that a sensor with this handle of a sub-HAL posts. -/
structure PostedFor (subHals : List (List (SensorClass N))) (i : Nat) (h : Handle)
    (batch : List MultiHal.Event × Nat) : Prop where
  event : ∃ e, batch.1 = [e] ∧ e.sensorHandle = MultiHal.setSubHalIndex h i
  wakeUp : ∃ c, HasSensor subHals i h c ∧
    batch.2 = if c.flags &&& MultiHal.SensorFlagBits.WAKE_UP != 0 then 1 else 0

section Steps

variable {layout : SensorEvent N → MultiHal.Event} {numbers : CNumbers N}
  {subHals : List (List (SensorClass N))}

/-- The event of a sensor, handed on. -/
theorem postEvents_sensor {s t : HalProxy N} (htables : ListsSensors subHals s.tables) {i : Nat}
    {h : Handle} {d : Device N} (hsensor : HasSensor subHals i h d.info)
    (hhandle : d.sensorHandle = h) {e : SensorEvent N}
    (he : e.sensorHandle = d.sensorHandle.toInt)
    (hpost : s.postEvents layout i ⟨[e], d.isWakeUpSensor⟩ = some t) :
    t = { s with posted := t.posted } ∧ (t.posted = s.posted ∨ (s.mThreadsRun = true ∧
      ∃ batch, t.posted = s.posted ++ [batch] ∧ PostedFor subHals i h batch)) := by
  have hevent : (MultiHal.processedEvent i (e.toEvent layout)).sensorHandle =
      MultiHal.setSubHalIndex h i := by
    rw [MultiHal.processedEvent_sensorHandle]
    show MultiHal.setSubHalIndex (BitVec.ofInt 32 e.sensorHandle) i = _
    rw [he, hhandle, BitVec.ofInt_toInt]
  -- the handle is in the map of the constructor, so `operator[]` inserts nothing
  have hmem : MultiHal.setSubHalIndex h i ∈ s.tables.mSensors :=
    (htables.mem _).mpr ⟨i, h, d.info, hsensor, rfl⟩
  have hprocess : MultiHal.processEvents s.tables i ([e].map (SensorEvent.toEvent layout)) =
      ([MultiHal.processedEvent i (e.toEvent layout)],
        if d.info.flags &&& MultiHal.SensorFlagBits.WAKE_UP != 0 then 1 else 0, s.tables) := by
    rw [MultiHal.processEvents_eq, List.map_singleton, List.map_singleton, List.map_singleton,
      SensorTables.lookups_of_mem _ _ fun k hk => by
        rw [List.mem_singleton.mp hk, hevent]
        exact hmem,
      MultiHal.staticWakeUpCount_cons, MultiHal.staticWakeUpCount_nil, hevent,
      htables.wakeUp i h d.info hsensor, Nat.add_zero]
  unfold HalProxy.postEvents at hpost
  split at hpost
  · exact nomatch hpost
  · split at hpost
    · cases hpost
      exact ⟨rfl, Or.inl rfl⟩
    · next hrun =>
        rw [hprocess] at hpost
        cases hpost
        refine ⟨rfl, Or.inr ⟨?_, _, rfl, ⟨_, rfl, hevent⟩, _, hsensor, rfl⟩⟩
        simpa using hrun

variable [Zero N]

/-- What holds of the proxy between the steps: the tables are those of the constructor, the mode is
`NORMAL`, the threads run from the first `initializeCommon` on and between the others, and every
sub-HAL is where some run of its service leads. -/
structure HalProxy.Ok (numbers : CNumbers N) (subHals : List (List (SensorClass N)))
    (s : HalProxy N) : Prop where
  tables : ListsSensors subHals s.tables
  mode : subHals ≠ [] → s.mCurrentOperationMode = .NORMAL
  threads : s.mThreadsRun = (s.callbacks && !s.initializing)
  count : s.mSubHalList.length = subHals.length
  services : ∀ (i : Nat) x, s.mSubHalList[i]? = some x → ∃ classes mStopThread as,
    subHals[i]? = some classes ∧
      (service numbers subHal classes).run (.construct mStopThread classes) as = some x

/-- The sensors of a sub-HAL. -/
theorem HalProxy.Ok.sensor {s : HalProxy N} (hok : s.Ok numbers subHals) (hfits : Fits subHals)
    {i : Nat} {x : Service N Result} (hx : s.mSubHalList[i]? = some x) {h : Handle} {d : Device N}
    (hd : x.mSensors[h]? = some d) : HasSensor subHals i h d.info ∧ d.sensorHandle = h := by
  obtain ⟨classes, mStopThread, as, hclasses, hrun⟩ := hok.services i x hx
  have hlen := hfits.sensors classes (List.mem_of_getElem? hclasses)
  obtain ⟨hc, hhandle, -⟩ := get_of_run (by omega) hrun hd
  exact ⟨⟨classes, hclasses, hc⟩, hhandle⟩

/-- What a sub-HAL does changes that sub-HAL, and posts one event at most, of an enabled sensor. -/
theorem perform_cases (hfits : Fits subHals) {s t : HalProxy N} (hok : s.Ok numbers subHals) {i : Nat}
    {a : ServiceAct} (h : s.perform layout numbers i a = some t) :
    ∃ x y, s.mSubHalList[i]? = some x ∧ x.step numbers subHal a = some y ∧
      t = { s with mSubHalList := s.mSubHalList.set i y, posted := t.posted } ∧
      (t.posted = s.posted ∨ (s.mThreadsRun = true ∧ ∃ k d batch, x.mSensors[k]? = some d ∧
        d.loop.sensor.mIsEnabled = true ∧ a.PostsFor k ∧ t.posted = s.posted ++ [batch] ∧
        PostedFor subHals i k batch)) := by
  unfold HalProxy.perform at h
  obtain ⟨x, hx, h⟩ := Option.bind_eq_some_iff.mp h
  obtain ⟨y, hy, h⟩ := Option.bind_eq_some_iff.mp h
  refine ⟨x, y, hx, hy, ?_⟩
  -- what the proxy is handed is what the service has posted in this step
  rcases step_posts hy with hsame | ⟨k, d, e, hd, hon, he, hpost, ha⟩
  · rw [hsame, List.drop_length] at h
    cases h
    exact ⟨rfl, Or.inl rfl⟩
  · obtain ⟨hsensor, hhandle⟩ := hok.sensor hfits hx hd
    rw [hpost, List.drop_left, List.foldlM_cons] at h
    obtain ⟨u, hu, hlast⟩ := Option.bind_eq_some_iff.mp h
    cases hlast
    obtain ⟨hframe, hposted⟩ := postEvents_sensor
      (s := { s with mSubHalList := s.mSubHalList.set i y }) hok.tables hsensor hhandle he hu
    refine ⟨hframe, hposted.imp id ?_⟩
    rintro ⟨hrun, batch, hbatch, hfor⟩
    exact ⟨hrun, k, d, batch, hd, hon, ha, hbatch, hfor⟩

/-- Each sub-HAL has done this, and nothing else has changed but what was posted. -/
structure HalProxy.Moved (numbers : CNumbers N) (acts : Nat → List ServiceAct)
    (s t : HalProxy N) : Prop where
  frame : t = { s with mSubHalList := t.mSubHalList, posted := t.posted }
  silent : s.mThreadsRun = false ∨ (∀ i, ∀ a ∈ acts i, ∀ k, ¬ a.PostsFor k) → t.posted = s.posted
  count : t.mSubHalList.length = s.mSubHalList.length
  services : ∀ (i : Nat) x, s.mSubHalList[i]? = some x → ∃ y, t.mSubHalList[i]? = some y ∧
    ∀ classes, (service numbers subHal classes).run x (acts i) = some y

namespace HalProxy

theorem Moved.refl (s : HalProxy N) : s.Moved numbers (fun _ => []) s :=
  ⟨rfl, fun _ => rfl, rfl, fun _ x hx => ⟨x, hx, fun _ => rfl⟩⟩

theorem Moved.trans {acts acts' : Nat → List ServiceAct} {s t u : HalProxy N}
    (h : s.Moved numbers acts t) (h' : t.Moved numbers acts' u) :
    s.Moved numbers (fun i => acts i ++ acts' i) u := by
  refine ⟨?_, fun hsilent => ?_, h'.count.trans h.count, fun i x hx => ?_⟩
  · rw [h'.frame, h.frame]
  · have hthreads : t.mThreadsRun = s.mThreadsRun := by rw [h.frame]
    rw [h'.silent, h.silent]
    · exact hsilent.imp id fun hnone i a ha => hnone i a (List.mem_append_left _ ha)
    · rw [hthreads]
      exact hsilent.imp id fun hnone i a ha => hnone i a (List.mem_append_right _ ha)
  · obtain ⟨y, hy, hrun⟩ := h.services i x hx
    obtain ⟨z, hz, hrun'⟩ := h'.services i y hy
    refine ⟨z, hz, fun classes => ?_⟩
    rw [Machine.run_append, hrun classes]
    exact hrun' classes

theorem Moved.ok {acts : Nat → List ServiceAct} {s t : HalProxy N} (h : s.Moved numbers acts t)
    (hok : s.Ok numbers subHals) : t.Ok numbers subHals := by
  refine ⟨?_, ?_, ?_, h.count.trans hok.count, fun i y hy => ?_⟩
  · rw [h.frame]
    exact hok.tables
  · rw [h.frame]
    exact hok.mode
  · rw [h.frame]
    exact hok.threads
  · have hlt : i < s.mSubHalList.length := by
      rw [← h.count]
      exact (List.getElem?_eq_some_iff.mp hy).1
    obtain ⟨x, hx⟩ : ∃ x, s.mSubHalList[i]? = some x := ⟨_, List.getElem?_eq_getElem hlt⟩
    obtain ⟨classes, mStopThread, as, hclasses, hrun⟩ := hok.services i x hx
    obtain ⟨z, hz, hmore⟩ := h.services i x hx
    rw [hy, Option.some.injEq] at hz
    subst hz
    refine ⟨classes, mStopThread, as ++ acts i, hclasses, ?_⟩
    rw [Machine.run_append, hrun]
    exact hmore classes

end HalProxy

theorem perform_moved (hfits : Fits subHals) {s t : HalProxy N} (hok : s.Ok numbers subHals)
    {i : Nat} {a : ServiceAct} (h : s.perform layout numbers i a = some t) :
    s.Moved numbers (fun j => if i = j then [a] else []) t := by
  obtain ⟨x, y, hx, hy, hframe, hposted⟩ := perform_cases hfits hok h
  have hlist : t.mSubHalList = s.mSubHalList.set i y := by rw [hframe]
  refine ⟨?_, fun hsilent => ?_, ?_, fun j z hz => ?_⟩
  · rw [hlist]
    exact hframe
  · rcases hposted with hsame | ⟨hrun, k, d, batch, -, -, ha, -⟩
    · exact hsame
    · rcases hsilent with hstopped | hnone
      · exact absurd (hrun.symm.trans hstopped) nofun
      · exact absurd ha (hnone i a (by rw [if_pos rfl]; exact List.mem_singleton_self a) k)
  · rw [hlist, List.length_set]
  · rw [hlist, List.getElem?_set]
    by_cases hij : i = j
    · subst hij
      rw [hx, Option.some.injEq] at hz
      subst hz
      refine ⟨y, ?_, fun classes => ?_⟩
      · rw [if_pos rfl, if_pos (List.getElem?_eq_some_iff.mp hx).1]
      · rw [if_pos rfl, Machine.run_cons_eq_some]
        exact ⟨y, hy, rfl⟩
    · rw [if_neg hij, if_neg hij]
      exact ⟨z, hz, fun _ => rfl⟩

end Steps

/-! ## Routing -/

/-- The call for the sub-HAL of a handle, if there are so many. -/
def routedTo (subHalCount : Nat) (sensorHandle : Handle) (call : Handle → SubHalCall) :
    List (Nat × SubHalCall) :=
  if MultiHal.extractSubHalIndex sensorHandle < subHalCount then
    [(MultiHal.extractSubHalIndex sensorHandle, call (MultiHal.clearSubHalIndex sensorHandle))]
  else []

/-- The calls for a call of the framework, in `NORMAL`. -/
def routed (subHalCount : Nat) : ProxyCall → List (Nat × SubHalCall)
  | .activate sensorHandle enabled => routedTo subHalCount sensorHandle (.activate · enabled)
  | .batch sensorHandle samplingPeriodNs maxReportLatencyNs =>
      routedTo subHalCount sensorHandle (.batch · samplingPeriodNs maxReportLatencyNs)
  | .flush sensorHandle => routedTo subHalCount sensorHandle .flush
  | .injectSensorData event =>
      if event.sensorType ≠ MultiHal.SensorType.ADDITIONAL_INFO then []
      else routedTo subHalCount event.sensorHandle
        fun own => .injectSensorData { event with sensorHandle := own }
  | .setOperationMode _ => []

theorem routeCall_calls (reply : Nat → SubHalCall → Result) (t : SensorTables)
    (sensorHandle : Handle) (call : Handle → SubHalCall) :
    (MultiHal.routeCall reply t sensorHandle call).2 =
      routedTo t.subHalCount sensorHandle call := by
  unfold MultiHal.routeCall routedTo MultiHal.isSubHalIndexValid
  by_cases hvalid : MultiHal.extractSubHalIndex sensorHandle < t.subHalCount
  · rw [if_pos hvalid, if_neg (by simpa using hvalid)]
  · rw [if_neg hvalid, if_pos (by simpa using hvalid)]

/-- What calls come to for one sub-HAL. -/
def callsFor (i : Nat) (calls : List (Nat × SubHalCall)) : List ServiceAct :=
  calls.flatMap fun c => if c.1 = i then [.call (subHalCall c.2)] else []

section Keys

variable {subHals : List (List (SensorClass N))} {t : SensorTables} {i : Nat}
  {classes : List (SensorClass N)}

theorem mem_ownHandles (hlen : classes.length < 2 ^ 24) {h : Handle} :
    h ∈ ownHandles classes ↔ ∃ c, classAt classes h = some c := by
  rw [ownHandles, List.mem_map]
  constructor
  · rintro ⟨n, hn, rfl⟩
    have hlt := List.mem_range.mp hn
    have hnat : (BitVec.ofNat 32 (n + 1)).toNat = n + 1 := by
      rw [BitVec.toNat_ofNat]
      omega
    refine ⟨classes[n], ?_⟩
    have hne : BitVec.ofNat 32 (n + 1) ≠ 0 := by
      intro hzero
      rw [hzero] at hnat
      exact absurd hnat (by simp)
    rw [classAt, if_neg hne, hnat, Nat.add_sub_cancel, List.getElem?_eq_getElem hlt]
  · rintro ⟨c, hc⟩
    obtain ⟨hpos, hle⟩ := classAt_toNat hc
    refine ⟨h.toNat - 1, List.mem_range.mpr (by omega), ?_⟩
    rw [Nat.sub_add_cancel hpos, BitVec.ofNat_toNat, BitVec.setWidth_eq]

theorem ownHandles_sorted (hlen : classes.length < 2 ^ 24) :
    (ownHandles classes).Pairwise fun a b => a.toNat < b.toNat := by
  rw [ownHandles, List.pairwise_map]
  apply List.pairwise_lt_range.imp_of_mem
  intro a b ha hb hlt
  have halt := List.mem_range.mp ha
  have hblt := List.mem_range.mp hb
  rw [BitVec.toNat_ofNat, BitVec.toNat_ofNat]
  omega

/-- The keys of one sub-HAL, in the order of the map, are the handles it uses itself. -/
theorem keys_of_subHal (hfits : Fits subHals) (htables : ListsSensors subHals t)
    (hi : subHals[i]? = some classes) :
    (t.mSensors.keys.filter fun k => MultiHal.extractSubHalIndex k = i).map
      MultiHal.clearSubHalIndex = ownHandles classes := by
  have hlen := hfits.sensors classes (List.mem_of_getElem? hi)
  have hilt : i < subHals.length := (List.getElem?_eq_some_iff.mp hi).1
  have hcount := hfits.count
  have hkey : ∀ k, k ∈ t.mSensors.keys.filter (fun k => MultiHal.extractSubHalIndex k = i) →
      ∃ h c, HasSensor subHals i h c ∧ k = MultiHal.setSubHalIndex h i := by
    intro k hk
    obtain ⟨hmem, hextract⟩ := List.mem_filter.mp hk
    obtain ⟨j, h, c, hsensor, rfl⟩ := (htables.mem k).mp (Std.ExtTreeMap.mem_keys.mp hmem)
    obtain ⟨hj, hclear⟩ := hsensor.clear hfits
    have hdecode := (MultiHal.decode_setSubHalIndex hclear (show j < 128 by omega)).1
    obtain rfl : j = i := hdecode.symm.trans (by simpa using hextract)
    exact ⟨h, c, hsensor, rfl⟩
  have hsorted : ((t.mSensors.keys.filter fun k => MultiHal.extractSubHalIndex k = i).map
      MultiHal.clearSubHalIndex).Pairwise fun a b => a.toNat < b.toNat := by
    have hkeys : t.mSensors.keys.Pairwise fun a b => MultiHal.cmpHandle a b = .lt :=
      Std.ExtTreeMap.ordered_keys
    rw [List.pairwise_map]
    apply (hkeys.filter _).imp_of_mem
    intro a b ha hb hlt
    obtain ⟨h, c, hsensor, rfl⟩ := hkey a ha
    obtain ⟨h', c', hsensor', rfl⟩ := hkey b hb
    have hclear := (hsensor.clear hfits).2
    have hclear' := (hsensor'.clear hfits).2
    have hnat := MultiHal.setSubHalIndex_toNat ((MultiHal.subHalIndexIsClear_iff h).mp hclear)
      (show i < 256 by omega)
    have hnat' := MultiHal.setSubHalIndex_toNat ((MultiHal.subHalIndexIsClear_iff h').mp hclear')
      (show i < 256 by omega)
    have hh := (MultiHal.subHalIndexIsClear_iff h).mp hclear
    have hh' := (MultiHal.subHalIndexIsClear_iff h').mp hclear'
    -- the order of the map is that of `int32_t`, and no index reaches the sign bit
    rw [MultiHal.clear_setSubHalIndex hclear, MultiHal.clear_setSubHalIndex hclear']
    have hint := compare_lt_iff_lt.mp hlt
    rw [BitVec.toInt_eq_toNat_of_lt (by omega), BitVec.toInt_eq_toNat_of_lt (by omega)] at hint
    omega
  have hantisymm : Std.Antisymm fun a b : Handle => a.toNat < b.toNat :=
    ⟨fun a b hab hba => absurd hab (Nat.lt_asymm hba)⟩
  have hirrefl : Std.Irrefl fun a b : Handle => a.toNat < b.toNat :=
    ⟨fun a => Nat.lt_irrefl _⟩
  apply List.Pairwise.eq_of_mem_iff hsorted (ownHandles_sorted hlen)
  intro h
  rw [mem_ownHandles hlen, List.mem_map]
  constructor
  · rintro ⟨k, hk, rfl⟩
    obtain ⟨h, c, hsensor, rfl⟩ := hkey k hk
    have hclear := (hsensor.clear hfits).2
    rw [MultiHal.clear_setSubHalIndex hclear]
    obtain ⟨classes', hclasses', hc⟩ := hsensor
    rw [hi, Option.some.injEq] at hclasses'
    exact ⟨c, hclasses' ▸ hc⟩
  · rintro ⟨c, hc⟩
    have hsensor : HasSensor subHals i h c := ⟨classes, hi, hc⟩
    have hclear := (hsensor.clear hfits).2
    refine ⟨MultiHal.setSubHalIndex h i, List.mem_filter.mpr ⟨?_, ?_⟩,
      MultiHal.clear_setSubHalIndex hclear i⟩
    · rw [Std.ExtTreeMap.mem_keys, htables.mem]
      exact ⟨i, h, c, hsensor, rfl⟩
    · simpa using (MultiHal.decode_setSubHalIndex hclear (show i < 128 by omega)).1

end Keys

section Routing

variable [Zero N] {layout : SensorEvent N → MultiHal.Event}
  {numbers : CNumbers N} {subHals : List (List (SensorClass N))}

theorem outcome_calls {s : HalProxy N} (hok : s.Ok numbers subHals) (c : ProxyCall) :
    (s.outcome c).2 = routed subHals.length c := by
  rw [← hok.tables.count]
  cases c with
  | activate sensorHandle enabled => exact routeCall_calls _ _ _ _
  | batch sensorHandle samplingPeriodNs maxReportLatencyNs => exact routeCall_calls _ _ _ _
  | flush sensorHandle => exact routeCall_calls _ _ _ _
  | setOperationMode mode => rfl
  | injectSensorData event =>
      simp only [HalProxy.outcome, MultiHal.injectSensorData, routed]
      rcases eq_or_ne subHals [] with hnone | hsome
      · -- without a sub-HAL no index is valid
        have hzero : s.tables.subHalCount = 0 := by rw [hok.tables.count, hnone]; rfl
        have hempty : routedTo s.tables.subHalCount event.sensorHandle
            (fun own => .injectSensorData { event with sensorHandle := own }) = [] := by
          rw [hzero]
          exact if_neg (Nat.not_lt_zero _)
        rw [hempty, ite_self]
        split
        · rfl
        · exact (routeCall_calls _ _ _ _).trans hempty
      · rw [hok.mode hsome]
        simp only [true_and]
        split
        · rfl
        · exact routeCall_calls _ _ _ _

theorem route_moved (hfits : Fits subHals) (calls : List (Nat × SubHalCall)) {s t : HalProxy N}
    (hok : s.Ok numbers subHals) (h : s.route layout numbers calls = some t) :
    s.Moved numbers (callsFor · calls) t := by
  induction calls generalizing s with
  | nil =>
      cases h
      exact .refl _
  | cons c calls ih =>
      obtain ⟨u, hu, hrest⟩ := Option.bind_eq_some_iff.mp h
      have hmoved := perform_moved hfits hok hu
      exact hmoved.trans (ih (hmoved.ok hok) hrest)

end Routing

end Smi240Hal.Services
