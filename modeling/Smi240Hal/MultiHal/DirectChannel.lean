/-
# Smi240Hal.MultiHal.DirectChannel — who owns the sensors that offer direct reports

`HalProxy` gives direct channels to one sub-HAL only, the first one that reports a sensor with a
direct-report or direct-channel flag.  `configDirectReport` drops the sub-HAL index from its handle
and calls that sub-HAL, so it relies on no other exposed sensor keeping such a flag.

The static sensors pass through `setDirectChannelFlags`; `onDynamicSensorsConnected` does not call
it.  `exposure` runs the tables with a log of every sensor shown to the framework, and
`direct_flags_owned_iff` says for which histories the log is as `configDirectReport` needs it.
-/
import Smi240Hal.Lib.Machine
import Smi240Hal.MultiHal.PostFrame
import Smi240Hal.MultiHal.Routing

namespace Smi240Hal.MultiHal

open Smi240Hal.Lib

/-! ## `configDirectReport` -/

/-- The rates of a direct channel; `STOP` ends its reports. -/
inductive RateLevel
  | STOP
  | NORMAL
  | FAST
  | VERY_FAST
deriving DecidableEq, Repr

/-- What `configDirectReport` does: answer itself, or let a sub-HAL answer. -/
inductive DirectReply
  | answered (result : Result) (reportToken : Int)
  | forwarded (subHal : Nat) (sensorHandle channelHandle : Handle) (rate : RateLevel)
deriving DecidableEq

/-- `HalProxy::configDirectReport`. -/
def configDirectReport (t : SensorTables) (sensorHandle channelHandle : Handle)
    (rate : RateLevel) : DirectReply :=
  match t.mDirectChannelSubHal with
  | none => .answered .INVALID_OPERATION (-1)
  | some subHal =>
      if sensorHandle = -1 ∧ rate ≠ .STOP then .answered .BAD_VALUE (-1)
      else
        -- -1 denotes all sensors should be disabled
        let sensorHandle := if sensorHandle ≠ -1 then clearSubHalIndex sensorHandle else sensorHandle
        .forwarded subHal sensorHandle channelHandle rate

/-- The flags that say a sensor can use a direct channel. -/
def directMask : BitVec 32 :=
  SensorFlagBits.MASK_DIRECT_REPORT ||| SensorFlagBits.MASK_DIRECT_CHANNEL

/-- The flags contain a direct-report or direct-channel bit. -/
def SensorInfo.supportsDirectChannel (s : SensorInfo) : Bool := s.flags &&& directMask != 0

/-! ## Every history of the tables, with a log of what was shown -/

/-- A sensor shown to the framework, the sub-HAL it is of and the handle that one uses. -/
structure Shown where
  subHal : Nat
  own : Handle
  info : SensorInfo
deriving DecidableEq

/-- The sensor under its framework handle. -/
def SensorInfo.withSubHal (s : SensorInfo) (subHalIndex : Nat) : SensorInfo :=
  { s with sensorHandle := setSubHalIndex s.sensorHandle subHalIndex }

/-- `loadSensor`, logging the sensor it stores. -/
def loadShown (subHalIndex : Nat) (acc : SensorTables × List Shown) (sensor : SensorInfo) :
    SensorTables × List Shown :=
  (loadSensor subHalIndex acc.1 sensor,
    if subHalIndexIsClear sensor.sensorHandle = false then acc.2
    else acc.2 ++ [⟨subHalIndex, sensor.sensorHandle,
      (setDirectChannelFlags acc.1.mDirectChannelSubHal (sensor.withSubHal subHalIndex)
        subHalIndex).1⟩])

/-- The sensors of one sub-HAL, in the order it reports them. -/
def loadShownSubHal (acc : SensorTables × List Shown)
    (subHal : Option (List SensorInfo) × Nat) : SensorTables × List Shown :=
  (subHal.1.getD []).foldl (loadShown subHal.2) acc

/-- The constructor, and the static sensors it shows. -/
def constructShown (reported : List (Option (List SensorInfo))) : SensorTables × List Shown :=
  reported.zipIdx.foldl loadShownSubHal (⟨reported.length, ∅, ∅, none⟩, [])

/-- What a connect call shows: the sensors whose first byte is not clear are left out. -/
def connectShown (subHalIndex : Nat) (sensors : List SensorInfo) : List Shown :=
  (sensors.filter fun s => subHalIndexIsClear s.sensorHandle).map fun s =>
    ⟨subHalIndex, s.sensorHandle, s.withSubHal subHalIndex⟩

/-- The tables, and every sensor shown so far. -/
structure Exposed where
  tables : SensorTables
  shown : List Shown

/-- What changes the tables: a sub-HAL reports dynamic sensors coming and going or posts events, or
the framework starts over. -/
inductive SensorAct
  | connect (subHalIndex : Nat) (sensors : List SensorInfo)
  | disconnect (subHalIndex : Nat) (handles : List Handle)
  | postEvents (subHalIndex : Nat) (events : List Event)
  | initializeCommon
deriving DecidableEq

/-- The sensors an action shows. -/
def SensorAct.shown : SensorAct → List Shown
  | .connect i sensors => connectShown i sensors
  | _ => []

/-- Sensors come and go; what the framework is shown is appended. -/
def Exposed.step (r : Exposed) (a : SensorAct) : Option Exposed :=
  match a with
  | .connect i sensors =>
      if i < r.tables.subHalCount then
        some ⟨(r.tables.onDynamicSensorsConnected sensors i).2, r.shown ++ a.shown⟩
      else none
  | .disconnect i handles =>
      if i < r.tables.subHalCount then
        some ⟨(r.tables.onDynamicSensorsDisconnected handles i).2, r.shown ++ a.shown⟩
      else none
  | .postEvents i events =>
      if i < r.tables.subHalCount then
        some ⟨(processEvents r.tables i events).2.2, r.shown ++ a.shown⟩
      else none
  | .initializeCommon => some ⟨r.tables.clearDynamicSensors, r.shown ++ a.shown⟩

/-- After the constructor. -/
def Exposed.init (reported : List (Option (List SensorInfo))) : Exposed :=
  ⟨(constructShown reported).1, (constructShown reported).2⟩

/-- The tables, with every `SensorInfo` the framework has been shown. -/
def exposure (reported : List (Option (List SensorInfo))) : Machine Exposed SensorAct where
  Start r := r = Exposed.init reported
  step := Exposed.step

/-! ## The sub-HAL chosen for direct channels -/

theorem supportsDirectChannel_cleared (s : SensorInfo) :
    ({ s with flags := s.flags &&& ~~~directMask } : SensorInfo).supportsDirectChannel = false := by
  have hzero : s.flags &&& ~~~directMask &&& directMask = 0 := by
    rw [BitVec.and_assoc, BitVec.and_comm (~~~directMask), BitVec.and_not_self]
    exact BitVec.and_zero
  unfold SensorInfo.supportsDirectChannel
  simp only [hzero, bne_self_eq_false]

/-- A sensor that keeps a direct flag is of the chosen sub-HAL, and a choice once made stays. -/
theorem setDirectChannelFlags_spec (chosen : Option Nat) (s : SensorInfo) (i : Nat) :
    ((setDirectChannelFlags chosen s i).1.supportsDirectChannel = true →
      (setDirectChannelFlags chosen s i).2 = some i) ∧
    (∀ c, chosen = some c → (setDirectChannelFlags chosen s i).2 = some c) := by
  cases chosen with
  | none =>
      refine ⟨?_, nofun⟩
      by_cases hflag : s.supportsDirectChannel = true
      · -- the first sensor with a direct flag makes the choice
        intro _
        show (setDirectChannelFlags none s i).2 = some i
        unfold setDirectChannelFlags
        simp only [SensorInfo.supportsDirectChannel, directMask] at hflag
        simp only [hflag, if_true]
      · intro hkept
        have hsame : (setDirectChannelFlags none s i).1 = s := by
          unfold setDirectChannelFlags
          dsimp only
          split <;> rfl
        rw [hsame] at hkept
        exact absurd hkept hflag
  | some c =>
      by_cases hi : i = c
      · subst hi
        constructor
        · intro _
          simp [setDirectChannelFlags]
        · intro c hc
          simp [setDirectChannelFlags, hc]
      · constructor
        · intro hkept
          have hcleared : (setDirectChannelFlags (some c) s i).1 =
              { s with flags := s.flags &&& ~~~directMask } := by
            simp [setDirectChannelFlags, hi, directMask]
          rw [hcleared, supportsDirectChannel_cleared] at hkept
          cases hkept
        · intro d hd
          simp [setDirectChannelFlags, hi, hd]

/-- What holds while the constructor loads the sub-HALs: the log knows every sensor in the table,
and a sensor in it that kept a direct flag is of the chosen sub-HAL. -/
structure Loaded (acc : SensorTables × List Shown) : Prop where
  flagged : ∀ e ∈ acc.2, e.info.supportsDirectChannel = true →
    acc.1.mDirectChannelSubHal = some e.subHal
  made : ∀ e ∈ acc.2, subHalIndexIsClear e.own = true ∧
    e.info.sensorHandle = setSubHalIndex e.own e.subHal
  listed : ∀ (k : Handle) (info : SensorInfo), acc.1.mSensors[k]? = some info →
    ∃ e ∈ acc.2, e.info = info

theorem loaded_loadShown {acc : SensorTables × List Shown} (h : Loaded acc) (i : Nat)
    (sensor : SensorInfo) : Loaded (loadShown i acc sensor) := by
  unfold loadShown loadSensor
  by_cases hclear : subHalIndexIsClear sensor.sensorHandle = false
  · simp only [if_pos hclear]
    exact h
  · simp only [if_neg hclear]
    have hspec := setDirectChannelFlags_spec acc.1.mDirectChannelSubHal (sensor.withSubHal i) i
    have hhandle := setDirectChannelFlags_handle acc.1.mDirectChannelSubHal (sensor.withSubHal i) i
    unfold SensorInfo.withSubHal at hspec hhandle ⊢
    constructor
    · intro e he hkept
      rcases List.mem_append.mp he with he | he
      · exact hspec.2 _ (h.flagged e he hkept)
      · obtain rfl := List.mem_singleton.mp he
        exact hspec.1 hkept
    · intro e he
      rcases List.mem_append.mp he with he | he
      · exact h.made e he
      · obtain rfl := List.mem_singleton.mp he
        exact ⟨by simpa using hclear, hhandle⟩
    · intro k info hk
      dsimp only at hk
      rw [Std.ExtTreeMap.getElem?_insert] at hk
      split at hk
      · cases hk
        exact ⟨_, List.mem_append_right _ (List.mem_singleton_self _), rfl⟩
      · obtain ⟨e, he, heq⟩ := h.listed k info hk
        exact ⟨e, List.mem_append_left _ he, heq⟩

theorem loaded_constructShown (reported : List (Option (List SensorInfo))) :
    Loaded (constructShown reported) := by
  unfold constructShown
  apply List.foldlRecOn
  · constructor <;> simp
  · intro acc hacc p _
    unfold loadShownSubHal
    apply List.foldlRecOn _ _ hacc
    intro acc hacc sensor _
    exact loaded_loadShown hacc p.2 sensor

/-! ## Every history -/

theorem connected_choice (t : SensorTables) (sensors : List SensorInfo) (i : Nat) :
    (t.onDynamicSensorsConnected sensors i).2.mDirectChannelSubHal = t.mDirectChannelSubHal := by
  unfold SensorTables.onDynamicSensorsConnected
  apply List.foldlRecOn (motive := fun acc : List SensorInfo × SensorTables =>
    acc.2.mDirectChannelSubHal = t.mDirectChannelSubHal) _ _ rfl
  intro acc hacc s _
  unfold SensorTables.connectSensor
  split <;> exact hacc

theorem disconnected_choice (t : SensorTables) (handles : List Handle) (i : Nat) :
    (t.onDynamicSensorsDisconnected handles i).2.mDirectChannelSubHal =
      t.mDirectChannelSubHal := by
  unfold SensorTables.onDynamicSensorsDisconnected
  apply List.foldlRecOn (motive := fun acc : List Handle × SensorTables =>
    acc.2.mDirectChannelSubHal = t.mDirectChannelSubHal) _ _ rfl
  intro acc hacc k _
  unfold SensorTables.disconnectSensor
  split
  · exact hacc
  · dsimp only
    split <;> exact hacc

theorem lookups_choice (t : SensorTables) (ks : List Handle) :
    (t.lookups ks).mDirectChannelSubHal = t.mDirectChannelSubHal := by
  unfold SensorTables.lookups
  apply List.foldlRecOn (motive := fun u : SensorTables =>
    u.mDirectChannelSubHal = t.mDirectChannelSubHal) _ _ rfl
  intro u hu k _
  unfold SensorTables.getSensorInfo
  split <;> exact hu

/-- Hot plugging and posting events leave the choice, and what a look-up in `mSensors` reads. -/
theorem Exposed.step_frame {r u : Exposed} {a : SensorAct} (h : r.step a = some u) :
    u.tables.mDirectChannelSubHal = r.tables.mDirectChannelSubHal ∧
      (∀ k, u.tables.staticInfo k = r.tables.staticInfo k) ∧ u.shown = r.shown ++ a.shown := by
  cases a with
  | connect i sensors =>
      simp only [Exposed.step] at h
      split at h
      case isTrue =>
        cases h
        refine ⟨connected_choice r.tables sensors i, fun k => ?_, rfl⟩
        unfold SensorTables.staticInfo
        rw [(r.tables.connected_frame sensors i).2]
      case isFalse => cases h
  | disconnect i handles =>
      simp only [Exposed.step] at h
      split at h
      case isTrue =>
        cases h
        refine ⟨disconnected_choice r.tables handles i, fun k => ?_, rfl⟩
        unfold SensorTables.staticInfo
        rw [(r.tables.disconnected_frame handles i).2]
      case isFalse => cases h
  | postEvents i events =>
      simp only [Exposed.step] at h
      split at h
      case isTrue =>
        cases h
        rw [processEvents_eq]
        exact ⟨lookups_choice _ _, fun k => SensorTables.staticInfo_lookups _ k _, rfl⟩
      case isFalse => cases h
  | initializeCommon =>
      cases h
      exact ⟨rfl, fun _ => rfl, rfl⟩

/-- After a run the choice is that of the constructor, and the log is complete. -/
theorem Exposed.run_frame {reported : List (Option (List SensorInfo))} {as : List SensorAct}
    {r u : Exposed} (h : (exposure reported).run r as = some u) :
    u.tables.mDirectChannelSubHal = r.tables.mDirectChannelSubHal ∧
      (∀ k, u.tables.staticInfo k = r.tables.staticInfo k) ∧
      u.shown = r.shown ++ as.flatMap SensorAct.shown := by
  apply Machine.run_history (M := exposure reported)
    (P := fun as u => u.tables.mDirectChannelSubHal = r.tables.mDirectChannelSubHal ∧
      (∀ k, u.tables.staticInfo k = r.tables.staticInfo k) ∧
      u.shown = r.shown ++ as.flatMap SensorAct.shown) _ _ h
  · rintro before v a u ⟨hchosen, hinfo, hshown⟩ hu
    obtain ⟨hchosen', hinfo', hshown'⟩ := Exposed.step_frame hu
    refine ⟨hchosen'.trans hchosen, fun k => (hinfo' k).trans (hinfo k), ?_⟩
    rw [hshown', hshown, List.flatMap_append, List.flatMap_singleton, List.append_assoc]
  · exact ⟨rfl, fun _ => rfl, (List.append_nil _).symm⟩

theorem made_connectShown {i : Nat} {sensors : List SensorInfo} {e : Shown}
    (he : e ∈ connectShown i sensors) : subHalIndexIsClear e.own = true ∧
      e.info.sensorHandle = setSubHalIndex e.own e.subHal := by
  obtain ⟨s, hs, rfl⟩ := List.mem_map.mp he
  exact ⟨(List.mem_filter.mp hs).2, rfl⟩

/-! ## When `configDirectReport` reaches the owner -/

/-- The sensor is of the sub-HAL that has the direct channels, and every `configDirectReport` for it
goes there, under the handle that sub-HAL uses itself. -/
structure ReachesOwner (t : SensorTables) (e : Shown) : Prop where
  chosen : t.mDirectChannelSubHal = some e.subHal
  forwarded : ∀ channelHandle rate, configDirectReport t e.info.sensorHandle channelHandle rate =
    .forwarded e.subHal e.own channelHandle rate

theorem reachesOwner_iff {t : SensorTables} {e : Shown} (hown : subHalIndexIsClear e.own = true)
    (hmade : e.info.sensorHandle = setSubHalIndex e.own e.subHal) :
    ReachesOwner t e ↔ t.mDirectChannelSubHal = some e.subHal ∧ e.info.sensorHandle ≠ -1 := by
  constructor
  · rintro ⟨hchosen, hforward⟩
    refine ⟨hchosen, fun hall => ?_⟩
    -- the handle that denotes all sensors is refused unless reports are to stop
    have hrefused := hforward 0 .NORMAL
    simp [configDirectReport, hchosen, hall] at hrefused
  · rintro ⟨hchosen, hone⟩
    refine ⟨hchosen, fun channelHandle rate => ?_⟩
    unfold configDirectReport
    simp only [hchosen, hone, false_and, if_false, ne_eq, not_false_eq_true, if_true]
    rw [hmade, clear_setSubHalIndex hown]

/-- A connect call shows direct flags of the chosen sub-HAL only, and not under the handle that
denotes all sensors. -/
def SensorAct.DirectOk (chosen : Option Nat) (a : SensorAct) : Prop :=
  ∀ e ∈ a.shown, e.info.supportsDirectChannel = true →
    chosen = some e.subHal ∧ e.info.sensorHandle ≠ -1

/-- After any run:

* every sensor in `mSensors` is in the log, or is the empty entry a look-up made;
* `configDirectReport` reaches the owner of every sensor shown with a direct flag, exactly if the
  connect calls of the run showed direct flags of the chosen sub-HAL only, and no sensor with a
  direct flag had the handle that denotes all sensors. -/
theorem direct_flags_owned_iff {reported : List (Option (List SensorInfo))} {as : List SensorAct}
    {r : Exposed} (hrun : (exposure reported).run (Exposed.init reported) as = some r) :
    (∀ info ∈ r.tables.getSensorsList21, info = .empty ∨ ∃ e ∈ r.shown, e.info = info) ∧
    ((∀ e ∈ r.shown, e.info.supportsDirectChannel = true → ReachesOwner r.tables e) ↔
      (∀ e ∈ (Exposed.init reported).shown, e.info.supportsDirectChannel = true →
        e.info.sensorHandle ≠ -1) ∧
      ∀ a ∈ as, a.DirectOk (Exposed.init reported).tables.mDirectChannelSubHal) := by
  have hloaded : Loaded ((Exposed.init reported).tables, (Exposed.init reported).shown) :=
    loaded_constructShown reported
  obtain ⟨hchosen, hinfo, hshown⟩ := Exposed.run_frame hrun
  have hmade : ∀ e ∈ r.shown, subHalIndexIsClear e.own = true ∧
      e.info.sensorHandle = setSubHalIndex e.own e.subHal := by
    intro e he
    rw [hshown] at he
    rcases List.mem_append.mp he with he | he
    · exact hloaded.made e he
    · obtain ⟨a, _, he⟩ := List.mem_flatMap.mp he
      cases a with
      | connect i sensors => exact made_connectShown he
      | disconnect | postEvents | initializeCommon => cases he
  constructor
  · intro info hmem
    obtain ⟨⟨k, info'⟩, hk, rfl⟩ := List.mem_map.mp hmem
    have hread : r.tables.staticInfo k = info' := by
      unfold SensorTables.staticInfo
      rw [Std.ExtTreeMap.mem_toList_iff_getElem?_eq_some.mp hk]
      rfl
    rw [hinfo k] at hread
    unfold SensorTables.staticInfo at hread
    cases hold : (Exposed.init reported).tables.mSensors[k]? with
    | none =>
        rw [hold] at hread
        exact Or.inl hread.symm
    | some info =>
        rw [hold] at hread
        obtain ⟨e, he, heq⟩ := hloaded.listed k info hold
        rw [hshown]
        exact Or.inr ⟨e, List.mem_append_left _ he, heq.trans hread⟩
  · constructor
    · intro hreach
      constructor
      · intro e he hflag
        have hmem : e ∈ r.shown := hshown ▸ List.mem_append_left _ he
        exact ((reachesOwner_iff (hmade e hmem).1 (hmade e hmem).2).mp (hreach e hmem hflag)).2
      · intro a ha e he hflag
        have hmem : e ∈ r.shown :=
          hshown ▸ List.mem_append_right _ (List.mem_flatMap.mpr ⟨a, ha, he⟩)
        rw [← hchosen]
        exact (reachesOwner_iff (hmade e hmem).1 (hmade e hmem).2).mp (hreach e hmem hflag)
    · rintro ⟨hstatic, hacts⟩ e hmem hflag
      apply (reachesOwner_iff (hmade e hmem).1 (hmade e hmem).2).mpr
      rw [hchosen]
      rw [hshown] at hmem
      rcases List.mem_append.mp hmem with he | he
      · -- the constructor cleared the flags of every other sub-HAL
        exact ⟨hloaded.flagged e he hflag, hstatic e he hflag⟩
      · obtain ⟨a, ha, he⟩ := List.mem_flatMap.mp he
        exact hacts a ha e he hflag

/-- Two sub-HALs with direct flags on their static sensors; only the second one's are cleared, and
the first one connects another. -/
theorem direct_flags_owned_iff_two_subHals :
    let reported := [some [(⟨1, "accel", 1, 0x480⟩ : SensorInfo)], some [⟨1, "gyro", 4, 0x480⟩]]
    ∃ r, (exposure reported).run (Exposed.init reported)
        [.connect 0 [⟨2, "dynamic", 1, 0x480⟩]] = some r ∧
      r.shown.map (fun e => (e.info.sensorHandle, e.info.flags)) =
        [(1, 0x480), (0x1000001, 0), (2, 0x480)] ∧
      ∀ e ∈ r.shown, e.info.supportsDirectChannel = true → ReachesOwner r.tables e := by
  have hrun : (exposure [some [⟨1, "accel", 1, 0x480⟩], some [⟨1, "gyro", 4, 0x480⟩]]).run
      (Exposed.init [some [⟨1, "accel", 1, 0x480⟩], some [⟨1, "gyro", 4, 0x480⟩]])
      [.connect 0 [⟨2, "dynamic", 1, 0x480⟩]] = some _ := rfl
  refine ⟨_, hrun, by decide, (direct_flags_owned_iff hrun).2.mpr ⟨by decide, ?_⟩⟩
  unfold SensorAct.DirectOk
  decide

/-- A dynamic sensor of the second sub-HAL keeps its direct flag; `configDirectReport` for it goes
to the sensor with the same number of the first. -/
theorem direct_flags_misrouted :
    let reported := [some [(⟨1, "accel", 1, 0x480⟩ : SensorInfo)], some []]
    ∃ r e, (exposure reported).run (Exposed.init reported)
        [.connect 1 [⟨1, "dynamic", 1, 0x480⟩]] = some r ∧
      e ∈ r.shown ∧ e.info.supportsDirectChannel = true ∧ e.subHal = 1 ∧
      r.tables.mDirectChannelSubHal = some 0 ∧
      configDirectReport r.tables e.info.sensorHandle 7 .FAST = .forwarded 0 1 7 .FAST ∧
      ¬ ReachesOwner r.tables e :=
  ⟨_, ⟨1, 1, ⟨0x1000001, "dynamic", 1, 0x480⟩⟩, rfl, by decide, by decide, rfl, rfl, by decide,
    fun h => absurd h.chosen (by decide)⟩

end Smi240Hal.MultiHal
