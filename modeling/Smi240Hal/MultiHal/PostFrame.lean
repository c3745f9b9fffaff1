/-
# Smi240Hal.MultiHal.PostFrame — what posting events does to the sensor set

Both places that count wake-up events look a handle up with `mSensors[sensorHandle]`.  On a handle
that only `mDynamicSensors` knows (or no table at all) that look-up makes an empty entry, and it
never sees the flags of a dynamic sensor.  `lookups` is the effect of a series of look-ups on the
tables; the rest of the module says when that effect is none and the count is right.
-/
import Smi240Hal.Lib.Machine
import Smi240Hal.MultiHal.SensorTables

namespace Smi240Hal.MultiHal

open Smi240Hal.Lib

namespace SensorTables

/-- What `mSensors[sensorHandle]` reads. -/
def staticInfo (t : SensorTables) (h : Handle) : SensorInfo := (t.mSensors[h]?).getD .empty

/-- The sensor has the WAKE_UP flag in `mSensors`. -/
def staticWakeUp (t : SensorTables) (h : Handle) : Bool := (t.staticInfo h).isWakeUp

/-- The sensor has the WAKE_UP flag in `mDynamicSensors`. -/
def dynamicWakeUp (t : SensorTables) (h : Handle) : Bool :=
  ((t.mDynamicSensors[h]?).getD .empty).isWakeUp

/-- The sensor, static or dynamic, has the WAKE_UP flag. -/
def isWakeUp (t : SensorTables) (h : Handle) : Bool := t.staticWakeUp h || t.dynamicWakeUp h

/-- The look-up finds the sensor, and finds the flag if there is one. -/
def Known (t : SensorTables) (h : Handle) : Prop :=
  h ∈ t.mSensors ∧ (t.dynamicWakeUp h = true → t.staticWakeUp h = true)

instance (t : SensorTables) (h : Handle) : Decidable (t.Known h) :=
  inferInstanceAs (Decidable (_ ∧ _))

/-- The tables after a series of look-ups in `mSensors`. -/
def lookups (t : SensorTables) (hs : List Handle) : SensorTables :=
  hs.foldl (fun t h => (t.getSensorInfo h).2) t

/-! ## One look-up -/

theorem getSensorInfo_fst (t : SensorTables) (h : Handle) :
    (t.getSensorInfo h).1 = t.staticInfo h := by
  unfold getSensorInfo staticInfo
  cases t.mSensors[h]? <;> rfl

theorem staticWakeUp_eq (t : SensorTables) (h : Handle) :
    t.staticWakeUp h = (t.getSensorInfo h).1.isWakeUp := by
  rw [getSensorInfo_fst]
  rfl

theorem getSensorInfo_of_mem {t : SensorTables} {h : Handle} (hmem : h ∈ t.mSensors) :
    (t.getSensorInfo h).2 = t := by
  obtain ⟨sensor, hs⟩ :=
    Option.isSome_iff_exists.mp (Std.ExtTreeMap.mem_iff_isSome_getElem?.mp hmem)
  unfold getSensorInfo
  rw [hs]

theorem getSensorInfo_of_not_mem {t : SensorTables} {h : Handle} (hmem : h ∉ t.mSensors) :
    (t.getSensorInfo h).2 = { t with mSensors := t.mSensors.insert h .empty } := by
  unfold getSensorInfo
  rw [Std.ExtTreeMap.getElem?_eq_none hmem]

theorem mem_getSensorInfo (t : SensorTables) (h k : Handle) :
    k ∈ (t.getSensorInfo h).2.mSensors ↔ k ∈ t.mSensors ∨ k = h := by
  by_cases hmem : h ∈ t.mSensors
  · rw [getSensorInfo_of_mem hmem]
    constructor
    · exact Or.inl
    · rintro (hk | rfl)
      · exact hk
      · exact hmem
  · rw [getSensorInfo_of_not_mem hmem]
    show k ∈ t.mSensors.insert h .empty ↔ _
    rw [Std.ExtTreeMap.mem_insert, Std.LawfulEqCmp.compare_eq_iff_eq]
    exact ⟨fun hk => hk.symm.imp id Eq.symm, fun hk => (hk.imp id Eq.symm).symm⟩

/-- A look-up changes no value that a look-up reads. -/
theorem staticInfo_getSensorInfo (t : SensorTables) (h k : Handle) :
    (t.getSensorInfo h).2.staticInfo k = t.staticInfo k := by
  by_cases hmem : h ∈ t.mSensors
  · rw [getSensorInfo_of_mem hmem]
  · rw [getSensorInfo_of_not_mem hmem]
    unfold staticInfo
    show ((t.mSensors.insert h .empty)[k]?).getD .empty = _
    rw [Std.ExtTreeMap.getElem?_insert]
    split
    case isTrue heq =>
      rw [Std.LawfulEqCmp.compare_eq_iff_eq] at heq
      subst heq
      rw [Std.ExtTreeMap.getElem?_eq_none hmem]
      rfl
    case isFalse => rfl

theorem staticWakeUp_getSensorInfo (t : SensorTables) (h k : Handle) :
    (t.getSensorInfo h).2.staticWakeUp k = t.staticWakeUp k := by
  unfold staticWakeUp
  rw [staticInfo_getSensorInfo]

/-! ## A series of look-ups -/

theorem staticInfo_lookups (hs : List Handle) (k : Handle) :
    ∀ t : SensorTables, (t.lookups hs).staticInfo k = t.staticInfo k := by
  induction hs with
  | nil => exact fun _ => rfl
  | cons h hs ih =>
      intro t
      show ((t.getSensorInfo h).2.lookups hs).staticInfo k = _
      rw [ih, staticInfo_getSensorInfo]

@[simp] theorem staticWakeUp_lookups (t : SensorTables) (hs : List Handle) (k : Handle) :
    (t.lookups hs).staticWakeUp k = t.staticWakeUp k := by
  unfold staticWakeUp
  rw [staticInfo_lookups]

theorem mem_lookups (hs : List Handle) (k : Handle) :
    ∀ t : SensorTables, k ∈ (t.lookups hs).mSensors ↔ k ∈ t.mSensors ∨ k ∈ hs := by
  induction hs with
  | nil =>
      intro t
      show k ∈ t.mSensors ↔ _
      simp
  | cons h hs ih =>
      intro t
      show k ∈ ((t.getSensorInfo h).2.lookups hs).mSensors ↔ _
      rw [ih, mem_getSensorInfo, List.mem_cons, or_assoc]

theorem lookups_of_mem (hs : List Handle) :
    ∀ t : SensorTables, (∀ h ∈ hs, h ∈ t.mSensors) → t.lookups hs = t := by
  induction hs with
  | nil => exact fun _ _ => rfl
  | cons h hs ih =>
      intro t hall
      show (t.getSensorInfo h).2.lookups hs = t
      rw [getSensorInfo_of_mem (hall h (by simp))]
      exact ih t fun k hk => hall k (by simp [hk])

/-- Look-ups leave `mSensors` as it is exactly if every handle is in it. -/
theorem lookups_mSensors_iff (t : SensorTables) (hs : List Handle) :
    (t.lookups hs).mSensors = t.mSensors ↔ ∀ h ∈ hs, h ∈ t.mSensors := by
  constructor
  · intro heq h hh
    rw [← heq, mem_lookups]
    exact Or.inr hh
  · intro hall
    rw [lookups_of_mem hs t hall]

end SensorTables

/-! ## The two counting loops -/

@[simp] theorem processedEvent_sensorHandle (subHalIndex : Nat) (event : Event) :
    (processedEvent subHalIndex event).sensorHandle =
      setSubHalIndex event.sensorHandle subHalIndex := by
  unfold processedEvent
  dsimp only
  split <;> rfl

/-- How many of the events `mSensors` marks as wake-up events. -/
def staticWakeUpCount (t : SensorTables) (events : List Event) : Nat :=
  events.countP fun e => t.staticWakeUp e.sensorHandle

@[simp] theorem staticWakeUpCount_nil (t : SensorTables) : staticWakeUpCount t [] = 0 := rfl

theorem staticWakeUpCount_cons (t : SensorTables) (e : Event) (events : List Event) :
    staticWakeUpCount t (e :: events) =
      (if t.staticWakeUp e.sensorHandle then 1 else 0) + staticWakeUpCount t events := by
  unfold staticWakeUpCount
  rw [List.countP_cons, Nat.add_comm]

theorem staticWakeUpCount_congr {t u : SensorTables}
    (h : ∀ k, t.staticWakeUp k = u.staticWakeUp k) (events : List Event) :
    staticWakeUpCount t events = staticWakeUpCount u events := by
  unfold staticWakeUpCount
  simp only [h]

theorem processEvents_loop (subHalIndex : Nat) (events : List Event) :
    ∀ (out : List Event) (num : Nat) (t : SensorTables),
      events.foldl (processEvent subHalIndex) (out, num, t) =
        (out ++ events.map (processedEvent subHalIndex),
          num + staticWakeUpCount t (events.map (processedEvent subHalIndex)),
          t.lookups ((events.map (processedEvent subHalIndex)).map Event.sensorHandle)) := by
  induction events with
  | nil =>
      intro out num t
      simp [SensorTables.lookups]
  | cons e events ih =>
      intro out num t
      have hstep : processEvent subHalIndex (out, num, t) e =
          (out ++ [processedEvent subHalIndex e],
            if t.staticWakeUp (processedEvent subHalIndex e).sensorHandle then num + 1 else num,
            (t.getSensorInfo (processedEvent subHalIndex e).sensorHandle).2) := by
        rw [SensorTables.staticWakeUp_eq]
        rfl
      have hsame := staticWakeUpCount_congr
        (SensorTables.staticWakeUp_getSensorInfo t (processedEvent subHalIndex e).sensorHandle)
        (events.map (processedEvent subHalIndex))
      rw [List.foldl_cons, hstep, ih, hsame, List.map_cons, staticWakeUpCount_cons]
      refine Prod.ext (by simp) (Prod.ext ?_ rfl)
      dsimp only
      split <;> omega

/-- `processEvents` counts what `mSensors` marks, and looks every handle up. -/
theorem processEvents_eq (t : SensorTables) (subHalIndex : Nat) (events : List Event) :
    processEvents t subHalIndex events =
      (events.map (processedEvent subHalIndex),
        staticWakeUpCount t (events.map (processedEvent subHalIndex)),
        t.lookups ((events.map (processedEvent subHalIndex)).map Event.sensorHandle)) := by
  unfold processEvents
  rw [processEvents_loop, List.nil_append, Nat.zero_add]

theorem countNumWakeupEvents_loop (before : List Event) (n : Nat) :
    ∀ (events : List Event) (t : SensorTables) (done : List Event), before = done ++ events →
      n ≤ events.length → countNumWakeupEventsLoop before n done.length t =
        some (staticWakeUpCount t (events.take n),
          t.lookups ((events.take n).map Event.sensorHandle)) := by
  induction n with
  | zero =>
      intro events t done _ _
      rfl
  | succ n ih =>
      intro events t done hbefore hn
      cases events with
      | nil => exact absurd hn (Nat.not_succ_le_zero n)
      | cons e events =>
          have hget : before[done.length]? = some e := by simp [hbefore]
          have hshift : before = (done ++ [e]) ++ events := by simp [hbefore]
          have hrest := ih events (t.getSensorInfo e.sensorHandle).2 (done ++ [e]) hshift
            (Nat.le_of_succ_le_succ hn)
          rw [List.length_append, List.length_singleton] at hrest
          simp only [countNumWakeupEventsLoop, hget, Option.bind_eq_bind, Option.bind_some, hrest,
            List.take_succ_cons, staticWakeUpCount_cons, SensorTables.staticWakeUp_eq t]
          rw [staticWakeUpCount_congr (SensorTables.staticWakeUp_getSensorInfo t e.sensorHandle)]
          refine congrArg some (Prod.ext ?_ rfl)
          dsimp only
          split <;> omega

/-- So does `countNumWakeupEvents` with the first `n` events. -/
theorem countNumWakeupEvents_eq {events : List Event} {n : Nat} (hn : n ≤ events.length)
    (t : SensorTables) :
    countNumWakeupEvents t events n =
      some (staticWakeUpCount t (events.take n),
        t.lookups ((events.take n).map Event.sensorHandle)) :=
  countNumWakeupEvents_loop events n events t [] rfl hn

/-! ## When the set is unchanged and the count is right -/

/-- Two tests, the first of which implies the second, pass equally often only if they agree. -/
theorem countP_eq_countP_or_iff {α : Type*} (p q : α → Bool) (l : List α) :
    l.countP p = l.countP (fun x => p x || q x) ↔ ∀ x ∈ l, q x = true → p x = true := by
  induction l with
  | nil => simp
  | cons x l ih =>
      have hle : l.countP p ≤ l.countP (fun x => p x || q x) :=
        List.countP_mono_left fun y _ hy => by simp [hy]
      rw [List.countP_cons, List.countP_cons, List.forall_mem_cons, ← ih]
      cases hp : p x <;> cases hq : q x <;> simp
      omega

/-- The events of a batch that are wake-up events. -/
def wakeUpCount (t : SensorTables) (events : List Event) : Nat :=
  events.countP fun e => t.isWakeUp e.sensorHandle

/-- A counting loop over `events`: unchanged sensor set and right count together are the same as
every handle being known. -/
theorem counting_right_iff (t : SensorTables) (events : List Event) :
    ((t.lookups (events.map Event.sensorHandle)).mSensors = t.mSensors ∧
      staticWakeUpCount t events = wakeUpCount t events) ↔
      ∀ e ∈ events, t.Known e.sensorHandle := by
  rw [SensorTables.lookups_mSensors_iff]
  have hcount : staticWakeUpCount t events = wakeUpCount t events ↔ ∀ e ∈ events,
      t.dynamicWakeUp e.sensorHandle = true → t.staticWakeUp e.sensorHandle = true :=
    countP_eq_countP_or_iff _ _ events
  rw [hcount, List.forall_mem_map]
  exact ⟨fun h e he => ⟨h.1 e he, h.2 e he⟩, fun h => ⟨fun e he => (h e he).1, fun e he => (h e he).2⟩⟩

/-! ## Every history -/

/-- What changes or reads the tables while the HAL runs. -/
inductive TableAct
  | connect (sensors : List SensorInfo) (subHalIndex : Nat)
  | disconnect (handles : List Handle) (subHalIndex : Nat)
  | post (events : List Event) (subHalIndex : Nat)
  | count (events : List Event) (n : Nat)
  | initializeCommon
deriving DecidableEq

/-- Posts and counts change the tables too: `operator[]` inserts. -/
def SensorTables.step (t : SensorTables) : TableAct → Option SensorTables
  | .connect sensors i => some (t.onDynamicSensorsConnected sensors i).2
  | .disconnect handles i => some (t.onDynamicSensorsDisconnected handles i).2
  | .post events i => some (processEvents t i events).2.2
  | .count events n => (countNumWakeupEvents t events n).map Prod.snd
  | .initializeCommon => some t.clearDynamicSensors

/-- The tables, from what the sub-HALs report at construction. -/
def sensorTables (reported : List (Option (List SensorInfo))) : Machine SensorTables TableAct where
  Start t := t = .construct reported
  step := SensorTables.step

/-- Every handle that is looked up is known. -/
def TableAct.Known (t : SensorTables) : TableAct → Prop
  | .connect _ _ => True
  | .disconnect _ _ => True
  | .post events i => ∀ e ∈ events, t.Known (setSubHalIndex e.sensorHandle i)
  | .count events n => n ≤ events.length ∧ ∀ e ∈ events.take n, t.Known e.sensorHandle
  | .initializeCommon => True

instance (t : SensorTables) : (a : TableAct) → Decidable (a.Known t)
  | .connect _ _ => isTrue trivial
  | .disconnect _ _ => isTrue trivial
  | .post events i =>
      inferInstanceAs (Decidable (∀ e ∈ events, t.Known (setSubHalIndex e.sensorHandle i)))
  | .count events n => inferInstanceAs
      (Decidable (n ≤ events.length ∧ ∀ e ∈ events.take n, t.Known e.sensorHandle))
  | .initializeCommon => isTrue trivial

theorem mSensors_step {t u : SensorTables} {a : TableAct} (hknown : a.Known t)
    (h : t.step a = some u) : u.mSensors = t.mSensors := by
  cases a with
  | connect sensors i =>
      cases h
      exact (t.connected_frame sensors i).2
  | disconnect handles i =>
      cases h
      exact (t.disconnected_frame handles i).2
  | post events i =>
      cases h
      rw [processEvents_eq]
      apply (SensorTables.lookups_mSensors_iff _ _).mpr
      intro k hk
      obtain ⟨e', he', rfl⟩ := List.mem_map.mp hk
      obtain ⟨e, he, rfl⟩ := List.mem_map.mp he'
      rw [processedEvent_sensorHandle]
      exact (hknown e he).1
  | count events n =>
      obtain ⟨hn, hall⟩ := hknown
      simp only [SensorTables.step, countNumWakeupEvents_eq hn, Option.map_some] at h
      cases h
      apply (SensorTables.lookups_mSensors_iff _ _).mpr
      intro k hk
      obtain ⟨e, he, rfl⟩ := List.mem_map.mp hk
      exact (hall e he).1
  | initializeCommon =>
      cases h
      rfl

theorem mSensors_of_reachUnder {reported : List (Option (List SensorInfo))} {t : SensorTables}
    (h : (sensorTables reported).ReachUnder (fun t a => a.Known t) t) :
    t.mSensors = (SensorTables.construct reported).mSensors := by
  refine Machine.ReachUnder.invariant
    (P := fun t => t.mSensors = (SensorTables.construct reported).mSensors) ?_ ?_ h
  · rintro t rfl
    rfl
  · rintro t a u ht hknown hstep
    rw [mSensors_step hknown hstep, ht]

/-- When posting is harmless.

* For any tables, any sub-HAL and any batch: `mSensors` is unchanged and `numWakeupEvents` is the
  number of events whose sensor, static or dynamic, has the WAKE_UP flag, exactly if every handle of
  the batch is in `mSensors` and a WAKE_UP flag in `mDynamicSensors` is also in `mSensors`.
* The same for `countNumWakeupEvents` on the first `n` events of a pending batch.
* Hence in every history of connects, disconnects, posts and counts that meets this condition,
  `mSensors` stays as it was constructed, and with it what `getSensorsList` reports and which static
  sensors `disableAllSensors` touches. -/
theorem post_keeps_sensors_iff (t : SensorTables) (subHalIndex : Nat) (events : List Event) :
    (((processEvents t subHalIndex events).2.2.mSensors = t.mSensors ∧
      (processEvents t subHalIndex events).2.1 =
        wakeUpCount t (processEvents t subHalIndex events).1) ↔
      ∀ e ∈ events, t.Known (setSubHalIndex e.sensorHandle subHalIndex)) ∧
    (∀ n ≤ events.length,
      ((∃ num u, countNumWakeupEvents t events n = some (num, u) ∧ u.mSensors = t.mSensors ∧
        num = wakeUpCount t (events.take n)) ↔ ∀ e ∈ events.take n, t.Known e.sensorHandle)) ∧
    (∀ reported : List (Option (List SensorInfo)),
      (sensorTables reported).ReachUnder (fun t a => a.Known t) t →
        t.mSensors = (SensorTables.construct reported).mSensors ∧
        t.getSensorsList = (SensorTables.construct reported).getSensorsList ∧
        t.disableAllSensorsHandles =
          (SensorTables.construct reported).mSensors.keys ++ t.mDynamicSensors.keys) := by
  refine ⟨?_, fun n hn => ?_, fun reported h => ?_⟩
  · rw [processEvents_eq]
    apply (counting_right_iff t (events.map (processedEvent subHalIndex))).trans
    rw [List.forall_mem_map]
    simp only [processedEvent_sensorHandle]
  · rw [countNumWakeupEvents_eq hn, ← counting_right_iff t (events.take n)]
    constructor
    · rintro ⟨num, u, heq, hu, hnum⟩
      cases heq
      exact ⟨hu, hnum⟩
    · rintro ⟨hu, hnum⟩
      exact ⟨_, _, rfl, hu, hnum⟩
  · have hsame := mSensors_of_reachUnder h
    refine ⟨hsame, ?_, ?_⟩
    · unfold SensorTables.getSensorsList SensorTables.getSensorsList21
      rw [hsame]
    · unfold SensorTables.disableAllSensorsHandles
      rw [hsame]

/-- A static wake-up sensor of sub-HAL 0 and one event of it, before and after the handle is set. -/
theorem post_keeps_sensors_iff_one_static :
    let t := SensorTables.construct [some [⟨1, "accel", 1, SensorFlagBits.WAKE_UP⟩]]
    let e : Event := ⟨0, 1, 1, 0, []⟩
    ((processEvents t 0 [e]).2.2.mSensors = t.mSensors ∧ (processEvents t 0 [e]).2.1 =
        wakeUpCount t (processEvents t 0 [e]).1) ∧
      (∃ num u, countNumWakeupEvents t [e, e] 1 = some (num, u) ∧ u.mSensors = t.mSensors ∧
        num = wakeUpCount t [e]) ∧
      (processEvents t 0 [e]).2.2.mSensors = t.mSensors :=
  have hreach : (sensorTables [some [⟨1, "accel", 1, SensorFlagBits.WAKE_UP⟩]]).ReachUnder
      (fun t a => a.Known t) _ :=
    .next (a := .post [⟨0, 1, 1, 0, []⟩] 0) (.start rfl) (by decide) rfl
  ⟨(post_keeps_sensors_iff _ 0 _).1.mpr (by decide),
    ((post_keeps_sensors_iff _ 0 _).2.1 1 (by decide)).mpr (by decide),
    ((post_keeps_sensors_iff _ 0 []).2.2 _ hreach).1⟩

/-- Posting one event of a connected dynamic wake-up sensor counts no wake-up event and adds an
entry to `mSensors`. -/
theorem post_alters_sensors :
    ¬ ∀ (reported : List (Option (List SensorInfo))) (t : SensorTables),
      (sensorTables reported).Reach t → ∀ (subHalIndex : Nat) (events : List Event),
        (processEvents t subHalIndex events).2.2.mSensors = t.mSensors ∧
          (processEvents t subHalIndex events).2.1 =
            wakeUpCount t (processEvents t subHalIndex events).1 := by
  intro hclaim
  have hreach : (sensorTables [some []]).Reach _ :=
    .next (a := .connect [⟨5, "dynamic", 1, SensorFlagBits.WAKE_UP⟩] 0) (.start rfl) trivial rfl
  have hnum := (hclaim _ _ hreach 0 [⟨0, 5, 1, 0, []⟩]).2
  exact absurd hnum (by decide)

end Smi240Hal.MultiHal
