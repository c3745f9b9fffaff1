/-
# Smi240Hal.MultiHal.DynamicView — the dynamic sensors the framework knows of

`onDynamicSensorsConnected` and `onDynamicSensorsDisconnected` change `mDynamicSensors` under a
mutex and call the framework after they have released it.  Two sub-HALs may therefore change the
table in one order and call the framework in the other.

The two halves of a call are two actions here: `connect` and `disconnect` are the critical sections
and leave the callback to be made in `inCall`, `callback` makes it.  A sub-HAL makes its calls one
after another, the sub-HALs interleave as they like.

The handles of a sub-HAL are those that carry its index in their first byte, so the handles of
different sub-HALs differ as long as there are at most 256 of them: then the callbacks of different
sub-HALs commute.
-/
import Smi240Hal.Lib.Machine
import Smi240Hal.MultiHal.Routing
import Mathlib.Data.Finset.Basic

namespace Smi240Hal.MultiHal

open Smi240Hal.Lib

/-! ## The two halves of a call -/

/-- A callback to the framework. -/
inductive Callback
  | onDynamicSensorsConnected (sensors : List SensorInfo)
  | onDynamicSensorsDisconnected (handles : List Handle)

namespace Callback

/-- The handles a callback is about. -/
def handles : Callback → List Handle
  | onDynamicSensorsConnected sensors => sensors.map SensorInfo.sensorHandle
  | onDynamicSensorsDisconnected handles => handles

/-- What the framework makes of a callback. -/
def apply (known : Finset Handle) : Callback → Finset Handle
  | onDynamicSensorsConnected sensors =>
      known ∪ (sensors.map SensorInfo.sensorHandle).toFinset
  | onDynamicSensorsDisconnected handles => known \ handles.toFinset

/-- A callback is about its own handles only. -/
theorem mem_apply_of_not_mem {c : Callback} {k : Handle} (h : k ∉ c.handles)
    (known : Finset Handle) : k ∈ c.apply known ↔ k ∈ known := by
  cases c with
  | onDynamicSensorsConnected sensors =>
      simp only [handles] at h
      simp only [apply, Finset.mem_union, List.mem_toFinset, h, or_false]
  | onDynamicSensorsDisconnected gone =>
      simp only [handles] at h
      simp only [apply, Finset.mem_sdiff, List.mem_toFinset, h, not_false_eq_true, and_true]

/-- Whether a callback leaves a handle known depends on whether that handle was known. -/
theorem mem_apply_congr (c : Callback) {k : Handle} {known known' : Finset Handle}
    (h : k ∈ known ↔ k ∈ known') : k ∈ c.apply known ↔ k ∈ c.apply known' := by
  cases c with
  | onDynamicSensorsConnected sensors => simp only [apply, Finset.mem_union, h]
  | onDynamicSensorsDisconnected gone => simp only [apply, Finset.mem_sdiff, h]

end Callback

/-- The tables, the callbacks made so far, and for each sub-HAL the callback its call has still to
make. -/
structure DynamicView where
  tables : SensorTables
  callbacks : List Callback
  inCall : Nat → Option Callback

/-- The handles the framework knows: the callbacks, applied in the order they were made. -/
def DynamicView.known (s : DynamicView) : Finset Handle := s.callbacks.foldl Callback.apply ∅

/-- Sub-HAL `i` has the callback `c` to make, or none. -/
def setInCall (inCall : Nat → Option Callback) (i : Nat) (c : Option Callback) :
    Nat → Option Callback :=
  fun j => if j = i then c else inCall j

theorem setInCall_self (inCall : Nat → Option Callback) (i : Nat) (c : Option Callback) :
    setInCall inCall i c i = c := if_pos rfl

theorem setInCall_of_ne {i j : Nat} (h : j ≠ i) (inCall : Nat → Option Callback)
    (c : Option Callback) : setInCall inCall i c j = inCall j := if_neg h

/-- A sub-HAL reports sensors that have come or gone, or its call reaches the framework. -/
inductive ViewAct
  | connect (subHalIndex : Nat) (sensors : List SensorInfo)
  | disconnect (subHalIndex : Nat) (handles : List Handle)
  | callback (subHalIndex : Nat)
deriving DecidableEq

/-- The sub-HAL a step is made for. -/
def ViewAct.subHal : ViewAct → Nat
  | .connect i _ => i
  | .disconnect i _ => i
  | .callback i => i

/-- The map is updated first, and the framework is told after; a sub-HAL makes one call at a time. -/
def DynamicView.step (s : DynamicView) : ViewAct → Option DynamicView
  | .connect i sensors =>
      if i < s.tables.subHalCount ∧ (s.inCall i).isNone then
        let out := s.tables.onDynamicSensorsConnected sensors i
        some { s with
          tables := out.2
          inCall := setInCall s.inCall i (some (.onDynamicSensorsConnected out.1)) }
      else none
  | .disconnect i handles =>
      if i < s.tables.subHalCount ∧ (s.inCall i).isNone then
        let out := s.tables.onDynamicSensorsDisconnected handles i
        some { s with
          tables := out.2
          inCall := setInCall s.inCall i (some (.onDynamicSensorsDisconnected out.1)) }
      else none
  | .callback i =>
      (s.inCall i).map fun c =>
        { s with callbacks := s.callbacks ++ [c], inCall := setInCall s.inCall i none }

/-- `n` sub-HALs, none of which has connected a dynamic sensor yet. -/
def dynamicView (n : Nat) : Machine DynamicView ViewAct where
  Start s := s.tables.subHalCount = n ∧ s.tables.mDynamicSensors = ∅ ∧ s.callbacks = [] ∧
    s.inCall = fun _ => none
  step := DynamicView.step

/-! ## What the critical sections do -/

/-- The sub-HAL whose index a handle carries. -/
def owner (k : Handle) : Nat := k.toNat / 2 ^ 24

theorem owner_setSubHalIndex {own : Handle} {i : Nat} (hown : subHalIndexIsClear own = true)
    (hi : i < 256) : owner (setSubHalIndex own i) = i := by
  have hlt := (subHalIndexIsClear_iff own).mp hown
  unfold owner
  rw [setSubHalIndex_toNat hlt hi]
  omega

theorem owner_of_made {ks : List Handle} {i : Nat}
    (hmade : ∀ k ∈ ks, ∃ own, subHalIndexIsClear own = true ∧ k = setSubHalIndex own i)
    (hi : i < 256) : ∀ k ∈ ks, owner k = i := by
  intro k hk
  obtain ⟨own, hclear, rfl⟩ := hmade k hk
  exact owner_setSubHalIndex hclear hi

/-- A connect call adds to the table what it tells the framework, all of it its own. -/
theorem connected_keys (t : SensorTables) (sensors : List SensorInfo) (i : Nat) :
    (∀ k, k ∈ (t.onDynamicSensorsConnected sensors i).2.mDynamicSensors ↔
      k ∈ t.mDynamicSensors ∨
        k ∈ (t.onDynamicSensorsConnected sensors i).1.map SensorInfo.sensorHandle) ∧
    (∀ k ∈ (t.onDynamicSensorsConnected sensors i).1.map SensorInfo.sensorHandle,
      ∃ own, subHalIndexIsClear own = true ∧ k = setSubHalIndex own i) := by
  unfold SensorTables.onDynamicSensorsConnected
  apply List.foldlRecOn (motive := fun acc : List SensorInfo × SensorTables =>
    (∀ k, k ∈ acc.2.mDynamicSensors ↔
      k ∈ t.mDynamicSensors ∨ k ∈ acc.1.map SensorInfo.sensorHandle) ∧
    (∀ k ∈ acc.1.map SensorInfo.sensorHandle,
      ∃ own, subHalIndexIsClear own = true ∧ k = setSubHalIndex own i))
  · simp
  · rintro acc ⟨hkeys, hmade⟩ s _
    unfold SensorTables.connectSensor
    by_cases hclear : subHalIndexIsClear s.sensorHandle = false
    · rw [if_pos hclear]
      exact ⟨hkeys, hmade⟩
    · rw [if_neg hclear]
      constructor
      · intro k
        show k ∈ acc.2.mDynamicSensors.insert _ _ ↔ _
        rw [Std.ExtTreeMap.mem_insert, Std.LawfulEqCmp.compare_eq_iff_eq, hkeys k, List.map_append,
          List.mem_append, List.map_singleton, List.mem_singleton]
        constructor
        · rintro (h | h | h)
          · exact Or.inr (Or.inr h.symm)
          · exact Or.inl h
          · exact Or.inr (Or.inl h)
        · rintro (h | h | h)
          · exact Or.inr (Or.inl h)
          · exact Or.inr (Or.inr h)
          · exact Or.inl h.symm
      · intro k hk
        rw [List.map_append, List.mem_append] at hk
        rcases hk with hk | hk
        · exact hmade k hk
        · exact ⟨s.sensorHandle, by simpa using hclear, by simpa using hk⟩

/-- A disconnect call takes from the table what it tells the framework, all of it its own. -/
theorem disconnected_keys (t : SensorTables) (handles : List Handle) (i : Nat) :
    (∀ k, k ∈ (t.onDynamicSensorsDisconnected handles i).2.mDynamicSensors ↔
      k ∈ t.mDynamicSensors ∧ k ∉ (t.onDynamicSensorsDisconnected handles i).1) ∧
    (∀ k ∈ (t.onDynamicSensorsDisconnected handles i).1,
      ∃ own, subHalIndexIsClear own = true ∧ k = setSubHalIndex own i) := by
  unfold SensorTables.onDynamicSensorsDisconnected
  apply List.foldlRecOn (motive := fun acc : List Handle × SensorTables =>
    (∀ k, k ∈ acc.2.mDynamicSensors ↔ k ∈ t.mDynamicSensors ∧ k ∉ acc.1) ∧
    (∀ k ∈ acc.1, ∃ own, subHalIndexIsClear own = true ∧ k = setSubHalIndex own i))
  · simp
  · rintro acc ⟨hkeys, hmade⟩ h _
    unfold SensorTables.disconnectSensor
    by_cases hclear : subHalIndexIsClear h = false
    · rw [if_pos hclear]
      exact ⟨hkeys, hmade⟩
    · rw [if_neg hclear]
      dsimp only
      split
      · constructor
        · intro k
          show k ∈ acc.2.mDynamicSensors.erase _ ↔ _
          rw [Std.ExtTreeMap.mem_erase, ne_eq, Std.LawfulEqCmp.compare_eq_iff_eq, hkeys k,
            List.mem_append, List.mem_singleton, not_or]
          constructor
          · rintro ⟨hne, hmem, hnot⟩
            exact ⟨hmem, hnot, fun heq => hne heq.symm⟩
          · rintro ⟨hmem, hnot, hne⟩
            exact ⟨fun heq => hne heq.symm, hmem, hnot⟩
        · intro k hk
          rcases List.mem_append.mp hk with hk | hk
          · exact hmade k hk
          · exact ⟨h, by simpa using hclear, by simpa using hk⟩
      · exact ⟨hkeys, hmade⟩

/-! ## Agreement, one sub-HAL at a time -/

/-- The framework's view, as the sub-HAL that owns a handle will leave it. -/
def DynamicView.knownTo (s : DynamicView) (i : Nat) : Finset Handle :=
  match s.inCall i with
  | none => s.known
  | some c => c.apply s.known

/-- Each sub-HAL's callback is about its own handles, and once it is made the framework agrees with
the table on these. -/
structure Agrees (n : Nat) (s : DynamicView) : Prop where
  count : s.tables.subHalCount = n
  pending : ∀ i c, s.inCall i = some c → ∀ k ∈ c.handles, owner k = i
  agree : ∀ k, k ∈ s.tables.mDynamicSensors ↔ k ∈ s.knownTo (owner k)

section Step

variable {n : Nat} {s : DynamicView} {i : Nat} {c : Callback}

theorem known_append (s : DynamicView) (c : Callback) (p : Nat → Option Callback) :
    ({ s with callbacks := s.callbacks ++ [c], inCall := p } : DynamicView).known =
      c.apply s.known := by
  unfold DynamicView.known
  rw [List.foldl_append]
  rfl

/-- A critical section of sub-HAL `i` that leaves `c` to be made, where `c` tells the framework what
the critical section does to the table. -/
theorem agrees_update (h : Agrees n s) (hidle : s.inCall i = none) {t : SensorTables}
    (hcount : t.subHalCount = n) (hown : ∀ k ∈ c.handles, owner k = i)
    (hkeys : ∀ (k : Handle) (known : Finset Handle), (k ∈ s.tables.mDynamicSensors ↔ k ∈ known) →
      (k ∈ t.mDynamicSensors ↔ k ∈ c.apply known)) :
    Agrees n { s with tables := t, inCall := setInCall s.inCall i (some c) } where
  count := hcount
  pending := by
    intro j d hj
    dsimp only at hj
    by_cases hji : j = i
    · subst hji
      rw [setInCall_self] at hj
      cases hj
      exact hown
    · rw [setInCall_of_ne hji] at hj
      exact h.pending j d hj
  agree := by
    intro k
    have hold := h.agree k
    by_cases hk : owner k = i
    · -- its own handle: nothing was pending, now `c` is
      have hnow := hkeys k s.known (by simpa only [DynamicView.knownTo, hk, hidle] using hold)
      simp only [DynamicView.knownTo, hk, setInCall_self]
      exact hnow
    · -- another sub-HAL's handle is not in `c`
      have hnot : k ∉ c.handles := fun hmem => hk (hown k hmem)
      have hnow := hkeys k _ hold
      rw [Callback.mem_apply_of_not_mem hnot] at hnow
      simp only [DynamicView.knownTo, setInCall_of_ne hk]
      exact hnow

/-- The pending callback of sub-HAL `i` is made. -/
theorem agrees_callback (h : Agrees n s) (hc : s.inCall i = some c) :
    Agrees n { s with callbacks := s.callbacks ++ [c], inCall := setInCall s.inCall i none } where
  count := h.count
  pending := by
    intro j d hj
    dsimp only at hj
    by_cases hji : j = i
    · subst hji
      rw [setInCall_self] at hj
      cases hj
    · rw [setInCall_of_ne hji] at hj
      exact h.pending j d hj
  agree := by
    intro k
    have hold := h.agree k
    unfold DynamicView.knownTo at hold ⊢
    rw [known_append]
    by_cases hk : owner k = i
    · simp only [hk, hc] at hold
      simpa only [hk, setInCall_self] using hold
    · -- making `c` commutes with whatever the owner of the handle has pending
      have hnot : k ∉ c.handles := fun hmem => hk (h.pending i c hc k hmem)
      simp only [setInCall_of_ne hk]
      cases hp : s.inCall (owner k) with
      | none =>
          simp only [hp] at hold
          simp only [Callback.mem_apply_of_not_mem hnot]
          exact hold
      | some d =>
          simp only [hp] at hold
          rw [hold]
          exact d.mem_apply_congr (Callback.mem_apply_of_not_mem hnot s.known).symm

end Step

/-- What a step does: at most the acting sub-HAL's handles move, in the table and in the framework's
view, and the agreement is kept. -/
theorem agrees_step {n : Nat} {s u : DynamicView} {a : ViewAct} (hn : n ≤ 256) (h : Agrees n s)
    (hstep : s.step a = some u) :
    Agrees n u ∧ ∀ k, owner k ≠ a.subHal →
      (k ∈ u.tables.mDynamicSensors ↔ k ∈ s.tables.mDynamicSensors) ∧
        (k ∈ u.known ↔ k ∈ s.known) := by
  cases a with
  | connect i sensors =>
      simp only [DynamicView.step] at hstep
      split at hstep
      case isFalse => cases hstep
      case isTrue hi =>
        cases hstep
        have hidle : s.inCall i = none := by simpa using hi.2
        have hlt : i < 256 := by
          have := h.count
          omega
        obtain ⟨hkeys, hmade⟩ := connected_keys s.tables sensors i
        have hown := owner_of_made hmade hlt
        constructor
        · apply agrees_update (c := .onDynamicSensorsConnected _) h hidle
            ((s.tables.connected_frame sensors i).1.trans h.count) hown
          intro k known hk
          rw [hkeys k, hk]
          simp only [Callback.apply, Finset.mem_union, List.mem_toFinset]
        · intro k hk
          refine ⟨?_, Iff.rfl⟩
          show k ∈ (s.tables.onDynamicSensorsConnected sensors i).2.mDynamicSensors ↔ _
          rw [hkeys k]
          exact or_iff_left fun hmem => hk (hown k hmem)
  | disconnect i handles =>
      simp only [DynamicView.step] at hstep
      split at hstep
      case isFalse => cases hstep
      case isTrue hi =>
        cases hstep
        have hidle : s.inCall i = none := by simpa using hi.2
        have hlt : i < 256 := by
          have := h.count
          omega
        obtain ⟨hkeys, hmade⟩ := disconnected_keys s.tables handles i
        have hown := owner_of_made hmade hlt
        constructor
        · apply agrees_update (c := .onDynamicSensorsDisconnected _) h hidle
            ((s.tables.disconnected_frame handles i).1.trans h.count) hown
          intro k known hk
          rw [hkeys k, hk]
          simp only [Callback.apply, Finset.mem_sdiff, List.mem_toFinset]
        · intro k hk
          refine ⟨?_, Iff.rfl⟩
          show k ∈ (s.tables.onDynamicSensorsDisconnected handles i).2.mDynamicSensors ↔ _
          rw [hkeys k]
          exact and_iff_left fun hmem => hk (hown k hmem)
  | callback i =>
      obtain ⟨c, hc, rfl⟩ := Option.map_eq_some_iff.mp hstep
      refine ⟨agrees_callback h hc, fun k hk => ⟨Iff.rfl, ?_⟩⟩
      rw [known_append]
      exact Callback.mem_apply_of_not_mem (fun hmem => hk (h.pending i c hc k hmem)) s.known

theorem agrees_of_reach {n : Nat} {s : DynamicView} (hn : n ≤ 256)
    (h : (dynamicView n).Reach s) : Agrees n s := by
  apply Machine.Reach.invariant (P := Agrees n) _ _ h
  · rintro s ⟨hcount, hempty, hcallbacks, hidle⟩
    refine ⟨hcount, fun i c hc => ?_, fun k => ?_⟩
    · rw [hidle] at hc
      cases hc
    · simp [DynamicView.knownTo, DynamicView.known, hidle, hcallbacks, hempty]
  · intro s a u hs hstep
    exact (agrees_step hn hs hstep).1

/-- Up to 256 sub-HALs, in any interleaving of their calls:

* whenever no call is in progress, the framework knows exactly the keys of `mDynamicSensors`;
* no step made for one sub-HAL adds or removes a handle of another, in the table or in the
  framework's view. -/
theorem dynamic_view_agrees {n : Nat} {s : DynamicView} (hn : n ≤ 256)
    (h : (dynamicView n).Reach s) :
    ((∀ i, s.inCall i = none) → ∀ k, k ∈ s.known ↔ k ∈ s.tables.mDynamicSensors) ∧
    (∀ a u, s.step a = some u → ∀ own j, subHalIndexIsClear own = true → j < n → j ≠ a.subHal →
      (setSubHalIndex own j ∈ u.tables.mDynamicSensors ↔
        setSubHalIndex own j ∈ s.tables.mDynamicSensors) ∧
      (setSubHalIndex own j ∈ u.known ↔ setSubHalIndex own j ∈ s.known)) := by
  have hs := agrees_of_reach hn h
  constructor
  · intro hquiet k
    have hk := hs.agree k
    simp only [DynamicView.knownTo, hquiet] at hk
    exact hk.symm
  · intro a u hstep own j hclear hj hne
    apply (agrees_step hn hs hstep).2
    rw [owner_setSubHalIndex hclear (by omega)]
    exact hne

/-- `n` sub-HALs without a sensor. -/
def DynamicView.init (n : Nat) : DynamicView := ⟨⟨n, ∅, ∅, none⟩, [], fun _ => none⟩

/-- Two sub-HALs update the table in one order and call the framework in the other. -/
theorem dynamic_view_agrees_crossed :
    ∃ s, (dynamicView 2).run (.init 2)
        [.connect 0 [⟨5, "a", 1, 0⟩], .connect 1 [⟨5, "b", 1, 0⟩], .callback 1, .callback 0] = some s ∧
      s.callbacks.map Callback.handles = [[0x1000005], [5]] ∧
      ∀ k, k ∈ s.known ↔ k ∈ s.tables.mDynamicSensors := by
  have hrun : (dynamicView 2).run (.init 2)
      [.connect 0 [⟨5, "a", 1, 0⟩], .connect 1 [⟨5, "b", 1, 0⟩], .callback 1, .callback 0] =
        some _ := rfl
  have hreach : (dynamicView 2).Reach _ := .of_run (.start ⟨rfl, rfl, rfl, rfl⟩) hrun
  refine ⟨_, hrun, by decide, (dynamic_view_agrees (by decide) hreach).1 fun i => ?_⟩
  show (if i = 0 then _ else if i = 1 then _ else if i = 1 then _ else if i = 0 then _ else none) = none
  by_cases h0 : i = 0
  · rw [if_pos h0]
  · by_cases h1 : i = 1
    · rw [if_neg h0, if_pos h1]
    · rw [if_neg h0, if_neg h1, if_neg h1, if_neg h0]

/-- With 257 sub-HALs the first and the last share their handles: the last one takes away a sensor
of the first, and the framework is told in the wrong order. -/
theorem dynamic_view_257_subHals :
    ∃ s, (dynamicView 257).run (.init 257)
        [.connect 0 [⟨5, "a", 1, 0⟩], .disconnect 256 [5], .callback 256, .callback 0] = some s ∧
      (∀ i, s.inCall i = none) ∧ (5 : Handle) ∈ s.known ∧ (5 : Handle) ∉ s.tables.mDynamicSensors := by
  refine ⟨_, rfl, fun i => ?_, by decide, by decide⟩
  show (if i = 0 then _ else if i = 256 then _ else if i = 256 then _ else if i = 0 then _ else none) =
    none
  by_cases h0 : i = 0
  · rw [if_pos h0]
  · by_cases h1 : i = 256
    · rw [if_neg h0, if_pos h1]
    · rw [if_neg h0, if_neg h1, if_neg h1, if_neg h0]

end Smi240Hal.MultiHal
