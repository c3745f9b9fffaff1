/-
# Smi240Hal.Legacy.SensorListLife — the sensor list over opens and closes of the module

`bosch_sensorlist` is a global: `ap_get_sensorlist` builds it when `list_len` is 0, and the
destructor of the `BoschSensor` singleton frees its two arrays.  Neither the destructor nor the exit
after the second allocation has failed resets what it frees, so whether the pointers are alive is not
written down anywhere; it follows from `list_len`, the singleton and the history.

An allocation is named by its number.  Two logs are not in the code: everything given to `free`, and
for each call of `ap_get_sensorlist` that returned a positive length the two pointers with what had
been freed by then.
-/
import Smi240Hal.Lib.Machine
import Smi240Hal.Legacy.HwcntlConfig

namespace Smi240Hal.Legacy

open Smi240Hal.Lib

/-! ## The code -/

/-- `sensor_amount`: the number of available sensors. -/
def sensorAmount : Nat := boschSensorlist.length

/-- A list handed out: `list`, `bsx_list_index`, and what had been freed. -/
structure Handed where
  list : Option Nat
  bsxListIndex : Option Nat
  freed : List Nat
deriving DecidableEq

/-- `bosch_sensorlist`, the singleton (`some` of whether its constructor has come as far as setting
`pfun_get_sensorlist`), the number of allocations and the two logs. -/
structure SensorListState where
  list : Option Nat
  bsxListIndex : Option Nat
  listLen : Nat
  boschSensor : Option Bool
  allocs : Nat
  freed : List Nat
  handed : List Handed
deriving DecidableEq

/-- Opening the module, with the outcome of `pipe` in the constructor of the singleton and of the two
allocations of the list; and closing it. -/
inductive LifeAct
  | openModule (pipeOk listOk indexOk : Bool)
  | closeModule
deriving DecidableEq

namespace SensorListState

/-- The module as it is loaded. -/
def init : SensorListState where
  list := none
  bsxListIndex := none
  listLen := 0
  boschSensor := none
  allocs := 0
  freed := []
  handed := []

/-- `ap_get_sensorlist`: the returned length, and the globals. -/
def apGetSensorlist (s : SensorListState) (listOk indexOk : Bool) : Nat × SensorListState :=
  if s.listLen = 0 then
    if listOk = false then (0, { s with list := none })
    else if indexOk = false then
      -- `list` is freed and goes on pointing there
      (0, { s with
        list := some s.allocs
        bsxListIndex := none
        allocs := s.allocs + 1
        freed := s.freed ++ [s.allocs] })
    else
      (sensorAmount, { s with
        list := some s.allocs
        bsxListIndex := some (s.allocs + 1)
        listLen := sensorAmount
        allocs := s.allocs + 2 })
  else (s.listLen, s)

/-- `BoschSensor::get_sensorlist`, logging what is handed out. -/
def getSensorlist (s : SensorListState) (listOk indexOk : Bool) : SensorListState :=
  if s.boschSensor = some true then
    let r := s.apGetSensorlist listOk indexOk
    if 0 < r.1 then
      { r.2 with handed := r.2.handed ++ [⟨r.2.list, r.2.bsxListIndex, r.2.freed⟩] }
    else r.2
  else s

/-- `BoschSensor::getInstance`. -/
def getInstance (s : SensorListState) (pipeOk : Bool) : SensorListState :=
  if s.boschSensor = none then { s with boschSensor := some pipeOk } else s

/-- `BoschSensor::destroy`, with what the destructor does to the list. -/
def destroy (s : SensorListState) : SensorListState :=
  if s.boschSensor = none then s
  else
    { s with
      boschSensor := none
      freed := s.freed ++ s.list.toList ++ s.bsxListIndex.toList }

/-- The module is opened or closed. -/
def step (s : SensorListState) : LifeAct → SensorListState
  | .openModule pipeOk listOk indexOk => (s.getInstance pipeOk).getSensorlist listOk indexOk
  | .closeModule => s.destroy

end SensorListState

/-- The life cycle of the sensor list. -/
def sensorListLife : Machine SensorListState LifeAct where
  Start s := s = .init
  step s a := some (s.step a)

/-! ## What is asked for -/

/-- Both pointers refer to allocations that had not been freed. -/
def Handed.Alive (h : Handed) : Prop :=
  (∃ a, h.list = some a ∧ a ∉ h.freed) ∧ ∃ b, h.bsxListIndex = some b ∧ b ∉ h.freed

/-- Every list that was handed out was alive, and nothing has been freed twice. -/
structure SensorListState.Safe (s : SensorListState) : Prop where
  handed : ∀ h ∈ s.handed, h.Alive
  freed : s.freed.Nodup

/-- A list that has been built is not used by a second singleton; and the module is not closed while
`list` points at what a failed build has freed, or by a second singleton that could not use the
list. -/
def LifeOk (s : SensorListState) : LifeAct → Prop
  | .openModule pipeOk _ _ => s.boschSensor = none → s.listLen ≠ 0 → pipeOk = false
  | .closeModule =>
      (s.boschSensor ≠ none → s.listLen = 0 → s.list = none) ∧
        (s.boschSensor = some false → s.listLen = 0)

instance : ∀ (s : SensorListState) (a : LifeAct), Decidable (LifeOk s a)
  | s, .openModule pipeOk _ _ =>
      inferInstanceAs (Decidable (s.boschSensor = none → s.listLen ≠ 0 → pipeOk = false))
  | s, .closeModule =>
      inferInstanceAs (Decidable ((s.boschSensor ≠ none → s.listLen = 0 → s.list = none) ∧
        (s.boschSensor = some false → s.listLen = 0)))

/-! ## The invariant -/

namespace SensorListState

variable {s t : SensorListState}

/-- Where the pointers stand as long as every step has met the condition. -/
structure Sound (s : SensorListState) : Prop where
  safe : s.Safe
  freedBefore : ∀ a ∈ s.freed, a < s.allocs
  /-- before the list is built -/
  unbuilt : s.listLen = 0 → s.bsxListIndex = none ∧ (∀ a, s.list = some a → a ∈ s.freed) ∧
    (s.boschSensor ≠ some true → s.list = none)
  /-- after it has been built: alive until the singleton that built it is destroyed -/
  built : s.listLen ≠ 0 → ∃ a b, s.list = some a ∧ s.bsxListIndex = some b ∧ a ≠ b ∧
    a < s.allocs ∧ b < s.allocs ∧
    (if s.boschSensor = some true then a ∉ s.freed ∧ b ∉ s.freed else a ∈ s.freed ∧ b ∈ s.freed)

theorem sound_init : Sound init where
  safe := ⟨by simp [init], List.nodup_nil⟩
  freedBefore := by simp [init]
  unbuilt _ := ⟨rfl, by simp [init], fun _ => rfl⟩
  built h := absurd rfl h

/-! ### What one call does -/

theorem getSensorlist_unusable (h : s.boschSensor ≠ some true) (listOk indexOk : Bool) :
    s.getSensorlist listOk indexOk = s := by
  unfold getSensorlist
  rw [if_neg h]

/-- The list is built, or one of its two allocations fails. -/
theorem getSensorlist_unbuilt (h : s.boschSensor = some true) (h0 : s.listLen = 0)
    (listOk indexOk : Bool) :
    s.getSensorlist listOk indexOk =
      if listOk = false then { s with list := none }
      else if indexOk = false then
        { s with
          list := some s.allocs
          bsxListIndex := none
          allocs := s.allocs + 1
          freed := s.freed ++ [s.allocs] }
      else
        { s with
          list := some s.allocs
          bsxListIndex := some (s.allocs + 1)
          listLen := sensorAmount
          allocs := s.allocs + 2
          handed := s.handed ++ [⟨some s.allocs, some (s.allocs + 1), s.freed⟩] } := by
  unfold getSensorlist apGetSensorlist
  rw [if_pos h, if_pos h0]
  cases listOk <;> cases indexOk <;> rfl

/-- The list is handed out again. -/
theorem getSensorlist_built (h : s.boschSensor = some true) (h0 : s.listLen ≠ 0)
    (listOk indexOk : Bool) :
    s.getSensorlist listOk indexOk =
      { s with handed := s.handed ++ [⟨s.list, s.bsxListIndex, s.freed⟩] } := by
  unfold getSensorlist apGetSensorlist
  rw [if_pos h, if_neg h0]
  exact if_pos (Nat.pos_of_ne_zero h0)

/-- The logs only grow. -/
theorem getSensorlist_logs (s : SensorListState) (listOk indexOk : Bool) :
    s.handed <+: (s.getSensorlist listOk indexOk).handed ∧
      s.freed <+: (s.getSensorlist listOk indexOk).freed := by
  by_cases h : s.boschSensor = some true
  · by_cases h0 : s.listLen = 0
    · rw [getSensorlist_unbuilt h h0]
      split_ifs <;> simp
    · rw [getSensorlist_built h h0]
      simp
  · rw [getSensorlist_unusable h]
    simp

theorem step_logs (s : SensorListState) (a : LifeAct) :
    s.handed <+: (s.step a).handed ∧ s.freed <+: (s.step a).freed := by
  cases a with
  | openModule pipeOk listOk indexOk =>
      have hlogs := (s.getInstance pipeOk).getSensorlist_logs listOk indexOk
      unfold getInstance at hlogs
      split at hlogs
      case isTrue h => simpa only [step, getInstance, if_pos h] using hlogs
      case isFalse h => simpa only [step, getInstance, if_neg h] using hlogs
  | closeModule =>
      show s.handed <+: s.destroy.handed ∧ s.freed <+: s.destroy.freed
      unfold destroy
      split <;> simp

theorem safe_of_step {a : LifeAct} (h : (s.step a).Safe) : s.Safe :=
  ⟨fun x hx => h.handed x ((s.step_logs a).1.subset hx),
    h.freed.sublist (s.step_logs a).2.sublist⟩

/-! ### What one call keeps, and what breaks it -/

/-- A usable singleton builds the list, or hands it out while it is alive. -/
theorem sound_getSensorlist (h : s.Sound) (hs : s.boschSensor = some true)
    (listOk indexOk : Bool) : (s.getSensorlist listOk indexOk).Sound := by
  by_cases h0 : s.listLen = 0
  · obtain ⟨hindex, hlist, _⟩ := h.unbuilt h0
    have hfresh : s.allocs ∉ s.freed := fun hmem => absurd (h.freedBefore _ hmem) (Nat.lt_irrefl _)
    have hfresh' : s.allocs + 1 ∉ s.freed := by
      intro hmem
      have := h.freedBefore _ hmem
      omega
    rw [getSensorlist_unbuilt hs h0]
    split
    · -- the first allocation fails
      refine ⟨⟨h.safe.handed, h.safe.freed⟩, h.freedBefore, fun _ => ?_, fun hne => absurd h0 hne⟩
      exact ⟨hindex, by simp, fun _ => rfl⟩
    split
    · -- the second one fails: `list` is dangling, and known to be
      refine ⟨⟨h.safe.handed, ?_⟩, ?_, fun _ => ?_, fun hne => absurd h0 hne⟩
      · exact List.nodup_append.mpr ⟨h.safe.freed, by simp, by
          intro a ha b hb
          rw [List.mem_singleton.mp hb]
          rintro rfl
          exact hfresh ha⟩
      · intro a ha
        rcases List.mem_append.mp ha with ha | ha
        · exact Nat.lt_succ_of_lt (h.freedBefore a ha)
        · rw [List.mem_singleton.mp ha]
          exact Nat.lt_succ_self _
      · exact ⟨rfl, by simp, fun hne => absurd hs hne⟩
    · -- both succeed
      refine ⟨⟨fun x hx => ?_, h.safe.freed⟩, fun a ha => ?_, fun hz => ?_, fun _ => ?_⟩
      · rcases List.mem_append.mp hx with hx | hx
        · exact h.safe.handed x hx
        · rw [List.mem_singleton.mp hx]
          exact ⟨⟨_, rfl, hfresh⟩, ⟨_, rfl, hfresh'⟩⟩
      · exact Nat.lt_succ_of_lt (Nat.lt_succ_of_lt (h.freedBefore a ha))
      · exact absurd (show sensorAmount = 0 from hz) (by decide)
      · refine ⟨_, _, rfl, rfl, Nat.ne_of_lt (Nat.lt_succ_self _), by simp, by simp, ?_⟩
        rw [if_pos hs]
        exact ⟨hfresh, hfresh'⟩
  · obtain ⟨a, b, hlist, hindex, hab, ha, hb, hlive⟩ := h.built h0
    rw [getSensorlist_built hs h0]
    have hnot := hlive
    rw [if_pos hs] at hnot
    refine ⟨⟨fun x hx => ?_, h.safe.freed⟩, h.freedBefore, fun hz => absurd hz h0, fun _ => ?_⟩
    · rcases List.mem_append.mp hx with hx | hx
      · exact h.safe.handed x hx
      · rw [List.mem_singleton.mp hx]
        exact ⟨⟨a, hlist, hnot.1⟩, ⟨b, hindex, hnot.2⟩⟩
    · exact ⟨a, b, hlist, hindex, hab, ha, hb, hlive⟩

/-- A new singleton changes nothing about the list. -/
theorem sound_getInstance (h : s.Sound) {pipeOk listOk indexOk : Bool}
    (hok : LifeOk s (.openModule pipeOk listOk indexOk)) : (s.getInstance pipeOk).Sound := by
  unfold getInstance
  split
  case isFalse => exact h
  case isTrue hnone =>
    have hne : s.boschSensor ≠ some true := by rw [hnone]; exact nofun
    refine ⟨⟨h.safe.handed, h.safe.freed⟩, h.freedBefore, fun h0 => ?_, fun h0 => ?_⟩
    · obtain ⟨hindex, hlist, hnull⟩ := h.unbuilt h0
      exact ⟨hindex, hlist, fun _ => hnull hne⟩
    · obtain ⟨a, b, hlist, hindex, hab, ha, hb, hdead⟩ := h.built h0
      rw [if_neg hne] at hdead
      refine ⟨a, b, hlist, hindex, hab, ha, hb, ?_⟩
      rw [hok hnone h0]
      exact hdead

theorem sound_openModule (h : s.Sound) {pipeOk listOk indexOk : Bool}
    (hok : LifeOk s (.openModule pipeOk listOk indexOk)) :
    (s.step (.openModule pipeOk listOk indexOk)).Sound := by
  have hs := sound_getInstance h hok
  show ((s.getInstance pipeOk).getSensorlist listOk indexOk).Sound
  by_cases husable : (s.getInstance pipeOk).boschSensor = some true
  · exact sound_getSensorlist hs husable listOk indexOk
  · rw [getSensorlist_unusable husable]
    exact hs

/-- A second singleton hands out the list the first one has freed. -/
theorem unsafe_openModule (h : s.Sound) {pipeOk listOk indexOk : Bool}
    (hbad : ¬ LifeOk s (.openModule pipeOk listOk indexOk)) :
    ¬ (s.step (.openModule pipeOk listOk indexOk)).Safe := by
  simp only [LifeOk, not_forall, Bool.not_eq_false] at hbad
  obtain ⟨hnone, h0, rfl⟩ := hbad
  obtain ⟨a, b, hlist, hindex, _, _, _, hdead⟩ := h.built h0
  rw [if_neg (by rw [hnone]; exact nofun)] at hdead
  intro hsafe
  have hstep : s.step (.openModule true listOk indexOk) =
      { s with
        boschSensor := some true
        handed := s.handed ++ [⟨s.list, s.bsxListIndex, s.freed⟩] } := by
    show (s.getInstance true).getSensorlist listOk indexOk = _
    rw [getInstance, if_pos hnone]
    exact getSensorlist_built (s := { s with boschSensor := some true }) rfl h0 listOk indexOk
  rw [hstep] at hsafe
  obtain ⟨⟨c, hc, hlive⟩, _⟩ := hsafe.handed _ (List.mem_append_right _ (List.mem_singleton.mpr rfl))
  rw [hlist, Option.some_inj] at hc
  exact hlive (hc ▸ hdead.1)

theorem sound_closeModule (h : s.Sound) (hok : LifeOk s .closeModule) :
    (s.step .closeModule).Sound := by
  show s.destroy.Sound
  unfold destroy
  split
  case isTrue => exact h
  case isFalse hsome =>
    by_cases h0 : s.listLen = 0
    · -- nothing has been built, and `list` is NULL
      have hlist : s.list = none := hok.1 hsome h0
      obtain ⟨hindex, _, _⟩ := h.unbuilt h0
      rw [hlist, hindex, Option.toList_none, List.append_nil, List.append_nil]
      refine ⟨⟨h.safe.handed, h.safe.freed⟩, h.freedBefore, fun _ => ?_, fun hne => absurd h0 hne⟩
      exact ⟨rfl, by simp, fun _ => rfl⟩
    · -- both arrays are alive, and freed here
      have husable : s.boschSensor = some true := by
        cases hs : s.boschSensor with
        | none => exact absurd hs hsome
        | some usable =>
            cases usable with
            | true => rfl
            | false => exact absurd (hok.2 hs) h0
      obtain ⟨a, b, hlist, hindex, hab, ha, hb, hlive⟩ := h.built h0
      rw [if_pos husable] at hlive
      rw [hlist, hindex, Option.toList_some, Option.toList_some, List.append_assoc]
      refine ⟨⟨h.safe.handed, ?_⟩, fun x hx => ?_, fun hz => absurd hz h0, fun _ => ?_⟩
      · refine List.nodup_append.mpr ⟨h.safe.freed, by simp [hab], ?_⟩
        rintro x hx y hy rfl
        rcases List.mem_cons.mp hy with rfl | hy
        · exact hlive.1 hx
        · exact hlive.2 (List.mem_singleton.mp hy ▸ hx)
      · rcases List.mem_append.mp hx with hx | hx
        · exact h.freedBefore x hx
        · rcases List.mem_cons.mp hx with rfl | hx
          · exact ha
          · rw [List.mem_singleton.mp hx]
            exact hb
      · refine ⟨a, b, rfl, rfl, hab, ha, hb, ?_⟩
        rw [if_neg nofun]
        exact ⟨by simp, by simp⟩

/-- What has been freed is freed again. -/
theorem unsafe_closeModule (h : s.Sound) (hbad : ¬ LifeOk s .closeModule) :
    ¬ (s.step .closeModule).Safe := by
  obtain ⟨hsome, a, hlist, hdead⟩ : s.boschSensor ≠ none ∧ ∃ a, s.list = some a ∧ a ∈ s.freed := by
    by_cases hfirst : s.boschSensor ≠ none → s.listLen = 0 → s.list = none
    · have hsecond : ¬ (s.boschSensor = some false → s.listLen = 0) := fun hs => hbad ⟨hfirst, hs⟩
      simp only [not_forall] at hsecond
      obtain ⟨hs, h0⟩ := hsecond
      obtain ⟨a, b, hlist, _, _, _, _, hdead⟩ := h.built h0
      rw [if_neg (by rw [hs]; exact nofun)] at hdead
      exact ⟨by rw [hs]; exact nofun, a, hlist, hdead.1⟩
    · simp only [not_forall] at hfirst
      obtain ⟨hs, h0, hlist⟩ := hfirst
      obtain ⟨a, ha⟩ := Option.ne_none_iff_exists'.mp hlist
      exact ⟨hs, a, ha, (h.unbuilt h0).2.1 a ha⟩
  intro hsafe
  have hnodup : (s.freed ++ s.list.toList ++ s.bsxListIndex.toList).Nodup := by
    have := hsafe.freed
    simpa only [step, destroy, if_neg hsome] using this
  rw [hlist] at hnodup
  have hdisj := (List.nodup_append.mp (List.nodup_append.mp hnodup).1).2.2
  exact hdisj a hdead a (by simp) rfl

end SensorListState

/-! ## Every sequence of opens and closes -/

/-- After any opens and closes, with any of the allocations failing: every list that was handed out
was alive and nothing was freed twice, exactly if every step met `LifeOk`. -/
theorem sensorlist_safe_iff (as : List LifeAct) :
    ∃ s, sensorListLife.run .init as = some s ∧
      (s.Safe ↔ sensorListLife.runUnder LifeOk .init as = some s) := by
  -- every action is enabled
  obtain ⟨s, hs, -⟩ : ∃ s, sensorListLife.run .init as = some s ∧ True :=
    Machine.exists_run_history (P := fun _ _ => True) (V := fun _ => True)
      (fun _ s a _ _ => ⟨s.step a, rfl, trivial⟩) trivial fun _ _ => trivial
  refine ⟨s, hs, ?_⟩
  refine Machine.runUnder_iff (I := SensorListState.Sound) (fun s hs => hs.safe) ?_ ?_ ?_
    SensorListState.sound_init hs
  · rintro s a t hstep ht
    cases hstep
    exact SensorListState.safe_of_step ht
  · rintro s a t hinv hok hstep
    cases hstep
    cases a with
    | openModule => exact SensorListState.sound_openModule hinv hok
    | closeModule => exact SensorListState.sound_closeModule hinv hok
  · rintro s a t hinv hbad hstep
    cases hstep
    cases a with
    | openModule => exact SensorListState.unsafe_openModule hinv hbad
    | closeModule => exact SensorListState.unsafe_closeModule hinv hbad

/-- The module is opened again after a close. -/
theorem sensorlist_reopened :
    ¬ ∀ (as : List LifeAct) (s : SensorListState), sensorListLife.run .init as = some s →
      s.Safe := by
  intro hall
  have hsafe := hall [.openModule true true true, .closeModule, .openModule true true true] _ rfl
  obtain ⟨⟨a, ha, hlive⟩, _⟩ := hsafe.handed ⟨some 0, some 1, [0, 1]⟩ (by decide)
  cases ha
  exact hlive (by decide)

end Smi240Hal.Legacy
