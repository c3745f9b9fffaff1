/-
# Smi240Hal.Lib.Machine — labelled machines, their runs and the induction rules

A `Machine` is a transition system whose step is a function: `step s a` is the state after action
`a`, or `none` when `a` is not enabled in `s`.  Interleaving of threads is a choice of actions, so a
statement about every run of a machine is a statement about every schedule.

Three notions are used by the developments that instantiate it:

* `run`, the state after a list of actions (it computes, so a concrete schedule can be evaluated);
* `ReachUnder G`, the states reached by steps that each meet a condition `G` on the state before the
  step and the action;
* `invariant`, the rule that turns a step lemma into a fact about every such state.
-/
import Mathlib.Data.Option.Basic
import Mathlib.Data.List.Basic
import Mathlib.Data.List.Induction

namespace Smi240Hal.Lib

/-- A labelled transition system with an executable step. -/
structure Machine (σ : Type*) (α : Type*) where
  Start : σ → Prop
  step : σ → α → Option σ

namespace Machine

variable {σ α : Type*} (M : Machine σ α)

/-! ## Runs -/

/-- The state after a list of actions, `none` as soon as one of them is not enabled. -/
def run : σ → List α → Option σ
  | s, [] => some s
  | s, a :: as => (M.step s a).bind (fun t => run t as)

@[simp] theorem run_nil (s : σ) : M.run s [] = some s := rfl

theorem run_cons (s : σ) (a : α) (as : List α) :
    M.run s (a :: as) = (M.step s a).bind (fun t => M.run t as) := rfl

theorem run_cons_eq_some {s u : σ} {a : α} {as : List α} :
    M.run s (a :: as) = some u ↔ ∃ t, M.step s a = some t ∧ M.run t as = some u := by
  rw [run_cons, Option.bind_eq_some_iff]

theorem run_append (s : σ) (as bs : List α) :
    M.run s (as ++ bs) = (M.run s as).bind (fun t => M.run t bs) := by
  induction as generalizing s with
  | nil => rfl
  | cons a as ih =>
      simp only [List.cons_append, run_cons]
      cases M.step s a with
      | none => rfl
      | some t => exact ih t

/-- What one step preserves, a whole run preserves. -/
theorem run_invariant {P : σ → Prop} {G : σ → α → Prop}
    (hstep : ∀ s a t, P s → G s a → M.step s a = some t → P t) :
    ∀ {as : List α} {s t : σ}, P s → (∀ u a, a ∈ as → P u → G u a) →
      M.run s as = some t → P t := by
  intro as
  induction as with
  | nil =>
      intro s t hs _ h
      cases h
      exact hs
  | cons a as ih =>
      intro s t hs hG h
      obtain ⟨u, hu, hrun⟩ := M.run_cons_eq_some.mp h
      have hPu : P u := hstep s a u hs (hG s a (by simp) hs) hu
      exact ih hPu (fun v b hb => hG v b (by simp [hb])) hrun

/-! ## What some of the actions lead to -/

/-- `t` is reached from `s` by actions of `P`. -/
def Leads (P : α → Prop) (s t : σ) : Prop := ∃ as, (∀ a ∈ as, P a) ∧ M.run s as = some t

variable {M} {P : α → Prop}

theorem Leads.refl (s : σ) : M.Leads P s s := ⟨[], by simp, rfl⟩

theorem Leads.step {s t : σ} {a : α} (ha : P a) (h : M.step s a = some t) : M.Leads P s t :=
  ⟨[a], by simpa using ha, M.run_cons_eq_some.mpr ⟨t, h, rfl⟩⟩

theorem Leads.trans {s t u : σ} (h : M.Leads P s t) (h' : M.Leads P t u) : M.Leads P s u := by
  obtain ⟨as, has, hrun⟩ := h
  obtain ⟨bs, hbs, hrun'⟩ := h'
  refine ⟨as ++ bs, fun a ha => ?_, ?_⟩
  · rcases List.mem_append.mp ha with ha | ha
    · exact has a ha
    · exact hbs a ha
  · rw [run_append, hrun]
    exact hrun'

/-- What each of these actions keeps is kept. -/
theorem Leads.invariant {I : σ → Prop} (hstep : ∀ s a t, I s → P a → M.step s a = some t → I t)
    {s t : σ} (h : M.Leads P s t) (hs : I s) : I t := by
  obtain ⟨as, has, hrun⟩ := h
  exact M.run_invariant (P := I) (G := fun _ a => P a) hstep hs (fun _ a ha _ => has a ha) hrun

variable (M)

/-! ## A run and its actions -/

theorem run_concat (s : σ) (as : List α) (a : α) :
    M.run s (as ++ [a]) = (M.run s as).bind (fun t => M.step t a) := by
  rw [run_append]
  congr 1
  funext t
  rw [run_cons]
  cases M.step t a <;> rfl

variable {M}

/-- What one step keeps of a state and the actions that led to it, a run keeps. -/
theorem run_history {P : List α → σ → Prop} {s : σ}
    (hstep : ∀ before u a t, P before u → M.step u a = some t → P (before ++ [a]) t)
    (hs : P [] s) {as : List α} {t : σ} (h : M.run s as = some t) : P as t := by
  induction as using List.reverseRecOn generalizing t with
  | nil =>
      cases h
      exact hs
  | append_singleton as a ih =>
      rw [run_concat] at h
      obtain ⟨u, hu, ht⟩ := Option.bind_eq_some_iff.mp h
      exact hstep as u a t (ih hu) ht

/-- The same for a machine whose permitted actions are enabled in the states kept. -/
theorem exists_run_history {P : List α → σ → Prop} {V : α → Prop} {s : σ}
    (hstep : ∀ before u a, P before u → V a → ∃ t, M.step u a = some t ∧ P (before ++ [a]) t)
    (hs : P [] s) {as : List α} (hv : ∀ a ∈ as, V a) : ∃ t, M.run s as = some t ∧ P as t := by
  induction as using List.reverseRecOn with
  | nil => exact ⟨s, rfl, hs⟩
  | append_singleton as a ih =>
      obtain ⟨u, hu, hP⟩ := ih fun b hb => hv b (List.mem_append_left _ hb)
      obtain ⟨t, ht, hP'⟩ := hstep as u a hP (hv a (by simp))
      refine ⟨t, ?_, hP'⟩
      rw [run_concat, hu]
      exact ht

variable (M)

/-! ## States reached under a condition on the steps -/

/-- The states reached from a start state by steps that each meet `G`. -/
inductive ReachUnder (G : σ → α → Prop) : σ → Prop
  | start {s : σ} : M.Start s → ReachUnder G s
  | next {s t : σ} {a : α} : ReachUnder G s → G s a → M.step s a = some t → ReachUnder G t

/-- The reachable states. -/
def Reach (s : σ) : Prop := M.ReachUnder (fun _ _ => True) s

variable {M}

/-- The induction rule, for a step lemma that rests on other facts about the states reached. -/
theorem ReachUnder.invariant_of_reach {G : σ → α → Prop} {P : σ → Prop}
    (hstart : ∀ s, M.Start s → P s)
    (hstep : ∀ s a t, M.ReachUnder G s → P s → G s a → M.step s a = some t → P t)
    {s : σ} (h : M.ReachUnder G s) : P s := by
  induction h with
  | start hs => exact hstart _ hs
  | next hs hG ht ih => exact hstep _ _ _ hs ih hG ht

/-- An invariant of the start states that every permitted step preserves holds in every state
reached. -/
theorem ReachUnder.invariant {G : σ → α → Prop} {P : σ → Prop}
    (hstart : ∀ s, M.Start s → P s)
    (hstep : ∀ s a t, P s → G s a → M.step s a = some t → P t)
    {s : σ} (h : M.ReachUnder G s) : P s :=
  h.invariant_of_reach hstart fun s a t _ => hstep s a t

theorem Reach.invariant {P : σ → Prop} (hstart : ∀ s, M.Start s → P s)
    (hstep : ∀ s a t, P s → M.step s a = some t → P t) {s : σ} (h : M.Reach s) : P s :=
  ReachUnder.invariant hstart (fun s a t hs _ ht => hstep s a t hs ht) h

theorem Reach.invariant_of_reach {P : σ → Prop} (hstart : ∀ s, M.Start s → P s)
    (hstep : ∀ s a t, M.Reach s → P s → M.step s a = some t → P t) {s : σ} (h : M.Reach s) : P s :=
  ReachUnder.invariant_of_reach hstart (fun s a t hs hp _ ht => hstep s a t hs hp ht) h

theorem ReachUnder.reach {G : σ → α → Prop} {s : σ} (h : M.ReachUnder G s) : M.Reach s := by
  induction h with
  | start hs => exact .start hs
  | next _ _ ht ih => exact .next ih trivial ht

variable (M)

/-- `run`, stopping also at a step that does not meet the condition. -/
def runUnder (G : σ → α → Prop) [∀ s a, Decidable (G s a)] : σ → List α → Option σ
  | s, [] => some s
  | s, a :: as => if G s a then (M.step s a).bind (fun t => runUnder G t as) else none

variable {M}

theorem ReachUnder.of_runUnder {G : σ → α → Prop} [∀ s a, Decidable (G s a)] :
    ∀ {as : List α} {s t : σ}, M.ReachUnder G s → M.runUnder G s as = some t →
      M.ReachUnder G t := by
  intro as
  induction as with
  | nil =>
      intro s t hs h
      cases h
      exact hs
  | cons a as ih =>
      intro s t hs h
      simp only [runUnder] at h
      split at h
      case isTrue hG =>
        obtain ⟨u, hu, hrun⟩ := Option.bind_eq_some_iff.mp h
        exact ih (.next hs hG hu) hrun
      case isFalse => exact absurd h (by simp)

/-- A run that meets `G` and whose measure stays meets also every condition whose failure raises the
measure. -/
theorem runUnder_and_iff {G C : σ → α → Prop} [∀ s a, Decidable (G s a)]
    [∀ s a, Decidable (C s a)] {m : σ → ℕ}
    (hm : ∀ s a t, M.step s a = some t → m s ≤ m t ∧ (m t = m s ↔ C s a)) :
    ∀ {as : List α} {s t : σ}, M.runUnder G s as = some t →
      m s ≤ m t ∧ (M.runUnder (fun s a => G s a ∧ C s a) s as = some t ↔ m t = m s) := by
  intro as
  induction as with
  | nil =>
      intro s t h
      cases h
      exact ⟨Nat.le_refl _, iff_of_true rfl rfl⟩
  | cons a as ih =>
      intro s t h
      simp only [runUnder] at h ⊢
      split at h
      case isFalse => exact absurd h (by simp)
      case isTrue hG =>
        obtain ⟨u, hu, hrun⟩ := Option.bind_eq_some_iff.mp h
        obtain ⟨hsu, hcond⟩ := hm s a u hu
        obtain ⟨hut, hrest⟩ := ih hrun
        refine ⟨Nat.le_trans hsu hut, ?_⟩
        rw [hu, Option.bind_some]
        by_cases hC : C s a
        · rw [if_pos ⟨hG, hC⟩, hrest, hcond.mpr hC]
        · -- the measure has gone up, and does not come down again
          have hup : m u ≠ m s := fun heq => hC (hcond.mp heq)
          rw [if_neg fun hboth => hC hboth.2]
          exact iff_of_false nofun (by omega)

/-- A property that no step repairs holds at the end of a run exactly if every step meets a
condition, when on the states the condition leads to it is the condition that keeps the property. -/
theorem runUnder_iff {C : σ → α → Prop} [∀ s a, Decidable (C s a)] {I P : σ → Prop}
    (hholds : ∀ s, I s → P s) (hlost : ∀ s a t, M.step s a = some t → P t → P s)
    (hkeep : ∀ s a t, I s → C s a → M.step s a = some t → I t)
    (hbreak : ∀ s a t, I s → ¬ C s a → M.step s a = some t → ¬ P t) :
    ∀ {as : List α} {s t : σ}, I s → M.run s as = some t →
      (P t ↔ M.runUnder C s as = some t) := by
  intro as
  -- what is lost on the way is lost at the end
  have hrun : ∀ {as : List α} {s t : σ}, M.run s as = some t → P t → P s := by
    intro as
    induction as with
    | nil =>
        intro s t h hP
        cases h
        exact hP
    | cons a as ih =>
        intro s t h hP
        obtain ⟨u, hu, hrest⟩ := M.run_cons_eq_some.mp h
        exact hlost s a u hu (ih hrest hP)
  induction as with
  | nil =>
      intro s t hI h
      cases h
      exact iff_of_true (hholds s hI) rfl
  | cons a as ih =>
      intro s t hI h
      obtain ⟨u, hu, hrest⟩ := M.run_cons_eq_some.mp h
      simp only [runUnder]
      by_cases hC : C s a
      · rw [if_pos hC, hu, Option.bind_some]
        exact ih (hkeep s a u hI hC hu) hrest
      · rw [if_neg hC]
        exact iff_of_false (fun hP => hbreak s a u hI hC hu (hrun hrest hP)) nofun

/-- A property holds in every state along a run exactly if every step meets a condition, when from a
state with the property it is the condition that decides whether the next state has it. -/
theorem runUnder_iff_along {C : σ → α → Prop} [∀ s a, Decidable (C s a)] {I P : σ → Prop}
    (hkeep : ∀ s a t, I s → M.step s a = some t → I t)
    (hiff : ∀ s a t, I s → P s → M.step s a = some t → (P t ↔ C s a)) :
    ∀ {as : List α} {s t : σ}, I s → P s → M.run s as = some t →
      ((∀ bs u, bs <+: as → M.run s bs = some u → P u) ↔ M.runUnder C s as = some t) := by
  intro as
  induction as with
  | nil =>
      intro s t _ hP h
      refine iff_of_true ?_ h
      intro bs u hbs hu
      rw [List.prefix_nil.mp hbs, run_nil, Option.some.injEq] at hu
      rwa [← hu]
  | cons a as ih =>
      intro s t hI hP h
      obtain ⟨v, hv, hrest⟩ := M.run_cons_eq_some.mp h
      have hdecides := hiff s a v hI hP hv
      rw [runUnder]
      by_cases hC : C s a
      · rw [if_pos hC, hv, Option.bind_some,
          ← ih (hkeep s a v hI hv) (hdecides.mpr hC) hrest]
        constructor
        · intro hall bs u hbs hu
          apply hall (a :: bs) u (List.cons_prefix_cons.mpr ⟨rfl, hbs⟩)
          rw [run_cons, hv]
          exact hu
        · intro hall bs u hbs hu
          rcases bs with _ | ⟨b, bs⟩
          · cases hu
            exact hP
          · obtain ⟨rfl, htail⟩ := List.cons_prefix_cons.mp hbs
            rw [run_cons, hv] at hu
            exact hall bs u htail hu
      · rw [if_neg hC]
        refine iff_of_false (fun hall => hC (hdecides.mp ?_)) nofun
        apply hall [a] v (List.cons_prefix_cons.mpr ⟨rfl, List.nil_prefix⟩)
        rw [run_cons, hv]
        rfl

/-- Two conditions that agree on the states of an invariant stop the same runs. -/
theorem runUnder_congr {G C : σ → α → Prop} [∀ s a, Decidable (G s a)] [∀ s a, Decidable (C s a)]
    {I : σ → Prop} (hkeep : ∀ s a t, I s → M.step s a = some t → I t)
    (hiff : ∀ s a t, I s → M.step s a = some t → (G s a ↔ C s a)) :
    ∀ {as : List α} {s t : σ}, I s → M.run s as = some t →
      (M.runUnder G s as = some t ↔ M.runUnder C s as = some t) := by
  intro as
  induction as with
  | nil => exact fun _ _ => Iff.rfl
  | cons a as ih =>
      intro s t hI h
      obtain ⟨u, hu, hrest⟩ := M.run_cons_eq_some.mp h
      simp only [runUnder, hu, Option.bind_some]
      by_cases hC : C s a
      · rw [if_pos ((hiff s a u hI hu).mpr hC), if_pos hC]
        exact ih (hkeep s a u hI hu) hrest
      · rw [if_neg fun hG => hC ((hiff s a u hI hu).mp hG), if_neg hC]

theorem Reach.of_run {as : List α} {s t : σ} (hs : M.Reach s) (h : M.run s as = some t) :
    M.Reach t := by
  induction as generalizing s with
  | nil =>
      cases h
      exact hs
  | cons a as ih =>
      obtain ⟨u, hu, hrun⟩ := M.run_cons_eq_some.mp h
      exact ih (.next hs trivial hu) hrun

end Machine

end Smi240Hal.Lib
