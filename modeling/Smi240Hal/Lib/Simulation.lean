/-
# Smi240Hal.Lib.Simulation — forward simulations between machines

A simulation from `M` to `N` relates their states and translates each action of `M` into the actions
`N` takes for it: none when `N` does not see the action, one, or several.  What `N` does in every run
is then known of the part of `M` the relation speaks of.

A system made of components is simulated by each of them, with the actions that are addressed to the
component; `comp` follows a component of a component.
-/
import Smi240Hal.Lib.Machine

namespace Smi240Hal.Lib

variable {σ τ υ α β γ : Type*}

/-- `N` follows `M`: it takes the actions `label a` for the action `a`, and the states stay
related. -/
structure Simulation (M : Machine σ α) (N : Machine τ β) where
  Rel : σ → τ → Prop
  label : α → List β
  start : ∀ s, M.Start s → ∃ x, N.Start x ∧ Rel s x
  step : ∀ s a t x, Rel s x → M.step s a = some t → ∃ y, N.run x (label a) = some y ∧ Rel t y

namespace Simulation

variable {M : Machine σ α} {N : Machine τ β} {O : Machine υ γ}

theorem run (S : Simulation M N) {as : List α} {s t : σ} {x : τ} (hx : S.Rel s x)
    (h : M.run s as = some t) : ∃ y, N.run x (as.flatMap S.label) = some y ∧ S.Rel t y := by
  induction as generalizing s x with
  | nil =>
      cases h
      exact ⟨x, rfl, hx⟩
  | cons a as ih =>
      obtain ⟨u, hu, hrest⟩ := M.run_cons_eq_some.mp h
      obtain ⟨z, hz, huz⟩ := S.step s a u x hx hu
      obtain ⟨y, hy, hty⟩ := ih huz hrest
      refine ⟨y, ?_, hty⟩
      rw [List.flatMap_cons, N.run_append, hz]
      exact hy

/-- Every reachable state of `M` is related to a reachable state of `N`. -/
theorem reach (S : Simulation M N) {s : σ} (h : M.Reach s) : ∃ x, N.Reach x ∧ S.Rel s x := by
  refine h.invariant (P := fun s => ∃ x, N.Reach x ∧ S.Rel s x) ?_ ?_
  · intro s hs
    obtain ⟨x, hx, hsx⟩ := S.start s hs
    exact ⟨x, .start hx, hsx⟩
  · rintro s a t ⟨x, hx, hsx⟩ hstep
    obtain ⟨y, hy, hty⟩ := S.step s a t x hsx hstep
    exact ⟨y, .of_run hx hy, hty⟩

/-- Simulations follow each other. -/
def comp (T : Simulation N O) (S : Simulation M N) : Simulation M O where
  Rel s z := ∃ x, S.Rel s x ∧ T.Rel x z
  label a := (S.label a).flatMap T.label
  start := by
    intro s hs
    obtain ⟨x, hx, hsx⟩ := S.start s hs
    obtain ⟨z, hz, hxz⟩ := T.start x hx
    exact ⟨z, hz, x, hsx, hxz⟩
  step := by
    rintro s a t z ⟨x, hsx, hxz⟩ hstep
    obtain ⟨y, hy, hty⟩ := S.step s a t x hsx hstep
    obtain ⟨w, hw, hyw⟩ := T.run hxz hy
    exact ⟨w, hw, y, hty, hyw⟩

end Simulation

end Smi240Hal.Lib
