/-
# Smi240Hal.Lib.Progress — runs that end

A statement about a run says nothing about a thread that is stuck.  `EndsIn` says both halves of what
is asked of a system that is to get something done: the actions of a set `P` cannot go on for ever,
and where none of them is enabled any more `Q` holds.  `endsIn_of_rank` is the rule: every such action
lowers a rank, and a state kept by the steps in which all of them are blocked meets `Q`.
-/
import Smi240Hal.Lib.Machine

namespace Smi240Hal.Lib.Machine

variable {σ α : Type*}

/-- From `s` on at most `n` actions of `P` can be taken, and where none is enabled any more `Q`
holds. -/
structure EndsIn (M : Machine σ α) (P : α → Prop) (n : Nat) (Q : σ → Prop) (s : σ) : Prop where
  bound : ∀ as t, (∀ a ∈ as, P a) → M.run s as = some t → as.length ≤ n
  last : ∀ as t, (∀ a ∈ as, P a) → M.run s as = some t → (∀ a, P a → M.step t a = none) → Q t

variable {M : Machine σ α} {P : α → Prop} {n : Nat} {Q : σ → Prop} {s : σ}

theorem endsIn_of_rank {I : σ → Prop} {r : σ → Nat}
    (hstep : ∀ s a t, I s → P a → M.step s a = some t → I t ∧ r t < r s)
    (hstuck : ∀ s, I s → (∀ a, P a → M.step s a = none) → Q s) (hs : I s) :
    M.EndsIn P (r s) Q s := by
  -- the rank pays for the actions taken, one each
  have hpaid : ∀ (as : List α) (s t : σ), I s → (∀ a ∈ as, P a) → M.run s as = some t →
      I t ∧ as.length + r t ≤ r s := by
    intro as
    induction as with
    | nil =>
        intro s t hs _ hrun
        obtain rfl : s = t := Option.some.inj hrun
        exact ⟨hs, by simp⟩
    | cons a as ih =>
        intro s t hs hP hrun
        obtain ⟨u, hu, hrest⟩ := M.run_cons_eq_some.mp hrun
        obtain ⟨hIu, hlower⟩ := hstep s a u hs (hP a List.mem_cons_self) hu
        obtain ⟨hIt, hlen⟩ := ih u t hIu (fun b hb => hP b (List.mem_cons_of_mem a hb)) hrest
        refine ⟨hIt, ?_⟩
        rw [List.length_cons]
        omega
  constructor
  · intro as t hP hrun
    have hlen := (hpaid as s t hs hP hrun).2
    omega
  · intro as t hP hrun hblocked
    exact hstuck t (hpaid as s t hs hP hrun).1 hblocked

theorem EndsIn.mono {m : Nat} {R : σ → Prop} (h : M.EndsIn P n Q s) (hnm : n ≤ m)
    (hQR : ∀ t, Q t → R t) : M.EndsIn P m R s where
  bound as t hP hrun := Nat.le_trans (h.bound as t hP hrun) hnm
  last as t hP hrun hblocked := hQR t (h.last as t hP hrun hblocked)

end Smi240Hal.Lib.Machine
