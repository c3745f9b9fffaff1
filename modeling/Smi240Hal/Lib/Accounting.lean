/-
# Smi240Hal.Lib.Accounting — where the items of a stream have gone

A pipeline of queues takes items in at one end, hands them on, and may lose some on the way.
`Accounts input kept lost` says that nothing else happens to them: `kept` (what came out, then what
is still queued, oldest first) is a subsequence of `input`, and every occurrence in `input` is in
exactly one of `kept` and `lost`.

Such an account is built from accounts of the parts: `trans` follows the items through one more
stage, `append` puts two stretches side by side, and `dropOldest` is the one way the queues of this
development lose anything.
-/
import Mathlib.Data.List.Perm.Basic
import Mathlib.Data.List.Nodup

namespace Smi240Hal.Lib

variable {α : Type*}

/-- Every item of `input` is either kept, in order, or lost, and only once. -/
structure Accounts (input kept lost : List α) : Prop where
  order : kept.Sublist input
  split : input.Perm (kept ++ lost)

namespace Accounts

variable {input kept lost : List α}

/-- Nothing is lost. -/
theorem refl (l : List α) : Accounts l l [] :=
  ⟨List.Sublist.refl l, by rw [List.append_nil]⟩

/-- The oldest items are lost. -/
theorem dropOldest {d : List α} (h : d ++ kept = input) : Accounts input kept d where
  order := h ▸ List.sublist_append_right d kept
  split := h ▸ List.perm_append_comm

/-- The newest items are lost. -/
theorem dropNewest {d : List α} (h : kept ++ d = input) : Accounts input kept d where
  order := h ▸ List.sublist_append_left kept d
  split := h ▸ List.Perm.refl _

/-- One more stage loses some of what the first one kept. -/
theorem trans {kept' lost' : List α} (h : Accounts input kept lost)
    (h' : Accounts kept kept' lost') : Accounts input kept' (lost ++ lost') where
  order := h'.order.trans h.order
  split := by
    have hmove : (kept' ++ lost' ++ lost).Perm (kept' ++ (lost ++ lost')) := by
      rw [List.append_assoc]
      exact List.Perm.append_left kept' List.perm_append_comm
    exact (h.split.trans (List.Perm.append_right lost h'.split)).trans hmove

/-- The order in which the lost items are listed does not matter. -/
theorem congrLost {lost' : List α} (h : Accounts input kept lost) (hp : lost.Perm lost') :
    Accounts input kept lost' :=
  ⟨h.order, h.split.trans (List.Perm.append_left kept hp)⟩

/-- Two stretches side by side. -/
theorem append {input' kept' lost' : List α} (h : Accounts input kept lost)
    (h' : Accounts input' kept' lost') :
    Accounts (input ++ input') (kept ++ kept') (lost ++ lost') where
  order := h.order.append h'.order
  split := by
    have hmove : (kept ++ lost ++ (kept' ++ lost')).Perm (kept ++ kept' ++ (lost ++ lost')) := by
      simp only [List.append_assoc]
      apply List.Perm.append_left kept
      rw [← List.append_assoc, ← List.append_assoc]
      exact List.Perm.append_right lost' List.perm_append_comm
    exact (h.split.append h'.split).trans hmove

/-- New items arrive behind everything that is kept, and a stage works on all of them. -/
theorem extend {new kept' lost' : List α} (h : Accounts input kept lost)
    (h' : Accounts (kept ++ new) kept' lost') :
    Accounts (input ++ new) kept' (lost ++ lost') := by
  have := h.append (refl new)
  rw [List.append_nil] at this
  exact this.trans h'

/-- The items that pass a test are accounted for among themselves. -/
theorem filter (h : Accounts input kept lost) (p : α → Bool) :
    Accounts (input.filter p) (kept.filter p) (lost.filter p) where
  order := h.order.filter p
  split := by
    have := h.split.filter p
    rwa [List.filter_append] at this

theorem mem_iff (h : Accounts input kept lost) (x : α) : x ∈ input ↔ x ∈ kept ∨ x ∈ lost := by
  rw [h.split.mem_iff, List.mem_append]

/-- When the items are distinct, none is kept twice and none is both kept and lost. -/
theorem nodup (h : Accounts input kept lost) (hn : input.Nodup) :
    kept.Nodup ∧ lost.Nodup ∧ kept.Disjoint lost := by
  have hall : (kept ++ lost).Nodup := h.split.nodup_iff.mp hn
  exact ⟨hall.of_append_left, hall.of_append_right, List.disjoint_of_nodup_append hall⟩

end Accounts

end Smi240Hal.Lib
