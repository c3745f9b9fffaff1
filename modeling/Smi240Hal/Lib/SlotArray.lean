/-
# Smi240Hal.Lib.SlotArray — checked arrays, and a sorted array kept packed at its front

The first part is memory: `load`, `store` and `memmove` on an array, each of them `none` when it
would touch a slot outside.  The second part is the use made of it here: an array of `n` slots that
holds a list of entries in its first slots and nothing in the others.  `insert_packed` and
`delete_packed` say that one `memmove` and one `store` open, respectively close, a gap.
-/
import Mathlib.Data.List.Basic
import Mathlib.Data.List.Nodup
import Mathlib.Data.Finset.Interval
import Mathlib.Order.Interval.Finset.Nat
import Mathlib.Data.Int.Interval

namespace Smi240Hal.Lib.SlotArray

variable {α : Type*}

/-! ## Checked accesses -/

/-- A slot is read; `none` outside the array. -/
def load (a : List α) (i : Nat) : Option α := a[i]?

/-- A slot is written; `none` outside the array. -/
def store (a : List α) (i : Nat) (v : α) : Option (List α) :=
  if i < a.length then some (a.set i v) else none

/-- `memmove(&a[dst], &a[src], n * sizeof(a[0]))`.  A negative count becomes a huge `size_t`. -/
def memmove (a : List α) (dst src : Nat) (n : Int) : Option (List α) :=
  if 0 ≤ n ∧ dst + n.toNat ≤ a.length ∧ src + n.toNat ≤ a.length then
    some (a.take dst ++ (a.drop src).take n.toNat ++ a.drop (dst + n.toNat))
  else none

/-! ## Packed arrays -/

/-- The entries in front, empty slots behind them. -/
def packed (S : List α) (n : Nat) : List (Option α) := S.map some ++ List.replicate (n - S.length) none

theorem packed_eq {S : List α} {n k : Nat} (h : n = S.length + k) :
    packed S n = S.map some ++ List.replicate k none := by
  unfold packed
  rw [h, Nat.add_sub_cancel_left]

theorem length_packed {S : List α} {n : Nat} (h : S.length ≤ n) : (packed S n).length = n := by
  simp only [packed, List.length_append, List.length_map, List.length_replicate]
  omega

theorem mem_packed {S : List α} {n : Nat} {x : α} : some x ∈ packed S n ↔ x ∈ S := by
  simp [packed]

/-- The slot behind a prefix holds the next entry. -/
theorem load_packed_entry {l r : List α} {x : α} {n : Nat} :
    load (packed (l ++ x :: r) n) l.length = some (some x) := by
  simp [load, packed]

/-- The slot behind the last entry is empty, if there is one. -/
theorem load_packed_empty {S : List α} {n : Nat} (h : S.length < n) :
    load (packed S n) S.length = some none := by
  unfold load packed
  rw [List.getElem?_append_right (by simp)]
  simp only [List.length_map, Nat.sub_self]
  rw [List.getElem?_replicate, if_pos (by omega)]

theorem store_packed_end {S : List α} {n : Nat} (x : α) (h : S.length < n) :
    store (packed S n) S.length (some x) = some (packed (S ++ [x]) n) := by
  unfold store
  rw [if_pos (by rw [length_packed (Nat.le_of_lt h)]; exact h)]
  obtain ⟨k, hk⟩ : ∃ k, n = S.length + (k + 1) := ⟨n - S.length - 1, by omega⟩
  have hk' : n = (S ++ [x]).length + k := by
    rw [List.length_append, List.length_singleton]
    omega
  rw [packed_eq hk, packed_eq hk', List.replicate_succ, List.set_append_right _ _ (by simp)]
  simp

/-- Opening a gap behind `l` and filling it. -/
theorem insert_packed {l r : List α} {n : Nat} (x : α) (h : (l ++ r).length < n) :
    (memmove (packed (l ++ r) n) (l.length + 1) l.length ((l ++ r).length - l.length)).bind
      (fun a => store a l.length (some x)) = some (packed (l ++ x :: r) n) := by
  have hcount : (((l ++ r).length : Int) - (l.length : Int)) = (r.length : Int) := by
    simp only [List.length_append]
    omega
  have hlen := length_packed (Nat.le_of_lt h)
  rw [List.length_append] at h
  obtain ⟨k, hk⟩ : ∃ k, n = (l ++ r).length + (k + 1) :=
    ⟨n - (l ++ r).length - 1, by rw [List.length_append]; omega⟩
  have hk' : n = (l ++ x :: r).length + k := by
    rw [List.length_append, List.length_cons]
    rw [List.length_append] at hk
    omega
  have hshape : packed (l ++ r) n =
      l.map some ++ (r.map some ++ none :: List.replicate k none) := by
    rw [packed_eq hk, List.map_append, List.append_assoc, List.replicate_succ]
  rw [hcount]
  unfold memmove
  rw [if_pos ⟨by omega, by rw [hlen, Int.toNat_natCast]; omega,
    by rw [hlen, Int.toNat_natCast]; omega⟩, Option.bind_some, Int.toNat_natCast, hshape]
  have htake : (l.map some ++ (r.map some ++ none :: List.replicate k none)).take (l.length + 1) =
      l.map some ++ (r.map some ++ none :: List.replicate k none).take 1 := by
    rw [List.take_append]
    simp
  have hmid : ((l.map some ++ (r.map some ++ none :: List.replicate k none)).drop
      l.length).take r.length = r.map (some : α → Option α) := by
    rw [List.drop_left' (by simp), List.take_left' (by simp)]
  have hdrop : (l.map some ++ (r.map some ++ none :: List.replicate k none)).drop
      (l.length + 1 + r.length) = List.replicate k (none : Option α) := by
    rw [← List.append_assoc, ← List.map_append, List.drop_append]
    simp only [List.length_map, List.length_append]
    rw [List.drop_eq_nil_of_le (by simp)]
    have : l.length + 1 + r.length - (l.length + r.length) = 1 := by omega
    rw [this]
    rfl
  rw [htake, hmid, hdrop]
  -- the slot that is overwritten holds the head of `r`, or the first empty slot
  obtain ⟨y, hy⟩ : ∃ y, (r.map some ++ none :: List.replicate k none).take 1 = [y] := by
    cases r <;> exact ⟨_, rfl⟩
  rw [hy]
  unfold store
  rw [if_pos (by simp), List.append_assoc, List.append_assoc,
    List.set_append_right _ _ (by simp), packed_eq hk']
  simp

/-- Closing the gap left by `x` and clearing the last slot. -/
theorem delete_packed {l r : List α} {x : α} {n : Nat} (h : (l ++ x :: r).length ≤ n) :
    (memmove (packed (l ++ x :: r) n) l.length (l.length + 1) ((l ++ r).length - l.length)).bind
      (fun a => store a (l ++ r).length none) = some (packed (l ++ r) n) := by
  have hcount : (((l ++ r).length : Int) - (l.length : Int)) = (r.length : Int) := by
    simp only [List.length_append]
    omega
  have hlen := length_packed h
  rw [List.length_append, List.length_cons] at h
  obtain ⟨k, hk⟩ : ∃ k, n = (l ++ x :: r).length + k :=
    ⟨n - (l ++ x :: r).length, by rw [List.length_append, List.length_cons]; omega⟩
  have hk' : n = (l ++ r).length + (k + 1) := by
    rw [List.length_append, List.length_cons] at hk
    rw [List.length_append]
    omega
  have hshape : packed (l ++ x :: r) n =
      l.map some ++ some x :: (r.map some ++ List.replicate k none) := by
    rw [packed_eq hk, List.map_append, List.append_assoc, List.map_cons, List.cons_append]
  rw [hcount]
  unfold memmove
  rw [if_pos ⟨by omega, by rw [hlen, Int.toNat_natCast]; omega,
    by rw [hlen, Int.toNat_natCast]; omega⟩, Option.bind_some, Int.toNat_natCast, hshape]
  have htake : (l.map some ++ some x :: (r.map some ++ List.replicate k none)).take l.length =
      l.map (some : α → Option α) := List.take_left' (by simp)
  have hmid : ((l.map some ++ some x :: (r.map some ++ List.replicate k none)).drop
      (l.length + 1)).take r.length = r.map (some : α → Option α) := by
    rw [← List.drop_drop, List.drop_left' (by simp), List.drop_one, List.tail_cons,
      List.take_left' (by simp)]
  obtain ⟨y, hdrop⟩ : ∃ y, (l.map some ++ some x :: (r.map some ++ List.replicate k none)).drop
      (l.length + r.length) = y :: List.replicate k (none : Option α) := by
    rw [← List.drop_drop, List.drop_left' (by simp)]
    -- what is left is the last entry of `x :: r` and the empty slots
    rcases List.eq_nil_or_concat r with rfl | ⟨init, last, rfl⟩
    · exact ⟨some x, by simp⟩
    · refine ⟨some last, ?_⟩
      simp only [List.concat_eq_append, List.length_append, List.length_singleton,
        List.drop_succ_cons, List.map_append, List.map_cons, List.map_nil, List.append_assoc,
        List.cons_append, List.nil_append]
      exact List.drop_left' (by simp)
  rw [htake, hmid, hdrop]
  unfold store
  rw [if_pos (by simp), List.set_append_right _ _ (by simp), packed_eq hk', List.replicate_succ]
  simp

/-- A strictly ascending list of numbers from `0` to `n - 1` has at most `n` entries. -/
theorem length_le_of_ascending {S : List Int} {n : Nat} (hs : S.Pairwise (· < ·))
    (hr : ∀ x ∈ S, 0 ≤ x ∧ x < n) : S.length ≤ n := by
  have hnodup : S.Nodup := hs.imp (fun h => Int.ne_of_lt h)
  have hsub : S.toFinset ⊆ Finset.Ico (0 : Int) n := by
    intro x hx
    exact Finset.mem_Ico.mpr (hr x (List.mem_toFinset.mp hx))
  have hcard := Finset.card_le_card hsub
  rw [List.toFinset_card_of_nodup hnodup, Int.card_Ico] at hcard
  simpa using hcard

end Smi240Hal.Lib.SlotArray
