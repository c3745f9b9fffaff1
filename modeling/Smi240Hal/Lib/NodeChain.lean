/-
# Smi240Hal.Lib.NodeChain — singly linked chains in a heap

A heap maps an address to the node that lies there, or to nothing when it is not allocated; NULL is
`none`.  `Chain h p cells` says that following `next` from `p` visits the nodes of `cells`, each an
address with its datum, and then reaches NULL.  A chain is determined by the heap and its first
pointer, and visits no address twice.

The operations of a list are a change of one node: it is taken from the front (`Chain.tail`,
`Chain.set_of_notMem`), or the last node is made to point at another chain (`Chain.link`).
-/
import Mathlib.Data.List.Nodup

namespace Smi240Hal.Lib

/-- A cell: its data, and the address of the next one. -/
structure Node (δ : Type*) where
  next : Option Nat
  pData : δ

/-- What is allocated, by address. -/
abbrev Heap (δ : Type*) := Nat → Option (Node δ)

/-- The addresses of a chain. -/
def addrs {δ : Type*} (cells : List (Nat × δ)) : List Nat := cells.map Prod.fst

@[simp] theorem addrs_nil {δ : Type*} : addrs ([] : List (Nat × δ)) = [] := rfl

@[simp] theorem addrs_cons {δ : Type*} (a : Nat) (d : δ) (cells : List (Nat × δ)) :
    addrs ((a, d) :: cells) = a :: addrs cells := rfl

@[simp] theorem addrs_append {δ : Type*} (cells cells' : List (Nat × δ)) :
    addrs (cells ++ cells') = addrs cells ++ addrs cells' := List.map_append

namespace Heap

variable {δ : Type*} {h : Heap δ} {p q : Option Nat} {a t : Nat} {d : δ}
  {cells front back : List (Nat × δ)}

/-- One address changes. -/
def set (h : Heap δ) (a : Nat) (n : Option (Node δ)) : Heap δ := fun b => if b = a then n else h b

@[simp] theorem set_same (n : Option (Node δ)) : h.set a n a = n := if_pos rfl

theorem set_other {b : Nat} (hne : b ≠ a) (n : Option (Node δ)) : h.set a n b = h b := if_neg hne

/-- Changing or freeing a node allocates none. -/
theorem allocated_of_set {b : Nat} {m : Node δ} {n : Option (Node δ)} (ha : h a = some m)
    (hb : h.set a n b ≠ none) : h b ≠ none := by
  by_cases hba : b = a
  · rw [hba, ha]
    exact Option.some_ne_none m
  · rwa [set_other hba] at hb

/-- The cells that are reached from an address, in order, to the null pointer. -/
def Chain (h : Heap δ) : Option Nat → List (Nat × δ) → Prop
  | p, [] => p = none
  | p, (a, d) :: cells => p = some a ∧ ∃ next, h a = some ⟨next, d⟩ ∧ Chain h next cells

@[simp] theorem chain_nil : h.Chain p [] ↔ p = none := Iff.rfl

theorem Chain.eq_nil (hc : h.Chain none cells) : cells = [] := by
  rcases cells with _ | ⟨⟨a, d⟩, rest⟩
  · rfl
  · exact nomatch hc.1

theorem Chain.head_ne_none (hc : h.Chain p cells) (hne : cells ≠ []) : p ≠ none := by
  rintro rfl
  exact hne hc.eq_nil

/-- The heap and the first pointer determine a chain. -/
theorem Chain.unique {cells' : List (Nat × δ)} (hc : h.Chain p cells) (hc' : h.Chain p cells') :
    cells = cells' := by
  induction cells generalizing p cells' with
  | nil =>
      rw [chain_nil] at hc
      exact (hc ▸ hc').eq_nil.symm
  | cons cell rest ih =>
      obtain ⟨a, d⟩ := cell
      obtain ⟨rfl, next, hnode, hrest⟩ := hc
      rcases cells' with _ | ⟨⟨b, d'⟩, rest'⟩
      · exact nomatch hc'
      · obtain ⟨hab, next', hnode', hrest'⟩ := hc'
        cases hab
        rw [hnode] at hnode'
        cases hnode'
        rw [ih hrest hrest']

/-- A chain goes on from each of its nodes. -/
theorem Chain.of_append (hc : h.Chain p (front ++ back)) : ∃ q, h.Chain q back := by
  induction front generalizing p with
  | nil => exact ⟨p, hc⟩
  | cons cell rest ih =>
      obtain ⟨-, next, -, hrest⟩ := hc
      exact ih hrest

theorem Chain.allocated (hc : h.Chain p cells) (hmem : a ∈ addrs cells) : ∃ n, h a = some n := by
  obtain ⟨⟨a, d⟩, hcell, rfl⟩ := List.mem_map.mp hmem
  obtain ⟨front, back, rfl⟩ := List.append_of_mem hcell
  obtain ⟨q, -, next, hnode, -⟩ := hc.of_append
  exact ⟨_, hnode⟩

/-- No address is visited twice: from its second visit on the chain would be as long as from its
first. -/
theorem Chain.nodup (hc : h.Chain p cells) : (addrs cells).Nodup := by
  induction cells generalizing p with
  | nil => exact List.nodup_nil
  | cons cell rest ih =>
      obtain ⟨a, d⟩ := cell
      have hfirst : h.Chain (some a) ((a, d) :: rest) := hc.1 ▸ hc
      obtain ⟨-, next, -, hrest⟩ := hc
      refine List.nodup_cons.mpr ⟨fun hmem => ?_, ih hrest⟩
      obtain ⟨⟨b, d'⟩, hcell, rfl⟩ := List.mem_map.mp hmem
      obtain ⟨front, back, rfl⟩ := List.append_of_mem hcell
      obtain ⟨q, hagain⟩ := hrest.of_append
      have hlen := congrArg List.length (hfirst.unique (hagain.1 ▸ hagain))
      simp only [List.length_cons, List.length_append] at hlen
      omega

/-- A chain depends on its own nodes only. -/
theorem Chain.congr {h' : Heap δ} (hc : h.Chain p cells)
    (hsame : ∀ a ∈ addrs cells, h' a = h a) : h'.Chain p cells := by
  induction cells generalizing p with
  | nil => exact hc
  | cons cell rest ih =>
      obtain ⟨b, d⟩ := cell
      obtain ⟨hp, next, hnode, hrest⟩ := hc
      refine ⟨hp, next, ?_, ih hrest fun a hmem => hsame a (List.mem_cons_of_mem _ hmem)⟩
      rw [hsame b (List.mem_cons_self ..), hnode]

/-- A change elsewhere. -/
theorem Chain.set_of_notMem (hc : h.Chain p cells) (hnot : a ∉ addrs cells)
    (n : Option (Node δ)) : (h.set a n).Chain p cells :=
  hc.congr fun b hmem => set_other (fun heq : b = a => hnot (heq ▸ hmem)) n

/-- The last node is made to point at another chain. -/
theorem Chain.link (hc : h.Chain p (front ++ [(t, d)])) (hback : h.Chain q back)
    (hnot : t ∉ addrs back) :
    (h.set t (some ⟨q, d⟩)).Chain p (front ++ (t, d) :: back) := by
  have hnodup : t ∉ addrs front := by
    have := hc.nodup
    rw [addrs_append] at this
    exact fun hmem => (List.nodup_append.mp this).2.2 t hmem t (by simp) rfl
  induction front generalizing p with
  | nil => exact ⟨hc.1, q, set_same _, hback.set_of_notMem hnot _⟩
  | cons cell rest ih =>
      obtain ⟨b, e⟩ := cell
      obtain ⟨hp, next, hnode, hrest⟩ := hc
      have hbt : b ≠ t := fun heq => hnodup (heq ▸ List.mem_cons_self ..)
      refine ⟨hp, next, ?_, ih hrest fun hmem => hnodup (List.mem_cons_of_mem _ hmem)⟩
      rw [set_other hbt, hnode]

/-- The datum of the last node. -/
theorem Chain.last (hc : h.Chain p (front ++ [(t, d)])) : h t = some ⟨none, d⟩ := by
  obtain ⟨q, -, next, hnode, hnil⟩ := hc.of_append
  rw [hnode, chain_nil.mp hnil]

end Heap

end Smi240Hal.Lib
