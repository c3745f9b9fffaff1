/-
# Smi240Hal.Legacy.BoschSimpleListHeap — the lists as chains of nodes in the heap

`boschsimple_list.cpp` down to its pointers: the nodes come from `malloc`, a list knows its first
and its last node and counts them in a `uint32_t`, and `tail` is left as it is when a list empties.
Any number of lists share the heap.  An operation is `none` when it dereferences NULL or a node that
has been freed; the loops get `list_len` as fuel, and are `none` when it does not suffice.

The log says what has become of the data pointers; `uplimit` is the bound of each list, which no
operation here changes.
-/
import Smi240Hal.Lib.NodeChain
import Smi240Hal.Lib.BoundedFifo
import Smi240Hal.Lib.Machine
import Mathlib.Algebra.Order.Ring.Nat

namespace Smi240Hal.Legacy

open Smi240Hal.Lib

/-! ## The code -/

/-- `class BoschSimpleList`. -/
structure ListHeader where
  head : Option Nat
  tail : Option Nat
  listLen : Nat

/-- All the lists, on one heap. -/
structure ListStore (ι δ : Type*) where
  heap : Heap δ
  lists : ι → ListHeader
  log : FifoLog δ

namespace ListStore

variable {ι δ : Type*} [DecidableEq ι]

/-- Every list empty, no node allocated. -/
def init : ListStore ι δ where
  heap _ := none
  lists _ := ⟨none, none, 0⟩
  log := ⟨[], [], [], []⟩

/-- The header of one list is replaced; the heap stays. -/
def setList (s : ListStore ι δ) (i : ι) (l : ListHeader) : ListStore ι δ :=
  { s with lists := fun j => if j = i then l else s.lists j }

/-- `free` of a data pointer, which does nothing to NULL. -/
def freeData (s : ListStore ι δ) (pdata : Option δ) : ListStore ι δ :=
  { s with log := { s.log with freed := s.log.freed ++ pdata.toList } }

/-- `list_get_headdata`: what `*ppdata` becomes. -/
def listGetHeaddata (s : ListStore ι δ) (i : ι) : Option (Option δ × ListStore ι δ) :=
  let l := s.lists i
  if l.listLen = 0 then some (none, s)
  else
    l.head.bind fun cur => (s.heap cur).map fun node =>
      (some node.pData,
        { s.setList i { l with head := node.next, listLen := l.listLen - 1 } with
          heap := s.heap.set cur none })

/-- `while (list_len > bound)`: take the head, and free its data. -/
def freeWhileOver (i : ι) (bound : Nat) : Nat → ListStore ι δ → Option (ListStore ι δ)
  | 0, s => if bound < (s.lists i).listLen then none else some s
  | fuel + 1, s =>
      if bound < (s.lists i).listLen then
        (s.listGetHeaddata i).bind fun r => freeWhileOver i bound fuel (r.2.freeData r.1)
      else some s

/-- A chain of `len` nodes from `first` to `last` is linked behind the last node.  `tail` is used
only when `head` says that there is one. -/
def linkRear (s : ListStore ι δ) (i : ι) (first last : Option Nat) (len : Nat) :
    Option (ListStore ι δ) :=
  let l := s.lists i
  let listLen := (l.listLen + len) % 2 ^ 32
  if l.head = none then some (s.setList i ⟨first, last, listLen⟩)
  else
    l.tail.bind fun t => (s.heap t).map fun node =>
      { s.setList i ⟨l.head, last, listLen⟩ with
        heap := s.heap.set t (some { node with next := first }) }

/-- `list_add_rear`, given what `malloc` returns.  The node is filled when there is room; nothing
looks at it before. -/
def listAddRear (uplimit : ι → Nat) (s : ListStore ι δ) (i : ι) (pdata : δ) :
    Option Nat → Option (Int × ListStore ι δ)
  | none => some (-1, s)
  | some nod =>
      let room :=
        if (s.lists i).listLen = uplimit i then
          (s.listGetHeaddata i).map fun r => (-2, r.2.freeData r.1)
        else some (0, s)
      room.bind fun (ret, s) =>
        let s := { s with heap := s.heap.set nod (some ⟨none, pdata⟩) }
        (s.linkRear i (some nod) (some nod) 1).map fun s => (ret, s)

/-- `list_mount_rear`. -/
def listMountRear (uplimit : ι → Nat) (s : ListStore ι δ) (i : ι) :
    Option ι → Option (Int × ListStore ι δ)
  | none => some (0, s)
  | some listForMnt =>
      let l := s.lists listForMnt
      if l.listLen = 0 then some (0, s)
      else
        (s.linkRear i l.head l.tail l.listLen).bind fun s =>
          let s := s.setList listForMnt ⟨none, none, 0⟩
          let listLen := (s.lists i).listLen
          (s.freeWhileOver i (uplimit i) listLen).map fun t =>
            (if uplimit i < listLen then -1 else 0, t)

/-- `list_clean`. -/
def listClean (s : ListStore ι δ) (i : ι) : Option (Int × ListStore ι δ) :=
  (s.freeWhileOver i 0 (s.lists i).listLen).map fun t => (0, t)

end ListStore

/-- The calls.  `nod` is what `malloc` returns. -/
inductive ListCall (ι δ : Type*)
  | addRear (i : ι) (pdata : δ) (nod : Option Nat)
  | getHeaddata (i : ι)
  | mountRear (i listForMnt : ι)
  | clean (i : ι)

namespace ListStore

variable {ι δ : Type*} [DecidableEq ι] (uplimit : ι → Nat)

/-- `malloc` returns memory that is not in use, and a list is mounted on a different one. -/
def Enabled (s : ListStore ι δ) : ListCall ι δ → Prop
  | .addRear _ _ (some nod) => (s.heap nod).isNone = true
  | .mountRear i listForMnt => i ≠ listForMnt
  | _ => True

instance (s : ListStore ι δ) : ∀ c, Decidable (s.Enabled c)
  | .addRear _ _ (some nod) => inferInstanceAs (Decidable ((s.heap nod).isNone = true))
  | .addRear _ _ none => inferInstanceAs (Decidable True)
  | .getHeaddata _ => inferInstanceAs (Decidable True)
  | .mountRear i listForMnt => inferInstanceAs (Decidable (i ≠ listForMnt))
  | .clean _ => inferInstanceAs (Decidable True)

/-- A call, with what the caller hands over and gets back. -/
def exec (s : ListStore ι δ) : ListCall ι δ → Option (ListStore ι δ)
  | .addRear i pdata nod =>
      (s.listAddRear uplimit i pdata nod).map fun r =>
        let log := { r.2.log with handed := r.2.log.handed ++ [pdata] }
        { r.2 with log :=
          if r.1 = -1 then { log with refused := log.refused ++ [pdata] } else log }
  | .getHeaddata i =>
      (s.listGetHeaddata i).map fun r =>
        { r.2 with log := { r.2.log with returned := r.2.log.returned ++ r.1.toList } }
  | .mountRear i listForMnt =>
      (s.listMountRear uplimit i (some listForMnt)).map Prod.snd
  | .clean i => (s.listClean i).map Prod.snd

end ListStore

/-- The lists under any sequence of calls; `none` is where a call has gone wrong. -/
def simpleLists {ι δ : Type*} [DecidableEq ι] (uplimit : ι → Nat) :
    Machine (Option (ListStore ι δ)) (ListCall ι δ) where
  Start x := x = some .init
  step x c := x.bind fun s => if s.Enabled c then some (s.exec uplimit c) else none

/-- The call on the queues. -/
def ListCall.toFifo {ι δ : Type*} : ListCall ι δ → FifoOp ι δ
  | .addRear i pdata nod => .push i pdata nod.isSome
  | .getHeaddata i => .pop i
  | .mountRear i listForMnt => .append i listForMnt
  | .clean i => .clear i

/-- Together two lists that are joined have fewer nodes than `list_len` can count. -/
def NoWrap {ι δ : Type*} (s : ListStore ι δ) : ListCall ι δ → Prop
  | .mountRear i listForMnt => (s.lists i).listLen + (s.lists listForMnt).listLen < 2 ^ 32
  | _ => True

/-! ## The layout -/

/-- The nodes of one list change. -/
def setCells {ι δ : Type*} [DecidableEq ι] (cells : ι → List (Nat × δ)) (i : ι)
    (c : List (Nat × δ)) : ι → List (Nat × δ) :=
  fun j => if j = i then c else cells j

theorem setCells_same {ι δ : Type*} [DecidableEq ι] (cells : ι → List (Nat × δ)) (i : ι)
    (c : List (Nat × δ)) : setCells cells i c i = c := if_pos rfl

theorem setCells_setCells {ι δ : Type*} [DecidableEq ι] (cells : ι → List (Nat × δ)) (i : ι)
    (c c' : List (Nat × δ)) : setCells (setCells cells i c) i c' = setCells cells i c' := by
  funext j
  simp only [setCells]
  split <;> rfl

theorem setCells_self {ι δ : Type*} [DecidableEq ι] (cells : ι → List (Nat × δ)) (i : ι) :
    setCells cells i (cells i) = cells := by
  funext j
  simp only [setCells]
  split
  · next h => rw [h]
  · rfl

/-- The lists lie in the heap as the chains `cells`, share no node, and count no more nodes than they
have. -/
structure Linked {ι δ : Type*} (s : ListStore ι δ) (cells : ι → List (Nat × δ)) : Prop where
  chain : ∀ i, s.heap.Chain (s.lists i).head (cells i)
  counted : ∀ i, (s.lists i).listLen ≤ (cells i).length
  tail : ∀ i, cells i ≠ [] → (s.lists i).tail = (cells i).getLast?.map Prod.fst
  apart : ∀ i j, i ≠ j → ∀ a ∈ addrs (cells i), a ∉ addrs (cells j)

/-- The lists lie in the heap as the chains `cells`, which hold the queues of `f`, and share no
node. -/
structure Layout {ι δ : Type*} (s : ListStore ι δ) (f : Fifos ι δ) (cells : ι → List (Nat × δ)) :
    Prop where
  chain : ∀ i, s.heap.Chain (s.lists i).head (cells i)
  data : ∀ i, (cells i).map Prod.snd = f.queue i
  len : ∀ i, (s.lists i).listLen = (cells i).length
  tail : ∀ i, cells i ≠ [] → (s.lists i).tail = (cells i).getLast?.map Prod.fst
  apart : ∀ i j, i ≠ j → ∀ a ∈ addrs (cells i), a ∉ addrs (cells j)
  log : s.log = f.log

/-- Every node in the heap is on one of the chains. -/
def NoLeak {ι δ : Type*} (s : ListStore ι δ) (cells : ι → List (Nat × δ)) : Prop :=
  ∀ a, s.heap a ≠ none → ∃ i, a ∈ addrs (cells i)

namespace Linked

variable {ι δ : Type*} {s : ListStore ι δ} {cells : ι → List (Nat × δ)} {i : ι} {a : Nat} {d : δ}
  {rest : List (Nat × δ)}

/-- A new node is on no chain. -/
theorem notMem_of_free (hl : Linked s cells) {nod : Nat} (hfree : s.heap nod = none) (i : ι) :
    nod ∉ addrs (cells i) := by
  intro hmem
  obtain ⟨m, hm⟩ := (hl.chain i).allocated hmem
  rw [hfree] at hm
  exact absurd hm (by simp)

theorem alloc (hl : Linked s cells) {nod : Nat} (hfree : s.heap nod = none) (n : Option (Node δ)) :
    Linked { s with heap := s.heap.set nod n } cells :=
  ⟨fun i => (hl.chain i).set_of_notMem (hl.notMem_of_free hfree i) n, hl.counted, hl.tail, hl.apart⟩

/-- A list that counts a node has one. -/
theorem cells_cons (hl : Linked s cells) (h0 : (s.lists i).listLen ≠ 0) :
    ∃ a d rest, cells i = (a, d) :: rest := by
  rcases hc : cells i with _ | ⟨⟨a, d⟩, rest⟩
  · have := hl.counted i
    rw [hc, List.length_nil] at this
    omega
  · exact ⟨a, d, rest, rfl⟩

variable [DecidableEq ι]

/-- One list changes, and no node of the others. -/
theorem update (hl : Linked s cells) {h : Heap δ} {l : ListHeader} {c : List (Nat × δ)}
    (hchain : h.Chain l.head c) (hcount : l.listLen ≤ c.length)
    (htail : c ≠ [] → l.tail = c.getLast?.map Prod.fst)
    (hother : ∀ j, j ≠ i → ∀ b ∈ addrs (cells j), h b = s.heap b ∧ b ∉ addrs c) :
    Linked { s.setList i l with heap := h } (setCells cells i c) := by
  refine ⟨fun j => ?_, fun j => ?_, fun j => ?_, fun j k hjk b hb => ?_⟩
  all_goals simp only [ListStore.setList, setCells] at *
  · split
    · exact hchain
    · next hj => exact (hl.chain j).congr fun b hb => (hother j hj b hb).1
  · split
    · exact hcount
    · exact hl.counted j
  · split
    · exact htail
    · exact hl.tail j
  · split at hb
    · next hj =>
      rw [if_neg (hj ▸ Ne.symm hjk)]
      exact fun hk => (hother k (hj ▸ Ne.symm hjk) b hk).2 hb
    · next hj =>
      split
      · exact (hother j hj b hb).2
      · exact hl.apart j k hjk b hb

/-- Taking the head of a list that counts one: the rest of the chain stays, with its `tail`, and so
do the other lists. -/
theorem listGetHeaddata (hl : Linked s cells) (hc : cells i = (a, d) :: rest)
    (h0 : (s.lists i).listLen ≠ 0) :
    ∃ next, s.listGetHeaddata i = some (some d,
        { s.setList i { s.lists i with head := next, listLen := (s.lists i).listLen - 1 } with
          heap := s.heap.set a none }) ∧
      (s.heap.set a none).Chain next rest ∧
      (rest ≠ [] → (s.lists i).tail = rest.getLast?.map Prod.fst) ∧
      ∀ j, j ≠ i → ∀ b ∈ addrs (cells j), s.heap.set a none b = s.heap b ∧ b ∉ addrs rest := by
  have hchain := hl.chain i
  rw [hc] at hchain
  have hnodup : a ∉ addrs rest := (List.nodup_cons.mp hchain.nodup).1
  obtain ⟨hhead, next, hnode, hrest⟩ := hchain
  have hfirst : a ∈ addrs (cells i) := by rw [hc]; exact List.mem_cons_self ..
  refine ⟨next, ?_, hrest.set_of_notMem hnodup _, fun hne => ?_, fun j hj b hb => ⟨?_, ?_⟩⟩
  · unfold ListStore.listGetHeaddata
    rw [if_neg h0, hhead, Option.bind_some, hnode, Option.map_some]
  · have htail := hl.tail i (by rw [hc]; exact List.cons_ne_nil _ _)
    rw [hc, List.getLast?_cons_of_ne_nil hne] at htail
    exact htail
  · exact Heap.set_other (fun heq : b = a => hl.apart i j (Ne.symm hj) a hfirst (heq ▸ hb)) _
  · intro hmem
    have hb' : b ∈ addrs (cells i) := by rw [hc]; exact List.mem_cons_of_mem _ hmem
    exact hl.apart i j (Ne.symm hj) b hb' hb

/-- A chain that shares no node with a list is linked behind it. -/
theorem linkRear (hl : Linked s cells) (first last : Option Nat) {back : List (Nat × δ)}
    (len : Nat) (hback : s.heap.Chain first back) (hapart : ∀ b ∈ addrs (cells i), b ∉ addrs back) :
    ∃ l h, s.linkRear i first last len = some { s.setList i l with heap := h } ∧
      l.listLen = ((s.lists i).listLen + len) % 2 ^ 32 ∧ l.tail = last ∧
      h.Chain l.head (cells i ++ back) ∧ (∀ b, b ∉ addrs (cells i) → h b = s.heap b) ∧
      ∀ b, h b ≠ none → s.heap b ≠ none := by
  rcases List.eq_nil_or_concat (cells i) with hnil | ⟨front, ⟨t, d⟩, hc⟩
  · have hhead : (s.lists i).head = none := Heap.chain_nil.mp (hnil ▸ hl.chain i)
    refine ⟨⟨first, last, ((s.lists i).listLen + len) % 2 ^ 32⟩, s.heap, if_pos hhead, rfl, rfl, ?_,
      fun _ _ => rfl, fun _ => id⟩
    rw [hnil]
    exact hback
  · -- the last node, which `tail` points at
    rw [List.concat_eq_append] at hc
    have hchain := hl.chain i
    rw [hc] at hchain
    have hne : cells i ≠ [] := by rw [hc]; simp
    have hhead : (s.lists i).head ≠ none := (hl.chain i).head_ne_none hne
    have htail : (s.lists i).tail = some t := by
      rw [hl.tail i hne, hc, List.getLast?_concat, Option.map_some]
    have hmem : t ∈ addrs (cells i) := by rw [hc]; simp
    refine ⟨⟨(s.lists i).head, last, ((s.lists i).listLen + len) % 2 ^ 32⟩,
      s.heap.set t (some ⟨first, d⟩), ?_, rfl, rfl, ?_, fun b hb => ?_,
      fun b hb => Heap.allocated_of_set hchain.last hb⟩
    · unfold ListStore.linkRear
      rw [if_neg hhead, htail, Option.bind_some, hchain.last, Option.map_some]
    · rw [hc, List.append_assoc]
      exact hchain.link hback (hapart t hmem)
    · exact Heap.set_other (fun heq : b = t => hb (heq ▸ hmem)) _

/-- A new node is linked behind the last one. -/
theorem linkNode (hl : Linked s cells) {nod : Nat} (hfree : s.heap nod = none) (x : δ) :
    ∃ l h, ListStore.linkRear { s with heap := s.heap.set nod (some ⟨none, x⟩) } i
        (some nod) (some nod) 1 = some { s.setList i l with heap := h } ∧
      l.listLen = ((s.lists i).listLen + 1) % 2 ^ 32 ∧
      Linked { s.setList i l with heap := h } (setCells cells i (cells i ++ [(nod, x)])) ∧
      ∀ b, h b ≠ none → s.heap.set nod (some ⟨none, x⟩) b ≠ none := by
  have hnew := hl.notMem_of_free hfree
  have hl' := hl.alloc hfree (some ⟨none, x⟩)
  have hback : (s.heap.set nod (some ⟨none, x⟩)).Chain (some nod) [(nod, x)] :=
    ⟨rfl, none, Heap.set_same _, rfl⟩
  obtain ⟨l, h, hlink, hcount, htail, hchain, hframe, hnone⟩ :=
    hl'.linkRear (i := i) (some nod) (some nod) 1 hback (by
      intro b hb hmem
      rw [show b = nod by simpa using hmem] at hb
      exact hnew i hb)
  refine ⟨l, h, hlink, hcount, ?_, hnone⟩
  refine hl'.update (i := i) hchain ?_ (fun _ => by rw [htail, List.getLast?_concat]; rfl)
    (fun j hj b hb => ⟨hframe b (hl.apart j i hj b hb), fun hmem => ?_⟩)
  · rw [hcount, List.length_append]
    exact (Nat.mod_le ..).trans (Nat.add_le_add_right (hl.counted i) 1)
  · rw [addrs_append] at hmem
    rcases List.mem_append.mp hmem with hmem | hmem
    · exact hl.apart j i hj b hb hmem
    · rw [show b = nod by simpa using hmem] at hb
      exact hnew j hb

/-- The chain of one list moves behind another list. -/
theorem mount {j : ι} (hl : Linked s cells) (hne : i ≠ j) (hcj : cells j ≠ []) :
    ∃ l h, s.linkRear i (s.lists j).head (s.lists j).tail (s.lists j).listLen =
        some { s.setList i l with heap := h } ∧
      l.listLen = ((s.lists i).listLen + (s.lists j).listLen) % 2 ^ 32 ∧
      Linked (ListStore.setList { s.setList i l with heap := h } j ⟨none, none, 0⟩)
        (setCells (setCells cells j []) i (cells i ++ cells j)) ∧
      ∀ b, h b ≠ none → s.heap b ≠ none := by
  obtain ⟨l, h, hlink, hcount, htail, hchain, hframe, hnone⟩ :=
    hl.linkRear (i := i) (s.lists j).head (s.lists j).tail (s.lists j).listLen (hl.chain j)
      (hl.apart i j hne)
  have hempty := hl.update (i := j) (h := s.heap) (l := ⟨none, none, 0⟩) (c := []) rfl
    (Nat.le_refl 0) (fun h => absurd rfl h) (fun _ _ _ _ => ⟨rfl, List.not_mem_nil⟩)
  refine ⟨l, h, hlink, hcount, ?_, hnone⟩
  -- the two lists are set in the other order
  have hcomm : ListStore.setList { s.setList i l with heap := h } j ⟨none, none, 0⟩ =
      { (s.setList j ⟨none, none, 0⟩).setList i l with heap := h } := by
    simp only [ListStore.setList, ListStore.mk.injEq, true_and, and_true]
    funext k
    by_cases hki : k = i
    · subst hki
      rw [if_neg hne, if_pos rfl, if_pos rfl]
    · rw [if_neg hki, if_neg hki]
  rw [hcomm]
  refine hempty.update (i := i) hchain ?_
    (fun _ => by rw [htail, hl.tail j hcj, List.getLast?_append_of_ne_nil _ hcj])
    (fun k hk b hb => ?_)
  · rw [hcount, List.length_append]
    exact (Nat.mod_le ..).trans (Nat.add_le_add (hl.counted i) (hl.counted j))
  · by_cases hkj : k = j
    · rw [hkj, setCells_same] at hb
      exact absurd hb List.not_mem_nil
    · simp only [setCells, if_neg hkj] at hb
      refine ⟨hframe b (hl.apart k i hk b hb), fun hmem => ?_⟩
      rw [addrs_append] at hmem
      rcases List.mem_append.mp hmem with hmem | hmem
      · exact hl.apart k i hk b hb hmem
      · exact hl.apart k j hkj b hb hmem

end Linked

namespace Layout

section Facts

variable {ι δ : Type*} {s : ListStore ι δ} {f : Fifos ι δ} {cells : ι → List (Nat × δ)} {i : ι}

theorem init : Layout (.init : ListStore ι δ) .init fun _ => [] where
  chain _ := rfl
  data _ := rfl
  len _ := rfl
  tail _ h := absurd rfl h
  apart _ _ _ _ h := nomatch h
  log := rfl

theorem linked (hl : Layout s f cells) : Linked s cells :=
  ⟨hl.chain, fun i => (hl.len i).le, hl.tail, hl.apart⟩

theorem length_queue (hl : Layout s f cells) (i : ι) : (f.queue i).length = (cells i).length := by
  rw [← hl.data, List.length_map]

theorem head_eq_none_iff (hl : Layout s f cells) (i : ι) :
    (s.lists i).head = none ↔ (s.lists i).listLen = 0 := by
  rw [hl.len, List.length_eq_zero_iff]
  constructor
  · intro hnull
    exact (hnull ▸ hl.chain i).eq_nil
  · intro hnil
    exact Heap.chain_nil.mp (hnil ▸ hl.chain i)

/-- The log may be anything. -/
theorem withLog (hl : Layout s f cells) (log : FifoLog δ) :
    Layout { s with log := log } { f with log := log } cells where
  chain := hl.chain
  data := hl.data
  len := hl.len
  tail := hl.tail
  apart := hl.apart
  log := rfl

end Facts

variable {ι δ : Type*} [DecidableEq ι] {uplimit : ι → Nat} {s : ListStore ι δ} {f : Fifos ι δ}
  {cells : ι → List (Nat × δ)} {i j : ι} {a : Nat} {d : δ} {rest : List (Nat × δ)}

/-- One list changes, and counts its nodes. -/
theorem of_linked (hl : Layout s f cells) {h : Heap δ} {l : ListHeader} {c : List (Nat × δ)}
    (hlinked : Linked { s.setList i l with heap := h } (setCells cells i c))
    (hlen : l.listLen = c.length) :
    Layout { s.setList i l with heap := h } (f.setQueue i (c.map Prod.snd))
      (setCells cells i c) := by
  refine ⟨hlinked.chain, fun j => ?_, fun j => ?_, hlinked.tail, hlinked.apart, hl.log⟩
  all_goals simp only [ListStore.setList, Fifos.setQueue_queue, setCells]
  · split
    · rfl
    · exact hl.data j
  · split
    · exact hlen
    · exact hl.len j

/-- Taking the head of a list that has one. -/
theorem listGetHeaddata (hl : Layout s f cells) (hc : cells i = (a, d) :: rest) :
    ∃ t, s.listGetHeaddata i = some (some d, t) ∧
      Layout t (f.setQueue i (rest.map Prod.snd)) (setCells cells i rest) ∧
      t.heap = s.heap.set a none := by
  have hlen : (s.lists i).listLen = rest.length + 1 := by rw [hl.len, hc, List.length_cons]
  obtain ⟨next, hget, hchain, htail, hother⟩ := hl.linked.listGetHeaddata hc (by omega)
  have hcount : (s.lists i).listLen - 1 = rest.length := by omega
  exact ⟨_, hget, hl.of_linked (hl.linked.update hchain hcount.le htail hother) hcount, rfl⟩

/-- Taking the head of an empty list. -/
theorem listGetHeaddata_nil (hl : Layout s f cells) (hc : cells i = []) :
    s.listGetHeaddata i = some (none, s) := by
  unfold ListStore.listGetHeaddata
  rw [if_pos (by rw [hl.len, hc]; rfl)]

/-- The node taken from the head is freed, and no other. -/
theorem noLeak_get (hn : NoLeak s cells) (hc : cells i = (a, d) :: rest) {t : ListStore ι δ}
    (ht : t.heap = s.heap.set a none) : NoLeak t (setCells cells i rest) := by
  intro b hb
  rw [ht] at hb
  have hba : b ≠ a := by
    rintro rfl
    exact hb (Heap.set_same none)
  rw [Heap.set_other hba] at hb
  obtain ⟨j, hj⟩ := hn b hb
  by_cases hji : j = i
  · subst hji
    rw [hc] at hj
    refine ⟨j, ?_⟩
    rw [setCells_same]
    exact (List.mem_cons.mp hj).resolve_left hba
  · refine ⟨j, ?_⟩
    simp only [setCells, if_neg hji]
    exact hj

/-- A list within the bound is left as it is. -/
theorem freeWhileOver_done (hl : Layout s f cells) {bound : Nat}
    (hover : ¬ bound < (s.lists i).listLen) :
    f.fill (fun _ => bound) i (f.queue i) = f ∧
      setCells cells i (keepLast bound (cells i)) = cells := by
  have hlen : (cells i).length ≤ bound := by
    rw [← hl.len]
    exact Nat.not_lt.mp hover
  constructor
  · rw [Fifos.fill_of_length_le (by rw [hl.length_queue]; exact hlen), Fifos.setQueue_self]
  · rw [keepLast_of_length_le hlen, setCells_self]

/-- The loop drops what is over the bound, and ends. -/
theorem freeWhileOver (hl : Layout s f cells) (bound : Nat) {fuel : Nat}
    (hfuel : (cells i).length ≤ fuel) :
    ∃ t, s.freeWhileOver i bound fuel = some t ∧
      Layout t (f.fill (fun _ => bound) i (f.queue i))
        (setCells cells i (keepLast bound (cells i))) ∧
      (NoLeak s cells → NoLeak t (setCells cells i (keepLast bound (cells i)))) := by
  induction fuel generalizing s f cells with
  | zero =>
      have hover : ¬ bound < (s.lists i).listLen := by
        rw [hl.len]
        omega
      obtain ⟨hf, hc⟩ := hl.freeWhileOver_done hover
      rw [hf, hc]
      exact ⟨s, if_neg hover, hl, id⟩
  | succ fuel ih =>
      by_cases hover : bound < (s.lists i).listLen
      · -- the head is dropped, and the rest of the loop is about one node less
        obtain ⟨⟨a, d⟩, rest, hc⟩ : ∃ cell rest, cells i = cell :: rest := by
          rcases hcells : cells i with _ | ⟨cell, rest⟩
          · rw [hl.len, hcells] at hover
            exact absurd hover (Nat.not_lt_zero _)
          · exact ⟨cell, rest, rfl⟩
        have hqueue : f.queue i = d :: rest.map Prod.snd := by rw [← hl.data, hc, List.map_cons]
        have hrest : bound ≤ rest.length := by
          rw [hl.len, hc, List.length_cons] at hover
          omega
        obtain ⟨t, hget, hlt, hheap⟩ := hl.listGetHeaddata hc
        have hlt' := hlt.withLog { t.log with freed := t.log.freed ++ [d] }
        rw [hlt.log, Fifos.setQueue_log] at hlt'
        have hlen : (setCells cells i rest i).length ≤ fuel := by
          rw [setCells_same]
          rw [hc, List.length_cons] at hfuel
          omega
        obtain ⟨u, hu, hlu, hnu⟩ := ih hlt' hlen
        have hstep : s.freeWhileOver i bound (fuel + 1) = some u := by
          simp only [ListStore.freeWhileOver, if_pos hover, hget, Option.bind_some]
          rw [ListStore.freeData, Option.toList_some, hlt.log, Fifos.setQueue_log]
          exact hu
        have hcells : setCells (setCells cells i rest) i
            (keepLast bound (setCells cells i rest i)) =
              setCells cells i (keepLast bound (cells i)) := by
          rw [setCells_same, setCells_setCells, hc, keepLast_cons hrest]
        rw [hcells] at hlu hnu
        refine ⟨u, hstep, ?_, fun hn => hnu (noLeak_get hn hc hheap)⟩
        have hfill : Fifos.fill { f.setQueue i (rest.map Prod.snd) with
            log := { f.log with freed := f.log.freed ++ [d] } } (fun _ => bound) i
              (rest.map Prod.snd) = f.fill (fun _ => bound) i (d :: rest.map Prod.snd) :=
          Fifos.fill_cons (by rw [List.length_map]; exact hrest)
        rw [hqueue, ← hfill]
        have hself : ∀ (g : Fifos ι δ) (q : List δ), (g.setQueue i q).queue i = q :=
          fun g q => if_pos rfl
        rwa [show ({ f.setQueue i (rest.map Prod.snd) with
          log := { f.log with freed := f.log.freed ++ [d] } } : Fifos ι δ).queue i =
            rest.map Prod.snd from hself f _] at hlu
      · obtain ⟨hf, hc⟩ := hl.freeWhileOver_done hover
        rw [hf, hc]
        exact ⟨s, if_neg hover, hl, id⟩

/-- A new node is linked behind the last one. -/
theorem linkNode (hl : Layout s f cells) {nod : Nat} (hfree : s.heap nod = none)
    (hlen : (cells i).length + 1 < 2 ^ 32) (x : δ) :
    ∃ t, ListStore.linkRear { s with heap := s.heap.set nod (some ⟨none, x⟩) } i
        (some nod) (some nod) 1 = some t ∧
      Layout t (f.setQueue i (f.queue i ++ [x])) (setCells cells i (cells i ++ [(nod, x)])) ∧
      (NoLeak s cells → NoLeak t (setCells cells i (cells i ++ [(nod, x)]))) := by
  obtain ⟨l, h, hlink, hcount, hlinked, hnone⟩ := hl.linked.linkNode (i := i) hfree x
  refine ⟨_, hlink, ?_, fun hn b hb => ?_⟩
  · have hupdate := hl.of_linked hlinked
      (by rw [hcount, hl.len, Nat.mod_eq_of_lt hlen, List.length_append]; rfl)
    rw [List.map_append, hl.data] at hupdate
    exact hupdate
  · have hb' : s.heap.set nod (some ⟨none, x⟩) b ≠ none := hnone b hb
    by_cases hbn : b = nod
    · refine ⟨i, ?_⟩
      rw [setCells_same, hbn]
      simp
    · rw [Heap.set_other hbn] at hb'
      obtain ⟨j, hj⟩ := hn b hb'
      refine ⟨j, ?_⟩
      simp only [setCells]
      split
      · next hji =>
        rw [addrs_append]
        exact List.mem_append_left _ (hji ▸ hj)
      · exact hj

/-! ### One call -/

theorem exec_addRear_none (hl : Layout s f cells) (uplimit : ι → Nat) (i : ι) (x : δ) :
    ∃ t, s.exec uplimit (.addRear i x none) = some t ∧
      Layout t (f.step uplimit (.push i x false)) cells ∧ t.heap = s.heap := by
  refine ⟨_, rfl, ?_, rfl⟩
  have := hl.withLog { s.log with
    handed := s.log.handed ++ [x], refused := s.log.refused ++ [x] }
  rw [hl.log] at this
  simpa [hl.log, Fifos.step, Fifos.handIn] using this

/-- Adding to a list that has room. -/
theorem addRear_room (hl : Layout s f cells) {nod : Nat} (hfree : s.heap nod = none)
    (hlen : (cells i).length < uplimit i) (hu : uplimit i < 2 ^ 32) (x : δ) :
    ∃ t, s.listAddRear uplimit i x (some nod) = some (0, t) ∧
      Layout t (f.fill uplimit i (f.queue i ++ [x])) (setCells cells i (cells i ++ [(nod, x)])) ∧
      (NoLeak s cells → NoLeak t (setCells cells i (cells i ++ [(nod, x)]))) := by
  obtain ⟨t, ht, hlt, hnt⟩ := hl.linkNode (i := i) hfree (by omega) x
  have hroom : (s.lists i).listLen ≠ uplimit i := by
    rw [hl.len]
    exact Nat.ne_of_lt hlen
  have hfits : (f.queue i ++ [x]).length ≤ uplimit i := by
    rw [List.length_append, hl.length_queue]
    exact hlen
  refine ⟨t, ?_, Fifos.fill_of_length_le hfits ▸ hlt, hnt⟩
  simp only [ListStore.listAddRear, if_neg hroom, Option.bind_some, ht, Option.map_some]

/-- Adding to a full list. -/
theorem addRear_full (hl : Layout s f cells) {nod : Nat} (hfree : s.heap nod = none)
    (hlen : (cells i).length = uplimit i) (hpos : 0 < uplimit i) (hu : uplimit i < 2 ^ 32) (x : δ) :
    ∃ t cells', s.listAddRear uplimit i x (some nod) = some (-2, t) ∧
      Layout t (f.fill uplimit i (f.queue i ++ [x])) cells' ∧
      (NoLeak s cells → NoLeak t cells') := by
  obtain ⟨a, d, rest, hc⟩ := hl.linked.cells_cons (i := i) (by rw [hl.len]; omega)
  obtain ⟨u, hget, hlu, hheap⟩ := hl.listGetHeaddata hc
  have hlu' := hlu.withLog { u.log with freed := u.log.freed ++ [d] }
  have hfree' : u.heap nod = none := by
    rw [hheap]
    by_cases hna : nod = a
    · rw [hna, Heap.set_same]
    · rw [Heap.set_other hna, hfree]
  have hrest : rest.length + 1 = uplimit i := by rw [← hlen, hc, List.length_cons]
  obtain ⟨t, ht, hlt, hnt⟩ := hlu'.linkNode (i := i) hfree'
    (by rw [setCells_same]; omega) x
  have hroom : (s.lists i).listLen = uplimit i := by rw [hl.len, hlen]
  refine ⟨t, _, ?_, ?_, fun hn => hnt (noLeak_get hn hc hheap)⟩
  · simp only [ListStore.listAddRear, if_pos hroom, hget, Option.map_some, Option.bind_some,
      ListStore.freeData, Option.toList_some, ht]
  -- the oldest element is dropped, and the new one comes behind the rest
  have hqueue : f.queue i = d :: rest.map Prod.snd := by rw [← hl.data, hc, List.map_cons]
  have hfits : (rest.map Prod.snd ++ [x]).length = uplimit i := by
    rw [List.length_append, List.length_map]
    exact hrest
  have hfill : f.fill uplimit i (f.queue i ++ [x]) =
      { (f.setQueue i (rest.map Prod.snd)).setQueue i (rest.map Prod.snd ++ [x]) with
        log := { f.log with freed := f.log.freed ++ [d] } } := by
    rw [hqueue, List.cons_append, ← Fifos.fill_cons hfits.ge, Fifos.fill_of_length_le hfits.le]
    exact congrArg (fun g : Fifos ι δ => (⟨g.queue, _⟩ : Fifos ι δ))
      ((Fifos.setQueue_setQueue (f := f) i _ _).trans (Fifos.setQueue_setQueue i _ _).symm)
  rw [hfill]
  rw [hlu.log] at hlt
  simp only [Fifos.setQueue_queue, if_pos] at hlt
  exact hlt

/-- Adding to a list that stands within its limit. -/
theorem listAddRear (hl : Layout s f cells) {nod : Nat} (hfree : s.heap nod = none)
    (hlen : (cells i).length ≤ uplimit i) (hu : 0 < uplimit i ∧ uplimit i < 2 ^ 32) (x : δ) :
    ∃ ret t cells', s.listAddRear uplimit i x (some nod) = some (ret, t) ∧ ret ≠ -1 ∧
      Layout t (f.fill uplimit i (f.queue i ++ [x])) cells' ∧
      (NoLeak s cells → NoLeak t cells') := by
  rcases Nat.lt_or_eq_of_le hlen with hlt | heq
  · obtain ⟨t, ht, hlt, hnt⟩ := hl.addRear_room hfree hlt hu.2 x
    exact ⟨0, t, _, ht, by omega, hlt, hnt⟩
  · obtain ⟨t, cells', ht, hlt, hnt⟩ := hl.addRear_full hfree heq hu.1 hu.2 x
    exact ⟨-2, t, cells', ht, by omega, hlt, hnt⟩

/-- The caller hands over what it adds. -/
theorem exec_of_added {ret : Int} {x : δ} {nod : Option Nat} {t : ListStore ι δ}
    (hadd : s.listAddRear uplimit i x nod = some (ret, t)) (hret : ret ≠ -1)
    (hlt : Layout t (f.fill uplimit i (f.queue i ++ [x])) cells) :
    ∃ u, s.exec uplimit (.addRear i x nod) = some u ∧ u.heap = t.heap ∧
      Layout u (f.step uplimit (.push i x true)) cells := by
  refine ⟨{ t with log := { t.log with handed := t.log.handed ++ [x] } }, ?_, rfl, ?_⟩
  · simp only [ListStore.exec, hadd, Option.map_some, if_neg hret]
  · have := hlt.withLog { t.log with handed := t.log.handed ++ [x] }
    rw [hlt.log] at this ⊢
    exact this

/-- Adding to a list that has room. -/
theorem exec_addRear (hl : Layout s f cells) {nod : Nat} (hfree : s.heap nod = none)
    (hlen : (cells i).length < uplimit i) (hu : uplimit i < 2 ^ 32) (x : δ) :
    ∃ t, s.exec uplimit (.addRear i x (some nod)) = some t ∧
      Layout t (f.step uplimit (.push i x true)) (setCells cells i (cells i ++ [(nod, x)])) ∧
      (NoLeak s cells → NoLeak t (setCells cells i (cells i ++ [(nod, x)]))) := by
  obtain ⟨t, ht, hlt, hnt⟩ := hl.addRear_room hfree hlen hu x
  obtain ⟨u, hu, hheap, hlu⟩ := exec_of_added ht (by omega) hlt
  exact ⟨u, hu, hlu, fun hn a ha => hnt hn a (hheap ▸ ha)⟩

theorem exec_getHeaddata (hl : Layout s f cells) (i : ι) :
    ∃ t cells', s.exec uplimit (.getHeaddata i) = some t ∧
      Layout t (f.step uplimit (.pop i)) cells' ∧ (NoLeak s cells → NoLeak t cells') := by
  rcases hc : cells i with _ | ⟨⟨a, d⟩, rest⟩
  · have hqueue : f.queue i = [] := by rw [← hl.data, hc, List.map_nil]
    have hself : f.setQueue i [] = f := by rw [← hqueue, Fifos.setQueue_self]
    refine ⟨s, cells, ?_, ?_, id⟩
    · simp only [ListStore.exec, hl.listGetHeaddata_nil hc, Option.map_some, Option.toList_none,
        List.append_nil]
    · simpa [Fifos.step, hqueue, hself] using hl
  · obtain ⟨t, hget, hlt, hheap⟩ := hl.listGetHeaddata hc
    have hqueue : f.queue i = d :: rest.map Prod.snd := by rw [← hl.data, hc, List.map_cons]
    have hexec : s.exec uplimit (.getHeaddata i) =
        some { t with log := { t.log with returned := t.log.returned ++ [d] } } := by
      simp only [ListStore.exec, hget, Option.map_some, Option.toList_some]
    refine ⟨_, _, hexec, ?_, fun hn => noLeak_get hn hc hheap⟩
    have hfinal := hlt.withLog { t.log with returned := t.log.returned ++ [d] }
    rw [hlt.log] at hfinal
    simp only [Fifos.step, hqueue, List.tail_cons, List.head?_cons, Option.toList_some, hlt.log]
    exact hfinal

theorem exec_clean (hl : Layout s f cells) (i : ι) :
    ∃ t cells', s.exec uplimit (.clean i) = some t ∧
      Layout t (f.step uplimit (.clear i)) cells' ∧ (NoLeak s cells → NoLeak t cells') := by
  obtain ⟨t, ht, hlt, hnt⟩ := hl.freeWhileOver (i := i) 0 (hl.len i).ge
  have hclear : f.fill (fun _ => 0) i (f.queue i) = f.step uplimit (.clear i) := Fifos.fill_zero i
  refine ⟨t, _, ?_, hclear ▸ hlt, hnt⟩
  simp only [ListStore.exec, ListStore.listClean, ht, Option.map_some]

/-- The chain of one list moves behind another list. -/
theorem mount (hl : Layout s f cells) (hne : i ≠ j)
    (hlen : (cells i).length + (cells j).length < 2 ^ 32) (hcj : cells j ≠ []) :
    ∃ t, s.linkRear i (s.lists j).head (s.lists j).tail (s.lists j).listLen = some t ∧
      Layout (t.setList j ⟨none, none, 0⟩)
        ((f.setQueue j []).setQueue i (f.queue i ++ f.queue j))
        (setCells (setCells cells j []) i (cells i ++ cells j)) ∧
      (NoLeak s cells → NoLeak (t.setList j ⟨none, none, 0⟩)
        (setCells (setCells cells j []) i (cells i ++ cells j))) := by
  obtain ⟨l, h, hlink, hcount, hlinked, hnone⟩ := hl.linked.mount hne hcj
  rw [hl.len, hl.len, Nat.mod_eq_of_lt hlen, ← List.length_append] at hcount
  refine ⟨_, hlink, ⟨hlinked.chain, fun k => ?_, fun k => ?_, hlinked.tail, hlinked.apart, hl.log⟩,
    fun hn b hb => ?_⟩
  · simp only [setCells, Fifos.setQueue_queue]
    split
    · rw [List.map_append, hl.data, hl.data]
    · split
      · rfl
      · exact hl.data k
  · simp only [ListStore.setList, setCells]
    by_cases hki : k = i
    · rw [if_pos hki, if_pos hki, if_neg (hki ▸ hne), hcount]
    · rw [if_neg hki, if_neg hki]
      split
      · rfl
      · exact hl.len k
  · obtain ⟨k, hk⟩ := hn b (hnone b hb)
    by_cases hkj : k = j
    · refine ⟨i, ?_⟩
      rw [setCells_same, addrs_append]
      exact List.mem_append_right _ (hkj ▸ hk)
    · by_cases hki : k = i
      · refine ⟨i, ?_⟩
        rw [setCells_same, addrs_append]
        exact List.mem_append_left _ (hki ▸ hk)
      · refine ⟨k, ?_⟩
        simp only [setCells, if_neg hki, if_neg hkj]
        exact hk

theorem exec_mountRear (hl : Layout s f cells) (hb : f.Bounded uplimit) (hne : i ≠ j)
    (hlen : (s.lists i).listLen + (s.lists j).listLen < 2 ^ 32) :
    ∃ t cells', s.exec uplimit (.mountRear i j) = some t ∧
      Layout t (f.step uplimit (.append i j)) cells' ∧ (NoLeak s cells → NoLeak t cells') := by
  by_cases h0 : (s.lists j).listLen = 0
  · -- nothing to mount
    have hcj : cells j = [] := List.length_eq_zero_iff.mp (hl.len j ▸ h0)
    have hqueue : f.queue j = [] := by rw [← hl.data, hcj, List.map_nil]
    refine ⟨s, cells, ?_, ?_, id⟩
    · simp only [ListStore.exec, ListStore.listMountRear, if_pos h0, Option.map_some]
    · rw [Fifos.step_append_of_empty hqueue (hb i)]
      exact hl
  · have hcj : cells j ≠ [] := fun hnil => h0 (by rw [hl.len, hnil, List.length_nil])
    rw [hl.len, hl.len] at hlen
    obtain ⟨u, hlink, hlu, hnu⟩ := hl.mount hne hlen hcj
    obtain ⟨t, ht, hlt, hnt⟩ := hlu.freeWhileOver (i := i) (uplimit i) (hlu.len i).ge
    refine ⟨t, _, ?_, ?_, hnt ∘ hnu⟩
    · simp only [ListStore.exec, ListStore.listMountRear, if_neg h0, hlink, Option.bind_some, ht,
        Option.map_some]
    · have hfill : ((f.setQueue j []).setQueue i (f.queue i ++ f.queue j)).fill
          (fun _ => uplimit i) i (f.queue i ++ f.queue j) = f.step uplimit (.append i j) :=
        Fifos.fill_setQueue i _ _
      rw [← hfill]
      rwa [show ((f.setQueue j []).setQueue i (f.queue i ++ f.queue j)).queue i =
        f.queue i ++ f.queue j from if_pos rfl] at hlt

/-- What any call keeps: it goes well, and does to the queues what it is there for. -/
theorem exec (hl : Layout s f cells) (hb : f.Bounded uplimit)
    (hu : ∀ i, 0 < uplimit i ∧ uplimit i < 2 ^ 32) {c : ListCall ι δ} (hen : s.Enabled c)
    (hfit : NoWrap s c) :
    ∃ t cells', s.exec uplimit c = some t ∧ Layout t (f.step uplimit c.toFifo) cells' ∧
      (NoLeak s cells → NoLeak t cells') := by
  rcases c with ⟨i, x, _ | nod⟩ | i | ⟨i, j⟩ | i
  · obtain ⟨t, ht, hlt, hheap⟩ := hl.exec_addRear_none uplimit i x
    exact ⟨t, cells, ht, hlt, fun hn b hb => hn b (hheap ▸ hb)⟩
  · have hfree : s.heap nod = none := Option.isNone_iff_eq_none.mp hen
    obtain ⟨ret, t, cells', ht, hret, hlt, hnt⟩ :=
      hl.listAddRear hfree (hl.length_queue i ▸ hb i) (hu i) x
    obtain ⟨u, hu, hheap, hlu⟩ := exec_of_added ht hret hlt
    exact ⟨u, cells', hu, hlu, fun hn a ha => hnt hn a (hheap ▸ ha)⟩
  · exact hl.exec_getHeaddata i
  · exact hl.exec_mountRear hb hen hfit
  · exact hl.exec_clean i

end Layout

end Smi240Hal.Legacy
