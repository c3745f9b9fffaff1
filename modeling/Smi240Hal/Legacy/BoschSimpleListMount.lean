/-
# Smi240Hal.Legacy.BoschSimpleListMount — mounting a list, and moving it element by element

`list_mount_rear` links the whole chain of a list behind another one and truncates afterwards.  A
caller that takes the elements off one by one and adds each with `list_add_rear` gets the same list
and the same freed data, because a bounded queue may drop before each push or after all of them
(`keepLast_keepLast_append`).  They part where the two counters add up to more than a `uint32_t`.
-/
import Smi240Hal.Legacy.BoschSimpleListRuns

namespace Smi240Hal.Legacy

open Smi240Hal.Lib

section Definitions

variable {ι δ : Type*} [DecidableEq ι]

/-- The elements of list `j` are taken off it and added to list `i`, until `j` is empty; `nods` are
what `malloc` returns.  There is no result when these run out or are in use, and it is `none` when a
call goes wrong. -/
def moveEach (uplimit : ι → Nat) (i j : ι) :
    List Nat → ListStore ι δ → Option (Option (ListStore ι δ))
  | [], s => if (s.lists j).listLen = 0 then some (some s) else none
  | nod :: nods, s =>
      if (s.lists j).listLen = 0 then some (some s)
      else
        match s.listGetHeaddata j with
        | some (some pdata, t) =>
            if (t.heap nod).isSome then none
            else
              match t.listAddRear uplimit i pdata (some nod) with
              | some (_, u) => moveEach uplimit i j nods u
              | none => some none
        | _ => some none

omit [DecidableEq ι] in
/-- Separate chains with their `tail`s, each within its limit. -/
def ListStore.WellFormed (uplimit : ι → Nat) (s : ListStore ι δ) : Prop :=
  ∃ f cells, Layout s f cells ∧ f.Bounded uplimit

/-- The chain of a list holds the data, head first, and `list_len` is their number. -/
def ListStore.Holds (s : ListStore ι δ) (i : ι) (data : List δ) : Prop :=
  ∃ cells, s.heap.Chain (s.lists i).head cells ∧ cells.map Prod.snd = data ∧
    (s.lists i).listLen = data.length

/-- List `i` holds the newest data of both, list `j` nothing, and the older data have been freed,
oldest first. -/
structure ListStore.Moved (uplimit : ι → Nat) (s : ListStore ι δ) (i j : ι) (dst src : List δ)
    (t : ListStore ι δ) : Prop where
  rear : t.Holds i (keepLast (uplimit i) (dst ++ src))
  mounted : t.Holds j []
  freed : t.log.freed = s.log.freed ++ overflow (uplimit i) (dst ++ src)

end Definitions

section Agreement

variable {ι δ : Type*} {uplimit : ι → Nat} {s : ListStore ι δ} {f : Fifos ι δ}
  {cells : ι → List (Nat × δ)} {i j : ι}

theorem Layout.holds (hl : Layout s f cells) (i : ι) : s.Holds i (f.queue i) :=
  ⟨cells i, hl.chain i, hl.data i, by rw [hl.len, hl.length_queue]⟩

/-- The heap and the header determine the data. -/
theorem Layout.eq_of_holds (hl : Layout s f cells) {data : List δ} (h : s.Holds i data) :
    f.queue i = data := by
  obtain ⟨cells', hchain, hdata, -⟩ := h
  rw [← hl.data, (hl.chain i).unique hchain, hdata]

variable [DecidableEq ι]

theorem Layout.moved {t : ListStore ι δ} {cells' : ι → List (Nat × δ)} (hl : Layout s f cells)
    (hne : i ≠ j) (ht : Layout t (f.step uplimit (.append i j)) cells') :
    s.Moved uplimit i j (f.queue i) (f.queue j) t where
  rear := by
    have := ht.holds i
    rwa [show (f.step uplimit (.append i j)).queue i = keepLast (uplimit i)
      (f.queue i ++ f.queue j) from if_pos rfl] at this
  mounted := by
    have := ht.holds j
    rwa [show (f.step uplimit (.append i j)).queue j = [] from
      (if_neg hne.symm).trans (if_pos rfl)] at this
  freed := by
    rw [ht.log, hl.log]
    rfl

/-- Moving the elements one by one appends the queue. -/
theorem moveEach_layout (hu : ∀ i, 0 < uplimit i ∧ uplimit i < 2 ^ 32) (hne : i ≠ j)
    {nods : List Nat} {s : ListStore ι δ} {f : Fifos ι δ} {cells : ι → List (Nat × δ)}
    {x : Option (ListStore ι δ)} (hl : Layout s f cells) (hb : f.Bounded uplimit)
    (hmove : moveEach uplimit i j nods s = some x) :
    ∃ t cells', x = some t ∧ Layout t (f.step uplimit (.append i j)) cells' := by
  -- an empty list has nothing to move
  have hempty : ∀ {s : ListStore ι δ} {f : Fifos ι δ} {cells : ι → List (Nat × δ)},
      Layout s f cells → f.Bounded uplimit → (s.lists j).listLen = 0 →
        Layout s (f.step uplimit (.append i j)) cells := by
    intro s f cells hl hb h0
    have hqueue : f.queue j = [] := by
      rw [← List.length_eq_zero_iff, hl.length_queue, ← hl.len, h0]
    rwa [Fifos.step_append_of_empty hqueue (hb i)]
  induction nods generalizing s f cells with
  | nil =>
      simp only [moveEach] at hmove
      split at hmove
      case isTrue h0 =>
        cases hmove
        exact ⟨s, cells, rfl, hempty hl hb h0⟩
      case isFalse => exact absurd hmove (by simp)
  | cons nod nods ih =>
      simp only [moveEach] at hmove
      split at hmove
      case isTrue h0 =>
        cases hmove
        exact ⟨s, cells, rfl, hempty hl hb h0⟩
      case isFalse h0 =>
        obtain ⟨a, d, rest, hc⟩ := hl.linked.cells_cons h0
        obtain ⟨t, hget, hlt, -⟩ := hl.listGetHeaddata hc
        rw [hget] at hmove
        dsimp only at hmove
        split at hmove
        case isTrue => exact absurd hmove (by simp)
        case isFalse hfree =>
          have hrest : (rest.map Prod.snd).length ≤ uplimit j := by
            have := hb j
            rw [hl.length_queue, hc, List.length_cons] at this
            rw [List.length_map]
            omega
          have hbt : (f.setQueue j (rest.map Prod.snd)).Bounded uplimit := hb.setQueue hrest
          obtain ⟨ret, u, cells', hadd, -, hlu, -⟩ := hlt.listAddRear (i := i)
            (by simpa using hfree) (hlt.length_queue i ▸ hbt i) (hu i) d
          rw [hadd] at hmove
          obtain ⟨v, cells'', hx, hlv⟩ := ih hlu (hbt.fill i _) hmove
          have hqueue : f.queue j = d :: rest.map Prod.snd := by rw [← hl.data, hc, List.map_cons]
          refine ⟨v, cells'', hx, ?_⟩
          rw [Fifos.setQueue_queue, if_neg hne, Fifos.step_append_of_cons hne hqueue] at hlv
          exact hlv

/-- Two lists, well formed and within their limits, and any allocations for moving the elements of
one to the other, one by one.  That and `list_mount_rear` both succeed, leave the same data and free
the same data in the same order exactly if the two lists have together fewer than `2 ^ 32`
elements. -/
theorem listMountRear_agrees_iff (hu : ∀ i, 0 < uplimit i ∧ uplimit i < 2 ^ 32)
    (hwf : s.WellFormed uplimit) (hne : i ≠ j) {dst src : List δ} (hdst : s.Holds i dst)
    (hsrc : s.Holds j src) {nods : List Nat} {x : Option (ListStore ι δ)}
    (hmove : moveEach uplimit i j nods s = some x) :
    (∃ ret t u, s.listMountRear uplimit i (some j) = some (ret, t) ∧ x = some u ∧
      s.Moved uplimit i j dst src t ∧ s.Moved uplimit i j dst src u) ↔
      dst.length + src.length < 2 ^ 32 := by
  obtain ⟨f, cells, hl, hb⟩ := hwf
  obtain rfl := hl.eq_of_holds hdst
  obtain rfl := hl.eq_of_holds hsrc
  have hlen : ∀ i, (f.queue i).length = (s.lists i).listLen := by
    intro i
    rw [hl.length_queue, hl.len]
  obtain ⟨u, cells', hx, hlu⟩ := moveEach_layout hu hne hl hb hmove
  constructor
  · rintro ⟨ret, t, -, hmount, -, hmoved, -⟩
    by_contra hwrap
    rw [hlen, hlen] at hwrap
    obtain ⟨t', hmount', -, hcount⟩ := listMountRear_wraps hl hb hu hne (Nat.le_of_not_lt hwrap)
    rw [hmount] at hmount'
    cases hmount'
    obtain ⟨-, -, -, hholds⟩ := hmoved.rear
    rw [hcount, length_keepLast, List.length_append, hlen, hlen] at hholds
    -- the counter is below either list, and the list is full
    have hi := hb i
    have hj := hb j
    have hui := (hu i).2
    have huj := (hu j).2
    rw [hlen] at hi hj
    omega
  · intro hfits
    rw [hlen, hlen] at hfits
    obtain ⟨t, cells'', ht, hlt, -⟩ := hl.exec_mountRear hb hne hfits
    obtain ⟨⟨ret, t'⟩, hmount, rfl⟩ := Option.map_eq_some_iff.mp ht
    exact ⟨ret, t', u, hmount, hx, hl.moved hne hlt, hl.moved hne hlu⟩

/-- A list of two and one of three, with a limit of four: the oldest element goes. -/
theorem listMountRear_agrees_iff_five :
    ∃ s x : ListStore (Fin 2) Nat, (simpleLists fun _ => 4).runUnder MountsFit (some .init)
        [.addRear 0 10 (some 0), .addRear 0 20 (some 1), .addRear 1 30 (some 2),
          .addRear 1 40 (some 3), .addRear 1 50 (some 4)] = some (some s) ∧
      moveEach (fun _ => 4) 0 1 [5, 2, 3] s = some (some x) ∧
      ∃ ret t u, s.listMountRear (fun _ => 4) 0 (some 1) = some (ret, t) ∧ some x = some u ∧
        s.Moved (fun _ => 4) 0 1 [10, 20] [30, 40, 50] t ∧
        s.Moved (fun _ => 4) 0 1 [10, 20] [30, 40, 50] u := by
  obtain ⟨s, x, hrun, hmove⟩ : ∃ s x : ListStore (Fin 2) Nat,
      (simpleLists fun _ => 4).runUnder MountsFit (some .init)
        [.addRear 0 10 (some 0), .addRear 0 20 (some 1), .addRear 1 30 (some 2),
          .addRear 1 40 (some 3), .addRear 1 50 (some 4)] = some (some s) ∧
      moveEach (fun _ => 4) 0 1 [5, 2, 3] s = some (some x) := ⟨_, _, rfl, rfl⟩
  have hu : ∀ i : Fin 2, 0 < 4 ∧ 4 < 2 ^ 32 := fun _ => ⟨by omega, by omega⟩
  obtain ⟨_, cells, heq, hl, -, -⟩ := run_layout hu Layout.init
    (fun _ => Nat.zero_le _) (fun a h => absurd rfl h) hrun
  cases heq
  exact ⟨s, x, hrun, hmove, (listMountRear_agrees_iff hu
    ⟨_, cells, hl, Fifos.bounded_run fun _ => Nat.zero_le _⟩ (by decide) (hl.holds 0) (hl.holds 1)
    hmove).mpr (by decide)⟩

end Agreement

/-! ## Allocations that succeed, and lists that are too long -/

section Allocations

variable {ι δ : Type*} [DecidableEq ι] {uplimit : ι → Nat} {s t : ListStore ι δ} {i j : ι} {b : Nat}

/-- Linking changes a node, and allocates none. -/
theorem linkRear_frame {first last : Option Nat} {len : Nat}
    (h : s.linkRear i first last len = some t) (hb : t.heap b ≠ none) : s.heap b ≠ none := by
  simp only [ListStore.linkRear] at h
  split at h
  · cases h
    exact hb
  · obtain ⟨a, -, h⟩ := Option.bind_eq_some_iff.mp h
    obtain ⟨node, hnode, rfl⟩ := Option.map_eq_some_iff.mp h
    exact Heap.allocated_of_set hnode hb

theorem getHeaddata_frame {r : Option δ × ListStore ι δ} (h : s.listGetHeaddata i = some r)
    (hb : r.2.heap b ≠ none) : s.heap b ≠ none := by
  simp only [ListStore.listGetHeaddata] at h
  split at h
  · cases h
    exact hb
  · obtain ⟨cur, -, h⟩ := Option.bind_eq_some_iff.mp h
    obtain ⟨node, hnode, rfl⟩ := Option.map_eq_some_iff.mp h
    exact Heap.allocated_of_set hnode hb

/-- `list_add_rear` allocates its node, and no other. -/
theorem addRear_frame {x : δ} {nod : Nat} {r : Int × ListStore ι δ}
    (h : s.listAddRear uplimit i x (some nod) = some r) (hb : r.2.heap b ≠ none) :
    s.heap b ≠ none ∨ b = nod := by
  obtain ⟨⟨ret, u⟩, hroom, hlink⟩ := Option.bind_eq_some_iff.mp h
  obtain ⟨v, hv, rfl⟩ := Option.map_eq_some_iff.mp hlink
  by_cases hbn : b = nod
  · exact Or.inr hbn
  · have hu : u.heap b ≠ none := by
      have hnew : u.heap.set nod (some ⟨none, x⟩) b ≠ none := linkRear_frame hv hb
      rwa [Heap.set_other hbn] at hnew
    split at hroom
    · obtain ⟨r, hget, heq⟩ := Option.map_eq_some_iff.mp hroom
      cases heq
      exact Or.inl (getHeaddata_frame hget hu)
    · cases hroom
      exact Or.inl hu

/-- Behind all the memory in use there is room for the nodes. -/
theorem exists_moveEach (hu : ∀ i, 0 < uplimit i ∧ uplimit i < 2 ^ 32) (hne : i ≠ j) {n m : Nat}
    {s : ListStore ι δ} {f : Fifos ι δ} {cells : ι → List (Nat × δ)} (hl : Layout s f cells)
    (hb : f.Bounded uplimit) (hlen : (s.lists j).listLen ≤ n)
    (hfree : ∀ a, m ≤ a → s.heap a = none) :
    ∃ x, moveEach uplimit i j (List.range' m n) s = some x := by
  induction n generalizing m s f cells with
  | zero => exact ⟨some s, if_pos (Nat.le_zero.mp hlen)⟩
  | succ n ih =>
      rw [List.range'_succ]
      simp only [moveEach]
      split
      case isTrue => exact ⟨some s, rfl⟩
      case isFalse h0 =>
        obtain ⟨a, d, rest, hc⟩ := hl.linked.cells_cons h0
        obtain ⟨t, hget, hlt, hheap⟩ := hl.listGetHeaddata hc
        have hfree' : ∀ a, m ≤ a → t.heap a = none := by
          intro b hb
          by_contra hne
          exact getHeaddata_frame hget hne (hfree b hb)
        have hbt : (f.setQueue j (rest.map Prod.snd)).Bounded uplimit := by
          refine hb.setQueue ?_
          have := hb j
          rw [hl.length_queue, hc, List.length_cons] at this
          rw [List.length_map]
          omega
        obtain ⟨ret, u, cells', hadd, -, hlu, -⟩ := hlt.listAddRear (i := i)
          (hfree' m (Nat.le_refl m)) (hlt.length_queue i ▸ hbt i) (hu i) d
        have hcount : (u.lists j).listLen ≤ n := by
          rw [hl.len, hc, List.length_cons] at hlen
          rw [hlu.len, ← hlu.length_queue]
          show ((Fifos.fill _ uplimit i _).queue j).length ≤ n
          simp only [Fifos.fill, Fifos.setQueue_queue, if_neg hne.symm, if_pos, List.length_map]
          omega
        rw [hget]
        dsimp only
        rw [hfree' m (Nat.le_refl m), hadd]
        refine ih hlu (hbt.fill i _) hcount fun b hb => ?_
        by_contra hne
        rcases addRear_frame hadd hne with hold | rfl
        · exact hold (hfree' b (Nat.le_of_succ_le hb))
        · exact Nat.not_succ_le_self b hb

end Allocations

/-- With limits of `2 ^ 32 - 1`: one list of `2 ^ 31` nodes is mounted on another, and moved to it
node by node. -/
theorem listMountRear_disagrees :
    ¬ ∀ (s : ListStore (Fin 2) Nat) (dst src : List Nat) (nods : List Nat)
      (x : Option (ListStore (Fin 2) Nat)), s.WellFormed maxLimit → s.Holds 0 dst → s.Holds 1 src →
      moveEach maxLimit 0 1 nods s = some x →
      ∃ ret t u, s.listMountRear maxLimit 0 (some 1) = some (ret, t) ∧ x = some u ∧
        s.Moved maxLimit 0 1 dst src t ∧ s.Moved maxLimit 0 1 dst src u := by
  intro hall
  obtain ⟨cs, s, f, cells, -, hl, hb, hfree, hlen⟩ := exists_half_full
  obtain ⟨x, hmove⟩ := exists_moveEach maxLimit_bounds (i := (0 : Fin 2)) (j := 1) (by decide) hl hb
    (hlen 1).le hfree
  obtain ⟨ret, t, -, hmount, -, hmoved, -⟩ :=
    hall s _ _ _ x ⟨f, cells, hl, hb⟩ (hl.holds 0) (hl.holds 1) hmove
  obtain ⟨t', hmount', hhead, hcount⟩ := listMountRear_wraps hl hb maxLimit_bounds
    (i := 0) (j := 1) (by decide) (by rw [hlen, hlen]; omega)
  rw [hmount] at hmount'
  cases hmount'
  -- the counter is 0, and the chain has a node
  obtain ⟨cells', hchain, hdata, hholds⟩ := hmoved.rear
  rw [hcount, hlen, hlen] at hholds
  have hnil : cells' = [] := by
    rw [← List.map_eq_nil_iff (f := Prod.snd), hdata]
    exact List.length_eq_zero_iff.mp hholds.symm
  exact hhead (Heap.chain_nil.mp (hnil ▸ hchain))

end Smi240Hal.Legacy
