/-
# Smi240Hal.Legacy.BoschSimpleListLimit — the length bound when the limit changes

`set_uplimit` may be called at any time, also with a value below the length the list has.  The next
`list_mount_rear` of a non-empty list truncates to the new limit, because it compares with `>`;
`list_add_rear` compares with `==`, and a list that is over its limit just grows.

Nothing is assumed of the lengths here, so a mount may make `list_len` wrap, and a list may be
mounted on itself.  What survives that is `Linked`: the chains are whole, and no counter is above
the length of its chain.
-/
import Smi240Hal.Legacy.BoschSimpleListHeap

namespace Smi240Hal.Legacy

open Smi240Hal.Lib

/-! ## Lists with their limits -/

/-- The lists, each with its `uplimit`. -/
structure LimitedStore (ι δ : Type*) where
  store : ListStore ι δ
  uplimit : ι → Nat

/-- A call of a list, or of `set_uplimit`. -/
inductive LimitedCall (ι δ : Type*)
  | call (c : ListCall ι δ)
  | setUplimit (i : ι) (limit : UInt32)

namespace LimitedStore

variable {ι δ : Type*} [DecidableEq ι]

/-- The constructor of every list; `DEFAULT_LIST_LEN` is 128. -/
def init : LimitedStore ι δ where
  store := .init
  uplimit _ := 128

/-- `set_uplimit`: at least one node can be stored. -/
def setUplimit (s : LimitedStore ι δ) (i : ι) (limit : UInt32) : LimitedStore ι δ :=
  { s with uplimit := fun j =>
      if j = i then (if limit.toNat = 0 then 1 else limit.toNat) else s.uplimit j }

/-- `malloc` returns memory that is not in use. -/
def Enabled (s : LimitedStore ι δ) : LimitedCall ι δ → Prop
  | .call (.addRear _ _ (some nod)) => (s.store.heap nod).isNone = true
  | _ => True

instance (s : LimitedStore ι δ) : ∀ c, Decidable (s.Enabled c)
  | .call (.addRear _ _ (some nod)) => inferInstanceAs (Decidable ((s.store.heap nod).isNone = true))
  | .call (.addRear _ _ none) => inferInstanceAs (Decidable True)
  | .call (.getHeaddata _) => inferInstanceAs (Decidable True)
  | .call (.mountRear _ _) => inferInstanceAs (Decidable True)
  | .call (.clean _) => inferInstanceAs (Decidable True)
  | .setUplimit _ _ => inferInstanceAs (Decidable True)

/-- A call is carried out under the limits as they are. -/
def exec (s : LimitedStore ι δ) : LimitedCall ι δ → Option (LimitedStore ι δ)
  | .call c => (s.store.exec s.uplimit c).map fun t => { s with store := t }
  | .setUplimit i limit => some (s.setUplimit i limit)

/-- A `list_add_rear` that adds, and a `list_mount_rear` of a non-empty list, return with
`list_len <= uplimit`. -/
def ReturnsBounded (s : LimitedStore ι δ) : LimitedCall ι δ → Prop
  | .call (.addRear i x nod) => ∃ r ∈ s.store.listAddRear s.uplimit i x nod,
      r.1 = 0 ∨ r.1 = -2 → (r.2.lists i).listLen ≤ s.uplimit i
  | .call (.mountRear i j) => ∃ r ∈ s.store.listMountRear s.uplimit i (some j),
      (s.store.lists j).listLen ≠ 0 → (r.2.lists i).listLen ≤ s.uplimit i
  | _ => True

/-- A `list_add_rear` whose allocation succeeds finds the list within its limit, or at the last
value of its counter. -/
def AddFits (s : LimitedStore ι δ) : LimitedCall ι δ → Prop
  | .call (.addRear i _ (some _)) =>
      (s.store.lists i).listLen ≤ s.uplimit i ∨ (s.store.lists i).listLen + 1 = 2 ^ 32
  | _ => True

end LimitedStore

/-- The lists under any sequence of calls; `none` is where a call has gone wrong. -/
def limitedLists (ι δ : Type*) [DecidableEq ι] :
    Machine (Option (LimitedStore ι δ)) (LimitedCall ι δ) where
  Start x := x = some .init
  step x c := x.bind fun s => if s.Enabled c then some (s.exec c) else none

/-! ## Chains that are whole, whatever the counters -/

theorem ListStore.setList_setList {ι δ : Type*} [DecidableEq ι] (s : ListStore ι δ) (i : ι)
    (l l' : ListHeader) : (s.setList i l).setList i l' = s.setList i l' := by
  simp only [ListStore.setList, ListStore.mk.injEq, true_and, and_true]
  funext k
  split <;> rfl

namespace Linked

variable {ι δ : Type*} {s : ListStore ι δ} {cells : ι → List (Nat × δ)} {i j : ι}

theorem withLog (hl : Linked s cells) (log : FifoLog δ) : Linked { s with log := log } cells :=
  ⟨hl.chain, hl.counted, hl.tail, hl.apart⟩

variable [DecidableEq ι] {uplimit : ι → Nat}

/-- Taking a head, from any list. -/
theorem getHeaddata (hl : Linked s cells) (i : ι) :
    ∃ d t cells', s.listGetHeaddata i = some (d, t) ∧ Linked t cells' ∧
      (t.lists i).listLen = (s.lists i).listLen - 1 ∧
      (∀ k, k ≠ i → t.lists k = s.lists k) ∧ ∀ a, s.heap a = none → t.heap a = none := by
  by_cases h0 : (s.lists i).listLen = 0
  · exact ⟨none, s, cells, if_pos h0, hl, by omega, fun _ _ => rfl, fun _ => id⟩
  · obtain ⟨a, d, rest, hc⟩ := hl.cells_cons h0
    obtain ⟨next, hget, hchain, htail, hother⟩ := hl.listGetHeaddata hc h0
    have hcount : (s.lists i).listLen - 1 ≤ rest.length := by
      have := hl.counted i
      rw [hc, List.length_cons] at this
      omega
    refine ⟨some d, _, _, hget, hl.update hchain hcount htail hother, ?_, fun k hk => if_neg hk,
      fun b hb => ?_⟩
    · simp only [ListStore.setList, if_pos]
    · by_cases hba : b = a
      · rw [hba]
        exact Heap.set_same none
      · exact (Heap.set_other hba none).trans hb

/-- The loop ends within the bound. -/
theorem freeWhileOver (hl : Linked s cells) (bound : Nat) {fuel : Nat}
    (hfuel : (s.lists i).listLen ≤ fuel) :
    ∃ t cells', s.freeWhileOver i bound fuel = some t ∧ Linked t cells' ∧
      (t.lists i).listLen ≤ bound ∧ ∀ k, (t.lists k).listLen ≤ (s.lists k).listLen := by
  induction fuel generalizing s cells with
  | zero =>
      have hunder : ¬ bound < (s.lists i).listLen := by omega
      exact ⟨s, cells, if_neg hunder, hl, Nat.le_of_not_lt hunder, fun _ => Nat.le_refl _⟩
  | succ fuel ih =>
      simp only [ListStore.freeWhileOver]
      split
      case isFalse hunder =>
        exact ⟨s, cells, rfl, hl, Nat.le_of_not_lt hunder, fun _ => Nat.le_refl _⟩
      case isTrue hover =>
        obtain ⟨d, t, cells', hget, hlt, hlen, hsame, -⟩ := hl.getHeaddata i
        obtain ⟨u, cells'', hu, hlu, hbound, hle⟩ :=
          ih (hlt.withLog { t.log with freed := t.log.freed ++ d.toList })
            (by show (t.lists i).listLen ≤ fuel; omega)
        rw [hget, Option.bind_some]
        refine ⟨u, cells'', hu, hlu, hbound, fun k => (hle k).trans ?_⟩
        show (t.lists k).listLen ≤ (s.lists k).listLen
        by_cases hk : k = i
        · rw [hk, hlen]
          exact Nat.sub_le ..
        · rw [hsame k hk]

/-- Adding to any list: it grows, unless it stands at its limit. -/
theorem listAddRear (hl : Linked s cells) {nod : Nat} (hfree : s.heap nod = none)
    (hpos : 0 < uplimit i) (hcount : (s.lists i).listLen < 2 ^ 32) (x : δ) :
    ∃ ret t cells', s.listAddRear uplimit i x (some nod) = some (ret, t) ∧ Linked t cells' ∧
      (ret = 0 ∨ ret = -2) ∧ (∀ k, k ≠ i → t.lists k = s.lists k) ∧
      (t.lists i).listLen = if (s.lists i).listLen = uplimit i then uplimit i
        else ((s.lists i).listLen + 1) % 2 ^ 32 := by
  by_cases hfull : (s.lists i).listLen = uplimit i
  · obtain ⟨d, t, cells', hget, hlt, hlen, hsame, hnone⟩ := hl.getHeaddata i
    obtain ⟨l, h, hlink, hnew, hlu, -⟩ :=
      (hlt.withLog { t.log with freed := t.log.freed ++ d.toList }).linkNode (i := i)
        (hnone nod hfree) x
    refine ⟨-2, _, _, ?_, hlu, Or.inr rfl, fun k hk => (if_neg hk).trans (hsame k hk), ?_⟩
    · simp only [ListStore.listAddRear, if_pos hfull, hget, Option.map_some, Option.bind_some,
        ListStore.freeData, hlink]
    · rw [if_pos hfull]
      simp only [ListStore.setList, if_pos, hnew, hlen]
      omega
  · obtain ⟨l, h, hlink, hnew, hlu, -⟩ := hl.linkNode (i := i) hfree x
    refine ⟨0, _, _, ?_, hlu, Or.inl rfl, fun k hk => if_neg hk, ?_⟩
    · simp only [ListStore.listAddRear, if_neg hfull, Option.bind_some, hlink, Option.map_some]
    · rw [if_neg hfull]
      simp only [ListStore.setList, if_pos, hnew]

/-- A list mounted on itself is left empty, and its nodes on no list. -/
theorem mountSelf (hl : Linked s cells) (h0 : (s.lists i).listLen ≠ 0) :
    ∃ t cells', s.linkRear i (s.lists i).head (s.lists i).tail (s.lists i).listLen = some t ∧
      Linked (t.setList i ⟨none, none, 0⟩) cells' ∧ ∀ k, k ≠ i → t.lists k = s.lists k := by
  obtain ⟨a, d, rest, hc⟩ := hl.cells_cons h0
  have hne : cells i ≠ [] := by rw [hc]; exact List.cons_ne_nil _ _
  obtain ⟨front, ⟨b, e⟩, hlast⟩ := (List.eq_nil_or_concat (cells i)).resolve_left hne
  rw [List.concat_eq_append] at hlast
  have hhead : (s.lists i).head ≠ none := (hl.chain i).head_ne_none hne
  have htail : (s.lists i).tail = some b := by
    rw [hl.tail i hne, hlast, List.getLast?_concat, Option.map_some]
  have hnode : s.heap b = some ⟨none, e⟩ := (hlast ▸ hl.chain i).last
  have hmem : b ∈ addrs (cells i) := by rw [hlast]; simp
  -- the last node points at the first one now
  have hempty := hl.update (i := i) (h := s.heap.set b (some ⟨(s.lists i).head, e⟩))
    (l := ⟨none, none, 0⟩) (c := []) rfl (Nat.le_refl 0) (fun h => absurd rfl h)
    (fun k hk c hc => ⟨Heap.set_other (fun heq : c = b => hl.apart i k (Ne.symm hk) b hmem
      (heq ▸ hc)) _, List.not_mem_nil⟩)
  have hlink : s.linkRear i (s.lists i).head (s.lists i).tail (s.lists i).listLen =
      some { s.setList i ⟨(s.lists i).head, (s.lists i).tail,
          ((s.lists i).listLen + (s.lists i).listLen) % 2 ^ 32⟩ with
        heap := s.heap.set b (some ⟨(s.lists i).head, e⟩) } := by
    unfold ListStore.linkRear
    rw [if_neg hhead, htail, Option.bind_some, hnode, Option.map_some]
  refine ⟨_, setCells cells i [], hlink, ?_, fun k hk => if_neg hk⟩
  show Linked (ListStore.setList (ListStore.setList
    { s with heap := s.heap.set b (some ⟨(s.lists i).head, e⟩) } i _) i _) _
  rw [ListStore.setList_setList]
  exact hempty

/-- Mounting any list on any list. -/
theorem listMountRear (hl : Linked s cells) (uplimit : ι → Nat) (i j : ι)
    (hcount : ∀ k, (s.lists k).listLen < 2 ^ 32) :
    ∃ ret t cells', s.listMountRear uplimit i (some j) = some (ret, t) ∧ Linked t cells' ∧
      ((s.lists j).listLen ≠ 0 → (t.lists i).listLen ≤ uplimit i) ∧
      ∀ k, (t.lists k).listLen < 2 ^ 32 := by
  by_cases h0 : (s.lists j).listLen = 0
  · exact ⟨0, s, cells, if_pos h0, hl, fun h => absurd h0 h, hcount⟩
  · obtain ⟨t, cells', hlink, hlt, hfit⟩ : ∃ t cells',
        s.linkRear i (s.lists j).head (s.lists j).tail (s.lists j).listLen = some t ∧
        Linked (t.setList j ⟨none, none, 0⟩) cells' ∧
        ∀ k, ((t.setList j ⟨none, none, 0⟩).lists k).listLen < 2 ^ 32 := by
      by_cases hne : i = j
      · subst hne
        obtain ⟨t, cells', hlink, hlt, hsame⟩ := hl.mountSelf h0
        refine ⟨t, cells', hlink, hlt, fun k => ?_⟩
        simp only [ListStore.setList]
        split
        · exact Nat.two_pow_pos 32
        · next hk => exact hsame k hk ▸ hcount k
      · obtain ⟨a, d, rest, hc⟩ := hl.cells_cons h0
        obtain ⟨l, h, hlink, hsum, hlt, -⟩ := hl.mount hne (by rw [hc]; exact List.cons_ne_nil _ _)
        refine ⟨_, _, hlink, hlt, fun k => ?_⟩
        simp only [ListStore.setList]
        split
        · exact Nat.two_pow_pos 32
        · split
          · rw [hsum]
            exact Nat.mod_lt _ (Nat.two_pow_pos 32)
          · exact hcount k
    obtain ⟨u, cells'', hu, hlu, hbound, hle⟩ := hlt.freeWhileOver (i := i) (uplimit i)
      (Nat.le_refl _)
    have hmount : s.listMountRear uplimit i (some j) = some
        (if uplimit i < ((t.setList j ⟨none, none, 0⟩).lists i).listLen then -1 else 0, u) := by
      simp only [ListStore.listMountRear, if_neg h0, hlink, Option.bind_some, hu, Option.map_some]
    exact ⟨_, u, cells'', hmount, hlu, fun _ => hbound, fun k => (hle k).trans_lt (hfit k)⟩

end Linked

/-! ## Every sequence of calls -/

section Runs

variable {ι δ : Type*} [DecidableEq ι]

/-- What every sequence of calls keeps. -/
structure LimitedStore.Sound (s : LimitedStore ι δ) : Prop where
  linked : ∃ cells, Linked s.store cells
  count : ∀ i, (s.store.lists i).listLen < 2 ^ 32
  limit : ∀ i, 0 < s.uplimit i

omit [DecidableEq ι] in
theorem sound_init : (.init : LimitedStore ι δ).Sound where
  linked := ⟨fun _ => [], Layout.init.linked⟩
  count _ := Nat.two_pow_pos 32
  limit _ := Nat.succ_pos 127

/-- A list that is added to is afterwards within its limit exactly if it was before. -/
theorem LimitedStore.Sound.addRear {s : LimitedStore ι δ} (h : s.Sound) (i : ι) (x : δ)
    {nod : Option Nat} (hen : s.Enabled (.call (.addRear i x nod))) :
    ∃ t, s.exec (.call (.addRear i x nod)) = some t ∧ t.Sound ∧
      (s.ReturnsBounded (.call (.addRear i x nod)) ↔ s.AddFits (.call (.addRear i x nod))) := by
  obtain ⟨cells, hl⟩ := h.linked
  rcases nod with _ | nod
  · -- -1 is returned, and nothing added
    refine ⟨_, rfl, ⟨⟨cells, hl.withLog _⟩, h.count, h.limit⟩, iff_of_true ?_ trivial⟩
    exact ⟨(-1, s.store), rfl, by simp⟩
  · obtain ⟨ret, t, cells', hadd, hlt, hret, hsame, hlen⟩ := hl.listAddRear
      (Option.isNone_iff_eq_none.mp hen) (h.limit i) (h.count i) x
    have hexec : s.exec (.call (.addRear i x (some nod))) = some { s with store :=
        { t with log := { t.log with handed := t.log.handed ++ [x] } } } := by
      have hne : ret ≠ -1 := by omega
      simp only [exec, ListStore.exec, hadd, Option.map_some, if_neg hne]
    have hcount := h.count i
    refine ⟨_, hexec, ⟨⟨cells', hlt.withLog _⟩, fun k => ?_, h.limit⟩, ?_⟩
    · show (t.lists k).listLen < 2 ^ 32
      by_cases hk : k = i
      · rw [hk, hlen]
        split
        · next hfull => exact hfull ▸ hcount
        · exact Nat.mod_lt _ (Nat.two_pow_pos 32)
      · exact hsame k hk ▸ h.count k
    · have hreturns : s.ReturnsBounded (.call (.addRear i x (some nod))) ↔
          (t.lists i).listLen ≤ s.uplimit i := by
        constructor
        · rintro ⟨r, hr, hbound⟩
          rw [hadd, Option.mem_some_iff] at hr
          subst hr
          exact hbound hret
        · exact fun hbound => ⟨(ret, t), hadd, fun _ => hbound⟩
      rw [hreturns, hlen, AddFits]
      split <;> omega

/-- A call goes well, and returns within the limit exactly if, when it adds, it finds the list within
its limit. -/
theorem LimitedStore.Sound.exec {s : LimitedStore ι δ} (h : s.Sound) {c : LimitedCall ι δ}
    (hen : s.Enabled c) :
    ∃ t, s.exec c = some t ∧ t.Sound ∧ (s.ReturnsBounded c ↔ s.AddFits c) := by
  obtain ⟨cells, hl⟩ := h.linked
  rcases c with (⟨i, x, nod⟩ | i | ⟨i, j⟩ | i) | ⟨i, limit⟩
  · exact h.addRear i x hen
  · obtain ⟨d, t, cells', hget, hlt, hlen, hsame, -⟩ := hl.getHeaddata i
    refine ⟨{ s with store :=
        { t with log := { t.log with returned := t.log.returned ++ d.toList } } },
      by simp only [LimitedStore.exec, ListStore.exec, hget, Option.map_some],
      ⟨⟨cells', hlt.withLog _⟩, fun k => ?_, h.limit⟩, Iff.rfl⟩
    show (t.lists k).listLen < 2 ^ 32
    by_cases hk : k = i
    · rw [hk, hlen]
      exact (Nat.sub_le ..).trans_lt (h.count i)
    · exact hsame k hk ▸ h.count k
  · obtain ⟨ret, t, cells', hmount, hlt, hbound, hcount⟩ :=
      hl.listMountRear s.uplimit i j h.count
    exact ⟨{ s with store := t },
      by simp only [LimitedStore.exec, ListStore.exec, hmount, Option.map_some],
      ⟨⟨cells', hlt⟩, hcount, h.limit⟩, iff_of_true ⟨(ret, t), hmount, hbound⟩ trivial⟩
  · obtain ⟨t, cells', ht, hlt, -, hle⟩ := hl.freeWhileOver (i := i) 0 (Nat.le_refl _)
    exact ⟨{ s with store := t },
      by simp only [LimitedStore.exec, ListStore.exec, ListStore.listClean, ht, Option.map_some],
      ⟨⟨cells', hlt⟩, fun k => (hle k).trans_lt (h.count k), h.limit⟩, Iff.rfl⟩
  · refine ⟨_, rfl, ⟨⟨cells, hl⟩, h.count, fun k => ?_⟩, Iff.rfl⟩
    simp only [setUplimit]
    have hk := h.limit k
    split
    · split <;> omega
    · exact hk

/-- `ReturnsBounded`, as long as no call has gone wrong. -/
def CallReturnsBounded : Option (LimitedStore ι δ) → LimitedCall ι δ → Prop
  | some s, c => s.ReturnsBounded c
  | none, _ => True

/-- `AddFits`, as long as no call has gone wrong. -/
def CallAddFits : Option (LimitedStore ι δ) → LimitedCall ι δ → Prop
  | some s, c => s.AddFits c
  | none, _ => True

instance : ∀ (x : Option (LimitedStore ι δ)) (c : LimitedCall ι δ),
    Decidable (CallReturnsBounded x c)
  | none, _ => inferInstanceAs (Decidable True)
  | some s, .call (.addRear i x nod) =>
      inferInstanceAs (Decidable (∃ r ∈ s.store.listAddRear s.uplimit i x nod,
        r.1 = 0 ∨ r.1 = -2 → (r.2.lists i).listLen ≤ s.uplimit i))
  | some s, .call (.mountRear i j) =>
      inferInstanceAs (Decidable (∃ r ∈ s.store.listMountRear s.uplimit i (some j),
        (s.store.lists j).listLen ≠ 0 → (r.2.lists i).listLen ≤ s.uplimit i))
  | some _, .call (.getHeaddata _) => inferInstanceAs (Decidable True)
  | some _, .call (.clean _) => inferInstanceAs (Decidable True)
  | some _, .setUplimit _ _ => inferInstanceAs (Decidable True)

instance : ∀ (x : Option (LimitedStore ι δ)) (c : LimitedCall ι δ), Decidable (CallAddFits x c)
  | none, _ => inferInstanceAs (Decidable True)
  | some s, .call (.addRear i _ (some _)) =>
      inferInstanceAs (Decidable
        ((s.store.lists i).listLen ≤ s.uplimit i ∨ (s.store.lists i).listLen + 1 = 2 ^ 32))
  | some _, .call (.addRear _ _ none) => inferInstanceAs (Decidable True)
  | some _, .call (.mountRear _ _) => inferInstanceAs (Decidable True)
  | some _, .call (.getHeaddata _) => inferInstanceAs (Decidable True)
  | some _, .call (.clean _) => inferInstanceAs (Decidable True)
  | some _, .setUplimit _ _ => inferInstanceAs (Decidable True)

theorem limitedLists_step {s : LimitedStore ι δ} {c : LimitedCall ι δ}
    {y : Option (LimitedStore ι δ)} (h : (limitedLists ι δ).step (some s) c = some y) :
    s.Enabled c ∧ y = s.exec c := by
  simp only [limitedLists, Option.bind_some] at h
  split at h
  case isTrue hen => exact ⟨hen, (Option.some.inj h).symm⟩
  case isFalse => exact absurd h (by simp)

/-- In every run no call goes wrong.  All its calls that add to a list return with the list within
its limit exactly if every `list_add_rear` that adds finds the list within its limit (or its counter
about to wrap to 0); the calls of `list_mount_rear` need nothing. -/
theorem returns_bounded_iff {cs : List (LimitedCall ι δ)} {x : Option (LimitedStore ι δ)}
    (hrun : (limitedLists ι δ).run (some .init) cs = some x) :
    (∃ s, x = some s) ∧
      ((limitedLists ι δ).runUnder CallReturnsBounded (some .init) cs = some x ↔
        (limitedLists ι δ).runUnder CallAddFits (some .init) cs = some x) := by
  let I : Option (LimitedStore ι δ) → Prop := fun x => ∃ s, x = some s ∧ s.Sound
  have hkeep : ∀ x c y, I x → (limitedLists ι δ).step x c = some y → I y := by
    rintro _ c y ⟨s, rfl, hs⟩ hstep
    obtain ⟨hen, rfl⟩ := limitedLists_step hstep
    obtain ⟨t, ht, hsound, -⟩ := hs.exec hen
    exact ⟨t, ht, hsound⟩
  have hiff : ∀ x c y, I x → (limitedLists ι δ).step x c = some y →
      (CallReturnsBounded x c ↔ CallAddFits x c) := by
    rintro _ c y ⟨s, rfl, hs⟩ hstep
    obtain ⟨hen, -⟩ := limitedLists_step hstep
    obtain ⟨-, -, -, hbounded⟩ := hs.exec hen
    exact hbounded
  have hstart : I (some .init) := ⟨.init, rfl, sound_init⟩
  obtain ⟨s, rfl, -⟩ : I x := (limitedLists ι δ).run_invariant (G := fun _ _ => True)
    (fun x c y hx _ => hkeep x c y hx) hstart (fun _ _ _ _ => trivial) hrun
  exact ⟨⟨s, rfl⟩, Machine.runUnder_congr hkeep hiff hstart hrun⟩

/-- The limit goes from 2 to 1 while the list is empty, and back to 2 before it is full. -/
theorem returns_bounded_iff_lowered_in_time :
    ∃ s : LimitedStore (Fin 1) Nat, (limitedLists (Fin 1) Nat).runUnder CallReturnsBounded
      (some .init) [.setUplimit 0 2, .setUplimit 0 1, .call (.addRear 0 10 (some 0)),
        .setUplimit 0 2, .call (.addRear 0 20 (some 1))] = some (some s) := by
  obtain ⟨s, hrun, hfits⟩ : ∃ s : LimitedStore (Fin 1) Nat,
      (limitedLists (Fin 1) Nat).run (some .init) [.setUplimit 0 2, .setUplimit 0 1,
        .call (.addRear 0 10 (some 0)), .setUplimit 0 2, .call (.addRear 0 20 (some 1))] =
          some (some s) ∧
      (limitedLists (Fin 1) Nat).runUnder CallAddFits (some .init) [.setUplimit 0 2,
        .setUplimit 0 1, .call (.addRear 0 10 (some 0)), .setUplimit 0 2,
        .call (.addRear 0 20 (some 1))] = some (some s) := ⟨_, rfl, rfl⟩
  exact ⟨s, (returns_bounded_iff hrun).2.mpr hfits⟩

/-- A list of two elements gets the limit 1, and the next element comes behind them. -/
theorem returns_over_limit :
    ¬ ∀ (cs : List (LimitedCall (Fin 1) Nat)) (x : Option (LimitedStore (Fin 1) Nat)),
      (limitedLists (Fin 1) Nat).run (some .init) cs = some x →
        (limitedLists (Fin 1) Nat).runUnder CallReturnsBounded (some .init) cs = some x := by
  intro hall
  obtain ⟨x, hrun, hover⟩ : ∃ x : Option (LimitedStore (Fin 1) Nat),
      (limitedLists (Fin 1) Nat).run (some .init) [.call (.addRear 0 10 (some 0)),
        .call (.addRear 0 20 (some 1)), .setUplimit 0 1, .call (.addRear 0 30 (some 2))] = some x ∧
      ((limitedLists (Fin 1) Nat).runUnder CallReturnsBounded (some .init)
        [.call (.addRear 0 10 (some 0)), .call (.addRear 0 20 (some 1)), .setUplimit 0 1,
          .call (.addRear 0 30 (some 2))]).isNone = true := ⟨_, rfl, rfl⟩
  rw [hall _ x hrun] at hover
  exact absurd hover (by simp)

end Runs

end Smi240Hal.Legacy
