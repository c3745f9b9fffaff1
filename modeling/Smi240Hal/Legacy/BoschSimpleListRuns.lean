/-
# Smi240Hal.Legacy.BoschSimpleListRuns — the lists under every sequence of calls

`Layout.exec` follows one call through the heap.  Here the calls of any number of lists follow each
other: `simpleLists_refine` says that the lists go on being bounded queues that drop their oldest
elements, as long as no mount makes `list_len` wrap, and `simpleLists_wrap` what a mount that does
leaves behind.  The sequences the other modules work with (`BoschSimpleList`) are those queues.
-/
import Smi240Hal.Legacy.BoschSimpleList
import Smi240Hal.Legacy.BoschSimpleListHeap

namespace Smi240Hal.Legacy

open Smi240Hal.Lib

/-! ## Every sequence of calls -/

section Runs

variable {ι δ : Type*} [DecidableEq ι] {uplimit : ι → Nat}

/-- `NoWrap`, as long as no call has gone wrong. -/
def MountsFit : Option (ListStore ι δ) → ListCall ι δ → Prop
  | some s, c => NoWrap s c
  | none, _ => True

instance : ∀ (x : Option (ListStore ι δ)) (c : ListCall ι δ), Decidable (MountsFit x c)
  | none, _ => inferInstanceAs (Decidable True)
  | some s, .mountRear i j =>
      inferInstanceAs (Decidable ((s.lists i).listLen + (s.lists j).listLen < 2 ^ 32))
  | some _, .addRear .. => inferInstanceAs (Decidable True)
  | some _, .getHeaddata _ => inferInstanceAs (Decidable True)
  | some _, .clean _ => inferInstanceAs (Decidable True)

/-- The lists are bounded, lie in the heap as they should, and hold the queues of `f`; the log is
that of `f`. -/
structure ListStore.Refines (uplimit : ι → Nat) (s : ListStore ι δ) (f : Fifos ι δ) : Prop where
  lists : ∀ i, ∃ cells, s.heap.Chain (s.lists i).head cells ∧
    (s.lists i).listLen = cells.length ∧ cells.map Prod.snd = f.queue i ∧
    (cells ≠ [] → (s.lists i).tail = cells.getLast?.map Prod.fst)
  bounded : ∀ i, (s.lists i).listLen ≤ uplimit i
  empty : ∀ i, (s.lists i).head = none ↔ (s.lists i).listLen = 0
  log : s.log = f.log

omit [DecidableEq ι] in
theorem Layout.refines {s : ListStore ι δ} {f : Fifos ι δ} {cells : ι → List (Nat × δ)}
    (hl : Layout s f cells) (hb : f.Bounded uplimit) : s.Refines uplimit f where
  lists i := ⟨cells i, hl.chain i, hl.len i, hl.data i, hl.tail i⟩
  bounded i := by
    rw [hl.len, ← hl.length_queue]
    exact hb i
  empty := hl.head_eq_none_iff
  log := hl.log

theorem step_eq_some {s : ListStore ι δ} {c : ListCall ι δ} {y : Option (ListStore ι δ)}
    (h : (simpleLists uplimit).step (some s) c = some y) : s.Enabled c ∧ y = s.exec uplimit c := by
  simp only [simpleLists, Option.bind_some] at h
  split at h
  case isTrue hen => exact ⟨hen, (Option.some.inj h).symm⟩
  case isFalse => exact absurd h (by simp)

theorem step_of_enabled {s : ListStore ι δ} {c : ListCall ι δ} (hen : s.Enabled c) :
    (simpleLists uplimit).step (some s) c = some (s.exec uplimit c) := by
  simp only [simpleLists, Option.bind_some, if_pos hen]

/-- A run whose mounts fit goes well, and is a run of the queues. -/
theorem run_layout (hu : ∀ i, 0 < uplimit i ∧ uplimit i < 2 ^ 32) {cs : List (ListCall ι δ)}
    {s : ListStore ι δ} {f : Fifos ι δ} {cells : ι → List (Nat × δ)} {x : Option (ListStore ι δ)}
    (hl : Layout s f cells) (hb : f.Bounded uplimit) (hn : NoLeak s cells)
    (hrun : (simpleLists uplimit).runUnder MountsFit (some s) cs = some x) :
    ∃ t cells', x = some t ∧ Layout t (f.run uplimit (cs.map ListCall.toFifo)) cells' ∧
      NoLeak t cells' ∧ ∀ c ∈ cs, Fifos.Proper c.toFifo := by
  induction cs generalizing s f cells with
  | nil =>
      cases hrun
      exact ⟨s, cells, rfl, hl, hn, nofun⟩
  | cons c cs ih =>
      simp only [Machine.runUnder] at hrun
      split at hrun
      case isFalse => exact absurd hrun (by simp)
      case isTrue hfit =>
        obtain ⟨y, hy, hrest⟩ := Option.bind_eq_some_iff.mp hrun
        obtain ⟨hen, rfl⟩ := step_eq_some hy
        obtain ⟨t, cells', ht, hlt, hnt⟩ := hl.exec hb hu hen hfit
        rw [ht] at hrest
        obtain ⟨u, cells'', hx, hlu, hnu, hproper⟩ := ih hlt (hb.step _) (hnt hn) hrest
        refine ⟨u, cells'', hx, hlu, hnu, ?_⟩
        intro c' hc'
        rcases List.mem_cons.mp hc' with rfl | hc'
        · rcases c' with _ | _ | ⟨i, j⟩ | _
          case mountRear => exact hen
          all_goals trivial
        · exact hproper c' hc'

/-- In every run in which the lists to be joined have together fewer than `2 ^ 32` nodes, no call
goes wrong, and the lists are bounded queues that drop their oldest elements.  Every time a data
pointer was handed in, it has gone to one place: a list, `free`, or back to the caller.  One that was
handed in once is in one place, once; and if nothing is handed in that a list holds or has freed, no
pointer is in two lists, twice in one, freed twice, or in a list and freed. -/
theorem simpleLists_refine [Fintype ι] [DecidableEq δ]
    (hu : ∀ i, 0 < uplimit i ∧ uplimit i < 2 ^ 32) {cs : List (ListCall ι δ)}
    {x : Option (ListStore ι δ)}
    (hrun : (simpleLists uplimit).runUnder MountsFit (some .init) cs = some x) :
    ∃ s f, x = some s ∧ f = Fifos.init.run uplimit (cs.map ListCall.toFifo) ∧
      s.Refines uplimit f ∧ f.Accounted ∧
      (∀ d, s.log.handed.count d = 1 →
        (∃! p, d ∈ f.elementsAt p) ∧ ∀ p, (f.elementsAt p).count d ≤ 1) ∧
      (Fifos.init.OwnsAll uplimit (cs.map ListCall.toFifo) → ∀ d, f.taken d ≤ 1) := by
  have hzero : ∀ d : δ, (Fifos.init : Fifos ι δ).taken d = 0 := by
    intro d
    simp [Fifos.taken, Fifos.inQueues, Fifos.init]
  have hinit : (Fifos.init : Fifos ι δ).Bounded uplimit := fun i => Nat.zero_le _
  obtain ⟨s, cells, rfl, hl, -, hproper⟩ :=
    run_layout hu Layout.init hinit (fun a h => absurd rfl h) hrun
  have hops : ∀ op ∈ cs.map ListCall.toFifo, Fifos.Proper op := by
    intro op hop
    obtain ⟨c, hc, rfl⟩ := List.mem_map.mp hop
    exact hproper c hc
  have hacc : (Fifos.init.run uplimit (cs.map ListCall.toFifo)).Accounted := by
    refine Fifos.accounted_run hops fun d => ?_
    rw [hzero]
    rfl
  refine ⟨s, _, rfl, rfl, hl.refines (Fifos.bounded_run hinit), hacc, fun d hd => ?_,
    fun hown => Fifos.taken_run_le hops hown fun d => (hzero d).le.trans (Nat.zero_le 1)⟩
  exact Fifos.existsUnique_place hacc (hl.log ▸ hd)

/-- Two lists of limit 1: one drops its element when the next one comes, and that one when the other
list is mounted.  The first node freed is given out again. -/
theorem simpleLists_refine_mount :
    ∃ (s : ListStore (Fin 2) Nat) (f : Fifos (Fin 2) Nat),
      (simpleLists fun _ => 1).runUnder MountsFit (some .init)
        [.addRear 0 10 (some 1), .addRear 0 20 (some 2), .addRear 1 30 (some 1),
          .addRear 1 40 none, .mountRear 0 1, .getHeaddata 0, .clean 0] = some (some s) ∧
      s.Refines (fun _ => 1) f ∧ f.Accounted ∧
      s.log = ⟨[10, 20, 30, 40], [30], [10, 20], [40]⟩ := by
  obtain ⟨x, hx⟩ : ∃ x : Option (ListStore (Fin 2) Nat),
      (simpleLists fun _ => 1).runUnder MountsFit (some .init)
      [.addRear 0 10 (some 1), .addRear 0 20 (some 2), .addRear 1 30 (some 1),
        .addRear 1 40 none, .mountRear 0 1, .getHeaddata 0, .clean 0] = some x := ⟨_, rfl⟩
  obtain ⟨s, f, rfl, hf, href, hacc, -, -⟩ :=
    simpleLists_refine (fun _ => ⟨by decide, by decide⟩) hx
  exact ⟨s, f, hx, href, hacc, href.log.trans (congrArg Fifos.log hf)⟩

end Runs

/-! ## The lists as sequences -/

namespace BoschSimpleList

variable {α : Type*}

theorem dropWhileOver_eq (n : Nat) (d : List α) :
    (dropWhileOver n d).1 = keepLast n d ∧
      (dropWhileOver n d).2.map Freed.pData = overflow n d := by
  induction d with
  | nil => simp [dropWhileOver, keepLast, overflow]
  | cons x rest ih =>
      by_cases hover : n < (x :: rest).length
      · have hrest : n ≤ rest.length := Nat.le_of_lt_succ hover
        simp only [dropWhileOver, if_pos hover, List.map_cons, keepLast_cons hrest,
          overflow_cons hrest, ih, and_self]
      · have hfits : (x :: rest).length ≤ n := Nat.le_of_not_lt hover
        simp only [dropWhileOver, if_neg hover, List.map_nil, keepLast_of_length_le hfits,
          overflow_of_length_le hfits, and_self]

/-- What `list_add_rear` does to the sequence of a list is a push onto a bounded queue. -/
theorem listAddRear_eq {l : BoschSimpleList α} (h : l.listLen ≤ l.uplimit) (x : α) :
    (l.listAddRear x true).list.data = keepLast l.uplimit (l.data ++ [x]) ∧
      (l.listAddRear x true).freed.map Freed.pData = overflow l.uplimit (l.data ++ [x]) := by
  rcases Nat.lt_or_eq_of_le h with hlt | hfull
  · have hfits : (l.data ++ [x]).length ≤ l.uplimit := by
      rw [List.length_append]
      exact hlt
    rw [listAddRear_of_lt x hlt, keepLast_of_length_le hfits, overflow_of_length_le hfits]
    exact ⟨rfl, rfl⟩
  · have hpos := l.uplimit_pos
    rcases hd : l.data with _ | ⟨d, rest⟩
    · rw [listLen, hd, List.length_nil] at hfull
      omega
    · have hrest : (rest ++ [x]).length = l.uplimit := by
        rw [← hfull, listLen, hd, List.length_append]
        rfl
      rw [List.cons_append, keepLast_cons hrest.ge, overflow_cons hrest.ge,
        keepLast_of_length_le hrest.le, overflow_of_length_le hrest.le]
      simp only [listAddRear, Bool.true_eq_false, if_false, if_pos hfull, listGetHeaddata_cons hd,
        Option.toList_some, List.map_cons, List.map_nil, and_self]

/-- And `list_mount_rear` appends one queue to another. -/
theorem listMountRear_eq {l m : BoschSimpleList α} (h : l.listLen ≤ l.uplimit) :
    (l.listMountRear m).list.data = keepLast l.uplimit (l.data ++ m.data) ∧
      (l.listMountRear m).freed.map Freed.pData = overflow l.uplimit (l.data ++ m.data) := by
  unfold listMountRear
  split
  case isTrue h0 =>
    rw [show m.data = [] from List.length_eq_zero_iff.mp h0, List.append_nil,
      keepLast_of_length_le h, overflow_of_length_le h]
    exact ⟨rfl, rfl⟩
  case isFalse => exact dropWhileOver_eq _ _

end BoschSimpleList

section Sequences

variable {ι δ : Type*} [DecidableEq ι] {uplimit : ι → Nat} {s : ListStore ι δ} {f : Fifos ι δ}
  {cells : ι → List (Nat × δ)} {i j : ι}

/-- The sequence a list of the heap stands for. -/
def queueList (f : Fifos ι δ) (i : ι) {n : Nat} (hpos : 0 < n) : BoschSimpleList δ :=
  ⟨f.queue i, n, hpos⟩

/-- Adding in the heap adds to the sequence, and frees the same data. -/
theorem addRear_sequence (hl : Layout s f cells) (hb : f.Bounded uplimit)
    (hu : ∀ i, 0 < uplimit i ∧ uplimit i < 2 ^ 32) {nod : Nat} (hfree : s.heap nod = none) (x : δ) :
    ∃ t f' cells', s.exec uplimit (.addRear i x (some nod)) = some t ∧ Layout t f' cells' ∧
      f'.queue i = ((queueList f i (hu i).1).listAddRear x true).list.data ∧
      t.log.freed = s.log.freed ++
        ((queueList f i (hu i).1).listAddRear x true).freed.map Freed.pData := by
  obtain ⟨t, cells', ht, hlt, -⟩ := hl.exec hb hu (c := .addRear i x (some nod))
    (Option.isNone_iff_eq_none.mpr hfree) trivial
  obtain ⟨hdata, hfreed⟩ := BoschSimpleList.listAddRear_eq
    (l := queueList f i (hu i).1) (hb i) x
  refine ⟨t, _, cells', ht, hlt, ?_, ?_⟩
  · rw [hdata]
    exact if_pos rfl
  · rw [hlt.log, hl.log, hfreed]
    rfl

/-- Mounting in the heap mounts the sequence, and frees the same data. -/
theorem mountRear_sequence (hl : Layout s f cells) (hb : f.Bounded uplimit)
    (hu : ∀ i, 0 < uplimit i ∧ uplimit i < 2 ^ 32) (hne : i ≠ j)
    (hlen : (s.lists i).listLen + (s.lists j).listLen < 2 ^ 32) :
    ∃ t f' cells', s.exec uplimit (.mountRear i j) = some t ∧ Layout t f' cells' ∧
      f'.queue i = ((queueList f i (hu i).1).listMountRear
        (queueList f j (hu j).1)).list.data ∧
      t.log.freed = s.log.freed ++ ((queueList f i (hu i).1).listMountRear
        (queueList f j (hu j).1)).freed.map Freed.pData := by
  obtain ⟨t, cells', ht, hlt, -⟩ := hl.exec_mountRear hb hne hlen
  obtain ⟨hdata, hfreed⟩ := BoschSimpleList.listMountRear_eq
    (l := queueList f i (hu i).1) (m := queueList f j (hu j).1) (hb i)
  refine ⟨t, _, cells', ht, hlt, ?_, ?_⟩
  · rw [hdata]
    exact if_pos rfl
  · rw [hlt.log, hl.log, hfreed]
    rfl

end Sequences

/-! ## Where the counter wraps -/

section Wrap

variable {ι δ : Type*} [DecidableEq ι] {uplimit : ι → Nat}

/-- Data added to a list, each in a new node of the same number. -/
def addAll (i : ι) (ks : List Nat) : List (ListCall ι Nat) := ks.map fun k => .addRear i k (some k)

theorem run_addAll (hu : ∀ i, 0 < uplimit i ∧ uplimit i < 2 ^ 32) {i : ι} {n m : Nat}
    {s : ListStore ι Nat} {f : Fifos ι Nat} {cells : ι → List (Nat × Nat)}
    (hl : Layout s f cells) (hn : NoLeak s cells) (hlen : (cells i).length + n ≤ uplimit i)
    (hold : ∀ j, ∀ a ∈ addrs (cells j), a < m) :
    ∃ t f' cells', (simpleLists uplimit).run (some s) (addAll i (List.range' m n)) =
        some (some t) ∧ Layout t f' cells' ∧ NoLeak t cells' ∧
      (∀ j, ∀ a ∈ addrs (cells' j), a < m + n) ∧ (cells' i).length = (cells i).length + n ∧
      ∀ j, j ≠ i → cells' j = cells j := by
  induction n generalizing m s f cells with
  | zero => exact ⟨s, f, cells, rfl, hl, hn, hold, rfl, fun _ _ => rfl⟩
  | succ n ih =>
      have hfree : s.heap m = none := by
        by_contra hne
        obtain ⟨j, hj⟩ := hn m hne
        exact absurd (hold j m hj) (Nat.lt_irrefl m)
      obtain ⟨t, ht, hlt, hnt⟩ := hl.exec_addRear (i := i) hfree (by omega) (hu i).2 m
      have hstep : (simpleLists uplimit).step (some s) (.addRear i m (some m)) =
          some (some t) := by
        have hen : s.Enabled (.addRear i m (some m)) := Option.isNone_iff_eq_none.mpr hfree
        rw [step_of_enabled hen, ht]
      obtain ⟨u, f', cells', hu', hlu, hnu, hold', hlen', hother⟩ :=
        ih (m := m + 1) hlt (hnt hn)
          (by rw [setCells_same, List.length_append, List.length_singleton]; omega)
          (fun j a ha => by
            simp only [setCells] at ha
            split at ha
            · rw [addrs_append] at ha
              rcases List.mem_append.mp ha with ha | ha
              · exact Nat.lt_succ_of_lt (hold i a ha)
              · rw [show a = m by simpa using ha]
                exact Nat.lt_succ_self m
            · exact Nat.lt_succ_of_lt (hold j a ha))
      refine ⟨u, f', cells', ?_, hlu, hnu, fun j a ha => ?_, ?_, fun j hj => ?_⟩
      · rw [List.range'_succ, addAll, List.map_cons, Machine.run_cons, hstep, Option.bind_some]
        exact hu'
      · have := hold' j a ha
        omega
      · rw [hlen', setCells_same, List.length_append, List.length_singleton]
        omega
      · rw [hother j hj]
        exact if_neg hj

/-- Mounting more nodes than the counter can count: it wraps, and nothing is dropped. -/
theorem listMountRear_wraps {s : ListStore ι δ} {f : Fifos ι δ} {cells : ι → List (Nat × δ)}
    {i j : ι} (hl : Layout s f cells) (hb : f.Bounded uplimit)
    (hu : ∀ i, 0 < uplimit i ∧ uplimit i < 2 ^ 32) (hne : i ≠ j)
    (hlen : 2 ^ 32 ≤ (s.lists i).listLen + (s.lists j).listLen) :
    ∃ t, s.listMountRear uplimit i (some j) = some (0, t) ∧ (t.lists i).head ≠ none ∧
      (t.lists i).listLen = (s.lists i).listLen + (s.lists j).listLen - 2 ^ 32 := by
  have hi : (s.lists i).listLen ≤ uplimit i := by
    rw [hl.len, ← hl.length_queue]
    exact hb i
  have hj : (s.lists j).listLen ≤ uplimit j := by
    rw [hl.len, ← hl.length_queue]
    exact hb j
  have hui := (hu i).2
  have huj := (hu j).2
  obtain ⟨l, h, hlink, hcount, -, hchain, -, -⟩ :=
    hl.linked.linkRear (i := i) (s.lists j).head (s.lists j).tail (s.lists j).listLen (hl.chain j)
      (hl.apart i j hne)
  have hwrapped : l.listLen = (s.lists i).listLen + (s.lists j).listLen - 2 ^ 32 := by
    rw [hcount]
    omega
  have hcells : cells i ≠ [] := by
    intro hnil
    rw [hl.len i, hnil, List.length_nil] at hlen
    omega
  have hhead : l.head ≠ none := hchain.head_ne_none (by simp [hcells])
  have hlist : ((ListStore.setList { s.setList i l with heap := h } j ⟨none, none, 0⟩).lists i) =
      l := by
    simp only [ListStore.setList, if_neg hne, if_pos]
  -- the truncation loop finds nothing to do
  have hunder : ¬ uplimit i < l.listLen := by
    rw [hwrapped]
    omega
  have hloop : ListStore.freeWhileOver i (uplimit i) l.listLen
      (ListStore.setList { s.setList i l with heap := h } j ⟨none, none, 0⟩) =
        some (ListStore.setList { s.setList i l with heap := h } j ⟨none, none, 0⟩) := by
    rcases l.listLen with _ | n <;> simp only [ListStore.freeWhileOver, hlist, if_neg hunder]
  refine ⟨_, ?_, by rwa [hlist], by rw [hlist, hwrapped]⟩
  have hj0 : (s.lists j).listLen ≠ 0 := by omega
  simp only [ListStore.listMountRear, if_neg hj0, hlink, Option.bind_some, hlist, hloop,
    if_neg hunder, Option.map_some]

end Wrap

/-- Every limit is `2 ^ 32 - 1`. -/
def maxLimit {ι : Type*} : ι → Nat := fun _ => 2 ^ 32 - 1

theorem maxLimit_bounds {ι : Type*} (i : ι) : 0 < (maxLimit i : Nat) ∧ (maxLimit i : Nat) < 2 ^ 32 := by
  unfold maxLimit
  omega

/-- Two lists of `2 ^ 31` nodes each can be built. -/
theorem exists_half_full : ∃ (cs : List (ListCall (Fin 2) Nat)) (s : ListStore (Fin 2) Nat)
    (f : Fifos (Fin 2) Nat) (cells : Fin 2 → List (Nat × Nat)),
    (simpleLists maxLimit).run (some .init) cs = some (some s) ∧ Layout s f cells ∧
      f.Bounded maxLimit ∧ (∀ a, 2 ^ 32 ≤ a → s.heap a = none) ∧
      ∀ i, (s.lists i).listLen = 2 ^ 31 := by
  obtain ⟨s, f, cells, hs, hl, hn, hold, hlen, hother⟩ :=
    run_addAll (i := (0 : Fin 2)) (n := 2 ^ 31) (m := 0) maxLimit_bounds
      Layout.init (fun a h => absurd rfl h) (by simp [maxLimit]) (by simp)
  obtain ⟨t, f', cells', ht, hlt, hnt, hold', hlen', hother'⟩ :=
    run_addAll (i := (1 : Fin 2)) (n := 2 ^ 31) maxLimit_bounds hl hn
      (by rw [hother 1 (by decide)]; simp [maxLimit]) hold
  have hfull : ∀ i, (cells' i).length = 2 ^ 31 := by
    rw [Fin.forall_fin_two, hother' 0 (by decide), hlen, hlen', hother 1 (by decide),
      List.length_nil, Nat.zero_add]
    exact ⟨rfl, rfl⟩
  refine ⟨addAll 0 (List.range' 0 (2 ^ 31)) ++ addAll 1 (List.range' (0 + 2 ^ 31) (2 ^ 31)), t, f',
    cells', ?_, hlt, fun i => ?_, fun a ha => ?_, fun i => ?_⟩
  · rw [Machine.run_append, hs, Option.bind_some, ht]
  · rw [hlt.length_queue, hfull]
    unfold maxLimit
    omega
  · by_contra hne
    obtain ⟨i, hi⟩ := hnt a hne
    have := hold' i a hi
    omega
  · rw [hlt.len, hfull]

/-- With limits of `2 ^ 32 - 1`: two lists of `2 ^ 31` nodes are joined. -/
theorem simpleLists_wrap :
    ¬ ∀ (cs : List (ListCall (Fin 2) Nat)) (x : Option (ListStore (Fin 2) Nat)),
      (simpleLists fun _ => 2 ^ 32 - 1).run (some .init) cs = some x →
      ∃ s, x = some s ∧
        s.Refines (fun _ => 2 ^ 32 - 1)
          (Fifos.init.run (fun _ => 2 ^ 32 - 1) (cs.map ListCall.toFifo)) := by
  intro hall
  obtain ⟨cs, s, f, cells, hs, hl, hb, -, hlen⟩ := exists_half_full
  obtain ⟨t, hmount, hhead, hcount⟩ := listMountRear_wraps hl hb maxLimit_bounds
    (i := 0) (j := 1) (by decide) (by rw [hlen, hlen]; omega)
  have hen : s.Enabled (.mountRear (0 : Fin 2) 1) := by
    show (0 : Fin 2) ≠ 1
    decide
  have hrun : (simpleLists fun _ => 2 ^ 32 - 1).run (some .init) (cs ++ [.mountRear 0 1]) =
      some (some t) := by
    rw [Machine.run_append, show (simpleLists fun _ => 2 ^ 32 - 1).run (some .init) cs = _ from hs,
      Option.bind_some, Machine.run_cons]
    show ((simpleLists maxLimit).step (some s) (.mountRear 0 1)).bind _ = _
    rw [step_of_enabled hen, ListStore.exec, hmount, Option.map_some, Option.bind_some,
      Machine.run_nil]
  obtain ⟨_, heq, href⟩ := hall _ _ hrun
  cases heq
  refine hhead ((href.empty 0).mpr ?_)
  rw [hcount, hlen, hlen]
  rfl

end Smi240Hal.Legacy
