/-
# Smi240Hal.Legacy.AlignMerge — the alignment is a merge by time stamp

`sort_input_samples` marks, slot by slot, which sample is due, and the second step of
`sensord_algo_process` reads the marks back with indices of its own.  Between them there is only the
indication array; `alignSlots` is what both mean by it.  Here the slots are shown to be a merge: each
sample once and in its own order, the times of the slots never falling, and a slot shared exactly
when the two samples that are next have the same time.
-/
import Smi240Hal.Legacy.SensordAlgo

namespace Smi240Hal.Legacy

variable {F : Type}

/-- The variables before the alignment loop. -/
def sortStart (ppAcc ppGyro : List (HwDataUnion F)) : SortState :=
  { accCurIndex := 0, gyrCurIndex := 0, pos := 0, accHwdataLen := ppAcc.length,
    gyroHwdataLen := ppGyro.length, alignInd := List.replicate (ppAcc.length + ppGyro.length) 0 }

theorem atSlot_sortStart (as gs : List (HwDataUnion F)) :
    AtSlot as gs (sortStart as gs) as gs [] (List.replicate (as.length + gs.length) 0) :=
  ⟨List.drop_zero .., rfl, List.drop_zero .., rfl, rfl, rfl⟩

/-! ## One slot -/

/-- The time a slot is due. -/
def slotTime : Option (HwDataUnion F) × Option (HwDataUnion F) → Int
  | (some a, _) => a.timestamp
  | (none, some g) => g.timestamp
  | (none, none) => 0

/-- The samples of a slot, the accelerometer first. -/
def slotSamples (slot : Option (HwDataUnion F) × Option (HwDataUnion F)) : List (HwDataUnion F) :=
  slot.1.toList ++ slot.2.toList

/-- The next samples have the same time. -/
def HeadsEqual (as gs : List (HwDataUnion F)) : Prop :=
  ∃ a ∈ as.head?, ∃ g ∈ gs.head?, a.timestamp = g.timestamp

/-- The first slot takes from the front of the two lists, at the time of the loop's base, and from
both exactly when their heads are equal. -/
structure FirstSlot (as gs : List (HwDataUnion F))
    (slot : Option (HwDataUnion F) × Option (HwDataUnion F))
    (rest : List (Option (HwDataUnion F) × Option (HwDataUnion F))) : Prop where
  acc : slot.1.toList ++ as.drop slot.1.toList.length = as
  gyr : slot.2.toList ++ gs.drop slot.2.toList.length = gs
  rest : alignSlots (as.drop slot.1.toList.length) (gs.drop slot.2.toList.length) = rest
  base : slotTime slot = headBase as gs
  nonempty : slotSamples slot ≠ []
  time : ∀ x ∈ slotSamples slot, x.timestamp = slotTime slot
  shared : slot.1.isSome = true ∧ slot.2.isSome = true ↔ HeadsEqual as gs

theorem alignSlots_cons {as gs : List (HwDataUnion F)} {slot} {rest}
    (h : alignSlots as gs = slot :: rest) : FirstSlot as gs slot rest := by
  rcases as with _ | ⟨a, as⟩ <;> rcases gs with _ | ⟨g, gs⟩
  · rw [alignSlots] at h
    exact absurd h (by simp)
  · rw [alignSlots, List.cons.injEq] at h
    obtain ⟨rfl, rfl⟩ := h
    exact ⟨rfl, rfl, rfl, rfl, by simp [slotSamples], by simp [slotSamples, slotTime],
      by simp [HeadsEqual]⟩
  · rw [alignSlots, List.cons.injEq] at h
    obtain ⟨rfl, rfl⟩ := h
    exact ⟨rfl, rfl, rfl, rfl, by simp [slotSamples], by simp [slotSamples, slotTime],
      by simp [HeadsEqual]⟩
  · have hheads : HeadsEqual (a :: as) (g :: gs) ↔ a.timestamp = g.timestamp := by
      simp [HeadsEqual]
    rw [alignSlots] at h
    split at h
    case isTrue hlt =>
      -- the gyroscope sample is earlier
      rw [List.cons.injEq] at h
      obtain ⟨rfl, rfl⟩ := h
      refine ⟨rfl, rfl, rfl, ?_, by simp [slotSamples], by simp [slotSamples, slotTime], ?_⟩
      · rw [slotTime, headBase, if_pos hlt.1, if_neg (by omega)]
      · rw [hheads]
        exact iff_of_false (by simp) (by omega)
    case isFalse hnot =>
      have hbase : headBase (a :: as) (g :: gs) = a.timestamp := by
        rw [headBase]
        split
        · split <;> omega
        · rfl
      split at h
      case isTrue heq =>
        rw [List.cons.injEq] at h
        obtain ⟨rfl, rfl⟩ := h
        refine ⟨rfl, rfl, rfl, hbase.symm, by simp [slotSamples], by simp [slotSamples, slotTime, heq],
          ?_⟩
        rw [hheads]
        exact iff_of_true (by simp) heq.symm
      case isFalse hne =>
        rw [List.cons.injEq] at h
        obtain ⟨rfl, rfl⟩ := h
        refine ⟨rfl, rfl, rfl, hbase.symm, by simp [slotSamples], by simp [slotSamples, slotTime], ?_⟩
        rw [hheads]
        exact iff_of_false (by simp) fun heq => hne heq.symm

/-! ## All slots -/

theorem filterMap_cons_toList {α β : Type} (f : α → Option β) (x : α) (l : List α) :
    (x :: l).filterMap f = (f x).toList ++ l.filterMap f := by
  cases hx : f x <;> simp [hx]

/-- The slots from one on are those of the samples that are left. -/
theorem alignSlots_append {as gs : List (HwDataUnion F)} {pre post}
    (h : alignSlots as gs = pre ++ post) :
    alignSlots (as.drop (pre.filterMap Prod.fst).length)
      (gs.drop (pre.filterMap Prod.snd).length) = post := by
  induction pre generalizing as gs with
  | nil => exact h
  | cons slot pre ih =>
      have hfirst := alignSlots_cons h
      have hrest := ih hfirst.rest
      rw [filterMap_cons_toList, filterMap_cons_toList, List.length_append, List.length_append,
        ← List.drop_drop, ← List.drop_drop]
      exact hrest

/-- Every sample is in one slot, in the order of its list. -/
theorem alignSlots_samples (as gs : List (HwDataUnion F)) :
    (alignSlots as gs).filterMap Prod.fst = as ∧ (alignSlots as gs).filterMap Prod.snd = gs := by
  generalize hslots : alignSlots as gs = slots
  induction slots generalizing as gs with
  | nil =>
      have hnil : ¬ as.length + gs.length ≠ 0 := by
        intro hne
        have := alignSlots_length_pos hne
        rw [hslots] at this
        exact Nat.lt_irrefl 0 this
      rw [List.length_eq_zero_iff.mp (show as.length = 0 by omega),
        List.length_eq_zero_iff.mp (show gs.length = 0 by omega)]
      exact ⟨rfl, rfl⟩
  | cons slot slots ih =>
      have hfirst := alignSlots_cons hslots
      obtain ⟨hacc, hgyr⟩ := ih _ _ hfirst.rest
      rw [filterMap_cons_toList, filterMap_cons_toList, hacc, hgyr]
      exact ⟨hfirst.acc, hfirst.gyr⟩

/-- The times of the slots are those of samples, so they rise when the samples do. -/
theorem slotTimes_sublist (as gs : List (HwDataUnion F)) :
    List.Sublist ((alignSlots as gs).map slotTime)
      ((alignOrder as gs).map HwDataUnion.timestamp) := by
  unfold alignOrder
  generalize hslots : alignSlots as gs = slots
  induction slots generalizing as gs with
  | nil => exact List.Sublist.slnil
  | cons slot slots ih =>
      have hfirst := alignSlots_cons hslots
      have hrest := ih _ _ hfirst.rest
      obtain ⟨x, xs, hx⟩ := List.exists_cons_of_ne_nil hfirst.nonempty
      have htime := hfirst.time x (by rw [hx]; exact List.mem_cons_self ..)
      rw [List.flatMap_cons, show slot.1.toList ++ slot.2.toList = x :: xs from hx, List.cons_append,
        List.map_cons, List.map_cons, htime, List.map_append]
      exact (hrest.trans (List.sublist_append_right _ _)).cons_cons _

/-- What the indication array, the packages and the bases of the two loops have in common. -/
structure MergedSlots [CFloat F] (as gs : List (HwDataUnion F)) (flags : List Nat)
    (packages : List (List BsxFifoData)) (bases : List Int)
    (slots : List (Option (HwDataUnion F) × Option (HwDataUnion F))) : Prop where
  marks : slots.map slotFlag = flags
  inputs : slots.map slotPackage = packages
  times : slots.map slotTime = bases
  /-- every sample once, in the order of its array -/
  acc : slots.filterMap Prod.fst = as
  gyr : slots.filterMap Prod.snd = gs
  time : ∀ slot ∈ slots, slotSamples slot ≠ [] ∧ ∀ x ∈ slotSamples slot, x.timestamp = slotTime slot
  rising : bases.Pairwise (· ≤ ·)
  /-- the heads are what the slots before have left -/
  shared : ∀ pre slot post, slots = pre ++ slot :: post →
    (slot.1.isSome = true ∧ slot.2.isSome = true ↔
      HeadsEqual (as.drop (pre.filterMap Prod.fst).length) (gs.drop (pre.filterMap Prod.snd).length))

theorem timeOrdered_iff {l : List (HwDataUnion F)} :
    TimeOrdered l ↔ (l.map HwDataUnion.timestamp).Pairwise (· ≤ ·) :=
  List.pairwise_map.symm

theorem mergedSlots [CFloat F] {as gs : List (HwDataUnion F)} (ha : TimeOrdered as)
    (hg : TimeOrdered gs) (hpos : ∀ g ∈ gs, 0 < g.timestamp) :
    MergedSlots as gs ((alignSlots as gs).map slotFlag) ((alignSlots as gs).map slotPackage)
      ((alignSlots as gs).map slotTime) (alignSlots as gs) where
  marks := rfl
  inputs := rfl
  times := rfl
  acc := (alignSlots_samples as gs).1
  gyr := (alignSlots_samples as gs).2
  time := by
    intro slot hslot
    obtain ⟨pre, post, heq⟩ := List.append_of_mem hslot
    have hfirst := alignSlots_cons (alignSlots_append heq)
    exact ⟨hfirst.nonempty, hfirst.time⟩
  rising := (timeOrdered_iff.mp (timeOrdered_alignOrder ha hg hpos)).sublist (slotTimes_sublist as gs)
  shared := fun _ _ _ heq => (alignSlots_cons (alignSlots_append heq)).shared

end Smi240Hal.Legacy
