/-
# Smi240Hal.Legacy.AlignBounds — the alignment loop in machine integers

The lengths of `sort_input_samples` are `uint32_t`, so that their sum wraps, and the two indices and
`pos` are `int`.  While the slots can be counted by an `int` the sum is exact wherever it is taken and
the loop is the one on natural numbers, whatever the time stamps are.  Two arrays of 2^31 samples make
a sum of zero.
-/
import Smi240Hal.Legacy.AlignMerge
import Mathlib.Algebra.Order.Ring.Nat

namespace Smi240Hal.Legacy

variable {F : Type}

/-! ## The loop -/

/-- `+` on `uint32_t`. -/
def addU32 (a b : Nat) : Nat := (a + b) % 2 ^ 32

/-- The three `int`s have been incremented without overflow. -/
def SortState.InInt (s : SortState) : Prop :=
  s.accCurIndex < 2 ^ 31 ∧ s.gyrCurIndex < 2 ^ 31 ∧ s.pos < 2 ^ 31

instance (s : SortState) : Decidable s.InInt := inferInstanceAs (Decidable (_ ∧ _ ∧ _))

/-- One iteration; `none` also where an `int` overflows. -/
def sortBodyInt (ppAcc ppGyro : List (HwDataUnion F)) (s : SortState) : Option SortState :=
  (sortBody ppAcc ppGyro s).bind fun t => if t.InInt then some t else none

/-- `while (ACC_hwdata_len + GYRO_hwdata_len)`, with `none` when `fuel` iterations do not end it. -/
def sortLoopU32 (ppAcc ppGyro : List (HwDataUnion F)) : Nat → SortState → Option SortState
  | 0, s => if addU32 s.accHwdataLen s.gyroHwdataLen = 0 then some s else none
  | fuel + 1, s =>
      if addU32 s.accHwdataLen s.gyroHwdataLen = 0 then some s
      else (sortBodyInt ppAcc ppGyro s).bind (sortLoopU32 ppAcc ppGyro fuel)

/-- `sort_input_samples`, with the loop given as many iterations as there are samples. -/
def sortInputSamplesU32 (calloc : Bool) (ppAcc ppGyro : List (HwDataUnion F)) :
    Option (Option (List Nat) × Nat) :=
  let total := addU32 ppAcc.length ppGyro.length
  if total = 0 then some (none, 0)
  else if calloc = false then some (none, 0)
  else
    (sortLoopU32 ppAcc ppGyro (ppAcc.length + ppGyro.length)
      { accCurIndex := 0, gyrCurIndex := 0, pos := 0, accHwdataLen := ppAcc.length,
        gyroHwdataLen := ppGyro.length, alignInd := List.replicate total 0 }).map
      fun s => (some s.alignInd, s.pos)

/-! ## No overflow while the slots can be counted -/

theorem addU32_eq {a b : Nat} (h : a + b < 2 ^ 32) : addU32 a b = a + b :=
  Nat.mod_eq_of_lt h

/-- Each sample has a slot of its own among those of its sensor. -/
theorem length_le_alignSlots (as gs : List (HwDataUnion F)) :
    as.length ≤ (alignSlots as gs).length ∧ gs.length ≤ (alignSlots as gs).length := by
  obtain ⟨hacc, hgyr⟩ := alignSlots_samples as gs
  constructor
  · calc as.length = ((alignSlots as gs).filterMap Prod.fst).length := by rw [hacc]
      _ ≤ (alignSlots as gs).length := List.length_filterMap_le _ _
  · calc gs.length = ((alignSlots as gs).filterMap Prod.snd).length := by rw [hgyr]
      _ ≤ (alignSlots as gs).length := List.length_filterMap_le _ _

theorem addU32_of_slots {as gs : List (HwDataUnion F)} (h : (alignSlots as gs).length < 2 ^ 31) :
    addU32 as.length gs.length = as.length + gs.length := by
  obtain ⟨hacc, hgyr⟩ := length_le_alignSlots as gs
  exact addU32_eq (by omega)

theorem markAcc_indices {ppAcc : List (HwDataUnion F)} {base : Int} {s t : SortState}
    (h : markAcc ppAcc base s = some t) :
    t.accCurIndex ≤ s.accCurIndex + 1 ∧ t.gyrCurIndex = s.gyrCurIndex ∧ t.pos = s.pos := by
  have hsame : s.accCurIndex ≤ s.accCurIndex + 1 := Nat.le_succ _
  unfold markAcc at h
  split at h
  · obtain ⟨acc, -, h⟩ := Option.bind_eq_some_iff.mp h
    split at h
    · obtain ⟨ind, -, h⟩ := Option.bind_eq_some_iff.mp h
      cases h
      exact ⟨Nat.le_refl _, rfl, rfl⟩
    · cases h
      exact ⟨hsame, rfl, rfl⟩
  · cases h
    exact ⟨hsame, rfl, rfl⟩

theorem markGyr_indices {ppGyro : List (HwDataUnion F)} {base : Int} {s t : SortState}
    (h : markGyr ppGyro base s = some t) :
    t.gyrCurIndex ≤ s.gyrCurIndex + 1 ∧ t.accCurIndex = s.accCurIndex ∧ t.pos = s.pos := by
  have hsame : s.gyrCurIndex ≤ s.gyrCurIndex + 1 := Nat.le_succ _
  unfold markGyr at h
  split at h
  · obtain ⟨gyr, -, h⟩ := Option.bind_eq_some_iff.mp h
    split at h
    · obtain ⟨ind, -, h⟩ := Option.bind_eq_some_iff.mp h
      cases h
      exact ⟨Nat.le_refl _, rfl, rfl⟩
    · cases h
      exact ⟨hsame, rfl, rfl⟩
  · cases h
    exact ⟨hsame, rfl, rfl⟩

/-- No index is ahead of `pos`. -/
def SortState.Behind (s : SortState) : Prop := s.accCurIndex ≤ s.pos ∧ s.gyrCurIndex ≤ s.pos

theorem sortBody_behind {ppAcc ppGyro : List (HwDataUnion F)} {s t : SortState}
    (h : sortBody ppAcc ppGyro s = some t) (hs : s.Behind) : t.Behind := by
  obtain ⟨base, -, h⟩ := Option.bind_eq_some_iff.mp h
  obtain ⟨s₁, hacc, h⟩ := Option.bind_eq_some_iff.mp h
  obtain ⟨s₂, hgyr, h⟩ := Option.bind_eq_some_iff.mp h
  obtain ⟨hacc₁, hgyr₁, hpos₁⟩ := markAcc_indices hacc
  obtain ⟨hgyr₂, hacc₂, hpos₂⟩ := markGyr_indices hgyr
  obtain ⟨hsacc, hsgyr⟩ := hs
  cases h
  constructor <;> dsimp only <;> omega

/-- One iteration at a slot that an `int` can count: no `int` overflows in it. -/
theorem sortBodyInt_slot {ppAcc ppGyro as gs : List (HwDataUnion F)} {s : SortState}
    {done tail : List Nat} (hat : AtSlot ppAcc ppGyro s as gs done (0 :: tail)) (hbehind : s.Behind)
    (hne : as.length + gs.length ≠ 0)
    (hslots : done.length + (alignSlots as gs).length < 2 ^ 31) :
    ∃ slot as' gs' t, alignSlots as gs = slot :: alignSlots as' gs' ∧
      as'.length + gs'.length < as.length + gs.length ∧
      sortBody ppAcc ppGyro s = some t ∧ sortBodyInt ppAcc ppGyro s = some t ∧
      AtSlot ppAcc ppGyro t as' gs' (done ++ [slotFlag slot]) tail ∧ t.Behind := by
  obtain ⟨slot, as', gs', t, heq, hless, hbody, hat'⟩ := sortBody_slot hat hne
  have hbehind' := sortBody_behind hbody hbehind
  rw [heq, List.length_cons] at hslots
  have hint : t.InInt := by
    obtain ⟨hacc, hgyr⟩ := hbehind'
    have hpos : t.pos = done.length + 1 := hat'.pos.trans List.length_append
    refine ⟨?_, ?_, ?_⟩ <;> omega
  refine ⟨slot, as', gs', t, heq, hless, hbody, ?_, hat', hbehind'⟩
  rw [sortBodyInt, hbody, Option.bind_some, if_pos hint]

/-- The loop in machine integers takes the same steps. -/
theorem sortLoopU32_eq (ppAcc ppGyro : List (HwDataUnion F)) (fuel : Nat) :
    ∀ (as gs : List (HwDataUnion F)) (n : Nat) (s : SortState) (done : List Nat),
      AtSlot ppAcc ppGyro s as gs done (List.replicate n 0) → s.Behind →
      (alignSlots as gs).length ≤ n → done.length + (alignSlots as gs).length < 2 ^ 31 →
      sortLoopU32 ppAcc ppGyro fuel s = sortLoop ppAcc ppGyro fuel s := by
  induction fuel with
  | zero =>
      intro as gs n s done hat _ _ hslots
      rw [sortLoopU32, sortLoop, hat.accLen, hat.gyrLen, addU32_of_slots (by omega)]
  | succ fuel ih =>
      intro as gs n s done hat hbehind hn hslots
      rw [sortLoopU32, sortLoop, hat.accLen, hat.gyrLen, addU32_of_slots (by omega)]
      by_cases hzero : as.length + gs.length = 0
      · rw [if_pos hzero, if_pos hzero]
      · rw [if_neg hzero, if_neg hzero]
        have hroom := alignSlots_length_pos hzero
        obtain ⟨n, rfl⟩ : ∃ k, n = k + 1 := ⟨n - 1, by omega⟩
        obtain ⟨slot, as', gs', t, heq, -, hbody, hint, hat', hbehind'⟩ :=
          sortBodyInt_slot hat hbehind hzero hslots
        rw [heq, List.length_cons] at hn hslots
        have hlen : (done ++ [slotFlag slot]).length = done.length + 1 := List.length_append
        rw [hint, hbody, Option.bind_some, Option.bind_some]
        exact ih as' gs' n t _ hat' hbehind' (by omega) (by omega)

theorem sortInputSamplesU32_eq {ppAcc ppGyro : List (HwDataUnion F)}
    (h : (alignSlots ppAcc ppGyro).length < 2 ^ 31) (calloc : Bool) :
    sortInputSamplesU32 calloc ppAcc ppGyro = sortInputSamples calloc ppAcc ppGyro := by
  have hloop : sortLoopU32 ppAcc ppGyro (ppAcc.length + ppGyro.length) (sortStart ppAcc ppGyro) =
      sortLoop ppAcc ppGyro (ppAcc.length + ppGyro.length) (sortStart ppAcc ppGyro) := by
    apply sortLoopU32_eq ppAcc ppGyro _ ppAcc ppGyro _ _ [] (atSlot_sortStart ppAcc ppGyro)
    · exact ⟨Nat.le_refl 0, Nat.le_refl 0⟩
    · exact alignSlots_length_le ppAcc ppGyro
    · rw [List.length_nil, Nat.zero_add]
      exact h
  unfold sortStart at hloop
  unfold sortInputSamplesU32 sortInputSamples
  dsimp only
  rw [addU32_of_slots h, hloop]

/-! ## What the indication array holds -/

/-- Every slot holds a sample. -/
theorem slotSamples_ne_nil {as gs : List (HwDataUnion F)} {slot} (h : slot ∈ alignSlots as gs) :
    slotSamples slot ≠ [] := by
  obtain ⟨pre, post, hslots⟩ := List.append_of_mem h
  exact (alignSlots_cons (alignSlots_append hslots)).nonempty

theorem slotFlag_bits (slot : Option (HwDataUnion F) × Option (HwDataUnion F)) :
    (slotFlag slot &&& HAS_ACC ≠ 0 ↔ slot.1.isSome = true) ∧
      (slotFlag slot &&& HAS_GYR ≠ 0 ↔ slot.2.isSome = true) := by
  rcases slot with ⟨_ | a, _ | g⟩ <;> simp [slotFlag, HAS_ACC, HAS_GYR]

theorem slotFlag_ne_zero {slot : Option (HwDataUnion F) × Option (HwDataUnion F)}
    (h : slotSamples slot ≠ []) : slotFlag slot ≠ 0 := by
  rcases slot with ⟨_ | a, _ | g⟩
  · exact absurd rfl h
  · simp [slotFlag, HAS_GYR]
  · simp [slotFlag, HAS_ACC]
  · simp [slotFlag, HAS_ACC, HAS_GYR]

/-- As many slots are marked for a sensor as it has samples. -/
theorem countP_slotFlag (as gs : List (HwDataUnion F)) :
    ((alignSlots as gs).map slotFlag).countP (fun e => e &&& HAS_ACC ≠ 0) = as.length ∧
      ((alignSlots as gs).map slotFlag).countP (fun e => e &&& HAS_GYR ≠ 0) = gs.length := by
  obtain ⟨hacc, hgyr⟩ := alignSlots_samples as gs
  constructor
  · calc ((alignSlots as gs).map slotFlag).countP (fun e => e &&& HAS_ACC ≠ 0)
        = (alignSlots as gs).countP (fun slot => slot.1.isSome) := by
          rw [List.countP_map]
          apply List.countP_congr
          intro slot _
          simpa using (slotFlag_bits slot).1
      _ = as.length := by rw [← List.length_filterMap_eq_countP, hacc]
  · calc ((alignSlots as gs).map slotFlag).countP (fun e => e &&& HAS_GYR ≠ 0)
        = (alignSlots as gs).countP (fun slot => slot.2.isSome) := by
          rw [List.countP_map]
          apply List.countP_congr
          intro slot _
          simpa using (slotFlag_bits slot).2
      _ = gs.length := by rw [← List.length_filterMap_eq_countP, hgyr]

/-- The first `len` bytes mark each sample once, and none of them is zero. -/
structure Marks (ppAcc ppGyro : List (HwDataUnion F)) (ind : List Nat) (len : Nat) : Prop where
  iterations : len ≤ ppAcc.length + ppGyro.length
  allocated : len ≤ ind.length
  acc : (ind.take len).countP (fun e => e &&& HAS_ACC ≠ 0) = ppAcc.length
  gyr : (ind.take len).countP (fun e => e &&& HAS_GYR ≠ 0) = ppGyro.length
  nonzero : ∀ e ∈ ind.take len, e ≠ 0

theorem sortInputSamples_marks (ppAcc ppGyro : List (HwDataUnion F)) :
    ∃ ind len, sortInputSamples true ppAcc ppGyro = some (ind, len) ∧
      Marks ppAcc ppGyro (ind.getD []) len := by
  by_cases hne : ppAcc.length + ppGyro.length = 0
  · refine ⟨none, 0, by simp only [sortInputSamples, if_pos hne], Nat.zero_le _, Nat.zero_le _, ?_,
      ?_, nofun⟩
    · exact (show ppAcc.length = 0 by omega).symm
    · exact (show ppGyro.length = 0 by omega).symm
  · obtain ⟨ind, hind, htake⟩ := sortInputSamples_eq hne
    obtain ⟨hacc, hgyr⟩ := countP_slotFlag ppAcc ppGyro
    refine ⟨some ind, _, hind, alignSlots_length_le ppAcc ppGyro, ?_, ?_, ?_, ?_⟩
    · have hlen := congrArg List.length htake
      rw [List.length_take, List.length_map] at hlen
      show _ ≤ ind.length
      omega
    · rw [Option.getD_some, htake]
      exact hacc
    · rw [Option.getD_some, htake]
      exact hgyr
    · rw [Option.getD_some, htake]
      intro e he
      obtain ⟨slot, hslot, rfl⟩ := List.mem_map.mp he
      exact slotFlag_ne_zero (slotSamples_ne_nil hslot)

/-- While the slots can be counted by an `int`, `sort_input_samples` ends within as many iterations as
there are samples, for any time stamps; it stays within its arrays and its integers, and the array it
returns marks each sample once.  Without the array it returns a null pointer and no slots. -/
theorem sort_input_samples_bounds (calloc : Bool) (ppAcc ppGyro : List (HwDataUnion F))
    (hslots : (alignSlots ppAcc ppGyro).length < 2 ^ 31) :
    ∃ ind len, sortInputSamplesU32 calloc ppAcc ppGyro = some (ind, len) ∧
      (calloc = true → Marks ppAcc ppGyro (ind.getD []) len) ∧
      (calloc = false → ind = none ∧ len = 0) := by
  rw [sortInputSamplesU32_eq hslots]
  cases calloc with
  | true =>
      obtain ⟨ind, len, hind, hmarks⟩ := sortInputSamples_marks ppAcc ppGyro
      exact ⟨ind, len, hind, fun _ => hmarks, nofun⟩
  | false =>
      refine ⟨none, 0, ?_, nofun, fun _ => ⟨rfl, rfl⟩⟩
      unfold sortInputSamples
      dsimp only
      split
      · rfl
      · rfl

/-- A gyroscope sample stamped 0 between unsorted and repeated ones. -/
theorem sort_input_samples_bounds_unsorted :
    let ppAcc : List (HwDataUnion ℚ) := [⟨0, 0, 0, 0, 0, 20⟩, ⟨1, 0, 0, 0, 0, -5⟩]
    let ppGyro : List (HwDataUnion ℚ) := [⟨2, 0, 0, 0, 0, 0⟩, ⟨3, 0, 0, 0, 0, -5⟩]
    ∃ ind len, sortInputSamplesU32 true ppAcc ppGyro = some (ind, len) ∧
      (true = true → Marks ppAcc ppGyro (ind.getD []) len) ∧
      (true = false → ind = none ∧ len = 0) := by
  intro ppAcc ppGyro
  have hle := alignSlots_length_le ppAcc ppGyro
  have hfour : ppAcc.length + ppGyro.length = 4 := rfl
  exact sort_input_samples_bounds true ppAcc ppGyro (by omega)

/-- Two arrays of 2^31 samples: the sum of the lengths is zero, and nothing is marked.  And an array
that cannot be allocated: nothing is marked for the one sample there is. -/
theorem sort_input_samples_unmarked :
    (¬ ∀ ppAcc ppGyro : List (HwDataUnion ℚ), ppAcc.length < 2 ^ 32 → ppGyro.length < 2 ^ 32 →
      ∃ ind len, sortInputSamplesU32 true ppAcc ppGyro = some (ind, len) ∧
        Marks ppAcc ppGyro (ind.getD []) len) ∧
    (¬ ∀ (calloc : Bool) (ppAcc ppGyro : List (HwDataUnion ℚ)),
      (alignSlots ppAcc ppGyro).length < 2 ^ 31 →
      ∃ ind len, sortInputSamplesU32 calloc ppAcc ppGyro = some (ind, len) ∧
        Marks ppAcc ppGyro (ind.getD []) len) := by
  constructor
  · intro hall
    have hlen : (List.replicate (2 ^ 31) (⟨0, 0, 0, 0, 0, 1⟩ : HwDataUnion ℚ)).length = 2 ^ 31 :=
      List.length_replicate
    generalize List.replicate (2 ^ 31) (⟨0, 0, 0, 0, 0, 1⟩ : HwDataUnion ℚ) = samples at hlen
    have hzero : addU32 samples.length samples.length = 0 := by
      rw [hlen, addU32]
      omega
    obtain ⟨ind, len, hind, hmarks⟩ := hall samples samples (by omega) (by omega)
    simp only [sortInputSamplesU32, if_pos hzero, Option.some.injEq, Prod.mk.injEq] at hind
    obtain ⟨rfl, rfl⟩ := hind
    have hacc : 0 = samples.length := hmarks.acc
    omega
  · intro hall
    have hle := alignSlots_length_le ([⟨0, 0, 0, 0, 0, 1⟩] : List (HwDataUnion ℚ)) []
    have hone : ([⟨0, 0, 0, 0, 0, 1⟩] : List (HwDataUnion ℚ)).length + 0 = 1 := rfl
    obtain ⟨ind, len, hind, hmarks⟩ := hall false [⟨0, 0, 0, 0, 0, 1⟩] [] (by
      rw [List.length_nil, hone] at hle
      omega)
    have hnone : (ind, len) = (none, 0) := (Option.some.inj hind).symm
    cases hnone
    exact absurd hmarks.acc Nat.zero_ne_one

end Smi240Hal.Legacy
