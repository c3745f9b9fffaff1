/-
# Smi240Hal.Legacy.AlignReplay — the indication array and its replay, in machine integers

`sort_input_samples` and the second step of `sensord_algo_process` communicate through the indication
array.  Here both are taken with the integers of the source: the sums of the lengths are `uint32_t`,
the indices of the replay `int32_t`.  While the slots can be counted by an `int` what comes out is
the merge of the two arrays.  Two arrays of 2^31 samples come out as nothing at all.
-/
import Smi240Hal.Legacy.AlignBounds

namespace Smi240Hal.Legacy

variable {F : Type}

/-! ## What the two loops compute -/

/-- The part of the indication array that is replayed; nothing when there are no samples. -/
def indication (ppAcc ppGyro : List (HwDataUnion F)) : Option (List Nat) :=
  (sortInputSamplesU32 true ppAcc ppGyro).map fun out => (out.1.getD []).take out.2

/-- The values `cur_base_tm` takes, one for each iteration of the alignment loop. -/
def baseTimes (ppAcc ppGyro : List (HwDataUnion F)) : Nat → SortState → Option (List Int)
  | 0, s => if addU32 s.accHwdataLen s.gyroHwdataLen = 0 then some [] else none
  | fuel + 1, s =>
      if addU32 s.accHwdataLen s.gyroHwdataLen = 0 then some []
      else do
        let base ← curBaseTm ppAcc ppGyro s
        let t ← sortBodyInt ppAcc ppGyro s
        let rest ← baseTimes ppAcc ppGyro fuel t
        some (base :: rest)

section Replay

variable [CFloat F]

/-- The replay of one slot; `none` also where an index overflows. -/
def replaySlotInt (ppAcc ppGyro : List (HwDataUnion F)) (flag accIdx gyrIdx : Nat) :
    Option (List BsxFifoData × Nat × Nat) :=
  (replaySlot ppAcc ppGyro flag accIdx gyrIdx).bind fun r =>
    if r.2.1 < 2 ^ 31 ∧ r.2.2 < 2 ^ 31 then some r else none

/-- Step 2 of `sensord_algo_process`. -/
def replayInt (ppAcc ppGyro : List (HwDataUnion F)) :
    List Nat → Nat → Nat → Option (List (List BsxFifoData))
  | [], _, _ => some []
  | flag :: rest, accIdx, gyrIdx => do
      let (package, accIdx', gyrIdx') ← replaySlotInt ppAcc ppGyro flag accIdx gyrIdx
      let packages ← replayInt ppAcc ppGyro rest accIdx' gyrIdx'
      some (package :: packages)

/-- `sensord_algo_process`. -/
def sensordAlgoProcessInt (m : ProcessAlloc) (acclraw gyroraw : BoschSimpleList (HwDataUnion F)) :
    Option (ProcessResult F) :=
  sensordAlgoProcessWith (addU32 acclraw.listLen gyroraw.listLen)
    (sortInputSamplesU32 m.alignInd acclraw.data gyroraw.data)
    (fun flags => replayInt acclraw.data gyroraw.data flags 0 0) m acclraw gyroraw

end Replay

/-! ## The loops compute the slots -/

/-- The bases of the alignment loop are the times of the slots. -/
theorem baseTimes_eq (ppAcc ppGyro : List (HwDataUnion F)) (fuel : Nat) :
    ∀ (as gs : List (HwDataUnion F)) (n : Nat) (s : SortState) (done : List Nat),
      AtSlot ppAcc ppGyro s as gs done (List.replicate n 0) → s.Behind →
      as.length + gs.length ≤ fuel → (alignSlots as gs).length ≤ n →
      done.length + (alignSlots as gs).length < 2 ^ 31 →
      baseTimes ppAcc ppGyro fuel s = some ((alignSlots as gs).map slotTime) := by
  have hdone : ∀ {as gs : List (HwDataUnion F)}, as.length + gs.length = 0 →
      alignSlots as gs = [] := by
    intro as gs h
    rw [List.length_eq_zero_iff.mp (show as.length = 0 by omega),
      List.length_eq_zero_iff.mp (show gs.length = 0 by omega), alignSlots]
  induction fuel with
  | zero =>
      intro as gs n s done hat _ hfuel _ hslots
      have hzero := Nat.le_zero.mp hfuel
      rw [baseTimes, hat.accLen, hat.gyrLen, addU32_of_slots (by omega), if_pos hzero, hdone hzero,
        List.map_nil]
  | succ fuel ih =>
      intro as gs n s done hat hbehind hfuel hn hslots
      rw [baseTimes, hat.accLen, hat.gyrLen, addU32_of_slots (by omega)]
      split
      case isTrue hzero => rw [hdone hzero, List.map_nil]
      case isFalse hne =>
        have hroom := alignSlots_length_pos hne
        obtain ⟨n, rfl⟩ : ∃ k, n = k + 1 := ⟨n - 1, by omega⟩
        obtain ⟨slot, as', gs', t, heq, hless, -, hint, hat', hbehind'⟩ :=
          sortBodyInt_slot hat hbehind hne hslots
        rw [heq, List.length_cons] at hn hslots
        have hlen : (done ++ [slotFlag slot]).length = done.length + 1 := List.length_append
        have hrest := ih as' gs' n t _ hat' hbehind' (by omega) (by omega) (by omega)
        rw [curBaseTm_eq hat, hint, heq, List.map_cons, (alignSlots_cons heq).base]
        simp only [Option.bind_eq_bind, Option.bind_some, hrest]

theorem indication_eq {as gs : List (HwDataUnion F)} (hslots : (alignSlots as gs).length < 2 ^ 31) :
    indication as gs = some ((alignSlots as gs).map slotFlag) := by
  unfold indication
  rw [sortInputSamplesU32_eq hslots]
  by_cases hne : as.length + gs.length = 0
  · rw [List.length_eq_zero_iff.mp (show as.length = 0 by omega),
      List.length_eq_zero_iff.mp (show gs.length = 0 by omega), alignSlots]
    rfl
  · obtain ⟨ind, hsort, htake⟩ := sortInputSamples_eq hne
    rw [hsort, Option.map_some, Option.getD_some, htake]

theorem keepSucceeding_sublist {α : Type*} (failed : List Nat) (l : List α) :
    List.Sublist (keepSucceeding failed l) l := by
  have := (List.filter_sublist (p := fun e : α × Nat => !failed.contains e.2)
    (l := l.zipIdx)).map Prod.fst
  rwa [List.zipIdx_map_fst] at this

theorem keepSucceeding_nil {α : Type*} (l : List α) : keepSucceeding [] l = l := by
  simp [keepSucceeding]

section Process

variable [CFloat F]

/-- The replay of a slot reads inside the arrays, so its indices stay within them. -/
theorem replaySlot_indices {ppAcc ppGyro : List (HwDataUnion F)} {flag i j : Nat}
    {r : List BsxFifoData × Nat × Nat} (hi : i ≤ ppAcc.length) (hj : j ≤ ppGyro.length)
    (h : replaySlot ppAcc ppGyro flag i j = some r) :
    r.2.1 ≤ ppAcc.length ∧ r.2.2 ≤ ppGyro.length := by
  -- an index moves by one, and only behind a sample that was read
  have hread : ∀ {l : List (HwDataUnion F)} {bit k : Nat} {f : HwDataUnion F → BsxFifoData}
      {data : List BsxFifoData}, k ≤ l.length →
      (if flag &&& bit ≠ 0 then (l[k]?).map (fun s => [f s]) else some []) = some data →
      k + data.length ≤ l.length := by
    intro l bit k f data hk hdata
    split at hdata
    case isTrue =>
      obtain ⟨s, hs, rfl⟩ := Option.map_eq_some_iff.mp hdata
      exact (List.getElem?_eq_some_iff.mp hs).1
    case isFalse =>
      cases hdata
      exact hk
  have heq : replaySlot ppAcc ppGyro flag i j =
      (if flag &&& HAS_ACC ≠ 0 then (ppAcc[i]?).map (fun s => [accelInData s]) else some []).bind
        fun acc => (if flag &&& HAS_GYR ≠ 0 then (ppGyro[j]?).map (fun s => [angInData s])
          else some []).bind fun gyr => some (acc ++ gyr, i + acc.length, j + gyr.length) := by
    by_cases hacc : flag &&& HAS_ACC = 0 <;> by_cases hgyr : flag &&& HAS_GYR = 0 <;>
      simp [replaySlot, hacc, hgyr, Option.bind_map]
  rw [heq] at h
  obtain ⟨acc, hacc, h⟩ := Option.bind_eq_some_iff.mp h
  obtain ⟨gyr, hgyr, h⟩ := Option.bind_eq_some_iff.mp h
  cases h
  exact ⟨hread hi hacc, hread hj hgyr⟩

theorem replayInt_eq {ppAcc ppGyro : List (HwDataUnion F)} (ha : ppAcc.length < 2 ^ 31)
    (hg : ppGyro.length < 2 ^ 31) (flags : List Nat) :
    ∀ i j : Nat, i ≤ ppAcc.length → j ≤ ppGyro.length →
      replayInt ppAcc ppGyro flags i j = replay ppAcc ppGyro flags i j := by
  induction flags with
  | nil => exact fun _ _ _ _ => rfl
  | cons flag rest ih =>
      intro i j hi hj
      unfold replayInt replay replaySlotInt
      cases hslot : replaySlot ppAcc ppGyro flag i j with
      | none => rfl
      | some r =>
          obtain ⟨hacc, hgyr⟩ := replaySlot_indices hi hj hslot
          have hint : r.2.1 < 2 ^ 31 ∧ r.2.2 < 2 ^ 31 := ⟨by omega, by omega⟩
          simp only [Option.bind_eq_bind, Option.bind_some, if_pos hint, ih _ _ hacc hgyr]

/-- Where the slots can be counted by an `int` the call is the one on natural numbers. -/
theorem sensordAlgoProcessInt_eq {acclraw gyroraw : BoschSimpleList (HwDataUnion F)}
    (hslots : (alignSlots acclraw.data gyroraw.data).length < 2 ^ 31) (m : ProcessAlloc) :
    sensordAlgoProcessInt m acclraw gyroraw = sensordAlgoProcess m acclraw gyroraw := by
  obtain ⟨hacc, hgyr⟩ := length_le_alignSlots acclraw.data gyroraw.data
  have htotal : addU32 acclraw.listLen gyroraw.listLen = acclraw.listLen + gyroraw.listLen :=
    addU32_of_slots hslots
  have hreplay : (fun flags => replayInt acclraw.data gyroraw.data flags 0 0) =
      fun flags => replay acclraw.data gyroraw.data flags 0 0 :=
    funext fun flags => replayInt_eq (by omega) (by omega) flags 0 0 (Nat.zero_le _) (Nat.zero_le _)
  unfold sensordAlgoProcessInt sensordAlgoProcess
  rw [htotal, sortInputSamplesU32_eq hslots, hreplay]

/-- An entry of a package becomes one event, of the same time. -/
theorem packageEvent_slot {slot : Option (HwDataUnion F) × Option (HwDataUnion F)} {d : BsxFifoData}
    (h : d ∈ slotPackage slot) :
    ∃ e : SensorsEvent F, packageEvent d = some e ∧ e.timestamp = d.timeStamp := by
  rcases List.mem_append.mp h with h | h
  · obtain ⟨s, -, rfl⟩ := List.mem_map.mp h
    exact ⟨_, packageEvent_accelInData s, rfl⟩
  · obtain ⟨s, -, rfl⟩ := List.mem_map.mp h
    exact ⟨_, packageEvent_angInData s, rfl⟩

/-- The times of the packages are those of the samples in slot order, and so are the times of the
events made from them. -/
theorem package_times (slots : List (Option (HwDataUnion F) × Option (HwDataUnion F))) :
    (slots.map slotPackage).flatten.map BsxFifoData.timeStamp =
        (slots.flatMap slotSamples).map HwDataUnion.timestamp ∧
      ((slots.map slotPackage).flatten.filterMap
          (packageEvent : BsxFifoData → Option (SensorsEvent F))).map SensorsEvent.timestamp =
        (slots.map slotPackage).flatten.map BsxFifoData.timeStamp := by
  constructor
  · induction slots with
    | nil => rfl
    | cons slot slots ih =>
        rw [List.map_cons, List.flatten_cons, List.map_append, ih, List.flatMap_cons,
          List.map_append, slotPackage, slotSamples, List.map_append, List.map_append, List.map_map,
          List.map_map]
        rfl
  · have hall : ∀ d ∈ (slots.map slotPackage).flatten,
        ∃ e : SensorsEvent F, packageEvent d = some e ∧ e.timestamp = d.timeStamp := by
      intro d hd
      obtain ⟨package, hp, hd⟩ := List.mem_flatten.mp hd
      obtain ⟨slot, -, rfl⟩ := List.mem_map.mp hp
      exact packageEvent_slot hd
    generalize (slots.map slotPackage).flatten = ds at hall
    induction ds with
    | nil => rfl
    | cons d ds ih =>
        obtain ⟨e, he, htime⟩ := hall d (List.mem_cons_self ..)
        rw [filterMap_cons_toList, he, Option.toList_some, List.singleton_append, List.map_cons,
          List.map_cons, htime, ih fun x hx => hall x (List.mem_cons_of_mem d hx)]

/-- A call succeeds, and writes the events of the packages, those apart whose allocation or write
fails; or none, when an array is not allocated. -/
theorem sensordAlgoProcess_packages (m : ProcessAlloc)
    (acclraw gyroraw : BoschSimpleList (HwDataUnion F)) :
    ∃ r, sensordAlgoProcess m acclraw gyroraw = some r ∧
      ((m ≠ .ok ∧ r.events = []) ∨ r.events = keepSucceeding m.failed
        (((alignSlots acclraw.data gyroraw.data).map slotPackage).flatten.filterMap
          packageEvent)) := by
  unfold sensordAlgoProcess sensordAlgoProcessWith
  by_cases hne : acclraw.listLen + gyroraw.listLen = 0
  · rw [if_pos hne]
    refine ⟨_, rfl, Or.inr ?_⟩
    have ha : acclraw.data = [] := List.length_eq_zero_iff.mp (Nat.eq_zero_of_add_eq_zero hne).1
    have hg : gyroraw.data = [] := List.length_eq_zero_iff.mp (Nat.eq_zero_of_add_eq_zero hne).2
    rw [ha, hg, alignSlots]
    rfl
  · rw [if_neg hne]
    split
    case isTrue hfail => exact ⟨_, rfl, Or.inl ⟨by rintro rfl; exact absurd hfail.2 (by decide), rfl⟩⟩
    case isFalse =>
      dsimp only
      split
      case isTrue hfail =>
        exact ⟨_, rfl, Or.inl ⟨by rintro rfl; exact absurd hfail.2 (by decide), rfl⟩⟩
      case isFalse =>
        rcases hind : m.alignInd
        · have hsort : sortInputSamples false acclraw.data gyroraw.data = some (none, 0) :=
            (if_neg hne).trans (if_pos rfl)
          rw [hsort]
          refine ⟨_, rfl, Or.inl ⟨?_, rfl⟩⟩
          rintro rfl
          exact absurd hind (by decide)
        · obtain ⟨ind, hsort, htake⟩ := sortInputSamples_eq hne
          simp only [hsort, Option.bind_some, htake, replay_eq acclraw.data gyroraw.data
            acclraw.data gyroraw.data 0 0 (List.drop_zero ..) (List.drop_zero ..), Option.map_some]
          exact ⟨_, rfl, Or.inr rfl⟩

/-- Accelerometer and gyroscope arrays whose slots an `int` can count, in order of their time stamps,
those of the gyroscope positive: the indication array and its replay come to a merge (`MergedSlots`),
with the bases of the alignment loop as the times of the slots.  The events written are in order of
time, and if no allocation or write fails, there is one for each entry of the packages, of its
time. -/
theorem sort_and_replay_merge {as gs : List (HwDataUnion F)}
    (hslots : (alignSlots as gs).length < 2 ^ 31) (ha : TimeOrdered as) (hg : TimeOrdered gs)
    (hpos : ∀ g ∈ gs, 0 < g.timestamp) :
    ∃ flags packages bases slots, indication as gs = some flags ∧
      replayInt as gs flags 0 0 = some packages ∧
      baseTimes as gs (as.length + gs.length) (sortStart as gs) = some bases ∧
      MergedSlots as gs flags packages bases slots ∧
      ∀ (m : ProcessAlloc) (acclraw gyroraw : BoschSimpleList (HwDataUnion F)),
        acclraw.data = as → gyroraw.data = gs →
        ∃ r, sensordAlgoProcessInt m acclraw gyroraw = some r ∧
          (r.events.map SensorsEvent.timestamp).Pairwise (· ≤ ·) ∧
          (m = .ok → r.events = packages.flatten.filterMap packageEvent ∧
            r.events.map SensorsEvent.timestamp = packages.flatten.map BsxFifoData.timeStamp) := by
  obtain ⟨hacc, hgyr⟩ := length_le_alignSlots as gs
  have hreplay : replayInt as gs ((alignSlots as gs).map slotFlag) 0 0 =
      some ((alignSlots as gs).map slotPackage) := by
    rw [replayInt_eq (by omega) (by omega) _ 0 0 (Nat.zero_le _) (Nat.zero_le _)]
    exact replay_eq as gs as gs 0 0 (List.drop_zero ..) (List.drop_zero ..)
  have hbases : baseTimes as gs (as.length + gs.length) (sortStart as gs) =
      some ((alignSlots as gs).map slotTime) := by
    apply baseTimes_eq as gs _ as gs _ _ [] (atSlot_sortStart as gs)
    · exact ⟨Nat.le_refl 0, Nat.le_refl 0⟩
    · exact Nat.le_refl _
    · exact alignSlots_length_le as gs
    · rw [List.length_nil, Nat.zero_add]
      exact hslots
  refine ⟨_, _, _, alignSlots as gs, indication_eq hslots, hreplay, hbases,
    mergedSlots ha hg hpos, ?_⟩
  rintro m acclraw gyroraw rfl rfl
  obtain ⟨htimes, hevents⟩ := package_times (alignSlots acclraw.data gyroraw.data)
  obtain ⟨r, hr, hout⟩ := sensordAlgoProcess_packages m acclraw gyroraw
  have hrising := timeOrdered_iff.mp (timeOrdered_alignOrder ha hg hpos)
  have hsorted : ((((alignSlots acclraw.data gyroraw.data).map slotPackage).flatten.filterMap
      (packageEvent : BsxFifoData → Option (SensorsEvent F))).map
        SensorsEvent.timestamp).Pairwise (· ≤ ·) := by
    rw [hevents, htimes]
    exact hrising
  refine ⟨r, (sensordAlgoProcessInt_eq hslots m).trans hr, ?_, ?_⟩
  · rcases hout with ⟨-, hnil⟩ | hkept
    · rw [hnil]
      exact List.Pairwise.nil
    · rw [hkept, ← keepSucceeding_map]
      exact hsorted.sublist (keepSucceeding_sublist _ _)
  · rintro rfl
    rcases hout with ⟨hnot, -⟩ | hkept
    · exact absurd rfl hnot
    · rw [show ProcessAlloc.ok.failed = [] from rfl, keepSucceeding_nil] at hkept
      rw [hkept]
      exact ⟨rfl, hevents⟩

/-- Repeated times on both sides, and a tie of the two heads. -/
theorem sort_and_replay_merge_tie : ∃ flags packages bases slots,
    MergedSlots [⟨0, 0, 0, 0, 0, 10⟩, ⟨1, 0, 0, 0, 0, 20⟩, ⟨2, 0, 0, 0, 0, 20⟩]
      [(⟨3, 0, 0, 0, 0, 10⟩ : HwDataUnion ℚ), ⟨4, 0, 0, 0, 0, 20⟩] flags packages bases slots := by
  have hle := alignSlots_length_le [⟨0, 0, 0, 0, 0, 10⟩, ⟨1, 0, 0, 0, 0, 20⟩, ⟨2, 0, 0, 0, 0, 20⟩]
    [(⟨3, 0, 0, 0, 0, 10⟩ : HwDataUnion ℚ), ⟨4, 0, 0, 0, 0, 20⟩]
  simp only [List.length_cons, List.length_nil] at hle
  have ha : TimeOrdered [(⟨0, 0, 0, 0, 0, 10⟩ : HwDataUnion ℚ), ⟨1, 0, 0, 0, 0, 20⟩,
      ⟨2, 0, 0, 0, 0, 20⟩] := by
    simp [TimeOrdered]
  have hg : TimeOrdered [(⟨3, 0, 0, 0, 0, 10⟩ : HwDataUnion ℚ), ⟨4, 0, 0, 0, 0, 20⟩] := by
    simp [TimeOrdered]
  obtain ⟨flags, packages, bases, slots, -, -, -, hmerged, -⟩ :=
    sort_and_replay_merge (by omega) ha hg (by simp)
  exact ⟨flags, packages, bases, slots, hmerged⟩

/-- 2^31 samples of each sensor, all stamped 1. -/
def manySamples : List (HwDataUnion ℚ) := List.replicate (2 ^ 31) ⟨0, 0, 0, 0, 0, 1⟩

/-- On two arrays of 2^31 samples the sum of the lengths is zero: nothing is marked, and
`sensord_algo_process` returns with both lists as they were and no event.  So it is not a merge for
all lengths. -/
theorem sort_and_replay_drops_all :
    (indication manySamples manySamples = some [] ∧
      ∀ (m : ProcessAlloc) (acclraw gyroraw : BoschSimpleList (HwDataUnion ℚ)),
        acclraw.data = manySamples → gyroraw.data = manySamples →
        sensordAlgoProcessInt m acclraw gyroraw = some ⟨acclraw, gyroraw, []⟩) ∧
    ¬ ∀ as gs : List (HwDataUnion ℚ), as.length < 2 ^ 32 → gs.length < 2 ^ 32 →
      TimeOrdered as → TimeOrdered gs → (∀ g ∈ gs, 0 < g.timestamp) →
      ∃ flags packages bases slots, indication as gs = some flags ∧
        MergedSlots as gs flags packages bases slots := by
  have hlen : manySamples.length = 2 ^ 31 := List.length_replicate
  have hordered : TimeOrdered manySamples :=
    List.pairwise_replicate.mpr (Or.inr (Int.le_refl 1))
  have hpositive : ∀ g ∈ manySamples, 0 < g.timestamp := by
    intro g hg
    rw [List.eq_of_mem_replicate hg]
    decide
  generalize manySamples = samples at hlen hordered hpositive
  have hzero : addU32 samples.length samples.length = 0 := by
    rw [hlen, addU32]
    omega
  have hnothing : indication samples samples = some [] := by
    simp only [indication, sortInputSamplesU32, if_pos hzero]
    rfl
  refine ⟨⟨hnothing, ?_⟩, fun hall => ?_⟩
  · intro m acclraw gyroraw ha hg
    have htotal : addU32 acclraw.listLen gyroraw.listLen = 0 := by
      unfold BoschSimpleList.listLen
      rw [ha, hg]
      exact hzero
    unfold sensordAlgoProcessInt sensordAlgoProcessWith
    exact if_pos htotal
  · obtain ⟨flags, packages, bases, slots, hflags, hmerged⟩ :=
      hall samples samples (by omega) (by omega) hordered hordered hpositive
    have hempty : flags = [] := Option.some.inj (hflags.symm.trans hnothing)
    have hslots : slots = [] := List.map_eq_nil_iff.mp (hmerged.marks.trans hempty)
    have hacc := hmerged.acc
    rw [hslots] at hacc
    rw [← hacc] at hlen
    exact absurd hlen (by decide)

end Process

end Smi240Hal.Legacy
