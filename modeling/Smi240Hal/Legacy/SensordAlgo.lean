/-
# Smi240Hal.Legacy.SensordAlgo — aligning and delivering one batch of samples

`sensord_algo.cpp` takes everything off the two sensord-side lists, builds an indication array that
says at which slot each sample is due (`sort_input_samples`), replays that array, and delivers one
event for each sample.

The first part of this module is the code: arrays are read and written at an index, and an access
outside an array, or a loop that does not end, is `none`.  The second part is what the code is for:
`alignSlots`, a recursion on the two sample lists, says which samples share a slot.  The two are
connected by `sortInputSamples_eq` and `replay_eq`.
-/
import Smi240Hal.Legacy.BoschSimpleList
import Smi240Hal.Legacy.SensorData
import Mathlib.Data.List.Basic
import Mathlib.Data.List.Pairwise

namespace Smi240Hal.Legacy

variable {F : Type}

/-! ## `sort_input_samples` -/

def HAS_ACC : Nat := 0x1
def HAS_GYR : Nat := 0x4

/-- The variables of the alignment loop. -/
structure SortState where
  accCurIndex : Nat
  gyrCurIndex : Nat
  pos : Nat
  accHwdataLen : Nat
  gyroHwdataLen : Nat
  alignInd : List Nat
deriving DecidableEq

/-- `(*pp_align_ind)[pos] |= flag`. -/
def orAt (ind : List Nat) (pos flag : Nat) : Option (List Nat) :=
  (ind[pos]?).map fun old => ind.set pos (old ||| flag)

/-- The time base of a slot: the gyroscope head, unless the accelerometer head is earlier or the
base is still 0. -/
def curBaseTm (ppAcc ppGyro : List (HwDataUnion F)) (s : SortState) : Option Int := do
  let base ← if s.gyroHwdataLen ≠ 0 then (ppGyro[s.gyrCurIndex]?).map (·.timestamp) else some 0
  if s.accHwdataLen ≠ 0 then
    let acc ← ppAcc[s.accCurIndex]?
    if base ≠ 0 then some (if acc.timestamp < base then acc.timestamp else base)
    else some acc.timestamp
  else some base

/-- Mark the accelerometer head at this slot when it is due. -/
def markAcc (ppAcc : List (HwDataUnion F)) (base : Int) (s : SortState) : Option SortState :=
  if s.accHwdataLen ≠ 0 then do
    let acc ← ppAcc[s.accCurIndex]?
    if acc.timestamp = base then
      let ind ← orAt s.alignInd s.pos HAS_ACC
      some { s with alignInd := ind, accCurIndex := s.accCurIndex + 1,
                    accHwdataLen := s.accHwdataLen - 1 }
    else some s
  else some s

/-- Mark the gyroscope head at this slot when it is due. -/
def markGyr (ppGyro : List (HwDataUnion F)) (base : Int) (s : SortState) : Option SortState :=
  if s.gyroHwdataLen ≠ 0 then do
    let gyr ← ppGyro[s.gyrCurIndex]?
    if gyr.timestamp = base then
      let ind ← orAt s.alignInd s.pos HAS_GYR
      some { s with alignInd := ind, gyrCurIndex := s.gyrCurIndex + 1,
                    gyroHwdataLen := s.gyroHwdataLen - 1 }
    else some s
  else some s

/-- One iteration of the alignment loop. -/
def sortBody (ppAcc ppGyro : List (HwDataUnion F)) (s : SortState) : Option SortState := do
  let base ← curBaseTm ppAcc ppGyro s
  let s₁ ← markAcc ppAcc base s
  let s₂ ← markGyr ppGyro base s₁
  some { s₂ with pos := s₂.pos + 1 }

/-- `while (ACC_hwdata_len + GYRO_hwdata_len)`, with `none` when `fuel` iterations do not end it. -/
def sortLoop (ppAcc ppGyro : List (HwDataUnion F)) : Nat → SortState → Option SortState
  | 0, s => if s.accHwdataLen + s.gyroHwdataLen = 0 then some s else none
  | fuel + 1, s =>
      if s.accHwdataLen + s.gyroHwdataLen = 0 then some s
      else (sortBody ppAcc ppGyro s).bind (sortLoop ppAcc ppGyro fuel)

/-- `sort_input_samples`: the indication array (`none` for a NULL pointer) and `*p_len`.  `calloc`
says whether the allocation of the array succeeds. -/
def sortInputSamples (calloc : Bool) (ppAcc ppGyro : List (HwDataUnion F)) :
    Option (Option (List Nat) × Nat) :=
  let total := ppAcc.length + ppGyro.length
  if total = 0 then some (none, 0)
  else if calloc = false then some (none, 0)
  else
    (sortLoop ppAcc ppGyro total
      { accCurIndex := 0, gyrCurIndex := 0, pos := 0, accHwdataLen := ppAcc.length,
        gyroHwdataLen := ppGyro.length, alignInd := List.replicate total 0 }).map
      fun s => (some s.alignInd, s.pos)

/-! ## `sensord_algo_process` -/

section Process

variable [CFloat F]

/-- The replay of one slot: the library input package and the two indices afterwards. -/
def replaySlot (ppAcc ppGyro : List (HwDataUnion F)) (flag accIdx gyrIdx : Nat) :
    Option (List BsxFifoData × Nat × Nat) := do
  let acc ← if flag &&& HAS_ACC ≠ 0 then (ppAcc[accIdx]?).map (fun s => [accelInData s]) else some []
  let gyr ← if flag &&& HAS_GYR ≠ 0 then (ppGyro[gyrIdx]?).map (fun s => [angInData s]) else some []
  some (acc ++ gyr, accIdx + acc.length, gyrIdx + gyr.length)

/-- Step 2: the packages of all slots, in order. -/
def replay (ppAcc ppGyro : List (HwDataUnion F)) :
    List Nat → Nat → Nat → Option (List (List BsxFifoData))
  | [], _, _ => some []
  | flag :: rest, accIdx, gyrIdx => do
      let (package, accIdx', gyrIdx') ← replaySlot ppAcc ppGyro flag accIdx gyrIdx
      let packages ← replay ppAcc ppGyro rest accIdx' gyrIdx'
      some (package :: packages)

/-- Which allocations and writes of one `sensord_algo_process` call succeed; `failed` are the numbers
of the events whose `calloc` or `write` fails. -/
structure ProcessAlloc where
  accArray : Bool
  gyroArray : Bool
  alignInd : Bool
  failed : List Nat
deriving DecidableEq

/-- Every allocation and every write succeeds. -/
def ProcessAlloc.ok : ProcessAlloc := ⟨true, true, true, []⟩

/-- The outcome of `sensord_algo_process`: the two lists afterwards and the events written. -/
structure ProcessResult (F : Type) where
  acclraw : BoschSimpleList (HwDataUnion F)
  gyroraw : BoschSimpleList (HwDataUnion F)
  events : List (SensorsEvent F)

/-- `sensord_algo_process`, for the sum of the two list lengths, the outcome of
`sort_input_samples` and the replay of its array. -/
def sensordAlgoProcessWith (total : Nat) (sorted : Option (Option (List Nat) × Nat))
    (replayed : List Nat → Option (List (List BsxFifoData))) (m : ProcessAlloc)
    (acclraw gyroraw : BoschSimpleList (HwDataUnion F)) : Option (ProcessResult F) :=
  if total = 0 then some ⟨acclraw, gyroraw, []⟩
  else if acclraw.listLen ≠ 0 ∧ m.accArray = false then some ⟨acclraw, gyroraw, []⟩
  else
    -- the accelerometer list has been emptied into `pp_ACC_hwdata`
    let acclraw' := { acclraw with data := [] }
    if gyroraw.listLen ≠ 0 ∧ m.gyroArray = false then some ⟨acclraw', gyroraw, []⟩
    else
      let gyroraw' := { gyroraw with data := [] }
      sorted.bind fun (ind?, len) =>
        match ind? with
        | none => some ⟨acclraw', gyroraw', []⟩
        | some ind =>
            (replayed (ind.take len)).map fun packages =>
              let events := packages.flatten.filterMap packageEvent
              ⟨acclraw', gyroraw',
                (events.zipIdx.filter (fun e => !m.failed.contains e.2)).map Prod.fst⟩

/-- `sensord_algo_process` on lists short enough for its integers, as those of the two threads are:
each has an upper limit far below 2^31. -/
def sensordAlgoProcess (m : ProcessAlloc) (acclraw gyroraw : BoschSimpleList (HwDataUnion F)) :
    Option (ProcessResult F) :=
  sensordAlgoProcessWith (acclraw.listLen + gyroraw.listLen)
    (sortInputSamples m.alignInd acclraw.data gyroraw.data)
    (fun flags => replay acclraw.data gyroraw.data flags 0 0) m acclraw gyroraw

end Process

/-! ## Which samples share a slot -/

/-- The slots of two sample lists: the earlier head goes first, equal heads share a slot, and a
gyroscope head stamped 0 never goes before an accelerometer sample. -/
def alignSlots : List (HwDataUnion F) → List (HwDataUnion F) →
    List (Option (HwDataUnion F) × Option (HwDataUnion F))
  | [], [] => []
  | a :: as, [] => (some a, none) :: alignSlots as []
  | [], g :: gs => (none, some g) :: alignSlots [] gs
  | a :: as, g :: gs =>
      if g.timestamp ≠ 0 ∧ g.timestamp < a.timestamp then
        (none, some g) :: alignSlots (a :: as) gs
      else if g.timestamp = a.timestamp then (some a, some g) :: alignSlots as gs
      else (some a, none) :: alignSlots as (g :: gs)
termination_by as gs => as.length + gs.length

/-- The indication byte of a slot. -/
def slotFlag (slot : Option (HwDataUnion F) × Option (HwDataUnion F)) : Nat :=
  (if slot.1.isSome then HAS_ACC else 0) ||| (if slot.2.isSome then HAS_GYR else 0)

/-- The samples of all slots in the order they are delivered, the accelerometer first in a slot. -/
def alignOrder (as gs : List (HwDataUnion F)) : List (HwDataUnion F) :=
  (alignSlots as gs).flatMap fun slot => slot.1.toList ++ slot.2.toList

theorem alignSlots_length_le (as gs : List (HwDataUnion F)) :
    (alignSlots as gs).length ≤ as.length + gs.length := by
  induction as, gs using alignSlots.induct with
  | case1 => simp [alignSlots]
  | case2 a as ih =>
      rw [alignSlots]
      simp only [List.length_cons, List.length_nil] at ih ⊢
      omega
  | case3 g gs ih =>
      rw [alignSlots]
      simp only [List.length_cons, List.length_nil] at ih ⊢
      omega
  | case4 a as g gs hlt ih =>
      rw [alignSlots, if_pos hlt]
      simp only [List.length_cons] at ih ⊢
      omega
  | case5 a as g gs hlt heq ih =>
      rw [alignSlots, if_neg hlt, if_pos heq]
      simp only [List.length_cons] at ih ⊢
      omega
  | case6 a as g gs hlt heq ih =>
      rw [alignSlots, if_neg hlt, if_neg heq]
      simp only [List.length_cons] at ih ⊢
      omega

theorem alignSlots_length_pos {as gs : List (HwDataUnion F)} (h : as.length + gs.length ≠ 0) :
    0 < (alignSlots as gs).length := by
  fun_cases alignSlots as gs with
  | case1 => exact absurd rfl h
  | case2 | case3 | case4 | case5 | case6 => exact Nat.succ_pos _

/-! ## The loop computes the slots -/

/-- The state of the loop: `as` and `gs` are still to come, `done` is written and `tail` is the rest
of the indication array, its first byte that of the current slot. -/
structure AtSlot (ppAcc ppGyro : List (HwDataUnion F)) (s : SortState)
    (as gs : List (HwDataUnion F)) (done tail : List Nat) : Prop where
  acc : ppAcc.drop s.accCurIndex = as
  accLen : s.accHwdataLen = as.length
  gyr : ppGyro.drop s.gyrCurIndex = gs
  gyrLen : s.gyroHwdataLen = gs.length
  pos : s.pos = done.length
  ind : s.alignInd = done ++ tail

theorem getElem?_of_drop_eq_cons {α : Type*} {l rest : List α} {i : Nat} {a : α}
    (h : l.drop i = a :: rest) : l[i]? = some a ∧ l.drop (i + 1) = rest := by
  constructor
  · have := congrArg (·[0]?) h
    simpa using this
  · have := congrArg List.tail h
    simpa [List.tail_drop] using this

theorem orAt_append (done rest : List Nat) (cur flag : Nat) :
    orAt (done ++ cur :: rest) done.length flag = some (done ++ (cur ||| flag) :: rest) := by
  simp [orAt]

section Loop

variable {ppAcc ppGyro as gs : List (HwDataUnion F)} {s : SortState} {done tail : List Nat}
  {cur : Nat} {base : Int}

theorem markAcc_due {a : HwDataUnion F}
    (h : AtSlot ppAcc ppGyro s (a :: as) gs done (cur :: tail)) (hb : a.timestamp = base) :
    ∃ t, markAcc ppAcc base s = some t ∧
      AtSlot ppAcc ppGyro t as gs done ((cur ||| HAS_ACC) :: tail) := by
  obtain ⟨hget, hdrop⟩ := getElem?_of_drop_eq_cons h.acc
  have hlen : s.accHwdataLen = as.length + 1 := h.accLen
  refine ⟨{ s with alignInd := done ++ (cur ||| HAS_ACC) :: tail,
                   accCurIndex := s.accCurIndex + 1, accHwdataLen := s.accHwdataLen - 1 }, ?_, ?_⟩
  · unfold markAcc
    rw [if_pos (by omega), hget]
    simp only [Option.bind_eq_bind, Option.bind_some, if_pos hb]
    rw [h.ind, h.pos, orAt_append, Option.bind_some]
  · exact ⟨hdrop, by simp [hlen], h.gyr, h.gyrLen, h.pos, rfl⟩

theorem markAcc_notDue (h : AtSlot ppAcc ppGyro s as gs done tail)
    (hb : ∀ a ∈ as.head?, a.timestamp ≠ base) : markAcc ppAcc base s = some s := by
  unfold markAcc
  cases has : as with
  | nil =>
      have : s.accHwdataLen = 0 := by rw [h.accLen, has, List.length_nil]
      rw [if_neg (by omega)]
  | cons a as' =>
      have hlen := h.accLen
      rw [has, List.length_cons] at hlen
      have hget := (getElem?_of_drop_eq_cons (h.acc.trans has)).1
      have hne : a.timestamp ≠ base := hb a (by simp [has])
      rw [if_pos (by omega), hget]
      simp only [Option.bind_eq_bind, Option.bind_some, if_neg hne]

theorem markGyr_due {g : HwDataUnion F}
    (h : AtSlot ppAcc ppGyro s as (g :: gs) done (cur :: tail)) (hb : g.timestamp = base) :
    ∃ t, markGyr ppGyro base s = some t ∧
      AtSlot ppAcc ppGyro t as gs done ((cur ||| HAS_GYR) :: tail) := by
  obtain ⟨hget, hdrop⟩ := getElem?_of_drop_eq_cons h.gyr
  have hlen : s.gyroHwdataLen = gs.length + 1 := h.gyrLen
  refine ⟨{ s with alignInd := done ++ (cur ||| HAS_GYR) :: tail,
                   gyrCurIndex := s.gyrCurIndex + 1, gyroHwdataLen := s.gyroHwdataLen - 1 },
    ?_, ?_⟩
  · unfold markGyr
    rw [if_pos (by omega), hget]
    simp only [Option.bind_eq_bind, Option.bind_some, if_pos hb]
    rw [h.ind, h.pos, orAt_append, Option.bind_some]
  · exact ⟨h.acc, h.accLen, hdrop, by simp [hlen], h.pos, rfl⟩

theorem markGyr_notDue (h : AtSlot ppAcc ppGyro s as gs done tail)
    (hb : ∀ g ∈ gs.head?, g.timestamp ≠ base) : markGyr ppGyro base s = some s := by
  unfold markGyr
  cases hgs : gs with
  | nil =>
      have : s.gyroHwdataLen = 0 := by rw [h.gyrLen, hgs, List.length_nil]
      rw [if_neg (by omega)]
  | cons g gs' =>
      have hlen := h.gyrLen
      rw [hgs, List.length_cons] at hlen
      have hget := (getElem?_of_drop_eq_cons (h.gyr.trans hgs)).1
      have hne : g.timestamp ≠ base := hb g (by simp [hgs])
      rw [if_pos (by omega), hget]
      simp only [Option.bind_eq_bind, Option.bind_some, if_neg hne]

/-- The base of a slot, in terms of the two heads. -/
def headBase : List (HwDataUnion F) → List (HwDataUnion F) → Int
  | [], [] => 0
  | a :: _, [] => a.timestamp
  | [], g :: _ => g.timestamp
  | a :: _, g :: _ =>
      if g.timestamp ≠ 0 then (if a.timestamp < g.timestamp then a.timestamp else g.timestamp)
      else a.timestamp

theorem curBaseTm_eq (h : AtSlot ppAcc ppGyro s as gs done tail) :
    curBaseTm ppAcc ppGyro s = some (headBase as gs) := by
  unfold curBaseTm
  rw [h.accLen, h.gyrLen]
  cases has : as with
  | nil =>
      cases hgs : gs with
      | nil => simp [headBase]
      | cons g gs' =>
          have hget := (getElem?_of_drop_eq_cons (h.gyr.trans hgs)).1
          simp [headBase, hget]
  | cons a as' =>
      have hacc := (getElem?_of_drop_eq_cons (h.acc.trans has)).1
      cases hgs : gs with
      | nil => simp [headBase, hacc]
      | cons g gs' =>
          have hgyr := (getElem?_of_drop_eq_cons (h.gyr.trans hgs)).1
          by_cases h0 : g.timestamp = 0 <;> simp [headBase, hacc, hgyr, h0]

/-- `pos++` at the end of an iteration. -/
theorem AtSlot.advance (h : AtSlot ppAcc ppGyro s as gs done (cur :: tail)) :
    AtSlot ppAcc ppGyro { s with pos := s.pos + 1 } as gs (done ++ [cur]) tail where
  acc := h.acc
  accLen := h.accLen
  gyr := h.gyr
  gyrLen := h.gyrLen
  pos := by simp [h.pos]
  ind := by simp [h.ind]

/-- An iteration that marks the accelerometer head only. -/
theorem sortBody_acc {a : HwDataUnion F} (h : AtSlot ppAcc ppGyro s (a :: as) gs done (0 :: tail))
    (hb : headBase (a :: as) gs = a.timestamp)
    (hg : ∀ g ∈ gs.head?, g.timestamp ≠ a.timestamp) :
    ∃ t, sortBody ppAcc ppGyro s = some t ∧
      AtSlot ppAcc ppGyro t as gs (done ++ [slotFlag (some a, none)]) tail := by
  obtain ⟨t, ht, hat⟩ := markAcc_due h rfl
  have hskip := markGyr_notDue hat hg
  refine ⟨{ t with pos := t.pos + 1 }, ?_, ?_⟩
  · unfold sortBody
    rw [curBaseTm_eq h, hb]
    simp only [Option.bind_eq_bind, Option.bind_some, ht, hskip]
  · simpa [slotFlag] using hat.advance

/-- An iteration that marks the gyroscope head only. -/
theorem sortBody_gyr {g : HwDataUnion F} (h : AtSlot ppAcc ppGyro s as (g :: gs) done (0 :: tail))
    (hb : headBase as (g :: gs) = g.timestamp)
    (ha : ∀ a ∈ as.head?, a.timestamp ≠ g.timestamp) :
    ∃ t, sortBody ppAcc ppGyro s = some t ∧
      AtSlot ppAcc ppGyro t as gs (done ++ [slotFlag (none, some g)]) tail := by
  have hskip := markAcc_notDue h ha
  obtain ⟨t, ht, hat⟩ := markGyr_due h rfl
  refine ⟨{ t with pos := t.pos + 1 }, ?_, ?_⟩
  · unfold sortBody
    rw [curBaseTm_eq h, hb]
    simp only [Option.bind_eq_bind, Option.bind_some, ht, hskip]
  · simpa [slotFlag] using hat.advance

/-- An iteration that marks both heads. -/
theorem sortBody_both {a g : HwDataUnion F}
    (h : AtSlot ppAcc ppGyro s (a :: as) (g :: gs) done (0 :: tail))
    (hb : headBase (a :: as) (g :: gs) = a.timestamp) (hg : g.timestamp = a.timestamp) :
    ∃ t, sortBody ppAcc ppGyro s = some t ∧
      AtSlot ppAcc ppGyro t as gs (done ++ [slotFlag (some a, some g)]) tail := by
  obtain ⟨t, ht, hat⟩ := markAcc_due h rfl
  obtain ⟨u, hu, hau⟩ := markGyr_due hat hg
  refine ⟨{ u with pos := u.pos + 1 }, ?_, ?_⟩
  · unfold sortBody
    rw [curBaseTm_eq h, hb]
    simp only [Option.bind_eq_bind, Option.bind_some, ht, hu]
  · simpa [slotFlag] using hau.advance

/-- One iteration writes the byte of the first slot and moves on to the next. -/
theorem sortBody_slot (h : AtSlot ppAcc ppGyro s as gs done (0 :: tail))
    (hne : as.length + gs.length ≠ 0) :
    ∃ slot as' gs' t, alignSlots as gs = slot :: alignSlots as' gs' ∧
      as'.length + gs'.length < as.length + gs.length ∧
      sortBody ppAcc ppGyro s = some t ∧
      AtSlot ppAcc ppGyro t as' gs' (done ++ [slotFlag slot]) tail := by
  rcases as with _ | ⟨a, as⟩ <;> rcases gs with _ | ⟨g, gs⟩
  · exact absurd rfl hne
  · obtain ⟨t, ht, hat⟩ := sortBody_gyr h rfl (by simp)
    exact ⟨_, [], gs, t, by rw [alignSlots], by simp, ht, hat⟩
  · obtain ⟨t, ht, hat⟩ := sortBody_acc h rfl (by simp)
    exact ⟨_, as, [], t, by rw [alignSlots], by simp, ht, hat⟩
  · -- both lists have a head: the earlier one is marked, or both when they are equal
    by_cases hlt : g.timestamp ≠ 0 ∧ g.timestamp < a.timestamp
    · have hbase : headBase (a :: as) (g :: gs) = g.timestamp := by
        rw [headBase, if_pos hlt.1, if_neg (by omega)]
      obtain ⟨t, ht, hat⟩ := sortBody_gyr h hbase (by simp; omega)
      exact ⟨_, a :: as, gs, t, by rw [alignSlots, if_pos hlt], by simp, ht, hat⟩
    · have hbase : headBase (a :: as) (g :: gs) = a.timestamp := by
        rw [headBase]
        split
        · split <;> omega
        · rfl
      by_cases heq : g.timestamp = a.timestamp
      · obtain ⟨t, ht, hat⟩ := sortBody_both h hbase heq
        exact ⟨_, as, gs, t, by rw [alignSlots, if_neg hlt, if_pos heq], by simp; omega, ht, hat⟩
      · obtain ⟨t, ht, hat⟩ := sortBody_acc h hbase (by simpa using heq)
        exact ⟨_, as, g :: gs, t, by rw [alignSlots, if_neg hlt, if_neg heq], by simp, ht, hat⟩

end Loop

/-- The loop ends within the number of samples left, having written the bytes of their slots. -/
theorem sortLoop_eq (ppAcc ppGyro : List (HwDataUnion F)) (fuel : Nat) :
    ∀ (as gs : List (HwDataUnion F)) (n : Nat) (s : SortState) (done : List Nat),
      AtSlot ppAcc ppGyro s as gs done (List.replicate n 0) →
      as.length + gs.length ≤ fuel → (alignSlots as gs).length ≤ n →
      ∃ t, sortLoop ppAcc ppGyro fuel s = some t ∧
        t.alignInd = done ++ (alignSlots as gs).map slotFlag ++
          List.replicate (n - (alignSlots as gs).length) 0 ∧
        t.pos = done.length + (alignSlots as gs).length := by
  induction fuel with
  | zero =>
      intro as gs n s done hat hfuel _
      obtain rfl : as = [] := List.length_eq_zero_iff.mp (by omega)
      obtain rfl : gs = [] := List.length_eq_zero_iff.mp (by omega)
      refine ⟨s, ?_, by simp [alignSlots, hat.ind], by simp [alignSlots, hat.pos]⟩
      rw [sortLoop, if_pos (by simp [hat.accLen, hat.gyrLen])]
  | succ fuel ih =>
      intro as gs n s done hat hfuel hn
      by_cases hzero : as.length + gs.length = 0
      · obtain rfl : as = [] := List.length_eq_zero_iff.mp (by omega)
        obtain rfl : gs = [] := List.length_eq_zero_iff.mp (by omega)
        refine ⟨s, ?_, by simp [alignSlots, hat.ind], by simp [alignSlots, hat.pos]⟩
        rw [sortLoop, if_pos (by simp [hat.accLen, hat.gyrLen])]
      · -- the array still has room for the current slot, so its byte is the zero in front
        have hroom := alignSlots_length_pos hzero
        obtain ⟨n, rfl⟩ : ∃ k, n = k + 1 := ⟨n - 1, by omega⟩
        obtain ⟨slot, as', gs', t, hslots, hless, hbody, hat'⟩ := sortBody_slot hat hzero
        rw [hslots, List.length_cons] at hn
        obtain ⟨u, hu, hind, hpos⟩ := ih as' gs' n t _ hat' (by omega) (by omega)
        refine ⟨u, ?_, ?_, ?_⟩
        · rw [sortLoop, if_neg (by rw [hat.accLen, hat.gyrLen]; exact hzero), hbody,
            Option.bind_some, hu]
        · rw [hind, hslots]
          simp
        · rw [hpos, hslots]
          simp only [List.length_append, List.length_cons, List.length_nil]
          omega

/-- `sort_input_samples` on two lists that are not both empty: the array exists, and its first
`*p_len` bytes are those of the slots. -/
theorem sortInputSamples_eq {ppAcc ppGyro : List (HwDataUnion F)}
    (hne : ppAcc.length + ppGyro.length ≠ 0) :
    ∃ ind, sortInputSamples true ppAcc ppGyro =
        some (some ind, (alignSlots ppAcc ppGyro).length) ∧
      ind.take (alignSlots ppAcc ppGyro).length = (alignSlots ppAcc ppGyro).map slotFlag := by
  have hat : AtSlot ppAcc ppGyro
      { accCurIndex := 0, gyrCurIndex := 0, pos := 0, accHwdataLen := ppAcc.length,
        gyroHwdataLen := ppGyro.length,
        alignInd := List.replicate (ppAcc.length + ppGyro.length) 0 }
      ppAcc ppGyro [] (List.replicate (ppAcc.length + ppGyro.length) 0) :=
    ⟨by simp, rfl, by simp, rfl, rfl, by simp⟩
  obtain ⟨t, ht, hind, hpos⟩ := sortLoop_eq ppAcc ppGyro
    (ppAcc.length + ppGyro.length) ppAcc ppGyro (ppAcc.length + ppGyro.length) _ [] hat (Nat.le_refl _)
    (alignSlots_length_le ppAcc ppGyro)
  refine ⟨t.alignInd, ?_, ?_⟩
  · unfold sortInputSamples
    simp only [if_neg hne, Bool.true_eq_false, if_false, ht, Option.map_some, hpos,
      List.length_nil, Nat.zero_add]
  · rw [hind, List.nil_append]
    exact List.take_left' (by simp)

/-! ## The replay delivers the samples in slot order -/

section Replay

variable [CFloat F]

/-- The library input package of a slot. -/
def slotPackage (slot : Option (HwDataUnion F) × Option (HwDataUnion F)) : List BsxFifoData :=
  slot.1.toList.map accelInData ++ slot.2.toList.map angInData

theorem replaySlot_eq {ppAcc ppGyro : List (HwDataUnion F)} {i j : Nat}
    (slot : Option (HwDataUnion F) × Option (HwDataUnion F))
    (ha : ∀ a ∈ slot.1, ppAcc[i]? = some a) (hg : ∀ g ∈ slot.2, ppGyro[j]? = some g) :
    replaySlot ppAcc ppGyro (slotFlag slot) i j =
      some (slotPackage slot, i + slot.1.toList.length, j + slot.2.toList.length) := by
  obtain ⟨a | a, g | g⟩ := slot
  · simp [replaySlot, slotFlag, slotPackage, HAS_ACC, HAS_GYR]
  · simp [replaySlot, slotFlag, slotPackage, HAS_ACC, HAS_GYR, hg g rfl]
  · simp [replaySlot, slotFlag, slotPackage, HAS_ACC, HAS_GYR, ha a rfl]
  · simp [replaySlot, slotFlag, slotPackage, HAS_ACC, HAS_GYR, ha a rfl, hg g rfl]

theorem replay_eq (ppAcc ppGyro as gs : List (HwDataUnion F)) :
    ∀ i j : Nat, ppAcc.drop i = as → ppGyro.drop j = gs →
      replay ppAcc ppGyro ((alignSlots as gs).map slotFlag) i j =
        some ((alignSlots as gs).map slotPackage) := by
  -- one slot, then the rest from the indices behind it
  have hgo : ∀ {slot} {i j : Nat} {as' gs' : List (HwDataUnion F)},
      (∀ a ∈ slot.1, ppAcc[i]? = some a) → (∀ g ∈ slot.2, ppGyro[j]? = some g) →
      replay ppAcc ppGyro ((alignSlots as' gs').map slotFlag) (i + slot.1.toList.length)
        (j + slot.2.toList.length) = some ((alignSlots as' gs').map slotPackage) →
      replay ppAcc ppGyro (slotFlag slot :: (alignSlots as' gs').map slotFlag) i j =
        some (slotPackage slot :: (alignSlots as' gs').map slotPackage) := by
    intro slot i j as' gs' ha hg hrest
    simp only [replay, replaySlot_eq slot ha hg, Option.bind_eq_bind, Option.bind_some, hrest]
  induction as, gs using alignSlots.induct with
  | case1 =>
      intro i j _ _
      rw [alignSlots]
      rfl
  | case2 a as ih =>
      intro i j ha hg
      obtain ⟨hget, hdrop⟩ := getElem?_of_drop_eq_cons ha
      rw [alignSlots, List.map_cons, List.map_cons]
      exact hgo (by simpa using hget) (by simp) (ih (i + 1) j hdrop hg)
  | case3 g gs ih =>
      intro i j ha hg
      obtain ⟨hget, hdrop⟩ := getElem?_of_drop_eq_cons hg
      rw [alignSlots, List.map_cons, List.map_cons]
      exact hgo (by simp) (by simpa using hget) (ih i (j + 1) ha hdrop)
  | case4 a as g gs hlt ih =>
      intro i j ha hg
      obtain ⟨hget, hdrop⟩ := getElem?_of_drop_eq_cons hg
      rw [alignSlots, if_pos hlt, List.map_cons, List.map_cons]
      exact hgo (by simp) (by simpa using hget) (ih i (j + 1) ha hdrop)
  | case5 a as g gs hlt heq ih =>
      intro i j ha hg
      obtain ⟨hgeta, hdropa⟩ := getElem?_of_drop_eq_cons ha
      obtain ⟨hgetg, hdropg⟩ := getElem?_of_drop_eq_cons hg
      rw [alignSlots, if_neg hlt, if_pos heq, List.map_cons, List.map_cons]
      exact hgo (by simpa using hgeta) (by simpa using hgetg) (ih (i + 1) (j + 1) hdropa hdropg)
  | case6 a as g gs hlt heq ih =>
      intro i j ha hg
      obtain ⟨hget, hdrop⟩ := getElem?_of_drop_eq_cons ha
      rw [alignSlots, if_neg hlt, if_neg heq, List.map_cons, List.map_cons]
      exact hgo (by simpa using hget) (by simp) (ih (i + 1) j hdrop hg)

/-- The event of a slot's package are the events of its samples, when the two lists hold samples of
their own sensor. -/
theorem slotPackage_events {slot : Option (HwDataUnion F) × Option (HwDataUnion F)}
    (ha : ∀ a ∈ slot.1, a.id = SENSOR_TYPE_ACCELEROMETER)
    (hg : ∀ g ∈ slot.2, g.id = SENSOR_TYPE_GYROSCOPE_UNCALIBRATED) :
    (slotPackage slot).filterMap packageEvent =
      (slot.1.toList ++ slot.2.toList).map sampleEvent := by
  have hacc : ∀ a ∈ slot.1, packageEvent (accelInData a) = some (sampleEvent a) := by
    intro a h
    rw [packageEvent_accelInData, sampleEvent, if_pos (ha a h)]
  have hgyr : ∀ g ∈ slot.2, packageEvent (angInData g) = some (sampleEvent g) := by
    intro g h
    rw [packageEvent_angInData, sampleEvent, if_neg (by rw [hg g h]; decide)]
  obtain ⟨a | a, g | g⟩ := slot <;> simp_all [slotPackage]

end Replay

/-! ## Properties of the slots -/

/-- A slot holds samples of the two lists. -/
theorem mem_alignSlots {as gs : List (HwDataUnion F)} {slot}
    (h : slot ∈ alignSlots as gs) : (∀ a ∈ slot.1, a ∈ as) ∧ (∀ g ∈ slot.2, g ∈ gs) := by
  induction as, gs using alignSlots.induct with
  | case1 => simp [alignSlots] at h
  | case2 a as ih =>
      rw [alignSlots] at h
      rcases List.mem_cons.mp h with rfl | h
      · simp
      · exact ⟨fun x hx => by simp [(ih h).1 x hx], (ih h).2⟩
  | case3 g gs ih =>
      rw [alignSlots] at h
      rcases List.mem_cons.mp h with rfl | h
      · simp
      · exact ⟨(ih h).1, fun x hx => by simp [(ih h).2 x hx]⟩
  | case4 a as g gs hlt ih =>
      rw [alignSlots, if_pos hlt] at h
      rcases List.mem_cons.mp h with rfl | h
      · simp
      · exact ⟨(ih h).1, fun x hx => by simp [(ih h).2 x hx]⟩
  | case5 a as g gs hlt heq ih =>
      rw [alignSlots, if_neg hlt, if_pos heq] at h
      rcases List.mem_cons.mp h with rfl | h
      · simp
      · exact ⟨fun x hx => by simp [(ih h).1 x hx], fun x hx => by simp [(ih h).2 x hx]⟩
  | case6 a as g gs hlt heq ih =>
      rw [alignSlots, if_neg hlt, if_neg heq] at h
      rcases List.mem_cons.mp h with rfl | h
      · simp
      · exact ⟨fun x hx => by simp [(ih h).1 x hx], (ih h).2⟩

theorem mem_alignOrder {as gs : List (HwDataUnion F)} {x : HwDataUnion F} :
    x ∈ alignOrder as gs ↔ x ∈ as ∨ x ∈ gs := by
  unfold alignOrder
  induction as, gs using alignSlots.induct with
  | case1 => simp [alignSlots]
  | case2 a as ih => rw [alignSlots]; simp_all
  | case3 g gs ih => rw [alignSlots]; simp_all
  | case4 a as g gs hlt ih =>
      rw [alignSlots, if_pos hlt]
      simp only [List.flatMap_cons, List.mem_append, ih, Option.toList_none, Option.toList_some,
        List.nil_append, List.mem_cons, List.not_mem_nil, or_false]
      exact or_left_comm
  | case5 a as g gs hlt heq ih =>
      rw [alignSlots, if_neg hlt, if_pos heq]
      simp only [List.flatMap_cons, List.mem_append, ih, Option.toList_some, List.mem_cons,
        List.not_mem_nil, or_false]
      exact or_or_or_comm
  | case6 a as g gs hlt heq ih =>
      rw [alignSlots, if_neg hlt, if_neg heq]
      simp only [List.flatMap_cons, List.mem_append, ih, Option.toList_none, Option.toList_some,
        List.append_nil, List.mem_cons, List.not_mem_nil, or_false]
      exact or_assoc.symm

/-- Each list comes out in its own order and completely: what separates the two lists recovers
them. -/
theorem filter_alignOrder {as gs : List (HwDataUnion F)} {p : HwDataUnion F → Bool}
    (ha : ∀ a ∈ as, p a = true) (hg : ∀ g ∈ gs, p g = false) :
    (alignOrder as gs).filter p = as ∧ (alignOrder as gs).filter (fun x => !p x) = gs := by
  -- a sample in front of the rest goes to its own side
  have hacc : ∀ {a l as' gs'}, p a = true →
      (l.filter p = as' ∧ l.filter (fun x => !p x) = gs') →
      ((a :: l).filter p = a :: as' ∧ (a :: l).filter (fun x => !p x) = gs') := by
    rintro a l as' gs' hp ⟨h₁, h₂⟩
    exact ⟨by rw [List.filter_cons_of_pos hp, h₁],
      by rw [List.filter_cons_of_neg (by simp [hp]), h₂]⟩
  have hgyr : ∀ {g l as' gs'}, p g = false →
      (l.filter p = as' ∧ l.filter (fun x => !p x) = gs') →
      ((g :: l).filter p = as' ∧ (g :: l).filter (fun x => !p x) = g :: gs') := by
    rintro g l as' gs' hp ⟨h₁, h₂⟩
    exact ⟨by rw [List.filter_cons_of_neg (by simp [hp]), h₁],
      by rw [List.filter_cons_of_pos (by simp [hp]), h₂]⟩
  unfold alignOrder
  induction as, gs using alignSlots.induct with
  | case1 => simp [alignSlots]
  | case2 a as ih =>
      rw [alignSlots]
      exact hacc (ha a (by simp)) (ih (fun x hx => ha x (by simp [hx])) hg)
  | case3 g gs ih =>
      rw [alignSlots]
      exact hgyr (hg g (by simp)) (ih ha (fun x hx => hg x (by simp [hx])))
  | case4 a as g gs hlt ih =>
      rw [alignSlots, if_pos hlt]
      exact hgyr (hg g (by simp)) (ih ha (fun x hx => hg x (by simp [hx])))
  | case5 a as g gs hlt heq ih =>
      rw [alignSlots, if_neg hlt, if_pos heq]
      exact hacc (ha a (by simp)) (hgyr (hg g (by simp))
        (ih (fun x hx => ha x (by simp [hx])) (fun x hx => hg x (by simp [hx]))))
  | case6 a as g gs hlt heq ih =>
      rw [alignSlots, if_neg hlt, if_neg heq]
      exact hacc (ha a (by simp)) (ih (fun x hx => ha x (by simp [hx])) hg)

/-- Samples in order of their time stamps. -/
def TimeOrdered (l : List (HwDataUnion F)) : Prop :=
  l.Pairwise fun a b => a.timestamp ≤ b.timestamp

/-- The merge of two time-ordered lists of positively stamped samples is time-ordered. -/
theorem timeOrdered_alignOrder {as gs : List (HwDataUnion F)} (ha : TimeOrdered as)
    (hg : TimeOrdered gs) (hpos : ∀ g ∈ gs, 0 < g.timestamp) : TimeOrdered (alignOrder as gs) := by
  have hmem : ∀ {as gs : List (HwDataUnion F)} {x}, x ∈ (alignSlots as gs).flatMap
      (fun slot => slot.1.toList ++ slot.2.toList) → x ∈ as ∨ x ∈ gs := mem_alignOrder.mp
  unfold TimeOrdered alignOrder at *
  induction as, gs using alignSlots.induct with
  | case1 => simp [alignSlots]
  | case2 a as ih =>
      rw [alignSlots]
      rw [List.pairwise_cons] at ha
      have hrest := ih ha.2 hg hpos
      refine List.pairwise_cons.mpr ⟨fun x hx => ?_, hrest⟩
      rcases hmem hx with hx | hx
      · exact ha.1 x hx
      · exact absurd hx (by simp)
  | case3 g gs ih =>
      rw [alignSlots]
      rw [List.pairwise_cons] at hg
      have hrest := ih ha hg.2 (fun x hx => hpos x (by simp [hx]))
      refine List.pairwise_cons.mpr ⟨fun x hx => ?_, hrest⟩
      rcases hmem hx with hx | hx
      · exact absurd hx (by simp)
      · exact hg.1 x hx
  | case4 a as g gs hlt ih =>
      rw [alignSlots, if_pos hlt]
      have hg' := List.pairwise_cons.mp hg
      have ha' := List.pairwise_cons.mp ha
      have hrest := ih ha hg'.2 (fun x hx => hpos x (by simp [hx]))
      refine List.pairwise_cons.mpr ⟨fun x hx => ?_, hrest⟩
      rcases hmem hx with hx | hx
      · rcases List.mem_cons.mp hx with rfl | hx
        · exact le_of_lt hlt.2
        · exact le_trans (le_of_lt hlt.2) (ha'.1 x hx)
      · exact hg'.1 x hx
  | case5 a as g gs hlt heq ih =>
      rw [alignSlots, if_neg hlt, if_pos heq]
      have hg' := List.pairwise_cons.mp hg
      have ha' := List.pairwise_cons.mp ha
      have hrest := ih ha'.2 hg'.2 (fun x hx => hpos x (by simp [hx]))
      have hlow : ∀ x, x ∈ as ∨ x ∈ gs → a.timestamp ≤ x.timestamp := by
        rintro x (hx | hx)
        · exact ha'.1 x hx
        · exact heq ▸ hg'.1 x hx
      refine List.pairwise_cons.mpr ⟨fun x hx => ?_, List.pairwise_cons.mpr ⟨fun x hx => ?_, hrest⟩⟩
      · rcases List.mem_cons.mp hx with rfl | hx
        · exact le_of_eq heq.symm
        · exact hlow x (hmem hx)
      · exact heq ▸ hlow x (hmem hx)
  | case6 a as g gs hlt heq ih =>
      rw [alignSlots, if_neg hlt, if_neg heq]
      have hg' := List.pairwise_cons.mp hg
      have ha' := List.pairwise_cons.mp ha
      have hrest := ih ha'.2 hg hpos
      have hag : a.timestamp ≤ g.timestamp := by
        have := hpos g (by simp)
        omega
      refine List.pairwise_cons.mpr ⟨fun x hx => ?_, hrest⟩
      rcases hmem hx with hx | hx
      · exact ha'.1 x hx
      · rcases List.mem_cons.mp hx with rfl | hx
        · exact hag
        · exact le_trans hag (hg'.1 x hx)

/-! ## The whole call -/

/-- The events of all packages are the events of the samples, slot after slot. -/
theorem packages_events [CFloat F] {as gs : List (HwDataUnion F)}
    (ha : ∀ a ∈ as, a.id = SENSOR_TYPE_ACCELEROMETER)
    (hg : ∀ g ∈ gs, g.id = SENSOR_TYPE_GYROSCOPE_UNCALIBRATED) :
    ((alignSlots as gs).map slotPackage).flatten.filterMap packageEvent =
      (alignOrder as gs).map sampleEvent := by
  have hslot : ∀ slot ∈ alignSlots as gs, (slotPackage slot).filterMap packageEvent =
      (slot.1.toList ++ slot.2.toList).map sampleEvent := by
    intro slot hs
    have hin := mem_alignSlots hs
    exact slotPackage_events (fun a h => ha a (hin.1 a h)) (fun g h => hg g (hin.2 g h))
  unfold alignOrder
  generalize alignSlots as gs = slots at hslot
  induction slots with
  | nil => rfl
  | cons slot slots ih =>
      rw [List.map_cons, List.flatten_cons, List.filterMap_append, List.flatMap_cons,
        List.map_append, hslot slot (by simp), ih (fun t ht => hslot t (by simp [ht]))]

/-- When its allocations and writes succeed, `sensord_algo_process` empties both lists and writes
one event for each sample, in slot order. -/
theorem sensordAlgoProcess_ok [CFloat F] {acclraw gyroraw : BoschSimpleList (HwDataUnion F)}
    (ha : ∀ a ∈ acclraw.data, a.id = SENSOR_TYPE_ACCELEROMETER)
    (hg : ∀ g ∈ gyroraw.data, g.id = SENSOR_TYPE_GYROSCOPE_UNCALIBRATED) :
    sensordAlgoProcess .ok acclraw gyroraw =
      some ⟨{ acclraw with data := [] }, { gyroraw with data := [] },
        (alignOrder acclraw.data gyroraw.data).map sampleEvent⟩ := by
  unfold sensordAlgoProcess sensordAlgoProcessWith
  by_cases hne : acclraw.listLen + gyroraw.listLen = 0
  · -- nothing queued: both lists are empty already
    have ha0 : acclraw.data = [] := List.length_eq_zero_iff.mp (Nat.eq_zero_of_add_eq_zero hne).1
    have hg0 : gyroraw.data = [] := List.length_eq_zero_iff.mp (Nat.eq_zero_of_add_eq_zero hne).2
    rw [if_pos hne]
    cases acclraw
    cases gyroraw
    simp_all [alignOrder, alignSlots]
  · obtain ⟨ind, hsort, htake⟩ := sortInputSamples_eq hne
    simp only [if_neg hne, ProcessAlloc.ok, Bool.true_eq_false, and_false, if_false, hsort,
      Option.bind_some, htake, replay_eq acclraw.data gyroraw.data acclraw.data gyroraw.data 0 0
        (List.drop_zero ..) (List.drop_zero ..), Option.map_some, List.contains_nil,
      Bool.not_false, List.filter_true, List.zipIdx_map_fst]
    rw [packages_events ha hg]

/-! ## Calls that fail somewhere -/

/-- The entries whose number is not among the failed ones. -/
def keepSucceeding {α : Type*} (failed : List Nat) (l : List α) : List α :=
  (l.zipIdx.filter fun e => !failed.contains e.2).map Prod.fst

theorem mem_of_mem_keepSucceeding {α : Type*} {failed : List Nat} {l : List α} {x : α}
    (h : x ∈ keepSucceeding failed l) : x ∈ l := by
  obtain ⟨⟨y, n⟩, hy, rfl⟩ := List.mem_map.mp h
  exact List.fst_mem_of_mem_zipIdx (List.mem_filter.mp hy).1

theorem keepSucceeding_map {α β : Type*} (f : α → β) (failed : List Nat) (l : List α) :
    keepSucceeding failed (l.map f) = (keepSucceeding failed l).map f := by
  unfold keepSucceeding
  rw [List.zipIdx_map, List.filter_map, List.map_map, List.map_map]
  rfl

/-- The samples whose events a call of `sensord_algo_process` writes. -/
def processedSamples (m : ProcessAlloc) (acclraw gyroraw : BoschSimpleList (HwDataUnion F)) :
    List (HwDataUnion F) :=
  if acclraw.listLen ≠ 0 ∧ m.accArray = false then []
  else if gyroraw.listLen ≠ 0 ∧ m.gyroArray = false then []
  else if m.alignInd = false then []
  else keepSucceeding m.failed (alignOrder acclraw.data gyroraw.data)

theorem processedSamples_ok (acclraw gyroraw : BoschSimpleList (HwDataUnion F)) :
    processedSamples .ok acclraw gyroraw = alignOrder acclraw.data gyroraw.data := by
  simp [processedSamples, ProcessAlloc.ok, keepSucceeding]

theorem mem_of_mem_processedSamples {m : ProcessAlloc}
    {acclraw gyroraw : BoschSimpleList (HwDataUnion F)} {x : HwDataUnion F}
    (h : x ∈ processedSamples m acclraw gyroraw) : x ∈ acclraw.data ∨ x ∈ gyroraw.data := by
  unfold processedSamples at h
  split at h
  · cases h
  split at h
  · cases h
  split at h
  · cases h
  exact mem_alignOrder.mp (mem_of_mem_keepSucceeding h)

/-- Whatever fails, the events are those of samples taken off the two lists, and nothing new is put
on them. -/
theorem sensordAlgoProcess_events [CFloat F] {m : ProcessAlloc}
    {acclraw gyroraw : BoschSimpleList (HwDataUnion F)} {r : ProcessResult F}
    (ha : ∀ a ∈ acclraw.data, a.id = SENSOR_TYPE_ACCELEROMETER)
    (hg : ∀ g ∈ gyroraw.data, g.id = SENSOR_TYPE_GYROSCOPE_UNCALIBRATED)
    (h : sensordAlgoProcess m acclraw gyroraw = some r) :
    r.events = (processedSamples m acclraw gyroraw).map sampleEvent ∧
      r.acclraw.data ⊆ acclraw.data ∧ r.gyroraw.data ⊆ gyroraw.data := by
  unfold sensordAlgoProcess sensordAlgoProcessWith at h
  unfold processedSamples
  split at h
  case isTrue hempty =>
    -- nothing queued, nothing written
    have ha0 : acclraw.data = [] := List.length_eq_zero_iff.mp (Nat.eq_zero_of_add_eq_zero hempty).1
    have hg0 : gyroraw.data = [] := List.length_eq_zero_iff.mp (Nat.eq_zero_of_add_eq_zero hempty).2
    cases h
    refine ⟨?_, List.Subset.refl _, List.Subset.refl _⟩
    simp [ha0, hg0, alignOrder, alignSlots, keepSucceeding]
  case isFalse hne =>
    split at h
    case isTrue hfail =>
      cases h
      exact ⟨by rw [if_pos hfail]; rfl, List.Subset.refl _, List.Subset.refl _⟩
    case isFalse hacc =>
      rw [if_neg hacc]
      dsimp only at h
      split at h
      case isTrue hfail =>
        cases h
        exact ⟨by rw [if_pos hfail]; rfl, List.nil_subset _, List.Subset.refl _⟩
      case isFalse hgyr =>
        rw [if_neg hgyr]
        cases hind : m.alignInd with
        | false =>
            have hsort : sortInputSamples false acclraw.data gyroraw.data = some (none, 0) :=
              (if_neg hne).trans (if_pos rfl)
            rw [hind, hsort] at h
            cases h
            exact ⟨rfl, List.nil_subset _, List.nil_subset _⟩
        | true =>
            obtain ⟨ind, hsort, htake⟩ := sortInputSamples_eq hne
            simp only [hind, hsort, Option.bind_some, htake,
              replay_eq acclraw.data gyroraw.data acclraw.data gyroraw.data 0 0 (List.drop_zero ..)
                (List.drop_zero ..), Option.map_some] at h
            cases h
            refine ⟨?_, List.nil_subset _, List.nil_subset _⟩
            rw [packages_events ha hg, if_neg (by decide), ← keepSucceeding_map]
            rfl

end Smi240Hal.Legacy
