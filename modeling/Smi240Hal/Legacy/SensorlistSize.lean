/-
# Smi240Hal.Legacy.SensorlistSize — how many slots the sensor list is given, and how many are filled

`ap_get_sensorlist` counts the set bits of its register with `sensord_popcount_64` and allocates
that many slots in each of two arrays.  Its copy loop then goes through the register from the lowest
bit, shifting it until nothing is left, and fills the slots without looking at their number.

The register is a constant in the code; here it is any word.  Both allocations are granted.
-/
import Smi240Hal.Lib.PopCount
import Smi240Hal.Lib.SlotArray
import Smi240Hal.Legacy.SensorListLife
import Smi240Hal.Legacy.SensorTable

namespace Smi240Hal.Legacy

open Smi240Hal.Lib
open Smi240Hal.Lib.PopCount (setBits)

/-! ## The two counts -/

/-- `sensord_popcount_64`; the result is converted to `uint32_t`. -/
def sensordPopcount64 (x : BitVec 64) : BitVec 32 :=
  let m1 : BitVec 64 := 0x5555555555555555
  let m2 : BitVec 64 := 0x3333333333333333
  let m4 : BitVec 64 := 0x0f0f0f0f0f0f0f0f
  let m8 : BitVec 64 := 0x00ff00ff00ff00ff
  let m16 : BitVec 64 := 0x0000ffff0000ffff
  let m32 : BitVec 64 := 0x00000000ffffffff
  let x := (x &&& m1) + (x >>> 1 &&& m1)
  let x := (x &&& m2) + (x >>> 2 &&& m2)
  let x := (x &&& m4) + (x >>> 4 &&& m4)
  let x := (x &&& m8) + (x >>> 8 &&& m8)
  let x := (x &&& m16) + (x >>> 16 &&& m16)
  let x := (x &&& m32) + (x >>> 32 &&& m32)
  x.setWidth 32

/-- The six masks of 64 bits; 64 is a `uint32_t`. -/
theorem sensordPopcount64_eq (x : BitVec 64) :
    (sensordPopcount64 x).toNat = (setBits 64 x.toNat).length := by
  have hle : (setBits 64 x.toNat).length ≤ 64 := by
    have hfilter := List.length_filter_le (fun k => x.toNat.testBit k) (List.range 64)
    rwa [List.length_range] at hfilter
  unfold sensordPopcount64
  rw [BitVec.toNat_setWidth,
    PopCount.toNat_stage (w := 32) (n := 1) (by omega) rfl rfl,
    PopCount.toNat_stage (w := 16) (n := 2) (by omega) rfl rfl,
    PopCount.toNat_stage (w := 8) (n := 4) (by omega) rfl rfl,
    PopCount.toNat_stage (w := 4) (n := 8) (by omega) rfl rfl,
    PopCount.toNat_stage (w := 2) (n := 16) (by omega) rfl rfl,
    PopCount.toNat_stage (w := 1) (n := 32) (by omega) rfl rfl]
  have hcount : PopCount.stages 6 6 x.toNat = (setBits 64 x.toNat).length :=
    PopCount.stages_eq_length 5 x.toNat
  rw [← hcount] at hle ⊢
  exact Nat.mod_eq_of_lt (Nat.lt_of_le_of_lt hle (by omega))

example : sensordPopcount64 (BitVec.allOnes 64) = 64 := by decide

/-! ## The arrays and the loop that fills them -/

/-- The arrays of `bosch_sensorlist`; `none` is a slot that has not been written. -/
structure SensorlistArrays where
  list : List (Option SensorT)
  bsxListIndex : List (Option Int)
deriving DecidableEq

namespace SensorlistArrays

/-- As `malloc` returns them. -/
def malloc (sensorAmount : Nat) : SensorlistArrays where
  list := List.replicate sensorAmount none
  bsxListIndex := List.replicate sensorAmount none

/-- The copy loop of `ap_get_sensorlist` with `n` iterations of it left, and `j` when it ends;
`none` when it reads or writes outside of an array. -/
def copy : Nat → Nat → Nat → BitVec 64 → SensorlistArrays → Option (Nat × SensorlistArrays)
  | 0, _, j, _, s => some (j, s)
  | n + 1, i, j, availSensRegval, s =>
      if availSensRegval = 0 then some (j, s)
      else if availSensRegval &&& 0x1 ≠ 0 then do
        let sensor ← SlotArray.load boschAllSensorsTable i
        let list ← SlotArray.store s.list j (some sensor)
        let bsxListIndex ← SlotArray.store s.bsxListIndex j (some (i : Int))
        copy n (i + 1) (j + 1) (availSensRegval >>> 1) ⟨list, bsxListIndex⟩
      else copy n (i + 1) j (availSensRegval >>> 1) s

/-- `sensor_amount`, what the loop leaves of `j`, and the arrays. -/
def build (availSensRegval : BitVec 64) : Option (Nat × Nat × SensorlistArrays) :=
  let sensorAmount := (sensordPopcount64 availSensRegval).toNat
  (copy SENSORLIST_INX_END.toNat 0 0 availSensRegval (malloc sensorAmount)).map
    fun r => (sensorAmount, r)

/-! ## What the loop writes -/

/-- Arrays of `size` slots with some entries written. -/
def filled (entries : List (SensorT × Int)) (size : Nat) : SensorlistArrays where
  list := SlotArray.packed (entries.map Prod.fst) size
  bsxListIndex := SlotArray.packed (entries.map Prod.snd) size

theorem malloc_eq_filled (size : Nat) : malloc size = filled [] size := rfl

/-- One entry more. -/
theorem store_filled {entries : List (SensorT × Int)} {size : Nat} (hroom : entries.length < size)
    (e : SensorT × Int) :
    SlotArray.store (filled entries size).list entries.length (some e.1) =
        some (filled (entries ++ [e]) size).list ∧
      SlotArray.store (filled entries size).bsxListIndex entries.length (some e.2) =
        some (filled (entries ++ [e]) size).bsxListIndex := by
  have hlist := SlotArray.store_packed_end e.1 (S := entries.map Prod.fst) (n := size)
    (by rwa [List.length_map])
  have hindex := SlotArray.store_packed_end e.2 (S := entries.map Prod.snd) (n := size)
    (by rwa [List.length_map])
  rw [List.length_map] at hlist hindex
  rw [filled, filled, List.map_append, List.map_append]
  exact ⟨hlist, hindex⟩

/-- Nothing is left of the register: the loop ends. -/
theorem copy_zero (n i j : Nat) (s : SensorlistArrays) : copy n i j 0 s = some (j, s) := by
  cases n with
  | zero => rfl
  | succ n => rw [copy, if_pos rfl]

/-- The iteration on a bit that is not set. -/
theorem copy_clear {x : BitVec 64} (hbit : x &&& 0x1 = 0) (n i j : Nat) (s : SensorlistArrays) :
    copy (n + 1) i j x s = copy n (i + 1) j (x >>> 1) s := by
  by_cases hx : x = 0
  · have hshift : (0 : BitVec 64) >>> 1 = 0 := rfl
    rw [hx, hshift, copy_zero, copy_zero]
  · rw [copy, if_neg hx, if_neg (not_not.mpr hbit)]

theorem ne_zero_of_and_one {x : BitVec 64} (hbit : x &&& 0x1 ≠ 0) : x ≠ 0 := by
  rintro rfl
  exact hbit BitVec.zero_and

/-- The iteration on a set bit, with a slot left. -/
theorem copy_set {x : BitVec 64} (hbit : x &&& 0x1 ≠ 0) {i : Nat} {sensor : SensorT}
    (hsensor : boschAllSensorsTable[i]? = some sensor) {entries : List (SensorT × Int)}
    {size : Nat} (hroom : entries.length < size) (n : Nat) :
    copy (n + 1) i entries.length x (filled entries size) =
      copy n (i + 1) (entries ++ [(sensor, (i : Int))]).length (x >>> 1)
        (filled (entries ++ [(sensor, (i : Int))]) size) := by
  obtain ⟨hlist, hindex⟩ := store_filled hroom (sensor, (i : Int))
  rw [copy, if_neg (ne_zero_of_and_one hbit), if_pos hbit, SlotArray.load, hsensor,
    List.length_append, List.length_singleton]
  simp only [Option.bind_eq_bind, Option.bind_some, hlist, hindex]

end SensorlistArrays

/-! ### The entries it writes -/

theorem copyLoop_zero (n i : Nat) : copyLoop n i 0 = [] := by
  cases n with
  | zero => rfl
  | succ n => rw [copyLoop, if_pos rfl]

theorem copyLoop_clear {regval : Nat} (hbit : regval.testBit 0 = false) (n i : Nat) :
    copyLoop (n + 1) i regval = copyLoop n (i + 1) (regval >>> 1) := by
  by_cases hzero : regval = 0
  · rw [hzero, copyLoop_zero, Nat.zero_shiftRight, copyLoop_zero]
  · have hclear : regval &&& 0x1 = 0 := by
      rw [Nat.and_one_is_mod]
      simpa using hbit
    rw [copyLoop, if_neg hzero, if_neg (not_not.mpr hclear), List.nil_append]

theorem copyLoop_set {regval : Nat} (hbit : regval.testBit 0 = true) {i : Nat} {sensor : SensorT}
    (hsensor : boschAllSensorsTable[i]? = some sensor) (n : Nat) :
    copyLoop (n + 1) i regval =
      [(sensor, (i : Int))] ++ copyLoop n (i + 1) (regval >>> 1) := by
  have hset : regval &&& 0x1 ≠ 0 := by
    rw [Nat.and_one_is_mod]
    simpa using hbit
  have hzero : regval ≠ 0 := by
    rintro rfl
    exact hset rfl
  rw [copyLoop, if_neg hzero, if_pos hset, hsensor]
  rfl

/-- Each index of the loop is one of the table. -/
theorem exists_sensor {i : Nat} (hi : i < 64) : ∃ sensor, boschAllSensorsTable[i]? = some sensor :=
  ⟨_, List.getElem?_eq_getElem hi⟩

/-- The entries that are copied are those of the set bits, from the lowest. -/
theorem copyLoop_entries {n i : Nat} (hi : i + n ≤ 64) (regval : Nat) :
    (copyLoop n i regval).map (fun e => (some e.1, e.2)) =
      (setBits n regval).map fun k => (boschAllSensorsTable[i + k]?, ((i + k : Nat) : Int)) := by
  induction n generalizing i regval with
  | zero => rfl
  | succ n ih =>
      have hnext : ∀ k, i + 1 + k = i + (k + 1) := fun k => by omega
      have hrest := ih (i := i + 1) (by omega) (regval >>> 1)
      simp only [hnext] at hrest
      rw [PopCount.setBits_succ, List.map_append, List.map_map, ← Nat.shiftRight_one]
      cases hbit : regval.testBit 0 with
      | false =>
          rw [copyLoop_clear hbit, hrest]
          rfl
      | true =>
          obtain ⟨sensor, hsensor⟩ := exists_sensor (i := i) (by omega)
          rw [copyLoop_set hbit hsensor, List.map_append, hrest, if_pos rfl, List.map_singleton,
            List.map_singleton, Nat.add_zero, hsensor]
          rfl

theorem length_copyLoop {n i : Nat} (hi : i + n ≤ 64) (regval : Nat) :
    (copyLoop n i regval).length = (setBits n regval).length := by
  have hentries := congrArg List.length (copyLoop_entries hi regval)
  rwa [List.length_map, List.length_map] at hentries

/-- The loop writes as many entries as have been counted. -/
theorem popcount_eq_copyLoop (x : BitVec 64) :
    (sensordPopcount64 x).toNat = (copyLoop 64 0 x.toNat).length := by
  rw [sensordPopcount64_eq, length_copyLoop (Nat.le_refl (0 + 64))]

namespace SensorlistArrays

theorem and_one_eq_zero (x : BitVec 64) : x &&& 0x1 = 0 ↔ x.toNat.testBit 0 = false := by
  rw [← BitVec.toNat_inj, BitVec.toNat_and, Nat.testBit_zero, decide_eq_false_iff_not]
  show x.toNat &&& 1 = 0 ↔ _
  rw [Nat.and_one_is_mod]
  omega

theorem and_one_ne_zero (x : BitVec 64) : x &&& 0x1 ≠ 0 ↔ x.toNat.testBit 0 = true := by
  rw [Ne, and_one_eq_zero, Bool.not_eq_false]

/-- Behind `entries` the loop writes those of the set bits, if there is a slot for each of them. -/
theorem copy_filled {n i : Nat} (hi : i + n ≤ 64) (x : BitVec 64)
    (entries : List (SensorT × Int)) {size : Nat}
    (hfits : (entries ++ copyLoop n i x.toNat).length ≤ size) :
    copy n i entries.length x (filled entries size) =
      some ((entries ++ copyLoop n i x.toNat).length,
        filled (entries ++ copyLoop n i x.toNat) size) := by
  induction n generalizing i x entries with
  | zero => rw [copy, copyLoop, List.append_nil]
  | succ n ih =>
      have hrest := ih (i := i + 1) (by omega) (x >>> 1)
      rw [BitVec.toNat_ushiftRight] at hrest
      by_cases hbit : x &&& 0x1 = 0
      · rw [copyLoop_clear ((and_one_eq_zero x).mp hbit)] at hfits ⊢
        rw [copy_clear hbit]
        exact hrest entries hfits
      · obtain ⟨sensor, hsensor⟩ := exists_sensor (i := i) (by omega)
        rw [copyLoop_set ((and_one_ne_zero x).mp hbit) hsensor, ← List.append_assoc] at hfits ⊢
        have hroom : entries.length < size := by
          rw [List.length_append, List.length_append, List.length_singleton] at hfits
          omega
        rw [copy_set hbit hsensor hroom]
        exact hrest _ hfits

/-- Arrays with an entry in each slot. -/
theorem filled_length (entries : List (SensorT × Int)) :
    filled entries entries.length =
      ⟨entries.map fun e => some e.1, entries.map fun e => some e.2⟩ := by
  rw [filled, SlotArray.packed_eq (k := 0) (by rw [List.length_map]; rfl),
    SlotArray.packed_eq (k := 0) (by rw [List.length_map]; rfl)]
  simp [Function.comp_def]

/-- The arrays are as long as `copyLoop` makes them. -/
theorem build_eq (x : BitVec 64) :
    build x = some ((sensordPopcount64 x).toNat, (copyLoop 64 0 x.toNat).length,
      ⟨(copyLoop 64 0 x.toNat).map fun e => some e.1,
        (copyLoop 64 0 x.toNat).map fun e => some e.2⟩) := by
  have hcopy := copy_filled (n := 64) (i := 0) (Nat.le_refl 64) x []
    (Nat.le_refl (copyLoop 64 0 x.toNat).length)
  rw [List.nil_append, filled_length, ← malloc_eq_filled, List.length_nil] at hcopy
  show (copy 64 0 0 x (malloc (sensordPopcount64 x).toNat)).map _ = _
  rw [popcount_eq_copyLoop, hcopy]
  rfl

end SensorlistArrays

/-- For every register: `sensord_popcount_64` is the number of set bits, the arrays of that many
slots take what the copy loop writes, it fills the last of them, and `bsx_list_index` holds the
positions of the set bits in ascending order. -/
theorem sensorlist_sized_exactly (x : BitVec 64) :
    (∀ k, k ∈ setBits 64 x.toNat ↔ x.getLsbD k = true) ∧
    (setBits 64 x.toNat).Pairwise (· < ·) ∧
    (sensordPopcount64 x).toNat = (setBits 64 x.toNat).length ∧
    ∃ s, SensorlistArrays.build x =
        some ((sensordPopcount64 x).toNat, (sensordPopcount64 x).toNat, s) ∧
      s.list = (setBits 64 x.toNat).map (fun k => boschAllSensorsTable[k]?) ∧
      s.bsxListIndex = (setBits 64 x.toNat).map (fun k : Nat => some (k : Int)) ∧
      ∀ o ∈ s.list, o.isSome = true := by
  have hentries := copyLoop_entries (Nat.le_refl (0 + 64)) x.toNat
  simp only [Nat.zero_add] at hentries
  refine ⟨?_, PopCount.setBits_ascending 64 x.toNat, sensordPopcount64_eq x, ?_⟩
  · intro k
    rw [PopCount.mem_setBits]
    exact ⟨fun h => h.2, fun h => ⟨BitVec.lt_of_getLsbD h, h⟩⟩
  · refine ⟨_, (SensorlistArrays.build_eq x).trans (by rw [popcount_eq_copyLoop]), ?_, ?_, ?_⟩
    · have hlist := congrArg (List.map Prod.fst) hentries
      rwa [List.map_map, List.map_map] at hlist
    · have hindex := congrArg (List.map fun e => some e.2) hentries
      rwa [List.map_map, List.map_map] at hindex
    · intro o ho
      obtain ⟨e, -, rfl⟩ := List.mem_map.mp ho
      rfl

end Smi240Hal.Legacy
