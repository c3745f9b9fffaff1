/-
# Smi240Hal.Lib.PopCount — counting the set bits of a word in fields that double in width

A number is read as fields of `w` bits.  A stage adds every second field to the one below it, under
a mask that keeps the others; the fields are then `2 * w` bits wide, no sum leaves its field, and the
sum of all fields is what it was.  Fields of one bit add up to the number of set bits, and one field
is the whole word.
-/
import Mathlib.Algebra.Order.Ring.Nat
import Mathlib.Data.List.Basic

namespace Smi240Hal.Lib.PopCount

/-! ## Set bits -/

/-- The positions of the set bits below `n`, from the lowest. -/
def setBits (n x : Nat) : List Nat := (List.range n).filter fun k => x.testBit k

theorem mem_setBits {n x k : Nat} : k ∈ setBits n x ↔ k < n ∧ x.testBit k = true := by
  rw [setBits, List.mem_filter, List.mem_range]

theorem setBits_ascending (n x : Nat) : (setBits n x).Pairwise (· < ·) :=
  List.Pairwise.filter _ List.pairwise_lt_range

theorem setBits_succ (n x : Nat) :
    setBits (n + 1) x =
      (if x.testBit 0 then [0] else []) ++ (setBits n (x / 2)).map (· + 1) := by
  have hshift : (fun k => x.testBit k) ∘ Nat.succ = fun k => (x / 2).testBit k := by
    funext k
    exact Nat.testBit_succ x k
  rw [setBits, List.range_succ_eq_map, List.filter_cons, List.filter_map, hshift]
  split
  · rfl
  · rfl

/-! ## Fields -/

/-- The sum of the lowest `n` fields of `w` bits. -/
def fieldSum (w : Nat) : Nat → Nat → Nat
  | 0, _ => 0
  | n + 1, x => x % 2 ^ w + fieldSum w n (x / 2 ^ w)

/-- The lower half of each of `n` fields of `2 * w` bits. -/
def mask (w : Nat) : Nat → Nat
  | 0 => 0
  | n + 1 => 2 ^ w - 1 + 2 ^ (2 * w) * mask w n

/-- Adds the two halves of each of `n` fields of `2 * w` bits. -/
def stage (w n x : Nat) : Nat := (x &&& mask w n) + (x >>> w &&& mask w n)

/-- Fields of one bit. -/
theorem length_setBits (n x : Nat) : (setBits n x).length = fieldSum 1 n x := by
  induction n generalizing x with
  | zero => rfl
  | succ n ih =>
      rw [setBits_succ, List.length_append, List.length_map, ih, fieldSum, Nat.pow_one,
        Nat.testBit_zero]
      rcases Nat.mod_two_eq_zero_or_one x with hx | hx <;> simp [hx]

/-- One field. -/
theorem fieldSum_one {w x : Nat} (hx : x < 2 ^ w) : fieldSum w 1 x = x := by
  rw [fieldSum, fieldSum, Nat.add_zero, Nat.mod_eq_of_lt hx]

theorem and_split (t x m : Nat) :
    x &&& m = (x % 2 ^ t &&& m % 2 ^ t) + 2 ^ t * (x / 2 ^ t &&& m / 2 ^ t) := by
  rw [← Nat.and_mod_two_pow, ← Nat.and_div_two_pow, Nat.mod_add_div]

/-- The mask keeps the lower half of the lowest field. -/
theorem and_mask_succ (w n x : Nat) :
    x &&& mask w (n + 1) = x % 2 ^ w + 2 ^ (2 * w) * (x / 2 ^ (2 * w) &&& mask w n) := by
  have hpos : 0 < 2 ^ w := Nat.two_pow_pos w
  have hle : 2 ^ w ≤ 2 ^ (2 * w) := Nat.pow_le_pow_right (by omega) (by omega)
  have hlow : mask w (n + 1) % 2 ^ (2 * w) = 2 ^ w - 1 := by
    rw [mask, Nat.add_mul_mod_self_left, Nat.mod_eq_of_lt (by omega)]
  have hhigh : mask w (n + 1) / 2 ^ (2 * w) = mask w n := by
    rw [mask, Nat.add_mul_div_left _ _ (Nat.two_pow_pos _), Nat.div_eq_of_lt (by omega),
      Nat.zero_add]
  rw [and_split (2 * w), hlow, hhigh, Nat.and_two_pow_sub_one_eq_mod,
    Nat.mod_mod_of_dvd x (Nat.pow_dvd_pow 2 (by omega))]

/-- The halves of the lowest field are added below the other fields. -/
theorem stage_succ (w n x : Nat) :
    stage w (n + 1) x =
      x % 2 ^ w + x / 2 ^ w % 2 ^ w + 2 ^ (2 * w) * stage w n (x / 2 ^ (2 * w)) := by
  have hcomm : x / 2 ^ w / 2 ^ (2 * w) = x / 2 ^ (2 * w) / 2 ^ w := Nat.div_right_comm ..
  rw [stage, stage, and_mask_succ, and_mask_succ, Nat.shiftRight_eq_div_pow,
    Nat.shiftRight_eq_div_pow, hcomm, Nat.mul_add]
  omega

/-- The sum of two fields leaves room in a field of double width. -/
theorem add_halves_lt {w : Nat} (hw : 0 < w) (x y : Nat) :
    x % 2 ^ w + y % 2 ^ w < 2 ^ (2 * w) := by
  have hx : x % 2 ^ w < 2 ^ w := Nat.mod_lt _ (Nat.two_pow_pos w)
  have hy : y % 2 ^ w < 2 ^ w := Nat.mod_lt _ (Nat.two_pow_pos w)
  have hdouble : 2 ^ (w + 1) ≤ 2 ^ (2 * w) := Nat.pow_le_pow_right (by omega) (by omega)
  rw [Nat.pow_succ] at hdouble
  omega

/-- The fields stay where they are. -/
theorem stage_lt {w : Nat} (hw : 0 < w) (n x : Nat) : stage w n x < 2 ^ (2 * w * n) := by
  induction n generalizing x with
  | zero => simp [stage, mask]
  | succ n ih =>
      have hlow := add_halves_lt hw x (x / 2 ^ w)
      have hhigh : 2 ^ (2 * w) * (stage w n (x / 2 ^ (2 * w)) + 1) ≤
          2 ^ (2 * w) * 2 ^ (2 * w * n) := Nat.mul_le_mul_left _ (ih _)
      rw [stage_succ, Nat.mul_succ (2 * w) n, Nat.pow_add, Nat.mul_comm (2 ^ (2 * w * n))]
      rw [Nat.mul_succ] at hhigh
      omega

/-- A stage keeps the sum of the fields. -/
theorem fieldSum_stage {w : Nat} (hw : 0 < w) (n x : Nat) :
    fieldSum (2 * w) n (stage w n x) = fieldSum w (2 * n) x := by
  induction n generalizing x with
  | zero => rfl
  | succ n ih =>
      have hlow := add_halves_lt hw x (x / 2 ^ w)
      have hfield : stage w (n + 1) x % 2 ^ (2 * w) = x % 2 ^ w + x / 2 ^ w % 2 ^ w := by
        rw [stage_succ, Nat.add_mul_mod_self_left, Nat.mod_eq_of_lt hlow]
      have hrest : stage w (n + 1) x / 2 ^ (2 * w) = stage w n (x / 2 ^ (2 * w)) := by
        rw [stage_succ, Nat.add_mul_div_left _ _ (Nat.two_pow_pos _), Nat.div_eq_of_lt hlow,
          Nat.zero_add]
      have htwo : x / 2 ^ w / 2 ^ w = x / 2 ^ (2 * w) := by
        rw [Nat.div_div_eq_div_mul, ← Nat.pow_add, ← Nat.two_mul]
      rw [fieldSum, hfield, hrest, ih, Nat.mul_succ, fieldSum, fieldSum, htwo, Nat.add_assoc]

/-! ## All stages -/

/-- The first `j` stages on a word of `2 ^ k` bits. -/
def stages (k : Nat) : Nat → Nat → Nat
  | 0, x => x
  | j + 1, x => stage (2 ^ j) (2 ^ (k - 1 - j)) (stages k j x)

/-- After `j` stages the fields have `2 ^ j` bits. -/
theorem fieldSum_stages {k j : Nat} (hj : j ≤ k) (x : Nat) :
    fieldSum (2 ^ j) (2 ^ (k - j)) (stages k j x) = fieldSum 1 (2 ^ k) x := by
  induction j with
  | zero => rfl
  | succ j ih =>
      have hwidth : 2 ^ (j + 1) = 2 * 2 ^ j := Nat.pow_succ'
      have hcount : 2 * 2 ^ (k - 1 - j) = 2 ^ (k - j) := by
        rw [← Nat.pow_succ']
        congr 1
        omega
      have hfields : k - (j + 1) = k - 1 - j := by omega
      rw [stages, hwidth, hfields, fieldSum_stage (Nat.two_pow_pos j), hcount]
      exact ih (by omega)

/-- All stages leave the number of set bits. -/
theorem stages_eq_length (k x : Nat) :
    stages (k + 1) (k + 1) x = (setBits (2 ^ (k + 1)) x).length := by
  have hlast : stages (k + 1) (k + 1) x < 2 ^ 2 ^ (k + 1) := by
    have hlt := stage_lt (Nat.two_pow_pos k) (2 ^ (k + 1 - 1 - k)) (stages (k + 1) k x)
    rw [Nat.add_sub_cancel, Nat.sub_self, Nat.pow_zero, Nat.mul_one, ← Nat.pow_succ'] at hlt
    rw [stages, Nat.add_sub_cancel, Nat.sub_self, Nat.pow_zero]
    exact hlt
  have hsum := fieldSum_stages (Nat.le_refl (k + 1)) x
  rw [Nat.sub_self, Nat.pow_zero, fieldSum_one hlast] at hsum
  rw [length_setBits, hsum]

/-! ## On machine words -/

/-- A stage as it is written in a program does not wrap. -/
theorem toNat_stage {N w n : Nat} (hw : 0 < w) (hN : 2 * w * n = N) {m : BitVec N}
    (hm : m.toNat = mask w n) (x : BitVec N) :
    ((x &&& m) + (x >>> w &&& m)).toNat = stage w n x.toNat := by
  have hlt := stage_lt hw n x.toNat
  rw [hN] at hlt
  rw [BitVec.toNat_add, BitVec.toNat_and, BitVec.toNat_and, BitVec.toNat_ushiftRight, hm]
  exact Nat.mod_eq_of_lt hlt

end Smi240Hal.Lib.PopCount
