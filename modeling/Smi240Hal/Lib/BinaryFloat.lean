/-
# Smi240Hal.Lib.BinaryFloat — rounding to a `float` or a `double`

`round d x` is the rational a binary floating-point number with `d` fraction bits holds after `x` has
been computed exactly and rounded to nearest, ties to even: an integer significand of at most `d + 1`
bits times a power of two.  A `float` has 23 fraction bits and a `double` 52.  The exponent is not
bounded, so this is the number of an `x` that neither overflows nor is subnormal.

A comparison against a constant is settled by monotonicity and the value at the constant; the value
at one number follows from the binade it lies in (`round_eq`) or from its being a `float` already
(`round_of_exact`).
-/
import Mathlib.Data.Int.Log
import Mathlib.Data.Rat.Floor
import Mathlib.Algebra.Order.Field.Power
import Mathlib.Tactic.Linarith
import Mathlib.Tactic.NormNum
import Mathlib.Tactic.Positivity
import Mathlib.Tactic.Ring

namespace Smi240Hal.Lib.BinaryFloat

/-! ## Rounding to an integer -/

/-- Round to nearest, ties to even. -/
def roundEven (q : ℚ) : ℤ :=
  let below := ⌊q⌋
  if q - below < 1 / 2 then below
  else if 1 / 2 < q - below then below + 1
  else if below % 2 = 0 then below
  else below + 1

@[simp] theorem roundEven_intCast (n : ℤ) : roundEven n = n := by
  simp [roundEven]

/-- The result is one of the two neighbours. -/
theorem roundEven_bounds (q : ℚ) : ⌊q⌋ ≤ roundEven q ∧ roundEven q ≤ ⌊q⌋ + 1 := by
  unfold roundEven
  dsimp only
  split_ifs <;> omega

theorem roundEven_mono {p q : ℚ} (h : p ≤ q) : roundEven p ≤ roundEven q := by
  have hfloor : ⌊p⌋ ≤ ⌊q⌋ := Int.floor_mono h
  rcases hfloor.lt_or_eq with hlt | heq
  · -- different floors: the upper neighbour of `p` is at most the lower one of `q`
    have hp := (roundEven_bounds p).2
    have hq := (roundEven_bounds q).1
    omega
  · unfold roundEven
    dsimp only
    rw [heq]
    split_ifs <;> first | omega | linarith

theorem le_roundEven {n : ℤ} {q : ℚ} (h : (n : ℚ) ≤ q) : n ≤ roundEven q := by
  rw [← roundEven_intCast n]
  exact roundEven_mono h

theorem roundEven_le {n : ℤ} {q : ℚ} (h : q ≤ n) : roundEven q ≤ n := by
  rw [← roundEven_intCast n]
  exact roundEven_mono h

theorem abs_roundEven_le {n : ℤ} {q : ℚ} (h : |q| ≤ n) : |roundEven q| ≤ n := by
  obtain ⟨hneg, hpos⟩ := abs_le.mp h
  refine abs_le.mpr ⟨le_roundEven ?_, roundEven_le hpos⟩
  push_cast
  exact hneg

/-! ## Rounding to a significand -/

/-- The distance of two neighbouring numbers in the binade of `x`. -/
def ulp (d : ℕ) (x : ℚ) : ℚ := 2 ^ (Int.log 2 |x| - d)

/-- Round to a significand of `d + 1` bits. -/
def round (d : ℕ) (x : ℚ) : ℚ := roundEven (x / ulp d x) * ulp d x

variable {d : ℕ}

theorem ulp_pos (d : ℕ) (x : ℚ) : 0 < ulp d x := by
  unfold ulp
  positivity

/-- The binade of a positive number. -/
theorem log_eq {x : ℚ} {k : ℤ} (hlow : (2 : ℚ) ^ k ≤ x) (hhigh : x < 2 ^ (k + 1)) :
    Int.log 2 x = k := by
  have hx : 0 < x := lt_of_lt_of_le (by positivity) hlow
  have hle : k ≤ Int.log 2 x := (Int.zpow_le_iff_le_log (by norm_num) hx).mp (by exact_mod_cast hlow)
  have hlt : Int.log 2 x < k + 1 :=
    (Int.lt_zpow_iff_log_lt (by norm_num) hx).mp (by exact_mod_cast hhigh)
  omega

/-- The value at a number whose binade is known. -/
theorem round_eq {x : ℚ} {k : ℤ} (hlow : (2 : ℚ) ^ k ≤ x) (hhigh : x < 2 ^ (k + 1)) :
    round d x = roundEven (x / 2 ^ (k - d)) * 2 ^ (k - d) := by
  have hx : 0 < x := lt_of_lt_of_le (by positivity) hlow
  rw [round, ulp, abs_of_pos hx, log_eq hlow hhigh]

/-- A significand of `d + 1` bits is kept. -/
theorem round_of_exact {x : ℚ} {k m : ℤ} (hlow : (2 : ℚ) ^ k ≤ x) (hhigh : x < 2 ^ (k + 1))
    (hm : x = m * 2 ^ (k - d)) : round d x = x := by
  have hne : (2 : ℚ) ^ (k - d) ≠ 0 := by positivity
  have hquot : x / 2 ^ (k - d) = m := by
    rw [hm, mul_div_assoc, div_self hne, mul_one]
  rw [round_eq hlow hhigh, hquot, roundEven_intCast, ← hm]

/-- A power of two in the units of its binade. -/
theorem two_zpow_eq (d j : ℕ) {x : ℚ} (hx : 0 < x) :
    (2 : ℚ) ^ (Int.log 2 x + j) = ((2 ^ (d + j) : ℤ) : ℚ) * ulp d x := by
  rw [ulp, abs_of_pos hx]
  push_cast
  rw [← zpow_natCast, ← zpow_add₀ (by norm_num)]
  congr 1
  push_cast
  ring

/-- Rounding stays in the binade, its upper end included. -/
theorem round_bounds {x : ℚ} (hx : 0 < x) :
    (2 : ℚ) ^ Int.log 2 x ≤ round d x ∧ round d x ≤ 2 ^ (Int.log 2 x + 1) := by
  have hulp := ulp_pos d x
  have hlow : (2 : ℚ) ^ Int.log 2 x = ((2 ^ d : ℤ) : ℚ) * ulp d x := by
    have h := two_zpow_eq d 0 hx
    rwa [Nat.cast_zero, add_zero, add_zero] at h
  have hhigh : (2 : ℚ) ^ (Int.log 2 x + 1) = ((2 ^ (d + 1) : ℤ) : ℚ) * ulp d x :=
    two_zpow_eq d 1 hx
  have hxlow : (2 : ℚ) ^ Int.log 2 x ≤ x := by
    exact_mod_cast Int.zpow_log_le_self (by norm_num : 1 < 2) hx
  have hxhigh : x < (2 : ℚ) ^ (Int.log 2 x + 1) := by
    exact_mod_cast Int.lt_zpow_succ_log_self (by norm_num : 1 < 2) x
  constructor
  · have hsig : (2 ^ d : ℤ) ≤ roundEven (x / ulp d x) :=
      le_roundEven ((le_div_iff₀ hulp).mpr (hlow ▸ hxlow))
    rw [hlow]
    exact mul_le_mul_of_nonneg_right (by exact_mod_cast hsig) hulp.le
  · have hsig : roundEven (x / ulp d x) ≤ (2 ^ (d + 1) : ℤ) :=
      roundEven_le ((div_le_iff₀ hulp).mpr (hhigh ▸ hxhigh.le))
    rw [hhigh]
    exact mul_le_mul_of_nonneg_right (by exact_mod_cast hsig) hulp.le

theorem round_pos {x : ℚ} (hx : 0 < x) : 0 < round d x :=
  lt_of_lt_of_le (by positivity) (round_bounds hx).1

theorem round_mono {x y : ℚ} (hx : 0 < x) (h : x ≤ y) : round d x ≤ round d y := by
  have hy : 0 < y := lt_of_lt_of_le hx h
  have hlog : Int.log 2 x ≤ Int.log 2 y := Int.log_mono_right hx h
  rcases hlog.lt_or_eq with hlt | heq
  · -- different binades: a power of two lies between the two results
    calc round d x ≤ 2 ^ (Int.log 2 x + 1) := (round_bounds hx).2
      _ ≤ 2 ^ Int.log 2 y := zpow_le_zpow_right₀ (by norm_num) (by omega)
      _ ≤ round d y := (round_bounds hy).1
  · have hulp : ulp d x = ulp d y := by
      rw [ulp, ulp, abs_of_pos hx, abs_of_pos hy, heq]
    rw [round, round, hulp]
    apply mul_le_mul_of_nonneg_right _ (ulp_pos d y).le
    exact_mod_cast roundEven_mono (div_le_div_of_nonneg_right h (ulp_pos d y).le)

/-! ## The numbers that are kept -/

/-- A quotient by the spacing that is an integer is kept. -/
theorem round_of_quotient {x : ℚ} {m : ℤ} (h : x / ulp d x = m) : round d x = x := by
  rw [round, h, roundEven_intCast, ← h, div_mul_cancel₀ x (ulp_pos d x).ne']

theorem round_zero : round d 0 = 0 := round_of_quotient (m := 0) (by simp)

theorem log_mul_two_zpow {x : ℚ} (hx : 0 < x) (k : ℤ) :
    Int.log 2 (x * 2 ^ k) = Int.log 2 x + k := by
  have htwo : (0 : ℚ) < 2 ^ k := by positivity
  have hlow : (2 : ℚ) ^ Int.log 2 x ≤ x := by
    exact_mod_cast Int.zpow_log_le_self (by norm_num : 1 < 2) hx
  have hhigh : x < (2 : ℚ) ^ (Int.log 2 x + 1) := by
    exact_mod_cast Int.lt_zpow_succ_log_self (by norm_num : 1 < 2) x
  apply log_eq
  · rw [zpow_add₀ (by norm_num)]
    exact mul_le_mul_of_nonneg_right hlow htwo.le
  · rw [show Int.log 2 x + k + 1 = Int.log 2 x + 1 + k by ring, zpow_add₀ (by norm_num)]
    exact mul_lt_mul_of_pos_right hhigh htwo

/-- Rounding commutes with a change of the exponent. -/
theorem round_mul_two_zpow (x : ℚ) (k : ℤ) : round d (x * 2 ^ k) = round d x * 2 ^ k := by
  rcases eq_or_ne x 0 with rfl | hx
  · rw [zero_mul, round_zero, zero_mul]
  have htwo : (0 : ℚ) < 2 ^ k := by positivity
  have hulp : ulp d (x * 2 ^ k) = ulp d x * 2 ^ k := by
    rw [ulp, abs_mul, abs_of_pos htwo, log_mul_two_zpow (abs_pos.mpr hx), ulp,
      ← zpow_add₀ (by norm_num)]
    congr 1
    ring
  rw [round, round, hulp, mul_div_mul_right _ _ htwo.ne', mul_assoc]

/-- The spacing of the numbers below `2 ^ (d + 1)` divides 1. -/
theorem round_intCast_of_lt {n : ℤ} (h : |n| < 2 ^ (d + 1)) : round d n = n := by
  rcases eq_or_ne n 0 with rfl | hn
  · rw [Int.cast_zero, round_zero]
  have hpos : 0 < |(n : ℚ)| := abs_pos.mpr (by exact_mod_cast hn)
  have hlog : Int.log 2 |(n : ℚ)| < (d + 1 : ℕ) := by
    apply (Int.lt_zpow_iff_log_lt (by norm_num) hpos).mp
    rw [← Int.cast_abs, zpow_natCast]
    exact_mod_cast h
  obtain ⟨j, hj⟩ : ∃ j : ℕ, (d : ℤ) - Int.log 2 |(n : ℚ)| = j :=
    Int.eq_ofNat_of_zero_le (by omega)
  apply round_of_quotient (m := n * 2 ^ j)
  rw [ulp, div_eq_mul_inv, ← zpow_neg, neg_sub, hj, zpow_natCast]
  push_cast
  rfl

theorem round_intCast {n : ℤ} (h : |n| ≤ 2 ^ (d + 1)) : round d n = n := by
  rcases h.lt_or_eq with hlt | hend
  · exact round_intCast_of_lt hlt
  · -- the upper end is even, and its half is below
    have hpow : (2 : ℤ) ^ (d + 1) = 2 ^ d * 2 := pow_succ 2 d
    obtain ⟨m, rfl⟩ : ∃ m, n = m * 2 := by
      rcases (abs_eq (by positivity)).mp hend with rfl | rfl
      · exact ⟨2 ^ d, hpow⟩
      · exact ⟨-2 ^ d, by rw [hpow, neg_mul]⟩
    have hhalf : |m| < 2 ^ (d + 1) := by
      have hpos : (0 : ℤ) < 2 ^ (d + 1) := by positivity
      rw [abs_mul, abs_two] at hend
      omega
    have hscale := round_mul_two_zpow (d := d) m 1
    rw [zpow_one, round_intCast_of_lt hhalf] at hscale
    rw [Int.cast_mul, Int.cast_ofNat, hscale]

/-- A significand of at most `d + 1` bits, of either sign, with any exponent. -/
theorem round_of_significand {m : ℤ} (k : ℤ) (h : |m| ≤ 2 ^ (d + 1)) :
    round d ((m : ℚ) * 2 ^ k) = m * 2 ^ k := by
  rw [round_mul_two_zpow, round_intCast h]

/-- What has been rounded has such a significand, in the units of its binade. -/
theorem exists_significand (d : ℕ) {x : ℚ} (hx : x ≠ 0) :
    ∃ m : ℤ, |m| ≤ 2 ^ (d + 1) ∧ round d x = m * 2 ^ (Int.log 2 |x| - d) := by
  have hulp := ulp_pos d x
  have hbound : |x / ulp d x| ≤ ((2 ^ (d + 1) : ℤ) : ℚ) := by
    have hlt : |x| < 2 ^ (Int.log 2 |x| + 1) := by
      exact_mod_cast Int.lt_zpow_succ_log_self (by norm_num : 1 < 2) |x|
    have hscale := two_zpow_eq d 1 (abs_pos.mpr hx)
    rw [show ulp d |x| = ulp d x by rw [ulp, ulp, abs_abs]] at hscale
    rw [abs_div, abs_of_pos hulp, div_le_iff₀ hulp, ← hscale]
    exact hlt.le
  exact ⟨roundEven (x / ulp d x), abs_roundEven_le hbound, rfl⟩

/-- What has been rounded is kept. -/
theorem round_round (x : ℚ) : round d (round d x) = round d x := by
  rcases eq_or_ne x 0 with rfl | hx
  · rw [round_zero, round_zero]
  · obtain ⟨m, hm, heq⟩ := exists_significand d hx
    rw [heq]
    exact round_of_significand _ hm

/-! ## The numbers themselves -/

/-- A number with `d` fraction bits: a rational that rounding keeps. -/
structure Rounded (d : ℕ) where
  val : ℚ
  exact : round d val = val

namespace Rounded

@[ext] theorem ext {a b : Rounded d} (h : a.val = b.val) : a = b := by
  cases a
  cases b
  cases h
  rfl

/-- The number a rational is rounded to. -/
def ofRat (q : ℚ) : Rounded d := ⟨round d q, round_round q⟩

@[simp] theorem val_ofRat (q : ℚ) : (ofRat q : Rounded d).val = round d q := rfl

end Rounded

end Smi240Hal.Lib.BinaryFloat
