/-
# Smi240Hal.Lib.FloatFormat — floating-point formats with their exponents

`BinaryFloat.round` keeps a significand and lets the exponent be what it has to be.  A `Format` bounds
the exponent on both sides: below `2 ^ emin` the spacing of the numbers stays what it is there, and
what does not stay below `2 ^ (emax + 1)` is infinite.

An `Extended` is an exact number, an infinity or no number at all; a `Number` of a format is an
`Extended` the format holds.  An operation is carried out exactly and then rounded.  The two zeros are
one `Number`, and so are all that are not a number.
-/
import Smi240Hal.Lib.BinaryFloat

namespace Smi240Hal.Lib.BinaryFloat

/-! ## Exact numbers -/

/-- A rational, an infinity of either sign, or no number. -/
inductive Extended
  | finite (q : ℚ)
  | infinite (negative : Bool)
  | nan
deriving DecidableEq

namespace Extended

/-- An infinity keeps its sign rule; with zero it is no number. -/
def mul : Extended → Extended → Extended
  | finite a, finite b => finite (a * b)
  | finite a, infinite s => if a = 0 then nan else infinite (s != decide (a < 0))
  | infinite s, finite b => if b = 0 then nan else infinite (s != decide (b < 0))
  | infinite s, infinite t => infinite (s != t)
  | nan, _ => nan
  | _, nan => nan

end Extended

/-! ## Formats -/

/-- The fraction bits, and the exponents of the smallest and of the largest normal binade. -/
structure Format where
  fractionBits : ℕ
  emin : ℤ
  emax : ℤ

/-- `float`. -/
def binary32 : Format := ⟨23, -126, 127⟩

/-- `double`. -/
def binary64 : Format := ⟨52, -1022, 1023⟩

namespace Format

variable {f g : Format} {q r : ℚ}

/-- The exponent of the smallest number. -/
def least (f : Format) : ℤ := f.emin - f.fractionBits

/-- A significand that fits and an exponent in range. -/
structure HoldsRat (f : Format) (q : ℚ) : Prop where
  significand : ∃ m k : ℤ, |m| ≤ 2 ^ (f.fractionBits + 1) ∧ f.least ≤ k ∧ q = m * 2 ^ k
  bounded : |q| < 2 ^ (f.emax + 1)

/-- The numbers of the format; the infinities and what is no number are among them. -/
def Holds (f : Format) : Extended → Prop
  | .finite q => f.HoldsRat q
  | _ => True

/-- Round to a number of the format, as if there were no largest one. -/
def round (f : Format) (x : ℚ) : ℚ :=
  if |x| < 2 ^ f.emin then roundEven (x / 2 ^ f.least) * 2 ^ f.least
  else BinaryFloat.round f.fractionBits x

theorem exists_quotient {m k l : ℤ} (h : l ≤ k) :
    ∃ n : ℤ, (m : ℚ) * 2 ^ k / 2 ^ l = n := by
  obtain ⟨j, hj⟩ : ∃ j : ℕ, k - l = j := Int.eq_ofNat_of_zero_le (by omega)
  refine ⟨m * 2 ^ j, ?_⟩
  rw [mul_div_assoc, ← zpow_sub₀ (by norm_num), hj, zpow_natCast]
  push_cast
  rfl

/-- A number of the format is kept. -/
theorem HoldsRat.round_eq (h : f.HoldsRat q) : f.round q = q := by
  obtain ⟨m, k, hm, hk, rfl⟩ := h.significand
  unfold round
  split
  · obtain ⟨n, hn⟩ := exists_quotient (m := m) hk
    have hne : (2 : ℚ) ^ f.least ≠ 0 := by positivity
    rw [hn, roundEven_intCast, ← hn, div_mul_cancel₀ _ hne]
  · exact round_of_significand k hm

/-- What has been rounded has a significand that fits. -/
theorem round_significand (f : Format) (x : ℚ) :
    ∃ m k : ℤ, |m| ≤ 2 ^ (f.fractionBits + 1) ∧ f.least ≤ k ∧ f.round x = m * 2 ^ k := by
  unfold round
  split
  next hsmall =>
    -- below the normal numbers the spacing is that of the first binade
    have hpos : (0 : ℚ) < 2 ^ f.least := by positivity
    have hpow : (2 : ℚ) ^ f.emin = ((2 ^ f.fractionBits : ℤ) : ℚ) * 2 ^ f.least := by
      push_cast
      rw [← zpow_natCast, ← zpow_add₀ (by norm_num)]
      congr 1
      unfold least
      ring
    have hquot : |x / 2 ^ f.least| ≤ ((2 ^ f.fractionBits : ℤ) : ℚ) := by
      rw [abs_div, abs_of_pos hpos, div_le_iff₀ hpos, ← hpow]
      exact hsmall.le
    have hle : (2 : ℤ) ^ f.fractionBits ≤ 2 ^ (f.fractionBits + 1) :=
      pow_le_pow_right₀ (by norm_num) (by omega)
    exact ⟨roundEven (x / 2 ^ f.least), f.least, (abs_roundEven_le hquot).trans hle, le_rfl, rfl⟩
  next hlarge =>
    have hx : 0 < |x| := lt_of_lt_of_le (by positivity) (not_lt.mp hlarge)
    have hlog : f.emin ≤ Int.log 2 |x| :=
      (Int.zpow_le_iff_le_log (by norm_num) hx).mp (by exact_mod_cast not_lt.mp hlarge)
    obtain ⟨m, hm, heq⟩ := exists_significand f.fractionBits (abs_pos.mp hx)
    refine ⟨m, Int.log 2 |x| - f.fractionBits, hm, ?_, heq⟩
    unfold least
    omega

/-- `g` has room for the product of two numbers of `f`. -/
structure Room (f g : Format) : Prop where
  bits : 2 * f.fractionBits + 1 ≤ g.fractionBits
  least : g.least ≤ 2 * f.least
  emax : 2 * (f.emax + 1) ≤ g.emax + 1
  least_nonpos : f.least ≤ 0
  emax_nonneg : 0 ≤ f.emax + 1

theorem room_binary : binary32.Room binary64 := by
  constructor <;> decide

theorem HoldsRat.widen (hroom : f.Room g) (h : f.HoldsRat q) : g.HoldsRat q := by
  obtain ⟨hbits, hleast, hemax, hnonpos, hnonneg⟩ := hroom
  obtain ⟨⟨m, k, hm, hk, heq⟩, hbounded⟩ := h
  refine ⟨⟨m, k, hm.trans (pow_le_pow_right₀ (by norm_num) (by omega)), by omega, heq⟩, ?_⟩
  exact hbounded.trans_le (zpow_le_zpow_right₀ (by norm_num) (by omega))

/-- Twice the bits keep a product. -/
theorem HoldsRat.mul (hroom : f.Room g) (hq : f.HoldsRat q) (hr : f.HoldsRat r) :
    g.HoldsRat (q * r) := by
  obtain ⟨⟨m, k, hm, hk, rfl⟩, hqbound⟩ := hq
  obtain ⟨⟨n, l, hn, hl, rfl⟩, hrbound⟩ := hr
  have hbits := hroom.bits
  have hleast := hroom.least
  constructor
  · have hprod : |m * n| ≤ 2 ^ (g.fractionBits + 1) := by
      calc |m * n| = |m| * |n| := abs_mul m n
        _ ≤ 2 ^ (f.fractionBits + 1) * 2 ^ (f.fractionBits + 1) :=
            mul_le_mul hm hn (abs_nonneg n) (by positivity)
        _ = 2 ^ (f.fractionBits + 1 + (f.fractionBits + 1)) := (pow_add 2 _ _).symm
        _ ≤ 2 ^ (g.fractionBits + 1) := pow_le_pow_right₀ (by norm_num) (by omega)
    refine ⟨m * n, k + l, hprod, by omega, ?_⟩
    rw [zpow_add₀ (by norm_num)]
    push_cast
    ring
  · rw [abs_mul]
    calc |(m : ℚ) * 2 ^ k| * |(n : ℚ) * 2 ^ l|
        < 2 ^ (f.emax + 1) * 2 ^ (f.emax + 1) :=
          mul_lt_mul'' hqbound hrbound (abs_nonneg _) (abs_nonneg _)
      _ = 2 ^ (f.emax + 1 + (f.emax + 1)) := (zpow_add₀ (by norm_num) _ _).symm
      _ ≤ 2 ^ (g.emax + 1) :=
          zpow_le_zpow_right₀ (by norm_num) (by have := hroom.emax; omega)

theorem Holds.widen (hroom : f.Room g) {x : Extended} (h : f.Holds x) : g.Holds x := by
  cases x with
  | finite q => exact HoldsRat.widen hroom h
  | infinite s => exact trivial
  | nan => exact trivial

theorem Holds.mul (hroom : f.Room g) {x y : Extended} (hx : f.Holds x) (hy : f.Holds y) :
    g.Holds (x.mul y) := by
  cases x with
  | finite a =>
      cases y with
      | finite b => exact HoldsRat.mul hroom hx hy
      | infinite t =>
          show g.Holds (if a = 0 then .nan else .infinite (t != decide (a < 0)))
          split <;> exact trivial
      | nan => exact trivial
  | infinite s =>
      cases y with
      | finite b =>
          show g.Holds (if b = 0 then .nan else .infinite (s != decide (b < 0)))
          split <;> exact trivial
      | infinite t => exact trivial
      | nan => exact trivial
  | nan => exact trivial

/-- An integer the significand has bits for. -/
theorem holds_intCast {n : ℤ} (h : |n| ≤ 2 ^ (f.fractionBits + 1)) (hleast : f.least ≤ 0)
    (hemax : f.fractionBits < f.emax) : f.Holds (.finite n) := by
  refine ⟨⟨n, 0, h, hleast, by rw [zpow_zero, mul_one]⟩, ?_⟩
  calc |(n : ℚ)| = ((|n| : ℤ) : ℚ) := (Int.cast_abs).symm
    _ ≤ ((2 ^ (f.fractionBits + 1) : ℤ) : ℚ) := by exact_mod_cast h
    _ = 2 ^ ((f.fractionBits + 1 : ℕ) : ℤ) := by
        rw [zpow_natCast]
        push_cast
        rfl
    _ < 2 ^ (f.emax + 1) := zpow_lt_zpow_right₀ (by norm_num) (by push_cast; omega)

end Format

/-! ## The numbers of a format -/

/-- A number of the format. -/
structure Number (f : Format) where
  val : Extended
  held : f.Holds val
deriving DecidableEq

namespace Number

variable {f g : Format}

@[ext] theorem ext {a b : Number f} (h : a.val = b.val) : a = b := by
  cases a
  cases b
  cases h
  rfl

/-- Round to nearest, ties to even; what is then too large is infinite. -/
def ofRat (f : Format) (q : ℚ) : Number f :=
  if h : |f.round q| < 2 ^ (f.emax + 1) then ⟨.finite (f.round q), f.round_significand q, h⟩
  else ⟨.infinite (decide (q < 0)), trivial⟩

/-- Only a rational is changed. -/
def round (f : Format) : Extended → Number f
  | .finite q => ofRat f q
  | .infinite s => ⟨.infinite s, trivial⟩
  | .nan => ⟨.nan, trivial⟩

theorem round_eq {x : Extended} (h : f.Holds x) : round f x = ⟨x, h⟩ := by
  cases x with
  | finite q =>
      have hround : f.round q = q := Format.HoldsRat.round_eq h
      simp only [round, ofRat, hround, h.bounded, dif_pos]
  | infinite s => rfl
  | nan => rfl

@[simp] theorem round_val (a : Number f) : round f a.val = a := round_eq a.held

/-- The exact product, rounded. -/
def mul (a b : Number f) : Number f := round f (a.val.mul b.val)

/-- A product in a format with room for it, rounded there to the smaller one. -/
theorem round_mul_wide (hroom : f.Room g) (a b : Number f) :
    round f ((round g a.val).mul (round g b.val)).val = a.mul b := by
  have hprod : g.Holds (a.val.mul b.val) := Format.Holds.mul hroom a.held b.held
  rw [round_eq (a.held.widen hroom), round_eq (b.held.widen hroom), mul, round_eq hprod, mul]

instance : Zero (Number f) := ⟨round f (.finite 0)⟩

end Number

end Smi240Hal.Lib.BinaryFloat
