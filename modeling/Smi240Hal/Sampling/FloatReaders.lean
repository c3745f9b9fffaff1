/-
# Smi240Hal.Sampling.FloatReaders — `::atof` and `std::stof` on the same token

The number a token begins with is a parameter.  `::atof` rounds it to a `double`, the product with the
resolution is rounded to a `double` and then to a `float`; `std::stof` rounds it to a `float`, and the
product is rounded once more.  The two come to the same coordinate where the number is a `float` as it
stands: the `double` product of two `float`s is exact, so each build rounds the same product once.

They need not where it is not: 16777217 is between two `float`s.
-/
import Smi240Hal.Lib.FloatFormat
import Smi240Hal.Sampling.PayloadReaders

namespace Smi240Hal.Sampling

open Smi240Hal.Lib Smi240Hal.Lib.BinaryFloat
open Smi240Hal.Lib.Strtol (isSpace)

/-! ## The C library -/

/-- Whether `strtof` sets `ERANGE`: always for what is too large.  For what is too small and not a
`float`, C leaves it open; `reported` says. -/
def RangeError (reported : ℚ → Bool) : Extended → Prop
  | .finite q =>
      2 ^ (binary32.emax + 1) ≤ |binary32.round q| ∨
        (|q| < 2 ^ binary32.emin ∧ binary32.round q ≠ q ∧ reported q = true)
  | _ => False

instance (reported : ℚ → Bool) : DecidablePred (RangeError reported)
  | .finite _ => inferInstanceAs (Decidable (_ ∨ _))
  | .infinite _ => inferInstanceAs (Decidable False)
  | .nan => inferInstanceAs (Decidable False)

/-- The C library and the machine.  `number` is what a token begins with, where that is a number;
`::atof` gives 0 elsewhere, and `std::stof` throws there and on a range error. -/
def ieee (number : List UInt8 → Option Extended) (reported : ℚ → Bool) :
    CNumbers (Number binary32) where
  Double := Number binary64
  atof token := .round binary64 ((number token).getD (.finite 0))
  stof token := do
    let x ← number token
    if RangeError reported x then none else some (.round binary32 x)
  mulDouble d r := .round binary32 (d.mul (.round binary64 r.val)).val
  mulFloat a r := a.mul r

/-! ## Where they come to the same -/

variable {number : List UInt8 → Option Extended} {reported : ℚ → Bool}

/-- The token begins with a number that is a `float`. -/
def SaysFloat (number : List UInt8 → Option Extended) (token : List UInt8) : Prop :=
  ∃ a : Number binary32, number token = some a.val

/-- The integers up to 2^24 are. -/
theorem saysFloat_intCast {token : List UInt8} {n : ℤ} (hn : |n| ≤ 2 ^ 24)
    (h : number token = some (.finite n)) : SaysFloat number token :=
  ⟨⟨.finite n, Format.holds_intCast hn (by decide) (by decide)⟩, h⟩

theorem not_rangeError (a : Number binary32) : ¬ RangeError reported a.val := by
  cases hval : a.val with
  | finite q =>
      have hheld : binary32.HoldsRat q := by
        have h := a.held
        rwa [hval] at h
      rintro (hlarge | ⟨-, hinexact, -⟩)
      · rw [hheld.round_eq] at hlarge
        exact absurd hheld.bounded (not_lt.mpr hlarge)
      · exact hinexact hheld.round_eq
  | infinite s => exact id
  | nan => exact id

/-- A `float` in the file is the same coordinate in every build, whatever the resolution. -/
theorem coordinate_float (v : Variant) {token : List UInt8} {a : Number binary32}
    (h : number token = some a.val) (resolution : Number binary32) :
    v.coordinate (ieee number reported) resolution token = some (a.mul resolution) := by
  have hdouble : ((ieee number reported).mulDouble ((ieee number reported).atof token) resolution) =
      a.mul resolution := by
    simp only [ieee, h, Option.getD_some]
    exact Number.round_mul_wide Format.room_binary a resolution
  cases v with
  | v2X => rw [coordinate_atof (by decide), hdouble]
  | multihal => rw [coordinate_atof (by decide), hdouble]
  | aidl =>
      simp only [Variant.coordinate, ieee, h, Option.bind_eq_bind, Option.bind_some,
        if_neg (not_rangeError a), Number.round_val, Option.map_some]

/-- The file opens and begins with three tokens; where `::atof` reads them in the one build and
`std::stof` in the other, each says a `float`. -/
def FileShared (number : List UInt8 → Option Extended) (v v' : Variant)
    (file : Option (List UInt8)) : Prop :=
  ∃ content x y z rest, file = some content ∧ tokens content = x :: y :: z :: rest ∧
    ((v = .aidl ↔ v' = .aidl) ∨ ∀ token ∈ [x, y, z], SaysFloat number token)

theorem readAlike_of_shared {v v' : Variant} {file : Option (List UInt8)}
    (h : FileShared number v v' file) (resolution : Number binary32) :
    ReadAlike (ieee number reported) v v' resolution file := by
  obtain ⟨content, x, y, z, rest, rfl, htokens, hsame | hfloats⟩ := h
  · refine ⟨content, x, y, z, rest, rfl, htokens, fun token _ => ?_⟩
    by_cases hv : v = .aidl
    · rw [hv, hsame.mp hv]
    · rw [coordinate_atof hv, coordinate_atof (mt hsame.mpr hv)]
  · refine ⟨content, x, y, z, rest, rfl, htokens, fun token htoken => ?_⟩
    obtain ⟨a, ha⟩ := hfloats token htoken
    rw [coordinate_float v ha, coordinate_float v' ha]

/-! ## Where they do not -/

/-- 16777217 at a resolution of 3: the `double` product, 50331651, is nearer to another `float` than
the one the rounded number gives. -/
theorem coordinate_between {token : List UInt8} (h : number token = some (.finite 16777217)) :
    (Variant.v2X.coordinate (ieee number reported) (.round binary32 (.finite 3)) token).map
        Number.val = some (.finite 50331652) ∧
      (Variant.aidl.coordinate (ieee number reported) (.round binary32 (.finite 3)) token).map
        Number.val = some (.finite 50331648) := by
  have hrange : ¬ RangeError reported (.finite 16777217) := by
    rintro (hlarge | ⟨hsmall, -⟩)
    · exact absurd hlarge (by decide +kernel)
    · exact absurd hsmall (by decide +kernel)
  constructor
  · simp only [Variant.coordinate, ieee, h]
    decide +kernel
  · simp only [Variant.coordinate, ieee, h, Option.bind_eq_bind, Option.bind_some, if_neg hrange]
    decide +kernel

end Smi240Hal.Sampling
