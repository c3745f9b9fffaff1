/-
# Smi240Hal.Lib.Strtol — `strtol` in base 10, and decimal numerals

A pointer into a text is the list of the cells from it to the last one that may be read; a scan that
would run off the end of the list is `none`.  `strtol` is the function of the C standard in base 10:
white space, an optional sign, digits; with no digit nothing is converted and the end pointer is the
start; a value out of range saturates.

`decimal n` is the numeral of an integer.  `strtol_decimal` says that reading it back gives the
integer and stops behind it.
-/
import Mathlib.Data.Nat.Digits.Lemmas

namespace Smi240Hal.Lib.Strtol

/-! ## Scanning -/

/-- White space of the "C" locale. -/
def isSpace (c : UInt8) : Bool := c == 32 || (9 ≤ c && c ≤ 13)

/-- `0` to `9`. -/
def isDigit (c : UInt8) : Bool := 48 ≤ c && c ≤ 57

def minus : UInt8 := 45

def plus : UInt8 := 43

/-- The cells that satisfy `p`, up to the first that does not, and the cells from that one. -/
def scan (p : UInt8 → Bool) : List UInt8 → Option (List UInt8 × List UInt8)
  | [] => none
  | c :: cs => if p c then (scan p cs).map fun out => (c :: out.1, out.2) else some ([], c :: cs)

section Scan

variable {p : UInt8 → Bool}

theorem scan_cons_of_not {c : UInt8} {cs : List UInt8} (hc : p c = false) :
    scan p (c :: cs) = some ([], c :: cs) := by
  rw [scan, hc, if_neg Bool.false_ne_true]

theorem scan_append {pre : List UInt8} {c : UInt8} (rest : List UInt8)
    (hpre : ∀ x ∈ pre, p x = true) (hc : p c = false) :
    scan p (pre ++ c :: rest) = some (pre, c :: rest) := by
  induction pre with
  | nil => exact scan_cons_of_not hc
  | cons x pre ih =>
      have hx := hpre x (List.mem_cons_self ..)
      rw [List.cons_append, scan, if_pos hx, ih fun y hy => hpre y (List.mem_cons_of_mem x hy),
        Option.map_some]

/-- Where a scan stops. -/
theorem scan_split {l pre post : List UInt8} (h : scan p l = some (pre, post)) :
    ∃ c rest, post = c :: rest ∧ l = pre ++ c :: rest ∧ (∀ x ∈ pre, p x = true) ∧ p c = false := by
  induction l generalizing pre with
  | nil => cases h
  | cons x l ih =>
      rw [scan] at h
      cases hx : p x with
      | false =>
          rw [hx, if_neg Bool.false_ne_true] at h
          cases h
          exact ⟨x, l, rfl, rfl, by simp, hx⟩
      | true =>
          rw [if_pos hx] at h
          obtain ⟨⟨pre', post'⟩, hscan, heq⟩ := Option.map_eq_some_iff.mp h
          cases heq
          obtain ⟨c, rest, rfl, rfl, hpre, hc⟩ := ih hscan
          refine ⟨c, rest, rfl, rfl, ?_, hc⟩
          intro y hy
          rcases List.mem_cons.mp hy with rfl | hy
          · exact hx
          · exact hpre y hy

end Scan

/-! ## `strtol` -/

/-- The value, how far behind the start the end pointer is, and whether a number was converted. -/
structure Result where
  value : Int
  len : Nat
  converted : Bool
deriving DecidableEq

/-- An optional sign and what follows it. -/
def splitSign : List UInt8 → List UInt8 × List UInt8
  | [] => ([], [])
  | c :: cs => if c = minus ∨ c = plus then ([c], cs) else ([], c :: cs)

/-- The number a string of digits stands for. -/
def digitsValue (digits : List UInt8) : Nat :=
  digits.foldl (fun v c => 10 * v + (c.toNat - 48)) 0

/-- The nearest value of a range. -/
def saturate (min max n : Int) : Int := if n < min then min else if max < n then max else n

theorem saturate_of_mem {min max n : Int} (hmin : min ≤ n) (hmax : n ≤ max) :
    saturate min max n = n := by
  rw [saturate, if_neg (by omega), if_neg (by omega)]

/-- `strtol(nptr, &endptr, 10)` with `LONG_MIN` and `LONG_MAX`. -/
def strtol (min max : Int) (nptr : List UInt8) : Option Result := do
  let (spaces, subject) ← scan isSpace nptr
  let (sign, rest) := splitSign subject
  let (digits, _) ← scan isDigit rest
  if digits = [] then some ⟨0, 0, false⟩
  else
    some
      { value := saturate min max
          (if sign = [minus] then -digitsValue digits else digitsValue digits)
        len := spaces.length + sign.length + digits.length
        converted := true }

theorem isSpace_of_isDigit {c : UInt8} (h : isDigit c = true) : isSpace c = false := by
  simp only [isDigit, isSpace, Bool.and_eq_true, decide_eq_true_eq, UInt8.le_iff_toNat_le,
    Bool.or_eq_false_iff, beq_eq_false_iff_ne, ne_eq, Bool.and_eq_false_iff,
    decide_eq_false_iff_not] at h ⊢
  constructor
  · rintro rfl
    exact absurd h.1 (by decide)
  · right
    have : (48 : UInt8).toNat = 48 := rfl
    have : (13 : UInt8).toNat = 13 := rfl
    omega

theorem splitSign_minus (cs : List UInt8) : splitSign (minus :: cs) = ([minus], cs) := by
  rw [splitSign, if_pos (Or.inl rfl)]

theorem splitSign_of_isDigit {c : UInt8} {cs : List UInt8} (h : isDigit c = true) :
    splitSign (c :: cs) = ([], c :: cs) := by
  refine if_neg ?_
  rintro (rfl | rfl) <;> exact absurd h (by decide)

/-- An optional minus sign and at least one digit. -/
def IsNumeral (l : List UInt8) : Prop :=
  ∃ (negative : Bool) (digits : List UInt8), digits ≠ [] ∧ (∀ d ∈ digits, isDigit d = true) ∧
    l = (if negative then [minus] else []) ++ digits

/-- A numeral begins with a digit or a minus sign. -/
theorem IsNumeral.exists_head {l : List UInt8} (h : IsNumeral l) :
    ∃ c cs, l = c :: cs ∧ (isDigit c = true ∨ c = minus) := by
  obtain ⟨negative, digits, hne, hdigits, rfl⟩ := h
  cases negative with
  | true => exact ⟨minus, digits, rfl, Or.inr rfl⟩
  | false =>
      obtain ⟨d, ds, rfl⟩ := List.exists_cons_of_ne_nil hne
      exact ⟨d, ds, rfl, Or.inl (hdigits d (List.mem_cons_self ..))⟩

theorem IsNumeral.concat {l : List UInt8} {d : UInt8} (h : IsNumeral l) (hd : isDigit d = true) :
    IsNumeral (l ++ [d]) := by
  obtain ⟨negative, digits, hne, hdigits, rfl⟩ := h
  refine ⟨negative, digits ++ [d], List.append_ne_nil_of_left_ne_nil hne _, ?_, ?_⟩
  · intro e he
    rcases List.mem_append.mp he with he | he
    · exact hdigits e he
    · rwa [List.mem_singleton.mp he]
  · rw [List.append_assoc]

/-- The digits that follow a numeral belong to it. -/
theorem IsNumeral.extend {l rest : List UInt8} (h : IsNumeral l)
    (hend : ∃ c ∈ rest, isDigit c = false) :
    ∃ l' c rest', IsNumeral l' ∧ isDigit c = false ∧ l ++ rest = l' ++ c :: rest' := by
  induction rest generalizing l with
  | nil => simp at hend
  | cons d rest ih =>
      cases hd : isDigit d with
      | false => exact ⟨l, d, rest, h, hd, rfl⟩
      | true =>
          obtain ⟨c, hc, hnot⟩ := hend
          have hmem : c ∈ rest := by
            rcases List.mem_cons.mp hc with rfl | hmem
            · rw [hd] at hnot
              cases hnot
            · exact hmem
          obtain ⟨l', e, rest', hl', he, heq⟩ := ih (h.concat hd) ⟨c, hmem, hnot⟩
          refine ⟨l', e, rest', hl', he, ?_⟩
          rw [← heq, List.append_assoc, List.singleton_append]

section Strtol

variable {min max : Int} {digits : List UInt8} {c : UInt8}

/-- An optional minus sign, digits, and a cell that is no digit. -/
theorem strtol_eq (min max : Int) (negative : Bool) (rest : List UInt8) (hne : digits ≠ [])
    (hdigits : ∀ d ∈ digits, isDigit d = true) (hc : isDigit c = false) :
    strtol min max ((if negative then [minus] else []) ++ digits ++ c :: rest) = some
      { value := saturate min max (if negative then -digitsValue digits else digitsValue digits)
        len := (if negative then [minus] else []).length + digits.length
        converted := true } := by
  obtain ⟨d, ds, rfl⟩ := List.exists_cons_of_ne_nil hne
  have hscan : scan isDigit (d :: (ds ++ c :: rest)) = some (d :: ds, c :: rest) :=
    scan_append rest hdigits hc
  cases negative with
  | true =>
      have hspace : scan isSpace (minus :: (d :: (ds ++ c :: rest))) =
          some ([], minus :: (d :: (ds ++ c :: rest))) := scan_cons_of_not rfl
      have hsign : splitSign (minus :: (d :: (ds ++ c :: rest))) =
          ([minus], d :: (ds ++ c :: rest)) := splitSign_minus _
      simp only [strtol, if_true, List.cons_append, List.nil_append, hspace, hsign, hscan,
        Option.bind_eq_bind, Option.bind_some, if_neg hne, List.length_nil, Nat.zero_add]
  | false =>
      have hd := hdigits d (List.mem_cons_self ..)
      have hspace : scan isSpace (d :: (ds ++ c :: rest)) = some ([], d :: (ds ++ c :: rest)) :=
        scan_cons_of_not (isSpace_of_isDigit hd)
      have hsign : splitSign (d :: (ds ++ c :: rest)) = ([], d :: (ds ++ c :: rest)) :=
        splitSign_of_isDigit hd
      simp only [strtol, Bool.false_eq_true, if_false, List.cons_append, List.nil_append, hspace,
        hsign, hscan, Option.bind_eq_bind, Option.bind_some, if_neg hne, List.length_nil,
        Nat.zero_add, if_neg (List.cons_ne_nil minus []).symm]

/-- `strtol` converts a numeral that some other cell follows, and stops at that cell. -/
theorem strtol_of_isNumeral (min max : Int) {l : List UInt8} (rest : List UInt8)
    (h : IsNumeral l) (hc : isDigit c = false) :
    ∃ n, strtol min max (l ++ c :: rest) = some ⟨n, l.length, true⟩ := by
  obtain ⟨negative, digits, hne, hdigits, rfl⟩ := h
  rw [strtol_eq min max negative rest hne hdigits hc, List.length_append]
  exact ⟨_, rfl⟩

/-- Conversely, when the text begins with a digit or a minus sign: what `strtol` converts is a
numeral, and it stops behind it. -/
theorem strtol_converted {s : List UInt8} {r : Result} (hstart : isDigit c = true ∨ c = minus)
    (h : strtol min max (c :: s) = some r) (hconv : r.converted = true) :
    ∃ l d rest, IsNumeral l ∧ isDigit d = false ∧ c :: s = l ++ d :: rest ∧ r.len = l.length := by
  have hspace : scan isSpace (c :: s) = some ([], c :: s) := by
    apply scan_cons_of_not
    rcases hstart with hc | rfl
    · exact isSpace_of_isDigit hc
    · rfl
  -- the sign, and the digits behind it
  obtain ⟨negative, subject, hsign, hsubject⟩ : ∃ (negative : Bool) (subject : List UInt8),
      splitSign (c :: s) = (if negative then [minus] else [], subject) ∧
        c :: s = (if negative then [minus] else []) ++ subject := by
    rcases hstart with hc | rfl
    · exact ⟨false, c :: s, splitSign_of_isDigit hc, rfl⟩
    · exact ⟨true, s, splitSign_minus s, rfl⟩
  simp only [strtol, hspace, Option.bind_eq_bind, Option.bind_some, hsign] at h
  obtain ⟨⟨digits, post⟩, hscan, hresult⟩ := Option.bind_eq_some_iff.mp h
  obtain ⟨d, rest, rfl, rfl, hdigits, hd⟩ := scan_split hscan
  split at hresult
  case isTrue =>
    cases hresult
    cases hconv
  case isFalse hne =>
    cases hresult
    refine ⟨_, d, rest, ⟨negative, digits, hne, hdigits, rfl⟩, hd, ?_, ?_⟩
    · rw [hsubject, List.append_assoc]
    · rw [List.length_append, List.length_nil, Nat.zero_add]

end Strtol

/-! ## Decimal numerals -/

/-- A digit as a character. -/
def digitChar (d : Nat) : UInt8 := UInt8.ofNat (48 + d)

/-- The decimal numeral of a natural number. -/
def decimalNat (n : Nat) : List UInt8 :=
  if n = 0 then [digitChar 0] else (Nat.digits 10 n).reverse.map digitChar

/-- The decimal numeral of an integer. -/
def decimal (n : Int) : List UInt8 := (if n < 0 then [minus] else []) ++ decimalNat n.natAbs

theorem digitChar_toNat {d : Nat} (h : d < 10) : (digitChar d).toNat = 48 + d := by
  rw [digitChar, UInt8.toNat_ofNat']
  exact Nat.mod_eq_of_lt (by omega)

theorem isDigit_digitChar {d : Nat} (h : d < 10) : isDigit (digitChar d) = true := by
  have := digitChar_toNat h
  simp only [isDigit, Bool.and_eq_true, decide_eq_true_eq, UInt8.le_iff_toNat_le, this]
  exact ⟨show 48 ≤ 48 + d by omega, show 48 + d ≤ 57 by omega⟩

theorem decimalNat_isDigit (n : Nat) : ∀ c ∈ decimalNat n, isDigit c = true := by
  intro c hc
  unfold decimalNat at hc
  split at hc
  · rw [List.mem_singleton.mp hc]
    exact isDigit_digitChar (by omega)
  · obtain ⟨d, hd, rfl⟩ := List.mem_map.mp hc
    exact isDigit_digitChar (Nat.digits_lt_base (by omega) (List.mem_reverse.mp hd))

theorem decimalNat_ne_nil (n : Nat) : decimalNat n ≠ [] := by
  unfold decimalNat
  split
  · exact List.cons_ne_nil _ _
  case isFalse hn =>
    rw [Ne, List.map_eq_nil_iff, List.reverse_eq_nil_iff]
    exact Nat.digits_ne_nil_iff_ne_zero.mpr hn

theorem digitsValue_decimalNat (n : Nat) : digitsValue (decimalNat n) = n := by
  unfold decimalNat
  split
  case isTrue hn => rw [hn]; rfl
  case isFalse =>
    have hfold : ∀ ds : List Nat, (∀ d ∈ ds, d < 10) →
        digitsValue (ds.reverse.map digitChar) = Nat.ofDigits 10 ds := by
      intro ds
      rw [digitsValue, List.map_reverse, List.foldl_reverse]
      induction ds with
      | nil => exact fun _ => rfl
      | cons d ds ih =>
          intro hlt
          have hd := digitChar_toNat (hlt d (List.mem_cons_self ..))
          have hds := ih fun e he => hlt e (List.mem_cons_of_mem d he)
          rw [List.map_cons, List.foldr_cons, hds, hd, Nat.ofDigits_cons]
          omega
    rw [hfold _ fun d hd => Nat.digits_lt_base (by omega) hd, Nat.ofDigits_digits]

theorem length_decimal_le {n : Int} {k : Nat} (hpos : 0 < k) (h : n.natAbs < 10 ^ k) :
    (decimal n).length ≤ k + 1 := by
  have hdigits : (decimalNat n.natAbs).length ≤ k := by
    unfold decimalNat
    split
    · exact hpos
    · rw [List.length_map, List.length_reverse]
      exact (Nat.digits_length_le_iff (by omega) _).mpr h
  have hsign : (if n < 0 then [minus] else []).length ≤ 1 := by
    split <;> simp
  rw [decimal, List.length_append]
  omega

theorem isNumeral_decimal (n : Int) : IsNumeral (decimal n) := by
  refine ⟨decide (n < 0), decimalNat n.natAbs, decimalNat_ne_nil _, decimalNat_isDigit _, ?_⟩
  simp only [decimal, decide_eq_true_eq]

/-- Reading a numeral back gives the integer, and stops behind the numeral. -/
theorem strtol_decimal {min max n : Int} {c : UInt8} (rest : List UInt8) (hmin : min ≤ n)
    (hmax : n ≤ max) (hc : isDigit c = false) :
    strtol min max (decimal n ++ c :: rest) = some ⟨n, (decimal n).length, true⟩ := by
  have hread := strtol_eq min max (decide (n < 0)) rest
    (decimalNat_ne_nil n.natAbs) (decimalNat_isDigit n.natAbs) hc
  have hvalue : (if n < 0 then -(n.natAbs : Int) else n.natAbs) = n := by
    split <;> omega
  simp only [decide_eq_true_eq, digitsValue_decimalNat, hvalue, saturate_of_mem hmin hmax] at hread
  rw [decimal, hread, List.length_append]

end Smi240Hal.Lib.Strtol
