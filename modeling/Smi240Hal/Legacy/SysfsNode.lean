/-
# Smi240Hal.Legacy.SysfsNode — from the text of a sysfs node to the queued sample

A pass of `ap_hw_poll_smi240acc` and `ap_hw_poll_smi240gyro` reads at most 100 bytes, terminates
them and takes three numbers from the text.  A pointer into the text is the list of the cells from
it to the terminator; reading past the terminator, a store outside the buffer and a use of an
uninitialised variable are `none`.  What is done with the three numbers is `apHwPoll`.

On a text the driver writes the numbers come back as they are, and the sample holds them converted
to `float` (`sysfs_roundtrip`).  On any other text nothing is checked: `handled_iff` says for which
texts a pass is safe and gets only what has been parsed.
-/
import Smi240Hal.Lib.BinaryFloat
import Smi240Hal.Lib.Strtol
import Smi240Hal.Legacy.PipelineOrder

namespace Smi240Hal.Legacy

open Smi240Hal.Lib Strtol

/-! ## `float` -/

/-- A `float`, between two roundings. -/
abbrev Single : Type := BinaryFloat.Rounded 23

namespace Single

instance : CFloat Single where
  ofRat := .ofRat
  toInt a := a.val.num.tdiv a.val.den
  mul a b := .ofRat (a.val * b.val)
  sub a b := .ofRat (a.val - b.val)

end Single

/-! ## `sysfs_extract_numbers` -/

/-- The two sizes of a `long`. -/
inductive LongWidth
  | ilp32
  | lp64
deriving DecidableEq, Repr

/-- `LONG_MIN`. -/
def LongWidth.min : LongWidth → Int
  | ilp32 => -2 ^ 31
  | lp64 => -2 ^ 63

/-- `LONG_MAX`. -/
def LongWidth.max : LongWidth → Int
  | ilp32 => 2 ^ 31 - 1
  | lp64 => 2 ^ 63 - 1

/-- The values of an `int32_t`. -/
def Int32Range (n : Int) : Prop := -2 ^ 31 ≤ n ∧ n < 2 ^ 31

/-- A `long` stored in an `int32_t`. -/
def toInt32 (n : Int) : Int := n.bmod (2 ^ 32)

theorem toInt32_of_range {n : Int} (h : Int32Range n) : toInt32 n = n := by
  obtain ⟨hmin, hmax⟩ := h
  apply Int.bmod_eq_of_le <;> omega

theorem Int32Range.long {n : Int} (h : Int32Range n) (w : LongWidth) : w.min ≤ n ∧ n ≤ w.max := by
  obtain ⟨hmin, hmax⟩ := h
  cases w <;> simp only [LongWidth.min, LongWidth.max] <;> omega

/-- `x`, `y` and `z` of a polling loop; `none` while a variable has not been written. -/
structure SampleVars where
  x : Option Int
  y : Option Int
  z : Option Int
deriving DecidableEq

/-- The variables as the loop declares them. -/
def SampleVars.uninitialised : SampleVars := ⟨none, none, none⟩

/-- A variable and `stop` after one field, and whether `strtol` has converted a number. -/
structure Field where
  var : Option Int
  stop : Option (List UInt8)
  converted : Bool
deriving DecidableEq

/-- One field: `if (isdigit(*p) || (*p == '-')) *v = strtol(p, &stop, DIGITS_32BIT_INT)`, the base
being 10.  Otherwise an error is logged, and the variable and `stop` stay what they are. -/
def extractNumber (w : LongWidth) (p : List UInt8) (v : Option Int) (stop : Option (List UInt8)) :
    Option Field := do
  let c ← p.head?
  if isDigit c = true ∨ c = minus then
    let r ← strtol w.min w.max p
    some ⟨some (toInt32 r.value), some (p.drop r.len), r.converted⟩
  else some ⟨v, stop, false⟩

/-- The variables afterwards, and how many numbers have been converted. -/
structure Extracted where
  vars : SampleVars
  converted : Nat
deriving DecidableEq

/-- `sysfs_extract_numbers`; `stop` is uninitialised at first, and `p = ++stop` stands between two
fields. -/
def sysfsExtractNumbers (w : LongWidth) (s : List UInt8) (v : SampleVars) : Option Extracted := do
  let x ← extractNumber w s v.x none
  let afterX ← x.stop
  let y ← extractNumber w afterX.tail v.y (some afterX.tail)
  let afterY ← y.stop
  let z ← extractNumber w afterY.tail v.z (some afterY.tail)
  some ⟨⟨x.var, y.var, z.var⟩, x.converted.toNat + y.converted.toNat + z.converted.toNat⟩

/-! ## A pass of the polling loop -/

/-- `sizeof(data)`. -/
def dataSize : Nat := 100

/-- `data[ret] = '\0'`: the text up to its terminator. -/
def storeTerminator (text : List UInt8) : Option (List UInt8) :=
  if text.length < dataSize then some (text ++ [0]) else none

/-- What one pass gets from its environment: the bytes `read` has stored, the clock, and whether the
allocations succeed. -/
structure NodeRead where
  text : List UInt8
  tvSec : Int
  tvNsec : Int
  calloc : Bool
  nod : Bool

/-- What one pass makes of it: the reading the sample is filled from, the variables for the next
pass, and how many of the three numbers have been converted. -/
structure PollPass where
  reading : SysfsReading
  vars : SampleVars
  converted : Nat
deriving DecidableEq

/-- A pass of either loop up to `calloc`; `PNOTE` reads all three variables. -/
def pollPass (w : LongWidth) (n : NodeRead) (v : SampleVars) : Option PollPass := do
  let s ← storeTerminator n.text
  let e ← sysfsExtractNumbers w s v
  let x ← e.vars.x
  let y ← e.vars.y
  let z ← e.vars.z
  some ⟨⟨x, y, z, n.tvSec, n.tvNsec, n.calloc, n.nod⟩, e.vars, e.converted⟩

/-- The readings of all passes of a loop. -/
def nodeReadings (w : LongWidth) : List NodeRead → SampleVars → Option (List SysfsReading)
  | [], _ => some []
  | n :: ns, v => do
      let pass ← pollPass w n v
      let rest ← nodeReadings w ns pass.vars
      some (pass.reading :: rest)

variable {F : Type} [CFloat F]

/-- `ap_hw_poll_smi240acc`, from what `read` returns. -/
def pollAccNode (w : LongWidth) (addr : Nat) (ns : List NodeRead)
    (l : BoschSimpleList (HwDataUnion F)) : Option (PollResult F) :=
  (nodeReadings w ns .uninitialised).map fun rs => apHwPollSmi240acc addr rs l

/-- `ap_hw_poll_smi240gyro`, from what `read` returns. -/
def pollGyroNode (w : LongWidth) (addr : Nat) (ns : List NodeRead)
    (l : BoschSimpleList (HwDataUnion F)) : Option (PollResult F) :=
  (nodeReadings w ns .uninitialised).map fun rs => apHwPollSmi240gyro addr rs l

/-! ## A field that holds a number -/

section Fields

variable {w : LongWidth} {v : Option Int} {stop : Option (List UInt8)} {c : UInt8}
  {l rest : List UInt8}

/-- A numeral with some other cell behind it: `stop` is at that cell. -/
theorem extractNumber_of_strtol {n : Int} (hl : IsNumeral l)
    (h : strtol w.min w.max (l ++ c :: rest) = some ⟨n, l.length, true⟩) :
    extractNumber w (l ++ c :: rest) v stop =
      some ⟨some (toInt32 n), some (c :: rest), true⟩ := by
  obtain ⟨d, ds, rfl, hd⟩ := hl.exists_head
  have hhead : (d :: ds ++ c :: rest).head? = some d := rfl
  simp only [extractNumber, hhead, Option.bind_eq_bind, Option.bind_some, if_pos hd, h,
    List.drop_left]

theorem extractNumber_numeral (w : LongWidth) (v : Option Int) (stop : Option (List UInt8))
    (rest : List UInt8) (hl : IsNumeral l) (hc : isDigit c = false) :
    ∃ n, extractNumber w (l ++ c :: rest) v stop = some ⟨some n, some (c :: rest), true⟩ := by
  obtain ⟨n, hn⟩ := strtol_of_isNumeral w.min w.max rest hl hc
  exact ⟨_, extractNumber_of_strtol hl hn⟩

/-- The numeral of an `int32_t` comes back, whatever the size of a `long`. -/
theorem extractNumber_decimal {n : Int} (hn : Int32Range n) (hc : isDigit c = false) :
    extractNumber w (decimal n ++ c :: rest) v stop =
      some ⟨some n, some (c :: rest), true⟩ := by
  obtain ⟨hmin, hmax⟩ := hn.long w
  have h := strtol_decimal rest hmin hmax hc
  rw [extractNumber_of_strtol (isNumeral_decimal n) h, toInt32_of_range hn]

/-- Every converted field is a numeral with some other cell behind it. -/
theorem extractNumber_converted {p : List UInt8} {f : Field}
    (h : extractNumber w p v stop = some f) (hconv : f.converted = true) :
    ∃ l c rest, IsNumeral l ∧ isDigit c = false ∧ p = l ++ c :: rest ∧
      f.stop = some (c :: rest) := by
  obtain ⟨d, hd, h⟩ := Option.bind_eq_some_iff.mp h
  obtain ⟨s, rfl⟩ := List.head?_eq_some_iff.mp hd
  split at h
  case isFalse =>
    cases h
    cases hconv
  case isTrue hstart =>
    obtain ⟨r, hr, hf⟩ := Option.bind_eq_some_iff.mp h
    cases hf
    obtain ⟨l, c, rest, hl, hc, hsplit, hlen⟩ := strtol_converted hstart hr hconv
    refine ⟨l, c, rest, hl, hc, hsplit, ?_⟩
    rw [hlen, hsplit, List.drop_left]

end Fields

/-! ## What the driver writes -/

/-- A text of the node: three `int32_t`, a separator between two of them, and anything behind that
does not continue the last number. -/
structure NodeText where
  x : Int
  y : Int
  z : Int
  sepXY : UInt8
  sepYZ : UInt8
  trailing : List UInt8
  x_range : Int32Range x
  y_range : Int32Range y
  z_range : Int32Range z
  sepXY_not_digit : isDigit sepXY = false
  sepYZ_not_digit : isDigit sepYZ = false
  trailing_not_digit : ∀ c ∈ trailing.head?, isDigit c = false

namespace NodeText

/-- The text from the third number on. -/
def textZ (t : NodeText) : List UInt8 := decimal t.z ++ t.trailing

/-- The text from the second number on. -/
def textY (t : NodeText) : List UInt8 := decimal t.y ++ t.sepYZ :: t.textZ

/-- What stands in the node. -/
def text (t : NodeText) : List UInt8 := decimal t.x ++ t.sepXY :: t.textY

/-- The values of the three variables once the text has been read. -/
def vars (t : NodeText) : SampleVars := ⟨some t.x, some t.y, some t.z⟩

/-- The three numbers as the fields of a sample. -/
def sample (t : NodeText) : F × F × F :=
  (CFloat.ofRat t.x, CFloat.ofRat t.y, CFloat.ofRat t.z)

/-- Three `int32_t`, two separators and up to 64 cells behind them fit in the buffer. -/
theorem text_fits {t : NodeText} (h : t.trailing.length ≤ 64) : t.text.length < dataSize := by
  have hnumber : ∀ n, Int32Range n → (decimal n).length ≤ 10 + 1 := by
    intro n hn
    obtain ⟨hmin, hmax⟩ := hn
    apply length_decimal_le
    · omega
    · omega
  have hx := hnumber t.x t.x_range
  have hy := hnumber t.y t.y_range
  have hz := hnumber t.z t.z_range
  simp only [text, textY, textZ, List.length_append, List.length_cons, dataSize]
  omega

/-- The cell behind the last number is the head of what follows it, or the terminator. -/
theorem exists_stop (t : NodeText) :
    ∃ c rest, t.trailing ++ [0] = c :: rest ∧ isDigit c = false := by
  have htrailing := t.trailing_not_digit
  cases h : t.trailing with
  | nil => exact ⟨0, [], rfl, rfl⟩
  | cons c rest =>
      rw [h] at htrailing
      exact ⟨c, rest ++ [0], rfl, htrailing c rfl⟩

/-- The three numbers come back, whatever the variables hold before. -/
theorem sysfsExtractNumbers_text (t : NodeText) (w : LongWidth) (v : SampleVars) :
    sysfsExtractNumbers w (t.text ++ [0]) v = some ⟨t.vars, 3⟩ := by
  obtain ⟨c, rest, hstop, hc⟩ := t.exists_stop
  have hx : extractNumber w (t.text ++ [0]) v.x none =
      some ⟨some t.x, some (t.sepXY :: (t.textY ++ [0])), true⟩ := by
    rw [text, List.append_assoc, List.cons_append]
    exact extractNumber_decimal t.x_range t.sepXY_not_digit
  have hy : extractNumber w (t.textY ++ [0]) v.y (some (t.textY ++ [0])) =
      some ⟨some t.y, some (t.sepYZ :: (t.textZ ++ [0])), true⟩ := by
    rw [textY, List.append_assoc, List.cons_append]
    exact extractNumber_decimal t.y_range t.sepYZ_not_digit
  have hz : extractNumber w (t.textZ ++ [0]) v.z (some (t.textZ ++ [0])) =
      some ⟨some t.z, some (c :: rest), true⟩ := by
    rw [textZ, List.append_assoc, hstop]
    exact extractNumber_decimal t.z_range hc
  simp only [sysfsExtractNumbers, hx, hy, hz, Option.bind_eq_bind, Option.bind_some,
    List.tail_cons]
  rfl

end NodeText

/-- A pass over such a text, with the answers of the environment. -/
structure TextRead where
  node : NodeText
  tvSec : Int
  tvNsec : Int
  calloc : Bool
  nod : Bool

namespace TextRead

/-- The reading as the poll gets it, text and all. -/
def nodeRead (r : TextRead) : NodeRead := ⟨r.node.text, r.tvSec, r.tvNsec, r.calloc, r.nod⟩

/-- The reading the text is of. -/
def reading (r : TextRead) : SysfsReading :=
  ⟨r.node.x, r.node.y, r.node.z, r.tvSec, r.tvNsec, r.calloc, r.nod⟩

theorem pollPass_nodeRead {r : TextRead} (w : LongWidth) (v : SampleVars)
    (h : r.node.text.length < dataSize) :
    pollPass w r.nodeRead v = some ⟨r.reading, r.node.vars, 3⟩ := by
  have hstore : storeTerminator r.nodeRead.text = some (r.node.text ++ [0]) := if_pos h
  simp only [pollPass, hstore, Option.bind_eq_bind, Option.bind_some,
    r.node.sysfsExtractNumbers_text]
  rfl

/-- Over a whole loop: the readings are the numbers of the texts. -/
theorem nodeReadings_map (w : LongWidth) (rs : List TextRead) :
    ∀ v : SampleVars, (∀ r ∈ rs, r.node.text.length < dataSize) →
      nodeReadings w (rs.map nodeRead) v = some (rs.map reading) := by
  induction rs with
  | nil =>
      intro v _
      rfl
  | cons r rs ih =>
      intro v hfit
      have hpass := pollPass_nodeRead w v (hfit r (List.mem_cons_self ..))
      have hrest := ih r.node.vars fun q hq => hfit q (List.mem_cons_of_mem r hq)
      simp only [List.map_cons, nodeReadings, hpass, hrest, Option.bind_eq_bind, Option.bind_some]

end TextRead

/-! ## The samples of a poll -/

/-- The three values of a sample, in order. -/
def HwDataUnion.values (s : HwDataUnion F) : F × F × F := (s.x, s.y, s.z)

/-- The values a reading stands for. -/
def SysfsReading.values (r : SysfsReading) : F × F × F :=
  (CFloat.ofRat r.x, CFloat.ofRat r.y, CFloat.ofRat r.z)

theorem accHwData_values (addr : Nat) (r : SysfsReading) :
    (accHwData addr r : HwDataUnion F).values = r.values := rfl

/-- The gyroscope is mounted in position 0, which swaps and negates no axis. -/
theorem gyroHwData_values (addr : Nat) (r : SysfsReading) :
    (gyroHwData addr r : HwDataUnion F).values = r.values := rfl

/-- Every pass that gets a sample fills it from its own reading. -/
theorem apHwPoll_values {hwData : Nat → SysfsReading → HwDataUnion F}
    (hvalues : ∀ addr r, (hwData addr r).values = r.values) (rs : List SysfsReading) :
    ∀ (addr : Nat) (l : BoschSimpleList (HwDataUnion F)),
      (apHwPoll hwData addr rs l).samples.map HwDataUnion.values =
        (rs.filter SysfsReading.calloc).map SysfsReading.values := by
  induction rs with
  | nil =>
      intro addr l
      rfl
  | cons r rs ih =>
      intro addr l
      unfold apHwPoll
      split
      case isTrue hfail => rw [ih, List.filter_cons_of_neg (by simp [hfail])]
      case isFalse hok =>
        rw [List.filter_cons_of_pos (by simpa using hok), List.map_cons, List.map_cons, hvalues, ih]

/-- The samples of a poll over the texts `rs`: their values, what can be on the list afterwards, and
that they are appended in order when the allocations succeed. -/
structure CarriesTexts (rs : List TextRead) (l : BoschSimpleList (HwDataUnion F))
    (out : PollResult F) : Prop where
  values : out.samples.map HwDataUnion.values =
    (rs.filter TextRead.calloc).map fun r => r.node.sample
  queued : ∀ s ∈ out.list.data, s ∈ l.data ∨ s ∈ out.samples
  appended : (∀ r ∈ rs, r.reading.AllocOk) →
    out.freed.map Freed.pData ++ out.list.data = l.data ++ out.samples

theorem apHwPoll_carriesTexts {hwData : Nat → SysfsReading → HwDataUnion F}
    (hvalues : ∀ addr r, (hwData addr r).values = r.values) (rs : List TextRead) (addr : Nat)
    (l : BoschSimpleList (HwDataUnion F)) :
    CarriesTexts rs l (apHwPoll hwData addr (rs.map TextRead.reading) l) := by
  refine ⟨?_, ?_, ?_⟩
  · rw [apHwPoll_values hvalues, List.filter_map, List.map_map]
    rfl
  · intro s hs
    exact mem_apHwPoll _ _ _ hs
  · intro hok
    apply (apHwPoll_polled hwData (rs.map TextRead.reading) addr l _).split
    intro reading hmem
    obtain ⟨r, hr, rfl⟩ := List.mem_map.mp hmem
    exact hok r hr

theorem pollAccNode_carriesTexts (w : LongWidth) (addr : Nat) {rs : List TextRead}
    (l : BoschSimpleList (HwDataUnion F))
    (hfit : ∀ r ∈ rs, r.node.text.length < dataSize) :
    ∃ out, pollAccNode w addr (rs.map TextRead.nodeRead) l = some out ∧ CarriesTexts rs l out := by
  rw [pollAccNode, TextRead.nodeReadings_map w rs _ hfit, Option.map_some]
  exact ⟨_, rfl, apHwPoll_carriesTexts accHwData_values rs addr l⟩

theorem pollGyroNode_carriesTexts (w : LongWidth) (addr : Nat) {rs : List TextRead}
    (l : BoschSimpleList (HwDataUnion F))
    (hfit : ∀ r ∈ rs, r.node.text.length < dataSize) :
    ∃ out, pollGyroNode w addr (rs.map TextRead.nodeRead) l = some out ∧ CarriesTexts rs l out := by
  rw [pollGyroNode, TextRead.nodeReadings_map w rs _ hfit, Option.map_some]
  exact ⟨_, rfl, apHwPoll_carriesTexts gyroHwData_values rs addr l⟩

/-- The parser inverts the format of the node, and the samples of a poll carry the numbers of their
texts in order, converted to `float`: as they are up to 2^24. -/
theorem sysfs_roundtrip (w : LongWidth) (addr : Nat) (rs : List TextRead)
    (l : BoschSimpleList (HwDataUnion Single))
    (hfit : ∀ r ∈ rs, r.node.text.length < dataSize) :
    (∀ (t : NodeText) (v : SampleVars),
      sysfsExtractNumbers w (t.text ++ [0]) v = some ⟨t.vars, 3⟩) ∧
    (∃ out, pollAccNode w addr (rs.map TextRead.nodeRead) l = some out ∧ CarriesTexts rs l out) ∧
    (∃ out, pollGyroNode w addr (rs.map TextRead.nodeRead) l = some out ∧ CarriesTexts rs l out) ∧
    ∀ n : Int, |n| ≤ 2 ^ 24 → (CFloat.ofRat (n : ℚ) : Single).val = n := by
  refine ⟨?_, ?_, ?_, ?_⟩
  · intro t v
    exact t.sysfsExtractNumbers_text w v
  · exact pollAccNode_carriesTexts w addr l hfit
  · exact pollGyroNode_carriesTexts w addr l hfit
  · intro n hn
    exact BinaryFloat.round_intCast hn

/-- One number above 2^24, in the format `%d %d %d\n`. -/
def largeText : NodeText where
  x := 2 ^ 24 + 1
  y := 0
  z := -1
  sepXY := 32
  sepYZ := 32
  trailing := [10]
  x_range := by unfold Int32Range; omega
  y_range := by unfold Int32Range; omega
  z_range := by unfold Int32Range; omega
  sepXY_not_digit := rfl
  sepYZ_not_digit := rfl
  trailing_not_digit := by simp [isDigit]

def largeRead : TextRead := ⟨largeText, 1, 0, true, true⟩

theorem largeRead_fits : ∀ r ∈ [largeRead], r.node.text.length < dataSize := by
  intro r hr
  rw [List.mem_singleton.mp hr]
  exact NodeText.text_fits (t := largeText) (by simp [largeText])

/-- The two polls over that text. -/
theorem sysfs_roundtrip_large :
    (∃ out, pollAccNode .lp64 0 [largeRead.nodeRead] (BoschSimpleList.new (α := HwDataUnion Single))
      = some out ∧ CarriesTexts [largeRead] .new out) ∧
    ∃ out, pollGyroNode .lp64 0 [largeRead.nodeRead] (BoschSimpleList.new (α := HwDataUnion Single))
      = some out ∧ CarriesTexts [largeRead] .new out := by
  have h := sysfs_roundtrip .lp64 0 [largeRead] .new largeRead_fits
  exact ⟨h.2.1, h.2.2.1⟩

/-- `2 ^ 24 + 1` is read as it is, and the sample holds `2 ^ 24`. -/
theorem sample_rounds_large :
    sysfsExtractNumbers .lp64 (largeText.text ++ [0]) .uninitialised =
        some ⟨⟨some (2 ^ 24 + 1), some 0, some (-1)⟩, 3⟩ ∧
      ∃ out, pollAccNode .lp64 0 [largeRead.nodeRead]
          (BoschSimpleList.new (α := HwDataUnion Single)) = some out ∧
        out.list.data.map (fun s => s.x.val) = [2 ^ 24] ∧ (largeText.x : ℚ) ≠ 2 ^ 24 := by
  refine ⟨largeText.sysfsExtractNumbers_text .lp64 .uninitialised, ?_⟩
  have hround : BinaryFloat.round 23 ((2 ^ 24 + 1 : Int) : ℚ) = 2 ^ 24 := by
    rw [BinaryFloat.round_eq (k := 24) (by norm_num) (by norm_num)]
    decide +kernel
  have hread := TextRead.nodeReadings_map .lp64 [largeRead] .uninitialised largeRead_fits
  refine ⟨_, congrArg (Option.map fun rs => apHwPollSmi240acc 0 rs .new) hread, ?_, ?_⟩
  · exact congrArg (fun q => [q]) hround
  · norm_num [largeText]

/-! ## Other texts -/

/-- The text begins with three numerals, one cell that is no digit between two of them. -/
def ThreeIntegers (text : List UInt8) : Prop :=
  ∃ x c y d z rest, IsNumeral x ∧ isDigit c = false ∧ IsNumeral y ∧ isDigit d = false ∧
    IsNumeral z ∧ text = x ++ c :: (y ++ d :: (z ++ rest))

/-- A pass over the text stays inside the buffer and does not read past the terminator, uses nothing
uninitialised, and gets a sample only if three numbers have been converted. -/
def Handled (w : LongWidth) (text : List UInt8) (v : SampleVars) : Prop :=
  ∀ (tvSec tvNsec : Int) (calloc nod : Bool), ∃ pass,
    pollPass w ⟨text, tvSec, tvNsec, calloc, nod⟩ v = some pass ∧
      (calloc = true → pass.converted = 3)

/-- Three numerals are converted, and all three variables are written. -/
theorem sysfsExtractNumbers_threeIntegers {text : List UInt8} (h : ThreeIntegers text)
    (w : LongWidth) (v : SampleVars) :
    ∃ x y z, sysfsExtractNumbers w (text ++ [0]) v = some ⟨⟨some x, some y, some z⟩, 3⟩ := by
  obtain ⟨x, c, y, d, z, rest, hx, hc, hy, hd, hz, rfl⟩ := h
  -- the third numeral takes the digits behind it, up to the terminator at the latest
  have hend : ∃ e ∈ rest ++ [0], isDigit e = false := ⟨0, by simp, rfl⟩
  obtain ⟨z', e, rest', hz', he, hsplit⟩ := hz.extend hend
  have htext : (x ++ c :: (y ++ d :: (z ++ rest))) ++ [0] =
      x ++ c :: (y ++ d :: (z' ++ e :: rest')) := by
    simp only [List.append_assoc, List.cons_append, hsplit]
  obtain ⟨nx, hfx⟩ := extractNumber_numeral w v.x none (y ++ d :: (z' ++ e :: rest')) hx hc
  obtain ⟨ny, hfy⟩ := extractNumber_numeral w v.y (some (y ++ d :: (z' ++ e :: rest')))
    (z' ++ e :: rest') hy hd
  obtain ⟨nz, hfz⟩ := extractNumber_numeral w v.z (some (z' ++ e :: rest')) rest' hz' he
  refine ⟨nx, ny, nz, ?_⟩
  simp only [htext, sysfsExtractNumbers, hfx, hfy, hfz, Option.bind_eq_bind, Option.bind_some,
    List.tail_cons]
  rfl

theorem pollPass_threeIntegers {n : NodeRead} (hfit : n.text.length < dataSize)
    (h : ThreeIntegers n.text) (w : LongWidth) (v : SampleVars) :
    ∃ pass, pollPass w n v = some pass ∧ pass.converted = 3 := by
  obtain ⟨x, y, z, hextract⟩ := sysfsExtractNumbers_threeIntegers h w v
  have hstore : storeTerminator n.text = some (n.text ++ [0]) := if_pos hfit
  simp only [pollPass, hstore, hextract, Option.bind_eq_bind, Option.bind_some]
  exact ⟨_, rfl, rfl⟩

/-- Conversely, where three numbers are converted the text begins with three numerals. -/
theorem threeIntegers_of_converted {text : List UInt8} {w : LongWidth} {v : SampleVars}
    {e : Extracted} (h : sysfsExtractNumbers w (text ++ [0]) v = some e)
    (hthree : e.converted = 3) : ThreeIntegers text := by
  obtain ⟨fx, hfx, h⟩ := Option.bind_eq_some_iff.mp h
  obtain ⟨afterX, hstopX, h⟩ := Option.bind_eq_some_iff.mp h
  obtain ⟨fy, hfy, h⟩ := Option.bind_eq_some_iff.mp h
  obtain ⟨afterY, hstopY, h⟩ := Option.bind_eq_some_iff.mp h
  obtain ⟨fz, hfz, h⟩ := Option.bind_eq_some_iff.mp h
  cases h
  obtain ⟨hcx, hcy, hcz⟩ : fx.converted = true ∧ fy.converted = true ∧ fz.converted = true := by
    revert hthree
    cases fx.converted <;> cases fy.converted <;> cases fz.converted <;> simp
  obtain ⟨x, c, restX, hx, hc, hsplitX, hx'⟩ := extractNumber_converted hfx hcx
  obtain ⟨y, d, restY, hy, hd, hsplitY, hy'⟩ := extractNumber_converted hfy hcy
  obtain ⟨z, e, restZ, hz, he, hsplitZ, _⟩ := extractNumber_converted hfz hcz
  rw [hstopX] at hx'
  rw [hstopY] at hy'
  cases hx'
  cases hy'
  rw [List.tail_cons] at hsplitY hsplitZ
  rw [hsplitY, hsplitZ] at hsplitX
  -- the last cell is the terminator, not a part of the text
  refine ⟨x, c, y, d, z, (e :: restZ).dropLast, hx, hc, hy, hd, hz, ?_⟩
  have hlast : x ++ c :: (y ++ d :: (z ++ e :: restZ)) =
      (x ++ c :: (y ++ d :: z)) ++ (e :: restZ) := by
    simp only [List.append_assoc, List.cons_append]
  have hdrop := congrArg List.dropLast (hsplitX.trans hlast)
  rw [List.dropLast_concat, List.dropLast_append_of_ne_nil (List.cons_ne_nil e restZ)] at hdrop
  simpa only [List.append_assoc, List.cons_append] using hdrop

/-- The texts a pass handles: at most 99 bytes that begin with three numbers. -/
theorem handled_iff (w : LongWidth) (text : List UInt8) (v : SampleVars) :
    Handled w text v ↔ text.length < dataSize ∧ ThreeIntegers text := by
  constructor
  · intro h
    obtain ⟨pass, hpass, hthree⟩ := h 0 0 true true
    obtain ⟨s, hs, hpass⟩ := Option.bind_eq_some_iff.mp hpass
    obtain ⟨e, he, hpass⟩ := Option.bind_eq_some_iff.mp hpass
    obtain ⟨x, hx, hpass⟩ := Option.bind_eq_some_iff.mp hpass
    obtain ⟨y, hy, hpass⟩ := Option.bind_eq_some_iff.mp hpass
    obtain ⟨z, hz, hpass⟩ := Option.bind_eq_some_iff.mp hpass
    cases hpass
    unfold storeTerminator at hs
    split at hs
    case isFalse => cases hs
    case isTrue hfit =>
      cases hs
      exact ⟨hfit, threeIntegers_of_converted he (hthree rfl)⟩
  · rintro ⟨hfit, hthree⟩ tvSec tvNsec calloc nod
    obtain ⟨pass, hpass, hconv⟩ := pollPass_threeIntegers
      (n := ⟨text, tvSec, tvNsec, calloc, nod⟩) hfit hthree w v
    exact ⟨pass, hpass, fun _ => hconv⟩

/-- Two numbers and a line feed: `z` is used uninitialised. -/
theorem two_numbers_unhandled :
    ¬ ∀ (w : LongWidth) (text : List UInt8) (v : SampleVars), 1 ≤ text.length →
      text.length ≤ dataSize → Handled w text v := by
  intro h
  obtain ⟨pass, hpass, _⟩ := h .lp64 [49, 32, 50, 10] .uninitialised (by simp)
    (by simp [dataSize]) 1 0 true true
  have hnone : pollPass .lp64 ⟨[49, 32, 50, 10], 1, 0, true, true⟩ .uninitialised = none := by
    decide +kernel
  rw [hnone] at hpass
  cases hpass

end Smi240Hal.Legacy
