/-
# Smi240Hal.Lib.Overlay — the fields of a union, as cells of one region

The members of a C union share one region of cells; a field of a member is a run of `k` cells from
an offset on.  Nothing in the region says which member was written last, so what a field reads back
after writes of other fields depends on the offsets alone.
-/
import Mathlib.Init

namespace Smi240Hal.Lib

/-- `k` cells of a region of `n`. -/
structure Field (n k : Nat) where
  offset : Nat
  fits : offset + k ≤ n

namespace Field

variable {β : Type*} {n k l : Nat}

/-- The bytes of a field. -/
def read (f : Field n k) (u : Fin n → β) : Fin k → β :=
  fun i => u ⟨f.offset + i.val, by have := f.fits; omega⟩

/-- The cells of the field; the others keep what they hold. -/
def write (f : Field n k) (v : Fin k → β) (u : Fin n → β) : Fin n → β :=
  fun i =>
    if h : f.offset ≤ i.val ∧ i.val < f.offset + k then v ⟨i.val - f.offset, by omega⟩ else u i

/-- The two fields share no cell. -/
def Apart (f : Field n k) (g : Field n l) : Prop :=
  f.offset + k ≤ g.offset ∨ g.offset + l ≤ f.offset

instance (f : Field n k) (g : Field n l) : Decidable (f.Apart g) :=
  inferInstanceAs (Decidable (_ ∨ _))

@[simp] theorem read_write (f : Field n k) (v : Fin k → β) (u : Fin n → β) :
    f.read (f.write v u) = v := by
  funext i
  have hin : f.offset ≤ f.offset + i.val ∧ f.offset + i.val < f.offset + k := by omega
  simp only [read, write, dif_pos hin, Nat.add_sub_cancel_left]

/-- A field apart from the one written reads what it read before. -/
theorem read_write_of_apart {f : Field n k} {g : Field n l} (h : f.Apart g) (v : Fin l → β)
    (u : Fin n → β) : f.read (g.write v u) = f.read u := by
  funext i
  have hout : ¬ (g.offset ≤ f.offset + i.val ∧ f.offset + i.val < g.offset + l) := by
    rcases h with h | h <;> omega
  simp only [read, write, dif_neg hout]

end Field

end Smi240Hal.Lib
