/-
# Smi240Hal.Legacy.BoschSimpleList — the bounded list the legacy threads hand samples through

`boschsimple_list.cpp` keeps a singly linked list of data pointers with a length bound.  The list
here is the sequence of data pointers on its chain, head first; `list_len` is the length of that
sequence and `uplimit` the bound, which `set_uplimit` never lets become 0.

`free` is what the callers of this development care about, so every operation also reports the data
pointers it frees, each with the value of `list_len` when it was taken from the head.  `malloc` of a
node may fail: that is the `nod` argument of `listAddRear`.
-/
import Mathlib.Data.List.Basic

namespace Smi240Hal.Legacy

def DEFAULT_LIST_LEN : Nat := 128

/-- `class BoschSimpleList`, as the data pointers on its chain. -/
structure BoschSimpleList (α : Type*) where
  data : List α
  uplimit : Nat
  uplimit_pos : 0 < uplimit

/-- A data pointer given to `free`, and the list length at the moment it left the head. -/
structure Freed (α : Type*) where
  listLen : Nat
  pData : α
deriving DecidableEq

namespace BoschSimpleList

variable {α : Type*}

/-- The constructor. -/
def new : BoschSimpleList α := ⟨[], DEFAULT_LIST_LEN, by decide⟩

/-- `list_len` is the number of elements: it is not kept beside them. -/
def listLen (l : BoschSimpleList α) : Nat := l.data.length

/-- The list with other data pointers on its chain. -/
def withData (l : BoschSimpleList α) (data : List α) : BoschSimpleList α := { l with data := data }

/-- Take the head; on an empty list the caller's pointer becomes NULL. -/
def listGetHeaddata (l : BoschSimpleList α) : Option α × BoschSimpleList α :=
  match l.data with
  | [] => (none, l)
  | d :: rest => (some d, { l with data := rest })

/-- The outcome of `list_add_rear`. -/
structure AddRear (α : Type*) where
  ret : Int
  list : BoschSimpleList α
  freed : List (Freed α)

/-- Append a data pointer, dropping the oldest one when the list stands at its bound. -/
def listAddRear (l : BoschSimpleList α) (pdata : α) (nod : Bool) : AddRear α :=
  if nod = false then ⟨-1, l, []⟩
  else if l.listLen = l.uplimit then
    let del := l.listGetHeaddata
    ⟨-2, { del.2 with data := del.2.data ++ [pdata] },
      del.1.toList.map (Freed.mk l.listLen)⟩
  else ⟨0, { l with data := l.data ++ [pdata] }, []⟩

/-- The truncation loop of `list_mount_rear`: free from the head while the list is too long. -/
def dropWhileOver (uplimit : Nat) : List α → List α × List (Freed α)
  | [] => ([], [])
  | d :: rest =>
      if uplimit < (d :: rest).length then
        let r := dropWhileOver uplimit rest
        (r.1, ⟨(d :: rest).length, d⟩ :: r.2)
      else (d :: rest, [])

/-- The outcome of `list_mount_rear`; `mounted` is the source list afterwards. -/
structure MountRear (α : Type*) where
  ret : Int
  list : BoschSimpleList α
  mounted : BoschSimpleList α
  freed : List (Freed α)

/-- Move the whole chain of another list behind this one, then truncate to the bound. -/
def listMountRear (l listForMnt : BoschSimpleList α) : MountRear α :=
  if listForMnt.listLen = 0 then ⟨0, l, listForMnt, []⟩
  else
    let r := dropWhileOver l.uplimit (l.data ++ listForMnt.data)
    ⟨if r.2.isEmpty then 0 else -1, { l with data := r.1 }, { listForMnt with data := [] }, r.2⟩

/-! ## What the operations do to the data -/

@[simp] theorem data_new : (new : BoschSimpleList α).data = [] := rfl

@[simp] theorem uplimit_new : (new : BoschSimpleList α).uplimit = 128 := rfl

theorem listGetHeaddata_cons {l : BoschSimpleList α} {d : α} {rest : List α}
    (h : l.data = d :: rest) : l.listGetHeaddata = (some d, { l with data := rest }) := by
  unfold listGetHeaddata
  rw [h]

@[simp] theorem listAddRear_uplimit (l : BoschSimpleList α) (x : α) (nod : Bool) :
    (l.listAddRear x nod).list.uplimit = l.uplimit := by
  unfold listAddRear listGetHeaddata
  split
  · rfl
  · split
    · cases l.data <;> rfl
    · rfl

/-- Nothing is reordered: what is freed comes off the front, what is added goes to the back. -/
theorem listAddRear_split (l : BoschSimpleList α) (x : α) :
    (l.listAddRear x true).freed.map Freed.pData ++ (l.listAddRear x true).list.data =
      l.data ++ [x] := by
  unfold listAddRear
  simp only [Bool.true_eq_false, if_false]
  split
  · cases hd : l.data with
    | nil => simp [listGetHeaddata, hd]
    | cons d rest => simp [listGetHeaddata_cons hd]
  · simp

/-- Nothing but the sample comes onto the list. -/
theorem mem_listAddRear {l : BoschSimpleList α} {x y : α} {nod : Bool}
    (h : y ∈ (l.listAddRear x nod).list.data) : y ∈ l.data ∨ y = x := by
  cases nod with
  | false => exact Or.inl h
  | true =>
      have hsplit : y ∈ l.data ++ [x] := l.listAddRear_split x ▸ List.mem_append_right _ h
      simpa using hsplit

/-- `list_add_rear` frees only from a list that stands at its bound. -/
theorem listAddRear_freed_full (l : BoschSimpleList α) (x : α) (nod : Bool) :
    ∀ f ∈ (l.listAddRear x nod).freed, f.listLen = l.uplimit := by
  unfold listAddRear
  split
  · simp
  · split
    case isTrue hfull =>
      intro f hf
      obtain ⟨d, _, rfl⟩ := List.mem_map.mp hf
      exact hfull
    case isFalse => simp

/-- Only a failed node allocation refuses the sample. -/
theorem listAddRear_ret (l : BoschSimpleList α) (x : α) : (l.listAddRear x true).ret ≠ -1 := by
  unfold listAddRear
  simp only [Bool.true_eq_false, if_false]
  split
  · show (-2 : Int) ≠ -1
    decide
  · show (0 : Int) ≠ -1
    decide

theorem listAddRear_length_le {l : BoschSimpleList α} (x : α) (nod : Bool)
    (h : l.listLen ≤ l.uplimit) : (l.listAddRear x nod).list.listLen ≤ l.uplimit := by
  have hpos := l.uplimit_pos
  unfold listAddRear
  split
  · exact h
  · split
    case isTrue hfull =>
      cases hd : l.data with
      | nil => simp only [listLen, hd, List.length_nil] at hfull; omega
      | cons d rest =>
          simp only [listLen, hd, List.length_cons] at hfull
          simp only [listGetHeaddata_cons hd, listLen, List.length_append, List.length_singleton]
          omega
    case isFalse hne =>
      simp only [listLen, List.length_append, List.length_singleton] at h hne ⊢
      omega

/-- Below its bound a list frees nothing. -/
theorem listAddRear_of_lt {l : BoschSimpleList α} (x : α) (h : l.listLen < l.uplimit) :
    l.listAddRear x true = ⟨0, { l with data := l.data ++ [x] }, []⟩ := by
  unfold listAddRear
  simp only [Bool.true_eq_false, if_false]
  rw [if_neg (Nat.ne_of_lt h)]

theorem dropWhileOver_split (n : Nat) (d : List α) :
    (dropWhileOver n d).2.map Freed.pData ++ (dropWhileOver n d).1 = d := by
  induction d with
  | nil => rfl
  | cons x rest ih =>
      unfold dropWhileOver
      split
      · simpa using ih
      · rfl

theorem dropWhileOver_length (n : Nat) (d : List α) : (dropWhileOver n d).1.length ≤ n := by
  induction d with
  | nil => exact Nat.zero_le n
  | cons x rest ih =>
      unfold dropWhileOver
      split
      · exact ih
      · exact Nat.le_of_not_lt ‹_›

theorem dropWhileOver_freed_over (n : Nat) (d : List α) :
    ∀ f ∈ (dropWhileOver n d).2, n < f.listLen := by
  induction d with
  | nil => simp [dropWhileOver]
  | cons x rest ih =>
      unfold dropWhileOver
      split
      case isTrue hover =>
        intro f hf
        rcases List.mem_cons.mp hf with rfl | hf
        · exact hover
        · exact ih f hf
      case isFalse => simp

@[simp] theorem listMountRear_uplimit (l m : BoschSimpleList α) :
    (l.listMountRear m).list.uplimit = l.uplimit := by
  unfold listMountRear
  split <;> rfl

@[simp] theorem listMountRear_mounted_data (l m : BoschSimpleList α) :
    (l.listMountRear m).mounted.data = [] := by
  unfold listMountRear
  split
  · exact List.length_eq_zero_iff.mp ‹_›
  · rfl

@[simp] theorem listMountRear_mounted_uplimit (l m : BoschSimpleList α) :
    (l.listMountRear m).mounted.uplimit = m.uplimit := by
  unfold listMountRear
  split <;> rfl

/-- Mounting keeps the order of both lists and frees from the front only. -/
theorem listMountRear_split (l m : BoschSimpleList α) :
    (l.listMountRear m).freed.map Freed.pData ++ (l.listMountRear m).list.data =
      l.data ++ m.data := by
  unfold listMountRear
  split
  case isTrue h0 =>
    have : m.data = [] := List.length_eq_zero_iff.mp h0
    simp [this]
  case isFalse => exact dropWhileOver_split _ _

theorem mem_listMountRear {l m : BoschSimpleList α} {x : α}
    (h : x ∈ (l.listMountRear m).list.data) : x ∈ l.data ∨ x ∈ m.data :=
  List.mem_append.mp (l.listMountRear_split m ▸ List.mem_append_right _ h)

/-- `list_mount_rear` frees only while the list is over its bound. -/
theorem listMountRear_freed_over (l m : BoschSimpleList α) :
    ∀ f ∈ (l.listMountRear m).freed, l.uplimit < f.listLen := by
  unfold listMountRear
  split
  · simp
  · exact dropWhileOver_freed_over _ _

theorem listMountRear_length_le {l : BoschSimpleList α} (m : BoschSimpleList α)
    (h : l.listLen ≤ l.uplimit) : (l.listMountRear m).list.listLen ≤ l.uplimit := by
  unfold listMountRear
  split
  · exact h
  · exact dropWhileOver_length _ _

end BoschSimpleList

end Smi240Hal.Legacy
