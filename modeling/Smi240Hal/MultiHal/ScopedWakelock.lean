/-
# Smi240Hal.MultiHal.ScopedWakelock — who gives a reference back

A `ScopedWakelock` whose `mLocked` is set gives one reference back when it is destroyed.  A move hands
the flag over by copying the three fields and clearing those of the source; the move constructor is
the same assignment to an object that has not been initialized.  What the target of an assignment held
before is overwritten.

Objects are numbered in the order of their construction.  An assignment may have the same object on
both sides.
-/
import Smi240Hal.Lib.Machine
import Mathlib.Data.List.Count

namespace Smi240Hal.MultiHal

open Smi240Hal.Lib

/-! ## The objects -/

/-- The three members of the class. -/
structure ScopedWakelock where
  /-- `mRefCounter` is not null. -/
  mRefCounter : Bool
  /-- `none` is a value that has never been written. -/
  mCreatedAtTimeNs : Option Int
  mLocked : Bool
deriving DecidableEq, Repr

/-- The object a move constructor begins with. -/
def ScopedWakelock.uninitialized : ScopedWakelock := ⟨false, none, false⟩

/-- What a move leaves of its source. -/
def ScopedWakelock.moved : ScopedWakelock := ⟨false, some 0, false⟩

/-- The objects, `none` where one has been destroyed, and the calls of the reference counter. -/
structure Wakelocks where
  objects : List (Option ScopedWakelock)
  /-- Calls of `incrementRefCountAndMaybeAcquireWakelock` that returned true. -/
  increments : Nat
  /-- Calls of `decrementRefCountAndMaybeReleaseWakelock`. -/
  decrements : Nat
deriving DecidableEq, Repr

/-- What an owner of wake locks does; an object is named by its position. -/
inductive OwnerAct
  /-- `createScopedWakelock(locked)`; `grantedAt` is the answer to the increment. -/
  | construct (locked : Bool) (grantedAt : Option Int)
  | moveConstruct (other : Nat)
  | moveAssign (this other : Nat)
  | destroy (this : Nat)
deriving DecidableEq, Repr

namespace Wakelocks

/-- No object has been made. -/
def start : Wakelocks := ⟨[], 0, 0⟩

/-- The object with a number, while it lives. -/
def object (s : Wakelocks) (i : Nat) : Option ScopedWakelock := (s.objects[i]?).join

/-- The constructor with a reference counter. -/
def construct (s : Wakelocks) (locked : Bool) (grantedAt : Option Int) : Wakelocks :=
  if locked then
    { s with
      objects := s.objects ++ [some ⟨true, grantedAt, grantedAt.isSome⟩]
      increments := s.increments + grantedAt.toList.length }
  else { s with objects := s.objects ++ [some ⟨true, none, false⟩] }

/-- `operator=`: three assignments from `other`, and three to it. -/
def moveAssign (s : Wakelocks) (this other : Nat) : Option Wakelocks := do
  let _ ← s.object this
  let o ← s.object other
  some { s with objects := (s.objects.set this (some o)).set other (some .moved) }

/-- The move constructor; the new object is uninitialized before the assignment. -/
def moveConstruct (s : Wakelocks) (other : Nat) : Option Wakelocks := do
  let _ ← s.object other
  moveAssign { s with objects := s.objects ++ [some .uninitialized] } s.objects.length other

/-- The destructor; `none` also where it would go through a null `mRefCounter` or pass a time that
has never been written. -/
def destroy (s : Wakelocks) (this : Nat) : Option Wakelocks := do
  let o ← s.object this
  if o.mLocked then
    if o.mRefCounter ∧ o.mCreatedAtTimeNs.isSome then
      some { s with objects := s.objects.set this none, decrements := s.decrements + 1 }
    else none
  else some { s with objects := s.objects.set this none }

/-- `none` where the object does not exist any more. -/
def step (s : Wakelocks) : OwnerAct → Option Wakelocks
  | .construct locked grantedAt => some (s.construct locked grantedAt)
  | .moveConstruct other => s.moveConstruct other
  | .moveAssign this other => s.moveAssign this other
  | .destroy this => s.destroy this

end Wakelocks

/-- The objects of all owners, moved about at will. -/
def scopedWakelocks : Machine Wakelocks OwnerAct where
  Start s := s = .start
  step := Wakelocks.step

namespace Wakelocks

variable {s t : Wakelocks}

/-! ## What a step does to the references -/

/-- An object that is gone is not locked. -/
def isLocked : Option ScopedWakelock → Bool
  | some o => o.mLocked
  | none => false

/-- The objects with `mLocked` set. -/
def lockedCount (s : Wakelocks) : Nat := s.objects.countP isLocked

theorem object_eq_some {i : Nat} {o : ScopedWakelock} :
    s.object i = some o ↔ s.objects[i]? = some (some o) := by
  rw [object, Option.join_eq_some_iff]

theorem countP_set_add {α : Type*} (p : α → Bool) {l : List α} {i : Nat} {x : α}
    (h : l[i]? = some x) (y : α) :
    (l.set i y).countP p + (if p x then 1 else 0) = l.countP p + (if p y then 1 else 0) := by
  obtain ⟨hi, rfl⟩ := List.getElem?_eq_some_iff.mp h
  have hle := List.boole_getElem_le_countP (p := p) hi
  rw [List.countP_set hi]
  omega

/-- How many references the assignment overwrites. -/
def lost (s : Wakelocks) : OwnerAct → Nat
  | .moveAssign this _ => if isLocked (s.object this) then 1 else 0
  | _ => 0

/-- The flag of the source goes over to the target, the flag of the target is gone. -/
theorem moveAssign_locked {this other : Nat} (h : s.moveAssign this other = some t) :
    t.lockedCount + (if isLocked (s.object this) then 1 else 0) = s.lockedCount ∧
      t.increments = s.increments ∧ t.decrements = s.decrements := by
  obtain ⟨target, htarget, h⟩ := Option.bind_eq_some_iff.mp h
  obtain ⟨o, hother, h⟩ := Option.bind_eq_some_iff.mp h
  cases h
  refine ⟨?_, rfl, rfl⟩
  have hcopied := countP_set_add isLocked (object_eq_some.mp htarget) (some o)
  -- the source still holds what has been copied, also when it is the target
  have hsource : (s.objects.set this (some o))[other]? = some (some o) := by
    have hlive := object_eq_some.mp hother
    by_cases hsame : this = other
    · rw [hsame, List.getElem?_set_self (List.getElem?_eq_some_iff.mp hlive).1]
    · rw [List.getElem?_set_ne hsame, hlive]
  have hcleared := countP_set_add isLocked hsource (some .moved)
  have hmoved : isLocked (some ScopedWakelock.moved) = false := rfl
  rw [hmoved] at hcleared
  simp only [Bool.false_eq_true, if_false, Nat.add_zero] at hcleared
  rw [htarget, lockedCount, lockedCount]
  dsimp only
  omega

/-- The new object holds nothing that could be lost. -/
theorem moveConstruct_locked {other : Nat} (h : s.moveConstruct other = some t) :
    t.lockedCount = s.lockedCount ∧ t.increments = s.increments ∧
      t.decrements = s.decrements := by
  obtain ⟨o, hother, h⟩ := Option.bind_eq_some_iff.mp h
  obtain ⟨hlocked, hincrements, hdecrements⟩ := moveAssign_locked h
  refine ⟨?_, hincrements, hdecrements⟩
  have hnew : isLocked (object { s with objects := s.objects ++ [some .uninitialized] }
      s.objects.length) = false := by
    simp [object, isLocked, ScopedWakelock.uninitialized]
  have hsame : lockedCount { s with objects := s.objects ++ [some .uninitialized] } =
      s.lockedCount := by
    simp [lockedCount, List.countP_append, isLocked, ScopedWakelock.uninitialized]
  rw [hnew, hsame] at hlocked
  simpa using hlocked

/-- A locked object gives back the one reference it holds. -/
theorem destroy_locked {this : Nat} (h : s.destroy this = some t) :
    t.lockedCount + t.decrements = s.lockedCount + s.decrements ∧
      t.increments = s.increments := by
  obtain ⟨o, ho, h⟩ := Option.bind_eq_some_iff.mp h
  have hgone : (s.objects.set this none).countP isLocked + (if o.mLocked then 1 else 0) =
      s.objects.countP isLocked := countP_set_add isLocked (object_eq_some.mp ho) none
  split at h
  · next hlocked =>
      rw [if_pos hlocked] at hgone
      split at h
      · cases h
        refine ⟨?_, rfl⟩
        rw [lockedCount, lockedCount]
        dsimp only
        omega
      · exact absurd h nofun
  · next hunlocked =>
      rw [if_neg hunlocked] at hgone
      cases h
      refine ⟨?_, rfl⟩
      rw [lockedCount, lockedCount]
      dsimp only
      omega

/-- Every reference that was granted is with a locked object, has been given back, or is lost. -/
theorem step_balance {a : OwnerAct} (h : s.step a = some t) :
    t.lockedCount + t.decrements + s.lost a + s.increments =
      s.lockedCount + s.decrements + t.increments := by
  cases a with
  | construct locked grantedAt =>
      cases h
      cases locked <;> rcases grantedAt with _ | now
      all_goals
        simp [construct, lockedCount, List.countP_append, isLocked, lost]
      omega
  | moveConstruct other =>
      obtain ⟨hlocked, hincrements, hdecrements⟩ := moveConstruct_locked h
      have hkept : s.lost (.moveConstruct other) = 0 := rfl
      omega
  | moveAssign this other =>
      obtain ⟨hlocked, hincrements, hdecrements⟩ := moveAssign_locked h
      rw [lost]
      omega
  | destroy this =>
      obtain ⟨hlocked, hincrements⟩ := destroy_locked h
      have hkept : s.lost (.destroy this) = 0 := rfl
      omega

/-! ## Runs -/

/-- The target of an assignment holds no reference. -/
def TargetUnlocked (s : Wakelocks) : OwnerAct → Prop
  | .moveAssign this _ => isLocked (s.object this) = false
  | _ => True

instance (s : Wakelocks) : (a : OwnerAct) → Decidable (TargetUnlocked s a)
  | .construct _ _ => inferInstanceAs (Decidable True)
  | .moveConstruct _ => inferInstanceAs (Decidable True)
  | .moveAssign _ _ => inferInstanceAs (Decidable (_ = _))
  | .destroy _ => inferInstanceAs (Decidable True)

theorem lost_eq_zero_iff (s : Wakelocks) (a : OwnerAct) : s.lost a = 0 ↔ s.TargetUnlocked a := by
  cases a with
  | moveAssign this other => simp [lost, TargetUnlocked]
  | construct locked grantedAt => exact iff_of_true rfl trivial
  | moveConstruct other => exact iff_of_true rfl trivial
  | destroy this => exact iff_of_true rfl trivial

/-- What is with the objects or given back was granted. -/
theorem locked_le_of_run {as : List OwnerAct} (hrun : scopedWakelocks.run .start as = some t) :
    t.lockedCount + t.decrements ≤ t.increments := by
  have hstart : start.lockedCount + start.decrements ≤ start.increments := Nat.le_refl 0
  apply scopedWakelocks.run_invariant (G := fun _ _ => True) _ hstart (fun _ _ _ _ => trivial) hrun
  intro s a u hs _ hstep
  have := step_balance hstep
  omega

end Wakelocks

/-- The locked objects and the decrements make up the increments that succeeded, if and only if no
assignment of the run had a locked target, on either side of a self-assignment; and once all objects
are destroyed, as many decrements as increments have been made under the same condition. -/
theorem references_given_back_iff (as : List OwnerAct) (t : Wakelocks)
    (hrun : scopedWakelocks.run .start as = some t) :
    ((t.objects.countP Wakelocks.isLocked + t.decrements = t.increments) ↔
      scopedWakelocks.runUnder Wakelocks.TargetUnlocked .start as = some t) ∧
    ((∀ o ∈ t.objects, o = none) → (t.decrements = t.increments ↔
      scopedWakelocks.runUnder Wakelocks.TargetUnlocked .start as = some t)) := by
  have hle : t.lockedCount + t.decrements ≤ t.increments := Wakelocks.locked_le_of_run hrun
  have hiff : t.increments ≤ t.lockedCount + t.decrements ↔
      scopedWakelocks.runUnder Wakelocks.TargetUnlocked .start as = some t := by
    apply scopedWakelocks.runUnder_iff (I := fun s => s.lockedCount + s.decrements = s.increments)
      (P := fun s => s.increments ≤ s.lockedCount + s.decrements) _ _ _ _ rfl hrun
    · intro s hs
      exact Nat.le_of_eq hs.symm
    · intro s a u hstep hu
      have := Wakelocks.step_balance hstep
      omega
    · intro s a u hs hC hstep
      have hnone := (s.lost_eq_zero_iff a).mpr hC
      have := Wakelocks.step_balance hstep
      omega
    · intro s a u hs hC hstep
      have hsome : s.lost a ≠ 0 := fun hnone => hC ((s.lost_eq_zero_iff a).mp hnone)
      have := Wakelocks.step_balance hstep
      omega
  have hequal : t.lockedCount + t.decrements = t.increments ↔
      scopedWakelocks.runUnder Wakelocks.TargetUnlocked .start as = some t := by
    rw [← hiff]
    omega
  refine ⟨hequal, fun hgone => ?_⟩
  have hzero : t.lockedCount = 0 := by
    rw [Wakelocks.lockedCount, List.countP_eq_zero]
    intro o ho
    rw [hgone o ho]
    exact nofun
  rw [← hequal, hzero, Nat.zero_add]

/-- A reference is handed on twice, the last object is destroyed, and so are the empty ones. -/
theorem references_given_back_iff_moved :
    let as : List OwnerAct := [.construct true (some 5), .moveConstruct 0, .construct false none,
      .moveAssign 2 1, .destroy 0, .destroy 1, .destroy 2]
    (((⟨[none, none, none], 1, 1⟩ : Wakelocks).objects.countP Wakelocks.isLocked + 1 = 1) ↔
      scopedWakelocks.runUnder Wakelocks.TargetUnlocked .start as =
        some ⟨[none, none, none], 1, 1⟩) ∧
    ((∀ o ∈ (⟨[none, none, none], 1, 1⟩ : Wakelocks).objects, o = none) → (1 = 1 ↔
      scopedWakelocks.runUnder Wakelocks.TargetUnlocked .start as =
        some ⟨[none, none, none], 1, 1⟩)) :=
  references_given_back_iff _ _ rfl

/-- A locked object that another one is moved over never gives its reference back. -/
theorem overwritten_reference :
    ¬ ∀ (as : List OwnerAct) (t : Wakelocks), scopedWakelocks.run .start as = some t →
      t.objects.countP Wakelocks.isLocked + t.decrements = t.increments := by
  intro hall
  have h := hall [.construct true (some 5), .construct true (some 6), .moveAssign 0 1, .destroy 0,
    .destroy 1] _ rfl
  exact absurd h (by decide)

end Smi240Hal.MultiHal
