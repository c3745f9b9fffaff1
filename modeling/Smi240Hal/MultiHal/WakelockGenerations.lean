/-
# Smi240Hal.MultiHal.WakelockGenerations — `ScopedWakelock`s before and after a timeout

A timeout gives all references back while the `ScopedWakelock`s that hold them live on.  One that was
created before the last reset must not lower the count when it is destroyed, one that was created
after it must.  The code tells them apart by their creation time alone, with `<`, and the time is that
of the system clock, which may repeat a value and may step back.

A generation is the time between two resets.  Each `ScopedWakelock` carries the number of its own.
-/
import Smi240Hal.MultiHal.SharedWakelock
import Mathlib.Data.List.Perm.Basic

namespace Smi240Hal.MultiHal

open Smi240Hal.Lib

/-! ## Creating, destroying and resetting -/

/-- A `ScopedWakelock` that has not been destroyed. -/
structure LiveWakelock where
  /-- `mCreatedAtTimeNs` of a locked one. -/
  lockedAt : Option Int
  /-- How many resets there had been when it was created. -/
  generation : Nat
deriving DecidableEq, Repr

/-- The shared count, with the wake locks that are alive. -/
structure Generations where
  shared : SharedWakelock
  live : List LiveWakelock
  /-- How many resets there have been. -/
  resets : Nat
deriving DecidableEq, Repr

/-- A wake lock is made or destroyed, or the count is reset. -/
inductive GenerationAct
  | create (locked : Bool) (now : Int)
  | destroy (k : Nat)
  | reset (now : Int)
deriving DecidableEq, Repr

namespace Generations

/-- No wake lock is alive. -/
def start (now : Int) : Generations := ⟨.construct now, [], 0⟩

/-- The constructor of `ScopedWakelock`. -/
def create (s : Generations) (locked : Bool) (now : Int) : Generations :=
  if locked then
    let r := s.shared.incrementRefCountAndMaybeAcquireWakelock 1 now
    { s with shared := r.1, live := s.live ++ [⟨r.2, s.resets⟩] }
  else { s with live := s.live ++ [⟨none, s.resets⟩] }

/-- The destructor of the `k`-th `ScopedWakelock`. -/
def destroy (s : Generations) (k : Nat) : Option Generations := do
  let w ← s.live[k]?
  some { s with
    shared :=
      match w.lockedAt with
      | some createdAt => s.shared.decrementRefCountAndMaybeReleaseWakelock 1 createdAt
      | none => s.shared
    live := s.live.eraseIdx k }

/-- A reset begins another generation. -/
def reset (s : Generations) (now : Int) : Generations :=
  { s with shared := s.shared.resetSharedWakelock now, resets := s.resets + 1 }

/-- `none` where there is no such wake lock. -/
def step (s : Generations) : GenerationAct → Option Generations
  | .create locked now => some (s.create locked now)
  | .destroy k => s.destroy k
  | .reset now => some (s.reset now)

/-- How many are locked and of one generation. -/
def lockedOf (live : List LiveWakelock) (generation : Nat) : Nat :=
  live.countP fun w => w.lockedAt.isSome && w.generation == generation

end Generations

/-- Any creations, destructions and resets. -/
def wakelockGenerations : Machine Generations GenerationAct where
  Start s := ∃ now, s = .start now
  step := Generations.step

/-! ## The step that goes wrong -/

namespace Generations

variable {s t : Generations}

/-- Destroying a `ScopedWakelock` lowers the count if it is of the current generation, and does not if
it is of an earlier one. -/
def Separates (s : Generations) (createdAt : Int) (generation : Nat) : Prop :=
  if generation = s.resets then s.shared.isStale createdAt = false
  else s.shared.mWakelockRefCount = 0 ∨ s.shared.isStale createdAt = true

instance (s : Generations) (createdAt : Int) (generation : Nat) :
    Decidable (s.Separates createdAt generation) :=
  inferInstanceAs (Decidable (ite _ _ _))

/-- The same for a step; and a new reference must still be counted. -/
def StepSeparates (s : Generations) : GenerationAct → Prop
  | .create locked _ => locked = true → s.shared.mWakelockRefCount + 1 < 2 ^ 64
  | .destroy k =>
      match s.live[k]? with
      | some ⟨some createdAt, generation⟩ => s.Separates createdAt generation
      | _ => True
  | .reset _ => True

instance (s : Generations) : (a : GenerationAct) → Decidable (s.StepSeparates a)
  | .create _ _ => inferInstanceAs (Decidable (_ → _))
  | .destroy k =>
      match h : s.live[k]? with
      | some ⟨some createdAt, generation⟩ =>
          decidable_of_iff (s.Separates createdAt generation) (by simp only [StepSeparates, h])
      | some ⟨none, _⟩ => .isTrue (by simp only [StepSeparates, h])
      | none => .isTrue (by simp only [StepSeparates, h])
  | .reset _ => inferInstanceAs (Decidable True)

/-- No `ScopedWakelock` is of a generation to come. -/
structure Numbered (s : Generations) : Prop where
  threads : s.shared.mThreadsRun = true
  past : ∀ w ∈ s.live, w.generation ≤ s.resets

/-- The count is that of the live locked `ScopedWakelock`s created after the last reset. -/
def Counts (s : Generations) : Prop :=
  s.shared.mWakelockRefCount = lockedOf s.live s.resets

theorem create_locked (h : s.Numbered) (now : Int) :
    s.create true now =
      { s with
        shared := (s.shared.incrementRefCountAndMaybeAcquireWakelock 1 now).1
        live := s.live ++ [⟨some now, s.resets⟩] } := by
  rw [create, if_pos rfl, SharedWakelock.increment_running h.threads]

theorem Numbered.step (h : s.Numbered) {a : GenerationAct} (hstep : s.step a = some t) :
    t.Numbered := by
  cases a with
  | create locked now =>
      cases hstep
      have hnew : ∀ (lockedAt : Option Int) (w : LiveWakelock),
          w ∈ s.live ++ [⟨lockedAt, s.resets⟩] → w.generation ≤ s.resets := by
        intro lockedAt w hw
        rcases List.mem_append.mp hw with hw | hw
        · exact h.past w hw
        · rw [List.mem_singleton.mp hw]
      cases locked with
      | true =>
          rw [create_locked h]
          exact ⟨call_threads h.threads (.increment 1 now), hnew _⟩
      | false => exact ⟨h.threads, hnew _⟩
  | destroy k =>
      obtain ⟨w, hw, hstep⟩ := Option.bind_eq_some_iff.mp hstep
      cases hstep
      refine ⟨?_, fun w hw => h.past w (List.mem_of_mem_eraseIdx hw)⟩
      dsimp only
      split
      · exact (SharedWakelock.decrement_threads _ _ _).trans h.threads
      · exact h.threads
  | reset now =>
      cases hstep
      exact ⟨call_threads h.threads (.reset now), fun w hw => Nat.le_succ_of_le (h.past w hw)⟩

theorem lockedOf_create (live : List LiveWakelock) (lockedAt : Option Int) (generation : Nat) :
    lockedOf (live ++ [⟨lockedAt, generation⟩]) generation =
      lockedOf live generation + (if lockedAt.isSome then 1 else 0) := by
  simp [lockedOf, List.countP_append, List.countP_cons]

theorem lockedOf_destroy {live : List LiveWakelock} {k : Nat} {w : LiveWakelock}
    (hw : live[k]? = some w) (generation : Nat) :
    lockedOf live generation = lockedOf (live.eraseIdx k) generation +
      (if w.lockedAt.isSome && w.generation == generation then 1 else 0) := by
  have hperm := Proxy.perm_cons_eraseIdx hw
  rw [lockedOf, hperm.countP_eq, List.countP_cons]
  rfl

/-- The next generation is empty. -/
theorem Numbered.lockedOf_next (h : s.Numbered) : lockedOf s.live (s.resets + 1) = 0 := by
  rw [lockedOf, List.countP_eq_zero]
  intro w hw
  have hpast : w.generation ≤ s.resets := h.past w hw
  have hother : w.generation ≠ s.resets + 1 := by omega
  simp [hother]

/-- Destroying one that is locked. -/
theorem destroy_counts_iff (h : s.Numbered) (hcounts : s.Counts) {k : Nat} {createdAt : Int}
    {generation : Nat} (hw : s.live[k]? = some ⟨some createdAt, generation⟩) :
    ({ s with
      shared := s.shared.decrementRefCountAndMaybeReleaseWakelock 1 createdAt
      live := s.live.eraseIdx k } : Generations).Counts ↔ s.Separates createdAt generation := by
  have hlost := lockedOf_destroy hw s.resets
  rw [Counts] at hcounts
  rw [Counts, Separates]
  dsimp only
  by_cases hignored : s.shared.mWakelockRefCount = 0 ∨ s.shared.isStale createdAt = true
  · -- the count stays as it is
    rw [SharedWakelock.decrement_ignored hignored]
    by_cases hgeneration : generation = s.resets
    · rw [if_pos (by simp [hgeneration])] at hlost
      rw [if_pos hgeneration]
      refine iff_of_false (fun hsame => by omega) (fun hfresh => ?_)
      rcases hignored with hzero | hstale
      · omega
      · exact absurd (hfresh.symm.trans hstale) nofun
    · rw [if_neg (by simp [hgeneration]), Nat.add_zero] at hlost
      rw [if_neg hgeneration]
      exact iff_of_true (hcounts.trans hlost) hignored
  · -- it goes down by one
    obtain ⟨hcount, hfresh⟩ := not_or.mp hignored
    rw [SharedWakelock.decrement_running h.threads hcount (Bool.eq_false_iff.mpr hfresh)]
    dsimp only
    by_cases hgeneration : generation = s.resets
    · rw [if_pos (by simp [hgeneration])] at hlost
      rw [if_pos hgeneration]
      exact iff_of_true (by omega) (Bool.eq_false_iff.mpr hfresh)
    · rw [if_neg (by simp [hgeneration]), Nat.add_zero] at hlost
      rw [if_neg hgeneration]
      exact iff_of_false (by omega) hignored

/-- The count stays right exactly if the step is one that separates the generations. -/
theorem counts_iff (h : s.Numbered) (hcounts : s.Counts) {a : GenerationAct}
    (hstep : s.step a = some t) : t.Counts ↔ s.StepSeparates a := by
  cases a with
  | create locked now =>
      cases hstep
      cases locked with
      | false =>
          refine iff_of_true ?_ nofun
          exact hcounts.trans (lockedOf_create s.live none s.resets).symm
      | true =>
          rw [create_locked h, Counts, SharedWakelock.increment_running h.threads, StepSeparates]
          dsimp only
          rw [lockedOf_create, ← hcounts]
          simp only [Option.isSome_some, if_true, true_imp_iff]
          omega
  | destroy k =>
      obtain ⟨⟨lockedAt, generation⟩, hw, hstep⟩ := Option.bind_eq_some_iff.mp hstep
      cases hstep
      rcases lockedAt with _ | createdAt
      · simp only [StepSeparates, hw]
        exact iff_of_true (hcounts.trans (lockedOf_destroy hw s.resets)) trivial
      · simp only [StepSeparates, hw]
        exact destroy_counts_iff h hcounts hw
  | reset now =>
      cases hstep
      refine iff_of_true ?_ trivial
      exact (SharedWakelock.reset_count h.threads now).trans h.lockedOf_next.symm

end Generations

/-- In every state along a run the count is the number of live locked `ScopedWakelock`s created after
the last reset, if and only if each of them that is destroyed has a creation time on the right side
of the last reset: not before it when it is of the current generation, before it when it is of an
earlier one and there are references.  (And the count has not reached the last `size_t`.) -/
theorem count_is_current_iff (now : Int) (as : List GenerationAct) (t : Generations)
    (hrun : wakelockGenerations.run (.start now) as = some t) :
    (∀ bs u, bs <+: as → wakelockGenerations.run (.start now) bs = some u →
      u.shared.mWakelockRefCount =
        u.live.countP fun w => w.lockedAt.isSome && w.generation == u.resets) ↔
    wakelockGenerations.runUnder Generations.StepSeparates (.start now) as = some t := by
  have hnumbered : (Generations.start now).Numbered := ⟨rfl, nofun⟩
  have hcounts : (Generations.start now).Counts := rfl
  apply wakelockGenerations.runUnder_iff_along (P := Generations.Counts) _ _ hnumbered hcounts hrun
  · intro s a u hnumbered hstep
    exact hnumbered.step hstep
  · intro s a u hnumbered hcounts hstep
    exact Generations.counts_iff hnumbered hcounts hstep

/-- The old one is created and the new one destroyed with the clock on the right side. -/
theorem count_is_current_iff_separated :
    let as : List GenerationAct :=
      [.create true 5, .create false 6, .reset 7, .create true 8, .destroy 0, .destroy 1]
    (∀ bs u, bs <+: as → wakelockGenerations.run (.start 0) bs = some u →
      u.shared.mWakelockRefCount =
        u.live.countP fun w => w.lockedAt.isSome && w.generation == u.resets) ↔
    wakelockGenerations.runUnder Generations.StepSeparates (.start 0) as =
      some ⟨⟨true, 0, 8, 7, false⟩, [⟨none, 0⟩], 1⟩ :=
  count_is_current_iff 0 _ _ rfl

/-- The clock repeats a value: a `ScopedWakelock` created at the time of the reset takes away the
reference of one that is created after it. -/
theorem tie_takes_reference :
    ¬ ∀ (now : Int) (as : List GenerationAct) (t : Generations),
      wakelockGenerations.run (.start now) as = some t →
      t.shared.mWakelockRefCount =
        t.live.countP fun w => w.lockedAt.isSome && w.generation == t.resets := by
  intro hall
  have h := hall 0 [.create true 5, .reset 5, .create true 6, .destroy 0] _ rfl
  exact absurd h Nat.zero_ne_one

end Smi240Hal.MultiHal
