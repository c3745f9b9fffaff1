/-
# Smi240Hal.MultiHal.SharedWakelock — the reference count and the OS wake lock it stands for

The count and its two time stamps, on their own: `incrementRefCountAndMaybeAcquireWakelock`,
`decrementRefCountAndMaybeReleaseWakelock` and `resetSharedWakelock`, called in any order with any
deltas and any time stamps.  The count is a `size_t`.

That the lock is held while there are references is broken by one step, an increment that leaves the
count at zero, and holds along a run exactly if there is no such step.
-/
import Smi240Hal.MultiHal.WakelockCovered

namespace Smi240Hal.MultiHal

open Smi240Hal.Lib

/-! ## The count -/

/-- The members the wake-lock functions of the proxy share. -/
structure SharedWakelock where
  mThreadsRun : Bool
  mWakelockRefCount : Nat
  mWakelockTimeoutStartTime : Int
  mWakelockTimeoutResetTime : Int
  wakeLockHeld : Bool
deriving DecidableEq, Repr

namespace SharedWakelock

/-- After the constructor of `HalProxy`. -/
def construct (now : Int) : SharedWakelock := ⟨true, 0, now, now, false⟩

/-- `incrementRefCountAndMaybeAcquireWakelock`; `none` is its answer `false`. -/
def incrementRefCountAndMaybeAcquireWakelock (s : SharedWakelock) (delta : Nat) (now : Int) :
    SharedWakelock × Option Int :=
  if s.mThreadsRun = false then (s, none)
  else
    ({ s with
        wakeLockHeld := s.wakeLockHeld || s.mWakelockRefCount == 0
        mWakelockTimeoutStartTime := now
        mWakelockRefCount := (s.mWakelockRefCount + delta) % 2 ^ 64 }, some now)

/-- What `decrementRefCountAndMaybeReleaseWakelock` ignores for its time stamp. -/
def isStale (s : SharedWakelock) (timeoutStart : Int) : Bool :=
  let timeoutStart := if timeoutStart = -1 then s.mWakelockTimeoutResetTime else timeoutStart
  timeoutStart < s.mWakelockTimeoutResetTime

/-- `decrementRefCountAndMaybeReleaseWakelock`. -/
def decrementRefCountAndMaybeReleaseWakelock (s : SharedWakelock) (delta : Nat)
    (timeoutStart : Int) : SharedWakelock :=
  if s.mThreadsRun = false then s
  else if s.mWakelockRefCount = 0 ∨ s.isStale timeoutStart = true then s
  else
    let count := s.mWakelockRefCount - min s.mWakelockRefCount delta
    { s with
      mWakelockRefCount := count
      wakeLockHeld := if count = 0 then false else s.wakeLockHeld }

/-- `resetSharedWakelock`. -/
def resetSharedWakelock (s : SharedWakelock) (now : Int) : SharedWakelock :=
  { s.decrementRefCountAndMaybeReleaseWakelock s.mWakelockRefCount (-1) with
    mWakelockTimeoutResetTime := now }

end SharedWakelock

/-- What of `HalProxy` these functions read and write. -/
def Proxy.sharedWakelock (s : Proxy) : SharedWakelock :=
  ⟨s.mThreadsRun, s.mWakelockRefCount, s.mWakelockTimeoutStartTime, s.mWakelockTimeoutResetTime,
    s.wakeLockHeld⟩

/-! ### As `HalProxy` has it -/

/-- As long as the sum is a `size_t`. -/
theorem sharedWakelock_increment (s : Proxy) (delta : Nat) (now : Int)
    (hfits : s.mWakelockRefCount + delta < 2 ^ 64) :
    ((s.incrementRefCountAndMaybeAcquireWakelock delta now).1.sharedWakelock,
        (s.incrementRefCountAndMaybeAcquireWakelock delta now).2) =
      s.sharedWakelock.incrementRefCountAndMaybeAcquireWakelock delta now := by
  unfold Proxy.incrementRefCountAndMaybeAcquireWakelock
    SharedWakelock.incrementRefCountAndMaybeAcquireWakelock
  by_cases hrun : s.mThreadsRun = false
  · rw [if_pos hrun, if_pos (show s.sharedWakelock.mThreadsRun = false from hrun)]
  · rw [if_neg hrun, if_neg (show ¬ s.sharedWakelock.mThreadsRun = false from hrun)]
    simp only [Proxy.sharedWakelock, Proxy.incrementLocked, Nat.mod_eq_of_lt hfits]

theorem sharedWakelock_decrement (s : Proxy) (delta : Nat) (timeoutStart : Int) :
    (s.decrementRefCountAndMaybeReleaseWakelock delta timeoutStart).sharedWakelock =
      s.sharedWakelock.decrementRefCountAndMaybeReleaseWakelock delta timeoutStart := by
  unfold Proxy.decrementRefCountAndMaybeReleaseWakelock Proxy.decrementLocked
    SharedWakelock.decrementRefCountAndMaybeReleaseWakelock
  by_cases hrun : s.mThreadsRun = false
  · rw [if_pos hrun, if_pos (show s.sharedWakelock.mThreadsRun = false from hrun)]
  · rw [if_neg hrun, if_neg (show ¬ s.sharedWakelock.mThreadsRun = false from hrun)]
    by_cases hignored : s.mWakelockRefCount = 0 ∨ s.isStale timeoutStart = true
    · rw [if_pos hignored, if_pos (show s.sharedWakelock.mWakelockRefCount = 0 ∨
        s.sharedWakelock.isStale timeoutStart = true from hignored)]
    · rw [if_neg hignored, if_neg (show ¬ (s.sharedWakelock.mWakelockRefCount = 0 ∨
        s.sharedWakelock.isStale timeoutStart = true) from hignored)]
      rfl

theorem sharedWakelock_reset (s : Proxy) (now : Int) :
    (s.resetSharedWakelock now).sharedWakelock = s.sharedWakelock.resetSharedWakelock now := by
  have h := sharedWakelock_decrement s s.mWakelockRefCount (-1)
  show { (s.decrementRefCountAndMaybeReleaseWakelock s.mWakelockRefCount (-1)).sharedWakelock with
    mWakelockTimeoutResetTime := now } = _
  rw [h]
  rfl

/-! ### What the two calls do while the threads run -/

namespace SharedWakelock

variable {s : SharedWakelock}

theorem increment_running (hrun : s.mThreadsRun = true) (delta : Nat) (now : Int) :
    s.incrementRefCountAndMaybeAcquireWakelock delta now =
      ({ s with
          wakeLockHeld := s.wakeLockHeld || s.mWakelockRefCount == 0
          mWakelockTimeoutStartTime := now
          mWakelockRefCount := (s.mWakelockRefCount + delta) % 2 ^ 64 }, some now) := by
  rw [incrementRefCountAndMaybeAcquireWakelock, if_neg (by rw [hrun]; exact nofun)]

theorem decrement_ignored {delta : Nat} {timeoutStart : Int}
    (h : s.mWakelockRefCount = 0 ∨ s.isStale timeoutStart = true) :
    s.decrementRefCountAndMaybeReleaseWakelock delta timeoutStart = s := by
  unfold decrementRefCountAndMaybeReleaseWakelock
  by_cases hrun : s.mThreadsRun = false
  · rw [if_pos hrun]
  · rw [if_neg hrun, if_pos h]

theorem decrement_running (hrun : s.mThreadsRun = true) {delta : Nat} {timeoutStart : Int}
    (hcount : s.mWakelockRefCount ≠ 0) (hfresh : s.isStale timeoutStart = false) :
    s.decrementRefCountAndMaybeReleaseWakelock delta timeoutStart =
      { s with
        mWakelockRefCount := s.mWakelockRefCount - min s.mWakelockRefCount delta
        wakeLockHeld :=
          if s.mWakelockRefCount - min s.mWakelockRefCount delta = 0 then false
          else s.wakeLockHeld } := by
  rw [decrementRefCountAndMaybeReleaseWakelock, if_neg (by rw [hrun]; exact nofun), if_neg]
  rintro (hzero | hstale)
  · exact hcount hzero
  · exact absurd (hfresh.symm.trans hstale) nofun

theorem isStale_default (s : SharedWakelock) : s.isStale (-1) = false := by
  simp [isStale]

theorem decrement_threads (s : SharedWakelock) (delta : Nat) (timeoutStart : Int) :
    (s.decrementRefCountAndMaybeReleaseWakelock delta timeoutStart).mThreadsRun = s.mThreadsRun := by
  unfold decrementRefCountAndMaybeReleaseWakelock
  split
  · rfl
  · split <;> rfl

/-- A reset gives all references back. -/
theorem reset_count (hrun : s.mThreadsRun = true) (now : Int) :
    (s.resetSharedWakelock now).mWakelockRefCount = 0 := by
  by_cases hzero : s.mWakelockRefCount = 0
  · rw [resetSharedWakelock, decrement_ignored (Or.inl hzero)]
    exact hzero
  · rw [resetSharedWakelock, decrement_running hrun hzero s.isStale_default]
    show s.mWakelockRefCount - min s.mWakelockRefCount s.mWakelockRefCount = 0
    rw [Nat.min_self, Nat.sub_self]

/-! ## The lock and the count -/

/-- The lock is held exactly while there are references. -/
def Follows (s : SharedWakelock) : Prop :=
  s.wakeLockHeld = true ↔ 0 < s.mWakelockRefCount

/-- Giving references back releases the lock with the last of them. -/
theorem Follows.decrement (h : s.Follows) (delta : Nat) (timeoutStart : Int) :
    (s.decrementRefCountAndMaybeReleaseWakelock delta timeoutStart).Follows := by
  by_cases hignored : s.mWakelockRefCount = 0 ∨ s.isStale timeoutStart = true
  · rwa [decrement_ignored hignored]
  · obtain ⟨hcount, hfresh⟩ := not_or.mp hignored
    cases hrun : s.mThreadsRun with
    | false =>
        rw [decrementRefCountAndMaybeReleaseWakelock, if_pos hrun]
        exact h
    | true =>
        rw [decrement_running hrun hcount (Bool.eq_false_iff.mpr hfresh), Follows]
        dsimp only
        split
        · next hlast => simp [hlast]
        · next hleft =>
            rw [h.mpr (Nat.pos_of_ne_zero hcount)]
            exact iff_of_true rfl (Nat.pos_of_ne_zero hleft)

end SharedWakelock

/-- A call of one of the three. -/
inductive WakelockCall
  | increment (delta : Nat) (now : Int)
  | decrement (delta : Nat) (timeoutStart : Int)
  | reset (now : Int)
deriving DecidableEq, Repr

/-- A call of one of the three functions. -/
def SharedWakelock.call (s : SharedWakelock) : WakelockCall → SharedWakelock
  | .increment delta now => (s.incrementRefCountAndMaybeAcquireWakelock delta now).1
  | .decrement delta timeoutStart => s.decrementRefCountAndMaybeReleaseWakelock delta timeoutStart
  | .reset now => s.resetSharedWakelock now

/-- Any calls, one after another. -/
def wakelockCalls : Machine SharedWakelock WakelockCall where
  Start s := ∃ now, s = .construct now
  step s c := some (s.call c)

/-- The call does not take the lock for nothing. -/
def LeavesReference (s : SharedWakelock) : WakelockCall → Prop
  | .increment delta _ => (s.mWakelockRefCount + delta) % 2 ^ 64 ≠ 0
  | .decrement _ _ => True
  | .reset _ => True

instance (s : SharedWakelock) : (c : WakelockCall) → Decidable (LeavesReference s c)
  | .increment _ _ => inferInstanceAs (Decidable (_ ≠ _))
  | .decrement _ _ => inferInstanceAs (Decidable True)
  | .reset _ => inferInstanceAs (Decidable True)

theorem call_threads {s : SharedWakelock} (hrun : s.mThreadsRun = true) (c : WakelockCall) :
    (s.call c).mThreadsRun = true := by
  cases c with
  | increment delta now =>
      rw [SharedWakelock.call, SharedWakelock.increment_running hrun]
      exact hrun
  | decrement delta timeoutStart =>
      rw [SharedWakelock.call, SharedWakelock.decrement_threads]
      exact hrun
  | reset now =>
      show (s.decrementRefCountAndMaybeReleaseWakelock s.mWakelockRefCount (-1)).mThreadsRun = true
      rw [SharedWakelock.decrement_threads]
      exact hrun

/-- An increment leaves the lock held, whatever it leaves of the count. -/
theorem call_follows_iff {s : SharedWakelock} (hrun : s.mThreadsRun = true) (h : s.Follows)
    (c : WakelockCall) : (s.call c).Follows ↔ LeavesReference s c := by
  cases c with
  | increment delta now =>
      have hheld : (s.wakeLockHeld || s.mWakelockRefCount == 0) = true := by
        rw [Bool.or_eq_true, beq_iff_eq]
        rcases Nat.eq_zero_or_pos s.mWakelockRefCount with hzero | hpos
        · exact Or.inr hzero
        · exact Or.inl (h.mpr hpos)
      rw [SharedWakelock.call, SharedWakelock.increment_running hrun, SharedWakelock.Follows]
      dsimp only
      rw [hheld, LeavesReference, ← Nat.pos_iff_ne_zero]
      simp only [true_iff]
  | decrement delta timeoutStart => exact iff_of_true (h.decrement delta timeoutStart) trivial
  | reset now => exact iff_of_true (h.decrement s.mWakelockRefCount (-1)) trivial

/-- The lock is held exactly while there are references, in every state along a run, if and only if
no increment of the run leaves the count at zero.  One by zero does, of a locked post without a
wake-up event whose reference a timeout has taken away: it acquires the lock, and no reset releases
it. -/
theorem lock_follows_count_iff (now : Int) (as : List WakelockCall) (t : SharedWakelock)
    (hrun : wakelockCalls.run (.construct now) as = some t) :
    (∀ bs u, bs <+: as → wakelockCalls.run (.construct now) bs = some u →
      (u.wakeLockHeld = true ↔ 0 < u.mWakelockRefCount)) ↔
    wakelockCalls.runUnder LeavesReference (.construct now) as = some t := by
  apply wakelockCalls.runUnder_iff_along (I := fun s => s.mThreadsRun = true)
    (P := SharedWakelock.Follows) _ _ rfl _ hrun
  · intro s c u hthreads hstep
    cases hstep
    exact call_threads hthreads c
  · intro s c u hthreads hfollows hstep
    cases hstep
    exact call_follows_iff hthreads hfollows c
  · exact iff_of_false nofun (Nat.lt_irrefl 0)

/-- Two references are taken, one goes, and a timeout takes the other. -/
theorem lock_follows_count_iff_timeout :
    (∀ bs u, bs <+: [.increment 1 5, .increment 1 6, .decrement 1 5, .reset 9] →
      wakelockCalls.run (.construct 0) bs = some u →
      (u.wakeLockHeld = true ↔ 0 < u.mWakelockRefCount)) ↔
    wakelockCalls.runUnder LeavesReference (.construct 0)
      [.increment 1 5, .increment 1 6, .decrement 1 5, .reset 9] =
        some ⟨true, 0, 6, 9, false⟩ :=
  lock_follows_count_iff 0 _ _ rfl

/-- A reference is lost to a timeout before a post of no wake-up event is made with it. -/
theorem lock_without_reference :
    ¬ ∀ (now : Int) (as : List WakelockCall) (t : SharedWakelock),
      wakelockCalls.run (.construct now) as = some t →
      (t.wakeLockHeld = true ↔ 0 < t.mWakelockRefCount) := by
  intro hall
  have h := hall 0 [.increment 1 1, .reset 2, .increment 0 3] _ rfl
  exact absurd (h.mp rfl) (Nat.lt_irrefl 0)

/-- No reset releases a lock that is held without a reference. -/
theorem reset_keeps_lock {s : SharedWakelock} (hzero : s.mWakelockRefCount = 0) (now : Int) :
    (s.resetSharedWakelock now).wakeLockHeld = s.wakeLockHeld := by
  rw [SharedWakelock.resetSharedWakelock, SharedWakelock.decrement_ignored (Or.inl hzero)]

/-- The same in `HalProxy`: the wake lock thread finds a timeout between the creation of a
`ScopedWakelock` and the post that is made with it. -/
theorem proxy_lock_without_reference : ∃ s,
    (proxy wakeUpEnv).run (.construct wakeUpEnv 0) (initialized 1 ++ [.createScopedWakelock 2,
      .wakelockCheck 5000000000 5000000000, .postEvents 0 [⟨3, 7, 1, 0, []⟩] (some 0),
      .postWaiting 0 true 6000000000, .postReturns 0]) = some s ∧
      s.mThreadsRun = true ∧ s.wakeLockHeld = true ∧ s.mWakelockRefCount = 0 ∧
      s.liveWakelocks = [] :=
  ⟨_, rfl, rfl, rfl, rfl, rfl⟩

end Smi240Hal.MultiHal
