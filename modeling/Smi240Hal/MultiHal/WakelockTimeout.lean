/-
# Smi240Hal.MultiHal.WakelockTimeout — references nobody gives back

When the framework does not acknowledge its wake-up events, `handleWakelocks` resets the count after
the timeout.  The thread is on its own then: it may be asleep, between two looks at the lock, or in
`readBlocking` when the time is over.  It gets to the reset from everywhere, and back to sleep.
-/
import Smi240Hal.MultiHal.Backlog
import Smi240Hal.MultiHal.StopThreads
import Smi240Hal.MultiHal.WakelockCovered

namespace Smi240Hal.MultiHal

open Smi240Hal.Lib

/-- The steps of `handleWakelocks`, with what it reads of the clock after a timeout that started at
`start`. -/
def BlockingAct.IsLate (env : Env) (start : Int) : BlockingAct → Prop
  | .proxy (.wakelockCheck now _) => env.kWakelockTimeoutNs < now - start
  | .wakelockAdvance | .proxy .wakelockRead | .proxy .wakelockReadFails |
    .proxy .wakelockProcess => True
  | _ => False

namespace Proxy

/-- Giving references back does not leave the lock behind. -/
theorem released_decrement {s : Proxy} (h : s.wakeLockHeld = true → 0 < s.mWakelockRefCount)
    {delta : Nat} {timeoutStart : Int} (hheld : s.heldAfter delta timeoutStart = true) :
    0 < s.refAfter delta timeoutStart := by
  unfold heldAfter at hheld
  unfold refAfter
  by_cases hcounts : s.counts timeoutStart
  · rw [if_pos hcounts]
    by_cases hle : s.mWakelockRefCount ≤ delta
    · rw [if_pos ⟨hcounts, hle⟩] at hheld
      cases hheld
    · omega
  · rw [if_neg fun hboth => hcounts hboth.1] at hheld
    rw [if_neg hcounts]
    exact h hheld

/-- A reset takes all references. -/
theorem reset_refs {s : Proxy} (hrun : s.mThreadsRun = true) (hpos : 0 < s.mWakelockRefCount)
    (now : Int) : (s.resetSharedWakelock now).mWakelockRefCount = 0 ∧
      (s.resetSharedWakelock now).wakeLockHeld = false := by
  have hcounts : s.counts (-1) := ⟨hrun, Nat.ne_of_gt hpos, isStale_now s⟩
  unfold resetSharedWakelock
  rw [decrement_eq]
  constructor
  · show s.refAfter s.mWakelockRefCount (-1) = 0
    rw [refAfter, if_pos hcounts, Nat.sub_self]
  · show s.heldAfter s.mWakelockRefCount (-1) = false
    rw [heldAfter, if_pos ⟨hcounts, Nat.le_refl _⟩]

end Proxy

namespace BlockingProxy

/-- The steps until the references are gone and the thread sleeps. -/
def stepsToRelease (s : BlockingProxy) : Nat :=
  match s.proxy.wakelockThread with
  | .reading => 8
  | .processing _ => 7
  | .waiting => s.wakelockWait.stepsToRest (decide (0 < s.proxy.mWakelockRefCount)) +
      if s.proxy.mWakelockRefCount = 0 then 0 else 4
  | .ended => 0

/-- What the thread keeps on its way; `start` is when the last reference was taken. -/
structure Releasing (env : Env) (start : Int) (s : BlockingProxy) : Prop where
  reach : (blockingProxy env).Reach s
  notRunning : s.proxy.initializing = .notRunning
  callbackSet : s.proxy.callbackSet = true
  started : s.proxy.mWakelockTimeoutStartTime = start
  held : s.proxy.wakeLockHeld = true → 0 < s.proxy.mWakelockRefCount

variable {env : Env} {start : Int} {s t : BlockingProxy}

theorem stepsToRelease_head {s : BlockingProxy} (hpc : s.proxy.wakelockThread = .waiting)
    (hhead : s.wakelockWait = .head) : s.stepsToRelease ≤ 6 := by
  unfold stepsToRelease
  rw [hpc, hhead]
  by_cases hzero : s.proxy.mWakelockRefCount = 0
  · simp [hzero, WaitPhase.stepsToRest]
  · simp [hzero, Nat.pos_of_ne_zero hzero, WaitPhase.stepsToRest]

theorem stepsToRelease_le (s : BlockingProxy) : s.stepsToRelease ≤ 8 := by
  unfold stepsToRelease
  have hle := WaitPhase.stepsToRest_le (decide (0 < s.proxy.mWakelockRefCount)) s.wakelockWait
  split
  · omega
  · omega
  · split <;> omega
  · omega

theorem Releasing.running (h : Releasing env start s) : s.proxy.mThreadsRun = true :=
  (Proxy.alive_of_reach (proxy_reach_of_blocking h.reach) h.notRunning).1

theorem Releasing.step {a : BlockingAct} (h : Releasing env start s) (ha : a.IsLate env start)
    (hstep : s.step env a = some t) :
    Releasing env start t ∧ t.stepsToRelease < s.stepsToRelease := by
  have hreach : (blockingProxy env).Reach t := .next h.reach trivial hstep
  have hrun := h.running
  cases step_cases hstep with
  | pendingAdvance | pendingSpurious | wakelockSpurious | notifyWakelock | notifyPending =>
      exact absurd ha id
  | @wakelockAdvance phase hpc hnext =>
      refine ⟨⟨hreach, h.notRunning, h.callbackSet, h.started, h.held⟩, ?_⟩
      have hpred : s.wakelockPred = decide (0 < s.proxy.mWakelockRefCount) := by
        simp [wakelockPred, hrun]
      rw [hpred, hrun] at hnext
      have hlower := WaitPhase.advance_running hnext
      simp only [stepsToRelease, hpc]
      omega
  | @proxy a p hadmits hp =>
      cases Proxy.step_cases hp with
      | created | createdUnlocked | destroyed | postRefused | postStarted | posted | returned |
        taken | wrote | failed | relocked | ended | wakelocksEnded | received | acked | stopped |
        joined | cleared | restarted => exact absurd ha id
      | @timedOut now resetNow hpc _ hpos hout =>
          obtain ⟨hzero, hreleased⟩ := Proxy.reset_refs hrun hpos resetNow
          have hchecking : s.wakelockWait = .checking := hadmits
          have hwaiting : (s.proxy.resetSharedWakelock resetNow).wakelockThread = .waiting := by
            simpa [Proxy.resetSharedWakelock, Proxy.decrement_eq] using hpc
          refine ⟨⟨hreach, ?_, ?_, ?_, ?_⟩, ?_⟩
          · simpa [Proxy.resetSharedWakelock, Proxy.decrement_eq] using h.notRunning
          · simpa [Proxy.resetSharedWakelock, Proxy.decrement_eq] using h.callbackSet
          · simpa [Proxy.resetSharedWakelock, Proxy.decrement_eq] using h.started
          · intro hheld
            cases hreleased.symm.trans hheld
          · have hpositive : s.proxy.mWakelockRefCount ≠ 0 := Nat.ne_of_gt hpos
            simp [stepsToRelease, hwaiting, hzero, hpc, hchecking, wakelockWaitAfter, hpositive,
              WaitPhase.stepsToRest]
      | @reads now resetNow hpc _ hpos =>
          -- after the timeout the code resets instead
          have hlate : env.kWakelockTimeoutNs < now - start := ha
          have hout : s.proxy.sharedWakelockDidTimeout env now = true := by
            simpa [Proxy.sharedWakelockDidTimeout, h.started] using hlate
          have hresets : s.proxy.wakelockCheck env now resetNow =
              some (s.proxy.resetSharedWakelock resetNow) := by
            rw [Proxy.wakelockCheck, if_pos ⟨hpc, hrun, hpos⟩, if_pos hout]
          have hwaiting : (s.proxy.resetSharedWakelock resetNow).wakelockThread = .waiting := by
            simpa [Proxy.resetSharedWakelock, Proxy.decrement_eq] using hpc
          rw [Option.some.inj (hresets.symm.trans hp)] at hwaiting
          cases hwaiting
      | ackRead hpc hq =>
          refine ⟨⟨hreach, h.notRunning, h.callbackSet, h.started, h.held⟩, ?_⟩
          simp [stepsToRelease, hpc]
      | ackNotRead hpc =>
          refine ⟨⟨hreach, h.notRunning, h.callbackSet, h.started, h.held⟩, ?_⟩
          refine Nat.lt_of_le_of_lt (stepsToRelease_head rfl rfl) ?_
          simp [stepsToRelease, hpc]
      | ackProcessed hpc =>
          rw [Proxy.decrement_eq] at hreach ⊢
          refine ⟨⟨hreach, h.notRunning, h.callbackSet, h.started, ?_⟩, ?_⟩
          · exact Proxy.released_decrement h.held
          · refine Nat.lt_of_le_of_lt (stepsToRelease_head rfl rfl) ?_
            simp [stepsToRelease, hpc]

/-- Where no step is left the thread sleeps, and what it sleeps for is gone. -/
theorem Releasing.stuck (h : Releasing env start s)
    (hstuck : ∀ a : BlockingAct, a.IsLate env start → s.step env a = none) :
    s.proxy.mWakelockRefCount = 0 ∧ s.proxy.wakeLockHeld = false ∧ s.wakelockWait = .asleep := by
  have hrun := h.running
  have hok := ok_of_reach h.reach
  cases hpc : s.proxy.wakelockThread with
  | ended =>
      obtain ⟨-, halive⟩ := Proxy.alive_of_reach (proxy_reach_of_blocking h.reach) h.notRunning
      exact absurd hpc (halive h.callbackSet).2
  | reading =>
      have := hstuck (.proxy .wakelockReadFails) trivial
      simp [BlockingProxy.step, Admits, Proxy.step, Proxy.wakelockReadFails, hpc] at this
  | processing n =>
      have := hstuck (.proxy .wakelockProcess) trivial
      simp [BlockingProxy.step, Admits, Proxy.step, Proxy.wakelockProcess, hpc] at this
  | waiting =>
      have hnone : s.wakelockWait.advance s.wakelockPred true = none := by
        apply Option.eq_none_iff_forall_ne_some.mpr
        simpa [BlockingProxy.step, hpc, hrun] using hstuck .wakelockAdvance trivial
      rcases WaitPhase.stuck_running hnone with hasleep | hchecking
      · obtain ⟨hzero, -⟩ := hok.wakelock (Or.inr hasleep)
        refine ⟨hzero, ?_, hasleep⟩
        by_contra hheld
        exact absurd hzero (Nat.ne_of_gt (h.held (Bool.eq_true_of_not_eq_false hheld)))
      · have hne := hok.wakelockChecked hchecking hpc hrun
        have hlate : env.kWakelockTimeoutNs < start + env.kWakelockTimeoutNs + 1 - start := by omega
        have hout : s.proxy.sharedWakelockDidTimeout env (start + env.kWakelockTimeoutNs + 1) =
            true := by simpa [Proxy.sharedWakelockDidTimeout, h.started] using hlate
        have := hstuck (.proxy (.wakelockCheck (start + env.kWakelockTimeoutNs + 1) 0)) hlate
        simp [BlockingProxy.step, Admits, hchecking, Proxy.step, Proxy.wakelockCheck, hpc, hrun,
          Nat.pos_of_ne_zero hne, hout] at this

end BlockingProxy

/-- A wake lock nobody gives back is let go: in any state between two calls of `initializeCommon`
with references held, wherever `handleWakelocks` is, it has eight steps at most if it finds the
timeout over whenever it looks.  Where none is left the count is zero, the lock is released and the
thread sleeps. -/
theorem wakelock_times_out {env : Env} {s : BlockingProxy} (h : (blockingProxy env).Reach s)
    (hup : s.proxy.initializing = .notRunning) (hset : s.proxy.callbackSet = true)
    (hpos : 0 < s.proxy.mWakelockRefCount) :
    (blockingProxy env).EndsIn (BlockingAct.IsLate env s.proxy.mWakelockTimeoutStartTime) 8
      (fun t => t.proxy.mWakelockRefCount = 0 ∧ t.proxy.wakeLockHeld = false ∧
        t.wakelockWait = .asleep) s := by
  have hends : (blockingProxy env).EndsIn
      (BlockingAct.IsLate env s.proxy.mWakelockTimeoutStartTime) s.stepsToRelease
      (fun t => t.proxy.mWakelockRefCount = 0 ∧ t.proxy.wakeLockHeld = false ∧
        t.wakelockWait = .asleep) s := by
    apply Machine.endsIn_of_rank
      (I := BlockingProxy.Releasing env s.proxy.mWakelockTimeoutStartTime)
      (r := BlockingProxy.stepsToRelease)
    · intro t a u ht ha hstep
      exact ht.step ha hstep
    · intro t ht hstuck
      exact ht.stuck hstuck
    · exact ⟨h, hup, hset, rfl, fun _ => hpos⟩
  exact hends.mono s.stepsToRelease_le fun t ht => ht

/-- A wake-up event is posted while the thread sleeps, and never acknowledged. -/
def neverAcknowledged : List BlockingAct :=
  [.proxy .stopThreads, .notifyWakelock, .notifyPending, .proxy (.resetAfterJoin 1),
    .proxy (.clearQueues 1), .proxy .restartThreads, .wakelockAdvance, .wakelockAdvance,
    .wakelockAdvance, .wakelockAdvance, .proxy (.createScopedWakelock 5),
    .proxy (.postEvents 0 [⟨10, 1, 1, 0, []⟩] (some 0)), .proxy (.postWaiting 0 true 6),
    .proxy (.postReturns 0)]

theorem wakelock_times_out_never_acknowledged : ∃ s,
    (blockingProxy wakeUpEnv).run (.construct wakeUpEnv 0) neverAcknowledged = some s ∧
      s.wakelockWait = .waking ∧
    (blockingProxy wakeUpEnv).EndsIn (BlockingAct.IsLate wakeUpEnv s.proxy.mWakelockTimeoutStartTime)
      8 (fun t => t.proxy.mWakelockRefCount = 0 ∧ t.proxy.wakeLockHeld = false ∧
        t.wakelockWait = .asleep) s := by
  have hrun : ∃ s, (blockingProxy wakeUpEnv).run (.construct wakeUpEnv 0) neverAcknowledged =
      some s ∧ s.wakelockWait = .waking ∧ s.proxy.initializing = .notRunning ∧
      s.proxy.callbackSet = true ∧ s.proxy.mWakelockRefCount = 1 :=
    ⟨_, rfl, rfl, rfl, rfl, rfl⟩
  obtain ⟨s, hs, hwaking, hup, hset, hcount⟩ := hrun
  have hreach : (blockingProxy wakeUpEnv).Reach s := .of_run (.start ⟨0, rfl⟩) hs
  exact ⟨s, hs, hwaking, wakelock_times_out hreach hup hset (by rw [hcount]; omega)⟩

end Smi240Hal.MultiHal
