/-
# Smi240Hal.MultiHal.StopThreads — the condition variables of the two threads

`MultiHal.EventPath` lets `handlePendingWrites` and `handleWakelocks` leave their wait as soon as the
predicate holds.  Here the wait is taken apart: a thread tests the predicate with its mutex, and lets
the mutex go as it falls asleep; a notification reaches it only while it sleeps.  `stopThreads` is
taken apart as well: it clears `mThreadsRun`, notifies, and joins, all of it without a mutex.

Every run is one of `proxy env` with the actions of the waits left out, so what is known of the
reachable states there is known here.
-/
import Smi240Hal.Lib.Progress
import Smi240Hal.Lib.Simulation
import Smi240Hal.MultiHal.EventOrder

namespace Smi240Hal.MultiHal

open Smi240Hal.Lib

/-! ## A wait with a predicate -/

/-- Where a thread is in `cv.wait(lock, pred)` and the loop around it. -/
inductive WaitPhase
  /-- Before it has the mutex for the first time. -/
  | starting
  /-- At the test of the loop, with the mutex. -/
  | head
  /-- At the predicate, with the mutex. -/
  | testing
  /-- The predicate was false; it still has the mutex. -/
  | blocking
  | asleep
  /-- Notified, before it has the mutex again. -/
  | waking
  /-- Behind the wait, at the second test of `mThreadsRun`, with the mutex. -/
  | checking
deriving DecidableEq, Repr

namespace WaitPhase

/-- Where a thread stands with its mutex locked. -/
def hasMutex : WaitPhase → Bool
  | .head | .testing | .blocking | .checking => true
  | .starting | .asleep | .waking => false

/-- `notify_one`, the thread being the only one that waits. -/
def notifyOne : WaitPhase → WaitPhase
  | .asleep => .waking
  | phase => phase

/-- The next step within the loop and the wait. -/
def advance (pred mThreadsRun : Bool) : WaitPhase → Option WaitPhase
  | .starting => some .head
  | .head => if mThreadsRun then some .testing else none
  | .testing => some (if pred then .checking else .blocking)
  | .blocking => some .asleep
  | .asleep => none
  | .waking => some .testing
  | .checking => if mThreadsRun then none else some .head

/-- It sleeps, or is about to and will not look again. -/
def Misses (phase : WaitPhase) : Prop := phase = .blocking ∨ phase = .asleep

instance (phase : WaitPhase) : Decidable phase.Misses := inferInstanceAs (Decidable (_ ∨ _))

end WaitPhase

/-! ## The machine -/

/-- Where `stopThreads` is. -/
inductive StopThreads
  | notRunning
  /-- `mThreadsRun` has been cleared and the FMQs have been seen to. -/
  | stored
  | wakelockNotified
  /-- At the joins. -/
  | notified
deriving DecidableEq, Repr

/-- The phases count while the thread they belong to is `.waiting`. -/
structure BlockingProxy where
  proxy : Proxy
  pendingWait : WaitPhase
  wakelockWait : WaitPhase
  stopThreads : StopThreads

/-- A step of the proxy, of a thread in its wait, or of the thread that stops the two. -/
inductive BlockingAct
  | proxy (a : ProxyAct)
  | pendingAdvance
  | wakelockAdvance
  /-- `mEventQueueWriteCV` wakes its thread for no reason. -/
  | pendingSpurious
  | wakelockSpurious
  | notifyWakelock
  | notifyPending

namespace BlockingProxy

/-- `mEventQueueWriteMutex` is not with `handlePendingWrites`; every other holder has it for one
action. -/
def EventQueueWriteMutexFree (s : BlockingProxy) : Prop :=
  s.proxy.pendingWritesThread = .waiting → s.pendingWait.hasMutex = false

/-- The same for `mWakelockMutex`. -/
def WakelockMutexFree (s : BlockingProxy) : Prop :=
  s.proxy.wakelockThread = .waiting → s.wakelockWait.hasMutex = false

instance (s : BlockingProxy) : Decidable s.EventQueueWriteMutexFree :=
  inferInstanceAs (Decidable (_ → _))

instance (s : BlockingProxy) : Decidable s.WakelockMutexFree := inferInstanceAs (Decidable (_ → _))

/-- `incrementRefCountAndMaybeAcquireWakelock` and `decrementRefCountAndMaybeReleaseWakelock` look at
`mThreadsRun` before they take the mutex. -/
def RefCountFree (s : BlockingProxy) : Prop := s.proxy.mThreadsRun = true → s.WakelockMutexFree

instance (s : BlockingProxy) : Decidable s.RefCountFree := inferInstanceAs (Decidable (_ → _))

/-- The action gets the mutexes it takes, and its thread is at that place. -/
def Admits (s : BlockingProxy) : ProxyAct → Prop
  | .createScopedWakelock _ | .destroyScopedWakelock _ | .postReturns _ => s.RefCountFree
  | .postWaiting k _ _ => s.EventQueueWriteMutexFree ∧
      ((s.proxy.postedWakelock k).isSome = true → s.RefCountFree)
  | .pendingTake => s.pendingWait = .checking
  | .pendingFailed => s.proxy.givesBack = true → s.RefCountFree
  | .pendingExit => s.pendingWait = .head
  | .wakelockCheck _ _ => s.wakelockWait = .checking
  | .wakelockExit _ => s.wakelockWait = .head
  | .resetAfterJoin _ => s.stopThreads = .notified
  | _ => True

instance (s : BlockingProxy) (a : ProxyAct) : Decidable (s.Admits a) := by
  unfold Admits
  cases a <;> infer_instance

/-- `handlePendingWrites` after an action that leads to `p`: a post that queues events notifies. -/
def pendingWaitAfter (s : BlockingProxy) (p : Proxy) : ProxyAct → WaitPhase
  | .postWaiting _ _ _ =>
      if s.proxy.mPendingWriteEventsQueue.length < p.mPendingWriteEventsQueue.length then
        s.pendingWait.notifyOne
      else s.pendingWait
  | .pendingRelock => .head
  | .restartThreads => .starting
  | _ => s.pendingWait

/-- The first reference is announced to `handleWakelocks`. -/
def announced (s : BlockingProxy) : WaitPhase :=
  if s.proxy.mThreadsRun = true ∧ s.proxy.mWakelockRefCount = 0 then s.wakelockWait.notifyOne
  else s.wakelockWait

/-- `handleWakelocks` after an action that leads to `p`. -/
def wakelockWaitAfter (s : BlockingProxy) (p : Proxy) : ProxyAct → WaitPhase
  | .createScopedWakelock _ => s.announced
  | .postWaiting k _ _ => if (s.proxy.postedWakelock k).isSome then s.announced else s.wakelockWait
  | .wakelockCheck _ _ => if p.wakelockThread = .waiting then .head else s.wakelockWait
  | .wakelockReadFails | .wakelockProcess => .head
  | .restartThreads => .starting
  | _ => s.wakelockWait

/-- Where `stopThreads` stands after a step of the proxy. -/
def stopThreadsAfter (s : BlockingProxy) : ProxyAct → StopThreads
  | .stopThreads => .stored
  | .resetAfterJoin _ => .notRunning
  | _ => s.stopThreads

/-- The predicate of `mEventQueueWriteCV.wait`. -/
def pendingPred (s : BlockingProxy) : Bool :=
  !s.proxy.mPendingWriteEventsQueue.isEmpty || !s.proxy.mThreadsRun

/-- The predicate of `mWakelockCV.wait`. -/
def wakelockPred (s : BlockingProxy) : Bool :=
  decide (0 < s.proxy.mWakelockRefCount) || !s.proxy.mThreadsRun

/-- A thread goes on in its loop only when its wait has ended. -/
def step (env : Env) (s : BlockingProxy) : BlockingAct → Option BlockingProxy
  | .proxy a =>
      if s.Admits a then do
        let p ← s.proxy.step env a
        some ⟨p, s.pendingWaitAfter p a, s.wakelockWaitAfter p a, s.stopThreadsAfter a⟩
      else none
  | .pendingAdvance =>
      if s.proxy.pendingWritesThread = .waiting then do
        let phase ← s.pendingWait.advance s.pendingPred s.proxy.mThreadsRun
        some { s with pendingWait := phase }
      else none
  | .wakelockAdvance =>
      if s.proxy.wakelockThread = .waiting then do
        let phase ← s.wakelockWait.advance s.wakelockPred s.proxy.mThreadsRun
        some { s with wakelockWait := phase }
      else none
  | .pendingSpurious =>
      if s.pendingWait = .asleep then some { s with pendingWait := .waking } else none
  | .wakelockSpurious =>
      if s.wakelockWait = .asleep then some { s with wakelockWait := .waking } else none
  | .notifyWakelock =>
      if s.stopThreads = .stored then
        some { s with wakelockWait := s.wakelockWait.notifyOne, stopThreads := .wakelockNotified }
      else none
  | .notifyPending =>
      if s.stopThreads = .wakelockNotified then
        some { s with pendingWait := s.pendingWait.notifyOne, stopThreads := .notified }
      else none

/-- No thread yet. -/
def construct (env : Env) (now : Int) : BlockingProxy := ⟨.construct env now, .head, .head, .notRunning⟩

end BlockingProxy

/-- The proxy with the waits of its two threads. -/
def blockingProxy (env : Env) : Machine BlockingProxy BlockingAct where
  Start s := ∃ now, s = .construct env now
  step := BlockingProxy.step env

/-! ## It is a run of the proxy -/

/-- The steps of `proxy` among them. -/
def BlockingAct.proxyActs : BlockingAct → List ProxyAct
  | .proxy a => [a]
  | _ => []

namespace BlockingProxy

variable {env : Env} {s t : BlockingProxy}

/-- An action of the proxy, or one of the waits, which the proxy does not see. -/
inductive Steps (env : Env) (s : BlockingProxy) : BlockingAct → BlockingProxy → Prop
  | proxy {a : ProxyAct} {p : Proxy} (hadmits : s.Admits a) (hstep : s.proxy.step env a = some p) :
      Steps env s (.proxy a)
        ⟨p, s.pendingWaitAfter p a, s.wakelockWaitAfter p a, s.stopThreadsAfter a⟩
  | pendingAdvance {phase : WaitPhase} (hpc : s.proxy.pendingWritesThread = .waiting)
      (hnext : s.pendingWait.advance s.pendingPred s.proxy.mThreadsRun = some phase) :
      Steps env s .pendingAdvance { s with pendingWait := phase }
  | wakelockAdvance {phase : WaitPhase} (hpc : s.proxy.wakelockThread = .waiting)
      (hnext : s.wakelockWait.advance s.wakelockPred s.proxy.mThreadsRun = some phase) :
      Steps env s .wakelockAdvance { s with wakelockWait := phase }
  | pendingSpurious (hasleep : s.pendingWait = .asleep) :
      Steps env s .pendingSpurious { s with pendingWait := .waking }
  | wakelockSpurious (hasleep : s.wakelockWait = .asleep) :
      Steps env s .wakelockSpurious { s with wakelockWait := .waking }
  | notifyWakelock (hstop : s.stopThreads = .stored) :
      Steps env s .notifyWakelock
        { s with wakelockWait := s.wakelockWait.notifyOne, stopThreads := .wakelockNotified }
  | notifyPending (hstop : s.stopThreads = .wakelockNotified) :
      Steps env s .notifyPending
        { s with pendingWait := s.pendingWait.notifyOne, stopThreads := .notified }

theorem step_cases {a : BlockingAct} (h : s.step env a = some t) : Steps env s a t := by
  cases a with
  | proxy a =>
      obtain ⟨hadmits, h⟩ := Option.ite_none_right_eq_some.mp h
      obtain ⟨p, hp, heq⟩ := Option.bind_eq_some_iff.mp h
      cases heq
      exact .proxy hadmits hp
  | pendingAdvance =>
      obtain ⟨hpc, h⟩ := Option.ite_none_right_eq_some.mp h
      obtain ⟨phase, hnext, heq⟩ := Option.bind_eq_some_iff.mp h
      cases heq
      exact .pendingAdvance hpc hnext
  | wakelockAdvance =>
      obtain ⟨hpc, h⟩ := Option.ite_none_right_eq_some.mp h
      obtain ⟨phase, hnext, heq⟩ := Option.bind_eq_some_iff.mp h
      cases heq
      exact .wakelockAdvance hpc hnext
  | pendingSpurious =>
      obtain ⟨hasleep, heq⟩ := Option.ite_none_right_eq_some.mp h
      cases heq
      exact .pendingSpurious hasleep
  | wakelockSpurious =>
      obtain ⟨hasleep, heq⟩ := Option.ite_none_right_eq_some.mp h
      cases heq
      exact .wakelockSpurious hasleep
  | notifyWakelock =>
      obtain ⟨hstop, heq⟩ := Option.ite_none_right_eq_some.mp h
      cases heq
      exact .notifyWakelock hstop
  | notifyPending =>
      obtain ⟨hstop, heq⟩ := Option.ite_none_right_eq_some.mp h
      cases heq
      exact .notifyPending hstop

end BlockingProxy

/-- The proxy follows. -/
def blockingSimulation (env : Env) : Simulation (blockingProxy env) (proxy env) where
  Rel s x := x = s.proxy
  label := BlockingAct.proxyActs
  start := by
    rintro s ⟨now, rfl⟩
    exact ⟨_, ⟨now, rfl⟩, rfl⟩
  step := by
    rintro s a t x rfl hstep
    cases BlockingProxy.step_cases hstep with
    | proxy hadmits hp => exact ⟨_, Machine.run_cons_eq_some _ |>.mpr ⟨_, hp, rfl⟩, rfl⟩
    | pendingAdvance hpc hnext => exact ⟨_, rfl, rfl⟩
    | wakelockAdvance hpc hnext => exact ⟨_, rfl, rfl⟩
    | pendingSpurious hasleep => exact ⟨_, rfl, rfl⟩
    | wakelockSpurious hasleep => exact ⟨_, rfl, rfl⟩
    | notifyWakelock hstop => exact ⟨_, rfl, rfl⟩
    | notifyPending hstop => exact ⟨_, rfl, rfl⟩

theorem proxy_reach_of_blocking {env : Env} {s : BlockingProxy} (h : (blockingProxy env).Reach s) :
    (proxy env).Reach s.proxy := by
  obtain ⟨x, hx, rfl⟩ := (blockingSimulation env).reach h
  exact hx

/-! ## A sleeping thread has nothing to do -/

namespace WaitPhase

theorem notifyOne_not_misses {phase : WaitPhase} (h : phase.notifyOne.Misses) :
    phase = .blocking := by
  rcases h with h | h <;> cases phase <;> simp_all [notifyOne]

theorem hasMutex_of_blocking {phase : WaitPhase} (h : phase = .blocking) :
    phase.hasMutex = true := by rw [h]; rfl

theorem Misses.ne {phase : WaitPhase} (h : phase.Misses) :
    phase ≠ .starting ∧ phase ≠ .head ∧ phase ≠ .checking := by
  rcases h with rfl | rfl <;> simp

/-- A thread that goes to sleep has found the predicate false. -/
theorem advance_misses {pred mThreadsRun : Bool} {phase next : WaitPhase}
    (h : phase.advance pred mThreadsRun = some next) (hmisses : next.Misses) :
    phase.Misses ∨ phase = .testing ∧ pred = false := by
  cases phase with
  | starting | waking => cases h; rcases hmisses with h | h <;> exact absurd h nofun
  | head =>
      obtain ⟨-, heq⟩ := Option.ite_none_right_eq_some.mp h
      cases heq
      rcases hmisses with h | h <;> exact absurd h nofun
  | checking =>
      obtain ⟨-, heq⟩ := Option.ite_none_left_eq_some.mp h
      cases heq
      rcases hmisses with h | h <;> exact absurd h nofun
  | testing =>
      cases h
      cases hpred : pred with
      | false => exact Or.inr ⟨rfl, rfl⟩
      | true =>
          rw [hpred] at hmisses
          rcases hmisses with h | h <;> exact absurd h nofun
  | blocking => exact Or.inl (Or.inl rfl)
  | asleep => exact Or.inl (Or.inr rfl)

theorem advance_checking {pred mThreadsRun : Bool} {phase : WaitPhase}
    (h : phase.advance pred mThreadsRun = some .checking) : pred = true := by
  cases phase <;> cases pred <;> cases mThreadsRun <;> simp_all [advance]

theorem notifyOne_checking {phase : WaitPhase} (h : phase.notifyOne = .checking) :
    phase = .checking := by
  cases phase <;> simp_all [notifyOne]

end WaitPhase

namespace BlockingProxy

/-- `handlePendingWrites` sleeps only while there is nothing to write. -/
def PendingOk (s : BlockingProxy) : Prop :=
  s.pendingWait.Misses →
    s.proxy.mPendingWriteEventsQueue = [] ∧ s.proxy.pendingWritesThread = .waiting

/-- `handleWakelocks` sleeps only while no reference is held. -/
def WakelockOk (s : BlockingProxy) : Prop :=
  s.wakelockWait.Misses → s.proxy.mWakelockRefCount = 0 ∧ s.proxy.wakelockThread = .waiting

/-- Behind its wait `handlePendingWrites` finds something to write, unless it is to stop. -/
def PendingChecked (s : BlockingProxy) : Prop :=
  s.pendingWait = .checking → s.proxy.pendingWritesThread = .waiting →
    s.proxy.mThreadsRun = true → s.proxy.mPendingWriteEventsQueue ≠ []

/-- And `handleWakelocks` finds a reference. -/
def WakelockChecked (s : BlockingProxy) : Prop :=
  s.wakelockWait = .checking → s.proxy.wakelockThread = .waiting →
    s.proxy.mThreadsRun = true → s.proxy.mWakelockRefCount ≠ 0

/-- A call of `stopThreads` is a phase of `initializeCommon`. -/
def StopOk (s : BlockingProxy) : Prop :=
  s.stopThreads ≠ .notRunning → s.proxy.initializing = .joining

variable {env : Env} {s t : BlockingProxy}

/-- A post finds the mutex free, so a thread that goes to sleep does so before it. -/
theorem pendingOk_posted {p : Proxy} {queued : List (List Event × Nat)} (h : s.PendingOk)
    (hfree : s.EventQueueWriteMutexFree)
    (hqueue : p.mPendingWriteEventsQueue = s.proxy.mPendingWriteEventsQueue ++ queued)
    (hthread : p.pendingWritesThread = s.proxy.pendingWritesThread)
    {k : Nat} {writeSucceeds : Bool} {now : Int}
    (hmisses : (s.pendingWaitAfter p (.postWaiting k writeSucceeds now)).Misses) :
    p.mPendingWriteEventsQueue = [] ∧ p.pendingWritesThread = .waiting := by
  -- a thread that is about to fall asleep has the mutex, which is with the post now
  have hnotBlocking : ¬ (s.pendingWait = .blocking) := by
    intro hblocking
    have hmutex := hfree (h (Or.inl hblocking)).2
    rw [WaitPhase.hasMutex_of_blocking hblocking] at hmutex
    exact absurd hmutex nofun
  simp only [pendingWaitAfter] at hmisses
  split at hmisses
  · exact absurd (WaitPhase.notifyOne_not_misses hmisses) hnotBlocking
  · next hsame =>
      obtain ⟨hempty, hwaiting⟩ := h hmisses
      refine ⟨?_, hthread.trans hwaiting⟩
      rw [hqueue, hempty, List.nil_append] at hsame ⊢
      exact List.length_eq_zero_iff.mp (Nat.eq_zero_of_not_pos hsame)

theorem pendingOk_proxy {a : ProxyAct} {p : Proxy} (h : s.PendingOk) (hadmits : s.Admits a)
    (hstep : s.proxy.step env a = some p)
    (hmisses : (s.pendingWaitAfter p a).Misses) :
    p.mPendingWriteEventsQueue = [] ∧ p.pendingWritesThread = .waiting := by
  cases Proxy.step_cases hstep with
  | created | createdUnlocked | postRefused | postStarted | reads | ackRead | ackNotRead | received |
    acked | stopped => exact h hmisses
  | destroyed | returned | ackProcessed =>
      rw [Proxy.decrement_eq]
      exact h hmisses
  | timedOut | wakelocksEnded | joined =>
      unfold Proxy.resetSharedWakelock
      rw [Proxy.decrement_eq]
      exact h hmisses
  | posted hk => exact pendingOk_posted h hadmits.1 rfl rfl hmisses
  | taken hpc hq => exact absurd hadmits hmisses.ne.2.2
  | ended hpc hrun => exact absurd hadmits hmisses.ne.2.1
  | wrote hpc hq hroom | failed hpc hq => exact absurd (hpc.symm.trans (h hmisses).2) nofun
  | relocked hpc hq => exact absurd rfl hmisses.ne.2.1
  | cleared hi => exact ⟨rfl, (h hmisses).2⟩
  | restarted hi => exact absurd rfl hmisses.ne.1

/-- The first reference wakes the thread. -/
theorem announced_misses (h : s.WakelockOk) (hfree : s.RefCountFree)
    (hrun : s.proxy.mThreadsRun = true) : ¬ s.announced.Misses := by
  intro hmisses
  -- and so with the mutex of the references
  have hnotBlocking : ¬ (s.wakelockWait = .blocking) := by
    intro hblocking
    have hmutex := hfree hrun (h (Or.inl hblocking)).2
    rw [WaitPhase.hasMutex_of_blocking hblocking] at hmutex
    exact absurd hmutex nofun
  simp only [announced] at hmisses
  split at hmisses
  · exact hnotBlocking (WaitPhase.notifyOne_not_misses hmisses)
  · next hnot => exact hnot ⟨hrun, (h hmisses).1⟩

/-- A post takes its references after it has woken the thread. -/
theorem wakelockOk_posted {posting : Posting} {k : Nat} (h : s.WakelockOk)
    (hk : s.proxy.posting[k]? = some posting)
    (hfree : (s.proxy.postedWakelock k).isSome = true → s.RefCountFree)
    (hmisses : (if (s.proxy.postedWakelock k).isSome then s.announced else s.wakelockWait).Misses) :
    s.proxy.refTaken posting = 0 ∧ s.proxy.wakelockThread = .waiting := by
  have hposted : s.proxy.postedWakelock k = posting.wakelock := by rw [Proxy.postedWakelock, hk]; rfl
  have hnot : ¬ s.proxy.takesReferences posting := by
    rintro ⟨hlocked, hrun⟩
    rw [← hposted] at hlocked
    rw [if_pos hlocked] at hmisses
    exact announced_misses h (hfree hlocked) hrun hmisses
  have hwait : s.wakelockWait.Misses := by
    split at hmisses
    · next hlocked =>
        -- without running threads nothing is announced
        rw [announced, if_neg] at hmisses
        · exact hmisses
        · exact fun hyes => hnot ⟨hposted ▸ hlocked, hyes.1⟩
    · exact hmisses
  rw [Proxy.refTaken, if_neg hnot]
  exact h hwait

theorem wakelockOk_proxy {a : ProxyAct} {p : Proxy} (h : s.WakelockOk) (hadmits : s.Admits a)
    (hstep : s.proxy.step env a = some p)
    (hmisses : (s.wakelockWaitAfter p a).Misses) :
    p.mWakelockRefCount = 0 ∧ p.wakelockThread = .waiting := by
  cases Proxy.step_cases hstep with
  | created hset hrun => exact absurd hmisses (announced_misses h hadmits hrun)
  | createdUnlocked hset hrun =>
      have hsame : s.announced = s.wakelockWait := if_neg fun hyes => by simp [hrun] at hyes
      exact h (hsame ▸ hmisses)
  | postRefused | postStarted | taken | wrote | relocked | ended | received | acked | stopped |
    cleared => exact h hmisses
  | destroyed | returned | failed =>
      obtain ⟨hzero, hwaiting⟩ := h hmisses
      rw [Proxy.decrement_eq]
      exact ⟨Nat.le_zero.mp (hzero ▸ Proxy.refAfter_le _ _ _), hwaiting⟩
  | posted hk => exact wakelockOk_posted h hk hadmits.2 hmisses
  | timedOut hpc | reads hpc =>
      simp only [wakelockWaitAfter] at hmisses
      split at hmisses
      · exact absurd rfl hmisses.ne.2.1
      · exact absurd hadmits hmisses.ne.2.2
  | wakelocksEnded hpc => exact absurd hadmits hmisses.ne.2.1
  | joined hi hpw hwl => exact absurd (hwl.symm.trans (h hmisses).2) nofun
  | ackRead hpc => exact absurd (hpc.symm.trans (h hmisses).2) nofun
  | ackNotRead hpc | ackProcessed hpc => exact absurd rfl hmisses.ne.2.1
  | restarted hi => exact absurd rfl hmisses.ne.1

theorem pendingChecked_proxy {a : ProxyAct} {p : Proxy} (h : s.PendingChecked)
    (hphases : s.proxy.Phases) (hadmits : s.Admits a) (hstep : s.proxy.step env a = some p)
    (hchecking : s.pendingWaitAfter p a = .checking) (hwaiting : p.pendingWritesThread = .waiting)
    (hrun : p.mThreadsRun = true) : p.mPendingWriteEventsQueue ≠ [] := by
  cases Proxy.step_cases hstep with
  | created | createdUnlocked | postRefused | postStarted | reads | ackRead | ackNotRead | received |
    acked => exact h hchecking hwaiting hrun
  | destroyed | returned | ackProcessed =>
      rw [Proxy.decrement_eq] at *
      exact h hchecking hwaiting hrun
  | timedOut | joined | wakelocksEnded =>
      unfold Proxy.resetSharedWakelock at *
      rw [Proxy.decrement_eq] at *
      exact h hchecking hwaiting hrun
  | posted hk =>
      -- the thread has the mutex there, so no post comes in between
      have hmutex : s.pendingWait.hasMutex = false := hadmits.1 hwaiting
      have hthere : s.pendingWait = .checking := by
        simp only [pendingWaitAfter] at hchecking
        split at hchecking
        · exact WaitPhase.notifyOne_checking hchecking
        · exact hchecking
      rw [hthere] at hmutex
      exact absurd hmutex nofun
  | taken | wrote | ended => exact absurd hwaiting nofun
  | failed =>
      rw [Proxy.decrement_eq] at hwaiting
      exact absurd hwaiting nofun
  | relocked | restarted => exact absurd hchecking nofun
  | stopped => exact absurd hrun nofun
  | cleared hi =>
      have hstopped : s.proxy.mThreadsRun = false := hphases.stopped (hi ▸ nofun)
      exact absurd (hstopped.symm.trans hrun) nofun

/-- Whoever changes the count has the mutex, so `handleWakelocks` does not. -/
theorem not_checking_of_refCountFree (hfree : s.RefCountFree) (hrun : s.proxy.mThreadsRun = true)
    (hwaiting : s.proxy.wakelockThread = .waiting) : s.wakelockWait ≠ .checking := by
  intro hchecking
  have hmutex := hfree hrun hwaiting
  rw [hchecking] at hmutex
  exact absurd hmutex nofun

theorem announced_checking (h : s.announced = .checking) : s.wakelockWait = .checking := by
  unfold announced at h
  split at h
  · exact WaitPhase.notifyOne_checking h
  · exact h

theorem wakelockChecked_proxy {a : ProxyAct} {p : Proxy} (h : s.WakelockChecked)
    (hadmits : s.Admits a) (hstep : s.proxy.step env a = some p)
    (hchecking : s.wakelockWaitAfter p a = .checking) (hwaiting : p.wakelockThread = .waiting)
    (hrun : p.mThreadsRun = true) : p.mWakelockRefCount ≠ 0 := by
  cases Proxy.step_cases hstep with
  | created =>
      exact absurd (announced_checking hchecking)
        (not_checking_of_refCountFree hadmits hrun hwaiting)
  | createdUnlocked => exact h (announced_checking hchecking) hwaiting hrun
  | postRefused | postStarted | taken | wrote | relocked | ended | received | acked | cleared =>
      exact h hchecking hwaiting hrun
  | destroyed | returned =>
      rw [Proxy.decrement_eq] at hwaiting hrun
      exact absurd hchecking (not_checking_of_refCountFree hadmits hrun hwaiting)
  | @failed v num num' size n rest hs hpc hq =>
      rw [Proxy.decrement_eq] at *
      by_cases hgives : 0 < num'
      · have hyes : s.proxy.givesBack = true := by simp [Proxy.givesBack, hpc, hgives]
        exact absurd hchecking (not_checking_of_refCountFree (hadmits hyes) hrun hwaiting)
      · have hnone : s.proxy.givenBack v num' size = 0 := if_neg hgives
        show Proxy.refAfter _ _ _ ≠ 0
        rw [hnone]
        intro hzero
        have hle : s.proxy.mWakelockRefCount ≤ 0 :=
          le_of_le_of_eq (Proxy.le_refAfter_add _ 0 (-1)) hzero
        exact h hchecking hwaiting hrun (Nat.le_zero.mp hle)
  | @posted k posting writeSucceeds now hk =>
      have hposted : s.proxy.postedWakelock k = posting.wakelock := by rw [Proxy.postedWakelock, hk]; rfl
      by_cases hlocked : (s.proxy.postedWakelock k).isSome = true
      · have hthere : s.announced = .checking := (if_pos hlocked).symm.trans hchecking
        exact absurd (announced_checking hthere)
          (not_checking_of_refCountFree (hadmits.2 hlocked) hrun hwaiting)
      · have hthere : s.wakelockWait = .checking := (if_neg hlocked).symm.trans hchecking
        show s.proxy.refTaken posting ≠ 0
        rw [Proxy.refTaken, if_neg fun htakes => hlocked (hposted ▸ htakes.1)]
        exact h hthere hwaiting hrun
  | timedOut hpc =>
      have hthere : (s.proxy.resetSharedWakelock _).wakelockThread = .waiting := hwaiting
      exact absurd ((if_pos hthere).symm.trans hchecking) nofun
  | joined hi hpw hwl =>
      unfold Proxy.resetSharedWakelock at hwaiting
      rw [Proxy.decrement_eq] at hwaiting
      exact absurd (hwl.symm.trans hwaiting) nofun
  | reads => exact absurd hwaiting nofun
  | wakelocksEnded => exact absurd hwaiting nofun
  | ackRead => exact absurd hwaiting nofun
  | ackNotRead | ackProcessed | restarted => exact absurd hchecking nofun
  | stopped => exact absurd hrun nofun

theorem stopOk_proxy {a : ProxyAct} {p : Proxy} (h : s.StopOk)
    (hstep : s.proxy.step env a = some p) (hstop : s.stopThreadsAfter a ≠ .notRunning) :
    p.initializing = .joining := by
  cases Proxy.step_cases hstep with
  | created | createdUnlocked | postRefused | postStarted | posted | taken | wrote | relocked |
    ended | reads | ackRead | ackNotRead | received | acked => exact h hstop
  | destroyed | returned | failed | ackProcessed =>
      rw [Proxy.decrement_eq]
      exact h hstop
  | timedOut | wakelocksEnded =>
      unfold Proxy.resetSharedWakelock
      rw [Proxy.decrement_eq]
      exact h hstop
  | stopped => rfl
  | joined => exact absurd rfl hstop
  | cleared hi => exact absurd (hi.symm.trans (h hstop)) nofun
  | restarted hi => exact absurd (hi.symm.trans (h hstop)) nofun

structure Ok (s : BlockingProxy) : Prop where
  pending : s.PendingOk
  wakelock : s.WakelockOk
  pendingChecked : s.PendingChecked
  wakelockChecked : s.WakelockChecked
  stop : s.StopOk

theorem ok_construct (env : Env) (now : Int) : (construct env now).Ok where
  pending hmisses := absurd rfl hmisses.ne.2.1
  wakelock hmisses := absurd rfl hmisses.ne.2.1
  pendingChecked := nofun
  wakelockChecked := nofun
  stop hstop := absurd rfl hstop

theorem Ok.step {a : BlockingAct} (h : s.Ok) (hphases : s.proxy.Phases)
    (hstep : s.step env a = some t) : t.Ok := by
  cases step_cases hstep with
  | proxy hadmits hp =>
      exact ⟨pendingOk_proxy h.pending hadmits hp, wakelockOk_proxy h.wakelock hadmits hp,
        pendingChecked_proxy h.pendingChecked hphases hadmits hp,
        wakelockChecked_proxy h.wakelockChecked hadmits hp, stopOk_proxy h.stop hp⟩
  | pendingAdvance hpc hnext =>
      refine ⟨?_, h.wakelock, ?_, h.wakelockChecked, h.stop⟩
      · intro hmisses
        rcases WaitPhase.advance_misses hnext hmisses with hmisses | ⟨-, hpred⟩
        · exact h.pending hmisses
        · refine ⟨?_, hpc⟩
          simpa [pendingPred] using (Bool.or_eq_false_iff.mp hpred).1
      · intro hchecking _ hrun
        obtain rfl : _ = WaitPhase.checking := hchecking
        have hpred := WaitPhase.advance_checking hnext
        simpa [pendingPred, show s.proxy.mThreadsRun = true from hrun] using hpred
  | wakelockAdvance hpc hnext =>
      refine ⟨h.pending, ?_, h.pendingChecked, ?_, h.stop⟩
      · intro hmisses
        rcases WaitPhase.advance_misses hnext hmisses with hmisses | ⟨-, hpred⟩
        · exact h.wakelock hmisses
        · refine ⟨?_, hpc⟩
          simpa [wakelockPred] using (Bool.or_eq_false_iff.mp hpred).1
      · intro hchecking _ hrun
        obtain rfl : _ = WaitPhase.checking := hchecking
        have hpred := WaitPhase.advance_checking hnext
        have hpos : 0 < s.proxy.mWakelockRefCount := by
          simpa [wakelockPred, show s.proxy.mThreadsRun = true from hrun] using hpred
        exact Nat.ne_of_gt hpos
  | pendingSpurious hasleep =>
      refine ⟨fun hmisses => ?_, h.wakelock, nofun, h.wakelockChecked, h.stop⟩
      rcases hmisses with hmisses | hmisses <;> exact absurd hmisses nofun
  | wakelockSpurious hasleep =>
      refine ⟨h.pending, fun hmisses => ?_, h.pendingChecked, nofun, h.stop⟩
      rcases hmisses with hmisses | hmisses <;> exact absurd hmisses nofun
  | notifyWakelock hstop =>
      refine ⟨h.pending, fun hmisses => ?_, h.pendingChecked, fun hchecking => ?_,
        fun _ => h.stop (hstop ▸ nofun)⟩
      · exact h.wakelock (Or.inl (WaitPhase.notifyOne_not_misses hmisses))
      · exact h.wakelockChecked (WaitPhase.notifyOne_checking hchecking)
  | notifyPending hstop =>
      refine ⟨fun hmisses => ?_, h.wakelock, fun hchecking => ?_, h.wakelockChecked,
        fun _ => h.stop (hstop ▸ nofun)⟩
      · exact h.pending (Or.inl (WaitPhase.notifyOne_not_misses hmisses))
      · exact h.pendingChecked (WaitPhase.notifyOne_checking hchecking)

theorem ok_of_reach (h : (blockingProxy env).Reach s) : s.Ok := by
  apply h.invariant_of_reach
  · rintro s ⟨now, rfl⟩
    exact ok_construct env now
  · intro s a t hs hok hstep
    exact hok.step (Proxy.phases_of_reach (proxy_reach_of_blocking hs)) hstep

end BlockingProxy

/-! ## While the threads are to run -/

namespace WaitPhase

/-- The steps a thread has before it sleeps or is behind its wait. -/
def stepsToRest (pred : Bool) : WaitPhase → Nat
  | .starting => if pred then 3 else 4
  | .head | .waking => if pred then 2 else 3
  | .testing => if pred then 1 else 2
  | .blocking => 1
  | .asleep | .checking => 0

theorem stepsToRest_le (pred : Bool) (phase : WaitPhase) : phase.stepsToRest pred ≤ 4 := by
  cases phase <;> cases pred <;> simp [stepsToRest]

theorem advance_running {pred : Bool} {phase next : WaitPhase}
    (h : phase.advance pred true = some next) :
    next.stepsToRest pred < phase.stepsToRest pred := by
  cases phase <;> cases pred <;> simp_all [advance, stepsToRest] <;> simp [← h]

theorem stuck_running {pred : Bool} {phase : WaitPhase} (h : phase.advance pred true = none) :
    phase = .asleep ∨ phase = .checking := by
  cases phase <;> simp_all [advance]

end WaitPhase

namespace BlockingProxy

variable {env : Env} {s : BlockingProxy}

/-- `handlePendingWrites` on its own: it gets to its write exactly if there is something to write. -/
theorem pending_ends (h : s.Ok) (hphases : s.proxy.Phases) (hrun : s.proxy.mThreadsRun = true)
    (hpc : s.proxy.pendingWritesThread = .waiting) :
    (blockingProxy env).EndsIn (· = .pendingAdvance) (s.pendingWait.stepsToRest s.pendingPred)
      (fun t => t.proxy = s.proxy ∧ t.pendingWait =
        if s.proxy.mPendingWriteEventsQueue.isEmpty then .asleep else .checking) s := by
  apply Machine.endsIn_of_rank (I := fun t : BlockingProxy => t.Ok ∧ t.proxy = s.proxy)
    (r := fun t : BlockingProxy => t.pendingWait.stepsToRest t.pendingPred)
  · rintro t a u ⟨hok, hproxy⟩ rfl hstep
    have hstep : t.step env .pendingAdvance = some u := hstep
    cases step_cases hstep with
    | pendingAdvance hwaiting hnext =>
        refine ⟨⟨hok.step (hproxy ▸ hphases) hstep, hproxy⟩, ?_⟩
        rw [hproxy, hrun] at hnext
        exact WaitPhase.advance_running hnext
  · rintro t ⟨hok, hproxy⟩ hstuck
    refine ⟨hproxy, ?_⟩
    have hnone : t.pendingWait.advance t.pendingPred true = none := by
      by_contra hsome
      obtain ⟨next, hnext⟩ := Option.ne_none_iff_exists'.mp hsome
      have hgoes : t.step env .pendingAdvance = some { t with pendingWait := next } := by
        simp [step, hproxy, hpc, hrun, hnext]
      exact absurd (hgoes.symm.trans (hstuck _ rfl)) nofun
    rw [← hproxy] at hrun hpc ⊢
    rcases WaitPhase.stuck_running hnone with hasleep | hchecking
    · rw [hasleep, (hok.pending (Or.inr hasleep)).1]
      rfl
    · have hne := hok.pendingChecked hchecking hpc hrun
      rw [hchecking, if_neg (by simpa using hne)]
  · exact ⟨h, rfl⟩

/-- And `handleWakelocks`: it looks at the wake lock exactly if a reference is held. -/
theorem wakelock_ends (h : s.Ok) (hphases : s.proxy.Phases) (hrun : s.proxy.mThreadsRun = true)
    (hpc : s.proxy.wakelockThread = .waiting) :
    (blockingProxy env).EndsIn (· = .wakelockAdvance) (s.wakelockWait.stepsToRest s.wakelockPred)
      (fun t => t.proxy = s.proxy ∧ t.wakelockWait =
        if s.proxy.mWakelockRefCount = 0 then .asleep else .checking) s := by
  apply Machine.endsIn_of_rank (I := fun t : BlockingProxy => t.Ok ∧ t.proxy = s.proxy)
    (r := fun t : BlockingProxy => t.wakelockWait.stepsToRest t.wakelockPred)
  · rintro t a u ⟨hok, hproxy⟩ rfl hstep
    have hstep : t.step env .wakelockAdvance = some u := hstep
    cases step_cases hstep with
    | wakelockAdvance hwaiting hnext =>
        refine ⟨⟨hok.step (hproxy ▸ hphases) hstep, hproxy⟩, ?_⟩
        rw [hproxy, hrun] at hnext
        exact WaitPhase.advance_running hnext
  · rintro t ⟨hok, hproxy⟩ hstuck
    refine ⟨hproxy, ?_⟩
    have hnone : t.wakelockWait.advance t.wakelockPred true = none := by
      by_contra hsome
      obtain ⟨next, hnext⟩ := Option.ne_none_iff_exists'.mp hsome
      have hgoes : t.step env .wakelockAdvance = some { t with wakelockWait := next } := by
        simp [step, hproxy, hpc, hrun, hnext]
      exact absurd (hgoes.symm.trans (hstuck _ rfl)) nofun
    rw [← hproxy] at hrun hpc ⊢
    rcases WaitPhase.stuck_running hnone with hasleep | hchecking
    · rw [hasleep, if_pos (hok.wakelock (Or.inr hasleep)).1]
    · rw [hchecking, if_neg (hok.wakelockChecked hchecking hpc hrun)]
  · exact ⟨h, rfl⟩

end BlockingProxy

/-- No notification of a post or of a first reference is lost.  While the threads are to run, each of
them comes to rest within four steps of its own: behind its wait if there is work, asleep if there
is none. -/
theorem threads_wake_for_work {env : Env} {s : BlockingProxy} (h : (blockingProxy env).Reach s)
    (hrun : s.proxy.mThreadsRun = true) :
    (s.proxy.pendingWritesThread = .waiting → (blockingProxy env).EndsIn (· = .pendingAdvance) 4
      (fun t => t.proxy = s.proxy ∧ t.pendingWait =
        if s.proxy.mPendingWriteEventsQueue.isEmpty then .asleep else .checking) s) ∧
    (s.proxy.wakelockThread = .waiting → (blockingProxy env).EndsIn (· = .wakelockAdvance) 4
      (fun t => t.proxy = s.proxy ∧ t.wakelockWait =
        if s.proxy.mWakelockRefCount = 0 then .asleep else .checking) s) := by
  have hok := BlockingProxy.ok_of_reach h
  have hphases := Proxy.phases_of_reach (proxy_reach_of_blocking h)
  constructor
  · intro hpc
    apply (BlockingProxy.pending_ends hok hphases hrun hpc).mono
    · exact WaitPhase.stepsToRest_le _ _
    · exact fun t ht => ht
  · intro hpc
    apply (BlockingProxy.wakelock_ends hok hphases hrun hpc).mono
    · exact WaitPhase.stepsToRest_le _ _
    · exact fun t ht => ht

/-- The first thread finds an event queued, the second no reference. -/
def secondEventQueued : List BlockingAct :=
  [.proxy .stopThreads, .notifyWakelock, .notifyPending, .proxy (.resetAfterJoin 1),
    .proxy (.clearQueues 1), .proxy .restartThreads, .pendingAdvance, .pendingAdvance,
    .pendingAdvance, .pendingAdvance, .wakelockAdvance, .wakelockAdvance,
    .proxy (.postEvents 0 [⟨10, 1, 1, 0, []⟩, ⟨20, 1, 1, 0, []⟩] none),
    .proxy (.postWaiting 0 true 2)]

theorem threads_wake_for_work_queued : ∃ s, (blockingProxy plainEnv).run (.construct plainEnv 0)
      secondEventQueued = some s ∧ s.pendingWait = .waking ∧
    (s.proxy.pendingWritesThread = .waiting →
      (blockingProxy plainEnv).EndsIn (· = .pendingAdvance) 4 (fun t => t.proxy = s.proxy ∧
        t.pendingWait =
          if s.proxy.mPendingWriteEventsQueue.isEmpty then .asleep else .checking) s) ∧
    (s.proxy.wakelockThread = .waiting →
      (blockingProxy plainEnv).EndsIn (· = .wakelockAdvance) 4 (fun t => t.proxy = s.proxy ∧
        t.wakelockWait = if s.proxy.mWakelockRefCount = 0 then .asleep else .checking) s) := by
  have hrun : ∃ s, (blockingProxy plainEnv).run (.construct plainEnv 0) secondEventQueued = some s ∧
      s.pendingWait = .waking ∧ s.proxy.mThreadsRun = true := ⟨_, rfl, rfl, rfl⟩
  obtain ⟨s, hs, hwaking, hrunning⟩ := hrun
  have hreach : (blockingProxy plainEnv).Reach s := .of_run (.start ⟨0, rfl⟩) hs
  exact ⟨s, hs, hwaking, threads_wake_for_work hreach hrunning⟩

/-! ## When they are to stop -/

namespace WaitPhase

/-- The steps a thread has before it has left the loop, or sleeps. -/
def stepsToEnd : WaitPhase → Nat
  | .waking => 4
  | .testing => 3
  | .starting | .checking => 2
  | .head | .blocking => 1
  | .asleep => 0

theorem stepsToEnd_le (phase : WaitPhase) : phase.stepsToEnd ≤ 4 := by
  cases phase <;> simp [stepsToEnd]

/-- Without `mThreadsRun` a thread that looks at the predicate again finds it true. -/
theorem advance_stopping {pred : Bool} {phase next : WaitPhase} (hpred : pred = true)
    (h : phase.advance pred false = some next) :
    next.stepsToEnd < phase.stepsToEnd ∧ (next.Misses ↔ phase.Misses) := by
  subst hpred
  cases phase <;> simp_all [advance, stepsToEnd, Misses] <;> simp [← h]

theorem stuck_stopping {pred : Bool} {phase : WaitPhase} (h : phase.advance pred false = none) :
    phase = .head ∨ phase.Misses := by
  cases phase <;> simp_all [advance, Misses]

end WaitPhase

/-- A blocking write can always fail. -/
theorem Proxy.exists_pendingFailed {s : Proxy} (h : s.queues.Ok) {num size n : Nat}
    (hpc : s.pendingWritesThread = .writing num size n) : ∃ t, s.pendingFailed = some t := by
  have hchunk := h.chunk
  have hthread : s.queues.thread = .writing num size n := hpc
  rw [Queues.Chunk, hthread] at hchunk
  obtain ⟨-, v, rest, hqueue, -⟩ := hchunk
  have hqueue : s.mPendingWriteEventsQueue = (v, num) :: rest := hqueue
  unfold pendingFailed
  rw [hpc, hqueue]
  exact ⟨_, (giveBackFailed_spec _ v num size).choose_spec⟩

/-- The steps of the two threads. -/
def BlockingAct.IsThread : BlockingAct → Prop
  | .pendingAdvance | .wakelockAdvance | .proxy .pendingTake | .proxy .pendingWritten |
    .proxy .pendingFailed | .proxy .pendingRelock | .proxy .pendingExit |
    .proxy (.wakelockCheck _ _) | .proxy .wakelockRead | .proxy .wakelockReadFails |
    .proxy .wakelockProcess | .proxy (.wakelockExit _) => True
  | _ => False

namespace BlockingProxy

/-- The steps `handlePendingWrites` has before it. -/
def pendingSteps (s : BlockingProxy) : Nat :=
  match s.proxy.pendingWritesThread with
  | .waiting => s.pendingWait.stepsToEnd
  | .writing _ _ _ => 3
  | .relocking _ _ => 2
  | .ended => 0

/-- And `handleWakelocks`. -/
def wakelockSteps (s : BlockingProxy) : Nat :=
  match s.proxy.wakelockThread with
  | .waiting => s.wakelockWait.stepsToEnd
  | .reading => 3
  | .processing _ => 2
  | .ended => 0

/-- `stopThreads` is at its joins. -/
structure Joining (s : BlockingProxy) : Prop where
  notified : s.stopThreads = .notified
  stopped : s.proxy.mThreadsRun = false

variable {env : Env} {s t : BlockingProxy}

theorem pendingPred_stopped (hstopped : s.proxy.mThreadsRun = false) : s.pendingPred = true := by
  simp [pendingPred, hstopped]

theorem wakelockPred_stopped (hstopped : s.proxy.mThreadsRun = false) : s.wakelockPred = true := by
  simp [wakelockPred, hstopped]

/-- A step of one of the threads brings it nearer to its end; nobody who sleeps is woken. -/
theorem thread_step {a : BlockingAct} (hok : s.Ok) (hjoining : s.Joining) (ha : a.IsThread)
    (hstep : s.step env a = some t) :
    t.Joining ∧ t.pendingSteps + t.wakelockSteps < s.pendingSteps + s.wakelockSteps ∧
      (t.pendingWait.Misses ↔ s.pendingWait.Misses) ∧
      (t.wakelockWait.Misses ↔ s.wakelockWait.Misses) := by
  obtain ⟨hnotified, hstopped⟩ := hjoining
  cases step_cases hstep with
  | pendingAdvance hpc hnext =>
      rw [hstopped] at hnext
      obtain ⟨hlower, hmisses⟩ := WaitPhase.advance_stopping (pendingPred_stopped hstopped) hnext
      refine ⟨⟨hnotified, hstopped⟩, ?_, hmisses, Iff.rfl⟩
      simp only [pendingSteps, wakelockSteps, hpc]
      omega
  | wakelockAdvance hpc hnext =>
      rw [hstopped] at hnext
      obtain ⟨hlower, hmisses⟩ := WaitPhase.advance_stopping (wakelockPred_stopped hstopped) hnext
      refine ⟨⟨hnotified, hstopped⟩, ?_, Iff.rfl, hmisses⟩
      simp only [pendingSteps, wakelockSteps, hpc]
      omega
  | pendingSpurious | wakelockSpurious | notifyWakelock | notifyPending => exact absurd ha id
  | @proxy a p hadmits hp =>
      cases Proxy.step_cases hp with
      | created | createdUnlocked | destroyed | postRefused | postStarted | posted | returned |
        received | acked | stopped | joined | cleared | restarted => exact absurd ha id
      | taken hpc hq hrun => exact absurd (hstopped.symm.trans hrun) nofun
      | timedOut hpc hrun | reads hpc hrun => exact absurd (hstopped.symm.trans hrun) nofun
      | wrote hpc hq hroom =>
          refine ⟨⟨hnotified, hstopped⟩, Nat.add_lt_add_right ?_ _, Iff.rfl, Iff.rfl⟩
          simp [pendingSteps, hpc]
      | failed hpc hq =>
          rw [Proxy.decrement_eq]
          refine ⟨⟨hnotified, hstopped⟩, Nat.add_lt_add_right ?_ _, Iff.rfl, Iff.rfl⟩
          simp [pendingSteps, hpc]
      | relocked hpc hq =>
          -- the thread was not asleep, as it was not in its wait
          have hawake : ¬ s.pendingWait.Misses := by
            intro hmisses
            exact absurd (hpc.symm.trans (hok.pending hmisses).2) nofun
          refine ⟨⟨hnotified, hstopped⟩, Nat.add_lt_add_right ?_ _, ?_, Iff.rfl⟩
          · simp [pendingSteps, hpc, pendingWaitAfter, WaitPhase.stepsToEnd]
          · exact iff_of_false (fun hmisses => absurd rfl hmisses.ne.2.1) hawake
      | ended hpc hrun =>
          have hhead : s.pendingWait = .head := hadmits
          refine ⟨⟨hnotified, hstopped⟩, Nat.add_lt_add_right ?_ _, Iff.rfl, Iff.rfl⟩
          simp [pendingSteps, hpc, hhead, WaitPhase.stepsToEnd]
      | ackRead hpc =>
          refine ⟨⟨hnotified, hstopped⟩, Nat.add_lt_add_left ?_ _, Iff.rfl, Iff.rfl⟩
          simp [wakelockSteps, hpc]
      | ackNotRead hpc =>
          have hawake : ¬ s.wakelockWait.Misses := by
            intro hmisses
            exact absurd (hpc.symm.trans (hok.wakelock hmisses).2) nofun
          refine ⟨⟨hnotified, hstopped⟩, Nat.add_lt_add_left ?_ _, Iff.rfl, ?_⟩
          · simp [wakelockSteps, hpc, wakelockWaitAfter, WaitPhase.stepsToEnd]
          · exact iff_of_false (fun hmisses => absurd rfl hmisses.ne.2.1) hawake
      | ackProcessed hpc =>
          have hawake : ¬ s.wakelockWait.Misses := by
            intro hmisses
            exact absurd (hpc.symm.trans (hok.wakelock hmisses).2) nofun
          rw [Proxy.decrement_eq]
          refine ⟨⟨hnotified, hstopped⟩, Nat.add_lt_add_left ?_ _, Iff.rfl, ?_⟩
          · simp [wakelockSteps, hpc, wakelockWaitAfter, WaitPhase.stepsToEnd]
          · exact iff_of_false (fun hmisses => absurd rfl hmisses.ne.2.1) hawake
      | wakelocksEnded hpc hrun =>
          have hhead : s.wakelockWait = .head := hadmits
          unfold Proxy.resetSharedWakelock
          rw [Proxy.decrement_eq]
          refine ⟨⟨hnotified, hstopped⟩, Nat.add_lt_add_left ?_ _, Iff.rfl, Iff.rfl⟩
          simp [wakelockSteps, hpc, hhead, WaitPhase.stepsToEnd]

/-- A thread without a next step has ended, or sleeps for good. -/
theorem pending_stuck (hq : s.proxy.queues.Ok) (hjoining : s.Joining)
    (hstuck : ∀ a : BlockingAct, a.IsThread → s.step env a = none) :
    s.proxy.pendingWritesThread = .ended ∨ s.pendingWait.Misses := by
  have hstopped := hjoining.stopped
  have hchunk := hq.chunk
  cases hpc : s.proxy.pendingWritesThread with
  | ended => exact Or.inl rfl
  | waiting =>
      refine Or.inr ?_
      have hnone : s.pendingWait.advance s.pendingPred false = none := by
        apply Option.eq_none_iff_forall_ne_some.mpr
        simpa [step, hpc, hstopped] using hstuck .pendingAdvance trivial
      refine (WaitPhase.stuck_stopping hnone).resolve_left fun hhead => ?_
      have := hstuck (.proxy .pendingExit) trivial
      simp [step, Admits, hhead, Proxy.step, Proxy.pendingExit, hpc, hstopped] at this
  | writing num size n =>
      obtain ⟨p, hp⟩ := Proxy.exists_pendingFailed hq hpc
      have := hstuck (.proxy .pendingFailed) trivial
      simp [step, Admits, RefCountFree, hstopped, Proxy.step, hp] at this
  | relocking size n =>
      have hthread : s.proxy.queues.thread = .relocking size n := hpc
      rw [Queues.Chunk, hthread] at hchunk
      obtain ⟨-, v, num, rest, hqueue, -⟩ := hchunk
      have hqueue : s.proxy.mPendingWriteEventsQueue = (v, num) :: rest := hqueue
      have := hstuck (.proxy .pendingRelock) trivial
      simp [step, Admits, Proxy.step, Proxy.pendingRelock, hpc, hqueue] at this

theorem wakelock_stuck (hjoining : s.Joining)
    (hstuck : ∀ a : BlockingAct, a.IsThread → s.step env a = none) :
    s.proxy.wakelockThread = .ended ∨ s.wakelockWait.Misses := by
  have hstopped := hjoining.stopped
  cases hpc : s.proxy.wakelockThread with
  | ended => exact Or.inl rfl
  | waiting =>
      refine Or.inr ?_
      have hnone : s.wakelockWait.advance s.wakelockPred false = none := by
        apply Option.eq_none_iff_forall_ne_some.mpr
        simpa [step, hpc, hstopped] using hstuck .wakelockAdvance trivial
      refine (WaitPhase.stuck_stopping hnone).resolve_left fun hhead => ?_
      have := hstuck (.proxy (.wakelockExit 0)) trivial
      simp [step, Admits, hhead, Proxy.step, Proxy.wakelockExit, hpc, hstopped] at this
  | reading =>
      have := hstuck (.proxy .wakelockReadFails) trivial
      simp [step, Admits, Proxy.step, Proxy.wakelockReadFails, hpc] at this
  | processing n =>
      have := hstuck (.proxy .wakelockProcess) trivial
      simp [step, Admits, Proxy.step, Proxy.wakelockProcess, hpc] at this

end BlockingProxy

/-- `stopThreads` clears `mThreadsRun` and notifies without the mutexes.  Once it has notified, the two
threads have eight steps at most, and where none is left both can be joined exactly if neither of
them was on its way to sleep at its notification and has not been woken since. -/
theorem stopThreads_returns_iff {env : Env} {s : BlockingProxy} (h : (blockingProxy env).Reach s)
    (hnotified : s.stopThreads = .notified) :
    (blockingProxy env).EndsIn BlockingAct.IsThread 8 (fun t =>
      (t.proxy.pendingWritesThread = .ended ∧ t.proxy.wakelockThread = .ended) ↔
        (¬ s.pendingWait.Misses ∧ ¬ s.wakelockWait.Misses)) s := by
  have hok := BlockingProxy.ok_of_reach h
  have hstopped : s.proxy.mThreadsRun = false := by
    apply (Proxy.phases_of_reach (proxy_reach_of_blocking h)).stopped
    rw [hok.stop (hnotified ▸ nofun)]
    nofun
  have hends : (blockingProxy env).EndsIn BlockingAct.IsThread (s.pendingSteps + s.wakelockSteps)
      (fun t => (t.proxy.pendingWritesThread = .ended ∧ t.proxy.wakelockThread = .ended) ↔
        (¬ s.pendingWait.Misses ∧ ¬ s.wakelockWait.Misses)) s := by
    apply Machine.endsIn_of_rank (I := fun t : BlockingProxy => (blockingProxy env).Reach t ∧
        t.Joining ∧ (t.pendingWait.Misses ↔ s.pendingWait.Misses) ∧
        (t.wakelockWait.Misses ↔ s.wakelockWait.Misses))
      (r := fun t : BlockingProxy => t.pendingSteps + t.wakelockSteps)
    · rintro t a u ⟨hreach, hjoining, hpending, hwakelock⟩ ha hstep
      obtain ⟨hstill, hlower, hsameP, hsameW⟩ :=
        BlockingProxy.thread_step (BlockingProxy.ok_of_reach hreach) hjoining ha hstep
      exact ⟨⟨.next hreach trivial hstep, hstill, hsameP.trans hpending, hsameW.trans hwakelock⟩,
        hlower⟩
    · rintro t ⟨hreach, hjoining, hpending, hwakelock⟩ hstuck
      have hokt := BlockingProxy.ok_of_reach hreach
      have hqueues := Proxy.queues_ok (proxy_reach_of_blocking hreach)
      rw [← hpending, ← hwakelock]
      constructor
      · rintro ⟨hp, hw⟩
        exact ⟨fun hmisses => absurd (hp.symm.trans (hokt.pending hmisses).2) nofun,
          fun hmisses => absurd (hw.symm.trans (hokt.wakelock hmisses).2) nofun⟩
      · rintro ⟨hp, hw⟩
        exact ⟨(BlockingProxy.pending_stuck hqueues hjoining hstuck).resolve_right hp,
          (BlockingProxy.wakelock_stuck hjoining hstuck).resolve_right hw⟩
    · exact ⟨h, ⟨hnotified, hstopped⟩, Iff.rfl, Iff.rfl⟩
  apply hends.mono
  · have hp : s.pendingSteps ≤ 4 := by
      unfold BlockingProxy.pendingSteps
      have := s.pendingWait.stepsToEnd_le
      split <;> omega
    have hw : s.wakelockSteps ≤ 4 := by
      unfold BlockingProxy.wakelockSteps
      have := s.wakelockWait.stepsToEnd_le
      split <;> omega
    omega
  · exact fun t ht => ht

/-- A second `initialize` comes while `handlePendingWrites` has just found nothing to write: its
notification is lost, and the thread cannot be joined. -/
def notificationLost : List BlockingAct :=
  [.proxy .stopThreads, .notifyWakelock, .notifyPending, .proxy (.resetAfterJoin 1),
    .proxy (.clearQueues 1), .proxy .restartThreads, .pendingAdvance, .pendingAdvance,
    .pendingAdvance, .proxy .stopThreads, .notifyWakelock, .notifyPending]

theorem stopThreads_returns_iff_lost : ∃ s, (blockingProxy plainEnv).run (.construct plainEnv 0)
      notificationLost = some s ∧ s.pendingWait.Misses ∧
    (blockingProxy plainEnv).EndsIn BlockingAct.IsThread 8 (fun t =>
      (t.proxy.pendingWritesThread = .ended ∧ t.proxy.wakelockThread = .ended) ↔
        (¬ s.pendingWait.Misses ∧ ¬ s.wakelockWait.Misses)) s := by
  have hrun : ∃ s, (blockingProxy plainEnv).run (.construct plainEnv 0) notificationLost = some s ∧
      s.pendingWait = .blocking ∧ s.stopThreads = .notified := ⟨_, rfl, rfl, rfl⟩
  obtain ⟨s, hs, hblocking, hnotified⟩ := hrun
  have hreach : (blockingProxy plainEnv).Reach s := .of_run (.start ⟨0, rfl⟩) hs
  exact ⟨s, hs, Or.inl hblocking, stopThreads_returns_iff hreach hnotified⟩

end Smi240Hal.MultiHal
