/-
# Smi240Hal.MultiHal.WakelockReset — what an initialization does to the wake lock

`initializeCommon` resets the shared wake lock after it has stopped the threads, and so does
`handleWakelocks` when it ends.  Both go through `decrementRefCountAndMaybeReleaseWakelock`, which
does nothing once `mThreadsRun` is cleared, and `stopThreads` clears it first.  From there to the
restart only the calls that were past their test change the count and the lock.

`ResetOk` says when these leave the count 0 and the lock free, whatever happens before the restart.
That it is enough is an invariant; that nothing less is enough is a run, in which the threads finish
their calls, then the locked post does, and a call of `createScopedWakelock` last.
-/
import Smi240Hal.MultiHal.UnlockedTest
import Smi240Hal.MultiHal.WakelockCovered

namespace Smi240Hal.MultiHal

open Smi240Hal.Lib

/-! ## The steps of `proxy` -/

namespace Proxy

/-- `t` has the wake lock as `s` has it, and the threads are still told to stop. -/
structure SameWakelock (s t : Proxy) : Prop where
  stopped : t.mThreadsRun = false
  count : t.mWakelockRefCount = s.mWakelockRefCount
  held : t.wakeLockHeld = s.wakeLockHeld

theorem sameWakelock_step {env : Env} {s t : Proxy} {a : ProxyAct} (hstop : s.mThreadsRun = false)
    (ha : a ≠ .restartThreads) (h : s.step env a = some t) : SameWakelock s t := by
  have hsame : SameWakelock s s := ⟨hstop, rfl, rfl⟩
  -- what needs running threads is not enabled
  have hnever : ∀ {P : Prop}, s.mThreadsRun = true → P :=
    fun hrun => absurd (hstop.symm.trans hrun) (by decide)
  cases step_cases h with
  | created _ hrun => exact hnever hrun
  | createdUnlocked => exact hsame
  | destroyed =>
      rw [decrement_stopped]
      · exact { hsame with }
      · exact hstop
  | postRefused => exact { hsame with }
  | postStarted _ _ _ hrun => exact hnever hrun
  | @posted k p writeSucceeds now =>
      have hno : ¬ s.takesReferences p := fun htakes => hnever htakes.2
      exact ⟨hstop, if_neg hno, if_neg hno⟩
  | returned =>
      rw [decrement_stopped]
      · exact { hsame with }
      · exact hstop
  | taken _ _ hrun => exact hnever hrun
  | wrote => exact { hsame with }
  | failed =>
      rw [decrement_stopped]
      · exact { hsame with }
      · exact hstop
  | relocked => exact { hsame with }
  | ended => exact { hsame with }
  | timedOut _ hrun => exact hnever hrun
  | reads _ hrun => exact hnever hrun
  | ackRead => exact { hsame with }
  | ackNotRead => exact { hsame with }
  | ackProcessed =>
      rw [decrement_stopped hstop]
      exact { hsame with }
  | wakelocksEnded =>
      unfold resetSharedWakelock
      rw [decrement_stopped hstop]
      exact { hsame with }
  | received => exact { hsame with }
  | acked => exact { hsame with }
  | stopped => exact { hsame with stopped := rfl }
  | joined =>
      unfold resetSharedWakelock
      rw [decrement_stopped hstop]
      exact { hsame with }
  | cleared => exact { hsame with }
  | restarted => exact absurd rfl ha

/-- The same over several of them. -/
theorem sameWakelock_leads {env : Env} {s t : Proxy} (hstop : s.mThreadsRun = false)
    (h : (proxy env).Leads (· ≠ .restartThreads) s t) : SameWakelock s t := by
  refine h.invariant (I := SameWakelock s) ?_ ⟨hstop, rfl, rfl⟩
  intro u a v hu ha hstep
  have hv := sameWakelock_step hu.stopped ha hstep
  exact ⟨hv.stopped, hv.count.trans hu.count, hv.held.trans hu.held⟩

/-! ### The threads end -/

/-- `initializeCommon` waits for its threads. -/
structure Joining (s : Proxy) : Prop where
  phases : s.Phases
  queues : s.queues.Ok
  joining : s.initializing = .joining

section Joining

variable {env : Env} {s t : Proxy}

theorem Joining.stopped (hj : s.Joining) : s.mThreadsRun = false :=
  hj.phases.stopped (by rw [hj.joining]; nofun)

theorem Joining.step (hj : s.Joining) {a : ProxyAct} (ha : ∀ now, a ≠ .resetAfterJoin now)
    (h : s.step env a = some t) : t.Joining where
  phases := phases_step hj.phases h
  queues := by
    rcases queues_step hj.phases h with heq | hq
    · exact heq ▸ hj.queues
    · exact Queues.ok_step hj.queues hq
  joining := by
    have hjoining := hj.joining
    cases step_cases h with
    | created | createdUnlocked | postRefused | postStarted | posted | taken | wrote | relocked |
      ended | reads | ackRead | ackNotRead | received | acked => exact hjoining
    | destroyed | returned | failed | ackProcessed =>
        rw [decrement_eq]
        exact hjoining
    | timedOut | wakelocksEnded =>
        unfold resetSharedWakelock
        rw [decrement_eq]
        exact hjoining
    | stopped hi | cleared hi | restarted hi => exact absurd (hi.symm.trans hjoining) nofun
    | joined => exact absurd rfl (ha _)

/-- The chunk in hand is there. -/
theorem Joining.front (hj : s.Joining) (hpc : ∀ pc, s.pendingWritesThread = pc →
    pc ≠ .waiting ∧ pc ≠ .ended) :
    ∃ v num rest, s.mPendingWriteEventsQueue = (v, num) :: rest := by
  have hchunk := hj.queues.chunk
  unfold Queues.Chunk at hchunk
  split at hchunk
  case h_1 =>
    obtain ⟨_, v, rest, hq, _⟩ := hchunk
    exact ⟨v, _, rest, hq⟩
  case h_2 =>
    obtain ⟨_, v, num, rest, hq, _⟩ := hchunk
    exact ⟨v, num, rest, hq⟩
  case h_3 hwriting hrelocking =>
    obtain ⟨hwaiting, hended⟩ := hpc _ rfl
    cases hthread : s.pendingWritesThread with
    | waiting => exact absurd hthread hwaiting
    | writing num size n => exact absurd hthread (hwriting num size n)
    | relocking size n => exact absurd hthread (hrelocking size n)
    | ended => exact absurd hthread hended

/-- `t` is a state between `s` and the joins. -/
def LeadsTo (env : Env) (s t : Proxy) : Prop :=
  (proxy env).Leads (· ≠ .restartThreads) s t ∧ t.Joining

theorem LeadsTo.step {u : Proxy} (h : LeadsTo env s t) {a : ProxyAct}
    (ha : ∀ now, a ≠ .resetAfterJoin now) (ha' : a ≠ .restartThreads)
    (hstep : t.step env a = some u) : LeadsTo env s u :=
  ⟨h.1.trans (.step ha' hstep), h.2.step ha hstep⟩

/-- From its loop `handlePendingWrites` ends at once. -/
theorem pending_ends_waiting (h : LeadsTo env s t) (hpc : t.pendingWritesThread = .waiting) :
    ∃ u, LeadsTo env s u ∧ u.pendingWritesThread = .ended :=
  ⟨_, h.step (a := .pendingExit) nofun nofun (if_pos ⟨hpc, h.2.stopped⟩), rfl⟩

theorem pending_ends_relocking (h : LeadsTo env s t) {size n : Nat}
    (hpc : t.pendingWritesThread = .relocking size n) :
    ∃ u, LeadsTo env s u ∧ u.pendingWritesThread = .ended := by
  obtain ⟨v, num, rest, hq⟩ := h.2.front (by rintro pc rfl; rw [hpc]; exact ⟨nofun, nofun⟩)
  have hsome : t.pendingRelock.isSome = true := by
    unfold pendingRelock
    rw [hpc, hq]
    rfl
  obtain ⟨u, hu⟩ := Option.isSome_iff_exists.mp hsome
  have hlead := h.step (a := .pendingRelock) nofun nofun hu
  have hcases : Step env t .pendingRelock u := pendingRelock_cases hu
  cases hcases
  exact pending_ends_waiting hlead rfl

theorem pending_ends_writing (h : LeadsTo env s t) {num size n : Nat}
    (hpc : t.pendingWritesThread = .writing num size n) :
    ∃ u, LeadsTo env s u ∧ u.pendingWritesThread = .ended := by
  obtain ⟨v, num', rest, hq⟩ := h.2.front (by rintro pc rfl; rw [hpc]; exact ⟨nofun, nofun⟩)
  have hsome : t.pendingFailed.isSome = true := by
    unfold pendingFailed
    rw [hpc, hq]
    dsimp only
    obtain ⟨hs, hgive⟩ := giveBackFailed_spec _ v num size
    rw [hgive]
    rfl
  obtain ⟨u, hu⟩ := Option.isSome_iff_exists.mp hsome
  have hlead := h.step (a := .pendingFailed) nofun nofun hu
  have hcases : Step env t .pendingFailed u := pendingFailed_cases hu
  cases hcases
  rw [decrement_eq] at hlead
  exact pending_ends_relocking hlead rfl

theorem pending_ends (h : LeadsTo env s t) :
    ∃ u, LeadsTo env s u ∧ u.pendingWritesThread = .ended := by
  cases hpc : t.pendingWritesThread with
  | waiting => exact pending_ends_waiting h hpc
  | writing num size n => exact pending_ends_writing h hpc
  | relocking size n => exact pending_ends_relocking h hpc
  | ended => exact ⟨t, h, hpc⟩

theorem wakelock_ends_waiting (h : LeadsTo env s t) (hpending : t.pendingWritesThread = .ended)
    (hpc : t.wakelockThread = .waiting) : ∃ u, LeadsTo env s u ∧
      u.pendingWritesThread = .ended ∧ u.wakelockThread = .ended := by
  have hstep : t.step env (.wakelockExit 0) = some _ := if_pos ⟨hpc, h.2.stopped⟩
  refine ⟨_, h.step (a := .wakelockExit 0) nofun nofun hstep, ?_, rfl⟩
  unfold resetSharedWakelock
  rw [decrement_eq]
  exact hpending

theorem wakelock_ends (h : LeadsTo env s t) (hpending : t.pendingWritesThread = .ended) :
    ∃ u, LeadsTo env s u ∧ u.pendingWritesThread = .ended ∧ u.wakelockThread = .ended := by
  cases hpc : t.wakelockThread with
  | waiting => exact wakelock_ends_waiting h hpending hpc
  | reading =>
      have hstep : t.step env .wakelockReadFails = some _ := if_pos hpc
      exact wakelock_ends_waiting (h.step (a := .wakelockReadFails) nofun nofun hstep) hpending rfl
  | processing n =>
      have hsome : t.wakelockProcess.isSome = true := by
        unfold wakelockProcess
        rw [hpc]
        rfl
      obtain ⟨u, hu⟩ := Option.isSome_iff_exists.mp hsome
      have hlead := h.step (a := .wakelockProcess) nofun nofun hu
      have hcases : Step env t .wakelockProcess u := wakelockProcess_cases hu
      cases hcases
      rw [decrement_eq] at hlead
      exact wakelock_ends_waiting hlead hpending rfl
  | ended => exact ⟨t, h, hpending, hpc⟩

theorem step_clearQueues (env : Env) (hi : s.initializing = .wakelockReset) :
    ∃ t, s.step env (.clearQueues 0) = some t ∧ t.initializing = .cleared :=
  ⟨_, if_pos hi, rfl⟩

/-- Both threads end, and `initializeCommon` gets to the restart. -/
theorem leads_cleared (env : Env) (hj : s.Joining) :
    ∃ t, (proxy env).Leads (· ≠ .restartThreads) s t ∧ t.initializing = .cleared := by
  have hstart : LeadsTo env s s := ⟨.refl s, hj⟩
  obtain ⟨t, ht, hpending⟩ := pending_ends hstart
  obtain ⟨u, hu, hpending, hwakelock⟩ := wakelock_ends ht hpending
  have hjoin : u.step env (.resetAfterJoin 0) = some _ :=
    if_pos ⟨hu.2.joining, hpending, hwakelock⟩
  obtain ⟨v, hclear, hi⟩ := step_clearQueues env
    (s := { u.resetSharedWakelock 0 with initializing := .wakelockReset }) rfl
  have hlead := hu.1.trans (.step (a := .resetAfterJoin 0) nofun hjoin)
  exact ⟨v, hlead.trans (.step (a := .clearQueues 0) nofun hclear), hi⟩

end Joining

/-! ### A decrement past its test -/

theorem refAfter_now (s : Proxy) (delta : Nat) :
    s.running.refAfter delta (-1) = s.mWakelockRefCount - delta := by
  unfold refAfter
  by_cases hzero : s.mWakelockRefCount = 0
  · rw [if_neg fun h => h.2.1 hzero]
    show s.mWakelockRefCount = s.mWakelockRefCount - delta
    omega
  · rw [if_pos ⟨rfl, hzero, isStale_now s⟩]
    rfl

/-- The last reference releases the lock. -/
theorem free_decrement {s : Proxy} (hs : s.mWakelockRefCount = 0 → s.wakeLockHeld = false)
    (delta : Nat) (timeoutStart : Int) :
    s.refAfter delta timeoutStart = 0 → s.heldAfter delta timeoutStart = false := by
  unfold refAfter heldAfter
  intro hzero
  by_cases hcounts : s.counts timeoutStart
  · rw [if_pos hcounts] at hzero
    exact if_pos ⟨hcounts, Nat.sub_eq_zero_iff_le.mp hzero⟩
  · rw [if_neg hcounts] at hzero
    rw [if_neg fun h => hcounts h.1]
    exact hs hzero

theorem decrementLocked_now (s : Proxy) (delta : Nat) :
    (s.decrementLocked delta (-1)).mWakelockRefCount = s.mWakelockRefCount - delta := by
  rw [decrementLocked_eq]
  exact refAfter_now s delta

theorem decrementLocked_zero {s : Proxy} (hzero : s.mWakelockRefCount = 0) (delta : Nat)
    (timeoutStart : Int) :
    (s.decrementLocked delta timeoutStart).wakeLockHeld = s.wakeLockHeld := by
  unfold decrementLocked
  rw [if_pos (Or.inl hzero)]

theorem decrementLocked_initializing (s : Proxy) (delta : Nat) (timeoutStart : Int) :
    (s.decrementLocked delta timeoutStart).initializing = s.initializing := by
  rw [decrementLocked_eq]

end Proxy

/-! ## The calls past their test -/

namespace TestedProxy

/-- The references that `handleWakelocks` is past the test of giving back. -/
def wakelocksForced (f : TestedProxy) : Nat :=
  match f.wakelocks with
  | some .processing => f.proxy.wakelockThread.inHand
  | some .resetting => f.proxy.mWakelockRefCount
  | _ => 0

/-- The references that the two threads will give back before they end. -/
def forced (f : TestedProxy) : Nat := f.givingBack.getD 0 + f.wakelocksForced

/-- No call that takes a reference is past its test, and the threads are past the test of giving back
every reference there is; without references the lock is free. -/
structure ResetOk (f : TestedProxy) : Prop where
  creating : f.creating = 0
  posting : f.posting = none
  refs : f.proxy.mWakelockRefCount ≤ f.forced
  free : f.proxy.mWakelockRefCount = 0 → f.proxy.wakeLockHeld = false

variable {env : Env} {f g : TestedProxy}

/-! ### It is enough -/

theorem wakelocksForced_proxy (hok : f.Ok env) {a : ProxyAct} {t : Proxy} (hadmits : f.Admits a)
    (hstep : f.proxy.step env a = some t)
    (hcount : t.mWakelockRefCount = f.proxy.mWakelockRefCount) :
    { f with proxy := t }.wakelocksForced = f.wakelocksForced := by
  unfold wakelocksForced
  dsimp only
  split
  case h_1 hw => rw [hok.wakelockThread_proxy hadmits hstep hw]
  case h_2 => exact hcount
  case h_3 => rfl

theorem resetOk_step (hok : f.Ok env) (hstop : f.proxy.mThreadsRun = false) (h : f.ResetOk)
    {a : TestedAct} (ha : a ≠ .proxy .restartThreads) (hstep : f.step env a = some g) :
    g.proxy.mThreadsRun = false ∧ g.ResetOk := by
  have hnever : ∀ {P : Prop}, f.proxy.mThreadsRun = true → P :=
    fun hrun => absurd (hstop.symm.trans hrun) (by decide)
  have hfree := Proxy.free_decrement (s := f.proxy.running) h.free
  cases step_cases hstep with
  | @proxy a t hadmits ht =>
      have hsame := Proxy.sameWakelock_step hstop (by rintro rfl; exact ha rfl) ht
      refine ⟨hsame.stopped, { h with refs := ?_, free := ?_ }⟩
      · unfold forced
        rw [wakelocksForced_proxy hok hadmits ht hsame.count]
        exact hsame.count ▸ h.refs
      · intro hzero
        exact hsame.held.trans (h.free (hsame.count.symm.trans hzero))
  | passCreate _ hrun | passDestroy hrun | passReturn hrun | passPost _ hrun => exact hnever hrun
  | passFailed _ _ _ hrun | passProcess _ _ hrun | timeout _ _ hrun => exact hnever hrun
  | passReset _ hrun => exact hnever hrun
  | create hpos => exact absurd h.creating (Nat.ne_of_gt hpos)
  | post _ hp => exact absurd (hp.symm.trans h.posting) nofun
  | @destroy k createdAt hnone hk =>
      have hrefs := h.refs
      have hle := Proxy.refAfter_le f.proxy.running 1 createdAt
      unfold forced wakelocksForced at hrefs
      rw [hnone] at hrefs
      rw [Proxy.decrementLocked_eq]
      refine ⟨hstop, { h with refs := ?_, free := hfree 1 createdAt }⟩
      unfold forced wakelocksForced
      dsimp only
      rw [hnone]
      exact Nat.le_trans hle hrefs
  | @giveBack delta v num num' size n rest hnone hgive hpc hq =>
      have hrefs := h.refs
      unfold forced wakelocksForced at hrefs
      rw [hnone, hgive] at hrefs
      rw [Proxy.decrementLocked_eq]
      refine ⟨hstop, { h with refs := ?_, free := hfree delta (-1) }⟩
      unfold forced wakelocksForced
      dsimp only
      rw [hnone]
      show f.proxy.running.refAfter delta (-1) ≤ 0
      rw [Proxy.refAfter_now]
      exact Nat.le_of_eq (Nat.sub_eq_zero_of_le hrefs)
  | @process n hw hpc =>
      have hrefs := h.refs
      unfold forced wakelocksForced at hrefs
      rw [hw] at hrefs
      dsimp only at hrefs
      rw [hpc] at hrefs
      rw [Proxy.decrementLocked_eq]
      refine ⟨hstop, { h with refs := ?_, free := hfree n (-1) }⟩
      show f.proxy.running.refAfter n (-1) ≤ f.givingBack.getD 0
      rw [Proxy.refAfter_now]
      exact Nat.sub_le_iff_le_add.mpr hrefs
  | reset hw =>
      rw [Proxy.decrementLocked_eq]
      refine ⟨hstop, { h with refs := ?_, free := hfree _ (-1) }⟩
      show f.proxy.running.refAfter f.proxy.mWakelockRefCount (-1) ≤ _
      rw [Proxy.refAfter_now, Nat.sub_self]
      exact Nat.zero_le _
  | skipReset hw =>
      have hrefs := h.refs
      unfold forced wakelocksForced at hrefs
      rw [hw] at hrefs
      exact ⟨hstop, { h with refs := hrefs }⟩

/-- With the threads gone there is nobody left to give anything back. -/
theorem forced_ended (hok : f.Ok env) (hi : f.proxy.initializing = .cleared) : f.forced = 0 := by
  obtain ⟨hpending, hwakelock⟩ := hok.phases.joined (Or.inr hi)
  have hgive : f.givingBack = none := by
    by_contra hsome
    obtain ⟨delta, hgive⟩ := Option.ne_none_iff_exists'.mp hsome
    obtain ⟨_, _, _, _, _, _, hpc, _⟩ := hok.givingBack delta hgive
    exact absurd (hpending.symm.trans hpc) nofun
  have hnone : f.wakelocks = none := by
    by_contra hsome
    obtain ⟨w, hw⟩ := Option.ne_none_iff_exists'.mp hsome
    have hat := hok.wakelocks w hw
    rw [hwakelock] at hat
    cases w <;> exact hat
  unfold forced wakelocksForced
  rw [hgive, hnone]
  rfl

/-- Whatever happens between the call of `initialize` and the restart. -/
theorem free_of_resetOk (hok : f.Ok env) (hstop : f.proxy.mThreadsRun = false) (h : f.ResetOk)
    (hlead : (testedProxy env).Leads (· ≠ .proxy .restartThreads) f g)
    (hi : g.proxy.initializing = .cleared) :
    g.proxy.mWakelockRefCount = 0 ∧ g.proxy.wakeLockHeld = false := by
  have hend : g.Ok env ∧ g.proxy.mThreadsRun = false ∧ g.ResetOk := by
    refine hlead.invariant
      (I := fun g => g.Ok env ∧ g.proxy.mThreadsRun = false ∧ g.ResetOk) ?_ ⟨hok, hstop, h⟩
    rintro f a g ⟨hok, hstop, h⟩ ha hstep
    exact ⟨ok_step hok hstep, resetOk_step hok hstop h ha hstep⟩
  obtain ⟨hok, _, hreset⟩ := hend
  have hrefs := hreset.refs
  rw [forced_ended hok hi] at hrefs
  have hzero := Nat.le_zero.mp hrefs
  exact ⟨hzero, hreset.free hzero⟩

/-! ### Nothing less is enough -/

/-- `g` comes after `f`, before the restart and with the same calls of `createScopedWakelock`. -/
structure Finishes (env : Env) (f g : TestedProxy) : Prop where
  leads : (testedProxy env).Leads (· ≠ .proxy .restartThreads) f g
  joining : g.proxy.initializing = .joining
  creating : g.creating = f.creating

theorem Finishes.ok (h : Finishes env f g) (hok : f.Ok env) : g.Ok env :=
  h.leads.invariant (I := Ok env) (fun _ _ _ hok _ => ok_step hok) hok

theorem Finishes.step (hi : f.proxy.initializing = .joining) {a : TestedAct}
    (ha : a ≠ .proxy .restartThreads) (hstep : f.step env a = some g)
    (hi' : g.proxy.initializing = f.proxy.initializing) (hcreating : g.creating = f.creating) :
    Finishes env f g :=
  ⟨.step ha hstep, hi'.trans hi, hcreating⟩

theorem Finishes.trans {u : TestedProxy} (h : Finishes env f g) (h' : Finishes env g u) :
    Finishes env f u :=
  ⟨h.leads.trans h'.leads, h'.joining, h'.creating.trans h.creating⟩

/-- `handleWakelocks` finishes its critical section. -/
theorem wakelocks_finish (hok : f.Ok env) (hi : f.proxy.initializing = .joining) :
    ∃ g, Finishes env f g ∧ g.wakelocks = none ∧ g.posting = f.posting ∧
      g.givingBack = f.givingBack ∧
      g.proxy.mWakelockRefCount = f.proxy.mWakelockRefCount - f.wakelocksForced ∧
      (f.proxy.mWakelockRefCount = 0 → g.proxy.wakeLockHeld = f.proxy.wakeLockHeld) := by
  have hstop : f.proxy.mThreadsRun = false := hok.phases.stopped (by rw [hi]; nofun)
  unfold wakelocksForced
  cases hw : f.wakelocks with
  | none => exact ⟨f, ⟨.refl f, hi, rfl⟩, hw, rfl, rfl, rfl, fun _ => rfl⟩
  | some w =>
      cases w with
      | timedOut =>
          refine ⟨{ f with
            proxy := { f.proxy with mWakelockTimeoutResetTime := 0 }
            wakelocks := none }, ?_, rfl, rfl, rfl, rfl, fun _ => rfl⟩
          exact .step (a := .skipReset 0) hi nofun (if_pos ⟨hw, hstop⟩) rfl rfl
      | resetting =>
          refine ⟨{ f with
            proxy := { f.proxy.decrementLocked f.proxy.mWakelockRefCount (-1) with
              mWakelockTimeoutResetTime := 0 }
            wakelocks := none }, ?_, rfl, rfl, rfl, Proxy.decrementLocked_now _ _,
            fun hzero => Proxy.decrementLocked_zero hzero _ _⟩
          exact .step (a := .reset 0) hi nofun (if_pos hw) (Proxy.decrementLocked_initializing _ _ _)
            rfl
      | processing =>
          have hat := hok.wakelocks _ hw
          cases hpc : f.proxy.wakelockThread with
          | processing n =>
              refine ⟨{ f with
                proxy := { f.proxy.decrementLocked n (-1) with
                  wakelockThread := .waiting
                  session := { f.proxy.session with handled := f.proxy.session.handled + n } }
                wakelocks := none }, ?_, rfl, rfl, rfl, Proxy.decrementLocked_now _ _,
                fun hzero => Proxy.decrementLocked_zero hzero _ _⟩
              refine .step (a := .process) hi nofun ?_ (Proxy.decrementLocked_initializing _ _ _) rfl
              show f.process = _
              unfold process
              rw [hw, hpc]
          | waiting | reading | ended =>
              rw [hpc] at hat
              exact absurd hat id

/-- `handlePendingWrites` gives back what it was about to. -/
theorem givingBack_finish (hok : f.Ok env) (hi : f.proxy.initializing = .joining)
    (hfree : f.wakelocks = none) :
    ∃ g, Finishes env f g ∧ g.wakelocks = none ∧ g.posting = f.posting ∧ g.givingBack = none ∧
      g.proxy.mWakelockRefCount = f.proxy.mWakelockRefCount - f.givingBack.getD 0 ∧
      (f.proxy.mWakelockRefCount = 0 → g.proxy.wakeLockHeld = f.proxy.wakeLockHeld) := by
  cases hgive : f.givingBack with
  | none => exact ⟨f, ⟨.refl f, hi, rfl⟩, hfree, rfl, hgive, rfl, fun _ => rfl⟩
  | some delta =>
      obtain ⟨v, num, num', size, n, rest, hpc, hq, _⟩ := hok.givingBack delta hgive
      refine ⟨{ f with
        proxy := { f.proxy with
          session := { f.proxy.session with
            droppedFailed := f.proxy.session.droppedFailed ++ v.take n }
          pendingWritesThread := .relocking size n }.decrementLocked delta (-1)
        givingBack := none }, ?_, hfree, rfl, rfl, Proxy.decrementLocked_now _ _, fun hzero => ?_⟩
      · refine .step (a := .giveBack) hi nofun ?_ (Proxy.decrementLocked_initializing _ _ _) rfl
        show f.giveBack = _
        unfold giveBack
        rw [hgive, hpc, hq]
        exact if_pos hfree
      · dsimp only
        rw [Proxy.decrementLocked_zero]
        exact hzero

/-- The locked post finishes, and leaves a reference or the lock. -/
theorem posting_finish (env : Env) (hi : f.proxy.initializing = .joining) (hfree : f.wakelocks = none)
    (hgive : f.givingBack = none) :
    ∃ g, Finishes env f g ∧ g.MutexesFree ∧
      (f.posting = none ∧ g.proxy.mWakelockRefCount = f.proxy.mWakelockRefCount ∧
          g.proxy.wakeLockHeld = f.proxy.wakeLockHeld ∨
        (g.proxy.mWakelockRefCount = 0 → g.proxy.wakeLockHeld = true)) := by
  cases hp : f.posting with
  | none =>
      exact ⟨f, ⟨.refl f, hi, rfl⟩, ⟨hp, hgive, hfree⟩, Or.inl ⟨rfl, rfl, rfl⟩⟩
  | some p =>
      refine ⟨{ f with
        proxy := ({ f.proxy with
          returning := p.wakelock.toList ++ f.proxy.returning }.incrementLocked
            p.numWakeupEvents 0).wroteOrQueued p (f.proxy.numToWrite p.events true)
        posting := none }, ?_, ⟨rfl, hgive, hfree⟩, Or.inr fun hzero => ?_⟩
      · refine .step (a := .post true 0) hi nofun ?_ rfl rfl
        show f.post true 0 = _
        unfold post
        rw [if_pos hfree, hp]
        exact congrArg (fun s => some { f with proxy := s, posting := none })
          (Proxy.writeOrQueue_eq _ p true)
      · -- without a reference before it, the post has taken the lock
        have hcount : f.proxy.mWakelockRefCount = 0 := (Nat.add_eq_zero_iff.mp hzero).1
        show (f.proxy.wakeLockHeld || f.proxy.mWakelockRefCount == 0) = true
        rw [hcount]
        exact Bool.or_true _

/-- A run to the restart in which no call of `createScopedWakelock` finishes. -/
theorem exists_cleared (hok : f.Ok env) (hi : f.proxy.initializing = .joining) :
    ∃ g, (testedProxy env).Leads (· ≠ .proxy .restartThreads) f g ∧
      g.proxy.initializing = .cleared ∧ g.wakelocks = none ∧ g.creating = f.creating ∧
      (f.posting = none ∧
          g.proxy.mWakelockRefCount = f.proxy.mWakelockRefCount - f.forced ∧
          (f.proxy.mWakelockRefCount = 0 → g.proxy.wakeLockHeld = f.proxy.wakeLockHeld) ∨
        (g.proxy.mWakelockRefCount = 0 → g.proxy.wakeLockHeld = true)) := by
  obtain ⟨f₁, h₁, hfree₁, hposting₁, hgive₁, hcount₁, hheld₁⟩ := wakelocks_finish hok hi
  obtain ⟨f₂, h₂, hfree₂, hposting₂, hgive₂, hcount₂, hheld₂⟩ :=
    givingBack_finish (h₁.ok hok) h₁.joining hfree₁
  obtain ⟨f₃, h₃, hfree₃, hwakelock⟩ := posting_finish env h₂.joining hfree₂ hgive₂
  have h := (h₁.trans h₂).trans h₃
  have hok₃ := h.ok hok
  obtain ⟨t, ⟨as, has, hrun⟩, hcleared⟩ :=
    Proxy.leads_cleared env ⟨hok₃.phases, hok₃.queues, h.joining⟩
  have hsame := Proxy.sameWakelock_leads (hok₃.phases.stopped (by rw [h.joining]; nofun))
    ⟨as, has, hrun⟩
  refine ⟨{ f₃ with proxy := t }, h.leads.trans ⟨as.map .proxy, ?_, run_proxy hfree₃ hrun⟩,
    hcleared, hfree₃.wakelocks, h.creating, ?_⟩
  · intro a ha
    obtain ⟨b, hb, rfl⟩ := List.mem_map.mp ha
    intro heq
    exact has b hb (by injection heq)
  · show (_ ∧ t.mWakelockRefCount = _ ∧ (_ → t.wakeLockHeld = _)) ∨
      (t.mWakelockRefCount = 0 → t.wakeLockHeld = true)
    rw [hsame.count, hsame.held]
    rcases hwakelock with ⟨hnone, hcount₃, hheld₃⟩ | hheld₃
    · left
      refine ⟨hposting₁.symm.trans (hposting₂.symm.trans hnone), ?_, fun hzero => ?_⟩
      · rw [hcount₃, hcount₂, hcount₁, hgive₁]
        unfold forced
        omega
      · have hzero₁ : f₁.proxy.mWakelockRefCount = 0 := by rw [hcount₁, hzero, Nat.zero_sub]
        rw [hheld₃, hheld₂ hzero₁, hheld₁ hzero]
    · exact Or.inr hheld₃

theorem resetOk_stopThreads {s : TestedProxy} (hcall : s.step env (.proxy .stopThreads) = some f) :
    f.proxy.initializing = .joining ∧ f.proxy.mThreadsRun = false ∧ (f.ResetOk ↔ s.ResetOk) := by
  cases step_cases hcall with
  | proxy hadmits ht =>
      cases Proxy.step_cases ht
      exact ⟨rfl, rfl, fun h => { h with }, fun h => { h with }⟩

/-- The restart changes neither the count nor the lock. -/
theorem step_restartThreads {t v : TestedProxy}
    (h : t.step env (.proxy .restartThreads) = some v) : t.proxy.initializing = .cleared ∧
      v.proxy.mWakelockRefCount = t.proxy.mWakelockRefCount ∧
      v.proxy.wakeLockHeld = t.proxy.wakeLockHeld := by
  cases step_cases h with
  | proxy hadmits ht =>
      cases Proxy.step_cases ht with
      | restarted hi => exact ⟨hi, rfl, rfl⟩

theorem restart_enabled (env : Env) {t : TestedProxy} (hi : t.proxy.initializing = .cleared) :
    ∃ v, t.step env (.proxy .restartThreads) = some v ∧
      v.proxy.mWakelockRefCount = t.proxy.mWakelockRefCount ∧
      v.proxy.wakeLockHeld = t.proxy.wakeLockHeld := by
  have hstep : t.proxy.step env .restartThreads = some { t.proxy with
      mThreadsRun := true
      pendingWritesThread := .waiting
      wakelockThread := .waiting
      callbackSet := true
      initializing := .notRunning } := if_pos hi
  exact ⟨_, step_admitted trivial hstep, rfl, rfl⟩

/-- Every way to the restart leaves no reference only if the condition is met. -/
theorem resetOk_of_free (hok : f.Ok env) (hi : f.proxy.initializing = .joining)
    (h : ∀ t, (testedProxy env).Leads (· ≠ .proxy .restartThreads) f t →
      t.proxy.initializing = .cleared →
        t.proxy.mWakelockRefCount = 0 ∧ t.proxy.wakeLockHeld = false) : f.ResetOk := by
  obtain ⟨g, hlead, hcleared, hfree, hcreating, hwakelock⟩ := exists_cleared hok hi
  obtain ⟨hzero, hheld⟩ := h g hlead hcleared
  have hnone : f.creating = 0 := by
    by_contra hne
    have hpos : 0 < g.creating := by
      rw [hcreating]
      exact Nat.pos_of_ne_zero hne
    have hstep : g.step env (.create 0) = some { g with
        proxy := { g.proxy.incrementLocked 1 0 with live := 0 :: g.proxy.live }
        creating := g.creating - 1 } := if_pos ⟨hpos, hfree⟩
    have hone := (h _ (hlead.trans (.step (a := .create 0) nofun hstep)) hcleared).1
    exact absurd hone (Nat.succ_ne_zero _)
  rcases hwakelock with ⟨hposting, hcount, hsame⟩ | hlock
  · rw [hzero] at hcount
    exact ⟨hnone, hposting, Nat.sub_eq_zero_iff_le.mp hcount.symm,
      fun hz => (hsame hz).symm.trans hheld⟩
  · exact absurd (hheld.symm.trans (hlock hzero)) (by decide)

end TestedProxy

/-- From any reachable state in which `initialize` is called: over every interleaving with the
threads, the sub-HALs and the framework, and wherever calls stop between their test and their update,
`initializeCommon` restarts its threads with the count 0 and the lock free, exactly if `ResetOk`
holds at the call. -/
theorem reset_effective_iff {env : Env} {s u : TestedProxy} (hs : (testedProxy env).Reach s)
    (hcall : s.step env (.proxy .stopThreads) = some u) :
    (∀ t v, (testedProxy env).Leads (· ≠ .proxy .restartThreads) u t →
      t.step env (.proxy .restartThreads) = some v →
        v.proxy.mWakelockRefCount = 0 ∧ v.proxy.wakeLockHeld = false) ↔ s.ResetOk := by
  have hok := TestedProxy.ok_of_reach (hs.next (a := .proxy .stopThreads) trivial hcall)
  obtain ⟨hi, hstop, hiff⟩ := TestedProxy.resetOk_stopThreads hcall
  rw [← hiff]
  constructor
  · intro h
    refine TestedProxy.resetOk_of_free hok hi fun t hlead hcleared => ?_
    obtain ⟨v, hstep, hcount, hheld⟩ := TestedProxy.restart_enabled env hcleared
    rw [← hcount, ← hheld]
    exact h t v hlead hstep
  · intro h t v hlead hstep
    obtain ⟨hcleared, hcount, hheld⟩ := TestedProxy.step_restartThreads hstep
    rw [hcount, hheld]
    exact TestedProxy.free_of_resetOk hok hstop h hlead hcleared

/-- A wake-up event is posted, read and acknowledged, and `handleWakelocks` is past the test of
giving its reference back. -/
def acknowledged : List TestedAct :=
  (initialized 1).map .proxy ++
    [.passCreate, .create 2, .proxy (.postEvents 0 [⟨3, 1, 1, 0, []⟩] (some 0)), .passPost 0,
      .post true 4, .passReturn 0, .destroy 0, .proxy (.frameworkRead 1), .proxy (.frameworkAck 1),
      .proxy (.wakelockCheck 5 5), .proxy .wakelockRead, .passProcess]

/-- `initialize` is called there, with one reference left. -/
theorem reset_effective_iff_acknowledged : ∃ s u,
    (testedProxy wakeUpEnv).run (.idle (.construct wakeUpEnv 0)) acknowledged = some s ∧
      s.step wakeUpEnv (.proxy .stopThreads) = some u ∧ s.proxy.mWakelockRefCount = 1 ∧
      ∀ t v, (testedProxy wakeUpEnv).Leads (· ≠ .proxy .restartThreads) u t →
        t.step wakeUpEnv (.proxy .restartThreads) = some v →
          v.proxy.mWakelockRefCount = 0 ∧ v.proxy.wakeLockHeld = false := by
  have hrun : (testedProxy wakeUpEnv).run (.idle (.construct wakeUpEnv 0)) acknowledged = some _ :=
    rfl
  have hs : (testedProxy wakeUpEnv).Reach _ := .of_run (.start ⟨0, rfl⟩) hrun
  exact ⟨_, _, hrun, rfl, rfl,
    (reset_effective_iff hs rfl).mpr ⟨rfl, rfl, Nat.le_refl 1, by decide⟩⟩

/-- `initialize` is called while a `ScopedWakelock` is alive: its reference and the lock are still
there when the threads have been restarted. -/
theorem reset_keeps_reference : ∃ f,
    (testedProxy wakeUpEnv).run (.idle (.construct wakeUpEnv 0)) ((initialized 1 ++
      [ProxyAct.createScopedWakelock 2, .stopThreads, .pendingExit, .wakelockExit 3, .resetAfterJoin 4,
        .clearQueues 1, .restartThreads]).map .proxy) = some f ∧
      f.proxy.mWakelockRefCount = 1 ∧ f.proxy.wakeLockHeld = true :=
  ⟨_, rfl, rfl, rfl⟩

end Smi240Hal.MultiHal
