/-
# Smi240Hal.MultiHal.UnlockedTest — calls between the test of `mThreadsRun` and the mutex

`incrementRefCountAndMaybeAcquireWakelock` and `decrementRefCountAndMaybeReleaseWakelock` load
`mThreadsRun` first and take `mWakelockMutex` then.  `stopThreads` stores the flag without a mutex,
so a call whose test has passed may change the count after the threads were told to stop, or even
after they were started again.

`testedProxy env` is `proxy env` with calls that stop between the two.  A `pass…` action is a test
that passes; the action behind it is the rest of the call, at any later time.  `proxy a` is an action
of `proxy`, whose test and update, if it has any, follow each other at once.  Who holds a mutex
while it is in between is in the state: a post has `mEventQueueWriteMutex`, `handleWakelocks` has
`mWakelockMutex`, and a blocking write that failed is a matter of its own thread.
-/
import Smi240Hal.Lib.Simulation
import Smi240Hal.MultiHal.WakelockCount

namespace Smi240Hal.MultiHal

open Smi240Hal.Lib

/-! ## The machine -/

/-- Where `handleWakelocks` is while it holds `mWakelockMutex`. -/
inductive WakelockUpdate
  /-- In `resetSharedWakelock`, for a timeout. -/
  | timedOut
  /-- The same, past the test. -/
  | resetting
  /-- Past the test, for an acknowledgement. -/
  | processing
deriving DecidableEq

/-- `HalProxy`, and the calls that are past their test. -/
structure TestedProxy where
  proxy : Proxy
  /-- How many calls of `createScopedWakelock`. -/
  creating : Nat
  /-- The `ScopedWakelock`s in their destructors, by their creation times. -/
  destroying : List Int
  /-- The locked post. -/
  posting : Option Posting
  /-- The references `handlePendingWrites` gives back for the write that failed. -/
  givingBack : Option Nat
  wakelocks : Option WakelockUpdate

/-- A step of the proxy, or one half of a call of the two functions: `pass..` is the test. -/
inductive TestedAct
  | proxy (a : ProxyAct)
  | passCreate
  | create (now : Int)
  /-- The destructor of the `k`-th `ScopedWakelock` that the sub-HALs have. -/
  | passDestroy (k : Nat)
  /-- The destructor of one whose post returns. -/
  | passReturn (k : Nat)
  | destroy (k : Nat)
  | passPost (k : Nat)
  | post (writeSucceeds : Bool) (now : Int)
  | passFailed
  | giveBack
  | passProcess
  | process
  /-- The shared wake lock has timed out. -/
  | timeout (now : Int)
  | passReset
  | reset (now : Int)
  /-- The test of the reset does not pass. -/
  | skipReset (now : Int)
deriving DecidableEq

namespace TestedProxy

/-- No call is past its test. -/
def idle (s : Proxy) : TestedProxy := ⟨s, 0, [], none, none, none⟩

/-- A call of the two functions does not wait for `handleWakelocks`: it does not get as far as the
mutex, or the mutex is free. -/
def RefCountFree (f : TestedProxy) : Prop := f.proxy.mThreadsRun = true → f.wakelocks = none

instance (f : TestedProxy) : Decidable f.RefCountFree := inferInstanceAs (Decidable (_ → _))

/-- The action gets the mutexes it takes, and its thread is not in between. -/
def Admits (f : TestedProxy) : ProxyAct → Prop
  | .createScopedWakelock _ | .destroyScopedWakelock _ | .postReturns _ => f.RefCountFree
  | .postWaiting k _ _ =>
      f.posting = none ∧ ((f.proxy.postedWakelock k).isSome = true → f.RefCountFree)
  | .pendingTake | .pendingRelock | .pendingExit => f.posting = none
  | .pendingWritten => f.givingBack = none
  | .pendingFailed => f.givingBack = none ∧ (f.proxy.givesBack = true → f.RefCountFree)
  | .wakelockCheck _ _ | .wakelockProcess | .wakelockExit _ => f.wakelocks = none
  | _ => True

instance (f : TestedProxy) : DecidablePred f.Admits
  | .createScopedWakelock _ | .destroyScopedWakelock _ | .postReturns _ =>
      inferInstanceAs (Decidable f.RefCountFree)
  | .postWaiting k _ _ =>
      inferInstanceAs (Decidable (f.posting = none ∧
        ((f.proxy.postedWakelock k).isSome = true → f.RefCountFree)))
  | .pendingTake | .pendingRelock | .pendingExit => inferInstanceAs (Decidable (f.posting = none))
  | .pendingWritten => inferInstanceAs (Decidable (f.givingBack = none))
  | .pendingFailed =>
      inferInstanceAs (Decidable (f.givingBack = none ∧
        (f.proxy.givesBack = true → f.RefCountFree)))
  | .wakelockCheck _ _ | .wakelockProcess | .wakelockExit _ =>
      inferInstanceAs (Decidable (f.wakelocks = none))
  | .postEvents _ _ _ | .wakelockRead | .wakelockReadFails | .frameworkRead _ | .frameworkAck _
  | .stopThreads | .resetAfterJoin _ | .clearQueues _ | .restartThreads => isTrue trivial

/-! ### Sub-HAL threads -/

/-- A sub-HAL calls `createScopedWakelock` while the threads run. -/
def passCreate (f : TestedProxy) : Option TestedProxy :=
  if f.proxy.callbackSet = true ∧ f.proxy.mThreadsRun = true then
    some { f with creating := f.creating + 1 }
  else none

/-- The update of a call that has passed, with the threads running or not. -/
def create (f : TestedProxy) (now : Int) : Option TestedProxy :=
  if 0 < f.creating ∧ f.wakelocks = none then
    let s := f.proxy.incrementLocked 1 now
    some { f with
      proxy := { s with live := now :: s.live }
      creating := f.creating - 1 }
  else none

/-- The destructor of a wake lock a sub-HAL holds; the object is gone from here on. -/
def passDestroy (f : TestedProxy) (k : Nat) : Option TestedProxy :=
  if f.proxy.mThreadsRun = true then do
    let createdAt ← f.proxy.live[k]?
    some { f with
      proxy := { f.proxy with live := f.proxy.live.eraseIdx k }
      destroying := createdAt :: f.destroying }
  else none

/-- The same of one that was moved into a post. -/
def passReturn (f : TestedProxy) (k : Nat) : Option TestedProxy :=
  if f.proxy.mThreadsRun = true then do
    let createdAt ← f.proxy.returning[k]?
    some { f with
      proxy := { f.proxy with returning := f.proxy.returning.eraseIdx k }
      destroying := createdAt :: f.destroying }
  else none

/-- Its update. -/
def destroy (f : TestedProxy) (k : Nat) : Option TestedProxy :=
  if f.wakelocks = none then do
    let createdAt ← f.destroying[k]?
    some { f with
      proxy := f.proxy.decrementLocked 1 createdAt
      destroying := f.destroying.eraseIdx k }
  else none

/-- A post with a locked wake lock passes the test, and keeps `mEventQueueWriteMutex` from here on. -/
def passPost (f : TestedProxy) (k : Nat) : Option TestedProxy :=
  if f.posting = none ∧ f.proxy.mThreadsRun = true then do
    let p ← f.proxy.posting[k]?
    if p.wakelock.isSome then
      some { f with
        proxy := { f.proxy with posting := f.proxy.posting.eraseIdx k }
        posting := some p }
    else none
  else none

/-- It takes its references, and writes or queues its events. -/
def post (f : TestedProxy) (writeSucceeds : Bool) (now : Int) : Option TestedProxy :=
  if f.wakelocks = none then do
    let p ← f.posting
    let s := { f.proxy with returning := p.wakelock.toList ++ f.proxy.returning }
    some { f with
      proxy := (s.incrementLocked p.numWakeupEvents now).writeOrQueue p writeSucceeds
      posting := none }
  else none

/-! ### `handlePendingWrites` -/

/-- `writeBlocking` has failed, and the references of its chunk have been counted. -/
def passFailed (f : TestedProxy) : Option TestedProxy :=
  match f.proxy.pendingWritesThread, f.proxy.mPendingWriteEventsQueue with
  | .writing numWakeupEvents eventQueueSize _, (pendingWriteEvents, _) :: _ =>
      if f.givingBack = none ∧ f.proxy.mThreadsRun = true ∧ 0 < numWakeupEvents then
        if eventQueueSize < pendingWriteEvents.length then do
          let (count, tables) ←
            countNumWakeupEvents f.proxy.tables pendingWriteEvents eventQueueSize
          some { f with
            proxy := { f.proxy with tables := tables }
            givingBack := some count }
        else some { f with givingBack := some numWakeupEvents }
      else none
  | _, _ => none

/-- The update for the write that failed, and the chunk leaves the queue. -/
def giveBack (f : TestedProxy) : Option TestedProxy :=
  match f.givingBack, f.proxy.pendingWritesThread, f.proxy.mPendingWriteEventsQueue with
  | some delta, .writing _ eventQueueSize numToWrite, (pendingWriteEvents, _) :: _ =>
      if f.wakelocks = none then
        some { f with
          proxy := { f.proxy with
            session := { f.proxy.session with
              droppedFailed :=
                f.proxy.session.droppedFailed ++ pendingWriteEvents.take numToWrite }
            pendingWritesThread := .relocking eventQueueSize numToWrite }.decrementLocked delta (-1)
          givingBack := none }
      else none
  | _, _, _ => none

/-! ### `handleWakelocks` -/

/-- `handleWakelocks` has read an acknowledgement, and keeps `mWakelockMutex` from here on. -/
def passProcess (f : TestedProxy) : Option TestedProxy :=
  match f.proxy.wakelockThread with
  | .processing _ =>
      if f.wakelocks = none ∧ f.proxy.mThreadsRun = true then
        some { f with wakelocks := some .processing }
      else none
  | _ => none

/-- Its update. -/
def process (f : TestedProxy) : Option TestedProxy :=
  match f.wakelocks, f.proxy.wakelockThread with
  | some .processing, .processing n =>
      some { f with
        proxy := { f.proxy.decrementLocked n (-1) with
          wakelockThread := .waiting
          session := { f.proxy.session with handled := f.proxy.session.handled + n } }
        wakelocks := none }
  | _, _ => none

/-- `handleWakelocks` finds the lock held for too long, under the mutex. -/
def timeout (env : Env) (f : TestedProxy) (now : Int) : Option TestedProxy :=
  if f.wakelocks = none ∧ f.proxy.wakelockThread = .waiting ∧ f.proxy.mThreadsRun = true ∧
      0 < f.proxy.mWakelockRefCount ∧ f.proxy.sharedWakelockDidTimeout env now = true then
    some { f with wakelocks := some .timedOut }
  else none

/-- The decrement of the reset passes its test. -/
def passReset (f : TestedProxy) : Option TestedProxy :=
  if f.wakelocks = some .timedOut ∧ f.proxy.mThreadsRun = true then
    some { f with wakelocks := some .resetting }
  else none

/-- All references are given back, and a new generation of wake locks begins. -/
def reset (f : TestedProxy) (now : Int) : Option TestedProxy :=
  if f.wakelocks = some .resetting then
    some { f with
      proxy := { f.proxy.decrementLocked f.proxy.mWakelockRefCount (-1) with
        mWakelockTimeoutResetTime := now }
      wakelocks := none }
  else none

/-- The threads were stopped before the test: only the time is set. -/
def skipReset (f : TestedProxy) (now : Int) : Option TestedProxy :=
  if f.wakelocks = some .timedOut ∧ f.proxy.mThreadsRun = false then
    some { f with
      proxy := { f.proxy with mWakelockTimeoutResetTime := now }
      wakelocks := none }
  else none

/-- The steps of `proxy` with test and update in one are here too, where the mutexes are free. -/
def step (env : Env) (f : TestedProxy) : TestedAct → Option TestedProxy
  | .proxy a =>
      if f.Admits a then do
        let s ← f.proxy.step env a
        some { f with proxy := s }
      else none
  | .passCreate => f.passCreate
  | .create now => f.create now
  | .passDestroy k => f.passDestroy k
  | .passReturn k => f.passReturn k
  | .destroy k => f.destroy k
  | .passPost k => f.passPost k
  | .post writeSucceeds now => f.post writeSucceeds now
  | .passFailed => f.passFailed
  | .giveBack => f.giveBack
  | .passProcess => f.passProcess
  | .process => f.process
  | .timeout now => f.timeout env now
  | .passReset => f.passReset
  | .reset now => f.reset now
  | .skipReset now => f.skipReset now

end TestedProxy

/-- `HalProxy` from its construction on, with the tests before the mutex. -/
def testedProxy (env : Env) : Machine TestedProxy TestedAct where
  Start f := ∃ now, f = .idle (.construct env now)
  step := TestedProxy.step env

/-! ## What one step does -/

namespace TestedProxy

/-- When an action is enabled, and what it leads to. -/
inductive Step (env : Env) (f : TestedProxy) : TestedAct → TestedProxy → Prop
  | proxy {a : ProxyAct} {t : Proxy} (hadmits : f.Admits a) (hstep : f.proxy.step env a = some t) :
      Step env f (.proxy a) { f with proxy := t }
  | passCreate (hset : f.proxy.callbackSet = true) (hrun : f.proxy.mThreadsRun = true) :
      Step env f .passCreate { f with creating := f.creating + 1 }
  | create {now : Int} (hpos : 0 < f.creating) (hfree : f.wakelocks = none) :
      Step env f (.create now) { f with
        proxy := { f.proxy.incrementLocked 1 now with live := now :: f.proxy.live }
        creating := f.creating - 1 }
  | passDestroy {k : Nat} {createdAt : Int} (hrun : f.proxy.mThreadsRun = true)
      (hk : f.proxy.live[k]? = some createdAt) :
      Step env f (.passDestroy k) { f with
        proxy := { f.proxy with live := f.proxy.live.eraseIdx k }
        destroying := createdAt :: f.destroying }
  | passReturn {k : Nat} {createdAt : Int} (hrun : f.proxy.mThreadsRun = true)
      (hk : f.proxy.returning[k]? = some createdAt) :
      Step env f (.passReturn k) { f with
        proxy := { f.proxy with returning := f.proxy.returning.eraseIdx k }
        destroying := createdAt :: f.destroying }
  | destroy {k : Nat} {createdAt : Int} (hfree : f.wakelocks = none)
      (hk : f.destroying[k]? = some createdAt) :
      Step env f (.destroy k) { f with
        proxy := f.proxy.decrementLocked 1 createdAt
        destroying := f.destroying.eraseIdx k }
  | passPost {k : Nat} {p : Posting} (hnone : f.posting = none)
      (hrun : f.proxy.mThreadsRun = true) (hk : f.proxy.posting[k]? = some p)
      (hlocked : p.wakelock.isSome = true) :
      Step env f (.passPost k) { f with
        proxy := { f.proxy with posting := f.proxy.posting.eraseIdx k }
        posting := some p }
  | post {p : Posting} {writeSucceeds : Bool} {now : Int} (hfree : f.wakelocks = none)
      (hp : f.posting = some p) :
      Step env f (.post writeSucceeds now) { f with
        proxy := ({ f.proxy with
          returning := p.wakelock.toList ++ f.proxy.returning }.incrementLocked
            p.numWakeupEvents now).wroteOrQueued p (f.proxy.numToWrite p.events writeSucceeds)
        posting := none }
  | passFailed {v : List Event} {num num' size n : Nat} {rest : List (List Event × Nat)}
      {hs : List Handle} (hpc : f.proxy.pendingWritesThread = .writing num' size n)
      (hq : f.proxy.mPendingWriteEventsQueue = (v, num) :: rest) (hnone : f.givingBack = none)
      (hrun : f.proxy.mThreadsRun = true) :
      Step env f .passFailed { f with
        proxy := { f.proxy with tables := f.proxy.tables.lookups hs }
        givingBack := some (f.proxy.givenBack v num' size) }
  | giveBack {delta : Nat} {v : List Event} {num num' size n : Nat}
      {rest : List (List Event × Nat)} (hfree : f.wakelocks = none)
      (hgive : f.givingBack = some delta)
      (hpc : f.proxy.pendingWritesThread = .writing num' size n)
      (hq : f.proxy.mPendingWriteEventsQueue = (v, num) :: rest) :
      Step env f .giveBack { f with
        proxy := { f.proxy with
          session := { f.proxy.session with
            droppedFailed := f.proxy.session.droppedFailed ++ v.take n }
          pendingWritesThread := .relocking size n }.decrementLocked delta (-1)
        givingBack := none }
  | passProcess {n : Nat} (hpc : f.proxy.wakelockThread = .processing n)
      (hnone : f.wakelocks = none) (hrun : f.proxy.mThreadsRun = true) :
      Step env f .passProcess { f with wakelocks := some .processing }
  | process {n : Nat} (hw : f.wakelocks = some .processing)
      (hpc : f.proxy.wakelockThread = .processing n) :
      Step env f .process { f with
        proxy := { f.proxy.decrementLocked n (-1) with
          wakelockThread := .waiting
          session := { f.proxy.session with handled := f.proxy.session.handled + n } }
        wakelocks := none }
  | timeout {now : Int} (hnone : f.wakelocks = none) (hpc : f.proxy.wakelockThread = .waiting)
      (hrun : f.proxy.mThreadsRun = true) :
      Step env f (.timeout now) { f with wakelocks := some .timedOut }
  | passReset (hw : f.wakelocks = some .timedOut) (hrun : f.proxy.mThreadsRun = true) :
      Step env f .passReset { f with wakelocks := some .resetting }
  | reset {now : Int} (hw : f.wakelocks = some .resetting) :
      Step env f (.reset now) { f with
        proxy := { f.proxy.decrementLocked f.proxy.mWakelockRefCount (-1) with
          mWakelockTimeoutResetTime := now }
        wakelocks := none }
  | skipReset {now : Int} (hw : f.wakelocks = some .timedOut)
      (hrun : f.proxy.mThreadsRun = false) :
      Step env f (.skipReset now) { f with
        proxy := { f.proxy with mWakelockTimeoutResetTime := now }
        wakelocks := none }

section Cases

variable {env : Env} {f g : TestedProxy}

theorem passDestroy_cases {k : Nat} (h : f.passDestroy k = some g) :
    Step env f (.passDestroy k) g := by
  obtain ⟨hrun, heq⟩ := Option.ite_none_right_eq_some.mp h
  obtain ⟨createdAt, hk, heq⟩ := Option.bind_eq_some_iff.mp heq
  cases heq
  exact .passDestroy hrun hk

theorem passReturn_cases {k : Nat} (h : f.passReturn k = some g) : Step env f (.passReturn k) g := by
  obtain ⟨hrun, heq⟩ := Option.ite_none_right_eq_some.mp h
  obtain ⟨createdAt, hk, heq⟩ := Option.bind_eq_some_iff.mp heq
  cases heq
  exact .passReturn hrun hk

theorem destroy_cases {k : Nat} (h : f.destroy k = some g) : Step env f (.destroy k) g := by
  obtain ⟨hfree, heq⟩ := Option.ite_none_right_eq_some.mp h
  obtain ⟨createdAt, hk, heq⟩ := Option.bind_eq_some_iff.mp heq
  cases heq
  exact .destroy hfree hk

theorem passPost_cases {k : Nat} (h : f.passPost k = some g) : Step env f (.passPost k) g := by
  obtain ⟨⟨hnone, hrun⟩, heq⟩ := Option.ite_none_right_eq_some.mp h
  obtain ⟨p, hk, heq⟩ := Option.bind_eq_some_iff.mp heq
  obtain ⟨hlocked, heq⟩ := Option.ite_none_right_eq_some.mp heq
  cases heq
  exact .passPost hnone hrun hk hlocked

theorem post_cases {writeSucceeds : Bool} {now : Int} (h : f.post writeSucceeds now = some g) :
    Step env f (.post writeSucceeds now) g := by
  obtain ⟨hfree, heq⟩ := Option.ite_none_right_eq_some.mp h
  obtain ⟨p, hp, heq⟩ := Option.bind_eq_some_iff.mp heq
  cases heq
  rw [Proxy.writeOrQueue_eq]
  exact .post hfree hp

theorem passFailed_cases (h : f.passFailed = some g) : Step env f .passFailed g := by
  unfold passFailed at h
  split at h
  case h_1 num' size n v num rest hpc hq =>
    obtain ⟨⟨hnone, hrun, hpos⟩, heq⟩ := Option.ite_none_right_eq_some.mp h
    by_cases hsize : size < v.length
    · have hback : staticWakeUpCount f.proxy.tables (v.take size) = f.proxy.givenBack v num' size := by
        unfold Proxy.givenBack
        rw [if_pos hpos, if_pos hsize]
      rw [if_pos hsize, countNumWakeupEvents_eq (Nat.le_of_lt hsize)] at heq
      cases heq
      rw [hback]
      exact .passFailed hpc hq hnone hrun
    · have hback : num' = f.proxy.givenBack v num' size := by
        unfold Proxy.givenBack
        rw [if_pos hpos, if_neg hsize]
      rw [if_neg hsize] at heq
      cases heq
      have hstep : Step env f .passFailed { f with
          proxy := { f.proxy with tables := f.proxy.tables.lookups [] }
          givingBack := some (f.proxy.givenBack v num' size) } := .passFailed hpc hq hnone hrun
      rw [← hback] at hstep
      exact hstep
  case h_2 => cases h

theorem giveBack_cases (h : f.giveBack = some g) : Step env f .giveBack g := by
  unfold giveBack at h
  split at h
  case h_1 hgive hpc hq =>
    obtain ⟨hfree, heq⟩ := Option.ite_none_right_eq_some.mp h
    cases heq
    exact .giveBack hfree hgive hpc hq
  case h_2 => cases h

theorem passProcess_cases (h : f.passProcess = some g) : Step env f .passProcess g := by
  unfold passProcess at h
  split at h
  case h_1 n hpc =>
    obtain ⟨⟨hnone, hrun⟩, heq⟩ := Option.ite_none_right_eq_some.mp h
    cases heq
    exact .passProcess hpc hnone hrun
  case h_2 => cases h

theorem process_cases (h : f.process = some g) : Step env f .process g := by
  unfold process at h
  split at h
  case h_1 hw hpc =>
    cases h
    exact .process hw hpc
  case h_2 => cases h

/-- What the code does in one step is in the list. -/
theorem step_cases {a : TestedAct} (h : f.step env a = some g) : Step env f a g := by
  cases a with
  | proxy a =>
      obtain ⟨hadmits, heq⟩ := Option.ite_none_right_eq_some.mp h
      obtain ⟨t, ht, heq⟩ := Option.bind_eq_some_iff.mp heq
      cases heq
      exact .proxy hadmits ht
  | passCreate =>
      obtain ⟨⟨hset, hrun⟩, heq⟩ := Option.ite_none_right_eq_some.mp h
      cases heq
      exact .passCreate hset hrun
  | create now =>
      obtain ⟨⟨hpos, hfree⟩, heq⟩ := Option.ite_none_right_eq_some.mp h
      cases heq
      exact .create hpos hfree
  | passDestroy k => exact passDestroy_cases h
  | passReturn k => exact passReturn_cases h
  | destroy k => exact destroy_cases h
  | passPost k => exact passPost_cases h
  | post writeSucceeds now => exact post_cases h
  | passFailed => exact passFailed_cases h
  | giveBack => exact giveBack_cases h
  | passProcess => exact passProcess_cases h
  | process => exact process_cases h
  | timeout now =>
      obtain ⟨⟨hnone, hpc, hrun, _, _⟩, heq⟩ := Option.ite_none_right_eq_some.mp h
      cases heq
      exact .timeout hnone hpc hrun
  | passReset =>
      obtain ⟨⟨hw, hrun⟩, heq⟩ := Option.ite_none_right_eq_some.mp h
      cases heq
      exact .passReset hw hrun
  | reset now =>
      obtain ⟨hw, heq⟩ := Option.ite_none_right_eq_some.mp h
      cases heq
      exact .reset hw
  | skipReset now =>
      obtain ⟨⟨hw, hrun⟩, heq⟩ := Option.ite_none_right_eq_some.mp h
      cases heq
      exact .skipReset hw hrun

end Cases

end TestedProxy

/-! ## What always holds -/

namespace Proxy

/-- The background thread stays in its write, and the chunk at the front, while others act. -/
theorem writing_kept {env : Env} {s t : Proxy} {a : ProxyAct} (hphases : s.Phases)
    (h : s.step env a = some t) (hwritten : a ≠ .pendingWritten) (hfailed : a ≠ .pendingFailed)
    {v : List Event} {num num' size n : Nat} {rest : List (List Event × Nat)}
    (hpc : s.pendingWritesThread = .writing num' size n)
    (hq : s.mPendingWriteEventsQueue = (v, num) :: rest) :
    t.pendingWritesThread = .writing num' size n ∧
      ∃ rest', t.mPendingWriteEventsQueue = (v, num) :: rest' := by
  have hnever : ∀ {pc : PendingWrites} {P : Prop}, s.pendingWritesThread = pc →
      pc ≠ .writing num' size n → P := fun hpc' hne => absurd (hpc'.symm.trans hpc) hne
  cases step_cases h with
  | created | createdUnlocked | postRefused | postStarted | reads | ackRead | ackNotRead | received |
    acked | stopped => exact ⟨hpc, rest, hq⟩
  | destroyed | returned | ackProcessed =>
      rw [decrement_eq]
      exact ⟨hpc, rest, hq⟩
  | timedOut | wakelocksEnded | joined =>
      unfold resetSharedWakelock
      rw [decrement_eq]
      exact ⟨hpc, rest, hq⟩
  | @posted k p writeSucceeds now =>
      refine ⟨hpc, rest ++ s.queuedPart
        (p.events.drop (s.numToWrite p.events writeSucceeds)) p.numWakeupEvents, ?_⟩
      show s.mPendingWriteEventsQueue ++ _ = _
      rw [hq]
      rfl
  | taken hpc' | relocked hpc' | ended hpc' => exact hnever hpc' nofun
  | wrote => exact absurd rfl hwritten
  | failed => exact absurd rfl hfailed
  | cleared hi => exact hnever (hphases.joined (Or.inl hi)).1 nofun
  | restarted hi => exact hnever (hphases.joined (Or.inr hi)).1 nofun

/-- `handleWakelocks` stays where it is while others act. -/
theorem wakelockThread_kept {env : Env} {s t : Proxy} {a : ProxyAct} (hphases : s.Phases)
    (h : s.step env a = some t) (hcheck : ∀ now resetNow, a ≠ .wakelockCheck now resetNow)
    (hprocess : a ≠ .wakelockProcess) (hexit : ∀ now, a ≠ .wakelockExit now)
    (hreading : s.wakelockThread ≠ .reading) (hended : s.wakelockThread ≠ .ended) :
    t.wakelockThread = s.wakelockThread := by
  cases step_cases h with
  | created | createdUnlocked | postRefused | postStarted | posted | taken | wrote | relocked |
    ended | received | acked | stopped | cleared => rfl
  | destroyed | returned | failed => rw [decrement_eq]
  | joined =>
      unfold resetSharedWakelock
      rw [decrement_eq]
  | timedOut | reads => exact absurd rfl (hcheck _ _)
  | ackRead hpc | ackNotRead hpc => exact absurd hpc hreading
  | ackProcessed => exact absurd rfl hprocess
  | wakelocksEnded => exact absurd rfl (hexit _)
  | restarted hi => exact absurd (hphases.joined (Or.inr hi)).2 hended

theorem givenBack_congr {env : Env} {s t : Proxy} (hs : s.Counted env) (ht : t.Counted env)
    (v : List Event) (num size : Nat) : t.givenBack v num size = s.givenBack v num size := by
  unfold givenBack
  rw [hs.count, ht.count]

end Proxy

/-- Where `handleWakelocks` holds the mutex. -/
def WakelockUpdate.at : WakelockUpdate → WakelockLoop → Prop
  | .timedOut, .waiting => True
  | .resetting, .waiting => True
  | .processing, .processing _ => True
  | _, _ => False

namespace TestedProxy

/-- The blocking write has failed, and `delta` references are given back for it. -/
def GivesBack (f : TestedProxy) (delta : Nat) : Prop :=
  ∃ v num num' size n rest, f.proxy.pendingWritesThread = .writing num' size n ∧
    f.proxy.mPendingWriteEventsQueue = (v, num) :: rest ∧ delta = f.proxy.givenBack v num' size

/-- What holds of `proxy` holds here too, and the calls past their test are where they have to be. -/
structure Ok (env : Env) (f : TestedProxy) : Prop where
  phases : f.proxy.Phases
  queues : f.proxy.queues.Ok
  counted : f.proxy.Counted env
  posting : ∀ p, f.posting = some p →
    p.wakelock.isSome = true ∧ p.numWakeupEvents = env.staticWakeUps p.events
  givingBack : ∀ delta, f.givingBack = some delta → f.GivesBack delta
  wakelocks : ∀ w, f.wakelocks = some w → w.at f.proxy.wakelockThread

variable {env : Env} {f : TestedProxy}

/-- While `handleWakelocks` has the mutex, it does not take a step of `proxy`. -/
theorem Ok.wakelockThread_proxy (h : f.Ok env) {a : ProxyAct} {t : Proxy} (hadmits : f.Admits a)
    (hstep : f.proxy.step env a = some t) {w : WakelockUpdate} (hw : f.wakelocks = some w) :
    t.wakelockThread = f.proxy.wakelockThread := by
  have hat := h.wakelocks w hw
  have hbusy : f.wakelocks ≠ none := by rw [hw]; exact nofun
  apply Proxy.wakelockThread_kept h.phases hstep
  · rintro _ _ rfl
    exact hbusy hadmits
  · rintro rfl
    exact hbusy hadmits
  · rintro _ rfl
    exact hbusy hadmits
  · intro hpc
    rw [hpc] at hat
    cases w <;> exact hat
  · intro hpc
    rw [hpc] at hat
    cases w <;> exact hat

theorem ok_proxy (h : f.Ok env) {a : ProxyAct} {t : Proxy} (hadmits : f.Admits a)
    (hstep : f.proxy.step env a = some t) : Ok env { f with proxy := t } where
  phases := Proxy.phases_step h.phases hstep
  queues := by
    rcases Proxy.queues_step h.phases hstep with heq | hq
    · exact heq ▸ h.queues
    · exact Queues.ok_step h.queues hq
  counted := Proxy.counted_step h.phases h.counted hstep
  posting := h.posting
  givingBack := by
    intro delta hgive
    obtain ⟨v, num, num', size, n, rest, hpc, hq, hdelta⟩ := h.givingBack delta hgive
    have hwritten : a ≠ .pendingWritten := by
      rintro rfl
      exact absurd (hgive.symm.trans hadmits) nofun
    have hfailed : a ≠ .pendingFailed := by
      rintro rfl
      exact absurd (hgive.symm.trans hadmits.1) nofun
    obtain ⟨hpc', rest', hq'⟩ := Proxy.writing_kept h.phases hstep hwritten hfailed hpc hq
    refine ⟨v, num, num', size, n, rest', hpc', hq', ?_⟩
    rw [hdelta]
    exact (Proxy.givenBack_congr h.counted (Proxy.counted_step h.phases h.counted hstep) ..).symm
  wakelocks := by
    intro w hw
    show w.at t.wakelockThread
    rw [h.wakelockThread_proxy hadmits hstep hw]
    exact h.wakelocks w hw

/-- Nothing of it is about the count and the lock, apart from each other, or about who has the
`ScopedWakelock`s. -/
theorem Ok.wakelock (h : f.Ok env) (count : Nat) {held : Bool} (hheld : 0 < count → held = true)
    (startTime resetTime : Int) (live returning : List Int) :
    Ok env { f with proxy := { f.proxy with
      mWakelockRefCount := count
      wakeLockHeld := held
      mWakelockTimeoutStartTime := startTime
      mWakelockTimeoutResetTime := resetTime
      live := live
      returning := returning } } where
  phases := { h.phases with }
  queues := h.queues
  counted := { h.counted with held := hheld }
  posting := h.posting
  givingBack := h.givingBack
  wakelocks := h.wakelocks

theorem ok_post (h : f.Ok env) {p : Posting} (hp : f.posting = some p) (writeSucceeds : Bool)
    (now : Int) : Ok env { f with
      proxy := ({ f.proxy with
        returning := p.wakelock.toList ++ f.proxy.returning }.incrementLocked
          p.numWakeupEvents now).wroteOrQueued p (f.proxy.numToWrite p.events writeSucceeds)
      posting := none } where
  phases := { h.phases with }
  queues := Queues.ok_step h.queues (Proxy.queues_afterPost f.proxy p writeSucceeds now)
  counted := by
    apply Proxy.counted_wroteOrQueued ?_ (h.posting p hp).2
    exact { h.counted with held := fun _ => Proxy.held_acquire h.counted.held }
  posting := nofun
  givingBack := by
    intro delta hgive
    obtain ⟨v, num, num', size, n, rest, hpc, hq, hdelta⟩ := h.givingBack delta hgive
    refine ⟨v, num, num', size, n, rest ++ f.proxy.queuedPart
      (p.events.drop (f.proxy.numToWrite p.events writeSucceeds)) p.numWakeupEvents, hpc, ?_, hdelta⟩
    show f.proxy.mPendingWriteEventsQueue ++ _ = _
    rw [hq]
    rfl
  wakelocks := h.wakelocks

theorem ok_passFailed (h : f.Ok env) {v : List Event} {num num' size n : Nat}
    {rest : List (List Event × Nat)} {hs : List Handle}
    (hpc : f.proxy.pendingWritesThread = .writing num' size n)
    (hq : f.proxy.mPendingWriteEventsQueue = (v, num) :: rest) : Ok env { f with
      proxy := { f.proxy with tables := f.proxy.tables.lookups hs }
      givingBack := some (f.proxy.givenBack v num' size) } := by
  have hcounted : { f.proxy with tables := f.proxy.tables.lookups hs }.Counted env := by
    refine { h.counted with tables := fun i => ?_ }
    rw [SensorTables.staticWakeUp_lookups]
    exact h.counted.tables i
  refine ⟨{ h.phases with }, h.queues, hcounted, h.posting, ?_, h.wakelocks⟩
  rintro delta hgive
  cases hgive
  refine ⟨v, num, num', size, n, rest, hpc, hq, ?_⟩
  exact (Proxy.givenBack_congr h.counted hcounted v num' size).symm

theorem ok_giveBack (h : f.Ok env) {v : List Event} {num num' size n : Nat}
    {rest : List (List Event × Nat)} (hpc : f.proxy.pendingWritesThread = .writing num' size n)
    (hq : f.proxy.mPendingWriteEventsQueue = (v, num) :: rest) (delta : Nat) : Ok env { f with
      proxy := { f.proxy with
        session := { f.proxy.session with
          droppedFailed := f.proxy.session.droppedFailed ++ v.take n }
        pendingWritesThread := .relocking size n }.decrementLocked delta (-1)
      givingBack := none } := by
  rw [Proxy.decrementLocked_eq]
  refine ⟨{ h.phases with joined := fun hi => ?_ }, ?_, ?_, h.posting, nofun, h.wakelocks⟩
  · exact absurd (hpc.symm.trans (h.phases.joined hi).1) nofun
  · exact Queues.ok_fail h.queues hpc hq
  · exact { h.counted with
      held := Proxy.held_decrement (s := f.proxy.running) h.counted.held delta (-1) }

theorem ok_process (h : f.Ok env) {n : Nat} (hpc : f.proxy.wakelockThread = .processing n) :
    Ok env { f with
      proxy := { f.proxy.decrementLocked n (-1) with
        wakelockThread := .waiting
        session := { f.proxy.session with handled := f.proxy.session.handled + n } }
      wakelocks := none } := by
  have hacks : f.proxy.mWakeLockQueue.sum + n + f.proxy.session.handled = f.proxy.session.acked :=
    h.counted.acks_at hpc
  rw [Proxy.decrementLocked_eq]
  refine ⟨{ h.phases with joined := fun hi => ?_ }, h.queues, ?_, h.posting, h.givingBack, nofun⟩
  · exact absurd (hpc.symm.trans (h.phases.joined hi).2) nofun
  · refine { h.counted with
      held := Proxy.held_decrement (s := f.proxy.running) h.counted.held n (-1), acks := ?_ }
    show f.proxy.mWakeLockQueue.sum + 0 + (f.proxy.session.handled + n) = f.proxy.session.acked
    omega

theorem ok_step {a : TestedAct} {g : TestedProxy} (h : f.Ok env) (hstep : f.step env a = some g) :
    g.Ok env := by
  cases step_cases hstep with
  | proxy hadmits ht => exact ok_proxy h hadmits ht
  | passCreate => exact { h with }
  | create =>
      have hok := h.wakelock (f.proxy.mWakelockRefCount + 1)
        (fun _ => Proxy.held_acquire h.counted.held)
      exact { hok _ _ _ _ with }
  | passDestroy | passReturn => exact { h.wakelock _ h.counted.held _ _ _ _ with }
  | @destroy k createdAt =>
      have hheld := Proxy.held_decrement (s := f.proxy.running) h.counted.held 1 createdAt
      rw [Proxy.decrementLocked_eq]
      exact { h.wakelock _ hheld _ _ _ _ with }
  | passPost hnone hrun hk hlocked =>
      have hmem := List.mem_of_getElem? hk
      refine { h with phases := { h.phases with }, counted := ?_, posting := fun p hp => ?_ }
      · exact { h.counted with
          posting := fun p' hp' => h.counted.posting p' (List.mem_of_mem_eraseIdx hp') }
      · cases hp
        exact ⟨hlocked, h.counted.posting _ hmem⟩
  | post hfree hp => exact ok_post h hp _ _
  | passFailed hpc hq => exact ok_passFailed h hpc hq
  | giveBack hfree hgive hpc hq => exact ok_giveBack h hpc hq _
  | passProcess hpc =>
      refine { h with wakelocks := ?_ }
      rintro w hw
      cases hw
      show WakelockUpdate.processing.at f.proxy.wakelockThread
      rw [hpc]
      trivial
  | process hw hpc => exact ok_process h hpc
  | timeout hnone hpc =>
      refine { h with wakelocks := ?_ }
      rintro w hw
      cases hw
      show WakelockUpdate.timedOut.at f.proxy.wakelockThread
      rw [hpc]
      trivial
  | passReset hw =>
      have hat := h.wakelocks _ hw
      refine { h with wakelocks := ?_ }
      rintro w hw
      cases hw
      show WakelockUpdate.resetting.at f.proxy.wakelockThread
      cases hpc : f.proxy.wakelockThread <;> rw [hpc] at hat <;> exact hat
  | reset =>
      have hheld := Proxy.held_decrement (s := f.proxy.running) h.counted.held
        f.proxy.mWakelockRefCount (-1)
      rw [Proxy.decrementLocked_eq]
      exact { h.wakelock _ hheld _ _ _ _ with wakelocks := nofun }
  | skipReset => exact { h.wakelock _ h.counted.held _ _ _ _ with wakelocks := nofun }

theorem ok_of_reach {f : TestedProxy} (h : (testedProxy env).Reach f) : f.Ok env := by
  refine Machine.Reach.invariant (P := Ok env) ?_ (fun _ _ _ => ok_step) h
  rintro f ⟨now, rfl⟩
  exact ⟨Proxy.phases_construct env now, ⟨trivial, rfl, Nat.zero_le _, Accounts.refl []⟩,
    Proxy.counted_construct env now, nofun, nofun, nofun⟩

/-! ## The runs of `proxy` -/

/-- Nobody is in between with a mutex. -/
structure MutexesFree (f : TestedProxy) : Prop where
  posting : f.posting = none
  givingBack : f.givingBack = none
  wakelocks : f.wakelocks = none

theorem step_admitted {a : ProxyAct} {t : Proxy} (hadmits : f.Admits a)
    (h : f.proxy.step env a = some t) : f.step env (.proxy a) = some { f with proxy := t } := by
  show (if f.Admits a then (f.proxy.step env a).bind _ else none) = _
  rw [if_pos hadmits, h]
  rfl

theorem step_proxy {a : ProxyAct} {t : Proxy} (hfree : f.MutexesFree)
    (h : f.proxy.step env a = some t) : f.step env (.proxy a) = some { f with proxy := t } := by
  apply step_admitted ?_ h
  cases a <;> simp [Admits, RefCountFree, hfree.posting, hfree.givingBack, hfree.wakelocks]

theorem run_proxy {as : List ProxyAct} {t : Proxy} (hfree : f.MutexesFree)
    (h : (MultiHal.proxy env).run f.proxy as = some t) :
    (testedProxy env).run f (as.map .proxy) = some { f with proxy := t } := by
  induction as generalizing f with
  | nil =>
      cases h
      rfl
  | cons a as ih =>
      obtain ⟨s, hs, hrest⟩ := (MultiHal.proxy env).run_cons_eq_some.mp h
      have hfree' : { f with proxy := s }.MutexesFree := { hfree with }
      exact (testedProxy env).run_cons_eq_some.mpr ⟨_, step_proxy hfree hs, ih hfree' hrest⟩

end TestedProxy

/-- Every run of `proxy` is one of `testedProxy` in which no call stops in between. -/
def testedProxySimulation (env : Env) : Simulation (proxy env) (testedProxy env) where
  Rel s f := f = .idle s
  label a := [.proxy a]
  start := by
    rintro s ⟨now, rfl⟩
    exact ⟨_, ⟨now, rfl⟩, rfl⟩
  step := by
    rintro s a t f rfl hstep
    have hrun : (proxy env).run s [a] = some t :=
      (proxy env).run_cons_eq_some.mpr ⟨t, hstep, rfl⟩
    exact ⟨.idle t, TestedProxy.run_proxy (f := .idle s) ⟨rfl, rfl, rfl⟩ hrun, rfl⟩

end Smi240Hal.MultiHal
