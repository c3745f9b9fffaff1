/-
# Smi240Hal.MultiHal.EventPath — the event queues, the threads and the shared wake lock

Events go from sub-HAL threads to the framework through `HalProxy`: straight into the event FMQ while
there is room, else into `mPendingWriteEventsQueue`, which a background thread empties with blocking
writes.  Wake-up events hold references on one OS wake lock; the framework gives them back through
the wake-lock FMQ, which a second thread reads.  `initialize` stops both threads, resets everything
and starts them again.

`proxy env` is the interleaving of all of that.  One action is one critical section, one call of
`incrementRefCountAndMaybeAcquireWakelock` or `decrementRefCountAndMaybeReleaseWakelock`, or one FMQ
operation; in particular the blocking write of `handlePendingWrites` happens between two actions
that hold `mEventQueueWriteMutex`.  An FMQ write is all or nothing.  A blocking write that fails and
the references given back for it are one action: the failure itself touches nothing that is shared.
The clock is an argument of the actions that read it.

The two reference-count functions look at `mThreadsRun` before they take `mWakelockMutex`.  Here the
look and the update behind it are one action; `MultiHal.UnlockedTest` takes them apart, for what
depends on a flag that is cleared between the two.

`Session` is not state of the program: it is the history since the queues were last replaced, which
the results are about.
-/
import Smi240Hal.Lib.Machine
import Smi240Hal.MultiHal.SensorTables

namespace Smi240Hal.MultiHal

open Smi240Hal.Lib

/-! ## What the runs are about -/

/-- What is fixed over the life of the process: the sensors the sub-HALs report at construction, the
dynamic sensors they flag WAKE_UP, and the timeout. -/
structure Env where
  reported : List (Option (List SensorInfo))
  dynamicWakeUp : Handle → Bool
  kWakelockTimeoutNs : Int

/-- The sensor of the event has the WAKE_UP flag in `mSensors`. -/
def Env.isStaticWakeUp (env : Env) (e : Event) : Bool :=
  ((((SensorTables.construct env.reported).mSensors[e.sensorHandle]?).getD .empty)).isWakeUp

/-- The sensor of the event is a wake-up sensor. -/
def Env.isWakeUp (env : Env) (e : Event) : Bool :=
  env.isStaticWakeUp e || env.dynamicWakeUp e.sensorHandle

/-- The wake-up events in a list. -/
def Env.wakeUps (env : Env) (events : List Event) : Nat := events.countP env.isWakeUp

/-- Those of them that are from sensors in `mSensors`. -/
def Env.staticWakeUps (env : Env) (events : List Event) : Nat := events.countP env.isStaticWakeUp

/-! ## The state -/

/-- The event FMQ. -/
structure Fmq where
  quantumCount : Nat
  data : List Event

/-- The room that is left. -/
def Fmq.availableToWrite (q : Fmq) : Nat := q.quantumCount - q.data.length

/-- Where `handlePendingWrites` is; the numbers are its local variables. -/
inductive PendingWrites
  /-- At the head of the loop, with the mutex. -/
  | waiting
  /-- In the blocking write, without the mutex. -/
  | writing (numWakeupEvents eventQueueSize numToWrite : Nat)
  /-- After the blocking write, before it has the mutex again. -/
  | relocking (eventQueueSize numToWrite : Nat)
  | ended
deriving DecidableEq

/-- Where `handleWakelocks` is. -/
inductive WakelockLoop
  | waiting
  | reading
  | processing (numWakeLocksProcessed : Nat)
  | ended
deriving DecidableEq

/-- How far `initializeCommon` is. -/
inductive InitializeCommon
  | notRunning
  /-- `stopThreads` waits for the threads. -/
  | joining
  /-- The shared wake lock has been reset. -/
  | wakelockReset
  /-- The queues have been replaced and the threads are about to start. -/
  | cleared
deriving DecidableEq

/-- A call of `postEventsToMessageQueue` that waits for the mutex; a locked `ScopedWakelock` is its
creation time. -/
structure Posting where
  events : List Event
  numWakeupEvents : Nat
  wakelock : Option Int

/-- The history since the queues were last replaced. -/
structure Session where
  /-- The events posted, in the order in which the posters took the mutex. -/
  posted : List Event
  /-- The events written to the event FMQ. -/
  written : List Event
  /-- The events discarded because the pending queue is full. -/
  droppedFull : List Event
  /-- The events given up after a blocking write failed. -/
  droppedFailed : List Event
  /-- The events the framework has read. -/
  received : List Event
  /-- How many wake-up events the framework has acknowledged. -/
  acked : Nat
  /-- How many of these acknowledgements `handleWakelocks` has processed. -/
  handled : Nat

/-- Nothing has happened since the queues were replaced. -/
def Session.empty : Session := ⟨[], [], [], [], [], 0, 0⟩

/-- `HalProxy`, and the `ScopedWakelock`s there are: `live` are with the sub-HALs, those in `posting`
were passed to a post, and those in `returning` are destroyed when their post returns. -/
structure Proxy where
  tables : SensorTables
  mEventQueue : Fmq
  mWakeLockQueue : List Nat
  mPendingWriteEventsQueue : List (List Event × Nat)
  mSizePendingWriteEventsQueue : Nat
  mThreadsRun : Bool
  mWakelockRefCount : Nat
  mWakelockTimeoutStartTime : Int
  mWakelockTimeoutResetTime : Int
  wakeLockHeld : Bool
  pendingWritesThread : PendingWrites
  wakelockThread : WakelockLoop
  initializing : InitializeCommon
  /-- The sub-HALs have the callback. -/
  callbackSet : Bool
  live : List Int
  posting : List Posting
  returning : List Int
  session : Session

/-- The object after its constructor.  There is no event FMQ yet; nothing can be written. -/
def Proxy.construct (env : Env) (now : Int) : Proxy where
  tables := .construct env.reported
  mEventQueue := ⟨0, []⟩
  mWakeLockQueue := []
  mPendingWriteEventsQueue := []
  mSizePendingWriteEventsQueue := 0
  mThreadsRun := true
  mWakelockRefCount := 0
  mWakelockTimeoutStartTime := now
  mWakelockTimeoutResetTime := now
  wakeLockHeld := false
  pendingWritesThread := .ended
  wakelockThread := .ended
  initializing := .notRunning
  callbackSet := false
  live := []
  posting := []
  returning := []
  session := .empty

def kMaxSizePendingWriteEventsQueue : Nat := 100000

/-- `-` on `size_t`. -/
def subSize (a b : Nat) : Nat := (a + (2 ^ 64 - b)) % 2 ^ 64

namespace Proxy

/-- The locked `ScopedWakelock`s that exist. -/
def liveWakelocks (s : Proxy) : List Int :=
  s.live ++ s.posting.filterMap Posting.wakelock ++ s.returning

/-- The `ScopedWakelock` passed to the `k`-th waiting post. -/
def postedWakelock (s : Proxy) (k : Nat) : Option Int := (s.posting[k]?).bind Posting.wakelock

/-! ## The reference count -/

/-- What `incrementRefCountAndMaybeAcquireWakelock` does once it has the mutex. -/
def incrementLocked (s : Proxy) (delta : Nat) (now : Int) : Proxy :=
  { s with
    wakeLockHeld := s.wakeLockHeld || s.mWakelockRefCount == 0
    mWakelockTimeoutStartTime := now
    mWakelockRefCount := s.mWakelockRefCount + delta }

/-- `incrementRefCountAndMaybeAcquireWakelock`; `none` is its answer `false`. -/
def incrementRefCountAndMaybeAcquireWakelock (s : Proxy) (delta : Nat) (now : Int) :
    Proxy × Option Int :=
  if s.mThreadsRun = false then (s, none) else (s.incrementLocked delta now, some now)

/-- A reference taken at `timeoutStart` is older than the last reset; `-1` stands for the time of
the reset. -/
def isStale (s : Proxy) (timeoutStart : Int) : Bool :=
  let timeoutStart := if timeoutStart = -1 then s.mWakelockTimeoutResetTime else timeoutStart
  timeoutStart < s.mWakelockTimeoutResetTime

/-- What `decrementRefCountAndMaybeReleaseWakelock` does once it has the mutex. -/
def decrementLocked (s : Proxy) (delta : Nat) (timeoutStart : Int) : Proxy :=
  if s.mWakelockRefCount = 0 ∨ s.isStale timeoutStart = true then s
  else
    let count := s.mWakelockRefCount - min s.mWakelockRefCount delta
    { s with
      mWakelockRefCount := count
      wakeLockHeld := if count = 0 then false else s.wakeLockHeld }

/-- `decrementRefCountAndMaybeReleaseWakelock`. -/
def decrementRefCountAndMaybeReleaseWakelock (s : Proxy) (delta : Nat) (timeoutStart : Int) :
    Proxy :=
  if s.mThreadsRun = false then s else s.decrementLocked delta timeoutStart

/-- `resetSharedWakelock`. -/
def resetSharedWakelock (s : Proxy) (now : Int) : Proxy :=
  { s.decrementRefCountAndMaybeReleaseWakelock s.mWakelockRefCount (-1) with
    mWakelockTimeoutResetTime := now }

/-- `sharedWakelockDidTimeout`. -/
def sharedWakelockDidTimeout (env : Env) (s : Proxy) (now : Int) : Bool :=
  now - s.mWakelockTimeoutStartTime > env.kWakelockTimeoutNs

/-! ## Sub-HAL threads -/

/-- `createScopedWakelock(true)`; without running threads the new object is not locked. -/
def createScopedWakelock (s : Proxy) (now : Int) : Proxy :=
  let r := s.incrementRefCountAndMaybeAcquireWakelock 1 now
  { r.1 with live := r.2.toList ++ r.1.live }

/-- The destructor of a locked `ScopedWakelock` that a sub-HAL still has. -/
def destroyScopedWakelock (s : Proxy) (k : Nat) : Option Proxy := do
  let createdAt ← s.live[k]?
  some ({ s with live := s.live.eraseIdx k }.decrementRefCountAndMaybeReleaseWakelock 1 createdAt)

/-- `postEvents` of the callback up to the call of `postEventsToMessageQueue`, with no locked
`ScopedWakelock` or the one passed to it. -/
def postEvents (s : Proxy) (subHalIndex : Nat) (events : List Event) (wakelock : Option Int) :
    Proxy :=
  if events = [] ∨ s.mThreadsRun = false then
    { s with returning := wakelock.toList ++ s.returning }
  else
    let (processedEvents, numWakeupEvents, tables) := processEvents s.tables subHalIndex events
    { s with
      tables := tables
      posting := s.posting ++ [⟨processedEvents, numWakeupEvents, wakelock⟩] }

/-- A post that passes the `k`-th live `ScopedWakelock`, or an unlocked one. -/
def postEventsWith (s : Proxy) (subHalIndex : Nat) (events : List Event) :
    Option Nat → Option Proxy
  | none => some (s.postEvents subHalIndex events none)
  | some k => do
      let createdAt ← s.live[k]?
      some ({ s with live := s.live.eraseIdx k }.postEvents subHalIndex events (some createdAt))

/-- Events reach the event FMQ. -/
def writeEvents (s : Proxy) (events : List Event) : Proxy :=
  { s with
    mEventQueue := { s.mEventQueue with data := s.mEventQueue.data ++ events }
    session := { s.session with written := s.session.written ++ events } }

/-- `numToWrite` of `postEventsToMessageQueue`: how much the direct write takes. -/
def numToWrite (s : Proxy) (events : List Event) (writeSucceeds : Bool) : Nat :=
  if s.mPendingWriteEventsQueue.isEmpty && writeSucceeds then
    min events.length s.mEventQueue.availableToWrite
  else 0

/-- The end of `postEventsToMessageQueue`, for the `numLeft` events that were not written: they go
to the pending queue or are discarded. -/
def queueLeft (s : Proxy) (eventsLeft : List Event) (numWakeupEvents : Nat) : Proxy :=
  if 0 < eventsLeft.length ∧
      s.mSizePendingWriteEventsQueue + eventsLeft.length ≤ kMaxSizePendingWriteEventsQueue then
    { s with
      mPendingWriteEventsQueue := s.mPendingWriteEventsQueue ++ [(eventsLeft, numWakeupEvents)]
      mSizePendingWriteEventsQueue := s.mSizePendingWriteEventsQueue + eventsLeft.length }
  else
    { s with session := { s.session with droppedFull := s.session.droppedFull ++ eventsLeft } }

/-- `postEventsToMessageQueue`, once the references have been taken. -/
def writeOrQueue (s : Proxy) (p : Posting) (writeSucceeds : Bool) : Proxy :=
  let s := { s with session := { s.session with posted := s.session.posted ++ p.events } }
  let n := s.numToWrite p.events writeSucceeds
  (s.writeEvents (p.events.take n)).queueLeft (p.events.drop n) p.numWakeupEvents

/-- `postEventsToMessageQueue`, with the mutex. -/
def postEventsToMessageQueue (s : Proxy) (p : Posting) (writeSucceeds : Bool) (now : Int) : Proxy :=
  let s := if p.wakelock.isSome then
      (s.incrementRefCountAndMaybeAcquireWakelock p.numWakeupEvents now).1
    else s
  s.writeOrQueue p writeSucceeds

/-- One of the waiting posts takes the mutex. -/
def postWaiting (s : Proxy) (k : Nat) (writeSucceeds : Bool) (now : Int) : Option Proxy := do
  let p ← s.posting[k]?
  some ({ s with
      posting := s.posting.eraseIdx k
      returning := p.wakelock.toList ++ s.returning }.postEventsToMessageQueue p writeSucceeds now)

/-- A post returns and its `ScopedWakelock` is destroyed. -/
def postReturns (s : Proxy) (k : Nat) : Option Proxy := do
  let createdAt ← s.returning[k]?
  some ({ s with
    returning := s.returning.eraseIdx k }.decrementRefCountAndMaybeReleaseWakelock 1 createdAt)

/-! ## `handlePendingWrites` -/

/-- The wait ends with something to write. -/
def pendingTake (s : Proxy) : Option Proxy :=
  match s.pendingWritesThread, s.mPendingWriteEventsQueue with
  | .waiting, (pendingWriteEvents, numWakeupEvents) :: _ =>
      if s.mThreadsRun then
        let eventQueueSize := s.mEventQueue.quantumCount
        some { s with
          pendingWritesThread := .writing numWakeupEvents eventQueueSize
            (min pendingWriteEvents.length eventQueueSize) }
      else none
  | _, _ => none

/-- `writeBlocking` succeeds. -/
def pendingWritten (s : Proxy) : Option Proxy :=
  match s.pendingWritesThread, s.mPendingWriteEventsQueue with
  | .writing _ eventQueueSize numToWrite, (pendingWriteEvents, _) :: _ =>
      if numToWrite ≤ s.mEventQueue.availableToWrite then
        some { s.writeEvents (pendingWriteEvents.take numToWrite) with
          pendingWritesThread := .relocking eventQueueSize numToWrite }
      else none
  | _, _ => none

/-- The references given back for a chunk that was not written. -/
def giveBackFailed (s : Proxy) (pendingWriteEvents : List Event)
    (numWakeupEvents eventQueueSize : Nat) : Option Proxy :=
  if 0 < numWakeupEvents then
    if eventQueueSize < pendingWriteEvents.length then do
      let (count, tables) ← countNumWakeupEvents s.tables pendingWriteEvents eventQueueSize
      some ({ s with tables := tables }.decrementRefCountAndMaybeReleaseWakelock count (-1))
    else some (s.decrementRefCountAndMaybeReleaseWakelock numWakeupEvents (-1))
  else some s

/-- Whether a write that fails gives references back. -/
def givesBack (s : Proxy) : Bool :=
  match s.pendingWritesThread with
  | .writing numWakeupEvents _ _ => 0 < numWakeupEvents
  | _ => false

/-- `writeBlocking` fails. -/
def pendingFailed (s : Proxy) : Option Proxy :=
  match s.pendingWritesThread, s.mPendingWriteEventsQueue with
  | .writing numWakeupEvents eventQueueSize numToWrite, (pendingWriteEvents, _) :: _ =>
      { s with
        session := { s.session with
          droppedFailed := s.session.droppedFailed ++ pendingWriteEvents.take numToWrite }
        pendingWritesThread := .relocking eventQueueSize numToWrite }.giveBackFailed
          pendingWriteEvents numWakeupEvents eventQueueSize
  | _, _ => none

/-- The mutex is taken again and the chunk leaves the queue. -/
def pendingRelock (s : Proxy) : Option Proxy :=
  match s.pendingWritesThread, s.mPendingWriteEventsQueue with
  | .relocking eventQueueSize numToWrite, (pendingWriteEvents, numWakeupEvents) :: rest =>
      some { s with
        mSizePendingWriteEventsQueue := subSize s.mSizePendingWriteEventsQueue numToWrite
        mPendingWriteEventsQueue :=
          if eventQueueSize < pendingWriteEvents.length then
            (pendingWriteEvents.drop eventQueueSize, numWakeupEvents) :: rest
          else rest
        pendingWritesThread := .waiting }
  | _, _ => none

/-- `handlePendingWrites` leaves its loop, whatever waits. -/
def pendingExit (s : Proxy) : Option Proxy :=
  if s.pendingWritesThread = .waiting ∧ s.mThreadsRun = false then
    some { s with pendingWritesThread := .ended }
  else none

/-! ## `handleWakelocks` -/

/-- The wait ends with references held: reset after a timeout, else read the FMQ. -/
def wakelockCheck (env : Env) (s : Proxy) (now resetNow : Int) : Option Proxy :=
  if s.wakelockThread = .waiting ∧ s.mThreadsRun = true ∧ 0 < s.mWakelockRefCount then
    if s.sharedWakelockDidTimeout env now then some (s.resetSharedWakelock resetNow)
    else some { s with wakelockThread := .reading }
  else none

/-- `handleWakelocks` reads an acknowledgement, outside the mutex. -/
def wakelockRead (s : Proxy) : Option Proxy :=
  match s.wakelockThread, s.mWakeLockQueue with
  | .reading, numWakeLocksProcessed :: rest =>
      some { s with
        mWakeLockQueue := rest
        wakelockThread := .processing numWakeLocksProcessed }
  | _, _ => none

/-- `readBlocking` returns without a value. -/
def wakelockReadFails (s : Proxy) : Option Proxy :=
  if s.wakelockThread = .reading then some { s with wakelockThread := .waiting } else none

/-- The references of the events acknowledged are given back. -/
def wakelockProcess (s : Proxy) : Option Proxy :=
  match s.wakelockThread with
  | .processing n =>
      some { s.decrementRefCountAndMaybeReleaseWakelock n (-1) with
        wakelockThread := .waiting
        session := { s.session with handled := s.session.handled + n } }
  | _ => none

/-- `handleWakelocks` leaves its loop; its reset comes too late to give anything back. -/
def wakelockExit (s : Proxy) (now : Int) : Option Proxy :=
  if s.wakelockThread = .waiting ∧ s.mThreadsRun = false then
    some { s.resetSharedWakelock now with wakelockThread := .ended }
  else none

/-! ## The framework -/

/-- The framework takes the oldest `n` events. -/
def frameworkRead (s : Proxy) (n : Nat) : Option Proxy :=
  if n ≤ s.mEventQueue.data.length then
    some { s with
      mEventQueue := { s.mEventQueue with data := s.mEventQueue.data.drop n }
      session := { s.session with received := s.session.received ++ s.mEventQueue.data.take n } }
  else none

/-- The framework acknowledges `n` of the wake-up events it has received, each once. -/
def frameworkAck (env : Env) (s : Proxy) (n : Nat) : Option Proxy :=
  if s.session.acked + n ≤ env.wakeUps s.session.received ∧ n < 2 ^ 32 then
    some { s with
      mWakeLockQueue := s.mWakeLockQueue ++ [n]
      session := { s.session with acked := s.session.acked + n } }
  else none

/-! ## `initializeCommon` -/

/-- `stopThreads`, up to the joins. -/
def stopThreads (s : Proxy) : Option Proxy :=
  if s.initializing = .notRunning then
    some { s with
      mThreadsRun := false
      mEventQueue := { s.mEventQueue with data := [] }
      mWakeLockQueue := s.mWakeLockQueue ++ [0]
      initializing := .joining }
  else none

/-- The threads have been joined; `resetSharedWakelock`. -/
def resetAfterJoin (s : Proxy) (now : Int) : Option Proxy :=
  if s.initializing = .joining ∧ s.pendingWritesThread = .ended ∧ s.wakelockThread = .ended then
    some { s.resetSharedWakelock now with initializing := .wakelockReset }
  else none

/-- The pending events and the dynamic sensors are cleared, and the FMQs replaced. -/
def clearQueues (s : Proxy) (quantumCount : Nat) : Option Proxy :=
  if s.initializing = .wakelockReset then
    some { s with
      tables := { s.tables with mDynamicSensors := ∅ }
      mEventQueue := ⟨quantumCount, []⟩
      mWakeLockQueue := []
      mPendingWriteEventsQueue := []
      mSizePendingWriteEventsQueue := 0
      session := .empty
      initializing := .cleared }
  else none

/-- The threads start again, and the sub-HALs get the callback. -/
def restartThreads (s : Proxy) : Option Proxy :=
  if s.initializing = .cleared then
    some { s with
      mThreadsRun := true
      pendingWritesThread := .waiting
      wakelockThread := .waiting
      callbackSet := true
      initializing := .notRunning }
  else none

end Proxy

/-! ## The machine -/

/-- A step of a sub-HAL, of one of the two threads, of the framework, or of `initializeCommon`. -/
inductive ProxyAct
  | createScopedWakelock (now : Int)
  | destroyScopedWakelock (k : Nat)
  | postEvents (subHalIndex : Nat) (events : List Event) (wakelock : Option Nat)
  | postWaiting (k : Nat) (writeSucceeds : Bool) (now : Int)
  | postReturns (k : Nat)
  | pendingTake
  | pendingWritten
  | pendingFailed
  | pendingRelock
  | pendingExit
  | wakelockCheck (now resetNow : Int)
  | wakelockRead
  | wakelockReadFails
  | wakelockProcess
  | wakelockExit (now : Int)
  | frameworkRead (n : Nat)
  | frameworkAck (n : Nat)
  | stopThreads
  | resetAfterJoin (now : Int)
  | clearQueues (quantumCount : Nat)
  | restartThreads
deriving DecidableEq

/-- The sub-HALs create wake locks and post only once they have the callback. -/
def Proxy.step (env : Env) (s : Proxy) : ProxyAct → Option Proxy
  | .createScopedWakelock now => if s.callbackSet then some (s.createScopedWakelock now) else none
  | .destroyScopedWakelock k => s.destroyScopedWakelock k
  | .postEvents subHalIndex events wakelock =>
      if s.callbackSet then s.postEventsWith subHalIndex events wakelock else none
  | .postWaiting k writeSucceeds now => s.postWaiting k writeSucceeds now
  | .postReturns k => s.postReturns k
  | .pendingTake => s.pendingTake
  | .pendingWritten => s.pendingWritten
  | .pendingFailed => s.pendingFailed
  | .pendingRelock => s.pendingRelock
  | .pendingExit => s.pendingExit
  | .wakelockCheck now resetNow => s.wakelockCheck env now resetNow
  | .wakelockRead => s.wakelockRead
  | .wakelockReadFails => s.wakelockReadFails
  | .wakelockProcess => s.wakelockProcess
  | .wakelockExit now => s.wakelockExit now
  | .frameworkRead n => s.frameworkRead n
  | .frameworkAck n => s.frameworkAck env n
  | .stopThreads => s.stopThreads
  | .resetAfterJoin now => s.resetAfterJoin now
  | .clearQueues quantumCount => s.clearQueues quantumCount
  | .restartThreads => s.restartThreads

/-- `HalProxy` from its construction on. -/
def proxy (env : Env) : Machine Proxy ProxyAct where
  Start s := ∃ now, s = .construct env now
  step := Proxy.step env

end Smi240Hal.MultiHal
