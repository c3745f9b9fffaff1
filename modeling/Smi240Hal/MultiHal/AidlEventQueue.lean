/-
# Smi240Hal.MultiHal.AidlEventQueue — the event queue of the AIDL multi-HAL

`EventMessageQueueWrapperAidl` gives `HalProxy` the AIDL event FMQ under the interface of the HIDL
one.  Every event passes through `mIntermediateEventBuffer`, one array for the direct writes, the
blocking writes of the background thread and the read with which `stopThreads` empties the FMQ.
No mutex is held while `writeBlocking` converts events into it and waits for room.

`proxyAidl` is `proxy` with this array and the FMQ of AIDL events.  The loop of `writeBlocking` takes
one action for each event, so that everything the mutex does not exclude can happen in between.  In
`proxy`, `mEventQueue.data` is what the FMQ of the HIDL build holds; the results compare the two.
-/
import Smi240Hal.Lib.Simulation
import Smi240Hal.MultiHal.Backlog
import Smi240Hal.MultiHal.ConvertUtils

namespace Smi240Hal.MultiHal

open Smi240Hal.Lib

/-! ## The wrapper -/

/-- `EventMessageQueueWrapperAidl`; `overrun` says that an index past the end of the array was
written. -/
structure EventMessageQueueWrapperAidl (A : Type) where
  mQueue : List A
  mIntermediateEventBuffer : List A
  overrun : Bool

namespace EventMessageQueueWrapperAidl

variable {A : Type}

/-- A new wrapper around an empty FMQ. -/
def construct [Inhabited A] (MAX_RECEIVE_BUFFER_EVENT_COUNT : Nat) :
    EventMessageQueueWrapperAidl A :=
  ⟨[], List.replicate MAX_RECEIVE_BUFFER_EVENT_COUNT default, false⟩

/-- `mIntermediateEventBuffer[i] = a`. -/
def store (q : EventMessageQueueWrapperAidl A) (i : Nat) (a : A) :
    EventMessageQueueWrapperAidl A :=
  if i < q.mIntermediateEventBuffer.length then
    { q with mIntermediateEventBuffer := q.mIntermediateEventBuffer.set i a }
  else { q with overrun := true }

/-- A copy into the array, from index `i` on. -/
def storeAll (q : EventMessageQueueWrapperAidl A) : Nat → List A → EventMessageQueueWrapperAidl A
  | _, [] => q
  | i, a :: as => (q.store i a).storeAll (i + 1) as

/-- The loop over `convertToAidlEvent`; `none` is its failed `CHECK`. -/
def convertAll (convertToAidlEvent : Event → Option A) (q : EventMessageQueueWrapperAidl A) :
    Nat → List Event → Option (EventMessageQueueWrapperAidl A)
  | _, [] => some q
  | i, e :: es => do
      let a ← convertToAidlEvent e
      (q.store i a).convertAll convertToAidlEvent (i + 1) es

/-- `write`; `writeSucceeds` is the answer of the FMQ. -/
def write (convertToAidlEvent : Event → Option A) (q : EventMessageQueueWrapperAidl A)
    (events : List Event) (writeSucceeds : Bool) : Option (EventMessageQueueWrapperAidl A) := do
  let q ← q.convertAll convertToAidlEvent 0 events
  some (if writeSucceeds then
      { q with mQueue := q.mQueue ++ q.mIntermediateEventBuffer.take events.length }
    else q)

/-- `read` of everything there is. -/
def readAll (q : EventMessageQueueWrapperAidl A) : EventMessageQueueWrapperAidl A :=
  { q.storeAll 0 q.mQueue with mQueue := [] }

/-- `as` has been copied into the array of `q`, from index `i` on and within its bounds. -/
structure Stored (q : EventMessageQueueWrapperAidl A) (i : Nat) (as : List A)
    (r : EventMessageQueueWrapperAidl A) : Prop where
  take_eq : r.mIntermediateEventBuffer.take (i + as.length) =
    q.mIntermediateEventBuffer.take i ++ as
  length_eq : r.mIntermediateEventBuffer.length = q.mIntermediateEventBuffer.length
  mQueue_eq : r.mQueue = q.mQueue
  overrun_eq : r.overrun = q.overrun

theorem stored_store {q : EventMessageQueueWrapperAidl A} {i : Nat}
    (hi : i < q.mIntermediateEventBuffer.length) (a : A) : Stored q i [a] (q.store i a) := by
  have hset : q.store i a = { q with
      mIntermediateEventBuffer := q.mIntermediateEventBuffer.set i a } := if_pos hi
  rw [hset]
  refine ⟨?_, List.length_set, rfl, rfl⟩
  show (q.mIntermediateEventBuffer.set i a).take (i + 1) = _
  rw [List.take_add_one, List.take_set_of_le (Nat.le_refl i), List.getElem?_set_self hi]
  rfl

theorem stored_storeAll {q : EventMessageQueueWrapperAidl A} {i : Nat} {as : List A}
    (hfits : i + as.length ≤ q.mIntermediateEventBuffer.length) :
    Stored q i as (q.storeAll i as) := by
  induction as generalizing q i with
  | nil => exact ⟨by simp [storeAll], rfl, rfl, rfl⟩
  | cons a as ih =>
      rw [List.length_cons] at hfits
      have hone := stored_store (q := q) (i := i) (by omega) a
      have hrest : Stored (q.store i a) (i + 1) as ((q.store i a).storeAll (i + 1) as) := by
        apply ih
        rw [hone.length_eq]
        omega
      have htake := hone.take_eq
      rw [List.length_singleton] at htake
      refine ⟨?_, hrest.length_eq.trans hone.length_eq, hrest.mQueue_eq.trans hone.mQueue_eq,
        hrest.overrun_eq.trans hone.overrun_eq⟩
      have hlen : i + (a :: as).length = i + 1 + as.length := by
        rw [List.length_cons]
        omega
      show ((q.store i a).storeAll (i + 1) as).mIntermediateEventBuffer.take _ = _
      rw [hlen, hrest.take_eq, htake, List.append_assoc]
      rfl

/-- The loop converts first to last; the copies are those of the converted events. -/
theorem convertAll_cases {convertToAidlEvent : Event → Option A}
    {q r : EventMessageQueueWrapperAidl A} {i : Nat} {events : List Event}
    (h : q.convertAll convertToAidlEvent i events = some r) :
    ∃ as, events.map convertToAidlEvent = as.map some ∧ r = q.storeAll i as := by
  induction events generalizing q i with
  | nil =>
      cases h
      exact ⟨[], rfl, rfl⟩
  | cons e es ih =>
      obtain ⟨a, ha, hrest⟩ := Option.bind_eq_some_iff.mp h
      obtain ⟨as, has, hr⟩ := ih hrest
      refine ⟨a :: as, ?_, hr⟩
      rw [List.map_cons, List.map_cons, ha, has]

/-- A direct write appends the converted events, or nothing. -/
theorem write_cases {convertToAidlEvent : Event → Option A} {q r : EventMessageQueueWrapperAidl A}
    {events : List Event} {writeSucceeds : Bool}
    (hfits : events.length ≤ q.mIntermediateEventBuffer.length)
    (h : q.write convertToAidlEvent events writeSucceeds = some r) :
    ∃ as, events.map convertToAidlEvent = as.map some ∧
      r.mQueue = q.mQueue ++ (if writeSucceeds then as else []) ∧
      r.mIntermediateEventBuffer.length = q.mIntermediateEventBuffer.length ∧
      r.overrun = q.overrun := by
  obtain ⟨p, hp, heq⟩ := Option.bind_eq_some_iff.mp h
  obtain ⟨as, has, rfl⟩ := convertAll_cases hp
  have hlen : events.length = as.length := by simpa using congrArg List.length has
  have hstored : q.Stored 0 as (q.storeAll 0 as) := stored_storeAll (by omega)
  have htake := hstored.take_eq
  rw [Nat.zero_add, List.take_zero, List.nil_append] at htake
  cases heq
  refine ⟨as, has, ?_⟩
  cases writeSucceeds with
  | false =>
      refine ⟨?_, hstored.length_eq, hstored.overrun_eq⟩
      show (q.storeAll 0 as).mQueue = q.mQueue ++ []
      rw [hstored.mQueue_eq, List.append_nil]
  | true =>
      refine ⟨?_, hstored.length_eq, hstored.overrun_eq⟩
      show (q.storeAll 0 as).mQueue ++ (q.storeAll 0 as).mIntermediateEventBuffer.take
        events.length = q.mQueue ++ as
      rw [hstored.mQueue_eq, hlen, htake]

end EventMessageQueueWrapperAidl

/-! ## The machine -/

/-- `HalProxy` over the wrapper. -/
structure ProxyAidl (A : Type) where
  proxy : Proxy
  mEventQueue : EventMessageQueueWrapperAidl A
  /-- `i` of the loop in `writeBlocking`. -/
  converted : Nat
  /-- The events the framework has read since the queues were last replaced. -/
  received : List A

/-- A step of the proxy, or of the thread behind its queue. -/
inductive ProxyAidlAct
  | proxy (a : ProxyAct)
  /-- The background thread converts the next event of its chunk. -/
  | convertNext

namespace ProxyAidl

variable {A : Type}

/-- The room in the AIDL queue; events under way to it are not counted. -/
def availableToWrite (s : ProxyAidl A) : Nat :=
  s.proxy.mEventQueue.quantumCount - s.mEventQueue.mQueue.length

/-- What `postEventsToMessageQueue` does with the FMQ. -/
def writeDirect (convertToAidlEvent : Event → Option A) (s : ProxyAidl A) (events : List Event)
    (writeSucceeds : Bool) : Option (ProxyAidl A) :=
  let numToWrite :=
    if s.proxy.mPendingWriteEventsQueue.isEmpty then min events.length s.availableToWrite else 0
  if 0 < numToWrite then do
    let q ← s.mEventQueue.write convertToAidlEvent (events.take numToWrite) writeSucceeds
    some { s with mEventQueue := q }
  else some s

/-- One round of the loop in `writeBlocking`. -/
def convertNext (convertToAidlEvent : Event → Option A) (s : ProxyAidl A) : Option (ProxyAidl A) :=
  match s.proxy.pendingWritesThread, s.proxy.mPendingWriteEventsQueue with
  | .writing _ _ numToWrite, (pendingWriteEvents, _) :: _ =>
      if s.converted < numToWrite then do
        let e ← pendingWriteEvents[s.converted]?
        let a ← convertToAidlEvent e
        some { s with
          mEventQueue := s.mEventQueue.store s.converted a
          converted := s.converted + 1 }
      else none
  | _, _ => none

/-- The end of `writeBlocking`: the FMQ takes what is in the array, or refuses. -/
def writeBlocking (s : ProxyAidl A) (writeSucceeds : Bool) : Option (ProxyAidl A) :=
  match s.proxy.pendingWritesThread with
  | .writing _ _ numToWrite =>
      if s.converted = numToWrite then
        if writeSucceeds then
          some { s with
            mEventQueue := { s.mEventQueue with
              mQueue := s.mEventQueue.mQueue ++
                s.mEventQueue.mIntermediateEventBuffer.take numToWrite } }
        else some s
      else none
  | _ => none

/-- What the wrapper does in an action of `HalProxy`. -/
def wrapperStep [Inhabited A] (convertToAidlEvent : Event → Option A)
    (MAX_RECEIVE_BUFFER_EVENT_COUNT : Nat) (s : ProxyAidl A) : ProxyAct → Option (ProxyAidl A)
  | .postWaiting k writeSucceeds _ => do
      let p ← s.proxy.posting[k]?
      s.writeDirect convertToAidlEvent p.events writeSucceeds
  | .pendingTake => some { s with converted := 0 }
  | .pendingWritten => s.writeBlocking true
  | .pendingFailed => s.writeBlocking false
  | .frameworkRead n =>
      some { s with
        mEventQueue := { s.mEventQueue with mQueue := s.mEventQueue.mQueue.drop n }
        received := s.received ++ s.mEventQueue.mQueue.take n }
  | .stopThreads => some { s with mEventQueue := s.mEventQueue.readAll }
  | .clearQueues _ =>
      some { s with
        mEventQueue := .construct MAX_RECEIVE_BUFFER_EVENT_COUNT
        received := [] }
  | _ => some s

/-- A step of the proxy is one of the queue wrapper too, where it writes or reads. -/
def step [Inhabited A] (env : Env) (convertToAidlEvent : Event → Option A)
    (MAX_RECEIVE_BUFFER_EVENT_COUNT : Nat) (s : ProxyAidl A) : ProxyAidlAct → Option (ProxyAidl A)
  | .proxy a => do
      let t ← s.proxy.step env a
      let r ← s.wrapperStep convertToAidlEvent MAX_RECEIVE_BUFFER_EVENT_COUNT a
      some { r with proxy := t }
  | .convertNext => s.convertNext convertToAidlEvent

end ProxyAidl

/-- The multi-HAL of the AIDL build, from the construction of `HalProxyAidl` on. -/
def proxyAidl {A : Type} [Inhabited A] (env : Env) (convertToAidlEvent : Event → Option A)
    (MAX_RECEIVE_BUFFER_EVENT_COUNT : Nat) : Machine (ProxyAidl A) ProxyAidlAct where
  Start s := ∃ now, s =
    ⟨.construct env now, .construct MAX_RECEIVE_BUFFER_EVENT_COUNT, 0, []⟩
  step := ProxyAidl.step env convertToAidlEvent MAX_RECEIVE_BUFFER_EVENT_COUNT

/-! ## The two builds compared -/

section Compared

variable {A : Type} {env : Env} {convertToAidlEvent : Event → Option A}
  {MAX_RECEIVE_BUFFER_EVENT_COUNT : Nat}

/-- The AIDL build runs the same `HalProxy`. -/
def proxySimulation [Inhabited A] (env : Env) (convertToAidlEvent : Event → Option A)
    (MAX_RECEIVE_BUFFER_EVENT_COUNT : Nat) :
    Simulation (proxyAidl env convertToAidlEvent MAX_RECEIVE_BUFFER_EVENT_COUNT) (proxy env) where
  Rel s x := s.proxy = x
  label
    | .proxy a => [a]
    | .convertNext => []
  start := by
    rintro s ⟨now, rfl⟩
    exact ⟨_, ⟨now, rfl⟩, rfl⟩
  step := by
    rintro s a t _ rfl h
    rcases a with a | _
    · obtain ⟨u, hu, hrest⟩ := Option.bind_eq_some_iff.mp h
      obtain ⟨r, _, heq⟩ := Option.bind_eq_some_iff.mp hrest
      cases heq
      refine ⟨u, ?_, rfl⟩
      rw [Machine.run_cons_eq_some]
      exact ⟨u, hu, rfl⟩
    · refine ⟨s.proxy, rfl, ?_⟩
      change s.convertNext convertToAidlEvent = some t at h
      unfold ProxyAidl.convertNext at h
      split at h
      · split at h
        · obtain ⟨e, _, hrest⟩ := Option.bind_eq_some_iff.mp h
          obtain ⟨b, _, heq⟩ := Option.bind_eq_some_iff.mp hrest
          cases heq
          rfl
        · cases h
      · cases h

theorem proxy_reach [Inhabited A] {s : ProxyAidl A}
    (h : (proxyAidl env convertToAidlEvent MAX_RECEIVE_BUFFER_EVENT_COUNT).Reach s) :
    (proxy env).Reach s.proxy := by
  obtain ⟨x, hx, rfl⟩ :=
    (proxySimulation env convertToAidlEvent MAX_RECEIVE_BUFFER_EVENT_COUNT).reach h
  exact hx

namespace ProxyAidl

/-- The background thread has converted the first `converted` events of its chunk, and as long as
the FMQ is in use, that is what the array holds. -/
def Converts (convertToAidlEvent : Event → Option A) (s : ProxyAidl A) : Prop :=
  ∀ num size n v num' rest, s.proxy.pendingWritesThread = .writing num size n →
    s.proxy.mPendingWriteEventsQueue = (v, num') :: rest →
    s.converted ≤ n ∧
      (s.proxy.InUse → (v.take s.converted).map convertToAidlEvent =
        (s.mEventQueue.mIntermediateEventBuffer.take s.converted).map some)

/-- The array is used within its bounds; the FMQ holds as many events as that of the HIDL build, and
as long as it is in use, the same. -/
structure Ok (convertToAidlEvent : Event → Option A) (MAX_RECEIVE_BUFFER_EVENT_COUNT : Nat)
    (s : ProxyAidl A) : Prop where
  array : s.mEventQueue.mIntermediateEventBuffer.length = MAX_RECEIVE_BUFFER_EVENT_COUNT
  inBounds : s.mEventQueue.overrun = false
  capacity : s.proxy.mEventQueue.quantumCount ≤ MAX_RECEIVE_BUFFER_EVENT_COUNT
  length_eq : s.mEventQueue.mQueue.length = s.proxy.mEventQueue.data.length
  converts : s.Converts convertToAidlEvent
  queue : s.proxy.InUse →
    s.proxy.mEventQueue.data.map convertToAidlEvent = s.mEventQueue.mQueue.map some
  received : s.proxy.InUse →
    s.proxy.session.received.map convertToAidlEvent = s.received.map some

theorem converts_intro {s : ProxyAidl A} {v : List Event} {num num' size n : Nat}
    {rest : List (List Event × Nat)} (hpc : s.proxy.pendingWritesThread = .writing num size n)
    (hq : s.proxy.mPendingWriteEventsQueue = (v, num') :: rest) (hle : s.converted ≤ n)
    (hsofar : s.proxy.InUse → (v.take s.converted).map convertToAidlEvent =
      (s.mEventQueue.mIntermediateEventBuffer.take s.converted).map some) :
    s.Converts convertToAidlEvent := by
  intro _ _ _ _ _ _ hpc' hq'
  rw [hpc] at hpc'
  rw [hq] at hq'
  cases hpc'
  cases hq'
  exact ⟨hle, hsofar⟩

theorem converts_of_not_writing {s : ProxyAidl A}
    (hpc : ∀ num size n, s.proxy.pendingWritesThread ≠ .writing num size n) :
    s.Converts convertToAidlEvent :=
  fun num size n _ _ _ hwriting _ => absurd hwriting (hpc num size n)

/-- The background thread writes the front of the pending queue. -/
theorem pending_of_writing {s : Proxy} (h : s.queues.Ok) {num size n : Nat}
    (hpc : s.pendingWritesThread = .writing num size n) :
    size = s.mEventQueue.quantumCount ∧
      ∃ v rest, s.mPendingWriteEventsQueue = (v, num) :: rest ∧ n = min v.length size := by
  have hchunk := h.chunk
  unfold Queues.Chunk at hchunk
  have hthread : s.queues.thread = .writing num size n := hpc
  rw [hthread] at hchunk
  exact hchunk

/-- What a direct write of `events` leaves: the FMQ has what it has in the HIDL build, and while
anything is pending nothing has changed. -/
structure DirectWrite (convertToAidlEvent : Event → Option A) (s : ProxyAidl A)
    (events : List Event) (writeSucceeds : Bool) (as : List A) (r : ProxyAidl A) : Prop where
  converted : (events.take (s.proxy.numToWrite events writeSucceeds)).map convertToAidlEvent =
    as.map some
  frame : r = { s with mEventQueue := r.mEventQueue }
  mQueue_eq : r.mEventQueue.mQueue = s.mEventQueue.mQueue ++ as
  array : r.mEventQueue.mIntermediateEventBuffer.length =
    s.mEventQueue.mIntermediateEventBuffer.length
  overrun_eq : r.mEventQueue.overrun = s.mEventQueue.overrun
  exclusive : s.proxy.mPendingWriteEventsQueue = [] ∨ r = s

theorem DirectWrite.nothing {s : ProxyAidl A} {events : List Event} {writeSucceeds : Bool}
    (h : s.proxy.numToWrite events writeSucceeds = 0) :
    DirectWrite convertToAidlEvent s events writeSucceeds [] s :=
  ⟨by rw [h]; rfl, rfl, (List.append_nil _).symm, rfl, rfl, Or.inr rfl⟩

theorem numToWrite_false (s : Proxy) (events : List Event) : s.numToWrite events false = 0 := by
  unfold Proxy.numToWrite
  rw [Bool.and_false]
  rfl

theorem directWrite_of_writeDirect {s r : ProxyAidl A}
    (hs : s.Ok convertToAidlEvent MAX_RECEIVE_BUFFER_EVENT_COUNT) {events : List Event}
    {writeSucceeds : Bool}
    (h : s.writeDirect convertToAidlEvent events writeSucceeds = some r) :
    ∃ as, DirectWrite convertToAidlEvent s events writeSucceeds as r := by
  -- the two builds see the same room, so they try to write the same events
  have htried : (if s.proxy.mPendingWriteEventsQueue.isEmpty then
      min events.length s.availableToWrite else 0) = s.proxy.numToWrite events true := by
    unfold availableToWrite Proxy.numToWrite Fmq.availableToWrite
    rw [hs.length_eq, Bool.and_true]
  unfold writeDirect at h
  rw [htried] at h
  dsimp only at h
  split at h
  case isFalse hzero =>
    cases h
    refine ⟨[], .nothing ?_⟩
    rcases writeSucceeds with _ | _
    · exact numToWrite_false s.proxy events
    · omega
  case isTrue hpos =>
    obtain ⟨q, hq, heq⟩ := Option.bind_eq_some_iff.mp h
    cases heq
    have hempty : s.proxy.mPendingWriteEventsQueue = [] :=
      (Proxy.numToWrite_spec s.proxy events true).2.resolve_right (by omega)
    have hfits : (events.take (s.proxy.numToWrite events true)).length ≤
        s.mEventQueue.mIntermediateEventBuffer.length := by
      have hroom := Proxy.length_take_numToWrite s.proxy events true
      have hcap := hs.capacity
      unfold Fmq.availableToWrite at hroom
      rw [hs.array]
      omega
    obtain ⟨as, has, hdata, harray, hover⟩ := EventMessageQueueWrapperAidl.write_cases hfits hq
    refine ⟨if writeSucceeds then as else [], ?_, rfl, hdata, harray, hover, Or.inl hempty⟩
    rcases writeSucceeds with _ | _
    · rw [numToWrite_false]
      rfl
    · exact has

/-- A post keeps the chunk of the background thread at the front and out of the way. -/
theorem ok_posted {s r : ProxyAidl A} {t : Proxy}
    (hs : s.Ok convertToAidlEvent MAX_RECEIVE_BUFFER_EVENT_COUNT) (hqueues : s.proxy.queues.Ok)
    {events : List Event} {writeSucceeds : Bool} {queued : List (List Event × Nat)}
    (h : s.writeDirect convertToAidlEvent events writeSucceeds = some r)
    (hfmq : t.mEventQueue = { s.proxy.mEventQueue with
      data := s.proxy.mEventQueue.data ++
        events.take (s.proxy.numToWrite events writeSucceeds) })
    (hthread : t.pendingWritesThread = s.proxy.pendingWritesThread)
    (hpending : t.mPendingWriteEventsQueue = s.proxy.mPendingWriteEventsQueue ++ queued)
    (hreceived : t.session.received = s.proxy.session.received)
    (hinit : t.initializing = s.proxy.initializing) :
    ({ r with proxy := t } : ProxyAidl A).Ok convertToAidlEvent MAX_RECEIVE_BUFFER_EVENT_COUNT := by
  obtain ⟨as, hw⟩ := directWrite_of_writeDirect hs h
  have huse : t.InUse → s.proxy.InUse := by
    unfold Proxy.InUse
    rw [hinit]
    exact id
  rw [hw.frame]
  refine ⟨hw.array.trans hs.array, hw.overrun_eq.trans hs.inBounds, ?_, ?_, ?_, fun hi => ?_,
    fun hi => ?_⟩
  · show t.mEventQueue.quantumCount ≤ _
    rw [hfmq]
    exact hs.capacity
  · show r.mEventQueue.mQueue.length = t.mEventQueue.data.length
    have hlen := congrArg List.length hw.converted
    rw [List.length_map, List.length_map] at hlen
    rw [hfmq, hw.mQueue_eq, List.length_append, List.length_append, hs.length_eq, hlen]
  · by_cases hwriting : ∃ num size n, s.proxy.pendingWritesThread = .writing num size n
    · obtain ⟨num, size, n, hpc⟩ := hwriting
      obtain ⟨_, v, rest, hq, _⟩ := pending_of_writing hqueues hpc
      -- the queue is not empty, so the array is as it was
      have hsame : r = s := hw.exclusive.resolve_left (by rw [hq]; nofun)
      have hfront : t.mPendingWriteEventsQueue = (v, num) :: (rest ++ queued) := by
        rw [hpending, hq]
        rfl
      obtain ⟨hle, hsofar⟩ := hs.converts _ _ _ _ _ _ hpc hq
      rw [hsame]
      exact converts_intro (hthread.trans hpc) hfront hle fun hi => hsofar (huse hi)
    · refine converts_of_not_writing fun num size n hpc => hwriting ⟨num, size, n, ?_⟩
      exact hthread.symm.trans hpc
  · show t.mEventQueue.data.map convertToAidlEvent = r.mEventQueue.mQueue.map some
    rw [hfmq, List.map_append, hs.queue (huse hi), hw.converted, hw.mQueue_eq, List.map_append]
  · show t.session.received.map convertToAidlEvent = s.received.map some
    rw [hreceived]
    exact hs.received (huse hi)

/-- `writeBlocking` is at its end only with the whole chunk converted. -/
theorem writeBlocking_cases {s r : ProxyAidl A} {num size n : Nat} {writeSucceeds : Bool}
    (hpc : s.proxy.pendingWritesThread = .writing num size n)
    (h : s.writeBlocking writeSucceeds = some r) :
    s.converted = n ∧ r = { s with
      mEventQueue := { s.mEventQueue with
        mQueue := s.mEventQueue.mQueue ++
          if writeSucceeds then s.mEventQueue.mIntermediateEventBuffer.take n else [] } } := by
  unfold writeBlocking at h
  rw [hpc] at h
  dsimp only at h
  split at h
  case isFalse => cases h
  case isTrue hall =>
    refine ⟨hall, ?_⟩
    rcases writeSucceeds with _ | _
    · cases h
      rw [if_neg (by decide), List.append_nil]
    · cases h
      rfl

theorem ok_written {s r : ProxyAidl A}
    (hs : s.Ok convertToAidlEvent MAX_RECEIVE_BUFFER_EVENT_COUNT) (hqueues : s.proxy.queues.Ok)
    {v : List Event} {num num' size n : Nat} {rest : List (List Event × Nat)}
    (hpc : s.proxy.pendingWritesThread = .writing num' size n)
    (hq : s.proxy.mPendingWriteEventsQueue = (v, num) :: rest)
    (h : s.writeBlocking true = some r) :
    ({ r with
      proxy := { s.proxy.writeEvents (v.take n) with
        pendingWritesThread := .relocking size n } } : ProxyAidl A).Ok
      convertToAidlEvent MAX_RECEIVE_BUFFER_EVENT_COUNT := by
  -- the whole chunk has been converted, so what is written is its conversion
  obtain ⟨hall, rfl⟩ := writeBlocking_cases hpc h
  obtain ⟨hsize, w, rest', hq', hn⟩ := pending_of_writing hqueues hpc
  obtain ⟨⟨rfl, rfl⟩, rfl⟩ : (v = w ∧ num = num') ∧ rest = rest' := by
    simpa using hq.symm.trans hq'
  obtain ⟨_, hchunk⟩ := hs.converts _ _ _ _ _ _ hpc hq
  refine ⟨hs.array, hs.inBounds, hs.capacity, ?_, converts_of_not_writing nofun, fun hi => ?_,
    hs.received⟩
  · show (s.mEventQueue.mQueue ++ s.mEventQueue.mIntermediateEventBuffer.take n).length =
      (s.proxy.mEventQueue.data ++ v.take n).length
    have hcap := hs.capacity
    rw [List.length_append, List.length_append, List.length_take, List.length_take, hs.array,
      hs.length_eq]
    omega
  · show (s.proxy.mEventQueue.data ++ v.take n).map convertToAidlEvent =
      (s.mEventQueue.mQueue ++ s.mEventQueue.mIntermediateEventBuffer.take n).map some
    rw [List.map_append, List.map_append, hs.queue hi, ← hall, hchunk hi]

theorem ok_convertNext {s t : ProxyAidl A}
    (hs : s.Ok convertToAidlEvent MAX_RECEIVE_BUFFER_EVENT_COUNT) (hqueues : s.proxy.queues.Ok)
    (h : s.convertNext convertToAidlEvent = some t) :
    t.Ok convertToAidlEvent MAX_RECEIVE_BUFFER_EVENT_COUNT := by
  unfold convertNext at h
  split at h
  case h_2 => cases h
  case h_1 num size n v num' rest hpc hq =>
    split at h
    case isFalse => cases h
    case isTrue hlt =>
      obtain ⟨e, he, hrest⟩ := Option.bind_eq_some_iff.mp h
      obtain ⟨a, ha, heq⟩ := Option.bind_eq_some_iff.mp hrest
      cases heq
      obtain ⟨hsize, _, _, _, hn⟩ := pending_of_writing hqueues hpc
      -- a chunk is no longer than the FMQ, and that is no longer than the array
      have hi : s.converted < s.mEventQueue.mIntermediateEventBuffer.length := by
        have hcap := hs.capacity
        rw [hs.array]
        omega
      have hstored := EventMessageQueueWrapperAidl.stored_store hi a
      have htake := hstored.take_eq
      rw [List.length_singleton] at htake
      refine ⟨hstored.length_eq.trans hs.array, hstored.overrun_eq.trans hs.inBounds, hs.capacity,
        ?_, ?_, ?_, hs.received⟩
      · show (s.mEventQueue.store s.converted a).mQueue.length = _
        rw [hstored.mQueue_eq]
        exact hs.length_eq
      · refine converts_intro hpc hq (Nat.succ_le_of_lt hlt) fun hi => ?_
        have hsofar := (hs.converts _ _ _ _ _ _ hpc hq).2 hi
        show (v.take (s.converted + 1)).map convertToAidlEvent =
          ((s.mEventQueue.store s.converted a).mIntermediateEventBuffer.take
            (s.converted + 1)).map some
        rw [htake, List.take_add_one, he, List.map_append, List.map_append, hsofar]
        show _ ++ [convertToAidlEvent e] = _
        rw [ha]
        rfl
      · show s.proxy.InUse → s.proxy.mEventQueue.data.map convertToAidlEvent =
          (s.mEventQueue.store s.converted a).mQueue.map some
        rw [hstored.mQueue_eq]
        exact hs.queue

/-- Every new FMQ fits into the array. -/
def Fits (MAX_RECEIVE_BUFFER_EVENT_COUNT : Nat) : ProxyAidlAct → Prop
  | .proxy (.clearQueues quantumCount) => quantumCount ≤ MAX_RECEIVE_BUFFER_EVENT_COUNT
  | _ => True

instance (a : ProxyAidlAct) : Decidable (Fits MAX_RECEIVE_BUFFER_EVENT_COUNT a) := by
  unfold Fits
  split <;> infer_instance

/-- An action that the wrapper has no part in. -/
theorem ok_elsewhere {s : ProxyAidl A} {t : Proxy}
    (hs : s.Ok convertToAidlEvent MAX_RECEIVE_BUFFER_EVENT_COUNT)
    (hfmq : t.mEventQueue = s.proxy.mEventQueue)
    (hthread : (∀ num size n, t.pendingWritesThread ≠ .writing num size n) ∨
      t.pendingWritesThread = s.proxy.pendingWritesThread ∧
        t.mPendingWriteEventsQueue = s.proxy.mPendingWriteEventsQueue)
    (hreceived : t.session.received = s.proxy.session.received)
    (huse : t.InUse → s.proxy.InUse) :
    ({ s with proxy := t } : ProxyAidl A).Ok convertToAidlEvent MAX_RECEIVE_BUFFER_EVENT_COUNT := by
  refine ⟨hs.array, hs.inBounds, ?_, ?_, ?_, fun hi => ?_, fun hi => ?_⟩
  · show t.mEventQueue.quantumCount ≤ _
    rw [hfmq]
    exact hs.capacity
  · show s.mEventQueue.mQueue.length = t.mEventQueue.data.length
    rw [hfmq]
    exact hs.length_eq
  · rcases hthread with hno | ⟨hthread, hpending⟩
    · exact converts_of_not_writing hno
    · intro num size n v num' rest hpc hq
      obtain ⟨hle, hsofar⟩ :=
        hs.converts num size n v num' rest (hthread.symm.trans hpc) (hpending.symm.trans hq)
      exact ⟨hle, fun hi => hsofar (huse hi)⟩
  · show t.mEventQueue.data.map convertToAidlEvent = _
    rw [hfmq]
    exact hs.queue (huse hi)
  · show t.session.received.map convertToAidlEvent = _
    rw [hreceived]
    exact hs.received (huse hi)

theorem ok_taken {s : ProxyAidl A} {v : List Event} {num size n : Nat}
    {rest : List (List Event × Nat)}
    (hs : s.Ok convertToAidlEvent MAX_RECEIVE_BUFFER_EVENT_COUNT)
    (hq : s.proxy.mPendingWriteEventsQueue = (v, num) :: rest) :
    ({ s with
      converted := 0
      proxy := { s.proxy with pendingWritesThread := .writing num size n } } : ProxyAidl A).Ok
      convertToAidlEvent MAX_RECEIVE_BUFFER_EVENT_COUNT :=
  ⟨hs.array, hs.inBounds, hs.capacity, hs.length_eq,
    converts_intro rfl hq (Nat.zero_le _) fun _ => rfl, hs.queue, hs.received⟩

theorem ok_frameworkRead {s : ProxyAidl A} {session : Session} (n : Nat)
    (hs : s.Ok convertToAidlEvent MAX_RECEIVE_BUFFER_EVENT_COUNT)
    (hsession : session.received = s.proxy.session.received ++ s.proxy.mEventQueue.data.take n) :
    ({ s with
      mEventQueue := { s.mEventQueue with mQueue := s.mEventQueue.mQueue.drop n }
      received := s.received ++ s.mEventQueue.mQueue.take n
      proxy := { s.proxy with
        mEventQueue := { s.proxy.mEventQueue with data := s.proxy.mEventQueue.data.drop n }
        session := session } } : ProxyAidl A).Ok
      convertToAidlEvent MAX_RECEIVE_BUFFER_EVENT_COUNT := by
  refine ⟨hs.array, hs.inBounds, hs.capacity, ?_, hs.converts, fun hi => ?_, fun hi => ?_⟩
  · show (s.mEventQueue.mQueue.drop n).length = (s.proxy.mEventQueue.data.drop n).length
    rw [List.length_drop, List.length_drop, hs.length_eq]
  · show (s.proxy.mEventQueue.data.drop n).map convertToAidlEvent =
      (s.mEventQueue.mQueue.drop n).map some
    rw [List.map_drop, List.map_drop, hs.queue hi]
  · show session.received.map convertToAidlEvent =
      (s.received ++ s.mEventQueue.mQueue.take n).map some
    rw [hsession, List.map_append, List.map_append, hs.received hi, List.map_take, List.map_take,
      hs.queue hi]

/-- `stopThreads` may read into the middle of a chunk that is being converted; it stays within the
array. -/
theorem ok_stopThreads {s : ProxyAidl A} {t : Proxy}
    (hs : s.Ok convertToAidlEvent MAX_RECEIVE_BUFFER_EVENT_COUNT) (hfmq : s.proxy.FmqOk)
    (hempty : t.mEventQueue = { s.proxy.mEventQueue with data := [] })
    (hthread : t.pendingWritesThread = s.proxy.pendingWritesThread)
    (hpending : t.mPendingWriteEventsQueue = s.proxy.mPendingWriteEventsQueue)
    (huse : ¬ t.InUse) :
    ({ s with mEventQueue := s.mEventQueue.readAll, proxy := t } : ProxyAidl A).Ok
      convertToAidlEvent MAX_RECEIVE_BUFFER_EVENT_COUNT := by
  have hfits : 0 + s.mEventQueue.mQueue.length ≤
      s.mEventQueue.mIntermediateEventBuffer.length := by
    rw [Nat.zero_add, hs.length_eq, hs.array]
    exact Nat.le_trans hfmq.fits hs.capacity
  have hread := EventMessageQueueWrapperAidl.stored_storeAll hfits
  refine ⟨hread.length_eq.trans hs.array, hread.overrun_eq.trans hs.inBounds, ?_, ?_, ?_,
    fun hi => absurd hi huse, fun hi => absurd hi huse⟩
  · show t.mEventQueue.quantumCount ≤ _
    rw [hempty]
    exact hs.capacity
  · show 0 = t.mEventQueue.data.length
    rw [hempty]
    rfl
  · intro num size n v num' rest hpc hq
    obtain ⟨hle, _⟩ :=
      hs.converts num size n v num' rest (hthread.symm.trans hpc) (hpending.symm.trans hq)
    exact ⟨hle, fun hi => absurd hi huse⟩

variable [Inhabited A]

theorem ok_construct (t : Proxy) (converted : Nat)
    (hcap : t.mEventQueue.quantumCount ≤ MAX_RECEIVE_BUFFER_EVENT_COUNT)
    (hdata : t.mEventQueue.data = []) (hreceived : t.session.received = [])
    (hthread : t.pendingWritesThread = .ended) :
    (⟨t, .construct MAX_RECEIVE_BUFFER_EVENT_COUNT, converted, []⟩ : ProxyAidl A).Ok
      convertToAidlEvent MAX_RECEIVE_BUFFER_EVENT_COUNT := by
  refine ⟨List.length_replicate, rfl, hcap, ?_, converts_of_not_writing ?_, fun _ => ?_, fun _ => ?_⟩
  · show 0 = t.mEventQueue.data.length
    rw [hdata]
    rfl
  · intro num size n hpc
    rw [hthread] at hpc
    cases hpc
  · show t.mEventQueue.data.map convertToAidlEvent = []
    rw [hdata]
    rfl
  · show t.session.received.map convertToAidlEvent = []
    rw [hreceived]
    rfl

/-- What one action of `HalProxy` keeps. -/
theorem ok_proxyStep {s r : ProxyAidl A} {t : Proxy} {a : ProxyAct}
    (hs : s.Ok convertToAidlEvent MAX_RECEIVE_BUFFER_EVENT_COUNT)
    (hreach : (MultiHal.proxy env).Reach s.proxy)
    (hfits : Fits MAX_RECEIVE_BUFFER_EVENT_COUNT (.proxy a)) (ht : s.proxy.step env a = some t)
    (hr : s.wrapperStep convertToAidlEvent MAX_RECEIVE_BUFFER_EVENT_COUNT a = some r) :
    ({ r with proxy := t } : ProxyAidl A).Ok convertToAidlEvent MAX_RECEIVE_BUFFER_EVENT_COUNT := by
  have hqueues := Proxy.queues_ok hreach
  cases Proxy.step_cases ht with
  | created =>
      cases hr
      exact ok_elsewhere hs rfl (Or.inr ⟨rfl, rfl⟩) rfl id
  | createdUnlocked =>
      cases hr
      exact hs
  | destroyed =>
      cases hr
      rw [Proxy.decrement_eq]
      exact ok_elsewhere hs rfl (Or.inr ⟨rfl, rfl⟩) rfl id
  | postRefused =>
      cases hr
      exact ok_elsewhere hs rfl (Or.inr ⟨rfl, rfl⟩) rfl id
  | postStarted =>
      cases hr
      exact ok_elsewhere hs rfl (Or.inr ⟨rfl, rfl⟩) rfl id
  | @posted k p writeSucceeds now hk =>
      obtain ⟨p', hk', hwrite⟩ := Option.bind_eq_some_iff.mp hr
      obtain rfl : p = p' := Option.some.inj (hk.symm.trans hk')
      exact ok_posted hs hqueues hwrite rfl rfl rfl rfl rfl
  | returned =>
      cases hr
      rw [Proxy.decrement_eq]
      exact ok_elsewhere hs rfl (Or.inr ⟨rfl, rfl⟩) rfl id
  | taken hpc hq =>
      cases hr
      exact ok_taken hs hq
  | wrote hpc hq => exact ok_written hs hqueues hpc hq hr
  | failed hpc hq =>
      obtain ⟨_, rfl⟩ := writeBlocking_cases hpc hr
      rw [if_neg (by decide), List.append_nil, Proxy.decrement_eq]
      exact ok_elsewhere hs rfl (Or.inl nofun) rfl id
  | relocked =>
      cases hr
      exact ok_elsewhere hs rfl (Or.inl nofun) rfl id
  | ended =>
      cases hr
      exact ok_elsewhere hs rfl (Or.inl nofun) rfl id
  | timedOut =>
      cases hr
      unfold Proxy.resetSharedWakelock
      rw [Proxy.decrement_eq]
      exact ok_elsewhere hs rfl (Or.inr ⟨rfl, rfl⟩) rfl id
  | reads =>
      cases hr
      exact ok_elsewhere hs rfl (Or.inr ⟨rfl, rfl⟩) rfl id
  | ackRead =>
      cases hr
      exact ok_elsewhere hs rfl (Or.inr ⟨rfl, rfl⟩) rfl id
  | ackNotRead =>
      cases hr
      exact ok_elsewhere hs rfl (Or.inr ⟨rfl, rfl⟩) rfl id
  | ackProcessed =>
      cases hr
      rw [Proxy.decrement_eq]
      exact ok_elsewhere hs rfl (Or.inr ⟨rfl, rfl⟩) rfl id
  | wakelocksEnded =>
      cases hr
      unfold Proxy.resetSharedWakelock
      rw [Proxy.decrement_eq]
      exact ok_elsewhere hs rfl (Or.inr ⟨rfl, rfl⟩) rfl id
  | @received n =>
      cases hr
      exact ok_frameworkRead n hs rfl
  | acked =>
      cases hr
      exact ok_elsewhere hs rfl (Or.inr ⟨rfl, rfl⟩) rfl id
  | stopped =>
      cases hr
      exact ok_stopThreads hs (Proxy.fmqOk_of_reach hreach) rfl rfl rfl
        (by rintro (hi | hi) <;> cases hi)
  | joined =>
      cases hr
      unfold Proxy.resetSharedWakelock
      rw [Proxy.decrement_eq]
      exact ok_elsewhere hs rfl (Or.inr ⟨rfl, rfl⟩) rfl (by rintro (hi | hi) <;> cases hi)
  | cleared hi =>
      cases hr
      -- the queues are replaced only after the background thread has been joined
      exact ok_construct _ _ hfits rfl rfl ((Proxy.phases_of_reach hreach).joined (Or.inl hi)).1
  | restarted hi =>
      cases hr
      exact ok_elsewhere hs rfl (Or.inl nofun) rfl fun _ => Or.inr hi

theorem ok_of_reach {s : ProxyAidl A}
    (h : (proxyAidl env convertToAidlEvent MAX_RECEIVE_BUFFER_EVENT_COUNT).ReachUnder
      (fun _ a => Fits MAX_RECEIVE_BUFFER_EVENT_COUNT a) s) :
    s.Ok convertToAidlEvent MAX_RECEIVE_BUFFER_EVENT_COUNT := by
  refine h.invariant_of_reach (P := Ok convertToAidlEvent MAX_RECEIVE_BUFFER_EVENT_COUNT) ?_ ?_
  · rintro s ⟨now, rfl⟩
    exact ok_construct _ _ (Nat.zero_le _) rfl rfl rfl
  · intro s a t hs hok hfits hstep
    rcases a with a | _
    · obtain ⟨u, hu, hrest⟩ := Option.bind_eq_some_iff.mp hstep
      obtain ⟨r, hr, heq⟩ := Option.bind_eq_some_iff.mp hrest
      cases heq
      exact ok_proxyStep hok (proxy_reach hs.reach) hfits hu hr
    · exact ok_convertNext hok (Proxy.queues_ok (proxy_reach hs.reach)) hstep

end ProxyAidl

/-- In every reachable state of the AIDL build, with FMQs no larger than the array:

* no index past the end of `mIntermediateEventBuffer` has been used;
* the room `HalProxy` sees is that of the HIDL build, so it decides the same;
* while the FMQ is in use, what the framework has read from it, followed by what it still holds, is
  what the HIDL build has written, converted one for one, although the posters, the background
  thread and `stopThreads` share the array;
* until its write, the chunk of the background thread stays in the array as converted. -/
theorem aidl_queue_right [Inhabited A] {s : ProxyAidl A}
    (h : (proxyAidl env convertToAidlEvent MAX_RECEIVE_BUFFER_EVENT_COUNT).ReachUnder
      (fun _ a => ProxyAidl.Fits MAX_RECEIVE_BUFFER_EVENT_COUNT a) s) :
    s.mEventQueue.overrun = false ∧
    s.availableToWrite = s.proxy.mEventQueue.availableToWrite ∧
    (s.proxy.InUse → s.proxy.session.written.map convertToAidlEvent =
      (s.received ++ s.mEventQueue.mQueue).map some) ∧
    (s.proxy.InUse → ∀ num size n, s.proxy.pendingWritesThread = .writing num size n →
      ∃ v rest, s.proxy.mPendingWriteEventsQueue = (v, num) :: rest ∧ s.converted ≤ n ∧
        (v.take s.converted).map convertToAidlEvent =
          (s.mEventQueue.mIntermediateEventBuffer.take s.converted).map some) := by
  have hok := ProxyAidl.ok_of_reach h
  have hreach := proxy_reach h.reach
  refine ⟨hok.inBounds, ?_, fun hi => ?_, fun hi num size n hpc => ?_⟩
  · unfold ProxyAidl.availableToWrite Fmq.availableToWrite
    rw [hok.length_eq]
  · rw [← (Proxy.fmqOk_of_reach hreach).written hi, List.map_append, List.map_append,
      hok.received hi, hok.queue hi]
  · obtain ⟨_, v, rest, hq, _⟩ := ProxyAidl.pending_of_writing (Proxy.queues_ok hreach) hpc
    obtain ⟨hle, hsofar⟩ := hok.converts num size n v num rest hpc hq
    exact ⟨v, rest, hq, hle, hsofar hi⟩

end Compared

/-- The event as the conversions see it: `dynamicSensorHandle` is the second word of the union. -/
def Event.toHidl (e : Event) : Hidl.Event :=
  let words := [e.data.getD 0 0, e.dynamicSensorHandle] ++ e.data.drop 1
  { timestamp := e.timestamp
    sensorHandle := e.sensorHandle.toInt
    sensorType := e.sensorType
    u := fun i => (words.getD (i.val / 4) 0).extractLsb' (8 * (i.val % 4)) 8 }

instance : Inhabited Aidl.Event :=
  ⟨⟨0, 0, 0, .vec3 ⟨fun _ => 0#8, fun _ => 0#8, fun _ => 0#8, fun _ => 0#8⟩⟩⟩

/-- `secondEventWaits` in the AIDL build, where the second event is converted before the framework
has read the first. -/
def secondEventConverted : List ProxyAidlAct :=
  [.proxy .stopThreads, .proxy (.resetAfterJoin 1), .proxy (.clearQueues 1), .proxy .restartThreads,
    .proxy (.postEvents 0 [⟨5, 1, 1, 0, []⟩] none), .proxy (.postWaiting 0 true 6),
    .proxy (.postEvents 0 [⟨7, 1, 1, 0, []⟩] none), .proxy (.postWaiting 0 true 8),
    .proxy .pendingTake, .convertNext]

/-- The AIDL build with the conversion of the source and an array for two events. -/
def plainProxyAidl : Machine (ProxyAidl Aidl.Event) ProxyAidlAct :=
  proxyAidl plainEnv (fun e => convertToAidlEvent e.toHidl) 2

def plainStart : ProxyAidl Aidl.Event := ⟨.construct plainEnv 0, .construct 2, 0, []⟩

theorem aidl_queue_right_second_waits : ∃ s,
    plainProxyAidl.run plainStart
        (secondEventConverted ++ [.proxy (.frameworkRead 1), .proxy .pendingWritten]) = some s ∧
      s.received.map Aidl.Event.timestamp = [5] ∧
      s.mEventQueue.mQueue.map Aidl.Event.timestamp = [7] ∧
      s.proxy.session.written.map (fun e => convertToAidlEvent e.toHidl) =
        (s.received ++ s.mEventQueue.mQueue).map some := by
  have hstart : plainProxyAidl.ReachUnder (fun _ a => ProxyAidl.Fits 2 a) plainStart :=
    .start ⟨0, rfl⟩
  have hrun : plainProxyAidl.runUnder (fun _ a => ProxyAidl.Fits 2 a) plainStart
      (secondEventConverted ++ [.proxy (.frameworkRead 1), .proxy .pendingWritten]) = some _ := rfl
  exact ⟨_, rfl, rfl, rfl, (aidl_queue_right (hstart.of_runUnder hrun)).2.2.1 (Or.inl rfl)⟩

/-- `stopThreads` reads the first event into the array while the second, converted, waits there for
room; the blocking write then writes the first again, and not the second.  The FMQ is about to be
replaced. -/
theorem stopThreads_overwrites : ∃ s,
    plainProxyAidl.run plainStart
        (secondEventConverted ++ [.proxy .stopThreads, .proxy .pendingWritten]) = some s ∧
      s.proxy.mEventQueue.data.map Event.timestamp = [7] ∧
      s.mEventQueue.mQueue.map Aidl.Event.timestamp = [5] :=
  ⟨_, rfl, rfl, rfl⟩

end Smi240Hal.MultiHal
