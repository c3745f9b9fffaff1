/-
# Smi240Hal.MultiHal.AidlBacklog — what has been posted gets through the AIDL build

Between `HalProxy` and the AIDL event FMQ stand the conversions.  A direct write converts all its
events first, `writeBlocking` takes them one after the other while the posters, the framework and the
wake locks go on.  An event that `convertToAidlEvent` does not know ends the process; while the events
on their way convert, the steps of the HIDL build that finish something are not held up, and each
conversion is one step more.
-/
import Smi240Hal.MultiHal.AidlEventQueue

namespace Smi240Hal.MultiHal

open Smi240Hal.Lib

/-- A step that finishes something. -/
def ProxyAidlAct.Drains : ProxyAidlAct → Prop
  | .proxy a => a.Drains
  | .convertNext => True

theorem ProxyAidlAct.Drains.fits {MAX_RECEIVE_BUFFER_EVENT_COUNT : Nat} {a : ProxyAidlAct}
    (h : a.Drains) : ProxyAidl.Fits MAX_RECEIVE_BUFFER_EVENT_COUNT a := by
  rcases a with a | _
  · cases a with
    | clearQueues => exact absurd h id
    | _ => exact trivial
  · exact trivial

section Drained

variable {A : Type} {env : Env} {convertToAidlEvent : Event → Option A}
  {MAX_RECEIVE_BUFFER_EVENT_COUNT : Nat}

namespace EventMessageQueueWrapperAidl

theorem exists_convertAll {q : EventMessageQueueWrapperAidl A} {i : Nat} {events : List Event}
    (h : ∀ e ∈ events, (convertToAidlEvent e).isSome) :
    ∃ r, q.convertAll convertToAidlEvent i events = some r := by
  induction events generalizing q i with
  | nil => exact ⟨q, rfl⟩
  | cons e es ih =>
      obtain ⟨a, ha⟩ := Option.isSome_iff_exists.mp (h e List.mem_cons_self)
      obtain ⟨r, hr⟩ := ih (q := q.store i a) (i := i + 1)
        fun e' he' => h e' (List.mem_cons_of_mem e he')
      refine ⟨r, ?_⟩
      rw [convertAll, ha]
      exact hr

theorem exists_write (q : EventMessageQueueWrapperAidl A) {events : List Event}
    (writeSucceeds : Bool) (h : ∀ e ∈ events, (convertToAidlEvent e).isSome) :
    ∃ r, q.write convertToAidlEvent events writeSucceeds = some r := by
  obtain ⟨p, hp⟩ := exists_convertAll (q := q) (i := 0) h
  unfold write
  rw [hp]
  exact ⟨_, rfl⟩

end EventMessageQueueWrapperAidl

namespace ProxyAidl

/-! ## What is left to do -/

/-- The events of its chunk the background thread has not converted yet. -/
def unconverted (s : ProxyAidl A) : Nat :=
  match s.proxy.pendingWritesThread with
  | .writing _ _ numToWrite => numToWrite - s.converted
  | _ => 0

/-- A chunk is no longer than the array, so a step of `HalProxy` pays for the conversions that follow
it. -/
def backlog (MAX_RECEIVE_BUFFER_EVENT_COUNT : Nat) (s : ProxyAidl A) : Nat :=
  (MAX_RECEIVE_BUFFER_EVENT_COUNT + 1) * s.proxy.backlog + s.unconverted

theorem unconverted_le {s : ProxyAidl A}
    (hs : s.Ok convertToAidlEvent MAX_RECEIVE_BUFFER_EVENT_COUNT) (hqueues : s.proxy.queues.Ok) :
    s.unconverted ≤ MAX_RECEIVE_BUFFER_EVENT_COUNT := by
  unfold unconverted
  split
  case h_1 num size n hpc =>
    obtain ⟨hsize, v, rest, _, hn⟩ := pending_of_writing hqueues hpc
    have hcap := hs.capacity
    omega
  case h_2 => exact Nat.zero_le _

/-- A conversion changes nothing `HalProxy` sees. -/
theorem convertNext_cases {s t : ProxyAidl A} (h : s.convertNext convertToAidlEvent = some t) :
    ∃ num size n, s.proxy.pendingWritesThread = .writing num size n ∧ s.converted < n ∧
      t.proxy = s.proxy ∧ t.converted = s.converted + 1 := by
  unfold convertNext at h
  split at h
  case h_2 => cases h
  case h_1 num size n v num' rest hpc hq =>
    split at h
    case isFalse => cases h
    case isTrue hlt =>
      obtain ⟨e, _, hrest⟩ := Option.bind_eq_some_iff.mp h
      obtain ⟨a, _, heq⟩ := Option.bind_eq_some_iff.mp hrest
      cases heq
      exact ⟨num, size, n, hpc, hlt, rfl, rfl⟩

theorem backlog_convertNext {s t : ProxyAidl A} (h : s.convertNext convertToAidlEvent = some t) :
    t.backlog MAX_RECEIVE_BUFFER_EVENT_COUNT < s.backlog MAX_RECEIVE_BUFFER_EVENT_COUNT := by
  obtain ⟨num, size, n, hpc, hlt, hproxy, hconverted⟩ := convertNext_cases h
  have hless : t.unconverted < s.unconverted := by
    unfold unconverted
    rw [hproxy, hpc, hconverted]
    show n - (s.converted + 1) < n - s.converted
    omega
  unfold backlog
  rw [hproxy]
  exact Nat.add_lt_add_left hless _

theorem backlog_proxy {s t : ProxyAidl A} (h : t.proxy.backlog < s.proxy.backlog)
    (hle : t.unconverted ≤ MAX_RECEIVE_BUFFER_EVENT_COUNT) :
    t.backlog MAX_RECEIVE_BUFFER_EVENT_COUNT < s.backlog MAX_RECEIVE_BUFFER_EVENT_COUNT := by
  unfold backlog
  calc (MAX_RECEIVE_BUFFER_EVENT_COUNT + 1) * t.proxy.backlog + t.unconverted
      < (MAX_RECEIVE_BUFFER_EVENT_COUNT + 1) * t.proxy.backlog +
          (MAX_RECEIVE_BUFFER_EVENT_COUNT + 1) := by omega
    _ = (MAX_RECEIVE_BUFFER_EVENT_COUNT + 1) * (t.proxy.backlog + 1) := by rw [Nat.mul_succ]
    _ ≤ (MAX_RECEIVE_BUFFER_EVENT_COUNT + 1) * s.proxy.backlog := Nat.mul_le_mul_left _ h
    _ ≤ _ := Nat.le_add_right _ _

/-! ## The conversions hold nothing up -/

theorem exists_writeDirect {s : ProxyAidl A} {events : List Event} (writeSucceeds : Bool)
    (h : ∀ e ∈ events, (convertToAidlEvent e).isSome) :
    ∃ r, s.writeDirect convertToAidlEvent events writeSucceeds = some r := by
  unfold writeDirect
  generalize (if s.proxy.mPendingWriteEventsQueue.isEmpty then
    min events.length s.availableToWrite else 0) = numToWrite
  by_cases hpos : 0 < numToWrite
  · obtain ⟨q, hq⟩ := s.mEventQueue.exists_write writeSucceeds
      fun e he => h e (List.mem_of_mem_take (i := numToWrite) he)
    refine ⟨{ s with mEventQueue := q }, ?_⟩
    simp only [hpos, if_true, hq]
    rfl
  · exact ⟨s, if_neg hpos⟩

/-- `writeBlocking` comes to its end, or has an event to convert. -/
theorem writeBlocking_or_convertNext {s : ProxyAidl A}
    (hs : s.Ok convertToAidlEvent MAX_RECEIVE_BUFFER_EVENT_COUNT) (hqueues : s.proxy.queues.Ok)
    {num size n : Nat} (hpc : s.proxy.pendingWritesThread = .writing num size n)
    (hconverts : ∀ e ∈ pendingEvents s.proxy.mPendingWriteEventsQueue,
      (convertToAidlEvent e).isSome) (writeSucceeds : Bool) :
    (∃ r, s.writeBlocking writeSucceeds = some r) ∨
      ∃ t, s.convertNext convertToAidlEvent = some t := by
  obtain ⟨_, v, rest, hq, hn⟩ := pending_of_writing hqueues hpc
  obtain ⟨hle, _⟩ := hs.converts num size n v num rest hpc hq
  rcases Nat.eq_or_lt_of_le hle with hall | hlt
  · refine Or.inl ?_
    unfold writeBlocking
    rw [hpc]
    dsimp only
    rw [if_pos hall]
    rcases writeSucceeds with _ | _
    · exact ⟨_, rfl⟩
    · exact ⟨_, rfl⟩
  · refine Or.inr ?_
    have hin : s.converted < v.length := by omega
    have hmem : v[s.converted] ∈ pendingEvents s.proxy.mPendingWriteEventsQueue := by
      rw [hq, pendingEvents_cons]
      exact List.mem_append_left _ (List.getElem_mem hin)
    obtain ⟨a, ha⟩ := Option.isSome_iff_exists.mp (hconverts _ hmem)
    unfold convertNext
    rw [hpc, hq]
    dsimp only
    rw [if_pos hlt, List.getElem?_eq_getElem hin, Option.bind_eq_bind, Option.bind_some, ha]
    exact ⟨_, rfl⟩

variable [Inhabited A]

/-- Where `HalProxy` could finish something, the build can. -/
theorem drains_enabled {s : ProxyAidl A} {u : Proxy} {a : ProxyAct}
    (hs : s.Ok convertToAidlEvent MAX_RECEIVE_BUFFER_EVENT_COUNT) (hqueues : s.proxy.queues.Ok)
    (hconverts : ∀ e ∈ s.proxy.session.posted ++ s.proxy.waitingEvents,
      (convertToAidlEvent e).isSome)
    (ha : a.Drains) (h : s.proxy.step env a = some u) :
    ∃ b t, ProxyAidlAct.Drains b ∧
      s.step env convertToAidlEvent MAX_RECEIVE_BUFFER_EVENT_COUNT b = some t := by
  have hstep : ∀ {r : ProxyAidl A},
      s.wrapperStep convertToAidlEvent MAX_RECEIVE_BUFFER_EVENT_COUNT a = some r →
      ∃ b t, ProxyAidlAct.Drains b ∧
        s.step env convertToAidlEvent MAX_RECEIVE_BUFFER_EVENT_COUNT b = some t := by
    intro r hr
    refine ⟨.proxy a, { r with proxy := u }, ha, ?_⟩
    rw [step, h, Option.bind_eq_bind, Option.bind_some, hr]
    rfl
  -- what is pending has been posted
  have hpending : (∀ size n, s.proxy.pendingWritesThread ≠ .relocking size n) →
      ∀ e ∈ pendingEvents s.proxy.mPendingWriteEventsQueue, (convertToAidlEvent e).isSome := by
    intro hpc e he
    rw [← Proxy.awaiting_eq hpc] at he
    have hposted := (hqueues.account.mem_iff e).mpr (Or.inl (List.mem_append_right _ he))
    exact hconverts e (List.mem_append_left _ hposted)
  cases Proxy.step_cases h with
  | created | createdUnlocked | destroyed | postRefused | postStarted | ended | timedOut | reads |
    ackRead | ackNotRead | ackProcessed | wakelocksEnded | acked | stopped | joined | cleared |
    restarted => exact absurd ha id
  | @posted k p writeSucceeds now hk =>
      have hevents : ∀ e ∈ p.events, (convertToAidlEvent e).isSome := by
        intro e he
        refine hconverts e (List.mem_append_right _ ?_)
        exact List.mem_flatMap.mpr ⟨p, List.mem_of_getElem? hk, he⟩
      obtain ⟨r, hr⟩ := exists_writeDirect (s := s) writeSucceeds hevents
      apply hstep (r := r)
      rw [wrapperStep, hk]
      exact hr
  | returned | taken | relocked | received => exact hstep rfl
  | wrote hpc =>
      rcases writeBlocking_or_convertNext hs hqueues hpc (hpending (by rw [hpc]; nofun)) true with
        ⟨r, hr⟩ | ⟨t, ht⟩
      · exact hstep hr
      · exact ⟨.convertNext, t, trivial, ht⟩
  | failed hpc =>
      rcases writeBlocking_or_convertNext hs hqueues hpc (hpending (by rw [hpc]; nofun)) false with
        ⟨r, hr⟩ | ⟨t, ht⟩
      · exact hstep hr
      · exact ⟨.convertNext, t, trivial, ht⟩

end ProxyAidl

/-! ## Nothing is left -/

/-- What such steps keep; `s` is the state they started from. -/
structure DrainingAidl [Inhabited A] (env : Env) (convertToAidlEvent : Event → Option A)
    (MAX_RECEIVE_BUFFER_EVENT_COUNT : Nat) (s t : ProxyAidl A) : Prop where
  reach : (proxyAidl env convertToAidlEvent MAX_RECEIVE_BUFFER_EVENT_COUNT).ReachUnder
    (fun _ a => ProxyAidl.Fits MAX_RECEIVE_BUFFER_EVENT_COUNT a) t
  draining : Draining env s.proxy t.proxy

namespace DrainingAidl

variable [Inhabited A] {s t u : ProxyAidl A}

theorem ok (h : DrainingAidl env convertToAidlEvent MAX_RECEIVE_BUFFER_EVENT_COUNT s t) :
    t.Ok convertToAidlEvent MAX_RECEIVE_BUFFER_EVENT_COUNT := ProxyAidl.ok_of_reach h.reach

theorem queues (h : DrainingAidl env convertToAidlEvent MAX_RECEIVE_BUFFER_EVENT_COUNT s t) :
    t.proxy.queues.Ok := Proxy.queues_ok h.draining.reach

theorem step (h : DrainingAidl env convertToAidlEvent MAX_RECEIVE_BUFFER_EVENT_COUNT s t)
    {a : ProxyAidlAct} (ha : a.Drains)
    (hstep : t.step env convertToAidlEvent MAX_RECEIVE_BUFFER_EVENT_COUNT a = some u) :
    DrainingAidl env convertToAidlEvent MAX_RECEIVE_BUFFER_EVENT_COUNT s u ∧
      u.backlog MAX_RECEIVE_BUFFER_EVENT_COUNT < t.backlog MAX_RECEIVE_BUFFER_EVENT_COUNT := by
  have hreach := Machine.ReachUnder.next h.reach ha.fits hstep
  rcases a with a | _
  · obtain ⟨p, hp, hrest⟩ := Option.bind_eq_some_iff.mp hstep
    obtain ⟨r, _, heq⟩ := Option.bind_eq_some_iff.mp hrest
    have hproxy : u.proxy = p := (congrArg ProxyAidl.proxy (Option.some.inj heq)).symm
    have hnext : DrainingAidl env convertToAidlEvent MAX_RECEIVE_BUFFER_EVENT_COUNT s u :=
      ⟨hreach, hproxy ▸ h.draining.step ha hp⟩
    refine ⟨hnext, ProxyAidl.backlog_proxy ?_ (ProxyAidl.unconverted_le hnext.ok hnext.queues)⟩
    rw [hproxy]
    exact Proxy.drains_lower h.queues (Proxy.noEmptyVector_of_reach h.draining.reach)
      h.draining.capacity ha hp
  · obtain ⟨_, _, _, _, _, hproxy, _⟩ := ProxyAidl.convertNext_cases hstep
    exact ⟨⟨hreach, hproxy ▸ h.draining⟩, ProxyAidl.backlog_convertNext hstep⟩

theorem converts (h : DrainingAidl env convertToAidlEvent MAX_RECEIVE_BUFFER_EVENT_COUNT s t)
    (hconverts : ∀ e ∈ s.proxy.session.posted ++ s.proxy.waitingEvents,
      (convertToAidlEvent e).isSome) :
    ∀ e ∈ t.proxy.session.posted ++ t.proxy.waitingEvents, (convertToAidlEvent e).isSome :=
  fun e he => hconverts e (h.draining.events.mem_iff.mp he)

/-- Where no step is left `HalProxy` has none either. -/
theorem stuck (h : DrainingAidl env convertToAidlEvent MAX_RECEIVE_BUFFER_EVENT_COUNT s t)
    (hconverts : ∀ e ∈ s.proxy.session.posted ++ s.proxy.waitingEvents,
      (convertToAidlEvent e).isSome)
    (hstuck : ∀ a : ProxyAidlAct, a.Drains →
      t.step env convertToAidlEvent MAX_RECEIVE_BUFFER_EVENT_COUNT a = none) :
    ∀ a : ProxyAct, a.Drains → t.proxy.step env a = none := by
  intro a ha
  by_contra hsome
  obtain ⟨u, hu⟩ := Option.ne_none_iff_exists'.mp hsome
  obtain ⟨b, v, hb, hv⟩ := ProxyAidl.drains_enabled h.ok h.queues (h.converts hconverts) ha hu
  cases (hstuck b hb).symm.trans hv

end DrainingAidl

/-- The AIDL build delivers what the HIDL build delivers.  In any state between two calls of
`initializeCommon`, with FMQs that hold at least one event and fit into the array, and with events
that convert: the posts that wait, the conversions and writes of the background thread and the
framework's reads end.  Then nothing is pending, and what the framework has read are the conversions,
in the order in which they were posted, of all events that were not dropped. -/
theorem converted_events_arrive [Inhabited A] {s : ProxyAidl A}
    (h : (proxyAidl env convertToAidlEvent MAX_RECEIVE_BUFFER_EVENT_COUNT).ReachUnder
      (fun _ a => ProxyAidl.Fits MAX_RECEIVE_BUFFER_EVENT_COUNT a) s)
    (hup : s.proxy.initializing = .notRunning) (hset : s.proxy.callbackSet = true)
    (hcapacity : 0 < s.proxy.mEventQueue.quantumCount)
    (hconverts : ∀ e ∈ s.proxy.session.posted ++ s.proxy.waitingEvents,
      (convertToAidlEvent e).isSome) :
    (proxyAidl env convertToAidlEvent MAX_RECEIVE_BUFFER_EVENT_COUNT).EndsIn ProxyAidlAct.Drains
      (s.backlog MAX_RECEIVE_BUFFER_EVENT_COUNT) (fun t =>
        (t.proxy.posting = [] ∧ t.proxy.mPendingWriteEventsQueue = [] ∧
          t.mEventQueue.mQueue = []) ∧
        t.proxy.session.posted.Perm (s.proxy.session.posted ++ s.proxy.waitingEvents) ∧
        ∃ arrived, Accounts t.proxy.session.posted arrived
            (t.proxy.session.droppedFull ++ t.proxy.session.droppedFailed) ∧
          arrived.map convertToAidlEvent = t.received.map some) s := by
  apply Machine.endsIn_of_rank
    (I := DrainingAidl env convertToAidlEvent MAX_RECEIVE_BUFFER_EVENT_COUNT s)
    (r := ProxyAidl.backlog MAX_RECEIVE_BUFFER_EVENT_COUNT)
  · intro t a u ht ha hstep
    exact ht.step ha hstep
  · intro t ht hstuck
    have hblocked := ht.stuck hconverts hstuck
    obtain ⟨hposting, _, hpending, hdata⟩ := ht.draining.stuck hblocked
    obtain ⟨_, hposted, haccount⟩ := (posted_events_arrive ht.draining.reach ht.draining.notRunning
      ht.draining.callbackSet ht.draining.capacity).last [] t.proxy nofun rfl hblocked
    refine ⟨⟨hposting, hpending, ?_⟩, ?_, t.proxy.session.received, haccount, ?_⟩
    · apply List.eq_nil_of_length_eq_zero
      rw [ht.ok.length_eq, hdata, List.length_nil]
    · exact hposted.trans ht.draining.events
    · exact ht.ok.received (Or.inl ht.draining.notRunning)
  · exact ⟨h, proxy_reach h.reach, hup, hset, hcapacity, List.Perm.refl _⟩

end Drained

/-- The first event is in the FMQ, the second is converted and waits for room, the third waits for
the mutex. -/
theorem converted_events_arrive_third_waits : ∃ s,
    plainProxyAidl.run plainStart
        (secondEventConverted ++ [.proxy (.postEvents 0 [⟨9, 1, 1, 0, []⟩] none)]) = some s ∧
      s.mEventQueue.mQueue.map Aidl.Event.timestamp = [5] ∧ s.converted = 1 ∧
      plainProxyAidl.EndsIn ProxyAidlAct.Drains (s.backlog 2) (fun t =>
        (t.proxy.posting = [] ∧ t.proxy.mPendingWriteEventsQueue = [] ∧
          t.mEventQueue.mQueue = []) ∧
        t.proxy.session.posted.Perm (s.proxy.session.posted ++ s.proxy.waitingEvents) ∧
        ∃ arrived, Accounts t.proxy.session.posted arrived
            (t.proxy.session.droppedFull ++ t.proxy.session.droppedFailed) ∧
          arrived.map (fun e => convertToAidlEvent e.toHidl) = t.received.map some) s := by
  have hstart : plainProxyAidl.ReachUnder (fun _ a => ProxyAidl.Fits 2 a) plainStart :=
    .start ⟨0, rfl⟩
  have hrun : plainProxyAidl.runUnder (fun _ a => ProxyAidl.Fits 2 a) plainStart
      (secondEventConverted ++ [.proxy (.postEvents 0 [⟨9, 1, 1, 0, []⟩] none)]) = some _ := rfl
  refine ⟨_, rfl, rfl, rfl, converted_events_arrive (hstart.of_runUnder hrun) rfl rfl ?_ ?_⟩
  · exact Nat.one_pos
  · intro e he
    have hevents : e ∈ [⟨5, 1, 1, 0, []⟩, ⟨7, 1, 1, 0, []⟩, ⟨9, 1, 1, 0, []⟩] := he
    simp only [List.mem_cons, List.not_mem_nil, or_false] at hevents
    rcases hevents with rfl | rfl | rfl
    · rfl
    · rfl
    · rfl

end Smi240Hal.MultiHal
