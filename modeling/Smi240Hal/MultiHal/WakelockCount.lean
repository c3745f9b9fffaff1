/-
# Smi240Hal.MultiHal.WakelockCount — the reference count against what it stands for

A reference on the shared wake lock stands for a live locked `ScopedWakelock` or for a posted wake-up
event that has not been acknowledged.  The count can be wrong in two directions.  Too low, and the
lock is released while an event is outstanding; too high, and it is held for nothing until the
timeout.  `Counted` is what always holds; `Covered` and `Returned` are the two directions.  Each of
them survives every step except a few, and `CoverOk` and `ReturnOk` name these.
-/
import Smi240Hal.MultiHal.EventOrder

namespace Smi240Hal.MultiHal

open Smi240Hal.Lib

theorem countP_take_add_drop {α : Type*} (p : α → Bool) (l : List α) (n : Nat) :
    (l.take n).countP p + (l.drop n).countP p = l.countP p := by
  rw [← List.countP_append, List.take_append_drop]

section WakeUps

variable (env : Env)

@[simp] theorem wakeUps_append (es fs : List Event) :
    env.wakeUps (es ++ fs) = env.wakeUps es + env.wakeUps fs := List.countP_append

@[simp] theorem staticWakeUps_append (es fs : List Event) :
    env.staticWakeUps (es ++ fs) = env.staticWakeUps es + env.staticWakeUps fs :=
  List.countP_append

theorem staticWakeUps_le (events : List Event) : env.staticWakeUps events ≤ env.wakeUps events := by
  apply List.countP_mono_left
  intro e _ he
  unfold Env.isWakeUp
  rw [he]
  rfl

theorem staticWakeUps_eq {events : List Event}
    (h : ∀ e ∈ events, env.isWakeUp e = true → env.isStaticWakeUp e = true) :
    env.staticWakeUps events = env.wakeUps events :=
  Nat.le_antisymm (staticWakeUps_le env events) (List.countP_mono_left h)

theorem staticWakeUps_take_add_drop (events : List Event) (n : Nat) :
    env.staticWakeUps (events.take n) + env.staticWakeUps (events.drop n) =
      env.staticWakeUps events :=
  countP_take_add_drop _ _ _

theorem wakeUps_take_add_drop (events : List Event) (n : Nat) :
    env.wakeUps (events.take n) + env.wakeUps (events.drop n) = env.wakeUps events :=
  countP_take_add_drop _ _ _

end WakeUps

/-- The acknowledgements that `handleWakelocks` has read and not processed. -/
def WakelockLoop.inHand : WakelockLoop → Nat
  | .processing n => n
  | _ => 0

namespace Proxy

/-- The acknowledgements the framework has written and `handleWakelocks` has not processed. -/
def acksInFlight (s : Proxy) : Nat := s.mWakeLockQueue.sum + s.wakelockThread.inHand

/-- What always holds: the numbers kept with the events, the order written, received, acknowledged,
handled, and that a positive count comes with the lock. -/
structure Counted (env : Env) (s : Proxy) : Prop where
  tables : ∀ h, s.tables.staticWakeUp h = (SensorTables.construct env.reported).staticWakeUp h
  posting : ∀ p ∈ s.posting, p.numWakeupEvents = env.staticWakeUps p.events
  pending : ∀ v num, (v, num) ∈ s.mPendingWriteEventsQueue → env.staticWakeUps v ≤ num
  acks : s.acksInFlight + s.session.handled = s.session.acked
  acked : s.session.acked ≤ env.wakeUps s.session.received
  received : env.wakeUps s.session.received + env.wakeUps s.mEventQueue.data ≤
    env.wakeUps s.session.written
  held : 0 < s.mWakelockRefCount → s.wakeLockHeld = true

theorem Counted.count {env : Env} {s : Proxy} (h : s.Counted env) (events : List Event) :
    staticWakeUpCount s.tables events = env.staticWakeUps events :=
  staticWakeUpCount_congr h.tables events

theorem Counted.handled_le {env : Env} {s : Proxy} (h : s.Counted env) :
    s.session.handled + s.acksInFlight ≤ env.wakeUps s.session.written := by
  have hacks := h.acks
  have hacked := h.acked
  have hreceived := h.received
  omega

/-- `acks`, with what `handleWakelocks` has in hand where it is. -/
theorem Counted.acks_at {env : Env} {s : Proxy} (h : s.Counted env) {pc : WakelockLoop}
    (hpc : s.wakelockThread = pc) :
    s.mWakeLockQueue.sum + pc.inHand + s.session.handled = s.session.acked := by
  rw [← hpc]
  exact h.acks

/-- A number added at the end of the wake-lock FMQ is in flight. -/
theorem acksInFlight_push (s : Proxy) (n : Nat) (u : WakelockLoop) :
    (s.mWakeLockQueue ++ [n]).sum + u.inHand = s.mWakeLockQueue.sum + u.inHand + n := by
  rw [List.sum_append, List.sum_singleton]
  omega

/-! ## What always holds -/

theorem held_decrement {s : Proxy} (hs : 0 < s.mWakelockRefCount → s.wakeLockHeld = true)
    (delta : Nat) (timeoutStart : Int) :
    0 < s.refAfter delta timeoutStart → s.heldAfter delta timeoutStart = true := by
  unfold refAfter heldAfter
  intro hpos
  split at hpos
  case isTrue hcounts =>
    rw [if_neg (fun h => by omega)]
    exact hs (by omega)
  case isFalse hno =>
    rw [if_neg (fun h => hno h.1)]
    exact hs hpos

theorem counted_decrement {env : Env} {s : Proxy} (hs : s.Counted env) (delta : Nat)
    (timeoutStart : Int) :
    (s.decrementRefCountAndMaybeReleaseWakelock delta timeoutStart).Counted env := by
  rw [decrement_eq]
  exact { hs with held := held_decrement hs.held delta timeoutStart }

theorem counted_reset {env : Env} {s : Proxy} (hs : s.Counted env) (now : Int) :
    (s.resetSharedWakelock now).Counted env :=
  { counted_decrement hs s.mWakelockRefCount (-1) with }

theorem held_acquire {s : Proxy} (hs : 0 < s.mWakelockRefCount → s.wakeLockHeld = true) :
    (s.wakeLockHeld || s.mWakelockRefCount == 0) = true := by
  rcases Nat.eq_zero_or_pos s.mWakelockRefCount with hzero | hpos
  · rw [hzero]
    exact Bool.or_true _
  · rw [hs hpos]
    rfl

theorem counted_wroteOrQueued {env : Env} {s : Proxy} (hs : s.Counted env) {p : Posting}
    (hp : p.numWakeupEvents = env.staticWakeUps p.events) (n : Nat) :
    (s.wroteOrQueued p n).Counted env where
  tables := hs.tables
  posting := hs.posting
  pending := by
    intro v num hmem
    rcases List.mem_append.mp hmem with hold | hnew
    · exact hs.pending v num hold
    · unfold queuedPart at hnew
      split at hnew
      case isTrue =>
        cases List.mem_singleton.mp hnew
        have := staticWakeUps_take_add_drop env p.events n
        omega
      case isFalse => cases hnew
  acks := hs.acks
  acked := hs.acked
  received := by
    have := hs.received
    show env.wakeUps s.session.received + env.wakeUps (s.mEventQueue.data ++ p.events.take n) ≤
      env.wakeUps (s.session.written ++ p.events.take n)
    rw [wakeUps_append, wakeUps_append]
    omega
  held := hs.held

theorem counted_afterPost {env : Env} {s : Proxy} (hs : s.Counted env) {p : Posting}
    (hp : p.numWakeupEvents = env.staticWakeUps p.events) (n : Nat) (now : Int) :
    (s.afterPost p n now).Counted env := by
  apply counted_wroteOrQueued ?_ hp
  refine { hs with held := ?_ }
  show 0 < s.refTaken p → s.heldTaken p = true
  unfold refTaken heldTaken
  intro hpos
  split
  case isTrue => exact held_acquire hs.held
  case isFalse hno =>
    rw [if_neg hno] at hpos
    exact hs.held hpos

theorem counted_relock {env : Env} {s : Proxy} (hs : s.Counted env) {v : List Event}
    {num : Nat} {rest : List (List Event × Nat)}
    (hq : s.mPendingWriteEventsQueue = (v, num) :: rest) (size : Nat) :
    ∀ w m, (w, m) ∈ (if size < v.length then (v.drop size, num) :: rest else rest) →
      env.staticWakeUps w ≤ m := by
  have hfront : env.staticWakeUps v ≤ num := hs.pending v num (by rw [hq]; simp)
  have hrest : ∀ w m, (w, m) ∈ rest → env.staticWakeUps w ≤ m :=
    fun w m hmem => hs.pending w m (by rw [hq]; simp [hmem])
  intro w m hmem
  split at hmem
  case isTrue =>
    rcases List.mem_cons.mp hmem with heq | hmem
    · cases heq
      have := staticWakeUps_take_add_drop env v size
      omega
    · exact hrest w m hmem
  case isFalse => exact hrest w m hmem

theorem counted_step {env : Env} {s t : Proxy} {a : ProxyAct} (hphases : s.Phases)
    (hs : s.Counted env) (h : s.step env a = some t) : t.Counted env := by
  cases step_cases h with
  | created => exact { hs with held := fun _ => held_acquire hs.held }
  | createdUnlocked => exact hs
  | destroyed =>
      rw [decrement_eq]
      exact { hs with held := held_decrement hs.held _ _ }
  | postRefused => exact { hs with }
  | @postStarted i events k wakelock live =>
      refine { hs with tables := fun h => ?_, posting := fun p hp => ?_ }
      · rw [SensorTables.staticWakeUp_lookups]
        exact hs.tables h
      · rcases List.mem_append.mp hp with hp | hp
        · exact hs.posting p hp
        · cases List.mem_singleton.mp hp
          exact hs.count _
  | @posted k p _ _ hk =>
      have hmem : p ∈ s.posting := List.mem_of_getElem? hk
      refine counted_afterPost ?_ (hs.posting p hmem) _ _
      exact { hs with posting := fun p' hp' => hs.posting p' (List.mem_of_mem_eraseIdx hp') }
  | returned =>
      rw [decrement_eq]
      exact { hs with held := held_decrement hs.held _ _ }
  | taken => exact { hs with }
  | @wrote v num num' size n rest =>
      refine { hs with received := ?_ }
      have := hs.received
      show env.wakeUps s.session.received + env.wakeUps (s.mEventQueue.data ++ v.take n) ≤
        env.wakeUps (s.session.written ++ v.take n)
      rw [wakeUps_append, wakeUps_append]
      omega
  | failed =>
      rw [decrement_eq]
      refine { hs with tables := fun h => ?_, held := held_decrement hs.held _ _ }
      rw [SensorTables.staticWakeUp_lookups]
      exact hs.tables h
  | relocked _ hq => exact { hs with pending := counted_relock hs hq _ }
  | ended => exact { hs with }
  | timedOut => exact counted_reset hs _
  | reads hpc =>
      have hacks := hs.acks_at hpc
      exact { hs with acks := hacks }
  | @ackRead n rest hpc hq =>
      have hacks : s.mWakeLockQueue.sum + 0 + s.session.handled = s.session.acked := hs.acks_at hpc
      rw [hq, List.sum_cons] at hacks
      refine { hs with acks := ?_ }
      show rest.sum + n + s.session.handled = s.session.acked
      omega
  | ackNotRead hpc =>
      have hacks := hs.acks_at hpc
      exact { hs with acks := hacks }
  | @ackProcessed n hpc =>
      have hacks : s.mWakeLockQueue.sum + n + s.session.handled = s.session.acked := hs.acks_at hpc
      rw [decrement_eq]
      refine { hs with held := held_decrement hs.held n (-1), acks := ?_ }
      show s.mWakeLockQueue.sum + 0 + (s.session.handled + n) = s.session.acked
      omega
  | wakelocksEnded hpc =>
      have hacks := hs.acks_at hpc
      unfold resetSharedWakelock
      rw [decrement_eq]
      exact { hs with held := held_decrement hs.held _ (-1), acks := hacks }
  | @received n =>
      refine { hs with acked := ?_, received := ?_ }
      · have := hs.acked
        show s.session.acked ≤ env.wakeUps (s.session.received ++ s.mEventQueue.data.take n)
        rw [wakeUps_append]
        omega
      · have := hs.received
        have := wakeUps_take_add_drop env s.mEventQueue.data n
        show env.wakeUps (s.session.received ++ s.mEventQueue.data.take n) +
          env.wakeUps (s.mEventQueue.data.drop n) ≤ env.wakeUps s.session.written
        rw [wakeUps_append]
        omega
  | @acked n hn =>
      have hacks := hs.acks
      unfold acksInFlight at hacks
      refine { hs with acks := ?_, acked := hn }
      show (s.mWakeLockQueue ++ [n]).sum + s.wakelockThread.inHand + s.session.handled =
        s.session.acked + n
      rw [acksInFlight_push]
      omega
  | stopped =>
      refine { hs with acks := ?_, received := ?_ }
      · -- the 0 that wakes the reader acknowledges nothing
        show (s.mWakeLockQueue ++ [0]).sum + s.wakelockThread.inHand + s.session.handled =
          s.session.acked
        rw [acksInFlight_push]
        exact hs.acks
      · have := hs.received
        show env.wakeUps s.session.received + 0 ≤ env.wakeUps s.session.written
        omega
  | @joined now => exact { counted_reset hs now with }
  | cleared hi =>
      have hwl : s.wakelockThread = .ended := (hphases.joined (Or.inl hi)).2
      refine { hs with pending := by nofun, acks := ?_, acked := Nat.zero_le _, received := ?_ }
      · unfold acksInFlight
        dsimp only
        rw [hwl]
        rfl
      · exact Nat.le_refl 0
  | restarted hi =>
      have hacks := hs.acks_at (hphases.joined (Or.inr hi)).2
      exact { hs with acks := hacks }

theorem counted_construct (env : Env) (now : Int) : (Proxy.construct env now).Counted env where
  tables _ := rfl
  posting := by nofun
  pending := by nofun
  acks := rfl
  acked := Nat.le_refl 0
  received := Nat.le_refl 0
  held := by nofun

theorem counted_of_reach {env : Env} {s : Proxy} (h : (proxy env).Reach s) : s.Counted env := by
  refine Machine.Reach.invariant_of_reach (P := Counted env) ?_ ?_ h
  · rintro s ⟨now, rfl⟩
    exact counted_construct env now
  · intro s a t hs hcounted hstep
    exact counted_step (phases_of_reach hs) hcounted hstep

/-- An invariant whose step lemma rests on what always holds. -/
theorem invariant_of_counted {env : Env} {G : Proxy → ProxyAct → Prop} {P : Proxy → Prop}
    (hstart : ∀ now, P (.construct env now))
    (hstep : ∀ s a t, s.Phases → s.queues.Ok → s.Counted env → t.Counted env → P s → G s a →
      s.step env a = some t → P t)
    {s : Proxy} (h : (proxy env).ReachUnder G s) : P s := by
  refine h.invariant_of_reach ?_ ?_
  · rintro s ⟨now, rfl⟩
    exact hstart now
  · intro s a t hs hp hok ht
    exact hstep s a t (phases_of_reach hs.reach) (queues_ok hs.reach) (counted_of_reach hs.reach)
      (counted_of_reach (hs.next hok ht).reach) hp hok ht

/-! ## The wake locks that are alive -/

theorem perm_middle_toList {α : Type*} (xs ys : List α) (o : Option α) :
    (o.toList ++ xs ++ ys).Perm (xs ++ (o.toList ++ ys)) := by
  rw [← List.append_assoc xs]
  exact List.Perm.append_right ys List.perm_append_comm

/-- A `ScopedWakelock` that a sub-HAL destroys was alive. -/
theorem liveWakelocks_destroyed {s : Proxy} {k : Nat} {createdAt : Int}
    (hk : s.live[k]? = some createdAt) :
    s.liveWakelocks.Perm (createdAt :: { s with live := s.live.eraseIdx k }.liveWakelocks) := by
  unfold liveWakelocks
  exact ((perm_cons_eraseIdx hk).append_right _).append_right _

/-- So was one that is destroyed when its post returns. -/
theorem liveWakelocks_returned {s : Proxy} {k : Nat} {createdAt : Int}
    (hk : s.returning[k]? = some createdAt) :
    s.liveWakelocks.Perm
      (createdAt :: { s with returning := s.returning.eraseIdx k }.liveWakelocks) := by
  unfold liveWakelocks
  exact ((perm_cons_eraseIdx hk).append_left _).trans List.perm_middle

/-- A post that is refused keeps its `ScopedWakelock` until it returns. -/
theorem liveWakelocks_refused {s : Proxy} {wakelock : Option Int} {live : List Int}
    (hlive : s.live.Perm (wakelock.toList ++ live)) :
    s.liveWakelocks.Perm { s with
      live := live
      returning := wakelock.toList ++ s.returning }.liveWakelocks := by
  unfold liveWakelocks
  apply ((hlive.append_right _).append_right _).trans
  rw [List.append_assoc wakelock.toList]
  exact perm_middle_toList _ _ _

/-- A post takes its `ScopedWakelock` along, ... -/
theorem liveWakelocks_started {s : Proxy} {wakelock : Option Int} {live : List Int}
    (hlive : s.live.Perm (wakelock.toList ++ live)) {tables : SensorTables} {events : List Event}
    {num : Nat} :
    s.liveWakelocks.Perm { s with
      live := live
      tables := tables
      posting := s.posting ++ [(⟨events, num, wakelock⟩ : Posting)] }.liveWakelocks := by
  unfold liveWakelocks
  refine List.Perm.append_right _ ((hlive.append_right _).trans ?_)
  dsimp only
  have hone : [(⟨events, num, wakelock⟩ : Posting)].filterMap Posting.wakelock =
      wakelock.toList := by
    cases wakelock <;> rfl
  rw [List.filterMap_append, hone, ← List.append_assoc, List.append_assoc]
  exact List.perm_append_comm

/-- ... and it stays alive until the post returns. -/
theorem liveWakelocks_posted {s : Proxy} {k : Nat} {p : Posting} (hk : s.posting[k]? = some p) :
    s.liveWakelocks.Perm { s with
      posting := s.posting.eraseIdx k
      returning := p.wakelock.toList ++ s.returning }.liveWakelocks := by
  unfold liveWakelocks
  dsimp only
  have hmap : (s.posting.filterMap Posting.wakelock).Perm
      (p.wakelock.toList ++ (s.posting.eraseIdx k).filterMap Posting.wakelock) := by
    apply ((perm_cons_eraseIdx hk).filterMap _).trans
    rw [List.filterMap_cons]
    cases p.wakelock <;> exact List.Perm.refl _
  rw [List.append_assoc, List.append_assoc]
  refine List.Perm.append_left _ ((hmap.append_right _).trans ?_)
  exact perm_middle_toList _ _ _

end Proxy

end Smi240Hal.MultiHal
