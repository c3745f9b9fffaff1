/-
# Smi240Hal.MultiHal.PendingSize — the counter `mSizePendingWriteEventsQueue`

The counter goes up when a post queues what is left of it, and down by `numToWrite` when the
background thread has the mutex again, which is after other posts.  It is the number of pending
events in between as well, because `numToWrite` was computed from the vector that is still at the
front of the queue.  No vector of the queue is ever empty.
-/
import Smi240Hal.MultiHal.EventOrder
import Mathlib.Algebra.Order.Ring.Nat

namespace Smi240Hal.MultiHal

open Smi240Hal.Lib

namespace Proxy

/-! ## The vectors in the queue -/

/-- No entry of the pending queue is without events. -/
def NoEmptyVector (s : Proxy) : Prop := ∀ p ∈ s.mPendingWriteEventsQueue, p.1 ≠ []

theorem NoEmptyVector.of_queues {s t : Proxy} (hs : s.NoEmptyVector) (h : t.queues = s.queues) :
    t.NoEmptyVector := by
  have hsame : t.mPendingWriteEventsQueue = s.mPendingWriteEventsQueue :=
    congrArg Queues.pending h
  intro p hp
  rw [hsame] at hp
  exact hs p hp

/-- A post queues a vector only when there is something left. -/
theorem queuedPart_ne_nil {s : Proxy} {eventsLeft : List Event} {num : Nat}
    {p : List Event × Nat} (hp : p ∈ s.queuedPart eventsLeft num) : p.1 ≠ [] := by
  unfold queuedPart at hp
  split at hp
  case isTrue hfits =>
    rw [List.mem_singleton.mp hp]
    exact List.length_pos_iff.mp hfits.1
  case isFalse => exact absurd hp List.not_mem_nil

/-- The front vector is shortened only when it is longer than the event FMQ. -/
theorem mem_relocked {v : List Event} {num size : Nat} {rest : List (List Event × Nat)}
    {p : List Event × Nat}
    (hp : p ∈ if size < v.length then (v.drop size, num) :: rest else rest) :
    p.1 ≠ [] ∨ p ∈ rest := by
  split at hp
  case isTrue hlong =>
    rcases List.mem_cons.mp hp with rfl | hp
    · apply Or.inl
      rw [← List.length_pos_iff, List.length_drop]
      omega
    · exact Or.inr hp
  case isFalse => exact Or.inr hp

theorem NoEmptyVector.step {env : Env} {s t : Proxy} {a : ProxyAct} (hs : s.NoEmptyVector)
    (h : s.step env a = some t) : t.NoEmptyVector := by
  cases step_cases h with
  | created => exact hs
  | createdUnlocked => exact hs
  | destroyed => exact hs.of_queues (queues_decrement _ _ _)
  | postRefused => exact hs
  | postStarted => exact hs
  | posted =>
      intro p hp
      rcases List.mem_append.mp hp with hp | hp
      · exact hs p hp
      · exact queuedPart_ne_nil hp
  | returned => exact hs.of_queues (queues_decrement _ _ _)
  | taken => exact hs
  | wrote => exact hs
  | failed =>
      rw [decrement_eq]
      exact hs
  | relocked hpc hq =>
      intro p hp
      rcases mem_relocked hp with hne | hp
      · exact hne
      · apply hs p
        rw [hq]
        exact List.mem_cons_of_mem _ hp
  | ended => exact hs
  | @timedOut now resetNow => exact hs.of_queues (queues_resetSharedWakelock s resetNow)
  | reads => exact hs
  | ackRead => exact hs
  | ackNotRead => exact hs
  | ackProcessed =>
      rw [decrement_eq]
      exact hs
  | @wakelocksEnded now => exact hs.of_queues (queues_resetSharedWakelock s now)
  | received => exact hs
  | acked => exact hs
  | stopped => exact hs
  | @joined now => exact hs.of_queues (queues_resetSharedWakelock s now)
  | cleared => exact nofun
  | restarted => exact hs

theorem noEmptyVector_of_reach {env : Env} {s : Proxy} (h : (proxy env).Reach s) :
    s.NoEmptyVector := by
  apply Machine.Reach.invariant _ _ h
  · rintro s ⟨now, rfl⟩
    exact nofun
  · intro s a t hs hstep
    exact hs.step hstep

/-! ## The subtraction -/

/-- What the background thread is about to subtract is in the front vector. -/
theorem numToWrite_le_size {s : Proxy} (h : s.queues.Ok) {eventQueueSize numToWrite : Nat}
    (hpc : s.pendingWritesThread = .relocking eventQueueSize numToWrite) :
    numToWrite ≤ s.mSizePendingWriteEventsQueue := by
  have hsize : s.mSizePendingWriteEventsQueue = (pendingEvents s.queues.pending).length := h.size_eq
  rw [hsize]
  exact Queues.chunk_le_pending h.chunk hpc

/-- It is the subtraction of natural numbers. -/
theorem relock_size {env : Env} {s t : Proxy} (h : s.queues.Ok) {eventQueueSize numToWrite : Nat}
    (hpc : s.pendingWritesThread = .relocking eventQueueSize numToWrite)
    (hstep : s.step env .pendingRelock = some t) :
    t.mSizePendingWriteEventsQueue + numToWrite = s.mSizePendingWriteEventsQueue := by
  have hle := numToWrite_le_size h hpc
  have hbound : s.mSizePendingWriteEventsQueue ≤ kMaxSizePendingWriteEventsQueue := h.bound
  have hsmall : kMaxSizePendingWriteEventsQueue < 2 ^ 64 := by
    unfold kMaxSizePendingWriteEventsQueue
    omega
  cases step_cases hstep with
  | @relocked v num size n rest hpc' hq =>
      rw [hpc] at hpc'
      cases hpc'
      show subSize s.mSizePendingWriteEventsQueue numToWrite + numToWrite = _
      rw [subSize_eq hle (by omega)]
      omega

end Proxy

/-- In every state between two critical sections the counter is the number of events in the pending
vectors and within its bound, no vector is empty, and when the background thread is to subtract what
it has taken the counter is at least that. -/
theorem pending_size_counts {env : Env} {s : Proxy} (h : (proxy env).Reach s) :
    s.mSizePendingWriteEventsQueue =
      (s.mPendingWriteEventsQueue.map fun p => p.1.length).sum ∧
    s.mSizePendingWriteEventsQueue ≤ kMaxSizePendingWriteEventsQueue ∧
    (∀ p ∈ s.mPendingWriteEventsQueue, p.1 ≠ []) ∧
    ∀ eventQueueSize numToWrite,
      s.pendingWritesThread = .relocking eventQueueSize numToWrite →
      numToWrite ≤ s.mSizePendingWriteEventsQueue ∧
      ∀ t, s.step env .pendingRelock = some t →
        t.mSizePendingWriteEventsQueue + numToWrite = s.mSizePendingWriteEventsQueue := by
  have hok := Proxy.queues_ok h
  have hsize : s.mSizePendingWriteEventsQueue =
      (pendingEvents s.mPendingWriteEventsQueue).length := hok.size_eq
  refine ⟨?_, hok.bound, Proxy.noEmptyVector_of_reach h, ?_⟩
  · rw [hsize, pendingEvents, List.length_flatMap]
  · intro eventQueueSize numToWrite hpc
    refine ⟨Proxy.numToWrite_le_size hok hpc, ?_⟩
    intro t hstep
    exact Proxy.relock_size hok hpc hstep

/-- With room for one event, three are pending while the front of the queue is being written. -/
theorem pending_size_counts_relocking : ∃ s,
    (proxy plainEnv).run (.construct plainEnv 0) (secondEventWaits ++
      [.postEvents 0 [⟨9, 1, 1, 0, []⟩, ⟨10, 1, 1, 0, []⟩] none, .postWaiting 0 true 11]) = some s ∧
      s.pendingWritesThread = .relocking 1 1 ∧ s.mSizePendingWriteEventsQueue = 3 ∧
      (∀ p ∈ s.mPendingWriteEventsQueue, p.1 ≠ []) ∧
      ∀ t, s.step plainEnv .pendingRelock = some t → t.mSizePendingWriteEventsQueue + 1 = 3 := by
  have hstart : (proxy plainEnv).Reach (.construct plainEnv 0) := .start ⟨0, rfl⟩
  have hrun : (proxy plainEnv).run (.construct plainEnv 0) (secondEventWaits ++
      [.postEvents 0 [⟨9, 1, 1, 0, []⟩, ⟨10, 1, 1, 0, []⟩] none, .postWaiting 0 true 11]) =
        some _ := rfl
  obtain ⟨-, -, hvectors, hsubtract⟩ := pending_size_counts (hstart.of_run hrun)
  exact ⟨_, hrun, rfl, rfl, hvectors, (hsubtract 1 1 rfl).2⟩

end Smi240Hal.MultiHal
