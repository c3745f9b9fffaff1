/-
# Smi240Hal.Direct.WakeLockAcks — writing, acknowledging and counting, in any order

`postEvents` writes a batch of wake-up events to the event FMQ and only then calls `updateWakeLock`;
the framework may have read and acknowledged the events in between, and the other thread may have
consumed the acknowledgement.  `directHal` is the interleaving of the three parties.  `mWriteLock` is
held over the whole of `postEvents`, so at most one batch is written and not yet counted.

`updateWakeLock` does not go below 0: what an acknowledgement exceeds the counter by is lost, and the
batch that is counted afterwards stays.  `overAcked` adds that up.
-/
import Smi240Hal.Lib.Machine
import Smi240Hal.Direct.WakeLock

namespace Smi240Hal.Direct

open Smi240Hal.Lib

/-- A direct HAL and the framework; an event in the FMQ is whether it is a wake-up event. -/
structure DirectHal where
  lock : WakeLock
  quantumCount : Nat
  mEventQueue : List Bool
  mWakeLockQueue : List Nat
  /-- The size of a batch of wake-up events that is written and not yet counted. -/
  posting : Option Nat
  /-- How many wake-up events were written, read by the framework, acknowledged by it, and handled by
  `readWakeLockFMQ`. -/
  written : Nat
  received : Nat
  acked : Nat
  handled : Nat
  /-- By how much acknowledgements exceeded the counter when they were handled. -/
  overAcked : Nat

/-- A step of a sensor thread, of the framework, or of the thread that reads the wake-lock queue. -/
inductive DirectHalAct
  /-- `postEvents` up to its FMQ write. -/
  | write (size : Nat) (wakeup : Bool)
  /-- The rest of `postEvents`. -/
  | count (platform : Platform)
  | frameworkRead (n : Nat)
  | frameworkAck (n : Nat)
  /-- One round of `readWakeLockFMQ`, with and without an acknowledgement. -/
  | handle (platform : Platform)
  | readTimesOut (platform : Platform)
deriving DecidableEq

namespace DirectHal

variable (hal : Hal) (seconds : Nat)

/-- A write that does not fit fails and leaves everything as it is. -/
def write (s : DirectHal) (size : Nat) (wakeup : Bool) : Option DirectHal :=
  if s.posting ≠ none then none
  else if s.quantumCount < s.mEventQueue.length + size then some s
  else some { s with
    mEventQueue := s.mEventQueue ++ List.replicate size wakeup
    posting := if wakeup then some size else none
    written := if wakeup then s.written + size else s.written }

/-- `updateWakeLock` with the events just written. -/
def count (s : DirectHal) (platform : Platform) : Option DirectHal :=
  match s.posting with
  | some size => some { s with
      lock := hal.updateWakeLock seconds s.lock (BitVec.ofNat 32 size) 0 platform
      posting := none }
  | none => none

/-- The framework takes the oldest `n` events. -/
def frameworkRead (s : DirectHal) (n : Nat) : Option DirectHal :=
  if n ≤ s.mEventQueue.length then
    some { s with
      mEventQueue := s.mEventQueue.drop n
      received := s.received + (s.mEventQueue.take n).count true }
  else none

/-- The framework acknowledges wake-up events it has read, each once. -/
def frameworkAck (s : DirectHal) (n : Nat) : Option DirectHal :=
  if s.acked + n ≤ s.received then
    some { s with
      mWakeLockQueue := s.mWakeLockQueue ++ [n]
      acked := s.acked + n }
  else none

/-- `updateWakeLock` with the next acknowledgement, which may be of more events than are
outstanding. -/
def handle (s : DirectHal) (platform : Platform) : Option DirectHal :=
  match s.mWakeLockQueue with
  | n :: rest => some { s with
      lock := hal.updateWakeLock seconds s.lock 0 (BitVec.ofNat 32 n) platform
      mWakeLockQueue := rest
      handled := s.handled + n
      overAcked := s.overAcked + (n - s.lock.mOutstandingWakeUpEvents.toNat) }
  | [] => none

/-- `updateWakeLock` without an acknowledgement, for the deadline. -/
def readTimesOut (s : DirectHal) (platform : Platform) : Option DirectHal :=
  some { s with lock := hal.updateWakeLock seconds s.lock 0 0 platform }

/-- The steps of all the threads, in any order. -/
def step (s : DirectHal) : DirectHalAct → Option DirectHal
  | .write size wakeup => s.write size wakeup
  | .count platform => s.count hal seconds platform
  | .frameworkRead n => s.frameworkRead n
  | .frameworkAck n => s.frameworkAck n
  | .handle platform => s.handle hal seconds platform
  | .readTimesOut platform => s.readTimesOut hal seconds platform

/-- After `initialize`, with room for `quantumCount` events. -/
def construct (quantumCount : Nat) : DirectHal :=
  ⟨.construct, quantumCount, [], [], none, 0, 0, 0, 0, 0⟩

end DirectHal

/-- A direct HAL beside the framework. -/
def directHal (hal : Hal) (seconds quantumCount : Nat) : Machine DirectHal DirectHalAct where
  Start s := s = .construct quantumCount
  step := DirectHal.step hal seconds

namespace DirectHal

/-- A call is not late, and a wake lock that it releases is released. -/
def CallOk (seconds : Nat) (s : DirectHal) (eventsWritten : BitVec 32) (platform : Platform) : Prop :=
  platform.releaseSucceeds = true ∧ ¬ isLate seconds s.lock eventsWritten platform

instance (seconds : Nat) (s : DirectHal) (eventsWritten : BitVec 32) (platform : Platform) :
    Decidable (s.CallOk seconds eventsWritten platform) :=
  inferInstanceAs (Decidable (_ ∧ _))

/-- The time of automatic release never passes, the platform releases, and the counter stays below
2^31 with the wake-up events being written. -/
def EnvOk (seconds : Nat) (s : DirectHal) : DirectHalAct → Prop
  | .write size wakeup => wakeup = true → s.lock.mOutstandingWakeUpEvents.toNat + size < 2 ^ 31
  | .count platform => ∀ size ∈ s.posting, s.CallOk seconds (BitVec.ofNat 32 size) platform
  | .handle platform => s.CallOk seconds 0 platform
  | .readTimesOut platform => s.CallOk seconds 0 platform
  | _ => True

instance (seconds : Nat) (s : DirectHal) : (a : DirectHalAct) → Decidable (s.EnvOk seconds a)
  | .write size wakeup => inferInstanceAs
      (Decidable (wakeup = true → s.lock.mOutstandingWakeUpEvents.toNat + size < 2 ^ 31))
  | .count platform => inferInstanceAs (Decidable (∀ size ∈ s.posting,
      s.CallOk seconds (BitVec.ofNat 32 size) platform))
  | .frameworkRead _ => isTrue trivial
  | .frameworkAck _ => isTrue trivial
  | .handle platform => inferInstanceAs (Decidable (s.CallOk seconds 0 platform))
  | .readTimesOut platform => inferInstanceAs (Decidable (s.CallOk seconds 0 platform))

/-- No acknowledgement is handled while it exceeds the counter: its events have been counted. -/
def AckCounted (s : DirectHal) : DirectHalAct → Prop
  | .handle _ => ∀ n ∈ s.mWakeLockQueue.head?, n ≤ s.lock.mOutstandingWakeUpEvents.toNat
  | _ => True

instance (s : DirectHal) : (a : DirectHalAct) → Decidable (s.AckCounted a)
  | .handle _ => inferInstanceAs (Decidable (∀ n ∈ s.mWakeLockQueue.head?,
      n ≤ s.lock.mOutstandingWakeUpEvents.toNat))
  | .write _ _ | .count _ | .frameworkRead _ | .frameworkAck _ | .readTimesOut _ => isTrue trivial

theorem overAcked_step {hal : Hal} {seconds : Nat} {s t : DirectHal} {a : DirectHalAct}
    (h : s.step hal seconds a = some t) :
    s.overAcked ≤ t.overAcked ∧ (t.overAcked = s.overAcked ↔ s.AckCounted a) := by
  have hstays : t.overAcked = s.overAcked → s.AckCounted a →
      s.overAcked ≤ t.overAcked ∧ (t.overAcked = s.overAcked ↔ s.AckCounted a) :=
    fun heq hcond => ⟨heq.ge, iff_of_true heq hcond⟩
  cases a with
  | write size wakeup =>
      refine hstays ?_ trivial
      simp only [step, write] at h
      split at h
      · cases h
      · split at h <;> cases h <;> rfl
  | count platform =>
      refine hstays ?_ trivial
      simp only [step, DirectHal.count] at h
      split at h <;> cases h
      rfl
  | frameworkRead n =>
      refine hstays ?_ trivial
      simp only [step, frameworkRead] at h
      split at h <;> cases h
      rfl
  | frameworkAck n =>
      refine hstays ?_ trivial
      simp only [step, frameworkAck] at h
      split at h <;> cases h
      rfl
  | handle platform =>
      simp only [step, handle] at h
      split at h
      case h_1 n rest hq =>
        cases h
        have hcounted : s.AckCounted (.handle platform) ↔
            n ≤ s.lock.mOutstandingWakeUpEvents.toNat := by
          simp [AckCounted, hq]
        rw [hcounted]
        refine ⟨Nat.le_add_right _ _, ?_⟩
        show s.overAcked + (n - s.lock.mOutstandingWakeUpEvents.toNat) = s.overAcked ↔ _
        omega
      case h_2 => cases h
  | readTimesOut platform =>
      refine hstays ?_ trivial
      cases h
      rfl

/-- What always holds under `EnvOk`. -/
structure Exact (s : DirectHal) : Prop where
  held : s.lock.mHasWakeLock = true → s.lock.mOutstandingWakeUpEvents ≠ 0
  count : s.lock.mOutstandingWakeUpEvents.toNat + s.posting.getD 0 + s.handled =
    s.written + s.overAcked
  acks : s.mWakeLockQueue.sum + s.handled = s.acked
  acked : s.acked ≤ s.received
  received : s.received + s.mEventQueue.count true = s.written
  small : s.lock.mOutstandingWakeUpEvents.toNat + s.posting.getD 0 < 2 ^ 31

/-- A call in time: the counter moves as it should, and the lock with it. -/
theorem updateWakeLock_inTime (hal : Hal) {seconds : Nat} {s : DirectHal} {w h : BitVec 32}
    {platform : Platform} (hok : s.CallOk seconds w platform)
    (hsum : s.lock.mOutstandingWakeUpEvents.toNat + w.toNat < 2 ^ 31) (hh : h.toNat < 2 ^ 31) :
    ((hal.updateWakeLock seconds s.lock w h platform).mHasWakeLock = true →
      (hal.updateWakeLock seconds s.lock w h platform).mOutstandingWakeUpEvents ≠ 0) ∧
    (hal.updateWakeLock seconds s.lock w h platform).mOutstandingWakeUpEvents.toNat =
      s.lock.mOutstandingWakeUpEvents.toNat + w.toNat - h.toNat := by
  obtain ⟨hrelease, hintime⟩ := hok
  rw [hal.updateWakeLock_eq, updateWakeLock_eq]
  refine ⟨ne_zero_of_heldAfter hrelease, ?_⟩
  show (finalCount seconds s.lock w h platform).toNat = _
  unfold finalCount
  rw [if_neg hintime]
  exact countAfter_toNat hsum hh

/-- A call that writes nothing, when the counter was right before it. -/
theorem exact_handled (hal : Hal) {seconds : Nat} {s : DirectHal} {h : BitVec 32}
    {platform : Platform} (hs : s.Exact) (hok : s.CallOk seconds 0 platform)
    (hh : h.toNat < 2 ^ 31) :
    let lock := hal.updateWakeLock seconds s.lock 0 h platform
    (lock.mHasWakeLock = true → lock.mOutstandingWakeUpEvents ≠ 0) ∧
      lock.mOutstandingWakeUpEvents.toNat = s.lock.mOutstandingWakeUpEvents.toNat - h.toNat ∧
      lock.mOutstandingWakeUpEvents.toNat + s.posting.getD 0 < 2 ^ 31 := by
  have hsmall := hs.small
  have hzero : (0 : BitVec 32).toNat = 0 := rfl
  obtain ⟨hheld, hval⟩ := updateWakeLock_inTime hal hok (by omega) hh
  refine ⟨hheld, ?_, ?_⟩ <;> omega

section Exact

variable {hal : Hal} {seconds : Nat} {s t : DirectHal}

/-- A batch is written: if it wakes up, it is posted and not yet counted. -/
theorem exact_write {size : Nat} {wakeup : Bool} (hs : s.Exact)
    (hok : s.EnvOk seconds (.write size wakeup)) (h : s.write size wakeup = some t) : t.Exact := by
  have hcount := hs.count
  have hreceived := hs.received
  have hsmall := hs.small
  unfold write at h
  split at h
  case isTrue => cases h
  case isFalse hidle =>
    have hidle : s.posting = none := by simpa using hidle
    rw [hidle, Option.getD_none] at hcount hsmall
    split at h
    case isTrue =>
      cases h
      exact hs
    case isFalse =>
      cases h
      cases wakeup with
      | true =>
          refine { hs with count := ?_, received := ?_, small := hok rfl }
          · show s.lock.mOutstandingWakeUpEvents.toNat + size + s.handled =
              s.written + size + s.overAcked
            omega
          · show s.received + (s.mEventQueue ++ List.replicate size true).count true =
              s.written + size
            rw [List.count_append, List.count_replicate_self]
            omega
      | false =>
          refine { hs with count := hcount, received := ?_, small := hsmall }
          show s.received + (s.mEventQueue ++ List.replicate size false).count true = s.written
          rw [List.count_append, List.count_replicate]
          exact hreceived

/-- The batch moves from `posting` to the counter. -/
theorem exact_count {platform : Platform} (hs : s.Exact) (hok : s.EnvOk seconds (.count platform))
    (h : s.count hal seconds platform = some t) : t.Exact := by
  have hcount := hs.count
  have hsmall := hs.small
  unfold DirectHal.count at h
  split at h
  case h_1 size hposting =>
    cases h
    rw [hposting, Option.getD_some] at hcount hsmall
    have hsize : (BitVec.ofNat 32 size).toNat = size := by
      rw [BitVec.toNat_ofNat]
      omega
    obtain ⟨hheld, hval⟩ := updateWakeLock_inTime hal (h := 0)
      (hok size hposting) (by omega) (by decide)
    have hzero : (0 : BitVec 32).toNat = 0 := rfl
    refine { hs with held := hheld, count := ?_, small := ?_ }
    · show (hal.updateWakeLock seconds s.lock (BitVec.ofNat 32 size) 0
        platform).mOutstandingWakeUpEvents.toNat + 0 + s.handled = s.written + s.overAcked
      omega
    · show (hal.updateWakeLock seconds s.lock (BitVec.ofNat 32 size) 0
        platform).mOutstandingWakeUpEvents.toNat + 0 < 2 ^ 31
      omega
  case h_2 => cases h

theorem exact_frameworkRead {n : Nat} (hs : s.Exact) (h : s.frameworkRead n = some t) :
    t.Exact := by
  have hacked := hs.acked
  have hreceived := hs.received
  obtain ⟨-, heq⟩ := Option.ite_none_right_eq_some.mp h
  cases heq
  have hsplit : (s.mEventQueue.take n).count true + (s.mEventQueue.drop n).count true =
      s.mEventQueue.count true := by
    rw [← List.count_append, List.take_append_drop]
  refine { hs with acked := ?_, received := ?_ }
  · show s.acked ≤ s.received + (s.mEventQueue.take n).count true
    omega
  · show s.received + (s.mEventQueue.take n).count true + (s.mEventQueue.drop n).count true =
      s.written
    omega

theorem exact_frameworkAck {n : Nat} (hs : s.Exact) (h : s.frameworkAck n = some t) :
    t.Exact := by
  have hacks := hs.acks
  obtain ⟨hn, heq⟩ := Option.ite_none_right_eq_some.mp h
  cases heq
  refine { hs with acks := ?_, acked := hn }
  show (s.mWakeLockQueue ++ [n]).sum + s.handled = s.acked + n
  rw [List.sum_append, List.sum_singleton]
  omega

/-- An acknowledgement is handled: it is for events that were counted or are about to be. -/
theorem exact_handle {platform : Platform} (hs : s.Exact)
    (hok : s.EnvOk seconds (.handle platform)) (h : s.handle hal seconds platform = some t) :
    t.Exact := by
  have hcount := hs.count
  have hacks := hs.acks
  have hacked := hs.acked
  have hreceived := hs.received
  have hsmall := hs.small
  unfold handle at h
  split at h
  case h_1 n rest hq =>
    cases h
    rw [hq, List.sum_cons] at hacks
    have hn : n < 2 ^ 31 := by omega
    have hbits : (BitVec.ofNat 32 n).toNat = n := by
      rw [BitVec.toNat_ofNat]
      omega
    obtain ⟨hheld, hval, hsmall⟩ := exact_handled hal (h := BitVec.ofNat 32 n) hs hok (by omega)
    refine { hs with held := hheld, count := ?_, acks := ?_, small := hsmall }
    · show (hal.updateWakeLock seconds s.lock 0 (BitVec.ofNat 32 n)
        platform).mOutstandingWakeUpEvents.toNat + s.posting.getD 0 + (s.handled + n) =
        s.written + (s.overAcked + (n - s.lock.mOutstandingWakeUpEvents.toNat))
      omega
    · show rest.sum + (s.handled + n) = s.acked
      omega
  case h_2 => cases h

/-- A round without an acknowledgement handles 0 events. -/
theorem exact_readTimesOut {platform : Platform} (hs : s.Exact)
    (hok : s.EnvOk seconds (.readTimesOut platform))
    (h : s.readTimesOut hal seconds platform = some t) : t.Exact := by
  have hcount := hs.count
  cases h
  obtain ⟨hheld, hval, hsmall⟩ := exact_handled hal (h := 0) hs hok (by decide)
  have hzero : (0 : BitVec 32).toNat = 0 := rfl
  refine { hs with held := hheld, count := ?_, small := hsmall }
  show (hal.updateWakeLock seconds s.lock 0 0
    platform).mOutstandingWakeUpEvents.toNat + s.posting.getD 0 + s.handled =
    s.written + s.overAcked
  omega

theorem exact_step {a : DirectHalAct} (hs : s.Exact) (hok : s.EnvOk seconds a)
    (h : s.step hal seconds a = some t) : t.Exact := by
  cases a with
  | write size wakeup => exact exact_write hs hok h
  | count platform => exact exact_count hs hok h
  | frameworkRead n => exact exact_frameworkRead hs h
  | frameworkAck n => exact exact_frameworkAck hs h
  | handle platform => exact exact_handle hs hok h
  | readTimesOut platform => exact exact_readTimesOut hs hok h

end Exact

theorem exact_construct (quantumCount : Nat) : (construct quantumCount).Exact where
  held := nofun
  count := rfl
  acks := rfl
  acked := Nat.le_refl 0
  received := rfl
  small := Nat.two_pow_pos 31

theorem exact_of_runUnder {hal : Hal} {seconds quantumCount : Nat} {actions : List DirectHalAct}
    {s : DirectHal} (h : (directHal hal seconds quantumCount).runUnder (EnvOk seconds)
      (.construct quantumCount) actions = some s) : s.Exact := by
  refine Machine.ReachUnder.invariant (P := Exact) ?_ (fun _ _ _ => exact_step)
    (Machine.ReachUnder.of_runUnder (.start rfl) h)
  rintro s rfl
  exact exact_construct quantumCount

/-- The counter when no post is between its two steps and no acknowledgement is unread. -/
theorem outstanding_eq {s : DirectHal} (hs : s.Exact) (hposting : s.posting = none)
    (hacks : s.mWakeLockQueue = []) :
    s.lock.mOutstandingWakeUpEvents.toNat = s.written - s.acked + s.overAcked := by
  have hcount := hs.count
  have hread := hs.acks
  have hacked := hs.acked
  have hreceived := hs.received
  rw [hposting, Option.getD_none] at hcount
  rw [hacks, List.sum_nil] at hread
  -- every acknowledgement has been handled, so `written - acked` is `written - handled`
  omega

end DirectHal

/-- In every run in which the time of automatic release never passes, when no post is between its two
steps and no acknowledgement is unread: the counter is exactly the wake-up events written less those
acknowledged, and the lock free once all are, if and only if no acknowledgement of the run was
handled while it exceeded the counter. -/
theorem outstanding_exact_iff {hal : Hal} {seconds quantumCount : Nat}
    {actions : List DirectHalAct} {s : DirectHal}
    (h : (directHal hal seconds quantumCount).runUnder (DirectHal.EnvOk seconds)
      (.construct quantumCount) actions = some s)
    (hposting : s.posting = none) (hacks : s.mWakeLockQueue = []) :
    (s.lock.mOutstandingWakeUpEvents.toNat = s.written - s.acked ∧
      (s.acked = s.written → s.lock.mHasWakeLock = false)) ↔
    (directHal hal seconds quantumCount).runUnder
      (fun s a => s.EnvOk seconds a ∧ s.AckCounted a) (.construct quantumCount) actions =
        some s := by
  have hs := DirectHal.exact_of_runUnder h
  have hexact := DirectHal.outstanding_eq hs hposting hacks
  rw [(Machine.runUnder_and_iff (m := DirectHal.overAcked)
    (fun _ _ _ => DirectHal.overAcked_step) h).2]
  show _ ↔ s.overAcked = 0
  refine ⟨fun hright => ?_, fun hnone => ⟨?_, fun hall => ?_⟩⟩
  · have := hright.1
    omega
  · omega
  · rw [← Bool.not_eq_true]
    intro hheld
    refine hs.held hheld (BitVec.eq_of_toNat_eq ?_)
    show s.lock.mOutstandingWakeUpEvents.toNat = 0
    omega

/-- Three events are written and counted, two of them read, acknowledged and handled. -/
theorem outstanding_exact_iff_three_events :
    ∃ s : DirectHal, s.lock.mOutstandingWakeUpEvents.toNat = s.written - s.acked ∧
      s.written = 3 ∧ s.acked = 2 := by
  have hrun : (directHal .SensorsHalAidl 1 8).runUnder (DirectHal.EnvOk 1) (.construct 8)
      [.write 3 true, .count ⟨5, 5, true, true⟩, .frameworkRead 2, .frameworkAck 2,
        .handle ⟨6, 6, true, true⟩] =
      some ⟨⟨1, 1005, true⟩, 8, [true], [], none, 3, 2, 2, 2, 0⟩ := rfl
  exact ⟨_, ((outstanding_exact_iff hrun rfl rfl).mpr rfl).1, rfl, rfl⟩

/-- Two events are written, read, acknowledged and handled before they are counted: the counter stays
at 2 and the lock is taken when nothing is outstanding. -/
theorem early_ack_is_lost : ∃ s,
    (directHal .Sensors 1 8).runUnder (DirectHal.EnvOk 1) (.construct 8)
      [.write 2 true, .frameworkRead 2, .frameworkAck 2, .handle ⟨5, 5, true, true⟩,
        .count ⟨6, 6, true, true⟩] = some s ∧
      s.posting = none ∧ s.mWakeLockQueue = [] ∧ s.written = 2 ∧ s.acked = 2 ∧
      s.lock.mOutstandingWakeUpEvents = 2 ∧ s.lock.mHasWakeLock = true :=
  ⟨_, rfl, rfl, rfl, rfl, rfl, rfl, rfl⟩

end Smi240Hal.Direct
