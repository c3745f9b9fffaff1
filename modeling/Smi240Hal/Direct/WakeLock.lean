/-
# Smi240Hal.Direct.WakeLock — the wake lock of the direct HALs

`Sensors` and `SensorsHalAidl` write events to the framework themselves and hold a wake lock while
wake-up events are outstanding.  One function of each class keeps the number of these events, the
lock and the time at which the lock is given up: `updateWakeLock`, called with the number of events
just written or just handled.  The two are the same but for the name of the constant.

The counter is `uint32_t` and the arguments are `int32_t`, all `BitVec 32`: the sum is unsigned and
is then read as a signed number.  What the call finds outside (the uptime, read up to twice, and the
answers of `acquire_wake_lock` and `release_wake_lock`) is its argument `Platform`.
-/
import Mathlib.Algebra.Order.BigOperators.Group.List
import Mathlib.Algebra.Order.Ring.Int

namespace Smi240Hal.Direct

/-- What one call of `updateWakeLock` reads from the platform. -/
structure Platform where
  /-- `uptimeMillis()`, when the time of automatic release is set. -/
  uptimeWritten : Int
  /-- `uptimeMillis()`, when that time is checked. -/
  uptimeChecked : Int
  acquireSucceeds : Bool
  releaseSucceeds : Bool
deriving DecidableEq

/-- What `updateWakeLock` reads and writes. -/
structure WakeLock where
  mOutstandingWakeUpEvents : BitVec 32
  mAutoReleaseWakeLockTime : Int
  mHasWakeLock : Bool
deriving DecidableEq

/-- What the constructors set. -/
def WakeLock.construct : WakeLock := ⟨0, 0, false⟩

/-- `static_cast<uint32_t>(seconds) * 1000`. -/
def autoReleaseMillis (seconds : Nat) : Nat := seconds * 1000 % 2 ^ 32

/-- The beginning of `updateWakeLock`: the new number of outstanding events. -/
def WakeLock.count (s : WakeLock) (eventsWritten eventsHandled : BitVec 32) : WakeLock :=
  let newVal := s.mOutstandingWakeUpEvents + eventsWritten - eventsHandled
  if newVal.toInt < 0 then { s with mOutstandingWakeUpEvents := 0 }
  else { s with mOutstandingWakeUpEvents := newVal }

/-- Then the time of automatic release, if events were written. -/
def WakeLock.setAutoRelease (s : WakeLock) (seconds : Nat) (eventsWritten : BitVec 32)
    (platform : Platform) : WakeLock :=
  if 0 < eventsWritten.toInt then
    { s with mAutoReleaseWakeLockTime := platform.uptimeWritten + autoReleaseMillis seconds }
  else s

/-- And then the lock: taken, or else given up in time or in the end. -/
def WakeLock.acquireOrRelease (s : WakeLock) (platform : Platform) : WakeLock :=
  if s.mHasWakeLock = false ∧ s.mOutstandingWakeUpEvents ≠ 0 ∧ platform.acquireSucceeds = true then
    { s with mHasWakeLock := true }
  else if s.mHasWakeLock then
    let s := if s.mAutoReleaseWakeLockTime < platform.uptimeChecked then
        { s with mOutstandingWakeUpEvents := 0 }
      else s
    if s.mOutstandingWakeUpEvents = 0 ∧ platform.releaseSucceeds = true then
      { s with mHasWakeLock := false }
    else s
  else s

/-- What the two classes have in common. -/
def updateWakeLock (seconds : Nat) (s : WakeLock) (eventsWritten eventsHandled : BitVec 32)
    (platform : Platform) : WakeLock :=
  ((s.count eventsWritten eventsHandled).setAutoRelease seconds eventsWritten
    platform).acquireOrRelease platform

/-- `Sensors::updateWakeLock`. -/
def Sensors.updateWakeLock (WAKE_LOCK_SECONDS : Nat) :
    WakeLock → BitVec 32 → BitVec 32 → Platform → WakeLock :=
  Direct.updateWakeLock WAKE_LOCK_SECONDS

/-- `SensorsHalAidl::updateWakeLock`. -/
def SensorsHalAidl.updateWakeLock (WAKE_LOCK_TIMEOUT_SECONDS : Nat) :
    WakeLock → BitVec 32 → BitVec 32 → Platform → WakeLock :=
  Direct.updateWakeLock WAKE_LOCK_TIMEOUT_SECONDS

/-- The two direct HALs. -/
inductive Hal
  | Sensors
  | SensorsHalAidl
deriving DecidableEq

/-- The two texts of `updateWakeLock`, by HAL. -/
def Hal.updateWakeLock : Hal → Nat → WakeLock → BitVec 32 → BitVec 32 → Platform → WakeLock
  | .Sensors => Sensors.updateWakeLock
  | .SensorsHalAidl => SensorsHalAidl.updateWakeLock

theorem Hal.updateWakeLock_eq (hal : Hal) : hal.updateWakeLock = Direct.updateWakeLock := by
  cases hal <;> rfl

/-! ## One call -/

/-- The time of automatic release, after a call. -/
def autoReleaseAfter (seconds : Nat) (s : WakeLock) (eventsWritten : BitVec 32)
    (platform : Platform) : Int :=
  if 0 < eventsWritten.toInt then platform.uptimeWritten + autoReleaseMillis seconds
  else s.mAutoReleaseWakeLockTime

/-- A call that finds the lock held after the time of automatic release. -/
def isLate (seconds : Nat) (s : WakeLock) (eventsWritten : BitVec 32) (platform : Platform) : Prop :=
  s.mHasWakeLock = true ∧ autoReleaseAfter seconds s eventsWritten platform < platform.uptimeChecked

instance (seconds : Nat) (s : WakeLock) (eventsWritten : BitVec 32) (platform : Platform) :
    Decidable (isLate seconds s eventsWritten platform) :=
  inferInstanceAs (Decidable (_ ∧ _))

/-- The counter after a call that does not release the lock automatically. -/
def countAfter (s : WakeLock) (eventsWritten eventsHandled : BitVec 32) : BitVec 32 :=
  let newVal := s.mOutstandingWakeUpEvents + eventsWritten - eventsHandled
  if newVal.toInt < 0 then 0 else newVal

/-- The counter after a call. -/
def finalCount (seconds : Nat) (s : WakeLock) (eventsWritten eventsHandled : BitVec 32)
    (platform : Platform) : BitVec 32 :=
  if isLate seconds s eventsWritten platform then 0 else countAfter s eventsWritten eventsHandled

/-- The lock after a call. -/
def heldAfter (seconds : Nat) (s : WakeLock) (eventsWritten eventsHandled : BitVec 32)
    (platform : Platform) : Bool :=
  let outstanding := decide (finalCount seconds s eventsWritten eventsHandled platform ≠ 0)
  if s.mHasWakeLock then outstanding || !platform.releaseSucceeds
  else outstanding && platform.acquireSucceeds

/-- What a call does to each field. -/
theorem updateWakeLock_eq (seconds : Nat) (s : WakeLock) (eventsWritten eventsHandled : BitVec 32)
    (platform : Platform) :
    updateWakeLock seconds s eventsWritten eventsHandled platform =
      ⟨finalCount seconds s eventsWritten eventsHandled platform,
        autoReleaseAfter seconds s eventsWritten platform,
        heldAfter seconds s eventsWritten eventsHandled platform⟩ := by
  have htime : ∀ u : WakeLock, u.setAutoRelease seconds eventsWritten platform =
      { u with
        mAutoReleaseWakeLockTime := autoReleaseAfter seconds u eventsWritten platform } := by
    intro u
    unfold WakeLock.setAutoRelease autoReleaseAfter
    split <;> rfl
  have hcount : s.count eventsWritten eventsHandled =
      { s with mOutstandingWakeUpEvents := countAfter s eventsWritten eventsHandled } := by
    unfold WakeLock.count countAfter
    dsimp only
    split <;> rfl
  unfold updateWakeLock
  rw [htime, hcount]
  show WakeLock.acquireOrRelease ⟨countAfter s eventsWritten eventsHandled,
    autoReleaseAfter seconds s eventsWritten platform, s.mHasWakeLock⟩ platform = _
  unfold WakeLock.acquireOrRelease heldAfter finalCount
  dsimp only
  cases hheld : s.mHasWakeLock with
  | false =>
      -- a free lock is never late: the deadline is not looked at
      have hnotlate : ¬ isLate seconds s eventsWritten platform := by
        rintro ⟨htrue, _⟩
        exact absurd (hheld.symm.trans htrue) (by decide)
      rw [if_neg hnotlate]
      by_cases hzero : countAfter s eventsWritten eventsHandled = 0#32
      · simp [hzero]
      · cases hacquire : platform.acquireSucceeds <;> simp [hzero]
  | true =>
      -- `acquireOrRelease` looks at the time it has just set
      by_cases hlate : autoReleaseAfter seconds s eventsWritten platform < platform.uptimeChecked
      · have hislate : isLate seconds s eventsWritten platform := ⟨hheld, hlate⟩
        cases hrelease : platform.releaseSucceeds <;> simp [hislate, hlate]
      · have hnotlate : ¬ isLate seconds s eventsWritten platform := fun h => hlate h.2
        by_cases hzero : countAfter s eventsWritten eventsHandled = 0#32
        · cases hrelease : platform.releaseSucceeds <;> simp [hnotlate, hlate, hzero]
        · simp [hnotlate, hlate, hzero]

/-- While the platform acquires and releases, the lock is held exactly if the counter is not 0. -/
theorem heldAfter_eq {seconds : Nat} {s : WakeLock} {eventsWritten eventsHandled : BitVec 32}
    {platform : Platform} (hacquire : platform.acquireSucceeds = true)
    (hrelease : platform.releaseSucceeds = true) :
    heldAfter seconds s eventsWritten eventsHandled platform =
      decide (finalCount seconds s eventsWritten eventsHandled platform ≠ 0) := by
  unfold heldAfter
  rw [hacquire, hrelease]
  split <;> simp

/-- If it releases, a counter of 0 leaves the lock free. -/
theorem ne_zero_of_heldAfter {seconds : Nat} {s : WakeLock}
    {eventsWritten eventsHandled : BitVec 32} {platform : Platform}
    (hrelease : platform.releaseSucceeds = true)
    (h : heldAfter seconds s eventsWritten eventsHandled platform = true) :
    finalCount seconds s eventsWritten eventsHandled platform ≠ 0 := by
  unfold heldAfter at h
  dsimp only at h
  rw [hrelease] at h
  split at h
  · simpa using h
  · exact of_decide_eq_true (Bool.and_eq_true_iff.mp h).1

/-- While nothing overflows, the counter is what was outstanding, plus what was written, less what was
handled, and never below 0. -/
theorem countAfter_toNat {s : WakeLock} {eventsWritten eventsHandled : BitVec 32}
    (hsum : s.mOutstandingWakeUpEvents.toNat + eventsWritten.toNat < 2 ^ 31)
    (hhandled : eventsHandled.toNat < 2 ^ 31) :
    (countAfter s eventsWritten eventsHandled).toNat =
      s.mOutstandingWakeUpEvents.toNat + eventsWritten.toNat - eventsHandled.toNat := by
  -- the sum is exact, so reading the difference as a signed number gives its true value
  have hval : (s.mOutstandingWakeUpEvents + eventsWritten - eventsHandled).toInt =
      (s.mOutstandingWakeUpEvents.toNat + eventsWritten.toNat : Int) - eventsHandled.toNat := by
    rw [BitVec.toInt_eq_toNat_cond, BitVec.toNat_sub, BitVec.toNat_add]
    split <;> omega
  unfold countAfter
  dsimp only
  split
  case isTrue hneg =>
    show (0#32).toNat = _
    rw [hval] at hneg
    rw [BitVec.toNat_ofNat]
    omega
  case isFalse hpos =>
    rw [hval] at hpos
    rw [BitVec.toNat_sub, BitVec.toNat_add]
    omega

/-! ## Every sequence of calls -/

/-- One call of `updateWakeLock`, with what the platform says in it. -/
structure Call where
  eventsWritten : BitVec 32
  eventsHandled : BitVec 32
  platform : Platform
deriving DecidableEq

/-- The wake lock, and what an observer of the calls knows. -/
structure Watch where
  lock : WakeLock
  /-- The uptime of the most recent call that wrote events. -/
  lastWritten : Option Int
  /-- Events written minus events handled, counted since the lock was last free. -/
  due : Int
  /-- One of the calls since then came too late after the most recent one that wrote events. -/
  late : Bool

/-- Before the first call. -/
def Watch.start : Watch := ⟨.construct, none, 0, false⟩

/-- The time is later than the automatic release after the most recent write. -/
def isLater (seconds : Nat) (lastWritten : Option Int) (now : Int) : Bool :=
  match lastWritten with
  | some t => t + autoReleaseMillis seconds < now
  | none => false

/-- A call; what is due begins at zero each time the lock is not held. -/
def Watch.call (hal : Hal) (seconds : Nat) (s : Watch) (c : Call) : Watch :=
  let lastWritten :=
    if 0 < c.eventsWritten.toInt then some c.platform.uptimeWritten else s.lastWritten
  { lock := hal.updateWakeLock seconds s.lock c.eventsWritten c.eventsHandled c.platform
    lastWritten := lastWritten
    due := (if s.lock.mHasWakeLock then s.due else 0) +
      c.eventsWritten.toInt - c.eventsHandled.toInt
    late := (s.lock.mHasWakeLock && s.late) || isLater seconds lastWritten c.platform.uptimeChecked }

/-- After a list of calls, from the initial state. -/
def watch (hal : Hal) (seconds : Nat) (calls : List Call) : Watch :=
  calls.foldl (Watch.call hal seconds) .start

/-- Calls as the two HALs make them, on a platform that acquires and releases. -/
def Call.Valid (c : Call) : Prop :=
  0 ≤ c.eventsWritten.toInt ∧ 0 ≤ c.eventsHandled.toInt ∧
    c.platform.acquireSucceeds = true ∧ c.platform.releaseSucceeds = true

instance (c : Call) : Decidable c.Valid := inferInstanceAs (Decidable (_ ∧ _))

/-- What holds after calls that have written `total` events. -/
structure Watch.Ok (seconds : Nat) (total : Int) (s : Watch) : Prop where
  matched : s.lock.mHasWakeLock = true ↔ s.lock.mOutstandingWakeUpEvents ≠ 0
  bound : (s.lock.mOutstandingWakeUpEvents.toNat : Int) ≤ total
  time : ∀ t, s.lastWritten = some t →
    s.lock.mAutoReleaseWakeLockTime = t + autoReleaseMillis seconds
  written : s.lock.mHasWakeLock = true → s.lastWritten ≠ none
  due : s.late = false → s.due ≤ s.lock.mOutstandingWakeUpEvents.toNat

theorem toInt_of_nonneg {x : BitVec 32} (h : 0 ≤ x.toInt) :
    x.toInt = x.toNat ∧ x.toNat < 2 ^ 31 := by
  rw [BitVec.toInt_eq_toNat_cond] at h ⊢
  split at h
  case isTrue hlt =>
    rw [if_pos hlt]
    exact ⟨rfl, by omega⟩
  case isFalse => omega

/-- The counter knows the time of automatic release when the observer does. -/
theorem autoReleaseAfter_eq {seconds : Nat} {total : Int} {s : Watch} (hs : s.Ok seconds total)
    (c : Call) (t : Int)
    (ht : (if 0 < c.eventsWritten.toInt then some c.platform.uptimeWritten else s.lastWritten) =
      some t) :
    autoReleaseAfter seconds s.lock c.eventsWritten c.platform = t + autoReleaseMillis seconds := by
  unfold autoReleaseAfter
  split at ht
  case isTrue hpos =>
    cases ht
    exact if_pos hpos
  case isFalse hzero =>
    rw [if_neg hzero]
    exact hs.time t ht

/-- While the lock is held, the observer's late calls are the ones the code finds late. -/
theorem isLate_iff {seconds : Nat} {total : Int} {s : Watch} (hs : s.Ok seconds total) (c : Call)
    (hheld : s.lock.mHasWakeLock = true) :
    isLate seconds s.lock c.eventsWritten c.platform ↔ isLater seconds
      (if 0 < c.eventsWritten.toInt then some c.platform.uptimeWritten else s.lastWritten)
      c.platform.uptimeChecked = true := by
  obtain ⟨t, ht⟩ : ∃ t, (if 0 < c.eventsWritten.toInt then some c.platform.uptimeWritten
      else s.lastWritten) = some t := by
    split
    · exact ⟨_, rfl⟩
    · exact Option.ne_none_iff_exists'.mp (hs.written hheld)
  unfold isLate isLater
  rw [autoReleaseAfter_eq hs c t ht, ht]
  simp [hheld]

theorem watch_step {hal : Hal} {seconds : Nat} {total : Int} {s : Watch} {c : Call}
    (hs : s.Ok seconds total) (hc : c.Valid) (htotal : total + c.eventsWritten.toInt < 2 ^ 31) :
    (s.call hal seconds c).Ok seconds (total + c.eventsWritten.toInt) := by
  obtain ⟨hwritten, hhandled, hacquire, hrelease⟩ := hc
  obtain ⟨hw, hwlt⟩ := toInt_of_nonneg hwritten
  obtain ⟨hh, hhlt⟩ := toInt_of_nonneg hhandled
  have hbound := hs.bound
  have hcount : (countAfter s.lock c.eventsWritten c.eventsHandled).toNat =
      s.lock.mOutstandingWakeUpEvents.toNat + c.eventsWritten.toNat - c.eventsHandled.toNat :=
    countAfter_toNat (by omega) hhlt
  have hlock : (s.call hal seconds c).lock =
      ⟨finalCount seconds s.lock c.eventsWritten c.eventsHandled c.platform,
        autoReleaseAfter seconds s.lock c.eventsWritten c.platform,
        finalCount seconds s.lock c.eventsWritten c.eventsHandled c.platform ≠ 0⟩ := by
    show hal.updateWakeLock seconds s.lock c.eventsWritten c.eventsHandled c.platform = _
    rw [hal.updateWakeLock_eq, updateWakeLock_eq, heldAfter_eq hacquire hrelease]
  have hfinal : (finalCount seconds s.lock c.eventsWritten c.eventsHandled c.platform).toNat ≤
      s.lock.mOutstandingWakeUpEvents.toNat + c.eventsWritten.toNat := by
    unfold finalCount
    split
    · exact Nat.zero_le _
    · omega
  refine ⟨?_, ?_, ?_, ?_, ?_⟩
  · rw [hlock]
    exact decide_eq_true_iff
  · rw [hlock]
    show ((finalCount seconds s.lock c.eventsWritten c.eventsHandled c.platform).toNat : Int) ≤ _
    omega
  · intro t ht
    rw [hlock]
    exact autoReleaseAfter_eq hs c t ht
  · intro hheld
    rw [hlock] at hheld
    show (if 0 < c.eventsWritten.toInt then some c.platform.uptimeWritten else s.lastWritten) ≠ none
    split
    case isTrue => nofun
    case isFalse hnot =>
      apply hs.written
      -- a free lock and nothing written leave the counter at 0
      by_contra hfree
      have hzero : s.lock.mOutstandingWakeUpEvents = 0 := by
        by_contra hne
        exact hfree (hs.matched.mpr hne)
      have hne : finalCount seconds s.lock c.eventsWritten c.eventsHandled c.platform ≠ 0 :=
        of_decide_eq_true hheld
      rw [hzero] at hfinal
      refine hne (BitVec.eq_of_toNat_eq ?_)
      have hnone : (0 : BitVec 32).toNat = 0 := rfl
      omega
  · -- a call in time only moves the counter, and the clamp only makes it larger
    intro hintime
    obtain ⟨hbefore, hnow⟩ := Bool.or_eq_false_iff.mp hintime
    have hlate : ¬ isLate seconds s.lock c.eventsWritten c.platform := by
      intro hlate
      have hlater := (isLate_iff hs c hlate.1).mp hlate
      exact absurd (hlater.symm.trans hnow) (by decide)
    rw [hlock]
    show (if s.lock.mHasWakeLock then s.due else 0) + c.eventsWritten.toInt -
      c.eventsHandled.toInt ≤
        (finalCount seconds s.lock c.eventsWritten c.eventsHandled c.platform).toNat
    unfold finalCount
    rw [if_neg hlate, hcount]
    cases hheld : s.lock.mHasWakeLock with
    | true =>
        rw [hheld] at hbefore
        have hdue := hs.due hbefore
        rw [if_pos rfl]
        omega
    | false =>
        rw [if_neg (by decide)]
        omega

theorem watch_ok {hal : Hal} {seconds : Nat} {calls : List Call} (hvalid : ∀ c ∈ calls, c.Valid)
    (htotal : (calls.map fun c => c.eventsWritten.toInt).sum < 2 ^ 31) :
    (watch hal seconds calls).Ok seconds (calls.map fun c => c.eventsWritten.toInt).sum := by
  have hloop : ∀ (calls : List Call) (s : Watch) (total : Int), s.Ok seconds total →
      (∀ c ∈ calls, c.Valid) → total + (calls.map fun c => c.eventsWritten.toInt).sum < 2 ^ 31 →
      (calls.foldl (Watch.call hal seconds) s).Ok seconds
        (total + (calls.map fun c => c.eventsWritten.toInt).sum) := by
    intro calls
    induction calls with
    | nil =>
        intro s total hs _ _
        rw [List.map_nil, List.sum_nil, Int.add_zero]
        exact hs
    | cons c calls ih =>
        intro s total hs hvalid htotal
        rw [List.map_cons, List.sum_cons, ← Int.add_assoc] at htotal ⊢
        have hrest : 0 ≤ (calls.map fun c => c.eventsWritten.toInt).sum := by
          apply List.sum_nonneg
          intro x hx
          obtain ⟨c', hc', rfl⟩ := List.mem_map.mp hx
          exact (hvalid c' (by simp [hc'])).1
        refine ih _ _ (watch_step hs (hvalid c (by simp)) (by omega)) ?_ htotal
        intro c' hc'
        exact hvalid c' (by simp [hc'])
  have hstart : Watch.start.Ok seconds 0 :=
    ⟨by decide, by decide, by nofun, by nofun, by decide⟩
  have := hloop calls .start 0 hstart hvalid (by omega)
  rwa [Int.zero_add] at this

/-- After every list of calls with totals below 2^31, on either HAL and for any uptime readings:

* the lock is held exactly while the counter is positive;
* if no call since the lock was last free came later than the automatic release after the most recent
  call with events written, the counter is at least what was written less what was handled since
  then, so the lock is free only if that is not positive;
* a further call that writes nothing and comes later than that, while the lock is held, leaves the
  lock released and the counter 0. -/
theorem wakeLock_invariant (hal : Hal) (seconds : Nat) (calls : List Call)
    (hvalid : ∀ c ∈ calls, c.Valid)
    (hwritten : (calls.map fun c => c.eventsWritten.toInt).sum < 2 ^ 31) :
    let s := watch hal seconds calls
    (s.lock.mHasWakeLock = true ↔ 0 < s.lock.mOutstandingWakeUpEvents.toNat) ∧
    (s.late = false → s.due ≤ s.lock.mOutstandingWakeUpEvents.toNat ∧
      (s.lock.mHasWakeLock = false → s.due ≤ 0)) ∧
    (∀ c : Call, c.Valid → c.eventsWritten = 0 → s.lock.mHasWakeLock = true →
      isLater seconds s.lastWritten c.platform.uptimeChecked = true →
      (s.call hal seconds c).lock.mHasWakeLock = false ∧
        (s.call hal seconds c).lock.mOutstandingWakeUpEvents = 0) := by
  intro s
  have hs : s.Ok seconds _ := watch_ok hvalid hwritten
  have hpos : s.lock.mOutstandingWakeUpEvents ≠ 0 ↔ 0 < s.lock.mOutstandingWakeUpEvents.toNat := by
    rw [Nat.pos_iff_ne_zero, ne_eq, ne_eq, not_iff_not]
    exact ⟨fun h => by rw [h]; rfl, fun h => BitVec.eq_of_toNat_eq h⟩
  refine ⟨hs.matched.trans hpos, fun hintime => ⟨hs.due hintime, fun hfree => ?_⟩,
    fun c hc hnothing hheld hlater => ?_⟩
  · have hdue := hs.due hintime
    have hzero : ¬ 0 < s.lock.mOutstandingWakeUpEvents.toNat := by
      rw [← hpos, ← hs.matched, hfree]
      decide
    omega
  · obtain ⟨_, _, hacquire, hrelease⟩ := hc
    have hlate : isLate seconds s.lock c.eventsWritten c.platform := by
      rw [isLate_iff hs c hheld, if_neg (by rw [hnothing]; decide)]
      exact hlater
    have hfinal : finalCount seconds s.lock c.eventsWritten c.eventsHandled c.platform = 0 :=
      if_pos hlate
    have hlock : (s.call hal seconds c).lock =
        ⟨0, autoReleaseAfter seconds s.lock c.eventsWritten c.platform, false⟩ := by
      show hal.updateWakeLock seconds s.lock c.eventsWritten c.eventsHandled c.platform = _
      rw [hal.updateWakeLock_eq, updateWakeLock_eq, heldAfter_eq hacquire hrelease, hfinal]
      rfl
    rw [hlock]
    exact ⟨rfl, rfl⟩

/-- Three events are written, one is handled, and then nobody answers for more than a second. -/
theorem wakeLock_invariant_three_events :
    let s := watch .Sensors 1 [⟨3, 0, ⟨10, 10, true, true⟩⟩, ⟨0, 1, ⟨500, 500, true, true⟩⟩]
    s.late = false ∧ s.due = 2 ∧ s.due ≤ s.lock.mOutstandingWakeUpEvents.toNat ∧
      (s.call .Sensors 1 ⟨0, 0, ⟨1011, 1011, true, true⟩⟩).lock.mHasWakeLock = false := by
  have h := wakeLock_invariant .Sensors 1
    [⟨3, 0, ⟨10, 10, true, true⟩⟩, ⟨0, 1, ⟨500, 500, true, true⟩⟩] (by decide) (by decide)
  exact ⟨by decide, by decide, (h.2.1 (by decide)).1,
    (h.2.2 ⟨0, 0, ⟨1011, 1011, true, true⟩⟩ (by decide) rfl (by decide) (by decide)).1⟩

end Smi240Hal.Direct
