/-
# Smi240Hal.Direct.InitReturns — `initialize` does not wait for ever

`initialize` disables the sensors, for each of which it waits for `mRunMutex`; a thread that has that
mutex may wait for `mWriteLock`; and it joins the thread that reads the wake-lock queue.  With the
instructions and the threads of `Direct.ObjectLifetimes`, none of these waits is for a thread that
waits in turn: while no sample becomes due and no loop test begins another round of
`readWakeLockFMQ`, everybody has a bounded number of steps left, and who is left over is not inside
`initialize`.  The call has then disabled the sensors, and started the thread on the new queue.
-/
import Mathlib.Algebra.Order.BigOperators.Group.List
import Mathlib.Algebra.Order.Ring.Nat
import Smi240Hal.Direct.ObjectLifetimes
import Smi240Hal.Lib.Progress

namespace Smi240Hal.Direct

open Smi240Hal.Lib

/-! ## Who has `mWriteLock` -/

/-- What a thread inside the critical section of `postEvents` has left. -/
def HoldsWriteLock (rest : List PostInstr) : Prop :=
  .unlock ∈ rest ∧ .lock ∉ rest

instance (rest : List PostInstr) : Decidable (HoldsWriteLock rest) :=
  inferInstanceAs (Decidable (_ ∧ _))

namespace Shared

variable {fe : FrontEnd} {s t : Shared} {rest rest' : List PostInstr} {written : Bool}

@[simp] theorem deref_mWriteLock (s : Shared) (p : Pointer) (set : Bool) :
    (s.deref p set).mWriteLock = s.mWriteLock := by
  unfold deref
  split <;> rfl

/-- An instruction of `postEvents` leaves less to do, and takes and gives back `mWriteLock` where it
says so. -/
theorem runPost_lock (hsuffix : rest <:+ postEvents fe)
    (h : s.runPost written rest = some (rest', t)) :
    rest'.length < rest.length ∧ rest' <:+ postEvents fe ∧
      (t.mWriteLock = true → HoldsWriteLock rest' ∨
        s.mWriteLock = true ∧ ¬ HoldsWriteLock rest) := by
  cases fe with
  | sensors =>
      simp only [postEvents, List.suffix_cons_iff, List.suffix_nil] at hsuffix
      rcases hsuffix with rfl | rfl | rfl | rfl | rfl
      · simp only [runPost] at h
        split at h
        · cases h
        · cases h
          exact ⟨by decide, by decide, fun _ => Or.inl (by decide)⟩
      · cases h
        split
        · exact ⟨by decide, by decide, fun _ => Or.inl (by decide)⟩
        · exact ⟨by decide, by decide, fun _ => Or.inl (by decide)⟩
      · cases h
        exact ⟨by decide, by decide, fun _ => Or.inl (by decide)⟩
      · cases h
        exact ⟨by decide, by decide, fun hlock => by cases hlock⟩
      · cases h
  | aidl =>
      simp only [postEvents, List.suffix_cons_iff, List.suffix_nil] at hsuffix
      rcases hsuffix with rfl | rfl | rfl | rfl | rfl | rfl
      · simp only [runPost] at h
        split at h
        · cases h
        · cases h
          exact ⟨by decide, by decide, fun _ => Or.inl (by decide)⟩
      · cases h
        split
        · exact ⟨by decide, by decide, fun _ => Or.inl (by decide)⟩
        · exact ⟨by decide, by decide, fun _ => Or.inl (by decide)⟩
      · cases h
        split
        · exact ⟨by decide, by decide, fun _ => Or.inl (by decide)⟩
        · exact ⟨by decide, by decide, fun _ => Or.inl (by decide)⟩
      · cases h
        exact ⟨by decide, by decide, fun _ => Or.inl (by decide)⟩
      · cases h
        exact ⟨by decide, by decide, fun hlock => by cases hlock⟩
      · cases h
  | subHal =>
      simp only [postEvents, List.suffix_cons_iff, List.suffix_nil] at hsuffix
      rcases hsuffix with rfl | rfl | rfl
      · cases h
        exact ⟨by decide, by decide, fun hlock => Or.inr ⟨by simpa using hlock, by decide⟩⟩
      · cases h
        exact ⟨by decide, by decide, fun hlock => Or.inr ⟨by simpa using hlock, by decide⟩⟩
      · cases h

/-- Only the mutex keeps a thread from its next instruction. -/
theorem runPost_isSome (hne : rest ≠ [])
    (hlock : s.mWriteLock = true → rest.head? ≠ some .lock) :
    (s.runPost written rest).isSome = true := by
  rcases rest with _ | ⟨i, rest⟩
  · exact absurd rfl hne
  cases i with
  | lock =>
      have hfree : s.mWriteLock = false := by
        by_contra hheld
        exact hlock (by simpa using hheld) rfl
      simp [runPost, hfree]
  | returnIfNull | write | wake | unlock | createScopedWakelock | callbackPost => rfl

end Shared

/-- What is left of `postEvents`, of every thread; and `mWriteLock` is with a thread that gives it
back. -/
structure HalState.LockOk (fe : FrontEnd) (s : HalState) : Prop where
  posting : ∀ h, s.posting h <:+ postEvents fe
  flushing : ∀ h rest, s.caller = .flushing h rest → rest <:+ postEvents fe
  held : s.shared.mWriteLock = true →
    (∃ h rest, s.caller = .flushing h rest ∧ HoldsWriteLock rest) ∨
    ∃ h, HoldsWriteLock (s.posting h)

section Machine

variable {fe : FrontEnd} {mSensors : List Int} {oneShot : Int → Bool}

namespace HalState

variable {s t : HalState}

/-- The threads of the sensors stand still, and the binder thread does not leave the critical
section. -/
theorem LockOk.of_same (hs : s.LockOk fe) (hposting : t.posting = s.posting)
    (hlock : t.shared.mWriteLock = s.shared.mWriteLock)
    (hflushing : ∀ h rest, t.caller = .flushing h rest → rest <:+ postEvents fe)
    (hstays : ∀ h rest, s.caller = .flushing h rest → ¬ HoldsWriteLock rest) : t.LockOk fe where
  posting h := hposting ▸ hs.posting h
  flushing := hflushing
  held hheld := by
    rcases hs.held (hlock ▸ hheld) with ⟨h, rest, hc, hholds⟩ | hholds
    · exact absurd hholds (hstays h rest hc)
    · exact Or.inr (hposting ▸ hholds)

theorem lockOk_call {c : HalCall} (hs : s.LockOk fe) (hidle : s.caller = .idle)
    (h : s.call fe mSensors oneShot c = some t) : t.LockOk fe := by
  have hstays : ∀ j rest, s.caller = .flushing j rest → ¬ HoldsWriteLock rest := by
    intro j rest hc
    cases hidle.symm.trans hc
  cases c with
  | activate j enabled =>
      simp only [call] at h
      split at h
      · rcases sensorActivate_cases h with ⟨rfl, _⟩ | ⟨rfl, _⟩
        · exact hs
        · exact hs.of_same rfl rfl hs.flushing hstays
      · cases h
        exact hs
  | batch j period =>
      cases h
      exact hs
  | flush j =>
      simp only [call] at h
      split at h
      · cases h
        refine hs.of_same rfl rfl ?_ hstays
        rintro _ _ ⟨⟩
        exact List.suffix_refl _
      · cases h
        exact hs
  | initializeCall flagOk =>
      cases h
      exact hs.of_same rfl rfl (by rintro _ _ ⟨⟩) hstays

theorem lockOk_stepCaller {written : Bool} (hs : s.LockOk fe) (h : s.stepCaller written = some t) :
    t.LockOk fe := by
  unfold stepCaller at h
  split at h
  case h_1 => cases h
  case h_2 flagOk hc =>
    cases h
    refine hs.of_same rfl rfl (by rintro _ _ ⟨⟩) ?_
    intro j rest hflush
    cases hc.symm.trans hflush
  case h_3 i rest flagOk hc =>
    obtain ⟨u, hu, rfl⟩ := Option.map_eq_some_iff.mp h
    have hsame : u.posting = s.posting ∧ u.shared.mWriteLock = s.shared.mWriteLock := by
      cases i with
      | disable j =>
          obtain ⟨-, -, hposting, hshared, -⟩ := sensorActivate_false hu
          exact ⟨hposting, congrArg Shared.mWriteLock hshared⟩
      | setQueue | deleteFlag | createFlag | setCallback =>
          cases hu
          exact ⟨rfl, rfl⟩
    refine hs.of_same hsame.1 hsame.2 (by rintro _ _ ⟨⟩) ?_
    intro j rest hflush
    cases hc.symm.trans hflush
  case h_4 j hc =>
    cases h
    refine hs.of_same rfl rfl (by rintro _ _ ⟨⟩) ?_
    intro k rest hflush
    cases hc.symm.trans hflush
    decide
  case h_5 j rest _ hc =>
    obtain ⟨r, hrun, rfl⟩ := Option.map_eq_some_iff.mp h
    obtain ⟨-, hsuffix, hheld⟩ := Shared.runPost_lock (hs.flushing j rest hc) hrun
    refine ⟨hs.posting, ?_, fun hlock => ?_⟩
    · rintro _ _ ⟨⟩
      exact hsuffix
    · rcases hheld hlock with hholds | ⟨hbefore, hnot⟩
      · exact Or.inl ⟨j, r.1, rfl, hholds⟩
      · rcases hs.held hbefore with ⟨k, l, hflush, hholds⟩ | hholds
        · cases hc.symm.trans hflush
          exact absurd hholds hnot
        · exact Or.inr hholds

/-- The thread of one sensor goes on to `rest`. -/
theorem LockOk.setPosting (hs : s.LockOk fe) {sh : Shared} {j : Int} {rest : List PostInstr}
    (hsuffix : rest <:+ postEvents fe)
    (hheld : sh.mWriteLock = true → HoldsWriteLock rest ∨
      s.shared.mWriteLock = true ∧ ¬ HoldsWriteLock (s.posting j)) :
    (HalState.setPosting { s with shared := sh } j rest).LockOk fe := by
  refine ⟨fun k => ?_, hs.flushing, fun hlock => ?_⟩
  · show (if k = j then rest else s.posting k) <:+ postEvents fe
    split
    · exact hsuffix
    · exact hs.posting k
  · rcases hheld hlock with hholds | ⟨hbefore, hnot⟩
    · refine Or.inr ⟨j, ?_⟩
      have hself : (HalState.setPosting { s with shared := sh } j rest).posting j = rest :=
        if_pos rfl
      rw [hself]
      exact hholds
    · rcases hs.held hbefore with hflush | ⟨k, hholds⟩
      · exact Or.inl hflush
      · have hne : k ≠ j := by
          rintro rfl
          exact hnot hholds
        have hsame : (HalState.setPosting { s with shared := sh } j rest).posting k =
            s.posting k := if_neg hne
        refine Or.inr ⟨k, ?_⟩
        rw [hsame]
        exact hholds

theorem lockOk_step {a : PathAct} (hs : s.LockOk fe) (h : s.step fe mSensors oneShot a = some t) :
    t.LockOk fe := by
  cases a with
  | call c =>
      simp only [step] at h
      split at h
      case isFalse => cases h
      case isTrue hidle => exact lockOk_call hs hidle h
  | caller written => exact lockOk_stepCaller hs h
  | sample j =>
      simp only [step] at h
      split at h
      case isFalse => cases h
      case isTrue hdue =>
        cases h
        refine hs.setPosting (List.suffix_refl _) fun hlock => Or.inr ⟨hlock, ?_⟩
        rw [hdue.2.2]
        decide
  | thread j written =>
      obtain ⟨r, hrun, rfl⟩ := Option.map_eq_some_iff.mp h
      obtain ⟨-, hsuffix, hheld⟩ := Shared.runPost_lock (hs.posting j) hrun
      exact hs.setPosting hsuffix hheld

theorem lockOk_of_reach (h : (eventPath fe mSensors oneShot).Reach s) : s.LockOk fe := by
  refine h.invariant (P := LockOk fe) ?_ (fun _ _ _ hs hstep => lockOk_step hs hstep)
  rintro s rfl
  constructor
  · exact fun _ => List.nil_suffix
  · rintro _ _ ⟨⟩
  · rintro ⟨⟩

end HalState

/-! ## Steps that end -/

/-- The steps of a call of `initialize` and of those it waits for: no new call, no sample that
becomes due, no other round of `readWakeLockFMQ`. -/
def LifeAct.GoesOn : LifeAct → Prop
  | .initStep | .initReader | .initReturns | .thread _ _ | .leave _ | .readerEnds | .reader => True
  | .call _ | .flush _ | .flushLeaves | .sample _ | .readerGoesOn => False

/-- The steps `readWakeLockFMQ` has left in its round. -/
def WakeLockThread.left : WakeLockThread → Nat
  | .notJoinable | .ended => 0
  | .testing => 1
  | .updating => 2
  | .reading => 3
  | .entering => 4

namespace Lifetimes

variable {s t : Lifetimes}

/-- Each instruction may enter a method, which is left in a step of its own. -/
def threadWork (s : Lifetimes) (h : Int) : Nat :=
  2 * (s.hal.posting h).length + if s.uses h = none then 0 else 1

/-- How many steps there are left at most. -/
def work (mSensors : List Int) (s : Lifetimes) : Nat :=
  2 * s.initRest.length + (if s.hal.caller = .idle then 0 else 1) + s.mWakeLockThread.left +
    (mSensors.map s.threadWork).sum

/-- What a call of `initialize` leaves: no sensor is enabled, and in the front ends with a wake-lock
queue there is one, whose thread is to run. -/
structure Initialized (fe : FrontEnd) (s : Lifetimes) : Prop where
  disabled : ∀ h, s.hal.mIsEnabled h = false
  reading : fe ≠ .subHal → s.mReadWakeLockQueueRun = true ∧ s.mWakeLockQueue = true

/-- The binder thread is in `initialize`, or has returned from it. -/
def Returning (fe : FrontEnd) (s : Lifetimes) : Prop :=
  (∃ rest flagOk, s.hal.caller = .initializing rest flagOk) ∨
    s.hal.caller = .idle ∧ s.Initialized fe

/-- A call that is not about to start the thread has started it. -/
def Started (fe : FrontEnd) (s : Lifetimes) : Prop :=
  fe ≠ .subHal → (∃ rest flagOk, s.hal.caller = .initializing rest flagOk) →
    .startReader ∈ s.initRest ∨ s.mReadWakeLockQueueRun = true

/-- A step of the thread of one sensor. -/
theorem sum_threadWork_lt {j : Int} (hj : j ∈ mSensors) (hlt : t.threadWork j < s.threadWork j)
    (hsame : ∀ k, k ≠ j → t.threadWork k = s.threadWork k) :
    (mSensors.map t.threadWork).sum < (mSensors.map s.threadWork).sum := by
  refine List.sum_lt_sum t.threadWork s.threadWork (fun k _ => ?_) ⟨j, hj, hlt⟩
  by_cases hk : k = j
  · exact hk ▸ Nat.le_of_lt hlt
  · exact Nat.le_of_eq (hsame k hk)

theorem work_initStep (hs : s.Ok fe mSensors) (h : s.Step fe mSensors oneShot .initStep t) :
    t.work mSensors < s.work mSensors ∧ t.Returning fe := by
  cases h with
  | @initStep i rest w hrest hmay hw =>
      obtain ⟨r, f, hc⟩ := hs.calling (by rw [hrest]; exact List.cons_ne_nil _ _)
      have hbusy : s.hal.caller ≠ .idle := by
        rw [hc]
        rintro ⟨⟩
      obtain ⟨hprogram, rfl⟩ := hs.program r f hc
      rw [hrest] at hc
      obtain ⟨u, hu, rfl⟩ := caller_cases hc hw
      have hposting : u.posting = s.hal.posting := by
        cases i with
        | disable k => exact (HalState.sensorActivate_false hu).2.2.1
        | setQueue | deleteFlag | createFlag | setCallback =>
            cases hu
            rfl
      rw [hs.delete_eq hrest]
      refine ⟨?_, Or.inl ⟨_, _, rfl⟩⟩
      have hthreads : Lifetimes.threadWork { s with
          hal := { u with caller := .initializing (rest.filterMap LifeInstr.base?) f }
          initRest := rest } = s.threadWork := by
        funext k
        show 2 * (u.posting k).length + _ = _
        rw [hposting]
        rfl
      unfold work
      rw [hthreads, hrest, if_neg hbusy, List.length_cons]
      simp only [reduceCtorEq, if_false]
      omega

theorem work_initReturns (hs : s.Ok fe mSensors) (hstarted : s.Started fe)
    (h : s.Step fe mSensors oneShot .initReturns t) :
    t.work mSensors < s.work mSensors ∧ t.Returning fe := by
  cases h with
  | @initReturns rest flagOk u hc hnil hu =>
      have hbusy : s.hal.caller ≠ .idle := by
        rw [hc]
        rintro ⟨⟩
      have hrest : rest = [] := by
        rw [(hs.program rest flagOk hc).2, hnil]
        rfl
      subst hrest
      have hidle : some ({ s.hal with caller := .idle } : HalState) = some u := by
        simpa [HalState.step, HalState.stepCaller, hc] using hu
      cases hidle
      constructor
      · show 2 * s.initRest.length + 0 + s.mWakeLockThread.left + (mSensors.map s.threadWork).sum <
          s.work mSensors
        unfold work
        rw [if_neg hbusy]
        omega
      · refine Or.inr ⟨rfl, fun j => ?_, fun hfe => ?_⟩
        · by_cases hfe : fe = .subHal
          · exact hs.disabled (by rw [hfe]; decide) _ _ hc j
          · by_contra hon
            have hmem := (hs.sound.initializing _ _ hc).disables hfe j (by simpa using hon)
            exact absurd hmem List.not_mem_nil
        · have hdone : .startReader ∉ s.initRest := by
            rw [hnil]
            exact List.not_mem_nil
          have hrun := (hstarted hfe ⟨_, _, hc⟩).resolve_left hdone
          rcases hs.reader.running (Or.inr hdone) with ⟨_, hjoinable, _⟩ | ⟨hnot, _⟩
          · exact ⟨hrun, hs.reader.queue hjoinable⟩
          · cases hrun.symm.trans hnot

/-- The steps of the other threads keep `Returning`. -/
theorem Returning.of_same (hs : s.Returning fe) (hcaller : t.hal.caller = s.hal.caller)
    (hsame : t.hal.mIsEnabled = s.hal.mIsEnabled)
    (hrun : t.mReadWakeLockQueueRun = s.mReadWakeLockQueueRun)
    (hqueue : t.mWakeLockQueue = s.mWakeLockQueue) : t.Returning fe := by
  rcases hs with ⟨rest, flagOk, hc⟩ | ⟨hidle, hdone⟩
  · exact Or.inl ⟨rest, flagOk, hcaller.trans hc⟩
  · refine Or.inr ⟨hcaller.trans hidle, ?_, ?_⟩
    · rw [hsame]
      exact hdone.disabled
    · rw [hrun, hqueue]
      exact hdone.reading

/-- A step of the binder thread, or of the one that reads the wake-lock queue. -/
theorem work_own (hhal : t.hal = s.hal) (huses : t.uses = s.uses)
    (hlt : 2 * t.initRest.length + t.mWakeLockThread.left <
      2 * s.initRest.length + s.mWakeLockThread.left) :
    t.work mSensors < s.work mSensors := by
  have hthreads : t.threadWork = s.threadWork := by
    funext k
    unfold threadWork
    rw [hhal, huses]
  unfold work
  rw [hthreads, hhal]
  omega

/-- An instruction about the wake-lock queue; the one that starts the thread pays for its loop
test. -/
theorem work_instr {i : LifeInstr} {rest : List LifeInstr} (hrest : s.initRest = i :: rest)
    (hhal : t.hal = s.hal) (huses : t.uses = s.uses) (hlength : t.initRest.length ≤ rest.length)
    (hleft : t.mWakeLockThread.left ≤ s.mWakeLockThread.left + 1) :
    t.work mSensors < s.work mSensors ∧ t.hal = s.hal ∧ s.initRest ≠ [] := by
  refine ⟨work_own hhal huses ?_, hhal, by simp [hrest]⟩
  rw [hrest, List.length_cons]
  omega

theorem work_initReader (h : s.Step fe mSensors oneShot .initReader t) :
    t.work mSensors < s.work mSensors ∧ t.hal = s.hal ∧ s.initRest ≠ [] := by
  cases h with
  | stopReader hrest _ | joinFails hrest _ | setWakeLockQueue hrest =>
      exact work_instr hrest rfl rfl le_rfl (Nat.le_succ _)
  | @skipJoin rest hrest _ =>
      refine work_instr hrest rfl rfl ?_ (Nat.le_succ _)
      show rest.tail.length ≤ rest.length
      rw [List.length_tail]
      omega
  | joinReader hrest _ => exact work_instr hrest rfl rfl le_rfl (Nat.zero_le _)
  | startReader hrest => exact work_instr hrest rfl rfl le_rfl (Nat.le_add_left 1 _)

theorem work_reader (hr : s.Returning fe) (h : s.Step fe mSensors oneShot .reader t) :
    t.work mSensors < s.work mSensors ∧ t.Returning fe := by
  cases h with
  | enter hthread | read hthread | update hthread =>
      refine ⟨work_own rfl rfl ?_, hr.of_same rfl rfl rfl rfl⟩
      rw [hthread]
      exact Nat.add_lt_add_left (Nat.lt_succ_self _) _

/-- What a step of the thread of one sensor does to the rest of the sum. -/
theorem work_sensor (hs : s.Returning fe) {j : Int} (hj : j ∈ mSensors)
    (hinit : t.initRest = s.initRest) (hcaller : t.hal.caller = s.hal.caller)
    (hsame : t.hal.mIsEnabled = s.hal.mIsEnabled) (hreader : t.mWakeLockThread = s.mWakeLockThread)
    (hrun : t.mReadWakeLockQueueRun = s.mReadWakeLockQueueRun)
    (hqueue : t.mWakeLockQueue = s.mWakeLockQueue)
    (hlt : t.threadWork j < s.threadWork j)
    (hothers : ∀ k, k ≠ j → t.threadWork k = s.threadWork k) :
    t.work mSensors < s.work mSensors ∧ t.Returning fe := by
  refine ⟨?_, hs.of_same hcaller hsame hrun hqueue⟩
  unfold work
  rw [hinit, hcaller, hreader]
  exact Nat.add_lt_add_left (sum_threadWork_lt hj hlt hothers) _

theorem work_thread (hs : s.Ok fe mSensors) (hl : s.hal.LockOk fe) (hr : s.Returning fe) {j : Int}
    {written : Bool} (h : s.Step fe mSensors oneShot (.thread j written) t) :
    t.work mSensors < s.work mSensors ∧ t.Returning fe := by
  cases h with
  | thread hout hu =>
      obtain ⟨r, hrun, rfl⟩ := Option.map_eq_some_iff.mp hu
      have hpost : s.hal.posting j ≠ [] := by
        intro hnil
        rw [hnil] at hrun
        cases hrun
      -- one instruction less pays for the method it calls
      have hshorter := (Shared.runPost_lock (hl.posting j) hrun).1
      have hmem := hs.sound.known j (hs.sound.enabled j hpost)
      refine work_sensor hr hmem rfl rfl rfl rfl rfl rfl ?_ fun k hk => ?_
      · show 2 * (if j = j then r.1 else s.hal.posting j).length +
          (if (if j = j then (s.hal.posting j).head?.bind PostInstr.calls else s.uses j) = none
            then 0 else 1) < 2 * (s.hal.posting j).length + (if s.uses j = none then 0 else 1)
        rw [if_pos rfl, if_pos rfl, if_pos hout]
        split
        · omega
        · omega
      · show 2 * (if k = j then r.1 else s.hal.posting k).length +
          (if (if k = j then (s.hal.posting j).head?.bind PostInstr.calls else s.uses k) = none
            then 0 else 1) = 2 * (s.hal.posting k).length + (if s.uses k = none then 0 else 1)
        rw [if_neg hk, if_neg hk]

theorem work_leave (hs : s.Ok fe mSensors) (hr : s.Returning fe) {j : Int}
    (h : s.Step fe mSensors oneShot (.leave j) t) :
    t.work mSensors < s.work mSensors ∧ t.Returning fe := by
  cases h with
  | leave hin =>
      have hmem := hs.sound.known j (hs.enabled j hin)
      refine work_sensor hr hmem rfl rfl rfl rfl rfl rfl ?_ fun k hk => ?_
      · show 2 * (s.hal.posting j).length +
          (if (if j = j then none else s.uses j) = none then 0 else 1) <
            2 * (s.hal.posting j).length + (if s.uses j = none then 0 else 1)
        rw [if_pos rfl, if_pos rfl, if_neg hin]
        omega
      · show 2 * (s.hal.posting k).length +
          (if (if k = j then none else s.uses k) = none then 0 else 1) =
            2 * (s.hal.posting k).length + (if s.uses k = none then 0 else 1)
        rw [if_neg hk]

/-- Each of the steps leaves less to do. -/
theorem work_step (hs : s.Ok fe mSensors) (hl : s.hal.LockOk fe) (hstarted : s.Started fe)
    (hr : s.Returning fe) {a : LifeAct} (ha : a.GoesOn)
    (h : s.step fe mSensors oneShot a = some t) :
    t.work mSensors < s.work mSensors ∧ t.Returning fe := by
  have hstep := step_cases h
  cases a with
  | initStep => exact work_initStep hs hstep
  | initReader =>
      obtain ⟨hless, hhal, hne⟩ := work_initReader hstep
      obtain ⟨rest, flagOk, hc⟩ := hs.calling hne
      exact ⟨hless, Or.inl ⟨rest, flagOk, hhal ▸ hc⟩⟩
  | initReturns => exact work_initReturns hs hstarted hstep
  | thread j written => exact work_thread hs hl hr hstep
  | leave j => exact work_leave hs hr hstep
  | readerEnds =>
      cases hstep with
      | readerEnds htest _ =>
          refine ⟨work_own rfl rfl ?_, hr.of_same rfl rfl rfl rfl⟩
          rw [htest]
          exact Nat.add_lt_add_left (Nat.lt_succ_self _) _
  | reader => exact work_reader hr hstep
  | call c | flush written | flushLeaves | sample j | readerGoesOn => cases ha

/-! ### The thread is started again -/

theorem started_initReader (hs : s.Ok fe mSensors) (h : s.Step fe mSensors oneShot .initReader t) :
    t.Started fe := by
  intro _ _
  cases h with
  | stopReader hrest _ =>
      obtain ⟨rest, rfl, -, -, hstart, -⟩ := after_stopReader (hs.restOk hrest)
      exact Or.inl (List.mem_cons_of_mem _ hstart)
  | skipJoin hrest _ =>
      obtain ⟨rest, rfl, -, -, hstart, -⟩ := after_stopReader (hs.restOk hrest)
      exact Or.inl hstart
  | joinReader hrest _ | joinFails hrest _ =>
      obtain ⟨-, -, hstart, -⟩ := after_joinReader (hs.restOk hrest)
      exact Or.inl hstart
  | @setWakeLockQueue rest hrest =>
      refine Or.inl ?_
      show .startReader ∈ rest
      rw [after_setWakeLockQueue (hs.restOk hrest)]
      exact List.mem_cons_self
  | startReader hrest => exact Or.inr rfl

/-- No other step goes past the start of the thread. -/
theorem Started.of_same (hs : s.Started fe)
    (hcaller : (∃ rest flagOk, t.hal.caller = .initializing rest flagOk) →
      ∃ rest flagOk, s.hal.caller = .initializing rest flagOk)
    (hrest : .startReader ∈ s.initRest → .startReader ∈ t.initRest)
    (hrun : t.mReadWakeLockQueueRun = s.mReadWakeLockQueueRun) : t.Started fe := by
  intro hfe hc
  rw [hrun]
  exact (hs hfe (hcaller hc)).imp_left hrest

theorem started_call {c : HalCall} (hs : s.Started fe)
    (h : s.Step fe mSensors oneShot (.call c) t) : t.Started fe := by
  cases h with
  | call _ hu =>
      obtain ⟨hidle, hu⟩ := Option.ite_none_right_eq_some.mp hu
      cases c with
      | activate j enabled =>
          refine hs.of_same ?_ id rfl
          simp only [HalState.call] at hu
          split at hu
          · rcases HalState.sensorActivate_cases hu with ⟨rfl, _⟩ | ⟨rfl, _⟩
            · exact id
            · exact id
          · cases hu
            exact id
      | batch j period =>
          cases hu
          exact hs
      | flush j =>
          refine hs.of_same ?_ id rfl
          simp only [HalState.call] at hu
          split at hu
          · cases hu
            rintro ⟨_, _, ⟨⟩⟩
          · cases hu
            exact id
      | initializeCall flagOk =>
          -- the call begins with the start still to come
          intro hfe _
          refine Or.inl ?_
          show .startReader ∈ lifeInstrs mSensors fe
          refine List.mem_append_right _ ?_
          cases fe with
          | sensors | aidl => decide
          | subHal => exact absurd rfl hfe

theorem started_initStep (hs : s.Ok fe mSensors) (hstarted : s.Started fe)
    (h : s.Step fe mSensors oneShot .initStep t) : t.Started fe := by
  cases h with
  | initStep hrest _ hu =>
      rw [hs.delete_eq hrest]
      refine hstarted.of_same (fun _ => hs.calling ?_) ?_ rfl
      · rw [hrest]
        exact List.cons_ne_nil _ _
      · rw [hrest]
        intro hmem
        exact (List.mem_cons.mp hmem).resolve_left (by rintro ⟨⟩)

/-- The binder thread is in `flush`, or idle after it. -/
theorem started_flush {written : Bool} (hstarted : s.Started fe)
    (h : s.Step fe mSensors oneShot (.flush written) t) : t.Started fe := by
  cases h with
  | @flush _ j rest u hc _ hu =>
      refine hstarted.of_same ?_ id rfl
      rintro ⟨r, f, hinit⟩
      change s.hal.stepCaller written = some u at hu
      unfold HalState.stepCaller at hu
      rw [hc] at hu
      rcases rest with _ | ⟨i, rest⟩
      · cases hu
        cases hinit
      · obtain ⟨p, -, rfl⟩ := Option.map_eq_some_iff.mp hu
        cases hinit

theorem started_step {a : LifeAct} (hs : s.Ok fe mSensors) (hstarted : s.Started fe)
    (h : s.step fe mSensors oneShot a = some t) : t.Started fe := by
  have hstep := step_cases h
  cases a with
  | call c => exact started_call hstarted hstep
  | initStep => exact started_initStep hs hstarted hstep
  | initReader => exact started_initReader hs hstep
  | initReturns =>
      cases hstep with
      | initReturns hc _ _ => exact hstarted.of_same (fun _ => ⟨_, _, hc⟩) id rfl
  | flush written => exact started_flush hstarted hstep
  | sample j =>
      cases hstep with
      | sample _ hu =>
          obtain ⟨-, hu⟩ := Option.ite_none_right_eq_some.mp hu
          cases hu
          exact hstarted.of_same id id rfl
  | thread j written =>
      cases hstep with
      | thread _ hu =>
          obtain ⟨r, -, rfl⟩ := Option.map_eq_some_iff.mp hu
          exact hstarted.of_same id id rfl
  | flushLeaves | leave | readerGoesOn | readerEnds | reader =>
      cases hstep <;> exact hstarted.of_same id id rfl

theorem started_of_reach
    (h : (lifetimes fe mSensors oneShot).ReachUnder (LifeOk fe mSensors) s) : s.Started fe := by
  refine h.invariant_of_reach ?_ ?_
  · rintro s rfl
    rintro _ ⟨_, _, ⟨⟩⟩
  · exact fun s a t hs hstarted _ hstep => started_step (ok_of_reach hs) hstarted hstep

/-! ### Nobody waits for somebody who waits -/

/-- No thread is in a method, or in `postEvents` at all: one that waits for `mWriteLock` waits for
one that does not. -/
theorem posting_nil (hl : s.hal.LockOk fe) {rest : List InitInstr} {flagOk : Bool}
    (hc : s.hal.caller = .initializing rest flagOk)
    (hstuck : ∀ a : LifeAct, a.GoesOn → s.step fe mSensors oneShot a = none) (h : Int) :
    s.uses h = none ∧ s.hal.posting h = [] := by
  -- a method that is running returns
  have hout : ∀ k, s.uses k = none := by
    intro k
    by_contra hin
    have hleave := hstuck (.leave k) trivial
    simp [step, hin] at hleave
  -- and a thread in `postEvents` goes on, unless it stands before the lock
  have hwaits : ∀ k, s.hal.posting k ≠ [] →
      s.hal.shared.mWriteLock = true ∧ (s.hal.posting k).head? = some .lock := by
    intro k hpost
    by_contra hgoes
    have hsome : (s.hal.shared.runPost true (s.hal.posting k)).isSome = true :=
      Shared.runPost_isSome hpost fun hheld hhead => hgoes ⟨hheld, hhead⟩
    have hthread := hstuck (.thread k true) trivial
    simp only [step, if_pos (hout k), Option.map_eq_none_iff, HalState.step] at hthread
    rw [hthread] at hsome
    cases hsome
  refine ⟨hout h, ?_⟩
  by_contra hpost
  rcases hl.held (hwaits h hpost).1 with ⟨k, l, hflush, -⟩ | ⟨k, hunlock, hlock⟩
  · cases hc.symm.trans hflush
  · have hhead := (hwaits k (List.ne_nil_of_mem hunlock)).2
    exact hlock (List.mem_of_mem_head? hhead)

/-- Inside `initialize` there is a step to take. -/
theorem not_stuck (hs : s.Ok fe mSensors) (hl : s.hal.LockOk fe) {rest : List InitInstr}
    {flagOk : Bool} (hc : s.hal.caller = .initializing rest flagOk) :
    ¬ ∀ a : LifeAct, a.GoesOn → s.step fe mSensors oneShot a = none := by
  intro hstuck
  have hidle := posting_nil hl hc hstuck
  obtain ⟨hprogram, rfl⟩ := hs.program rest flagOk hc
  have hstep := hstuck .initStep trivial
  have hreader := hstuck .initReader trivial
  have hreturns := hstuck .initReturns trivial
  change s.stepInit fe mSensors oneShot = none at hstep
  change s.stepInitReader = none at hreader
  rcases hrest : s.initRest with _ | ⟨i, tail⟩
  · -- nothing is left to do but to return
    rw [hrest] at hc
    simp [step, hc, hrest, HalState.step, HalState.stepCaller] at hreturns
  · rw [hrest] at hc hprogram
    cases i with
    | base i =>
        -- `disable` has `mRunMutex` to itself, and the others wait for nothing
        have hinit : (s.hal.runInit flagOk i).isSome = true := by
          cases i with
          | disable j =>
              simp only [HalState.runInit, HalState.sensorActivate, (hidle j).2]
              split <;> rfl
          | setQueue | deleteFlag | createFlag | setCallback => rfl
        have hmay : s.MayInit i := by
          cases i with
          | disable j => exact Or.inr (hidle j).1
          | setQueue | deleteFlag | createFlag | setCallback => trivial
        obtain ⟨u, hu⟩ := Option.isSome_iff_exists.mp hinit
        simp [stepInit, hrest, hmay, HalState.step, HalState.stepCaller, hc, LifeInstr.base?,
          hu] at hstep
    | stopReader => simp [stepInitReader, hrest] at hreader
    | joinReader =>
        -- the thread has been told to end, and what it is in returns
        have hstopped := hs.reader.stopping
        rw [hrest] at hstopped
        obtain ⟨hstop, -, -, -⟩ := after_joinReader hprogram
        obtain ⟨hrun, hjoinable⟩ := hstopped (by simp [hstop]) List.mem_cons_self
        have hends := hstuck .readerEnds trivial
        have hmoves := hstuck .reader trivial
        change s.stepReader = none at hmoves
        cases hthread : s.mWakeLockThread with
        | notJoinable => exact hjoinable hthread
        | ended => simp [stepInitReader, hrest, hthread] at hreader
        | testing => simp [step, hthread, hrun] at hends
        | entering | reading | updating => simp [stepReader, hthread] at hmoves
    | setWakeLockQueue => simp [stepInitReader, hrest] at hreader
    | startReader => simp [stepInitReader, hrest] at hreader

end Lifetimes

end Machine

/-! ## Every call -/

/-- In every state reached under `LifeOk` in which the binder thread is in `initialize`, the steps of
the call and of those it waits for come to an end, in any order; where none is left the call has
returned, every sensor is disabled, and `readWakeLockFMQ`, where there is one, has been started on
the new queue. -/
theorem initializing_ends (fe : FrontEnd) (mSensors : List Int) (oneShot : Int → Bool)
    {s : Lifetimes} (h : (lifetimes fe mSensors oneShot).ReachUnder (LifeOk fe mSensors) s)
    {rest : List InitInstr} {flagOk : Bool} (hc : s.hal.caller = .initializing rest flagOk) :
    (lifetimes fe mSensors oneShot).EndsIn LifeAct.GoesOn (s.work mSensors)
      (fun t => t.hal.caller = .idle ∧ t.Initialized fe) s := by
  -- who has `mWriteLock` is the same in `eventPath`, whatever was called
  have hlock : ∀ {t : Lifetimes},
      (lifetimes fe mSensors oneShot).ReachUnder (LifeOk fe mSensors) t → t.hal.LockOk fe := by
    intro t ht
    obtain ⟨x, hx, hhal⟩ := (pathSimulation fe mSensors oneShot).reach ht.reach
    exact HalState.lockOk_of_reach (hhal ▸ hx)
  refine Machine.endsIn_of_rank (r := Lifetimes.work mSensors)
    (I := fun t => (lifetimes fe mSensors oneShot).ReachUnder (LifeOk fe mSensors) t ∧
      t.Returning fe)
    ?_ ?_ ⟨h, Or.inl ⟨rest, flagOk, hc⟩⟩
  · rintro t a u ⟨ht, hreturning⟩ hgoes hstep
    have hok : LifeOk fe mSensors t a := by
      cases a with
      | call c => cases hgoes
      | _ => trivial
    obtain ⟨hless, hkeeps⟩ :=
      Lifetimes.work_step (Lifetimes.ok_of_reach ht) (hlock ht) (Lifetimes.started_of_reach ht)
        hreturning hgoes hstep
    exact ⟨⟨ht.next hok hstep, hkeeps⟩, hless⟩
  · rintro t ⟨ht, hreturning⟩ hstuck
    rcases hreturning with ⟨r, f, hinit⟩ | hdone
    · exact absurd hstuck (Lifetimes.not_stuck (Lifetimes.ok_of_reach ht) (hlock ht) hinit)
    · exact hdone

/-- A second call, while a sensor is in `write` and `readWakeLockFMQ` in `readBlocking`. -/
theorem initializing_ends_twice : ∃ s : Lifetimes,
    s.uses 1 = some .mEventQueue ∧ s.mWakeLockThread = .reading ∧
      (lifetimes .sensors [1] fun _ => false).EndsIn LifeAct.GoesOn 25
        (fun t => t.hal.caller = .idle ∧ t.Initialized .sensors) s := by
  have hstart : (lifetimes .sensors [1] fun _ => false).ReachUnder (LifeOk .sensors [1]) .init :=
    .start rfl
  have hcall := hstart.next (a := LifeAct.call (.initializeCall true))
    ⟨fun h => (nomatch h), fun _ _ h => absurd rfl h⟩ rfl
  have hreturns := reachUnder_of_run (l := [.initStep, .initReader, .initStep, .initStep, .initStep,
    .initReader, .initReader, .initReturns]) hcall (by simp) rfl
  have hactive := hreturns.next (a := LifeAct.call (.activate 1 true))
    ⟨fun _ => ⟨rfl, rfl⟩, fun _ h => (nomatch h)⟩ rfl
  have hwrites := reachUnder_of_run (l := [.sample 1, .thread 1 true, .thread 1 true,
    .readerGoesOn, .reader]) hactive (by simp) rfl
  have hagain := hwrites.next (a := LifeAct.call (.initializeCall true))
    ⟨fun h => (nomatch h), fun _ _ h => absurd rfl h⟩ rfl
  exact ⟨_, rfl, rfl, initializing_ends .sensors [1] (fun _ => false) hagain rfl⟩

end Smi240Hal.Direct
