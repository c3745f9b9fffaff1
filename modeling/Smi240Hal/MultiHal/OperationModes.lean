/-
# Smi240Hal.MultiHal.OperationModes — one operation mode for all sub-HALs

`setOperationMode` asks the sub-HALs one after another.  At the first refusal it stops and puts the
ones it has asked so far back into `mCurrentOperationMode`; both loops share `subHalIndex`.

Sub-HALs are loaded from shared objects.  `SubHalModes` is what `HalProxy` relies on: an answer of OK
means the mode was taken, a refusal leaves it, a sub-HAL goes back to the mode it has just left, and
`initialize` puts it into NORMAL, as the description of `ISensorsSubHal::initialize` demands.
-/
import Smi240Hal.Lib.Machine
import Smi240Hal.MultiHal.SensorTables

namespace Smi240Hal.MultiHal

open Smi240Hal.Lib

/-- A kind of sub-HAL, with the states it can be in.  Any pattern of refusals is a choice of `σ`. -/
structure SubHalModes (σ : Type*) where
  mode : σ → OperationMode
  setOperationMode : σ → OperationMode → Result × σ
  initializeSubHal : σ → Result × σ
  accepted : ∀ s m, (setOperationMode s m).1 = .OK → mode (setOperationMode s m).2 = m
  refused : ∀ s m, (setOperationMode s m).1 ≠ .OK → mode (setOperationMode s m).2 = mode s
  returns : ∀ s m, (setOperationMode s m).1 = .OK →
    (setOperationMode (setOperationMode s m).2 (mode s)).1 = .OK
  initialized : ∀ s, mode (initializeSubHal s).2 = .NORMAL

/-- The sub-HAL of this repository, `ISensorsSubHalBase`: it is always in NORMAL and refuses any
other mode. -/
def boschSubHal : SubHalModes Unit where
  mode _ := .NORMAL
  setOperationMode _ m := (if m = .NORMAL then .OK else .BAD_VALUE, ())
  initializeSubHal _ := (.OK, ())
  accepted := by
    rintro _ (_ | _) h
    · rfl
    · cases h
  refused _ _ _ := rfl
  returns _ _ _ := rfl
  initialized _ := rfl

/-- What `setOperationMode` and `initializeCommon` use of `HalProxy`. -/
structure ProxyModes (σ : Type*) where
  mSubHalList : List σ
  mCurrentOperationMode : OperationMode

variable {σ : Type*} (C : SubHalModes σ)

/-! ## The two loops -/

/-- The first loop: the result, the sub-HALs and `subHalIndex` when it ends. -/
def setLoop (mode : OperationMode) : List σ → Result × List σ × Nat
  | [] => (.OK, [], 0)
  | s :: rest =>
      let answer := C.setOperationMode s mode
      if answer.1 ≠ .OK then (answer.1, answer.2 :: rest, 0)
      else
        let r := setLoop mode rest
        (r.1, answer.2 :: r.2.1, r.2.2 + 1)

/-- The second loop: put the first `subHalIndex` sub-HALs back. -/
def resetLoop (mode : OperationMode) : Nat → List σ → List σ
  | n + 1, s :: rest => (C.setOperationMode s mode).2 :: resetLoop mode n rest
  | 0, l => l
  | _ + 1, [] => []

/-- `HalProxy::setOperationMode`: the sub-HALs in turn, and back where one refuses. -/
def setOperationMode (p : ProxyModes σ) (mode : OperationMode) : Result × ProxyModes σ :=
  let r := setLoop C mode p.mSubHalList
  if r.1 ≠ .OK then
    -- reset the sub-HAL operation modes that have been flipped
    (r.1, { p with mSubHalList := resetLoop C p.mCurrentOperationMode r.2.2 r.2.1 })
  else (r.1, ⟨r.2.1, mode⟩)

/-- The last part of `initializeCommon`; `result` is what the queues and event flags came to. -/
def initializeSubHals (p : ProxyModes σ) (result : Result) : Result × ProxyModes σ :=
  let answers := p.mSubHalList.map C.initializeSubHal
  (answers.foldl (fun result answer => if answer.1 ≠ .OK then answer.1 else result) result,
    ⟨answers.map Prod.snd, .NORMAL⟩)

/-! ## What the loops do -/

/-- The sub-HALs up to the first refusal took the mode and would go back; the others are as they
were. -/
theorem setLoop_spec (mode : OperationMode) (l : List σ) :
    (∃ taken, setLoop C mode l = (.OK, taken, l.length) ∧ taken.length = l.length ∧
      ∀ s ∈ taken, C.mode s = mode) ∨
    (∃ before s after taken, l = before ++ s :: after ∧
      (∀ b ∈ before, (C.setOperationMode b mode).1 = .OK) ∧
      (C.setOperationMode s mode).1 ≠ .OK ∧
      taken = before.map (fun b => (C.setOperationMode b mode).2) ∧
      setLoop C mode l = ((C.setOperationMode s mode).1,
        taken ++ (C.setOperationMode s mode).2 :: after, before.length)) := by
  induction l with
  | nil => exact Or.inl ⟨[], rfl, rfl, by simp⟩
  | cons s rest ih =>
      by_cases hs : (C.setOperationMode s mode).1 = .OK
      · rcases ih with ⟨taken, heq, hlen, hmodes⟩ | ⟨before, t, after, taken, hrest, hbefore, ht, rfl, heq⟩
        · refine Or.inl ⟨(C.setOperationMode s mode).2 :: taken, ?_, ?_, ?_⟩
          · simp [setLoop, hs, heq]
          · simp [hlen]
          · intro u hu
            rcases List.mem_cons.mp hu with rfl | hu
            · exact C.accepted s mode hs
            · exact hmodes u hu
        · refine Or.inr ⟨s :: before, t, after, _, ?_, ?_, ht, rfl, ?_⟩
          · rw [hrest, List.cons_append]
          · intro b hb
            rcases List.mem_cons.mp hb with rfl | hb
            · exact hs
            · exact hbefore b hb
          · simp [setLoop, hs, heq]
      · refine Or.inr ⟨[], s, rest, [], rfl, by simp, hs, rfl, ?_⟩
        simp [setLoop, hs]

/-- Putting back a prefix that took a new mode restores the mode of each of its sub-HALs. -/
theorem resetLoop_prefix {mode current : OperationMode} (before rest : List σ)
    (hok : ∀ b ∈ before, (C.setOperationMode b mode).1 = .OK)
    (hcur : ∀ b ∈ before, C.mode b = current) :
    ∃ back, resetLoop C current before.length
        (before.map (fun b => (C.setOperationMode b mode).2) ++ rest) = back ++ rest ∧
      back.length = before.length ∧ ∀ s ∈ back, C.mode s = current := by
  induction before with
  | nil =>
      refine ⟨[], ?_, rfl, by simp⟩
      cases rest <;> rfl
  | cons b before ih =>
      obtain ⟨back, heq, hlen, hmodes⟩ :=
        ih (fun c hc => hok c (by simp [hc])) (fun c hc => hcur c (by simp [hc]))
      have hb : C.mode b = current := hcur b (by simp)
      have hreturn : (C.setOperationMode (C.setOperationMode b mode).2 current).1 = .OK := by
        rw [← hb]
        exact C.returns b mode (hok b (by simp))
      refine ⟨(C.setOperationMode (C.setOperationMode b mode).2 current).2 :: back, ?_, ?_, ?_⟩
      · rw [List.length_cons, List.map_cons, List.cons_append, resetLoop, heq, List.cons_append]
      · rw [List.length_cons, hlen, List.length_cons]
      · intro s hs
        rcases List.mem_cons.mp hs with rfl | hs
        · exact C.accepted _ current hreturn
        · exact hmodes s hs

/-! ## Every sequence of calls -/

/-- What can change the mode of a sub-HAL. -/
inductive ModeAct
  | setOperationMode (mode : OperationMode)
  | initializeCommon (result : Result)
deriving DecidableEq, Repr

/-- `HalProxy` with freshly loaded sub-HALs, which are in NORMAL as it is itself. -/
def proxyModes : Machine (ProxyModes σ) ModeAct where
  Start p := p.mCurrentOperationMode = .NORMAL ∧ ∀ s ∈ p.mSubHalList, C.mode s = .NORMAL
  step p
    | .setOperationMode mode => some (setOperationMode C p mode).2
    | .initializeCommon result => some (initializeSubHals C p result).2

/-- Every sub-HAL is in the recorded mode. -/
def InMode (p : ProxyModes σ) : Prop := ∀ s ∈ p.mSubHalList, C.mode s = p.mCurrentOperationMode

/-- One call, from a state in which all sub-HALs agree. -/
theorem setOperationMode_spec {p : ProxyModes σ} (h : InMode C p) (mode : OperationMode) :
    InMode C (setOperationMode C p mode).2 ∧
    (setOperationMode C p mode).2.mSubHalList.length = p.mSubHalList.length ∧
    ((setOperationMode C p mode).1 = .OK →
      (setOperationMode C p mode).2.mCurrentOperationMode = mode) ∧
    ((setOperationMode C p mode).1 ≠ .OK →
      (setOperationMode C p mode).2.mCurrentOperationMode = p.mCurrentOperationMode ∧
      ∃ before s after, p.mSubHalList = before ++ s :: after ∧
        (∀ b ∈ before, (C.setOperationMode b mode).1 = .OK) ∧
        (setOperationMode C p mode).1 = (C.setOperationMode s mode).1) := by
  rcases setLoop_spec C mode p.mSubHalList with
    ⟨taken, heq, hlen, hmodes⟩ | ⟨before, s, after, taken, hlist, hbefore, hs, rfl, heq⟩
  · have hout : setOperationMode C p mode = (.OK, ⟨taken, mode⟩) := by
      unfold setOperationMode
      rw [heq]
      rfl
    rw [hout]
    exact ⟨hmodes, hlen, fun _ => rfl, fun hno => absurd rfl hno⟩
  · -- the sub-HALs behind the refusing one were not asked, and it kept its mode itself
    have hcur : ∀ b ∈ before, C.mode b = p.mCurrentOperationMode := by
      intro b hb
      apply h
      rw [hlist]
      exact List.mem_append_left _ hb
    obtain ⟨back, hback, hlen, hmodes⟩ := resetLoop_prefix C before
      ((C.setOperationMode s mode).2 :: after) hbefore hcur
    have hout : setOperationMode C p mode = ((C.setOperationMode s mode).1,
        ⟨back ++ (C.setOperationMode s mode).2 :: after, p.mCurrentOperationMode⟩) := by
      unfold setOperationMode
      rw [heq]
      simp only [hs, ne_eq, not_false_eq_true, if_true, hback]
    rw [hout]
    refine ⟨?_, ?_, fun hok => absurd hok hs, fun _ => ⟨rfl, before, s, after, hlist, hbefore, rfl⟩⟩
    · intro u hu
      rcases List.mem_append.mp hu with hu | hu
      · exact hmodes u hu
      · rcases List.mem_cons.mp hu with rfl | hu
        · rw [C.refused s mode hs]
          exact h s (by simp [hlist])
        · exact h u (by simp [hlist, hu])
    · simp [hlist, hlen]

theorem inMode_initializeSubHals (p : ProxyModes σ) (result : Result) :
    InMode C (initializeSubHals C p result).2 := by
  intro s hs
  obtain ⟨answer, hanswer, rfl⟩ := List.mem_map.mp hs
  obtain ⟨t, _, rfl⟩ := List.mem_map.mp hanswer
  exact C.initialized t

theorem inMode_of_reach {p : ProxyModes σ} (h : (proxyModes C).Reach p) : InMode C p := by
  apply Machine.Reach.invariant (P := InMode C) _ _ h
  · rintro p ⟨hcur, hmodes⟩ s hs
    rw [hcur]
    exact hmodes s hs
  · intro p a u hp hstep
    cases a with
    | setOperationMode mode =>
        cases hstep
        exact (setOperationMode_spec C hp mode).1
    | initializeCommon result =>
        cases hstep
        exact inMode_initializeSubHals C p result

/-- After any sequence of calls, one more `setOperationMode` is all or nothing: every sub-HAL is in
the recorded mode, which is the requested one if the result is OK and the previous one otherwise; and
a result other than OK is the answer of the first sub-HAL that refuses. -/
theorem setOperationMode_all_or_nothing {p : ProxyModes σ} (h : (proxyModes C).Reach p)
    (mode : OperationMode) :
    (∀ s ∈ (setOperationMode C p mode).2.mSubHalList,
      C.mode s = (setOperationMode C p mode).2.mCurrentOperationMode) ∧
    (setOperationMode C p mode).2.mSubHalList.length = p.mSubHalList.length ∧
    ((setOperationMode C p mode).1 = .OK →
      (setOperationMode C p mode).2.mCurrentOperationMode = mode) ∧
    ((setOperationMode C p mode).1 ≠ .OK →
      (setOperationMode C p mode).2.mCurrentOperationMode = p.mCurrentOperationMode ∧
      ∃ before s after, p.mSubHalList = before ++ s :: after ∧
        (∀ b ∈ before, (C.setOperationMode b mode).1 = .OK) ∧
        (setOperationMode C p mode).1 = (C.setOperationMode s mode).1) :=
  setOperationMode_spec C (inMode_of_reach C h) mode

/-- Sub-HALs of two kinds: one is always in NORMAL, the other takes every mode. -/
def normalOrAnyMode : SubHalModes (Option OperationMode) where
  mode s := s.getD .NORMAL
  setOperationMode s m :=
    match s with
    | none => if m = .NORMAL then (.OK, none) else (.BAD_VALUE, none)
    | some _ => (.OK, some m)
  initializeSubHal s := (.OK, s.map fun _ => .NORMAL)
  accepted := by
    rintro (_ | _) (_ | _) h <;> first | rfl | cases h
  refused := by
    rintro (_ | _) (_ | _) h <;> first | rfl | exact absurd rfl h
  returns := by
    rintro (_ | _) (_ | _) _ <;> rfl
  initialized := by
    rintro (_ | _) <;> rfl

/-- The second of two sub-HALs refuses data injection: both are in NORMAL afterwards. -/
theorem setOperationMode_all_or_nothing_one_refuses :
    let out := setOperationMode normalOrAnyMode ⟨[some .NORMAL, none], .NORMAL⟩ .DATA_INJECTION
    out.1 = .BAD_VALUE ∧ out.2.mCurrentOperationMode = .NORMAL ∧
      ∀ s ∈ out.2.mSubHalList, normalOrAnyMode.mode s = .NORMAL :=
  have hstart : (proxyModes normalOrAnyMode).Reach ⟨[some .NORMAL, none], .NORMAL⟩ :=
    .start ⟨rfl, by decide⟩
  ⟨rfl, rfl, (setOperationMode_all_or_nothing normalOrAnyMode hstart .DATA_INJECTION).1⟩

end Smi240Hal.MultiHal
