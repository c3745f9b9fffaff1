/-
# Smi240Hal.Legacy.SampleArrival — between two polls everything gets through

`pipeline` lets `sensord_main` come out of `pthread_cond_wait` at any time.  Here the condition
variable is a part of the state: the thread goes on after a signal, or spuriously.  The producer
signals only when it has mounted something, and the signal is lost when nobody waits; but the
consumer looks at `list_len` under the mutex before it waits, so it never sleeps over a mounted
sample.

While the producer sleeps between two polls, and no spurious wake-up comes between, the two threads
come to rest, and then every sample that was polled is on the HAL pipe, unless a full list has
dropped it.
-/
import Smi240Hal.Legacy.PipelineOrder
import Smi240Hal.Lib.Progress

namespace Smi240Hal.Legacy

open Smi240Hal.Lib

/-- The two threads and the condition variable of `shmem_hwcntl`. -/
structure SignalledPipeline (F : Type) where
  threads : Pipeline F
  /-- `sensord_main` waits and has been signalled. -/
  signalled : Bool

/-- A stretch of a thread, or the end of a wait nobody signalled. -/
inductive SignalledAct
  | thread (a : Act)
  | spuriousWake (ret : Int) (failed : List Nat)
deriving DecidableEq

namespace SignalledPipeline

variable {F : Type}

/-- The critical section of `IMU_hw_deliver_sensordata` is entered with something to mount, while
`sensord_main` waits. -/
def signals (s : SignalledPipeline F) : Bool :=
  s.threads.tmplistHwcntlAcclraw.listLen + s.threads.tmplistHwcntlGyroraw.listLen != 0 &&
    s.threads.sensord == .wait

/-- A signal is heard only by a thread that waits; one that goes into the wait later does not
see it. -/
def step [CFloat F] (s : SignalledPipeline F) : SignalledAct → Option (SignalledPipeline F)
  | .thread .mount => (s.threads.step .mount).map fun t => ⟨t, s.signalled || s.signals⟩
  | .thread (.read failed) => (s.threads.step (.read failed)).map fun t => ⟨t, false⟩
  | .thread (.wake ret failed) =>
      if s.signalled then (s.threads.step (.wake ret failed)).map fun t => ⟨t, false⟩ else none
  | .thread (.poll acc gyro) =>
      (s.threads.step (.poll acc gyro)).map fun t => ⟨t, s.signalled⟩
  | .thread (.process m) => (s.threads.step (.process m)).map fun t => ⟨t, s.signalled⟩
  | .spuriousWake ret failed => (s.threads.step (.wake ret failed)).map fun t => ⟨t, false⟩

end SignalledPipeline

/-- The two threads of the legacy HAL, with the signals between them. -/
def signalledPipeline (F : Type) [CFloat F] : Machine (SignalledPipeline F) SignalledAct where
  Start s := s = ⟨.init, false⟩
  step := SignalledPipeline.step

/-- The action of `pipeline`. -/
def SignalledAct.act : SignalledAct → Act
  | .thread a => a
  | .spuriousWake ret failed => .wake ret failed

/-- An action the threads take while the producer does not poll, its allocations and writes
succeeding. -/
def SignalledAct.Settles : SignalledAct → Prop
  | .thread .mount => True
  | .thread (.read failed) => failed = []
  | .thread (.wake _ failed) => failed = []
  | .thread (.process m) => m = .ok
  | .thread (.poll _ _) => False
  | .spuriousWake _ _ => False

/-- The environment of `pipeline_keeps_order`; spurious wake-ups are allowed. -/
def SignalEnvOk {F : Type} (s : SignalledPipeline F) (a : SignalledAct) : Prop :=
  EnvOk s.threads a.act

theorem SignalledAct.Settles.envOk {F : Type} {s : SignalledPipeline F} {a : SignalledAct}
    (h : a.Settles) : SignalEnvOk s a := by
  rcases a with a | _
  · cases a with
    | poll => exact absurd h id
    | mount => exact trivial
    | read => exact h
    | wake => exact h
    | process => exact h
  · exact absurd h id

namespace SignalledPipeline

variable {F : Type} [CFloat F] {s t : SignalledPipeline F} {a : SignalledAct}

/-! ## No signal is missed -/

/-- `sensord_main` does not sleep over a mounted sample. -/
def Awake (s : SignalledPipeline F) : Prop :=
  s.threads.sensord = .wait → s.signalled = false → s.threads.shmemHwcntl.data = []

/-- The flag after an action: a signal sets it, and a wait begins and ends without one. -/
def signalledAfter (s : SignalledPipeline F) : SignalledAct → Bool
  | .thread .mount => s.signalled || s.signals
  | .thread (.poll _ _) | .thread (.process _) => s.signalled
  | .thread (.read _) | .thread (.wake _ _) | .spuriousWake _ _ => false

/-- A step of the two threads, with what becomes of the signal. -/
structure Steps (s : SignalledPipeline F) (a : SignalledAct) (t : SignalledPipeline F) : Prop where
  threads : s.threads.step a.act = some t.threads
  signalled : t.signalled = s.signalledAfter a

theorem step_cases (h : s.step a = some t) : Steps s a t := by
  have hmap : ∀ {b : Act} {flag : Bool},
      (s.threads.step b).map (fun u => (⟨u, flag⟩ : SignalledPipeline F)) = some t →
      s.threads.step b = some t.threads ∧ t.signalled = flag := by
    intro b flag hstep
    obtain ⟨u, hu, rfl⟩ := Option.map_eq_some_iff.mp hstep
    exact ⟨hu, rfl⟩
  rcases a with a | ⟨ret, failed⟩
  · cases a with
    | poll | mount | read | process =>
        obtain ⟨hthreads, hflag⟩ := hmap h
        exact ⟨hthreads, hflag⟩
    | wake ret failed =>
        simp only [step] at h
        split at h
        · obtain ⟨hthreads, hflag⟩ := hmap h
          exact ⟨hthreads, hflag⟩
        · cases h
  · obtain ⟨hthreads, hflag⟩ := hmap h
    exact ⟨hthreads, hflag⟩

omit [CFloat F] in
/-- With nothing to mount the shared list stays as it is; with something, whoever waits is
signalled. -/
theorem awake_mounted (hs : s.Awake) (flag : Bool) (hflag : flag = (s.signalled || s.signals)) :
    (⟨s.threads.mountStep, flag⟩ : SignalledPipeline F).Awake := by
  intro hwait hunsignalled
  have hwait : s.threads.sensord = .wait := (mountStep_frame s.threads).2.2.2.2.1 ▸ hwait
  have hneither : s.signalled = false ∧ s.signals = false := by
    have : (s.signalled || s.signals) = false := hflag.symm.trans hunsignalled
    simpa using this
  have hnothing : s.threads.tmplistHwcntlAcclraw.listLen +
      s.threads.tmplistHwcntlGyroraw.listLen = 0 := by
    have hsignals := hneither.2
    unfold signals at hsignals
    rw [hwait] at hsignals
    simpa using hsignals
  show s.threads.mountStep.shmemHwcntl.data = []
  rw [Pipeline.mountStep, if_pos hnothing]
  exact hs hwait hneither.1

theorem awake_step (hs : s.Awake) (h : s.step a = some t) : t.Awake := by
  obtain ⟨hthreads, hflag⟩ := step_cases h
  obtain ⟨t, flag⟩ := t
  rcases a with a | ⟨ret, failed⟩
  · cases Pipeline.step_cases hthreads with
    | polled => exact fun hwait hunsignalled => hs hwait (hflag.symm.trans hunsignalled)
    | mounted => exact awake_mounted hs flag hflag
    | nothingShared _ hempty => exact fun _ _ => List.eq_nil_of_length_eq_zero hempty
    | drained => exact fun hwait => absurd hwait nofun
    | waitFailed => exact fun hwait => absurd hwait nofun
    | woken => exact fun hwait => absurd hwait nofun
    | @processed m t hpc hprocess =>
        intro hwait
        obtain ⟨r, _, rfl⟩ := Option.map_eq_some_iff.mp hprocess
        cases hwait
  · cases Pipeline.step_cases hthreads with
    | waitFailed => exact fun hwait => absurd hwait nofun
    | woken => exact fun hwait => absurd hwait nofun

theorem awake_of_reach {G : SignalledPipeline F → SignalledAct → Prop}
    (h : (signalledPipeline F).ReachUnder G s) : s.Awake := by
  refine h.reach.invariant (P := Awake) ?_ (fun _ _ _ => awake_step)
  rintro s rfl
  exact fun _ _ => rfl

theorem threads_reach (h : (signalledPipeline F).ReachUnder SignalEnvOk s) :
    (pipeline F).ReachUnder EnvOk s.threads := by
  refine h.invariant (P := fun s => (pipeline F).ReachUnder EnvOk s.threads) ?_ ?_
  · rintro s rfl
    exact .start rfl
  · intro s a t hs henv hstep
    exact .next hs henv (step_cases hstep).threads

/-! ## The threads come to rest -/

/-- The steps of the consumer until it sleeps. -/
def sensordSteps (s : SignalledPipeline F) : Nat :=
  match s.threads.sensord with
  | .read => if s.threads.shmemHwcntl.listLen = 0 then 1 else 3
  | .wait => if s.signalled then 5 else 0
  | .process => if s.threads.shmemHwcntl.listLen = 0 then 2 else 4

/-- A batch that is mounted may wake the consumer once more. -/
def stepsLeft (s : SignalledPipeline F) : Nat :=
  (if s.threads.hwcntl = .mount then 6 else 0) + s.sensordSteps

omit [CFloat F] in
theorem sensordSteps_le (s : SignalledPipeline F) : s.sensordSteps ≤ 5 := by
  unfold sensordSteps
  split
  · split <;> omega
  · split <;> omega
  · split <;> omega

omit [CFloat F] in
theorem stepsLeft_le (s : SignalledPipeline F) : s.stepsLeft ≤ 11 := by
  have hle := s.sensordSteps_le
  unfold stepsLeft
  split <;> omega

theorem signalled_of_wake {ret : Int} {failed : List Nat}
    (h : s.step (.thread (.wake ret failed)) = some t) : s.signalled = true := by
  by_contra hnot
  simp [step, hnot] at h

omit [CFloat F] in
/-- A step of the consumer. -/
theorem stepsLeft_sensord (hhwcntl : t.threads.hwcntl = s.threads.hwcntl)
    (h : t.sensordSteps < s.sensordSteps) : t.stepsLeft < s.stepsLeft := by
  unfold stepsLeft
  rw [hhwcntl]
  exact Nat.add_lt_add_left h _

theorem settles_lower (ha : a.Settles) (h : s.step a = some t) : t.stepsLeft < s.stepsLeft := by
  obtain ⟨hthreads, hflag⟩ := step_cases h
  rcases a with a | _
  · obtain ⟨t, flag⟩ := t
    have hthreads : s.threads.step a = some t := hthreads
    cases Pipeline.step_cases hthreads with
    | polled => exact absurd ha id
    | mounted hpc =>
        have hidle : s.threads.mountStep.hwcntl = .poll := (mountStep_frame s.threads).2.2.2.2.2.1
        have hle := (⟨s.threads.mountStep, flag⟩ : SignalledPipeline F).sensordSteps_le
        simp only [stepsLeft, hpc, hidle, reduceCtorEq, if_true, if_false]
        omega
    | nothingShared hpc hempty =>
        have hflag : flag = false := hflag
        refine stepsLeft_sensord (s := s) rfl ?_
        simp [sensordSteps, hpc, hempty, hflag]
    | drained hpc hshared =>
        refine stepsLeft_sensord (s := s) rfl ?_
        simp only [sensordSteps, hpc, if_neg hshared]
        exact Nat.lt_succ_self 2
    | waitFailed hpc =>
        refine stepsLeft_sensord (s := s) rfl ?_
        simp only [sensordSteps, hpc, signalled_of_wake h, if_true]
        split <;> omega
    | woken hpc =>
        refine stepsLeft_sensord (s := s) rfl ?_
        simp [sensordSteps, hpc, signalled_of_wake h, Pipeline.drainStep, BoschSimpleList.listLen]
    | @processed m t hpc hprocess =>
        obtain ⟨r, _, rfl⟩ := Option.map_eq_some_iff.mp hprocess
        refine stepsLeft_sensord (s := s) rfl ?_
        simp only [sensordSteps, hpc]
        split <;> omega
  · exact absurd ha id

/-- What the threads keep on their way to rest; `s` is where they started. -/
structure Settling (s t : SignalledPipeline F) : Prop where
  reach : (signalledPipeline F).ReachUnder SignalEnvOk t
  polled : t.threads.polled = s.threads.polled

theorem Settling.step {u : SignalledPipeline F} (h : Settling s t) (ha : a.Settles)
    (hstep : t.step a = some u) : Settling s u := by
  refine ⟨.next h.reach ha.envOk hstep, Eq.trans ?_ h.polled⟩
  have hthreads := (step_cases hstep).threads
  obtain ⟨u, flag⟩ := u
  rcases a with a | _
  · have hthreads : t.threads.step a = some u := hthreads
    cases Pipeline.step_cases hthreads with
    | polled => exact absurd ha id
    | mounted => exact (mountStep_frame t.threads).1
    | nothingShared | drained | waitFailed | woken => rfl
    | @processed m t hpc hprocess =>
        obtain ⟨r, _, rfl⟩ := Option.map_eq_some_iff.mp hprocess
        rfl
  · exact absurd ha id

/-- At rest the consumer sleeps, and nothing is queued. -/
theorem Settling.stuck (h : Settling s t) (hstuck : ∀ a : SignalledAct, a.Settles → t.step a = none) :
    (t.threads.hwcntl = .poll ∧ t.threads.sensord = .wait ∧ t.signalled = false) ∧
      t.threads.shmemHwcntl.data = [] := by
  obtain ⟨delivered, ho⟩ := ordered_of_reach (threads_reach h.reach)
  have hidle : t.threads.hwcntl = .poll := by
    cases hpc : t.threads.hwcntl with
    | poll => rfl
    | mount =>
        have := hstuck (.thread .mount) trivial
        simp [SignalledPipeline.step, Pipeline.step, hpc] at this
  have hsleeps : t.threads.sensord = .wait ∧ t.signalled = false := by
    cases hpc : t.threads.sensord with
    | read =>
        have := hstuck (.thread (.read [])) rfl
        by_cases hempty : t.threads.shmemHwcntl.listLen = 0
        · simp [SignalledPipeline.step, Pipeline.step, hpc, hempty] at this
        · simp [SignalledPipeline.step, Pipeline.step, hpc, hempty] at this
    | wait =>
        refine ⟨rfl, ?_⟩
        by_contra hsignalled
        have := hstuck (.thread (.wake 0 [])) rfl
        simp [SignalledPipeline.step, Pipeline.step, hpc, hsignalled] at this
    | process =>
        have := hstuck (.thread (.process .ok)) rfl
        simp [SignalledPipeline.step, Pipeline.step, hpc, processStep_eq_deliver ho] at this
  exact ⟨⟨hidle, hsleeps⟩, awake_of_reach h.reach hsleeps.1 hsleeps.2⟩

end SignalledPipeline

/-- In every state that the two threads reach in the environment `SignalEnvOk` (readings stamped in
order, and allocations and writes that succeed; signals may be lost and wake-ups spurious), the
consumer does not sleep over a mounted sample.  From there on, while the producer does not poll, with
no further spurious wake-up and no failing allocation (`Settles`), the threads take eleven steps at
most.  Then the consumer sleeps, the producer is before its next poll, no sample is queued anywhere,
and for each sensor the samples on the HAL pipe are, in order and once each, all that were polled but
those a full list has dropped. -/
theorem samples_arrive {F : Type} [CFloat F] {s : SignalledPipeline F}
    (h : (signalledPipeline F).ReachUnder SignalEnvOk s) :
    s.Awake ∧ (signalledPipeline F).EndsIn SignalledAct.Settles 11 (fun t =>
      (t.threads.hwcntl = .poll ∧ t.threads.sensord = .wait ∧ t.signalled = false) ∧
      (t.threads.upstream = [] ∧ ∀ b, (t.threads.sensordRaw b).data = []) ∧
      ∃ delivered : List (HwDataUnion F), t.threads.halPipe = delivered.map sampleEvent ∧
        ∀ b, Accounts (ofSensor b s.threads.polled) (ofSensor b delivered)
          (ofSensor b t.threads.lost)) s := by
  have hends : (signalledPipeline F).EndsIn SignalledAct.Settles s.stepsLeft (fun t =>
      SignalledPipeline.Settling s t ∧
        (t.threads.hwcntl = .poll ∧ t.threads.sensord = .wait ∧ t.signalled = false) ∧
        t.threads.shmemHwcntl.data = []) s := by
    apply Machine.endsIn_of_rank (I := SignalledPipeline.Settling s)
      (r := SignalledPipeline.stepsLeft)
    · intro t a u ht ha hstep
      exact ⟨ht.step ha hstep, SignalledPipeline.settles_lower ha hstep⟩
    · intro t ht hstuck
      exact ⟨ht, ht.stuck hstuck⟩
    · exact ⟨h, rfl⟩
  refine ⟨SignalledPipeline.awake_of_reach h, hends.mono s.stepsLeft_le ?_⟩
  rintro t ⟨ht, ⟨hidle, hwait, hunsignalled⟩, hshared⟩
  obtain ⟨delivered, ho⟩ := ordered_of_reach (SignalledPipeline.threads_reach ht.reach)
  have hraw : ∀ b, (t.threads.sensordRaw b).data = [] := ho.sensordIdle (by rw [hwait]; decide)
  have hupstream : t.threads.upstream = [] := by
    have hacc : t.threads.tmplistHwcntlAcclraw.data = [] := ho.hwcntlIdle hidle .accl
    have hgyr : t.threads.tmplistHwcntlGyroraw.data = [] := ho.hwcntlIdle hidle .gyro
    rw [Pipeline.upstream, hshared, hacc, hgyr]
    rfl
  refine ⟨⟨hidle, hwait, hunsignalled⟩, ⟨hupstream, hraw⟩, delivered, ho.pipe, fun b => ?_⟩
  -- the chain has nothing left but what is delivered
  have haccounts := ho.accounts b
  rw [Pipeline.chain, hraw b, hupstream, List.append_nil, List.append_nil, ht.polled] at haccounts
  exact haccounts

/-- The consumer waits, and one sample of each sensor has been polled. -/
theorem samples_arrive_one_batch : ∃ s : SignalledPipeline ℚ,
    (s.threads.sensord = .wait ∧ s.threads.polled.map HwDataUnion.timestamp = [5, 6]) ∧
    s.Awake ∧ (signalledPipeline ℚ).EndsIn SignalledAct.Settles 11 (fun t =>
      (t.threads.hwcntl = .poll ∧ t.threads.sensord = .wait ∧ t.signalled = false) ∧
      (t.threads.upstream = [] ∧ ∀ b, (t.threads.sensordRaw b).data = []) ∧
      ∃ delivered : List (HwDataUnion ℚ), t.threads.halPipe = delivered.map sampleEvent ∧
        ∀ b, Accounts (ofSensor b s.threads.polled) (ofSensor b delivered)
          (ofSensor b t.threads.lost)) s := by
  have hpoll : PollOk 0 ([⟨1, 2, 3, 0, 5, true, true⟩] ++ [⟨4, 5, 6, 0, 6, true, true⟩]) :=
    ⟨by decide, by decide, by decide⟩
  have hreach : (signalledPipeline ℚ).ReachUnder SignalEnvOk _ :=
    .next (.next (a := .thread (.read [])) (.start rfl) rfl rfl) (a := .thread (.poll _ _)) hpoll rfl
  exact ⟨_, ⟨rfl, rfl⟩, samples_arrive hreach⟩

end Smi240Hal.Legacy
