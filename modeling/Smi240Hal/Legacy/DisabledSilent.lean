/-
# Smi240Hal.Legacy.DisabledSilent — whose samples the events on the HAL pipe are made from

The poll device and the two threads side by side: `activate` and `batch` change the driver's
configuration, the threads move samples from the nodes to the HAL pipe.  Nothing on the way of a
sample reads the configuration, so a sample that is polled is delivered, whether its sensor is
active or not.

Three logs are not in the code: the calls made so far, the samples that were polled while their
sensor was active (`wanted`), and the samples the events were made from (`delivered`).
-/
import Smi240Hal.Legacy.PipelineOrder
import Smi240Hal.Legacy.SamplingInterval

namespace Smi240Hal.Legacy

open Smi240Hal.Lib

variable {F : Type}

/-! ## The machine -/

/-- The driver, the pipeline and the logs. -/
structure LegacyHal (F : Type) where
  hw : HwConfig
  pipe : Pipeline F
  calls : List PollCall
  wanted : List (HwDataUnion F)
  delivered : List (HwDataUnion F)

/-- A call of the poll device, or an atomic stretch of one of the two threads. -/
inductive HalAct
  | call (c : PollCall)
  | thread (a : Act)
deriving DecidableEq

namespace LegacyHal

/-- Both parts as they start; nothing was called and nothing delivered. -/
def init : LegacyHal F where
  hw := .init
  pipe := .init
  calls := []
  wanted := []
  delivered := []

section Logs

variable [CFloat F]

/-- The samples a stretch makes while their sensor is active; the list index of each of the two
sensors is its type. -/
def wantedBy (s : LegacyHal F) : Act → List (HwDataUnion F)
  | .poll acc gyro => (s.pipe.made acc gyro).filter fun x => decide (s.hw.configs.Active x.id)
  | _ => []

/-- The samples whose events a stretch writes. -/
def deliveredBy (s : LegacyHal F) : Act → List (HwDataUnion F)
  | .process m =>
      processedSamples m s.pipe.tmplistSensordAcclraw s.pipe.tmplistSensordGyroraw
  | _ => []

/-- A call of the framework changes the configuration, a stretch of a thread the lists. -/
def step (s : LegacyHal F) : HalAct → Option (LegacyHal F)
  | .call c => (s.hw.call c).map fun r => { s with hw := r.2, calls := s.calls ++ [c] }
  | .thread a => (s.pipe.step a).map fun pipe =>
      { s with
        pipe := pipe
        wanted := s.wanted ++ s.wantedBy a
        delivered := s.delivered ++ s.deliveredBy a }

end Logs

end LegacyHal

/-- The legacy HAL: the poll device, the producer and the consumer. -/
def legacyHal (F : Type) [CFloat F] : Machine (LegacyHal F) HalAct where
  Start s := s = LegacyHal.init
  step := LegacyHal.step

/-- The node of a sensor that is not active yields no sample. -/
def NodesSilent (s : LegacyHal F) : HalAct → Prop
  | .thread (.poll acc gyro) =>
      ((∃ r ∈ acc, r.calloc = true) → s.hw.configs.Active BSX_SENSOR_ID_ACCELEROMETER) ∧
        ((∃ r ∈ gyro, r.calloc = true) → s.hw.configs.Active BSX_SENSOR_ID_GYROSCOPE_UNCALIBRATED)
  | _ => True

/-! ## Where the samples of the lists come from -/

/-- The drain loop sorts by sensor: what comes onto a sensord-side list was on the shared list and
carries that sensor's id. -/
theorem mem_drainLoop (failed : List Nat) {x : HwDataUnion F} (l : List (HwDataUnion F)) :
    ∀ (k : Nat) (d : Drain F),
      (x ∈ (drainLoop failed k l d).acclraw.data →
        x ∈ d.acclraw.data ∨ (x ∈ l ∧ x.id = SENSOR_TYPE_ACCELEROMETER)) ∧
      (x ∈ (drainLoop failed k l d).gyroraw.data →
        x ∈ d.gyroraw.data ∨ (x ∈ l ∧ x.id = SENSOR_TYPE_GYROSCOPE_UNCALIBRATED)) := by
  induction l with
  | nil => exact fun _ _ => ⟨Or.inl, Or.inl⟩
  | cons y rest ih =>
      intro k d
      -- a sample further down the shared list
      have hlater : ∀ {p : Prop}, x ∈ rest ∧ p → x ∈ y :: rest ∧ p := fun h =>
        ⟨List.mem_cons_of_mem _ h.1, h.2⟩
      unfold drainLoop
      dsimp only
      split
      case isTrue hacc =>
        obtain ⟨iha, ihg⟩ := ih (k + 1)
          { d with
            acclraw := (d.acclraw.listAddRear y (!failed.contains k)).list
            freedAccl := d.freedAccl ++ (d.acclraw.listAddRear y (!failed.contains k)).freed ++
              if (d.acclraw.listAddRear y (!failed.contains k)).ret = -1 then
                [⟨d.acclraw.listLen, y⟩] else [] }
        refine ⟨fun h => ?_, fun h => (ihg h).imp_right hlater⟩
        rcases iha h with h | h
        · rcases BoschSimpleList.mem_listAddRear h with h | rfl
          · exact Or.inl h
          · exact Or.inr ⟨by simp, hacc⟩
        · exact Or.inr (hlater h)
      case isFalse hacc =>
        split
        case isTrue hgyr =>
          obtain ⟨iha, ihg⟩ := ih (k + 1)
            { d with
              gyroraw := (d.gyroraw.listAddRear y (!failed.contains k)).list
              freedGyro := d.freedGyro ++ (d.gyroraw.listAddRear y (!failed.contains k)).freed ++
                if (d.gyroraw.listAddRear y (!failed.contains k)).ret = -1 then
                  [⟨d.gyroraw.listLen, y⟩] else [] }
          refine ⟨fun h => (iha h).imp_right hlater, fun h => ?_⟩
          rcases ihg h with h | h
          · rcases BoschSimpleList.mem_listAddRear h with h | rfl
            · exact Or.inl h
            · exact Or.inr ⟨by simp, hgyr⟩
          · exact Or.inr (hlater h)
        case isFalse =>
          obtain ⟨iha, ihg⟩ := ih (k + 1) d
          exact ⟨fun h => (iha h).imp_right hlater, fun h => (ihg h).imp_right hlater⟩

/-- Mounting brings nothing new into the queues in front of the sensord-side lists. -/
theorem mem_upstream_mountStep {s : Pipeline F} {x : HwDataUnion F}
    (h : x ∈ s.mountStep.upstream) : x ∈ s.upstream := by
  unfold Pipeline.mountStep at h
  split at h
  · exact h
  · simp only [Pipeline.upstream, BoschSimpleList.listMountRear_mounted_data, List.append_nil] at h
    simp only [Pipeline.upstream, List.mem_append]
    rcases BoschSimpleList.mem_listMountRear h with h | h
    · exact Or.inl (BoschSimpleList.mem_listMountRear h)
    · exact Or.inr h

/-! ## The invariant -/

/-- Every sample on its way, and every sample delivered, was polled while its sensor was active. -/
structure Sourced [CFloat F] (s : LegacyHal F) : Prop where
  pipe : s.pipe.halPipe = s.delivered.map sampleEvent
  upstream : ∀ x ∈ s.pipe.upstream, x ∈ s.wanted
  sensord : ∀ b, ∀ x ∈ (s.pipe.sensordRaw b).data, x ∈ s.wanted ∧ x.id = b.id
  delivered : ∀ x ∈ s.delivered, x ∈ s.wanted
  rates : RateInv s.hw s.calls

section Step

variable [CFloat F] {s : LegacyHal F}

theorem sourced_init : Sourced (LegacyHal.init : LegacyHal F) where
  pipe := rfl
  upstream x hx := absurd hx List.not_mem_nil
  sensord b x hx := by
    cases b <;> exact absurd hx List.not_mem_nil
  delivered x hx := absurd hx List.not_mem_nil
  rates := rateInv_init

/-- When silent nodes are silent, every sample of a poll is wanted. -/
theorem wantedBy_poll {acc gyro : List SysfsReading}
    (h : NodesSilent s (.thread (.poll acc gyro))) :
    s.wantedBy (.poll acc gyro) = s.pipe.made acc gyro := by
  apply List.filter_eq_self.mpr
  intro x hx
  apply decide_eq_true
  rcases List.mem_append.mp hx with hx | hx
  · obtain ⟨n, r, hr, hok, rfl⟩ := mem_apHwPoll_samples _ _ _ hx
    exact h.1 ⟨r, hr, hok⟩
  · obtain ⟨n, r, hr, hok, rfl⟩ := mem_apHwPoll_samples _ _ _ hx
    exact h.2 ⟨r, hr, hok⟩

theorem mem_upstream_pollStep {p : Pipeline F} {acc gyro : List SysfsReading} {x : HwDataUnion F}
    (h : x ∈ (p.pollStep acc gyro).upstream) : x ∈ p.upstream ∨ x ∈ p.made acc gyro := by
  simp only [Pipeline.upstream, Pipeline.made, List.mem_append] at h ⊢
  rcases h with (h | h) | h
  · exact Or.inl (Or.inl (Or.inl h))
  · exact (mem_apHwPoll _ _ _ h).imp (fun h => Or.inl (Or.inr h)) Or.inl
  · exact (mem_apHwPoll _ _ _ h).imp Or.inr Or.inr

/-- A poll: the samples it makes are wanted. -/
theorem sourced_poll {acc gyro : List SysfsReading} (h : Sourced s)
    (hsilent : NodesSilent s (.thread (.poll acc gyro))) :
    Sourced { s with
      pipe := s.pipe.pollStep acc gyro
      wanted := s.wanted ++ s.wantedBy (.poll acc gyro)
      delivered := s.delivered ++ s.deliveredBy (.poll acc gyro) } := by
  rw [wantedBy_poll hsilent]
  simp only [LegacyHal.deliveredBy, List.append_nil]
  refine ⟨h.pipe, fun x hx => ?_, fun b x hx => ?_, fun x hx => ?_, h.rates⟩
  · exact List.mem_append.mpr ((mem_upstream_pollStep hx).imp_left (h.upstream x))
  · have hx' : x ∈ (s.pipe.sensordRaw b).data := by
      cases b <;> exact hx
    exact ⟨List.mem_append_left _ (h.sensord b x hx').1, (h.sensord b x hx').2⟩
  · exact List.mem_append_left _ (h.delivered x hx)

/-- A stretch that polls nothing and writes nothing, and only moves samples on. -/
theorem sourced_move {p : Pipeline F} (h : Sourced s) (hpipe : p.halPipe = s.pipe.halPipe)
    (hup : ∀ x ∈ p.upstream, x ∈ s.pipe.upstream)
    (hsensord : ∀ b, ∀ x ∈ (p.sensordRaw b).data,
      x ∈ (s.pipe.sensordRaw b).data ∨ (x ∈ s.pipe.upstream ∧ x.id = b.id)) :
    Sourced { s with pipe := p, wanted := s.wanted ++ [], delivered := s.delivered ++ [] } := by
  simp only [List.append_nil]
  refine ⟨hpipe.trans h.pipe, fun x hx => h.upstream x (hup x hx), fun b x hx => ?_, h.delivered,
    h.rates⟩
  rcases hsensord b x hx with hx | ⟨hx, hid⟩
  · exact h.sensord b x hx
  · exact ⟨h.upstream x hx, hid⟩

theorem sourced_drain {failed : List Nat} (h : Sourced s) :
    Sourced { s with
      pipe := s.pipe.drainStep failed, wanted := s.wanted ++ [], delivered := s.delivered ++ [] } := by
  refine sourced_move h rfl (fun x hx => ?_) (fun b x hx => ?_)
  · simp only [Pipeline.upstream, List.mem_append] at hx ⊢
    rcases hx with (hx | hx) | hx
    · exact absurd hx List.not_mem_nil
    · exact Or.inl (Or.inr hx)
    · exact Or.inr hx
  · have hshared : ∀ y ∈ s.pipe.shmemHwcntl.data, y ∈ s.pipe.upstream := by
      intro y hy
      exact List.mem_append_left _ (List.mem_append_left _ hy)
    have hdrain := mem_drainLoop failed (x := x) s.pipe.shmemHwcntl.data 0
      ⟨s.pipe.tmplistSensordAcclraw, s.pipe.tmplistSensordGyroraw, [], []⟩
    cases b with
    | accl => exact (hdrain.1 hx).imp_right fun hy => ⟨hshared x hy.1, hy.2⟩
    | gyro => exact (hdrain.2 hx).imp_right fun hy => ⟨hshared x hy.1, hy.2⟩

theorem sourced_process {m : ProcessAlloc} {p : Pipeline F} (h : Sourced s)
    (hstep : s.pipe.processStep m = some p) :
    Sourced { s with
      pipe := p, wanted := s.wanted ++ [], delivered := s.delivered ++ s.deliveredBy (.process m) } := by
  obtain ⟨r, hr, rfl⟩ := Option.map_eq_some_iff.mp hstep
  obtain ⟨hevents, hacc, hgyr⟩ := sensordAlgoProcess_events (fun x hx => (h.sensord .accl x hx).2)
    (fun x hx => (h.sensord .gyro x hx).2) hr
  rw [List.append_nil]
  refine ⟨?_, h.upstream, fun b x hx => ?_, fun x hx => ?_, h.rates⟩
  · show s.pipe.halPipe ++ r.events = _
    rw [h.pipe, hevents, List.map_append]
    rfl
  · cases b with
    | accl => exact h.sensord .accl x (hacc hx)
    | gyro => exact h.sensord .gyro x (hgyr hx)
  · rcases List.mem_append.mp hx with hx | hx
    · exact h.delivered x hx
    · rcases mem_of_mem_processedSamples hx with hx | hx
      · exact (h.sensord .accl x hx).1
      · exact (h.sensord .gyro x hx).1

theorem sourced_step {a : HalAct} {t : LegacyHal F} (h : Sourced s) (hsilent : NodesSilent s a)
    (hstep : s.step a = some t) : Sourced t := by
  cases a with
  | call c =>
      obtain ⟨ret, hw, hcall, hrates⟩ := rateInv_call h.rates c
      obtain ⟨r, hr, rfl⟩ := Option.map_eq_some_iff.mp hstep
      rw [hcall] at hr
      cases hr
      exact ⟨h.pipe, h.upstream, h.sensord, h.delivered, hrates⟩
  | thread a =>
      obtain ⟨p, hp, rfl⟩ := Option.map_eq_some_iff.mp hstep
      -- a step that moves the control point of `sensord` only
      have hwaits : ∀ (pc : SensordPc), Sourced { s with
          pipe := { s.pipe with sensord := pc }
          wanted := s.wanted ++ [], delivered := s.delivered ++ [] } := fun pc =>
        sourced_move h rfl (fun x hx => hx) (fun b x hx => Or.inl (by cases b <;> exact hx))
      cases Pipeline.step_cases hp with
      | polled => exact sourced_poll h hsilent
      | mounted =>
          obtain ⟨_, _, _, hpipe, _, _, hraw⟩ := mountStep_frame s.pipe
          exact sourced_move h hpipe (fun x hx => mem_upstream_mountStep hx)
            (fun b x hx => Or.inl (hraw ▸ hx))
      | nothingShared => exact hwaits .wait
      | drained => exact sourced_drain h
      | waitFailed => exact hwaits .process
      | woken => exact sourced_drain h
      | processed _ hp => exact sourced_process h hp

/-- In every run in which the node of an inactive sensor yields no sample, whatever else fails: the
events on the HAL pipe are those of a list of samples, and each of them was polled while its sensor
was active, that is, while its last activate call was an enable. -/
theorem delivered_while_active (h : (legacyHal F).ReachUnder NodesSilent s) :
    s.pipe.halPipe = s.delivered.map sampleEvent ∧ (∀ x ∈ s.delivered, x ∈ s.wanted) ∧
      ∀ handle p i, getSensorT handle = some (p, i) →
        (s.hw.configs.Active i ↔ (requests s.calls).enabled handle = true) := by
  have hs : Sourced s := by
    apply Machine.ReachUnder.invariant _ _ h
    · rintro s rfl
      exact sourced_init
    · exact fun s a t hs hsilent hstep => sourced_step hs hsilent hstep
  exact ⟨hs.pipe, hs.delivered, fun handle p i hget => hs.rates.active_iff hget⟩

end Step

/-- The accelerometer is enabled, and one sample of it is polled and delivered. -/
theorem delivered_while_active_one_sample :
    ∃ s : LegacyHal ℚ, (s.pipe.halPipe.map fun e => (e.sensor, e.timestamp)) = [(1, 5)] ∧
      s.pipe.halPipe = s.delivered.map sampleEvent ∧ (∀ x ∈ s.delivered, x ∈ s.wanted) ∧
      ∀ handle p i, getSensorT handle = some (p, i) →
        (s.hw.configs.Active i ↔ (requests s.calls).enabled handle = true) :=
  have hrun : (legacyHal ℚ).ReachUnder NodesSilent _ :=
    .next (.next (.next (.next (.next (a := .call (.activate 1 1)) (.start rfl) trivial rfl)
      (a := .thread (.poll [⟨1, 2, 3, 0, 5, true, true⟩] [])) ⟨fun _ => by decide, by simp⟩ rfl)
      (a := .thread .mount) trivial rfl) (a := .thread (.read [])) trivial rfl)
      (a := .thread (.process .ok)) trivial rfl
  ⟨_, by decide, delivered_while_active hrun⟩

/-- Both sensors have been disabled again, both nodes are polled, and both samples are delivered. -/
theorem delivered_while_disabled :
    ¬ ∀ s : LegacyHal ℚ, (legacyHal ℚ).Reach s → ∀ x ∈ s.delivered, x ∈ s.wanted := by
  intro hall
  have hrun : (legacyHal ℚ).Reach _ :=
    .next (.next (.next (.next (.next (.next (a := .call (.activate 1 1)) (.start rfl) trivial rfl)
      (a := .call (.activate 1 0)) trivial rfl)
      (a := .thread (.poll [⟨1, 2, 3, 0, 5, true, true⟩] [⟨4, 5, 6, 0, 6, true, true⟩])) trivial rfl)
      (a := .thread .mount) trivial rfl) (a := .thread (.read [])) trivial rfl)
      (a := .thread (.process .ok)) trivial rfl
  have hwanted := hall _ hrun (accHwData 0 ⟨1, 2, 3, 0, 5, true, true⟩) (by
    apply List.mem_append_right
    show _ ∈ processedSamples .ok _ _
    rw [processedSamples_ok]
    exact mem_alignOrder.mpr (Or.inl (by decide)))
  exact absurd hwanted (by decide)

end Smi240Hal.Legacy
