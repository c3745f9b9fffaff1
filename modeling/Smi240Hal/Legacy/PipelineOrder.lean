/-
# Smi240Hal.Legacy.PipelineOrder — no sample is reordered, duplicated or lost without a trace

The invariant reads the pipeline as one long queue.  For a sensor `b`, `chain` is what has been
delivered, then its sensord-side list, the shared list and both hwcntl lists: the accelerometer list
stands before the gyroscope list because it is polled and mounted first.  Every action either leaves
the samples of `b` on that chain where they are, appends to its end, or frees some of them; the
time stamps along the chain never go back.
-/
import Smi240Hal.Legacy.Pipeline

namespace Smi240Hal.Legacy

open Smi240Hal.Lib

variable {F : Type}

/-! ## One polling loop -/

/-- What one polling loop does when its allocations succeed. -/
structure Polled (hwData : Nat → SysfsReading → HwDataUnion F) (addr : Nat)
    (rs : List SysfsReading) (l : BoschSimpleList (HwDataUnion F)) (r : PollResult F) : Prop where
  samples : r.samples = (rs.zipIdx addr).map fun p => hwData p.2 p.1
  split : r.freed.map Freed.pData ++ r.list.data = l.data ++ r.samples
  full : ∀ f ∈ r.freed, f.listLen = l.uplimit
  uplimit : r.list.uplimit = l.uplimit
  bounded : l.listLen ≤ l.uplimit → r.list.listLen ≤ l.uplimit

theorem apHwPoll_polled (hwData : Nat → SysfsReading → HwDataUnion F) (rs : List SysfsReading) :
    ∀ (addr : Nat) (l : BoschSimpleList (HwDataUnion F)), (∀ r ∈ rs, r.AllocOk) →
      Polled hwData addr rs l (apHwPoll hwData addr rs l) := by
  induction rs with
  | nil =>
      intro addr l _
      exact ⟨rfl, by simp [apHwPoll], by simp [apHwPoll], rfl, fun h => h⟩
  | cons r rs ih =>
      intro addr l hok
      obtain ⟨hcalloc, hnod⟩ := hok r (by simp)
      have hrest := ih (addr + 1) (l.listAddRear (hwData addr r) true).list
        (fun x hx => hok x (by simp [hx]))
      have hret := l.listAddRear_ret (hwData addr r)
      simp only [apHwPoll, hcalloc, Bool.true_eq_false, if_false, hnod, if_neg hret,
        List.append_nil]
      refine ⟨?_, ?_, ?_, ?_, ?_⟩
      · show hwData addr r :: _ = _
        rw [hrest.samples, List.zipIdx_cons, List.map_cons]
      · show ((l.listAddRear (hwData addr r) true).freed ++ _).map Freed.pData ++ _ =
          l.data ++ (hwData addr r :: _)
        rw [List.map_append, List.append_assoc, hrest.split, ← List.append_assoc,
          l.listAddRear_split, List.append_assoc, List.singleton_append]
      · intro f hf
        rcases List.mem_append.mp hf with hf | hf
        · exact l.listAddRear_freed_full _ _ f hf
        · rw [hrest.full f hf, l.listAddRear_uplimit]
      · show _ = l.uplimit
        rw [hrest.uplimit, l.listAddRear_uplimit]
      · intro hlen
        have := hrest.bounded (by rw [l.listAddRear_uplimit]; exact l.listAddRear_length_le _ _ hlen)
        rwa [l.listAddRear_uplimit] at this

/-- The samples of a poll carry the time stamps of its readings. -/
theorem map_timestamp_samples {hwData : Nat → SysfsReading → HwDataUnion F}
    (hts : ∀ n r, (hwData n r).timestamp = r.timestamp) (rs : List SysfsReading) :
    ∀ addr : Nat, ((rs.zipIdx addr).map fun p => hwData p.2 p.1).map HwDataUnion.timestamp =
      rs.map SysfsReading.timestamp := by
  induction rs with
  | nil => exact fun _ => rfl
  | cons r rs ih =>
      intro addr
      simp only [List.zipIdx_cons, List.map_cons, hts, ih (addr + 1)]

/-- The samples of a poll sit at successive addresses. -/
theorem addr_samples {hwData : Nat → SysfsReading → HwDataUnion F}
    (haddr : ∀ n r, (hwData n r).addr = n) (rs : List SysfsReading) :
    ∀ addr : Nat, ((rs.zipIdx addr).map fun p => hwData p.2 p.1).map HwDataUnion.addr =
      List.range' addr rs.length := by
  induction rs with
  | nil => exact fun _ => rfl
  | cons r rs ih =>
      intro addr
      simp only [List.zipIdx_cons, List.map_cons, haddr, ih (addr + 1), List.length_cons,
        List.range'_succ]

/-! ## The two sensors -/

/-- The two sensors. -/
inductive Sensor
  | accl
  | gyro
deriving DecidableEq, Repr

/-- The sensor type that is stamped on a sample. -/
def Sensor.id : Sensor → Nat
  | accl => SENSOR_TYPE_ACCELEROMETER
  | gyro => SENSOR_TYPE_GYROSCOPE_UNCALIBRATED

/-- The samples of one sensor. -/
def ofSensor (b : Sensor) (l : List (HwDataUnion F)) : List (HwDataUnion F) :=
  l.filter fun x => x.id == b.id

@[simp] theorem ofSensor_nil (b : Sensor) : ofSensor b ([] : List (HwDataUnion F)) = [] := rfl

@[simp] theorem ofSensor_append (b : Sensor) (l m : List (HwDataUnion F)) :
    ofSensor b (l ++ m) = ofSensor b l ++ ofSensor b m := List.filter_append ..

@[simp] theorem ofSensor_ofSensor (b : Sensor) (l : List (HwDataUnion F)) :
    ofSensor b (ofSensor b l) = ofSensor b l := by
  unfold ofSensor
  rw [List.filter_filter]
  simp

theorem mem_ofSensor {b : Sensor} {l : List (HwDataUnion F)} {x : HwDataUnion F} :
    x ∈ ofSensor b l ↔ x ∈ l ∧ x.id = b.id := by
  simp [ofSensor]

theorem ofSensor_eq_self {b : Sensor} {l : List (HwDataUnion F)} (h : ∀ x ∈ l, x.id = b.id) :
    ofSensor b l = l :=
  List.filter_eq_self.mpr fun x hx => by simpa using h x hx

theorem ofSensor_eq_nil {b c : Sensor} {l : List (HwDataUnion F)} (h : ∀ x ∈ l, x.id = c.id)
    (hbc : b ≠ c) : ofSensor b l = [] := by
  apply List.filter_eq_nil_iff.mpr
  intro x hx
  rw [h x hx]
  cases b <;> cases c <;> first | exact absurd rfl hbc | decide

/-! ## Draining the shared list -/

/-- With room on both sides the drain loop splits the shared list by sensor and frees nothing. -/
theorem drainLoop_eq (l : List (HwDataUnion F)) :
    ∀ (k : Nat) (d : Drain F), d.acclraw.listLen + l.length ≤ d.acclraw.uplimit →
      d.gyroraw.listLen + l.length ≤ d.gyroraw.uplimit →
      drainLoop [] k l d =
        { d with
          acclraw := { d.acclraw with data := d.acclraw.data ++ ofSensor .accl l }
          gyroraw := { d.gyroraw with data := d.gyroraw.data ++ ofSensor .gyro l } } := by
  induction l with
  | nil =>
      intro k d _ _
      simp [drainLoop, ofSensor]
  | cons x rest ih =>
      intro k d ha hg
      simp only [List.length_cons] at ha hg
      unfold drainLoop
      by_cases hacc : x.id = SENSOR_TYPE_ACCELEROMETER
      · have hne : ¬ x.id = SENSOR_TYPE_GYROSCOPE_UNCALIBRATED := by rw [hacc]; decide
        have hroom : d.acclraw.listLen < d.acclraw.uplimit := by omega
        have hadd := BoschSimpleList.listAddRear_of_lt x hroom
        simp only [if_pos hacc, List.contains_nil, Bool.not_false, hadd, List.append_nil]
        rw [ih]
        · simp [ofSensor, Sensor.id, hacc, SENSOR_TYPE_ACCELEROMETER,
            SENSOR_TYPE_GYROSCOPE_UNCALIBRATED]
        · simp only [BoschSimpleList.listLen, List.length_append, List.length_singleton] at ha ⊢
          omega
        · show d.gyroraw.listLen + rest.length ≤ d.gyroraw.uplimit
          omega
      · rw [if_neg hacc]
        by_cases hgyr : x.id = SENSOR_TYPE_GYROSCOPE_UNCALIBRATED
        · have hroom : d.gyroraw.listLen < d.gyroraw.uplimit := by omega
          have hadd := BoschSimpleList.listAddRear_of_lt x hroom
          simp only [if_pos hgyr, List.contains_nil, Bool.not_false, hadd, List.append_nil]
          rw [ih]
          · simp [ofSensor, Sensor.id, hgyr, SENSOR_TYPE_ACCELEROMETER,
              SENSOR_TYPE_GYROSCOPE_UNCALIBRATED]
          · show d.acclraw.listLen + rest.length ≤ d.acclraw.uplimit
            omega
          · simp only [BoschSimpleList.listLen, List.length_append, List.length_singleton] at hg ⊢
            omega
        · rw [if_neg hgyr, ih _ _ (by omega) (by omega)]
          simp [ofSensor, Sensor.id, hacc, hgyr]

/-! ## The invariant -/

namespace Pipeline

/-- The list of the producer for a sensor. -/
def hwcntlRaw (s : Pipeline F) : Sensor → BoschSimpleList (HwDataUnion F)
  | .accl => s.tmplistHwcntlAcclraw
  | .gyro => s.tmplistHwcntlGyroraw

/-- The list of the consumer for a sensor. -/
def sensordRaw (s : Pipeline F) : Sensor → BoschSimpleList (HwDataUnion F)
  | .accl => s.tmplistSensordAcclraw
  | .gyro => s.tmplistSensordGyroraw

/-- The samples given to `free` while they were queued. -/
def lost (s : Pipeline F) : List (HwDataUnion F) := s.dropped.map fun d => d.freed.pData

/-- What is queued in front of the sensord-side lists. -/
def upstream (s : Pipeline F) : List (HwDataUnion F) :=
  s.shmemHwcntl.data ++ s.tmplistHwcntlAcclraw.data ++ s.tmplistHwcntlGyroraw.data

/-- The pipeline as one queue, for the sensor `b`. -/
def chain (s : Pipeline F) (delivered : List (HwDataUnion F)) (b : Sensor) :
    List (HwDataUnion F) :=
  delivered ++ (s.sensordRaw b).data ++ s.upstream

/-- The samples of one sensor that have been delivered or are still queued: the delivered ones, then
the sensord-side, the shared and the hwcntl list. -/
def kept (s : Pipeline F) (delivered : List (HwDataUnion F)) (b : Sensor) :
    List (HwDataUnion F) :=
  ofSensor b delivered ++ (s.sensordRaw b).data ++ ofSensor b s.shmemHwcntl.data ++
    (s.hwcntlRaw b).data

end Pipeline

/-- A list as the constructor makes it, holding samples of one sensor only. -/
structure ListOk (b : Sensor) (l : BoschSimpleList (HwDataUnion F)) : Prop where
  uplimit : l.uplimit = 128
  bounded : l.listLen ≤ 128
  sensor : ∀ x ∈ l.data, x.id = b.id

/-- A polled list still holds samples of its sensor, within its bound. -/
theorem Polled.listOk {b : Sensor} {hwData : Nat → SysfsReading → HwDataUnion F} {addr : Nat}
    {rs : List SysfsReading} {l : BoschSimpleList (HwDataUnion F)} {r : PollResult F}
    (h : Polled hwData addr rs l r) (hl : ListOk b l) (hid : ∀ n x, (hwData n x).id = b.id) :
    ListOk b r.list where
  uplimit := h.uplimit.trans hl.uplimit
  bounded := hl.uplimit ▸ h.bounded (hl.uplimit.symm ▸ hl.bounded)
  sensor := by
    intro x hx
    have hmem : x ∈ l.data ++ r.samples := h.split ▸ List.mem_append_right _ hx
    rcases List.mem_append.mp hmem with hx | hx
    · exact hl.sensor x hx
    · rw [h.samples] at hx
      obtain ⟨p, _, rfl⟩ := List.mem_map.mp hx
      exact hid _ _

/-- Freed by a drop-oldest step of a hwcntl list or of the shared list standing at its bound. -/
def Drop.AtBound (d : Drop F) : Prop :=
  d.list ≠ .sensordAcclraw ∧ d.list ≠ .sensordGyroraw ∧ 128 ≤ d.freed.listLen

theorem Drop.atBound_mk {l : ListName} {f : Freed (HwDataUnion F)} (ha : l ≠ .sensordAcclraw)
    (hg : l ≠ .sensordGyroraw) (hlen : 128 ≤ f.listLen) : (Drop.mk l f).AtBound :=
  ⟨ha, hg, hlen⟩

/-- The invariant, for the samples delivered so far. -/
structure Ordered [CFloat F] (s : Pipeline F) (delivered : List (HwDataUnion F)) : Prop where
  pipe : s.halPipe = delivered.map sampleEvent
  accounts : ∀ b, Accounts (ofSensor b s.polled) (ofSensor b (s.chain delivered b))
    (ofSensor b s.lost)
  time : ∀ b, TimeOrdered (s.chain delivered b)
  stamped : ∀ b, ∀ x ∈ s.chain delivered b, 0 < x.timestamp ∧ x.timestamp ≤ s.clock
  sensor : ∀ x ∈ s.polled, ∃ b : Sensor, x.id = b.id
  addr : ∀ x ∈ s.polled, x.addr < s.nextAddr
  nodup : s.polled.Nodup
  drops : ∀ d ∈ s.dropped, d.AtBound
  hwcntlOk : ∀ b, ListOk b (s.hwcntlRaw b)
  sensordOk : ∀ b, ListOk b (s.sensordRaw b)
  sharedUplimit : s.shmemHwcntl.uplimit = 128
  sharedBounded : s.shmemHwcntl.listLen ≤ 128
  hwcntlIdle : s.hwcntl = .poll → ∀ b, (s.hwcntlRaw b).data = []
  sensordIdle : s.sensord ≠ .process → ∀ b, (s.sensordRaw b).data = []

/-! ## What the critical section of the producer does -/

section Mount

variable (s : Pipeline F)

theorem mountStep_frame : s.mountStep.polled = s.polled ∧ s.mountStep.clock = s.clock ∧
    s.mountStep.nextAddr = s.nextAddr ∧ s.mountStep.halPipe = s.halPipe ∧
    s.mountStep.sensord = s.sensord ∧ s.mountStep.hwcntl = .poll ∧
    s.mountStep.sensordRaw = s.sensordRaw := by
  unfold Pipeline.mountStep
  split
  · exact ⟨rfl, rfl, rfl, rfl, rfl, rfl, funext fun b => by cases b <;> rfl⟩
  · exact ⟨rfl, rfl, rfl, rfl, rfl, rfl, funext fun b => by cases b <;> rfl⟩

theorem mountStep_hwcntlRaw (b : Sensor) : (s.mountStep.hwcntlRaw b).data = [] ∧
    (s.mountStep.hwcntlRaw b).uplimit = (s.hwcntlRaw b).uplimit := by
  unfold Pipeline.mountStep
  split
  case isTrue h0 =>
    have hlen : (s.hwcntlRaw b).data.length = 0 := by
      cases b
      · exact (Nat.eq_zero_of_add_eq_zero h0).1
      · exact (Nat.eq_zero_of_add_eq_zero h0).2
    cases b <;> exact ⟨List.length_eq_zero_iff.mp hlen, rfl⟩
  case isFalse => cases b <;> simp [Pipeline.hwcntlRaw]

theorem mountStep_shared (hlen : s.shmemHwcntl.listLen ≤ s.shmemHwcntl.uplimit) :
    s.mountStep.shmemHwcntl.uplimit = s.shmemHwcntl.uplimit ∧
      s.mountStep.shmemHwcntl.listLen ≤ s.shmemHwcntl.uplimit := by
  unfold Pipeline.mountStep
  split
  · exact ⟨rfl, hlen⟩
  · have ha := BoschSimpleList.listMountRear_length_le s.tmplistHwcntlAcclraw hlen
    have hua := s.shmemHwcntl.listMountRear_uplimit s.tmplistHwcntlAcclraw
    rw [← hua] at ha
    have hg := BoschSimpleList.listMountRear_length_le s.tmplistHwcntlGyroraw ha
    rw [hua] at hg
    exact ⟨by simp, hg⟩

/-- Mounting moves the two hwcntl lists along the chain and frees from the front of the shared
list. -/
theorem chain_mountStep (delivered : List (HwDataUnion F)) :
    ∃ gone : List (Freed (HwDataUnion F)),
      (∀ b, Accounts (s.chain delivered b) (s.mountStep.chain delivered b)
        (gone.map Freed.pData)) ∧
      s.mountStep.dropped = s.dropped ++ gone.map (Drop.mk .shmemHwcntl) ∧
      ∀ f ∈ gone, s.shmemHwcntl.uplimit < f.listLen := by
  unfold Pipeline.mountStep
  split
  · refine ⟨[], fun b => ?_, by simp, by simp⟩
    cases b <;> exact Accounts.refl _
  · have hsplita := s.shmemHwcntl.listMountRear_split s.tmplistHwcntlAcclraw
    have hsplitg := (s.shmemHwcntl.listMountRear s.tmplistHwcntlAcclraw).list.listMountRear_split
      s.tmplistHwcntlGyroraw
    have hlimita := s.shmemHwcntl.listMountRear_uplimit s.tmplistHwcntlAcclraw
    have hfreeda := s.shmemHwcntl.listMountRear_freed_over s.tmplistHwcntlAcclraw
    have hfreedg := (s.shmemHwcntl.listMountRear
      s.tmplistHwcntlAcclraw).list.listMountRear_freed_over s.tmplistHwcntlGyroraw
    refine ⟨(s.shmemHwcntl.listMountRear s.tmplistHwcntlAcclraw).freed ++
      ((s.shmemHwcntl.listMountRear s.tmplistHwcntlAcclraw).list.listMountRear
        s.tmplistHwcntlGyroraw).freed, fun b => ?_, by simp, fun f hf => ?_⟩
    · -- first the accelerometer list, with the gyroscope list still behind it
      have hacc := (Accounts.dropOldest hsplita).append (Accounts.refl s.tmplistHwcntlGyroraw.data)
      have hboth := (hacc.trans (Accounts.dropOldest hsplitg))
      have hchain := (Accounts.refl (delivered ++ (s.sensordRaw b).data)).append hboth
      cases b <;>
        simpa [Pipeline.chain, Pipeline.upstream, Pipeline.sensordRaw] using hchain
    · rcases List.mem_append.mp hf with hf | hf
      · exact hfreeda f hf
      · exact hlimita ▸ hfreedg f hf

end Mount

section Step

variable [CFloat F] {s : Pipeline F} {delivered : List (HwDataUnion F)}

theorem ordered_init : Ordered (Pipeline.init : Pipeline F) [] := by
  have hnil : ∀ b, (Pipeline.init : Pipeline F).chain [] b = [] := by
    intro b
    cases b <;> rfl
  have hlist : ∀ b, ListOk b (.new : BoschSimpleList (HwDataUnion F)) := fun b =>
    ⟨rfl, Nat.zero_le _, by simp⟩
  refine
    { pipe := rfl
      accounts := fun b => ?_
      time := fun b => ?_
      stamped := fun b => ?_
      sensor := fun x hx => absurd hx (List.not_mem_nil)
      addr := fun x hx => absurd hx (List.not_mem_nil)
      nodup := List.nodup_nil
      drops := fun d hd => absurd hd (List.not_mem_nil)
      hwcntlOk := fun b => ?_
      sensordOk := fun b => ?_
      sharedUplimit := rfl
      sharedBounded := Nat.zero_le _
      hwcntlIdle := fun _ b => ?_
      sensordIdle := fun _ b => ?_ }
  · rw [hnil]
    exact Accounts.refl []
  · rw [hnil]
    exact List.Pairwise.nil
  · rw [hnil]
    intro x hx
    exact absurd hx (List.not_mem_nil)
  · cases b <;> exact hlist _
  · cases b <;> exact hlist _
  · cases b <;> rfl
  · cases b <;> rfl

/-! ## Polling -/

/-- No reading of a poll is later than the clock after it. -/
theorem timestamp_le_clock {clock : Int} {rs : List SysfsReading} (h : PollOk clock rs) :
    clock ≤ (rs.getLast?.map SysfsReading.timestamp).getD clock ∧
      ∀ r ∈ rs, r.timestamp ≤ (rs.getLast?.map SysfsReading.timestamp).getD clock := by
  rcases List.eq_nil_or_concat rs with rfl | ⟨init, last, rfl⟩
  · simp
  · have hmono := h.monotone
    rw [List.concat_eq_append, List.map_append, ← List.cons_append, List.pairwise_append] at hmono
    have hle := fun t ht => hmono.2.2 t ht last.timestamp (by simp)
    simp only [List.concat_eq_append, List.getLast?_append, List.getLast?_singleton,
      Option.some_or, Option.map_some, Option.getD_some]
    refine ⟨hle clock (by simp), fun r hr => ?_⟩
    rcases List.mem_append.mp hr with hr | hr
    · exact hle _ (List.mem_cons_of_mem _ (List.mem_map_of_mem hr))
    · rw [List.mem_singleton.mp hr]

/-- The samples a poll makes. -/
def Pipeline.made (s : Pipeline F) (acc gyro : List SysfsReading) : List (HwDataUnion F) :=
  (s.pollAcc acc).samples ++ (s.pollGyro acc gyro).samples

/-- The accounts of each sensor after the whole chain has moved on. -/
theorem accounts_advance {t : Pipeline F} {b : Sensor} {new gone : List (HwDataUnion F)}
    (h : Ordered s delivered) (hpolled : t.polled = s.polled ++ new) (hlost : t.lost = s.lost ++ gone)
    (hchain : Accounts (s.chain delivered b ++ new) (t.chain delivered b) gone) :
    Accounts (ofSensor b t.polled) (ofSensor b (t.chain delivered b)) (ofSensor b t.lost) := by
  have hof : Accounts (ofSensor b (s.chain delivered b) ++ ofSensor b new)
      (ofSensor b (t.chain delivered b)) (ofSensor b gone) := by
    rw [← ofSensor_append]
    exact hchain.filter _
  rw [hpolled, hlost, ofSensor_append, ofSensor_append]
  exact (h.accounts b).extend hof

section Poll

variable {acc gyro : List SysfsReading}

theorem polled_acc (hok : PollOk s.clock (acc ++ gyro)) :
    Polled accHwData s.nextAddr acc s.tmplistHwcntlAcclraw (s.pollAcc acc) :=
  apHwPoll_polled _ acc _ _ fun r hr => hok.alloc r (by simp [hr])

theorem polled_gyro (hok : PollOk s.clock (acc ++ gyro)) :
    Polled gyroHwData (s.nextAddr + (s.pollAcc acc).samples.length) gyro s.tmplistHwcntlGyroraw
      (s.pollGyro acc gyro) :=
  apHwPoll_polled _ gyro _ _ fun r hr => hok.alloc r (by simp [hr])

theorem made_timestamp (hok : PollOk s.clock (acc ++ gyro)) :
    (s.made acc gyro).map HwDataUnion.timestamp = (acc ++ gyro).map SysfsReading.timestamp := by
  unfold Pipeline.made
  rw [List.map_append, List.map_append, (polled_acc hok).samples, (polled_gyro hok).samples,
    map_timestamp_samples (fun _ _ => rfl), map_timestamp_samples (fun _ _ => rfl)]

theorem made_addr (hok : PollOk s.clock (acc ++ gyro)) :
    (s.made acc gyro).map HwDataUnion.addr = List.range' s.nextAddr (s.made acc gyro).length := by
  have hla : (s.pollAcc acc).samples.length = acc.length := by simp [(polled_acc hok).samples]
  have hlg : (s.pollGyro acc gyro).samples.length = gyro.length := by
    simp [(polled_gyro hok).samples]
  unfold Pipeline.made
  rw [List.map_append, List.length_append, hla, hlg, (polled_acc hok).samples,
    (polled_gyro hok).samples, addr_samples (fun _ _ => rfl), addr_samples (fun _ _ => rfl), hla,
    ← List.range'_append_1]

theorem made_sensor (hok : PollOk s.clock (acc ++ gyro)) :
    ∀ x ∈ s.made acc gyro, ∃ b : Sensor, x.id = b.id := by
  intro x hx
  rcases List.mem_append.mp hx with hx | hx
  · rw [(polled_acc hok).samples] at hx
    obtain ⟨p, _, rfl⟩ := List.mem_map.mp hx
    exact ⟨.accl, rfl⟩
  · rw [(polled_gyro hok).samples] at hx
    obtain ⟨p, _, rfl⟩ := List.mem_map.mp hx
    exact ⟨.gyro, rfl⟩

/-- A sample made is no earlier than the clock before the poll and no later than the one after. -/
theorem made_stamped (hok : PollOk s.clock (acc ++ gyro)) :
    ∀ x ∈ s.made acc gyro, 0 < x.timestamp ∧ s.clock ≤ x.timestamp ∧
      x.timestamp ≤ (s.pollStep acc gyro).clock := by
  intro x hx
  have hmem : x.timestamp ∈ (acc ++ gyro).map SysfsReading.timestamp := by
    rw [← made_timestamp hok]
    exact List.mem_map_of_mem hx
  have hafter := (List.pairwise_cons.mp hok.monotone).1 _ hmem
  obtain ⟨r, hr, hts⟩ := List.mem_map.mp hmem
  exact ⟨hts ▸ hok.positive r hr, hafter, hts ▸ (timestamp_le_clock hok).2 r hr⟩

/-- A poll puts what it makes at the end of the chain and frees from the front of its two lists. -/
theorem chain_pollStep (h : Ordered s delivered) (hpc : s.hwcntl = .poll)
    (hok : PollOk s.clock (acc ++ gyro)) (b : Sensor) :
    Accounts (s.chain delivered b ++ s.made acc gyro) ((s.pollStep acc gyro).chain delivered b)
      ((s.pollAcc acc).freed.map Freed.pData ++ (s.pollGyro acc gyro).freed.map Freed.pData) := by
  have ha : s.tmplistHwcntlAcclraw.data = [] := h.hwcntlIdle hpc .accl
  have hg : s.tmplistHwcntlGyroraw.data = [] := h.hwcntlIdle hpc .gyro
  have hsplita := (polled_acc hok).split
  have hsplitg := (polled_gyro hok).split
  rw [ha, List.nil_append] at hsplita
  rw [hg, List.nil_append] at hsplitg
  have hacc := (Accounts.refl (delivered ++ (s.sensordRaw b).data ++ s.shmemHwcntl.data)).append
    ((Accounts.dropOldest hsplita).append (Accounts.dropOldest hsplitg))
  have hbefore : s.chain delivered b =
      delivered ++ (s.sensordRaw b).data ++ s.shmemHwcntl.data := by
    simp [Pipeline.chain, Pipeline.upstream, ha, hg]
  have hafter : (s.pollStep acc gyro).chain delivered b =
      delivered ++ (s.sensordRaw b).data ++ s.shmemHwcntl.data ++
        ((s.pollAcc acc).list.data ++ (s.pollGyro acc gyro).list.data) := by
    cases b <;> simp [Pipeline.chain, Pipeline.upstream, Pipeline.pollStep, Pipeline.sensordRaw]
  rw [hbefore, hafter]
  exact hacc

theorem ordered_pollStep (h : Ordered s delivered) (hpc : s.hwcntl = .poll)
    (hok : PollOk s.clock (acc ++ gyro)) : Ordered (s.pollStep acc gyro) delivered := by
  have hchain := chain_pollStep h hpc hok
  have hpolled : (s.pollStep acc gyro).polled = s.polled ++ s.made acc gyro := List.append_assoc ..
  have hlost : (s.pollStep acc gyro).lost = s.lost ++ ((s.pollAcc acc).freed.map Freed.pData ++
      (s.pollGyro acc gyro).freed.map Freed.pData) := by
    simp [Pipeline.lost, Pipeline.pollStep, Function.comp_def]
  have hfresh : ∀ x ∈ s.made acc gyro, s.nextAddr ≤ x.addr ∧
      x.addr < (s.pollStep acc gyro).nextAddr := by
    intro x hx
    have hmem : x.addr ∈ (s.made acc gyro).map HwDataUnion.addr := List.mem_map_of_mem hx
    rw [made_addr hok, List.mem_range'_1] at hmem
    have hlen : (s.pollStep acc gyro).nextAddr = s.nextAddr + (s.made acc gyro).length := by
      simp [Pipeline.pollStep, Pipeline.made, Nat.add_assoc]
    exact ⟨hmem.1, hlen ▸ hmem.2⟩
  have hmade : TimeOrdered (s.made acc gyro) := by
    have := (List.pairwise_cons.mp hok.monotone).2
    rw [← made_timestamp hok, List.pairwise_map] at this
    exact this
  have hmem : ∀ b, ∀ x ∈ (s.pollStep acc gyro).chain delivered b,
      x ∈ s.chain delivered b ∨ x ∈ s.made acc gyro := fun b x hx =>
    List.mem_append.mp ((hchain b).order.subset hx)
  refine
    { pipe := h.pipe
      accounts := fun b => accounts_advance h hpolled hlost (hchain b)
      time := fun b => ?_
      stamped := fun b x hx => ?_
      sensor := fun x hx => ?_
      addr := fun x hx => ?_
      nodup := ?_
      drops := fun d hd => ?_
      hwcntlOk := fun b => ?_
      sensordOk := fun b => ?_
      sharedUplimit := h.sharedUplimit
      sharedBounded := h.sharedBounded
      hwcntlIdle := fun hpc' => absurd hpc' (by simp [Pipeline.pollStep])
      sensordIdle := fun hpc' b => ?_ }
  · -- what is queued is not later than the clock, what is new is not earlier
    have hall : TimeOrdered (s.chain delivered b ++ s.made acc gyro) := by
      refine List.pairwise_append.mpr ⟨h.time b, hmade, fun x hx y hy => ?_⟩
      exact (h.stamped b x hx).2.trans (made_stamped hok y hy).2.1
    exact List.Pairwise.sublist (hchain b).order hall
  · rcases hmem b x hx with hx | hx
    · have := h.stamped b x hx
      exact ⟨this.1, this.2.trans (timestamp_le_clock hok).1⟩
    · have := made_stamped hok x hx
      exact ⟨this.1, this.2.2⟩
  · rw [hpolled] at hx
    rcases List.mem_append.mp hx with hx | hx
    · exact h.sensor x hx
    · exact made_sensor hok x hx
  · rw [hpolled] at hx
    rcases List.mem_append.mp hx with hx | hx
    · have hle : s.nextAddr ≤ (s.pollStep acc gyro).nextAddr :=
        (Nat.le_add_right _ _).trans (Nat.le_add_right _ _)
      exact Nat.lt_of_lt_of_le (h.addr x hx) hle
    · exact (hfresh x hx).2
  · rw [hpolled]
    have hnodup : (s.made acc gyro).Nodup := by
      apply List.Nodup.of_map HwDataUnion.addr
      rw [made_addr hok]
      exact List.nodup_range'
    -- old samples sit below the next address, new ones do not
    apply List.Nodup.append h.nodup hnodup
    intro x hx hx'
    exact absurd (h.addr x hx) (Nat.not_lt.mpr (hfresh x hx').1)
  · have hd' : (d ∈ s.dropped ∨ d ∈ (s.pollAcc acc).freed.map (Drop.mk .hwcntlAcclraw)) ∨
        d ∈ (s.pollGyro acc gyro).freed.map (Drop.mk .hwcntlGyroraw) := by
      simpa only [Pipeline.pollStep, List.mem_append] using hd
    rcases hd' with (hd | hd) | hd
    · exact h.drops d hd
    · obtain ⟨f, hf, rfl⟩ := List.mem_map.mp hd
      have hfull := ((polled_acc hok).full f hf).trans (h.hwcntlOk .accl).uplimit
      exact Drop.atBound_mk (by decide) (by decide) (Nat.le_of_eq hfull.symm)
    · obtain ⟨f, hf, rfl⟩ := List.mem_map.mp hd
      have hfull := ((polled_gyro hok).full f hf).trans (h.hwcntlOk .gyro).uplimit
      exact Drop.atBound_mk (by decide) (by decide) (Nat.le_of_eq hfull.symm)
  · cases b with
    | accl => exact (polled_acc hok).listOk (h.hwcntlOk .accl) (fun _ _ => rfl)
    | gyro => exact (polled_gyro hok).listOk (h.hwcntlOk .gyro) (fun _ _ => rfl)
  · cases b with
    | accl => exact h.sensordOk .accl
    | gyro => exact h.sensordOk .gyro
  · cases b with
    | accl => exact h.sensordIdle hpc' .accl
    | gyro => exact h.sensordIdle hpc' .gyro

end Poll

/-! ## Mounting -/

theorem ordered_mountStep (h : Ordered s delivered) : Ordered s.mountStep delivered := by
  obtain ⟨gone, hchain, hdropped, hover⟩ := chain_mountStep s delivered
  have hlost : s.mountStep.lost = s.lost ++ gone.map Freed.pData := by
    simp [Pipeline.lost, hdropped, Function.comp_def]
  obtain ⟨hpolled, hclock, hnext, hpipe, hsensord, _, hraw⟩ := mountStep_frame s
  have hpolled' : s.mountStep.polled = s.polled ++ [] := by rw [hpolled, List.append_nil]
  have hshared := mountStep_shared s (by rw [h.sharedUplimit]; exact h.sharedBounded)
  rw [h.sharedUplimit] at hshared
  refine
    { pipe := hpipe ▸ h.pipe
      accounts := fun b => accounts_advance h hpolled' hlost (by simpa using hchain b)
      time := fun b => List.Pairwise.sublist (hchain b).order (h.time b)
      stamped := fun b x hx => hclock ▸ h.stamped b x ((hchain b).order.subset hx)
      sensor := fun x hx => h.sensor x (hpolled ▸ hx)
      addr := fun x hx => hnext ▸ h.addr x (hpolled ▸ hx)
      nodup := hpolled ▸ h.nodup
      drops := fun d hd => ?_
      hwcntlOk := fun b => ?_
      sensordOk := fun b => hraw ▸ h.sensordOk b
      sharedUplimit := hshared.1
      sharedBounded := hshared.2
      hwcntlIdle := fun _ b => (mountStep_hwcntlRaw s b).1
      sensordIdle := fun hpc b => hraw ▸ h.sensordIdle (hsensord ▸ hpc) b }
  · rw [hdropped] at hd
    rcases List.mem_append.mp hd with hd | hd
    · exact h.drops d hd
    · obtain ⟨f, hf, rfl⟩ := List.mem_map.mp hd
      have hlong : 128 < f.listLen := h.sharedUplimit ▸ hover f hf
      exact Drop.atBound_mk (by decide) (by decide) (Nat.le_of_lt hlong)
  · obtain ⟨hnil, hlimit⟩ := mountStep_hwcntlRaw s b
    refine ⟨hlimit.trans (h.hwcntlOk b).uplimit, ?_, ?_⟩
    · show (s.mountStep.hwcntlRaw b).data.length ≤ 128
      rw [hnil]
      exact Nat.zero_le _
    · rw [hnil]
      intro x hx
      exact absurd hx List.not_mem_nil

/-! ## Draining -/

/-- The shared list split by sensor, nothing freed. -/
def Pipeline.drained (s : Pipeline F) : Pipeline F :=
  { s with
    shmemHwcntl := s.shmemHwcntl.withData []
    tmplistSensordAcclraw := s.tmplistSensordAcclraw.withData (ofSensor .accl s.shmemHwcntl.data)
    tmplistSensordGyroraw := s.tmplistSensordGyroraw.withData (ofSensor .gyro s.shmemHwcntl.data)
    sensord := .process }

omit [CFloat F] in
theorem drained_sensordRaw (s : Pipeline F) (b : Sensor) :
    s.drained.sensordRaw b = (s.sensordRaw b).withData (ofSensor b s.shmemHwcntl.data) := by
  cases b <;> rfl

/-- The drain loop finds the sensord-side lists empty, so it has room for the whole shared list. -/
theorem drainStep_eq_drained (h : Ordered s delivered) (hpc : s.sensord ≠ .process) :
    s.drainStep [] = s.drained := by
  have hacc : s.tmplistSensordAcclraw.data = [] := h.sensordIdle hpc .accl
  have hgyr : s.tmplistSensordGyroraw.data = [] := h.sensordIdle hpc .gyro
  have hbound : s.shmemHwcntl.data.length ≤ 128 := h.sharedBounded
  have huacc : s.tmplistSensordAcclraw.uplimit = 128 := (h.sensordOk .accl).uplimit
  have hugyr : s.tmplistSensordGyroraw.uplimit = 128 := (h.sensordOk .gyro).uplimit
  unfold Pipeline.drainStep
  rw [drainLoop_eq]
  · simp [Pipeline.drained, BoschSimpleList.withData, hacc, hgyr]
  · simpa [BoschSimpleList.listLen, hacc, huacc] using hbound
  · simpa [BoschSimpleList.listLen, hgyr, hugyr] using hbound

/-- The chain of a sensor loses the samples of the other one, and none of its own. -/
theorem chain_drained (h : Ordered s delivered) (hpc : s.sensord ≠ .process) (b : Sensor) :
    (s.drained.chain delivered b).Sublist (s.chain delivered b) ∧
      ofSensor b (s.drained.chain delivered b) = ofSensor b (s.chain delivered b) := by
  have hbefore : s.chain delivered b = delivered ++ s.shmemHwcntl.data ++
      (s.tmplistHwcntlAcclraw.data ++ s.tmplistHwcntlGyroraw.data) := by
    rw [Pipeline.chain, h.sensordIdle hpc b, Pipeline.upstream]
    simp
  have hafter : s.drained.chain delivered b = delivered ++ ofSensor b s.shmemHwcntl.data ++
      (s.tmplistHwcntlAcclraw.data ++ s.tmplistHwcntlGyroraw.data) := by
    rw [Pipeline.chain, drained_sensordRaw]
    rfl
  rw [hbefore, hafter]
  constructor
  · exact (List.Sublist.append (List.Sublist.refl _) List.filter_sublist).append
      (List.Sublist.refl _)
  · simp

theorem ordered_drainStep (h : Ordered s delivered) (hpc : s.sensord ≠ .process) :
    Ordered (s.drainStep []) delivered := by
  rw [drainStep_eq_drained h hpc]
  have hchain := chain_drained h hpc
  refine
    { pipe := h.pipe
      accounts := fun b => by rw [(hchain b).2]; exact h.accounts b
      time := fun b => List.Pairwise.sublist (hchain b).1 (h.time b)
      stamped := fun b x hx => h.stamped b x ((hchain b).1.subset hx)
      sensor := h.sensor
      addr := h.addr
      nodup := h.nodup
      drops := h.drops
      hwcntlOk := fun b => ?_
      sensordOk := fun b => ?_
      sharedUplimit := h.sharedUplimit
      sharedBounded := Nat.zero_le _
      hwcntlIdle := fun hpc' b => ?_
      sensordIdle := fun hpc' => absurd rfl hpc' }
  · cases b with
    | accl => exact h.hwcntlOk .accl
    | gyro => exact h.hwcntlOk .gyro
  · rw [drained_sensordRaw]
    refine ⟨(h.sensordOk b).uplimit, ?_, fun x hx => (mem_ofSensor.mp hx).2⟩
    show (ofSensor b s.shmemHwcntl.data).length ≤ 128
    exact (List.length_filter_le _ _).trans h.sharedBounded
  · cases b with
    | accl => exact h.hwcntlIdle hpc' .accl
    | gyro => exact h.hwcntlIdle hpc' .gyro

/-- Going to wait, or coming back from a wait that failed, moves no sample. -/
theorem ordered_wait (h : Ordered s delivered) (hpc : s.sensord ≠ .process) (pc : SensordPc) :
    Ordered { s with sensord := pc } delivered := by
  have hraw : ∀ b, ({ s with sensord := pc } : Pipeline F).sensordRaw b = s.sensordRaw b := by
    intro b
    cases b <;> rfl
  have hhw : ∀ b, ({ s with sensord := pc } : Pipeline F).hwcntlRaw b = s.hwcntlRaw b := by
    intro b
    cases b <;> rfl
  have hchain : ∀ b, ({ s with sensord := pc } : Pipeline F).chain delivered b =
      s.chain delivered b := by
    intro b
    rw [Pipeline.chain, hraw]
    rfl
  exact
    { pipe := h.pipe
      accounts := fun b => hchain b ▸ h.accounts b
      time := fun b => hchain b ▸ h.time b
      stamped := fun b x hx => h.stamped b x (hchain b ▸ hx)
      sensor := h.sensor
      addr := h.addr
      nodup := h.nodup
      drops := h.drops
      hwcntlOk := fun b => hhw b ▸ h.hwcntlOk b
      sensordOk := fun b => hraw b ▸ h.sensordOk b
      sharedUplimit := h.sharedUplimit
      sharedBounded := h.sharedBounded
      hwcntlIdle := fun hpc' b => hhw b ▸ h.hwcntlIdle hpc' b
      sensordIdle := fun _ b => hraw b ▸ h.sensordIdle hpc b }

/-! ## Delivering -/

/-- The two sensord-side lists, merged. -/
def Pipeline.merged (s : Pipeline F) : List (HwDataUnion F) :=
  alignOrder s.tmplistSensordAcclraw.data s.tmplistSensordGyroraw.data

/-- Both sensord-side lists emptied into the HAL pipe. -/
def Pipeline.deliver (s : Pipeline F) : Pipeline F :=
  { s with
    tmplistSensordAcclraw := s.tmplistSensordAcclraw.withData []
    tmplistSensordGyroraw := s.tmplistSensordGyroraw.withData []
    halPipe := s.halPipe ++ s.merged.map sampleEvent
    sensord := .read }

/-- `sensord_algo_process` stays inside its arrays, ends, and delivers everything it was given. -/
theorem processStep_eq_deliver (h : Ordered s delivered) : s.processStep .ok = some s.deliver := by
  have ha : ∀ a ∈ s.tmplistSensordAcclraw.data, a.id = SENSOR_TYPE_ACCELEROMETER :=
    (h.sensordOk .accl).sensor
  have hg : ∀ g ∈ s.tmplistSensordGyroraw.data, g.id = SENSOR_TYPE_GYROSCOPE_UNCALIBRATED :=
    (h.sensordOk .gyro).sensor
  unfold Pipeline.processStep
  rw [sensordAlgoProcess_ok ha hg]
  rfl

theorem chain_deliver (b : Sensor) :
    s.deliver.chain (delivered ++ s.merged) b = delivered ++ s.merged ++ s.upstream := by
  have hnil : (s.deliver.sensordRaw b).data = [] := by cases b <;> rfl
  rw [Pipeline.chain, hnil, List.append_nil]
  rfl

omit [CFloat F] in
theorem mem_merged {x : HwDataUnion F} (hx : x ∈ s.merged) : ∃ b, x ∈ (s.sensordRaw b).data := by
  rcases mem_alignOrder.mp hx with hx | hx
  · exact ⟨.accl, hx⟩
  · exact ⟨.gyro, hx⟩

/-- The merge keeps each sensord-side list as it is. -/
theorem ofSensor_merged (h : Ordered s delivered) (b : Sensor) :
    ofSensor b s.merged = (s.sensordRaw b).data := by
  have ha := (h.sensordOk .accl).sensor
  have hg := (h.sensordOk .gyro).sensor
  have hsplit : s.merged.filter (fun x => x.id == Sensor.accl.id) = s.tmplistSensordAcclraw.data ∧
      s.merged.filter (fun x => !(x.id == Sensor.accl.id)) = s.tmplistSensordGyroraw.data :=
    filter_alignOrder (fun a hx => by simpa using ha a hx) (fun g hx => by rw [hg g hx]; rfl)
  cases b with
  | accl => exact hsplit.1
  | gyro =>
      refine Eq.trans ?_ hsplit.2
      apply List.filter_congr
      intro x hx
      obtain ⟨b, hb⟩ := mem_merged hx
      rw [(h.sensordOk b).sensor x hb]
      cases b <;> rfl

theorem ordered_deliver (h : Ordered s delivered) :
    Ordered s.deliver (delivered ++ s.merged) := by
  have hpart : ∀ b, s.chain delivered b = delivered ++ ((s.sensordRaw b).data ++ s.upstream) :=
    fun b => List.append_assoc ..
  have hup : ∀ b, ∀ x ∈ s.upstream, x ∈ s.chain delivered b := fun b x hx =>
    List.mem_append_right _ hx
  have hmid : ∀ b, ∀ x ∈ (s.sensordRaw b).data, x ∈ s.chain delivered b := fun b x hx =>
    List.mem_append_left _ (List.mem_append_right _ hx)
  have htime : ∀ b, TimeOrdered (delivered ++ ((s.sensordRaw b).data ++ s.upstream)) := fun b =>
    hpart b ▸ h.time b
  refine
    { pipe := ?_
      accounts := fun b => ?_
      time := fun b => ?_
      stamped := fun b x hx => ?_
      sensor := h.sensor
      addr := h.addr
      nodup := h.nodup
      drops := h.drops
      hwcntlOk := fun b => ?_
      sensordOk := fun b => ?_
      sharedUplimit := h.sharedUplimit
      sharedBounded := h.sharedBounded
      hwcntlIdle := fun hpc b => ?_
      sensordIdle := fun _ b => ?_ }
  · show s.halPipe ++ s.merged.map sampleEvent = _
    rw [h.pipe, List.map_append]
  · -- a sample of `b` is where it was, only no longer queued
    have hsame : ofSensor b (s.deliver.chain (delivered ++ s.merged) b) =
        ofSensor b (s.chain delivered b) := by
      rw [chain_deliver, Pipeline.chain]
      simp only [ofSensor_append, ofSensor_merged h b, ofSensor_eq_self (h.sensordOk b).sensor]
    rw [hsame]
    exact h.accounts b
  · rw [chain_deliver, List.append_assoc]
    -- what is delivered, what is merged and what is upstream, and the three pairs of them
    have hd := fun b => List.pairwise_append.mp (htime b)
    have hm := fun b => List.pairwise_append.mp (hd b).2.1
    have hmerged : TimeOrdered s.merged := by
      apply timeOrdered_alignOrder (hm .accl).1 (hm .gyro).1
      intro g hg
      exact (h.stamped .gyro g (hmid .gyro g hg)).1
    refine List.pairwise_append.mpr ⟨(hd b).1, ?_, ?_⟩
    · refine List.pairwise_append.mpr ⟨hmerged, (hm b).2.1, fun x hx y hy => ?_⟩
      obtain ⟨c, hc⟩ := mem_merged hx
      exact (hm c).2.2 x hc y hy
    · intro x hx y hy
      rcases List.mem_append.mp hy with hy | hy
      · obtain ⟨c, hc⟩ := mem_merged hy
        exact (hd c).2.2 x hx y (List.mem_append_left _ hc)
      · exact (hd b).2.2 x hx y (List.mem_append_right _ hy)
  · rw [chain_deliver] at hx
    rcases List.mem_append.mp hx with hx | hx
    · rcases List.mem_append.mp hx with hx | hx
      · exact h.stamped b x (List.mem_append_left _ (List.mem_append_left _ hx))
      · obtain ⟨c, hc⟩ := mem_merged hx
        exact h.stamped c x (hmid c x hc)
    · exact h.stamped b x (hup b x hx)
  · cases b with
    | accl => exact h.hwcntlOk .accl
    | gyro => exact h.hwcntlOk .gyro
  · have hlist := h.sensordOk b
    cases b with
    | accl => exact ⟨hlist.uplimit, Nat.zero_le _, fun x hx => absurd hx List.not_mem_nil⟩
    | gyro => exact ⟨hlist.uplimit, Nat.zero_le _, fun x hx => absurd hx List.not_mem_nil⟩
  · cases b with
    | accl => exact h.hwcntlIdle hpc .accl
    | gyro => exact h.hwcntlIdle hpc .gyro
  · cases b <;> rfl

/-! ## Every run -/

/-- Each action preserves the invariant; only `sensord_algo_process` delivers. -/
theorem ordered_step {a : Act} {t : Pipeline F} (h : Ordered s delivered) (henv : EnvOk s a)
    (hstep : s.step a = some t) : ∃ delivered', Ordered t delivered' := by
  cases Pipeline.step_cases hstep with
  | polled hpc => exact ⟨delivered, ordered_pollStep h hpc henv⟩
  | mounted => exact ⟨delivered, ordered_mountStep h⟩
  | nothingShared hpc => exact ⟨delivered, ordered_wait h (by rw [hpc]; decide) .wait⟩
  | @drained failed hpc hshared =>
      obtain rfl : failed = [] := henv
      exact ⟨delivered, ordered_drainStep h (by rw [hpc]; decide)⟩
  | waitFailed hpc => exact ⟨delivered, ordered_wait h (by rw [hpc]; decide) .process⟩
  | @woken ret failed hpc hret =>
      obtain rfl : failed = [] := henv
      exact ⟨delivered, ordered_drainStep h (by rw [hpc]; decide)⟩
  | @processed m t hpc hstep =>
      obtain rfl : m = .ok := henv
      rw [processStep_eq_deliver h] at hstep
      cases hstep
      exact ⟨_, ordered_deliver h⟩

theorem ordered_of_reach (h : (pipeline F).ReachUnder EnvOk s) :
    ∃ delivered, Ordered s delivered := by
  refine Machine.ReachUnder.invariant (P := fun s => ∃ delivered, Ordered s delivered) ?_ ?_ h
  · rintro s rfl
    exact ⟨[], ordered_init⟩
  · rintro s a t ⟨delivered, hs⟩ henv hstep
    exact ordered_step hs henv hstep

/-- What is left of a chain when only one sensor is looked at. -/
theorem ofSensor_chain (h : Ordered s delivered) (b : Sensor) :
    ofSensor b (s.chain delivered b) = s.kept delivered b := by
  have ha : ∀ x ∈ s.tmplistHwcntlAcclraw.data, x.id = Sensor.accl.id := (h.hwcntlOk .accl).sensor
  have hg : ∀ x ∈ s.tmplistHwcntlGyroraw.data, x.id = Sensor.gyro.id := (h.hwcntlOk .gyro).sensor
  have hhw : ofSensor b s.tmplistHwcntlAcclraw.data ++ ofSensor b s.tmplistHwcntlGyroraw.data =
      (s.hwcntlRaw b).data := by
    cases b with
    | accl =>
        rw [ofSensor_eq_nil hg (by decide), List.append_nil]
        exact ofSensor_eq_self ha
    | gyro =>
        rw [ofSensor_eq_nil ha (by decide), List.nil_append]
        exact ofSensor_eq_self hg
  simp only [Pipeline.chain, Pipeline.upstream, Pipeline.kept, ofSensor_append, List.append_assoc,
    hhw, ofSensor_eq_self (h.sensordOk b).sensor]

/-- In every interleaving of the two threads, the events on the HAL pipe are those of a list of
samples such that

* for each sensor, what is delivered or still queued is a subsequence of the samples polled, without
  duplicates, and every other polled sample is among the freed ones;
* a sample is only ever freed off a hwcntl list or the shared list while that list stands at its
  bound, so the sensord-side lists drop nothing;
* the events come out in time order, both sensors together;
* `sensord_algo_process` stays inside its arrays and ends. -/
theorem pipeline_keeps_order (h : (pipeline F).ReachUnder EnvOk s) :
    ∃ delivered : List (HwDataUnion F), s.halPipe = delivered.map sampleEvent ∧
      (∀ b, (s.kept delivered b).Nodup ∧
        Accounts (ofSensor b s.polled) (s.kept delivered b) (ofSensor b s.lost)) ∧
      (∀ x ∈ s.polled, ∃ b, x ∈ ofSensor b s.polled) ∧
      (∀ d ∈ s.dropped, d.AtBound) ∧ (∀ b, (s.sensordRaw b).listLen ≤ 128) ∧
      s.halPipe.Pairwise (fun e e' => e.timestamp ≤ e'.timestamp) ∧
      (s.sensord = .process → ∃ t, s.step (.process .ok) = some t) := by
  obtain ⟨delivered, ho⟩ := ordered_of_reach h
  have haccounts : ∀ b, Accounts (ofSensor b s.polled) (s.kept delivered b) (ofSensor b s.lost) :=
    fun b => ofSensor_chain ho b ▸ ho.accounts b
  have htime : TimeOrdered delivered := by
    refine List.Pairwise.sublist ?_ (ho.time .accl)
    unfold Pipeline.chain
    rw [List.append_assoc]
    exact List.sublist_append_left _ _
  refine ⟨delivered, ho.pipe, fun b => ⟨?_, haccounts b⟩, fun x hx => ?_, ho.drops,
    fun b => (ho.sensordOk b).bounded, ?_, fun hpc => ?_⟩
  · exact ((haccounts b).nodup (ho.nodup.filter _)).1
  · obtain ⟨b, hb⟩ := ho.sensor x hx
    exact ⟨b, mem_ofSensor.mpr ⟨hx, hb⟩⟩
  · rw [ho.pipe, List.pairwise_map]
    simp only [sampleEvent_timestamp]
    exact htime
  · refine ⟨s.deliver, ?_⟩
    show (if s.sensord = .process then s.processStep .ok else none) = _
    rw [if_pos hpc, processStep_eq_deliver ho]

end Step

/-- A poll of two accelerometer samples and one gyroscope sample, mounted and delivered. -/
theorem pipeline_keeps_order_one_batch :
    ∃ s : Pipeline ℚ, (s.halPipe.map fun e => (e.sensor, e.timestamp)) = [(1, 5), (1, 6), (16, 6)] ∧
      ∃ delivered : List (HwDataUnion ℚ), s.halPipe = delivered.map sampleEvent ∧
      (∀ b, (s.kept delivered b).Nodup ∧
        Accounts (ofSensor b s.polled) (s.kept delivered b) (ofSensor b s.lost)) ∧
      (∀ x ∈ s.polled, ∃ b, x ∈ ofSensor b s.polled) ∧
      (∀ d ∈ s.dropped, d.AtBound) ∧ (∀ b, (s.sensordRaw b).listLen ≤ 128) ∧
      s.halPipe.Pairwise (fun e e' => e.timestamp ≤ e'.timestamp) ∧
      (s.sensord = .process → ∃ t, s.step (.process .ok) = some t) :=
  have hpoll : PollOk 0 ([⟨1, 2, 3, 0, 5, true, true⟩, ⟨1, 2, 3, 0, 6, true, true⟩] ++
      [⟨4, 5, 6, 0, 6, true, true⟩]) := ⟨by decide, by decide, by decide⟩
  have hrun : (pipeline ℚ).ReachUnder EnvOk _ :=
    .next (.next (.next (.next (a := .poll _ _) (.start rfl) hpoll rfl) (a := .mount) trivial rfl)
      (a := .read []) rfl rfl) (a := .process .ok) rfl rfl
  ⟨_, by decide, pipeline_keeps_order hrun⟩

end Smi240Hal.Legacy
