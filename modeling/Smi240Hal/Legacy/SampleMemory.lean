/-
# Smi240Hal.Legacy.SampleMemory — every sample is freed once

A `HW_DATA_UNION` is allocated by a polling loop and handed from list to list by its pointer.  It is
freed where a list drops it or refuses it, or at the end of `sensord_algo_process`, by
`distory_hwdata`, on each of the ways out that have taken it off its list.

`sampleHeap` is the pipeline with a log of the samples `distory_hwdata` has freed.  Allocations fail
as they like, lists overflow, and the clock may go back.  The result is one equation between
collections: what was allocated is what the five lists own, what the lists have freed and what
`distory_hwdata` has freed.  As no two samples have the same address, it excludes a leak, a double
free and a freed sample that is still queued.
-/
import Mathlib.Algebra.Order.Group.Multiset
import Mathlib.Tactic.Abel
import Smi240Hal.Legacy.PipelineOrder

namespace Smi240Hal.Legacy

open Smi240Hal.Lib

variable {F : Type}

/-! ## The machine -/

/-- The samples that `sensord_algo_process` gives to `distory_hwdata`. -/
def distoryHwdata (m : ProcessAlloc) (acclraw gyroraw : BoschSimpleList (HwDataUnion F)) :
    List (HwDataUnion F) :=
  if acclraw.listLen + gyroraw.listLen = 0 then []
  else if acclraw.listLen ≠ 0 ∧ m.accArray = false then []
  else if gyroraw.listLen ≠ 0 ∧ m.gyroArray = false then acclraw.data
  -- after a failed sort and at the end alike
  else acclraw.data ++ gyroraw.data

/-- The two threads, and what `distory_hwdata` has freed. -/
structure SampleHeap (F : Type) where
  threads : Pipeline F
  destroyed : List (HwDataUnion F)

namespace SampleHeap

/-- The samples a stretch gives to `distory_hwdata`. -/
def destroyedBy (s : SampleHeap F) : Act → List (HwDataUnion F)
  | .process m => distoryHwdata m s.threads.tmplistSensordAcclraw s.threads.tmplistSensordGyroraw
  | _ => []

/-- The stretches of the pipeline, with the samples they destroy. -/
def step [CFloat F] (s : SampleHeap F) (a : Act) : Option (SampleHeap F) :=
  (s.threads.step a).map fun t => ⟨t, s.destroyed ++ s.destroyedBy a⟩

/-- The samples on one of the five lists. -/
def owned (s : SampleHeap F) : List (HwDataUnion F) :=
  s.threads.tmplistHwcntlAcclraw.data ++ s.threads.tmplistHwcntlGyroraw.data ++
    s.threads.shmemHwcntl.data ++ s.threads.tmplistSensordAcclraw.data ++
    s.threads.tmplistSensordGyroraw.data

/-- The samples given to `free`. -/
def freed (s : SampleHeap F) : List (HwDataUnion F) := s.threads.lost ++ s.destroyed

end SampleHeap

/-- The pipeline from its start, with nothing destroyed. -/
def sampleHeap (F : Type) [CFloat F] : Machine (SampleHeap F) Act where
  Start s := s = ⟨.init, []⟩
  step := SampleHeap.step

/-! ## What the lists do with a sample -/

/-- The samples of a list, in no order. -/
def bag {α : Type*} (l : List α) : Multiset α := (l : Multiset α)

@[simp] theorem bag_nil {α : Type*} : bag ([] : List α) = 0 := rfl

theorem bag_cons {α : Type*} (x : α) (l : List α) : bag (x :: l) = {x} + bag l :=
  (Multiset.cons_coe x l).symm.trans (Multiset.singleton_add x _).symm

@[simp] theorem bag_append {α : Type*} (l m : List α) : bag (l ++ m) = bag l + bag m :=
  (Multiset.coe_add l m).symm

theorem bag_eq {α : Type*} {l m : List α} : bag l = bag m ↔ l.Perm m := Multiset.coe_eq_coe

/-- What `list_add_rear` and its caller free, when the caller frees the sample on `-1`. -/
def addFreed {α : Type*} (l : BoschSimpleList α) (pdata : α) (nod : Bool) : List (Freed α) :=
  (l.listAddRear pdata nod).freed ++
    if (l.listAddRear pdata nod).ret = -1 then [⟨l.listLen, pdata⟩] else []

theorem bag_addRear {α : Type*} (l : BoschSimpleList α) (pdata : α) (nod : Bool) :
    bag (l.listAddRear pdata nod).list.data + bag ((addFreed l pdata nod).map Freed.pData) =
      bag l.data + {pdata} := by
  unfold addFreed
  rcases nod with _ | _
  · have hfail : l.listAddRear pdata false = ⟨-1, l, []⟩ := rfl
    rw [hfail]
    rfl
  · have hsplit := congrArg bag (l.listAddRear_split pdata)
    rw [bag_append, bag_append, bag_cons, bag_nil, add_zero] at hsplit
    rw [if_neg (l.listAddRear_ret pdata), List.append_nil, add_comm, hsplit]

theorem bag_mountRear {α : Type*} (l m : BoschSimpleList α) :
    bag (l.listMountRear m).list.data + bag (l.listMountRear m).mounted.data +
        bag ((l.listMountRear m).freed.map Freed.pData) = bag l.data + bag m.data := by
  have hsplit := congrArg bag (l.listMountRear_split m)
  rw [bag_append, bag_append] at hsplit
  rw [BoschSimpleList.listMountRear_mounted_data, bag_nil, add_zero, add_comm, hsplit]

/-! ## What the loops do with the samples -/

section Loops

variable {hwData : Nat → SysfsReading → HwDataUnion F}

/-- A polling loop puts what it makes on its list, or frees it. -/
theorem bag_apHwPoll (rs : List SysfsReading) :
    ∀ (addr : Nat) (l : BoschSimpleList (HwDataUnion F)),
      bag (apHwPoll hwData addr rs l).list.data +
          bag ((apHwPoll hwData addr rs l).freed.map Freed.pData) =
        bag l.data + bag (apHwPoll hwData addr rs l).samples := by
  induction rs with
  | nil => exact fun _ _ => rfl
  | cons r rs ih =>
      intro addr l
      unfold apHwPoll
      split
      case isTrue => exact ih addr l
      case isFalse =>
        have hadd := bag_addRear l (hwData addr r) r.nod
        have hrest := ih (addr + 1) (l.listAddRear (hwData addr r) r.nod).list
        unfold addFreed at hadd
        dsimp only
        rw [List.map_append, bag_append, ← add_assoc, add_right_comm, hrest, bag_cons, ← add_assoc,
          ← hadd]
        abel

/-- The samples are allocated one after another. -/
theorem addr_apHwPoll (haddr : ∀ n r, (hwData n r).addr = n) (rs : List SysfsReading) :
    ∀ (addr : Nat) (l : BoschSimpleList (HwDataUnion F)),
      (apHwPoll hwData addr rs l).samples.map HwDataUnion.addr =
        List.range' addr (apHwPoll hwData addr rs l).samples.length := by
  induction rs with
  | nil => exact fun _ _ => rfl
  | cons r rs ih =>
      intro addr l
      unfold apHwPoll
      split
      case isTrue => exact ih addr l
      case isFalse =>
        dsimp only
        rw [List.map_cons, List.length_cons, List.range'_succ, haddr, ih]

/-- The drain loop knows the id of every sample that is queued, so it forgets none. -/
theorem bag_drainLoop (failed : List Nat) (l : List (HwDataUnion F))
    (hid : ∀ x ∈ l, x.id = SENSOR_TYPE_ACCELEROMETER ∨ x.id = SENSOR_TYPE_GYROSCOPE_UNCALIBRATED) :
    ∀ (k : Nat) (d : Drain F),
      bag (drainLoop failed k l d).acclraw.data + bag (drainLoop failed k l d).gyroraw.data +
          bag ((drainLoop failed k l d).freedAccl.map Freed.pData) +
          bag ((drainLoop failed k l d).freedGyro.map Freed.pData) =
        bag d.acclraw.data + bag d.gyroraw.data + bag (d.freedAccl.map Freed.pData) +
          bag (d.freedGyro.map Freed.pData) + bag l := by
  induction l with
  | nil => exact fun _ _ => (add_zero _).symm
  | cons x rest ih =>
      intro k d
      have hrest := ih fun y hy => hid y (List.mem_cons_of_mem _ hy)
      unfold drainLoop
      dsimp only
      by_cases hacc : x.id = SENSOR_TYPE_ACCELEROMETER
      · have hadd := bag_addRear d.acclraw x (!failed.contains k)
        have hgone : d.freedAccl ++ (d.acclraw.listAddRear x (!failed.contains k)).freed ++
            (if (d.acclraw.listAddRear x (!failed.contains k)).ret = -1 then
              [⟨d.acclraw.listLen, x⟩] else []) =
            d.freedAccl ++ addFreed d.acclraw x (!failed.contains k) := List.append_assoc _ _ _
        rw [if_pos hacc, hrest]
        dsimp only
        rw [hgone, List.map_append, bag_append, bag_cons]
        calc _ = (bag (d.acclraw.listAddRear x (!failed.contains k)).list.data +
                bag ((addFreed d.acclraw x (!failed.contains k)).map Freed.pData)) +
              (bag d.gyroraw.data + bag (d.freedAccl.map Freed.pData) +
                bag (d.freedGyro.map Freed.pData) + bag rest) := by abel
          _ = _ := by
              rw [hadd]
              abel
      · have hgyr : x.id = SENSOR_TYPE_GYROSCOPE_UNCALIBRATED :=
          (hid x List.mem_cons_self).resolve_left hacc
        have hadd := bag_addRear d.gyroraw x (!failed.contains k)
        have hgone : d.freedGyro ++ (d.gyroraw.listAddRear x (!failed.contains k)).freed ++
            (if (d.gyroraw.listAddRear x (!failed.contains k)).ret = -1 then
              [⟨d.gyroraw.listLen, x⟩] else []) =
            d.freedGyro ++ addFreed d.gyroraw x (!failed.contains k) := List.append_assoc _ _ _
        rw [if_neg hacc, if_pos hgyr, hrest]
        dsimp only
        rw [hgone, List.map_append, bag_append, bag_cons]
        calc _ = (bag (d.gyroraw.listAddRear x (!failed.contains k)).list.data +
                bag ((addFreed d.gyroraw x (!failed.contains k)).map Freed.pData)) +
              (bag d.acclraw.data + bag (d.freedAccl.map Freed.pData) +
                bag (d.freedGyro.map Freed.pData) + bag rest) := by abel
          _ = _ := by
              rw [hadd]
              abel

/-- `sensord_algo_process` frees what it takes off the lists, on each of its ways out. -/
theorem bag_sensordAlgoProcess [CFloat F] {m : ProcessAlloc}
    {acclraw gyroraw : BoschSimpleList (HwDataUnion F)} {r : ProcessResult F}
    (h : sensordAlgoProcess m acclraw gyroraw = some r) :
    bag r.acclraw.data + bag r.gyroraw.data + bag (distoryHwdata m acclraw gyroraw) =
      bag acclraw.data + bag gyroraw.data := by
  unfold sensordAlgoProcess sensordAlgoProcessWith at h
  unfold distoryHwdata
  split at h
  case isTrue hempty =>
    cases h
    rw [if_pos hempty]
    exact add_zero _
  case isFalse hne =>
    rw [if_neg hne]
    split at h
    case isTrue hfail =>
      cases h
      rw [if_pos hfail]
      exact add_zero _
    case isFalse hacc =>
      rw [if_neg hacc]
      dsimp only at h
      split at h
      case isTrue hfail =>
        cases h
        rw [if_pos hfail]
        show 0 + bag gyroraw.data + bag acclraw.data = _
        abel
      case isFalse hgyr =>
        rw [if_neg hgyr, bag_append]
        have hboth : r.acclraw.data = [] ∧ r.gyroraw.data = [] := by
          obtain ⟨⟨ind, len⟩, _, hrest⟩ := Option.bind_eq_some_iff.mp h
          dsimp only at hrest
          split at hrest
          · cases hrest
            exact ⟨rfl, rfl⟩
          · obtain ⟨packages, _, heq⟩ := Option.map_eq_some_iff.mp hrest
            cases heq
            exact ⟨rfl, rfl⟩
        rw [hboth.1, hboth.2]
        show 0 + 0 + _ = _
        abel

end Loops

/-! ## The invariant -/

namespace SampleHeap

/-- The ids the drain loop knows. -/
def Known (x : HwDataUnion F) : Prop :=
  x.id = SENSOR_TYPE_ACCELEROMETER ∨ x.id = SENSOR_TYPE_GYROSCOPE_UNCALIBRATED

/-- What was allocated is owned by a list or has been freed; what the drain loop will find carries an
id it knows; and the addresses are those of the allocations, in order. -/
structure Conserved (s : SampleHeap F) : Prop where
  balance : bag s.owned + bag s.freed = bag s.threads.polled
  known : ∀ x ∈ s.threads.upstream, Known x
  addr : s.threads.polled.map HwDataUnion.addr = List.range s.threads.nextAddr

/-- The balance, list by list. -/
theorem balance_iff (s : SampleHeap F) :
    bag s.owned + bag s.freed = bag s.threads.polled ↔
      bag s.threads.tmplistHwcntlAcclraw.data + bag s.threads.tmplistHwcntlGyroraw.data +
          bag s.threads.shmemHwcntl.data + bag s.threads.tmplistSensordAcclraw.data +
          bag s.threads.tmplistSensordGyroraw.data + bag s.threads.lost + bag s.destroyed =
        bag s.threads.polled := by
  unfold owned freed
  simp only [bag_append, ← add_assoc]

/-- What a step frees while it is queued joins `lost`. -/
theorem bag_lost_append (l m : List (Drop F)) :
    bag ((l ++ m).map fun d => d.freed.pData) =
      bag (l.map fun d => d.freed.pData) + bag (m.map fun d => d.freed.pData) := by
  rw [List.map_append, bag_append]

theorem map_pData_drop (name : ListName) (fs : List (Freed (HwDataUnion F))) :
    (fs.map (Drop.mk name)).map (fun d => d.freed.pData) = fs.map Freed.pData := by
  rw [List.map_map]
  rfl

variable [CFloat F] {s : SampleHeap F}

theorem known_pollStep {t : Pipeline F} (h : ∀ x ∈ t.upstream, Known x)
    (acc gyro : List SysfsReading) : ∀ x ∈ (t.pollStep acc gyro).upstream, Known x := by
  intro x hx
  have hx : x ∈ t.shmemHwcntl.data ∨ x ∈ (t.pollAcc acc).list.data ∨
      x ∈ (t.pollGyro acc gyro).list.data := by
    simpa [Pipeline.upstream, Pipeline.pollStep] using hx
  rcases hx with hshared | hacc | hgyro
  · exact h x (by simp [Pipeline.upstream, hshared])
  · rcases mem_apHwPoll acc _ _ hacc with hold | hnew
    · exact h x (by simp [Pipeline.upstream, hold])
    · obtain ⟨n, r, _, _, rfl⟩ := mem_apHwPoll_samples acc _ _ hnew
      exact Or.inl rfl
  · rcases mem_apHwPoll gyro _ _ hgyro with hold | hnew
    · exact h x (by simp [Pipeline.upstream, hold])
    · obtain ⟨n, r, _, _, rfl⟩ := mem_apHwPoll_samples gyro _ _ hnew
      exact Or.inr rfl

theorem conserved_pollStep (h : Conserved s) (acc gyro : List SysfsReading) :
    Conserved ⟨s.threads.pollStep acc gyro, s.destroyed⟩ := by
  have hacc : bag (s.threads.pollAcc acc).list.data +
      bag ((s.threads.pollAcc acc).freed.map Freed.pData) =
        bag s.threads.tmplistHwcntlAcclraw.data + bag (s.threads.pollAcc acc).samples :=
    bag_apHwPoll acc _ _
  have hgyro : bag (s.threads.pollGyro acc gyro).list.data +
      bag ((s.threads.pollGyro acc gyro).freed.map Freed.pData) =
        bag s.threads.tmplistHwcntlGyroraw.data + bag (s.threads.pollGyro acc gyro).samples :=
    bag_apHwPoll gyro _ _
  refine ⟨(balance_iff _).mpr ?_, known_pollStep h.known acc gyro, ?_⟩
  · have hbalance := (balance_iff s).mp h.balance
    show bag (s.threads.pollAcc acc).list.data + bag (s.threads.pollGyro acc gyro).list.data +
        bag s.threads.shmemHwcntl.data + bag s.threads.tmplistSensordAcclraw.data +
        bag s.threads.tmplistSensordGyroraw.data +
        bag ((s.threads.dropped ++ (s.threads.pollAcc acc).freed.map (Drop.mk .hwcntlAcclraw) ++
          (s.threads.pollGyro acc gyro).freed.map (Drop.mk .hwcntlGyroraw)).map
            fun d => d.freed.pData) + bag s.destroyed =
      bag (s.threads.polled ++ (s.threads.pollAcc acc).samples ++
        (s.threads.pollGyro acc gyro).samples)
    rw [bag_lost_append, bag_lost_append, map_pData_drop, map_pData_drop, bag_append, bag_append,
      ← hbalance]
    -- what one of the two lists has gained or let go is what was on it and the new samples
    calc _ = (bag (s.threads.pollAcc acc).list.data +
              bag ((s.threads.pollAcc acc).freed.map Freed.pData)) +
            (bag (s.threads.pollGyro acc gyro).list.data +
              bag ((s.threads.pollGyro acc gyro).freed.map Freed.pData)) +
            (bag s.threads.shmemHwcntl.data + bag s.threads.tmplistSensordAcclraw.data +
              bag s.threads.tmplistSensordGyroraw.data + bag s.threads.lost + bag s.destroyed) := by
            unfold Pipeline.lost
            abel
      _ = _ := by
            rw [hacc, hgyro]
            abel
  · show (s.threads.polled ++ (s.threads.pollAcc acc).samples ++
      (s.threads.pollGyro acc gyro).samples).map HwDataUnion.addr = List.range
        (s.threads.nextAddr + (s.threads.pollAcc acc).samples.length +
          (s.threads.pollGyro acc gyro).samples.length)
    -- the addresses go on from `nextAddr`, those of the accelerometer first
    have hfirst : (s.threads.pollAcc acc).samples.map HwDataUnion.addr =
        List.range' s.threads.nextAddr (s.threads.pollAcc acc).samples.length :=
      addr_apHwPoll (fun _ _ => rfl) acc _ _
    have hsecond : (s.threads.pollGyro acc gyro).samples.map HwDataUnion.addr =
        List.range' (s.threads.nextAddr + (s.threads.pollAcc acc).samples.length)
          (s.threads.pollGyro acc gyro).samples.length :=
      addr_apHwPoll (fun _ _ => rfl) gyro _ _
    rw [List.map_append, List.map_append, h.addr, hfirst, hsecond, List.range_add, List.range_add,
      List.range'_eq_map_range, List.range'_eq_map_range]

omit [CFloat F] in
theorem conserved_mountStep (h : Conserved s) : Conserved ⟨s.threads.mountStep, s.destroyed⟩ := by
  unfold Pipeline.mountStep
  split
  case isTrue => exact ⟨h.balance, h.known, h.addr⟩
  case isFalse =>
    have ha := bag_mountRear s.threads.shmemHwcntl s.threads.tmplistHwcntlAcclraw
    have hg := bag_mountRear (s.threads.shmemHwcntl.listMountRear
      s.threads.tmplistHwcntlAcclraw).list s.threads.tmplistHwcntlGyroraw
    refine ⟨(balance_iff _).mpr ?_, ?_, h.addr⟩
    · have hbalance := (balance_iff s).mp h.balance
      unfold Pipeline.lost at hbalance ⊢
      dsimp only
      rw [bag_lost_append, bag_lost_append, map_pData_drop, map_pData_drop, ← hbalance]
      -- the second mount is on the list the first one has made, so it is undone first
      calc _ = (bag ((s.threads.shmemHwcntl.listMountRear
                  s.threads.tmplistHwcntlAcclraw).list.listMountRear
                    s.threads.tmplistHwcntlGyroraw).list.data +
                bag ((s.threads.shmemHwcntl.listMountRear
                  s.threads.tmplistHwcntlAcclraw).list.listMountRear
                    s.threads.tmplistHwcntlGyroraw).mounted.data +
                bag (((s.threads.shmemHwcntl.listMountRear
                  s.threads.tmplistHwcntlAcclraw).list.listMountRear
                    s.threads.tmplistHwcntlGyroraw).freed.map Freed.pData)) +
              (bag (s.threads.shmemHwcntl.listMountRear
                  s.threads.tmplistHwcntlAcclraw).mounted.data +
                bag ((s.threads.shmemHwcntl.listMountRear
                  s.threads.tmplistHwcntlAcclraw).freed.map Freed.pData)) +
              (bag s.threads.tmplistSensordAcclraw.data +
                bag s.threads.tmplistSensordGyroraw.data +
                bag (s.threads.dropped.map fun d => d.freed.pData) + bag s.destroyed) := by abel
        _ = (bag (s.threads.shmemHwcntl.listMountRear s.threads.tmplistHwcntlAcclraw).list.data +
                bag (s.threads.shmemHwcntl.listMountRear
                  s.threads.tmplistHwcntlAcclraw).mounted.data +
                bag ((s.threads.shmemHwcntl.listMountRear
                  s.threads.tmplistHwcntlAcclraw).freed.map Freed.pData)) +
              (bag s.threads.tmplistHwcntlGyroraw.data + bag s.threads.tmplistSensordAcclraw.data +
                bag s.threads.tmplistSensordGyroraw.data +
                bag (s.threads.dropped.map fun d => d.freed.pData) + bag s.destroyed) := by
              rw [hg]
              abel
        _ = _ := by
              rw [ha]
              abel
    · -- the two hwcntl lists are empty now, and nothing new is on the shared one
      intro x hx
      apply h.known x
      have hx : x ∈ ((s.threads.shmemHwcntl.listMountRear
          s.threads.tmplistHwcntlAcclraw).list.listMountRear
            s.threads.tmplistHwcntlGyroraw).list.data := by
        simpa [Pipeline.upstream] using hx
      rcases BoschSimpleList.mem_listMountRear hx with hfirst | hgyro
      · rcases BoschSimpleList.mem_listMountRear hfirst with hshared | hacc
        · simp [Pipeline.upstream, hshared]
        · simp [Pipeline.upstream, hacc]
      · simp [Pipeline.upstream, hgyro]

omit [CFloat F] in
theorem conserved_drainStep (h : Conserved s) (failed : List Nat) :
    Conserved ⟨s.threads.drainStep failed, s.destroyed⟩ := by
  have hshared : ∀ x ∈ s.threads.shmemHwcntl.data, Known x :=
    fun x hx => h.known x (by simp [Pipeline.upstream, hx])
  have hdrain := bag_drainLoop failed s.threads.shmemHwcntl.data hshared 0
    ⟨s.threads.tmplistSensordAcclraw, s.threads.tmplistSensordGyroraw, [], []⟩
  dsimp only at hdrain
  rw [List.map_nil, bag_nil, add_zero, add_zero] at hdrain
  refine ⟨(balance_iff _).mpr ?_, fun x hx => h.known x ?_, h.addr⟩
  · have hbalance := (balance_iff s).mp h.balance
    unfold Pipeline.lost at hbalance ⊢
    unfold Pipeline.drainStep
    dsimp only
    rw [bag_lost_append, bag_lost_append, map_pData_drop, map_pData_drop, ← hbalance, bag_nil]
    generalize drainLoop failed 0 s.threads.shmemHwcntl.data
      ⟨s.threads.tmplistSensordAcclraw, s.threads.tmplistSensordGyroraw, [], []⟩ = d at hdrain ⊢
    calc _ = (bag d.acclraw.data + bag d.gyroraw.data + bag (d.freedAccl.map Freed.pData) +
              bag (d.freedGyro.map Freed.pData)) +
            (bag s.threads.tmplistHwcntlAcclraw.data + bag s.threads.tmplistHwcntlGyroraw.data +
              bag (s.threads.dropped.map fun d => d.freed.pData) + bag s.destroyed) := by abel
      _ = _ := by
            rw [hdrain]
            abel
  · have hx : x ∈ s.threads.tmplistHwcntlAcclraw.data ∨
        x ∈ s.threads.tmplistHwcntlGyroraw.data := by
      simpa [Pipeline.upstream, Pipeline.drainStep] using hx
    rcases hx with hacc | hgyro
    · simp [Pipeline.upstream, hacc]
    · simp [Pipeline.upstream, hgyro]

theorem conserved_processStep (h : Conserved s) {m : ProcessAlloc} {t : Pipeline F}
    (hstep : s.threads.processStep m = some t) :
    Conserved ⟨t, s.destroyed ++ s.destroyedBy (.process m)⟩ := by
  obtain ⟨r, hr, rfl⟩ := Option.map_eq_some_iff.mp hstep
  have hprocess := bag_sensordAlgoProcess hr
  refine ⟨(balance_iff _).mpr ?_, h.known, h.addr⟩
  have hbalance := (balance_iff s).mp h.balance
  show bag s.threads.tmplistHwcntlAcclraw.data + bag s.threads.tmplistHwcntlGyroraw.data +
      bag s.threads.shmemHwcntl.data + bag r.acclraw.data + bag r.gyroraw.data +
      bag s.threads.lost + bag (s.destroyed ++ distoryHwdata m s.threads.tmplistSensordAcclraw
        s.threads.tmplistSensordGyroraw) = bag s.threads.polled
  rw [bag_append, ← hbalance]
  calc _ = (bag r.acclraw.data + bag r.gyroraw.data + bag (distoryHwdata m
              s.threads.tmplistSensordAcclraw s.threads.tmplistSensordGyroraw)) +
          (bag s.threads.tmplistHwcntlAcclraw.data + bag s.threads.tmplistHwcntlGyroraw.data +
            bag s.threads.shmemHwcntl.data + bag s.threads.lost + bag s.destroyed) := by abel
    _ = _ := by
          rw [hprocess]
          abel

omit [CFloat F] in
theorem Conserved.destroyNothing {t : Pipeline F} (h : Conserved ⟨t, s.destroyed⟩) :
    Conserved ⟨t, s.destroyed ++ []⟩ := by
  rwa [List.append_nil]

theorem conserved_step {t : SampleHeap F} {a : Act} (h : Conserved s) (hstep : s.step a = some t) :
    Conserved t := by
  obtain ⟨u, hu, rfl⟩ := Option.map_eq_some_iff.mp hstep
  cases Pipeline.step_cases hu with
  | polled => exact (conserved_pollStep h _ _).destroyNothing
  | mounted => exact (conserved_mountStep h).destroyNothing
  | nothingShared => exact Conserved.destroyNothing ⟨h.balance, h.known, h.addr⟩
  | drained => exact (conserved_drainStep h _).destroyNothing
  | waitFailed => exact Conserved.destroyNothing ⟨h.balance, h.known, h.addr⟩
  | woken => exact (conserved_drainStep h _).destroyNothing
  | processed _ hprocess => exact conserved_processStep h hprocess

theorem conserved_of_reach (h : (sampleHeap F).Reach s) : Conserved s := by
  refine Machine.Reach.invariant (P := Conserved) ?_ (fun _ _ _ => conserved_step) h
  rintro s rfl
  exact ⟨rfl, by simp [Pipeline.upstream, Pipeline.init], rfl⟩

end SampleHeap

/-! ## The result -/

/-- `sensord_algo_process` ends inside its arrays, whatever fails. -/
theorem sensordAlgoProcess_isSome [CFloat F] (m : ProcessAlloc)
    (acclraw gyroraw : BoschSimpleList (HwDataUnion F)) :
    (sensordAlgoProcess m acclraw gyroraw).isSome := by
  unfold sensordAlgoProcess sensordAlgoProcessWith
  split
  case isTrue => rfl
  case isFalse hne =>
    split
    case isTrue => rfl
    case isFalse =>
      dsimp only
      split
      case isTrue => rfl
      case isFalse =>
        -- without the indication array there is nothing to align, and nothing is delivered
        rcases hind : m.alignInd with _ | _
        · have hsort : sortInputSamples false acclraw.data gyroraw.data = some (none, 0) :=
            (if_neg hne).trans (if_pos rfl)
          rw [hsort]
          rfl
        · obtain ⟨ind, hsort, htake⟩ := sortInputSamples_eq hne
          rw [hsort, Option.bind_some]
          dsimp only
          rw [htake, replay_eq acclraw.data gyroraw.data acclraw.data gyroraw.data 0 0
            (List.drop_zero ..) (List.drop_zero ..)]
          rfl

/-- In every run of the two threads, with any readings, clocks, full lists and failing allocations:

* each sample that was allocated is on exactly one of the five lists or has been freed exactly once,
  by a list that dropped or refused it or by `distory_hwdata`;
* no address occurs twice among these, so nothing that is queued has been freed;
* `sensord_algo_process` is never stuck. -/
theorem samples_freed_once [CFloat F] {s : SampleHeap F} (h : (sampleHeap F).Reach s) :
    (s.owned ++ s.freed).Perm s.threads.polled ∧
    ((s.owned ++ s.freed).map HwDataUnion.addr).Nodup ∧
    (s.threads.sensord = .process → ∀ m, (s.step (.process m)).isSome) := by
  have hconserved := SampleHeap.conserved_of_reach h
  have hperm : (s.owned ++ s.freed).Perm s.threads.polled :=
    bag_eq.mp ((bag_append _ _).trans hconserved.balance)
  refine ⟨hperm, ?_, fun hpc m => ?_⟩
  · rw [(hperm.map _).nodup_iff, hconserved.addr]
    exact List.nodup_range
  · have hsome := sensordAlgoProcess_isSome m s.threads.tmplistSensordAcclraw
      s.threads.tmplistSensordGyroraw
    have hstep : s.threads.step (.process m) = s.threads.processStep m := if_pos hpc
    unfold SampleHeap.step
    rw [hstep]
    unfold Pipeline.processStep
    rw [Option.isSome_map, Option.isSome_map]
    exact hsome

/-- Three samples are made, one without a list node; the array for the gyroscope cannot be allocated,
so the accelerometer sample is destroyed and the gyroscope sample stays queued. -/
theorem samples_freed_once_array_fails : ∃ s : SampleHeap ℚ,
    (sampleHeap ℚ).run ⟨.init, []⟩
        [.poll [⟨1, 2, 3, 0, 5, true, true⟩, ⟨1, 2, 3, 0, 6, true, false⟩]
          [⟨4, 5, 6, 0, 6, true, true⟩], .mount, .read [], .process ⟨true, false, true, []⟩] =
      some s ∧
      s.owned.map HwDataUnion.addr = [2] ∧ s.freed.map HwDataUnion.addr = [1, 0] ∧
      ((s.owned ++ s.freed).map HwDataUnion.addr).Nodup := by
  have hstart : (sampleHeap ℚ).Reach ⟨.init, []⟩ := .start rfl
  have hrun : (sampleHeap ℚ).run ⟨.init, []⟩
      [.poll [⟨1, 2, 3, 0, 5, true, true⟩, ⟨1, 2, 3, 0, 6, true, false⟩]
        [⟨4, 5, 6, 0, 6, true, true⟩], .mount, .read [], .process ⟨true, false, true, []⟩] =
      some _ := rfl
  exact ⟨_, hrun, rfl, rfl, (samples_freed_once (hstart.of_run hrun)).2.1⟩

end Smi240Hal.Legacy
