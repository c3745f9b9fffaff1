/-
# Smi240Hal.Legacy.Pipeline — the producer and the consumer thread of the legacy HAL

`hwcntl_main` calls `IMU_hw_deliver_sensordata` for ever: it polls both sysfs nodes into its own two
lists, then mounts them onto the shared list under `shmem_hwcntl.mutex`.  `sensord_main` calls
`sensord_read_rawdata`, which drains the shared list into the two sensord-side lists under the same
mutex (waiting for the condition variable when it is empty), and then `sensord_algo_process`.

The polling loops and `sensord_algo_process` touch lists of their own thread only, so a schedule of
the two threads is a list of `Act`s: each critical section is one action, and so is what a thread
does between two of them.  Three logs of the state are not in the code: `polled` and `dropped` say
which samples were made and which were given to `free` while they were queued, and `clock` is the
last time stamp read.
-/
import Smi240Hal.Lib.Accounting
import Smi240Hal.Lib.Machine
import Smi240Hal.Legacy.SensordAlgo

namespace Smi240Hal.Legacy

open Smi240Hal.Lib

variable {F : Type} [CFloat F]

/-! ## Polling -/

/-- The outcome of a polling loop: the list, the samples made and what was given to `free`. -/
structure PollResult (F : Type) where
  list : BoschSimpleList (HwDataUnion F)
  samples : List (HwDataUnion F)
  freed : List (Freed (HwDataUnion F))

/-- The loop of `ap_hw_poll_smi240acc` and `ap_hw_poll_smi240gyro`, one pass for each reading the
node yields; `hwData` fills in the sample. -/
def apHwPoll (hwData : Nat → SysfsReading → HwDataUnion F) :
    Nat → List SysfsReading → BoschSimpleList (HwDataUnion F) → PollResult F
  | _, [], l => ⟨l, [], []⟩
  | addr, r :: rs, l =>
      if r.calloc = false then apHwPoll hwData addr rs l
      else
        let pHwdata := hwData addr r
        let added := l.listAddRear pHwdata r.nod
        -- on -1 the sample itself is freed
        let refused := if added.ret = -1 then [⟨l.listLen, pHwdata⟩] else []
        let rest := apHwPoll hwData (addr + 1) rs added.list
        ⟨rest.list, pHwdata :: rest.samples, added.freed ++ refused ++ rest.freed⟩

/-- The poll of the accelerometer. -/
def apHwPollSmi240acc (addr : Nat) (rs : List SysfsReading)
    (l : BoschSimpleList (HwDataUnion F)) : PollResult F := apHwPoll accHwData addr rs l

/-- The poll of the gyroscope, which differs in the sample it makes. -/
def apHwPollSmi240gyro (addr : Nat) (rs : List SysfsReading)
    (l : BoschSimpleList (HwDataUnion F)) : PollResult F := apHwPoll gyroHwData addr rs l

omit [CFloat F] in
/-- A polling loop puts its own samples on the list, each made from a reading. -/
theorem mem_apHwPoll {hwData : Nat → SysfsReading → HwDataUnion F} {x : HwDataUnion F}
    (rs : List SysfsReading) : ∀ (addr : Nat) (l : BoschSimpleList (HwDataUnion F)),
    x ∈ (apHwPoll hwData addr rs l).list.data →
      x ∈ l.data ∨ x ∈ (apHwPoll hwData addr rs l).samples := by
  induction rs with
  | nil => exact fun _ _ h => Or.inl h
  | cons r rs ih =>
      intro addr l h
      unfold apHwPoll at h ⊢
      split at h
      case isTrue hfail =>
        rw [if_pos hfail]
        exact ih addr l h
      case isFalse hok =>
        rw [if_neg hok]
        rcases ih _ _ h with h | h
        · rcases BoschSimpleList.mem_listAddRear h with h | rfl
          · exact Or.inl h
          · exact Or.inr (by simp)
        · exact Or.inr (List.mem_cons_of_mem _ h)

omit [CFloat F] in
theorem mem_apHwPoll_samples {hwData : Nat → SysfsReading → HwDataUnion F} {x : HwDataUnion F}
    (rs : List SysfsReading) : ∀ (addr : Nat) (l : BoschSimpleList (HwDataUnion F)),
    x ∈ (apHwPoll hwData addr rs l).samples → ∃ n, ∃ r ∈ rs, r.calloc = true ∧ x = hwData n r := by
  induction rs with
  | nil => exact fun _ _ h => absurd h List.not_mem_nil
  | cons r rs ih =>
      intro addr l h
      unfold apHwPoll at h
      split at h
      case isTrue hfail =>
        obtain ⟨n, q, hq, hok, rfl⟩ := ih addr l h
        exact ⟨n, q, List.mem_cons_of_mem _ hq, hok, rfl⟩
      case isFalse hok =>
        rcases List.mem_cons.mp h with rfl | h
        · exact ⟨addr, r, by simp, by simpa using hok, rfl⟩
        · obtain ⟨n, q, hq, hok, rfl⟩ := ih _ _ h
          exact ⟨n, q, List.mem_cons_of_mem _ hq, hok, rfl⟩

/-! ## Draining -/

/-- The two sensord-side lists while the shared list is drained into them. -/
structure Drain (F : Type) where
  acclraw : BoschSimpleList (HwDataUnion F)
  gyroraw : BoschSimpleList (HwDataUnion F)
  freedAccl : List (Freed (HwDataUnion F))
  freedGyro : List (Freed (HwDataUnion F))

/-- The drain loop of `sensord_read_rawdata`; `failed` are the numbers of the passes whose node
allocation fails.  A sample of any other id is taken off the list and forgotten. -/
def drainLoop (failed : List Nat) : Nat → List (HwDataUnion F) → Drain F → Drain F
  | _, [], d => d
  | k, pHwdata :: rest, d =>
      let nod := !failed.contains k
      if pHwdata.id = SENSOR_TYPE_ACCELEROMETER then
        let added := d.acclraw.listAddRear pHwdata nod
        let refused := if added.ret = -1 then [⟨d.acclraw.listLen, pHwdata⟩] else []
        drainLoop failed (k + 1) rest
          { d with acclraw := added.list, freedAccl := d.freedAccl ++ added.freed ++ refused }
      else if pHwdata.id = SENSOR_TYPE_GYROSCOPE_UNCALIBRATED then
        let added := d.gyroraw.listAddRear pHwdata nod
        let refused := if added.ret = -1 then [⟨d.gyroraw.listLen, pHwdata⟩] else []
        drainLoop failed (k + 1) rest
          { d with gyroraw := added.list, freedGyro := d.freedGyro ++ added.freed ++ refused }
      else drainLoop failed (k + 1) rest d

/-! ## The machine -/

/-- The five lists samples go through. -/
inductive ListName
  | hwcntlAcclraw
  | hwcntlGyroraw
  | shmemHwcntl
  | sensordAcclraw
  | sensordGyroraw
deriving DecidableEq, Repr

/-- A sample given to `free` while it was queued, and the list it was queued on. -/
structure Drop (F : Type) where
  list : ListName
  freed : Freed (HwDataUnion F)
deriving DecidableEq

/-- Where `hwcntl_main` stands: before polling, or before its critical section. -/
inductive HwcntlPc
  | poll
  | mount
deriving DecidableEq, Repr

/-- Where `sensord_main` stands: before locking, waiting for the condition variable, or before
`sensord_algo_process`. -/
inductive SensordPc
  | read
  | wait
  | process
deriving DecidableEq, Repr

/-- The fields of `BoschSensor` the two threads use, what has been written to the HAL pipe, the two
program counters, the number of the next allocation, and the three logs. -/
structure Pipeline (F : Type) where
  tmplistHwcntlAcclraw : BoschSimpleList (HwDataUnion F)
  tmplistHwcntlGyroraw : BoschSimpleList (HwDataUnion F)
  shmemHwcntl : BoschSimpleList (HwDataUnion F)
  tmplistSensordAcclraw : BoschSimpleList (HwDataUnion F)
  tmplistSensordGyroraw : BoschSimpleList (HwDataUnion F)
  halPipe : List (SensorsEvent F)
  hwcntl : HwcntlPc
  sensord : SensordPc
  nextAddr : Nat
  clock : Int
  polled : List (HwDataUnion F)
  dropped : List (Drop F)

/-- One atomic stretch of one of the two threads, with what its environment answers. -/
inductive Act
  | poll (acc gyro : List SysfsReading)
  | mount
  | read (failed : List Nat)
  | wake (ret : Int) (failed : List Nat)
  | process (m : ProcessAlloc)
deriving DecidableEq

namespace Pipeline

/-- The lists as the constructor of `BoschSensor` makes them. -/
def init : Pipeline F where
  tmplistHwcntlAcclraw := .new
  tmplistHwcntlGyroraw := .new
  shmemHwcntl := .new
  tmplistSensordAcclraw := .new
  tmplistSensordGyroraw := .new
  halPipe := []
  hwcntl := .poll
  sensord := .read
  nextAddr := 0
  clock := 0
  polled := []
  dropped := []

/-- The first half of a poll; the gyroscope is read after it. -/
def pollAcc (s : Pipeline F) (acc : List SysfsReading) : PollResult F :=
  apHwPollSmi240acc s.nextAddr acc s.tmplistHwcntlAcclraw

/-- The gyroscope is polled after the accelerometer. -/
def pollGyro (s : Pipeline F) (acc gyro : List SysfsReading) : PollResult F :=
  apHwPollSmi240gyro (s.nextAddr + (s.pollAcc acc).samples.length) gyro s.tmplistHwcntlGyroraw

/-- The first half of `IMU_hw_deliver_sensordata`. -/
def pollStep (s : Pipeline F) (acc gyro : List SysfsReading) : Pipeline F :=
  let a := s.pollAcc acc
  let g := s.pollGyro acc gyro
  { s with
    tmplistHwcntlAcclraw := a.list
    tmplistHwcntlGyroraw := g.list
    hwcntl := .mount
    nextAddr := s.nextAddr + a.samples.length + g.samples.length
    clock := ((acc ++ gyro).getLast?.map SysfsReading.timestamp).getD s.clock
    polled := s.polled ++ a.samples ++ g.samples
    dropped := s.dropped ++ a.freed.map (Drop.mk .hwcntlAcclraw) ++
      g.freed.map (Drop.mk .hwcntlGyroraw) }

/-- The critical section of `IMU_hw_deliver_sensordata`. -/
def mountStep (s : Pipeline F) : Pipeline F :=
  if s.tmplistHwcntlAcclraw.listLen + s.tmplistHwcntlGyroraw.listLen = 0 then
    { s with hwcntl := .poll }
  else
    let a := s.shmemHwcntl.listMountRear s.tmplistHwcntlAcclraw
    let g := a.list.listMountRear s.tmplistHwcntlGyroraw
    { s with
      tmplistHwcntlAcclraw := a.mounted
      tmplistHwcntlGyroraw := g.mounted
      shmemHwcntl := g.list
      hwcntl := .poll
      dropped := s.dropped ++ a.freed.map (Drop.mk .shmemHwcntl) ++
        g.freed.map (Drop.mk .shmemHwcntl) }

/-- The drain loop and the unlock of `sensord_read_rawdata`. -/
def drainStep (s : Pipeline F) (failed : List Nat) : Pipeline F :=
  let d := drainLoop failed 0 s.shmemHwcntl.data
    ⟨s.tmplistSensordAcclraw, s.tmplistSensordGyroraw, [], []⟩
  { s with
    shmemHwcntl := { s.shmemHwcntl with data := [] }
    tmplistSensordAcclraw := d.acclraw
    tmplistSensordGyroraw := d.gyroraw
    sensord := .process
    dropped := s.dropped ++ d.freedAccl.map (Drop.mk .sensordAcclraw) ++
      d.freedGyro.map (Drop.mk .sensordGyroraw) }

/-- `sensord_algo_process`, writing to the HAL pipe. -/
def processStep (s : Pipeline F) (m : ProcessAlloc) : Option (Pipeline F) :=
  (sensordAlgoProcess m s.tmplistSensordAcclraw s.tmplistSensordGyroraw).map fun r =>
    { s with
      tmplistSensordAcclraw := r.acclraw
      tmplistSensordGyroraw := r.gyroraw
      halPipe := s.halPipe ++ r.events
      sensord := .read }

/-- A stretch of a thread is taken only where that thread stands before it. -/
def step (s : Pipeline F) : Act → Option (Pipeline F)
  | .poll acc gyro => if s.hwcntl = .poll then some (s.pollStep acc gyro) else none
  | .mount => if s.hwcntl = .mount then some s.mountStep else none
  | .read failed =>
      if s.sensord = .read then
        if s.shmemHwcntl.listLen = 0 then some { s with sensord := .wait }
        else some (s.drainStep failed)
      else none
  | .wake ret failed =>
      if s.sensord = .wait then
        -- a wait that fails returns without draining
        if ret ≠ 0 then some { s with sensord := .process } else some (s.drainStep failed)
      else none
  | .process m => if s.sensord = .process then s.processStep m else none

/-- When an action is enabled, and what it leads to. -/
inductive Step (s : Pipeline F) : Act → Pipeline F → Prop
  | polled {acc gyro : List SysfsReading} (hpc : s.hwcntl = .poll) :
      Step s (.poll acc gyro) (s.pollStep acc gyro)
  | mounted (hpc : s.hwcntl = .mount) : Step s .mount s.mountStep
  | nothingShared {failed : List Nat} (hpc : s.sensord = .read)
      (hempty : s.shmemHwcntl.listLen = 0) :
      Step s (.read failed) { s with sensord := .wait }
  | drained {failed : List Nat} (hpc : s.sensord = .read) (hshared : s.shmemHwcntl.listLen ≠ 0) :
      Step s (.read failed) (s.drainStep failed)
  | waitFailed {ret : Int} {failed : List Nat} (hpc : s.sensord = .wait) (hret : ret ≠ 0) :
      Step s (.wake ret failed) { s with sensord := .process }
  | woken {ret : Int} {failed : List Nat} (hpc : s.sensord = .wait) (hret : ret = 0) :
      Step s (.wake ret failed) (s.drainStep failed)
  | processed {m : ProcessAlloc} {t : Pipeline F} (hpc : s.sensord = .process)
      (h : s.processStep m = some t) : Step s (.process m) t

theorem step_cases {s t : Pipeline F} {a : Act} (h : s.step a = some t) : Step s a t := by
  cases a with
  | poll acc gyro =>
      simp only [step] at h
      split at h
      case isTrue hpc =>
        cases h
        exact .polled hpc
      case isFalse => cases h
  | mount =>
      simp only [step] at h
      split at h
      case isTrue hpc =>
        cases h
        exact .mounted hpc
      case isFalse => cases h
  | read failed =>
      simp only [step] at h
      split at h
      case isTrue hpc =>
        split at h
        case isTrue hempty =>
          cases h
          exact .nothingShared hpc hempty
        case isFalse hshared =>
          cases h
          exact .drained hpc hshared
      case isFalse => cases h
  | wake ret failed =>
      simp only [step] at h
      split at h
      case isTrue hpc =>
        split at h
        case isTrue hret =>
          cases h
          exact .waitFailed hpc hret
        case isFalse hret =>
          cases h
          exact .woken hpc (not_not.mp hret)
      case isFalse => cases h
  | process m =>
      simp only [step] at h
      split at h
      case isTrue hpc => exact .processed hpc h
      case isFalse => cases h

end Pipeline

/-- The two threads of the legacy HAL. -/
def pipeline (F : Type) [CFloat F] : Machine (Pipeline F) Act where
  Start s := s = Pipeline.init
  step := Pipeline.step

/-- The readings of one poll: every allocation succeeds and the clock never goes back. -/
structure PollOk (clock : Int) (rs : List SysfsReading) : Prop where
  alloc : ∀ r ∈ rs, r.AllocOk
  positive : ∀ r ∈ rs, 0 < r.timestamp
  monotone : (clock :: rs.map SysfsReading.timestamp).Pairwise (· ≤ ·)

/-- The environment the pipeline is written for: allocations and pipe writes succeed, and the clock
is positive and never goes back. -/
def EnvOk (s : Pipeline F) : Act → Prop
  | .poll acc gyro => PollOk s.clock (acc ++ gyro)
  | .mount => True
  | .read failed => failed = []
  | .wake _ failed => failed = []
  | .process m => m = .ok

end Smi240Hal.Legacy
