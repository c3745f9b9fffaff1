/-
# Smi240Hal.Legacy.EventPipe — from the samples to the framework, through the HAL pipe

All events of the legacy HAL go through one pipe.  `sensord_algo_process` writes those it has made
one after another (`sensord_deliver_event`), the callers of `flush` write theirs in between
(`send_flush_event`), and the framework takes what there is with one call of `pollEvents` after
another.

`eventPipe` is all of this together: the two threads of `pipeline`, the flushes, and the calls of
`pollEvents`, pass by pass.  The activation and the rates of the sensors are not part of it, as
nothing on the way of an event reads them.  In `Pipeline` the events of a `sensord_algo_process` are
on the pipe at once; here they wait in `outbox` until each has been written.

Five fields are not in the code: what was written, which flushes among it, what the calls of
`pollEvents` that have ended took out of the pipe, what of it they returned, and what was in the
buffer of a call that failed.
-/
import Smi240Hal.Legacy.HwcntlSteps
import Smi240Hal.Legacy.PipelineOrder
import Smi240Hal.Legacy.PollEvents

namespace Smi240Hal.Legacy

open Smi240Hal.Lib

variable {F : Type}

/-! ## Flushes -/

/-- `sensors_event_t`: a data event, or META_DATA_FLUSH_COMPLETE of a sensor. -/
inductive PipeEvent (F : Type)
  | data (e : SensorsEvent F)
  | flushComplete (sensor : Int)
deriving DecidableEq

/-- The data event, if it is one. -/
def PipeEvent.data? : PipeEvent F → Option (SensorsEvent F)
  | .data e => some e
  | .flushComplete _ => none

/-- The sensor whose flush is complete, if it is one of those. -/
def PipeEvent.flushComplete? : PipeEvent F → Option Int
  | .data _ => none
  | .flushComplete sensor => some sensor

/-- `send_flush_event`: the event that reaches the pipe. -/
def sendFlushEvent (sensorId : Int) (calloc write : Bool) : Option (PipeEvent F) :=
  if calloc = false then none
  else if write then some (.flushComplete sensorId)
  else none

/-- `ap_flush`; what `send_flush_event` returns is not looked at. -/
def apFlush (handle : Int) (calloc write : Bool) : Int × Option (PipeEvent F) :=
  match getSensorT handle with
  | none => (-HwConfig.EINVAL, none)
  | some (pSensor, _) =>
      if pSensor.reportingMode = SENSOR_FLAG_ONE_SHOT_MODE then (-HwConfig.EINVAL, none)
      else (0, sendFlushEvent handle calloc write)

/-- Only a flush of one of the two sensors writes an event, and its own. -/
theorem apFlush_event {handle : Int} {calloc write : Bool} {e : PipeEvent F}
    (h : (apFlush handle calloc write).2 = some e) : e = .flushComplete handle ∧
      (handle = BSX_SENSOR_ID_ACCELEROMETER ∨ handle = BSX_SENSOR_ID_GYROSCOPE_UNCALIBRATED) := by
  unfold apFlush at h
  split at h
  case h_1 => cases h
  case h_2 p i hget =>
    obtain ⟨_, _, hexposed, _⟩ := getSensorT_spec hget
    split at h
    case isTrue => cases h
    case isFalse =>
      unfold sendFlushEvent at h
      split at h
      · cases h
      · split at h
        · cases h
          exact ⟨rfl, hexposed⟩
        · cases h

/-! ## The reader of the pipe -/

/-- The framework's thread: between two calls of `pollEvents`, or in one. -/
inductive Poller (E : Type)
  | idle (HALpipe : List E)
  | polling (c : PollEventsCall E)

namespace Poller

variable {E : Type}

def HALpipe : Poller E → List E
  | idle HALpipe => HALpipe
  | polling c => c.HALpipe

/-- An event comes into the pipe, also while a call reads from it. -/
def write : Poller E → E → Poller E
  | idle HALpipe, e => idle (HALpipe ++ [e])
  | polling c, e => polling (c.write e)

/-- What a call that is under way has taken out of the pipe so far. -/
def taken : Poller E → List E
  | idle _ => []
  | polling c => c.memory.take c.nbEvents

/-- What was in the pipe when the call began, or has come since. -/
def entered : Poller E → List E
  | idle HALpipe => HALpipe
  | polling c => c.entered

/-- A call that is under way has delivered what it took, to a buffer with room for `count` events. -/
def Ok : Poller E → Prop
  | idle _ => True
  | polling c => ∃ memory count, count ≤ memory.length ∧ c.Delivered memory count

theorem taken_append_HALpipe {p : Poller E} (h : p.Ok) : p.taken ++ p.HALpipe = p.entered := by
  rcases p with HALpipe | c
  · rfl
  · obtain ⟨memory, count, hmem, hc⟩ := h
    show c.memory.take c.nbEvents ++ c.HALpipe = c.entered
    have hlen : (c.entered.take c.nbEvents).length = c.nbEvents := List.length_take_of_le hc.read
    rw [hc.memory, hc.pipe, List.take_left' hlen, List.take_append_drop]

theorem entered_write (p : Poller E) (e : E) : (p.write e).entered = p.entered ++ [e] := by
  cases p <;> rfl

theorem Ok.write {p : Poller E} (h : p.Ok) (e : E) : (p.write e).Ok := by
  rcases p with HALpipe | c
  · trivial
  · obtain ⟨memory, count, hmem, hc⟩ := h
    exact ⟨memory, count, hmem, hc.write e⟩

end Poller

/-! ## The machine -/

/-- The HAL, its pipe, and the framework at the other end. -/
structure EventPipe (F : Type) where
  threads : Pipeline F
  /-- The events of the running `sensord_algo_process` that have yet to be written. -/
  outbox : List (SensorsEvent F)
  poller : Poller (PipeEvent F)
  written : List (PipeEvent F)
  flushed : List Int
  read : List (PipeEvent F)
  got : List (PipeEvent F)
  lost : List (PipeEvent F)

/-- A step of one of the parties. -/
inductive EventPipeAct (F : Type)
  | thread (a : Act)
  /-- `sensord_deliver_event` of the next event. -/
  | deliver
  | flush (handle : Int) (calloc write : Bool)
  /-- A call of `pollEvents` begins. -/
  | pollEvents (memory : List (PipeEvent F)) (count : Nat)
  | poll (a : PollAct (PipeEvent F))
  /-- The call returns. -/
  | pollDone

/-- The stretches of `sensord_main`. -/
def Act.ofSensord : Act → Bool
  | .read _ | .wake _ _ | .process _ => true
  | .poll _ _ | .mount => false

namespace EventPipe

/-- Nothing polled, written or read. -/
def init : EventPipe F where
  threads := .init
  outbox := []
  poller := .idle []
  written := []
  flushed := []
  read := []
  got := []
  lost := []

/-- A `write` to the pipe. -/
def write (s : EventPipe F) (e : PipeEvent F) : EventPipe F :=
  { s with poller := s.poller.write e, written := s.written ++ [e] }

/-- `sensord_deliver_event` of the oldest event that waits. -/
def deliver (s : EventPipe F) : Option (EventPipe F) :=
  match s.outbox with
  | [] => none
  | e :: rest => some { s.write (.data e) with outbox := rest }

/-- A call of `flush`: it writes at once, beside the thread that delivers. -/
def flush (s : EventPipe F) (handle : Int) (calloc write : Bool) : EventPipe F :=
  match (apFlush handle calloc write).2 with
  | none => s
  | some e => { s.write e with flushed := s.flushed ++ [handle] }

/-- A call begins, with a buffer of at least `count` events. -/
def pollEvents (s : EventPipe F) (memory : List (PipeEvent F)) (count : Nat) :
    Option (EventPipe F) :=
  match s.poller with
  | .idle HALpipe =>
      if 0 < count ∧ count ≤ memory.length then
        some { s with poller := .polling (.call HALpipe memory count) }
      else none
  | .polling _ => none

/-- A step of the call, other than an event that comes in: those come from the HAL. -/
def poll (s : EventPipe F) (a : PollAct (PipeEvent F)) : Option (EventPipe F) :=
  match s.poller with
  | .idle _ => none
  | .polling c =>
      if a.written.isNone then (c.step a).map fun d => { s with poller := .polling d } else none

/-- A call that fails returns none of what it has read. -/
def pollDone (s : EventPipe F) : Option (EventPipe F) :=
  match s.poller with
  | .idle _ => none
  | .polling c =>
      match c.pc with
      | .returned nbEvents =>
          some { s with
            poller := .idle c.HALpipe
            read := s.read ++ c.memory.take nbEvents
            got := s.got ++ c.memory.take nbEvents }
      | .failed _ =>
          some { s with
            poller := .idle c.HALpipe
            read := s.read ++ c.memory.take c.nbEvents
            lost := s.lost ++ c.memory.take c.nbEvents }
      | .body | .poll => none

section Threads

variable [CFloat F]

/-- The events a stretch makes. -/
def madeBy (s : EventPipe F) : Act → List (SensorsEvent F)
  | .process m =>
      ((sensordAlgoProcess m s.threads.tmplistSensordAcclraw s.threads.tmplistSensordGyroraw).map
        ProcessResult.events).getD []
  | _ => []

/-- `sensord_main` goes on only when all events of its last `sensord_algo_process` are written. -/
def thread (s : EventPipe F) (a : Act) : Option (EventPipe F) :=
  if a.ofSensord && !s.outbox.isEmpty then none
  else (s.threads.step a).map fun t => { s with threads := t, outbox := s.outbox ++ s.madeBy a }

/-- Each party goes on where it stands. -/
def step (s : EventPipe F) : EventPipeAct F → Option (EventPipe F)
  | .thread a => s.thread a
  | .deliver => s.deliver
  | .flush handle calloc write => some (s.flush handle calloc write)
  | .pollEvents memory count => s.pollEvents memory count
  | .poll a => s.poll a
  | .pollDone => s.pollDone

/-- When an action is enabled, and what it leads to. -/
inductive Step (s : EventPipe F) : EventPipeAct F → EventPipe F → Prop
  | thread {a : Act} {u : Pipeline F} (hwritten : ¬ (a.ofSensord && !s.outbox.isEmpty) = true)
      (hstep : s.threads.step a = some u) :
      Step s (.thread a) { s with threads := u, outbox := s.outbox ++ s.madeBy a }
  | deliver {e : SensorsEvent F} {rest : List (SensorsEvent F)} (houtbox : s.outbox = e :: rest) :
      Step s .deliver { s.write (.data e) with outbox := rest }
  | noFlush {handle : Int} {calloc write : Bool}
      (hnone : (apFlush handle calloc write : Int × Option (PipeEvent F)).2 = none) :
      Step s (.flush handle calloc write) s
  | flush {handle : Int} {calloc write : Bool} {e : PipeEvent F}
      (hevent : (apFlush handle calloc write).2 = some e) :
      Step s (.flush handle calloc write) { s.write e with flushed := s.flushed ++ [handle] }
  | pollEvents {HALpipe memory : List (PipeEvent F)} {count : Nat} (hidle : s.poller = .idle HALpipe)
      (hcount : 0 < count ∧ count ≤ memory.length) :
      Step s (.pollEvents memory count) { s with poller := .polling (.call HALpipe memory count) }
  | poll {c d : PollEventsCall (PipeEvent F)} {a : PollAct (PipeEvent F)}
      (hpolling : s.poller = .polling c) (hnone : a.written = none) (hstep : c.step a = some d) :
      Step s (.poll a) { s with poller := .polling d }
  | returned {c : PollEventsCall (PipeEvent F)} {nbEvents : Nat} (hpolling : s.poller = .polling c)
      (hpc : c.pc = .returned nbEvents) :
      Step s .pollDone { s with
        poller := .idle c.HALpipe
        read := s.read ++ c.memory.take nbEvents
        got := s.got ++ c.memory.take nbEvents }
  | failed {c : PollEventsCall (PipeEvent F)} {errno : Nat} (hpolling : s.poller = .polling c)
      (hpc : c.pc = .failed errno) :
      Step s .pollDone { s with
        poller := .idle c.HALpipe
        read := s.read ++ c.memory.take c.nbEvents
        lost := s.lost ++ c.memory.take c.nbEvents }

theorem step_cases {s t : EventPipe F} {a : EventPipeAct F} (h : s.step a = some t) :
    s.Step a t := by
  cases a with
  | thread a =>
      obtain ⟨hwritten, h⟩ := Option.ite_none_left_eq_some.mp h
      obtain ⟨u, hu, rfl⟩ := Option.map_eq_some_iff.mp h
      exact .thread hwritten hu
  | deliver =>
      simp only [step, deliver] at h
      split at h
      case h_1 => cases h
      case h_2 e rest houtbox =>
        cases h
        exact .deliver houtbox
  | flush handle calloc write =>
      cases h
      unfold flush
      split
      case h_1 hnone => exact .noFlush hnone
      case h_2 e hevent => exact .flush hevent
  | pollEvents memory count =>
      simp only [step, pollEvents] at h
      split at h
      case h_2 => cases h
      case h_1 HALpipe hidle =>
        obtain ⟨hcount, h⟩ := Option.ite_none_right_eq_some.mp h
        cases h
        exact .pollEvents hidle hcount
  | poll a =>
      simp only [step, poll] at h
      split at h
      case h_1 => cases h
      case h_2 c hpolling =>
        obtain ⟨hnone, h⟩ := Option.ite_none_right_eq_some.mp h
        obtain ⟨d, hd, rfl⟩ := Option.map_eq_some_iff.mp h
        exact .poll hpolling (Option.isNone_iff_eq_none.mp hnone) hd
  | pollDone =>
      simp only [step, pollDone] at h
      split at h
      case h_1 => cases h
      case h_2 c hpolling =>
        split at h
        case h_1 nbEvents hpc =>
          cases h
          exact .returned hpolling hpc
        case h_2 errno hpc =>
          cases h
          exact .failed hpolling hpc
        all_goals cases h

end Threads

end EventPipe

/-- The poll device over the two threads of the legacy HAL. -/
def eventPipe (F : Type) [CFloat F] : Machine (EventPipe F) (EventPipeAct F) where
  Start s := s = .init
  step := EventPipe.step

/-- The environment of the two threads is the one the pipeline is written for. -/
def PipeEnvOk (s : EventPipe F) : EventPipeAct F → Prop
  | .thread a => EnvOk s.threads a
  | _ => True

/-! ## What holds on the way -/

namespace EventPipe

/-- Every event written is still in the pipe or was taken out of it, in order; the data events are
those of the pipeline, and the others those of the flushes. -/
structure Ok (s : EventPipe F) : Prop where
  poller : s.poller.Ok
  written : s.written = s.read ++ s.poller.entered
  reads : Accounts s.read s.got s.lost
  data : s.written.filterMap PipeEvent.data? ++ s.outbox = s.threads.halPipe
  flushes : s.written.filterMap PipeEvent.flushComplete? = s.flushed
  exposed : ∀ handle ∈ s.flushed,
    handle = BSX_SENSOR_ID_ACCELEROMETER ∨ handle = BSX_SENSOR_ID_GYROSCOPE_UNCALIBRATED

variable {s t : EventPipe F}

theorem ok_init : (init : EventPipe F).Ok :=
  ⟨trivial, rfl, .refl [], rfl, rfl, by nofun⟩

theorem ok_deliver (h : s.Ok) {e : SensorsEvent F} {rest : List (SensorsEvent F)}
    (houtbox : s.outbox = e :: rest) : Ok { s.write (.data e) with outbox := rest } := by
  refine ⟨h.poller.write _, ?_, h.reads, ?_, ?_, h.exposed⟩
  · show s.written ++ [.data e] = s.read ++ (s.poller.write (.data e)).entered
    rw [Poller.entered_write, h.written, List.append_assoc]
  · show (s.written ++ [PipeEvent.data e]).filterMap PipeEvent.data? ++ rest = s.threads.halPipe
    rw [← h.data, houtbox, List.filterMap_append, List.append_assoc]
    rfl
  · show (s.written ++ [PipeEvent.data e]).filterMap PipeEvent.flushComplete? = s.flushed
    rw [List.filterMap_append, h.flushes]
    exact List.append_nil _

theorem ok_flush (h : s.Ok) {handle : Int} {calloc write : Bool} {e : PipeEvent F}
    (hevent : (apFlush handle calloc write).2 = some e) :
    Ok { s.write e with flushed := s.flushed ++ [handle] } := by
  obtain ⟨rfl, hexposed⟩ := apFlush_event hevent
  refine ⟨h.poller.write _, ?_, h.reads, ?_, ?_, ?_⟩
  · show s.written ++ [.flushComplete handle] =
      s.read ++ (s.poller.write (.flushComplete handle)).entered
    rw [Poller.entered_write, h.written, List.append_assoc]
  · show (s.written ++ [PipeEvent.flushComplete handle]).filterMap PipeEvent.data? ++ s.outbox =
      s.threads.halPipe
    rw [List.filterMap_append, ← h.data]
    exact congrArg (· ++ s.outbox) (List.append_nil _)
  · show (s.written ++ [PipeEvent.flushComplete handle]).filterMap PipeEvent.flushComplete? =
      s.flushed ++ [handle]
    rw [List.filterMap_append, h.flushes]
    rfl
  · intro k hk
    rcases List.mem_append.mp hk with hold | hnew
    · exact h.exposed k hold
    · rw [List.mem_singleton.mp hnew]
      exact hexposed

theorem ok_pollEvents (h : s.Ok) {HALpipe memory : List (PipeEvent F)} {count : Nat}
    (hidle : s.poller = .idle HALpipe) (hcount : 0 < count ∧ count ≤ memory.length) :
    Ok { s with poller := .polling (.call HALpipe memory count) } := by
  refine ⟨⟨memory, count, hcount.2, .call HALpipe memory hcount.1⟩, ?_, h.reads, h.data,
    h.flushes, h.exposed⟩
  have hwritten := h.written
  rw [hidle] at hwritten
  exact hwritten

theorem ok_poll (h : s.Ok) {c d : PollEventsCall (PipeEvent F)} {a : PollAct (PipeEvent F)}
    (hpolling : s.poller = .polling c) (hnone : a.written = none) (hstep : c.step a = some d) :
    Ok { s with poller := .polling d } := by
  have hpoller := h.poller
  have hwritten := h.written
  rw [hpolling] at hpoller hwritten
  obtain ⟨memory, count, hmem, hc⟩ := hpoller
  have hentered : d.entered = c.entered := by
    rw [PollEventsCall.step_entered hstep, hnone]
    exact List.append_nil _
  refine ⟨⟨memory, count, hmem, hc.step hmem hstep⟩, ?_, h.reads, h.data, h.flushes, h.exposed⟩
  show s.written = s.read ++ d.entered
  rw [hentered]
  exact hwritten

/-- What the call has read leaves the pipe, whether it is returned or not. -/
theorem read_of_polling (h : s.Ok) {c : PollEventsCall (PipeEvent F)}
    (hpolling : s.poller = .polling c) :
    s.written = s.read ++ c.memory.take c.nbEvents ++ c.HALpipe := by
  have hpoller := h.poller
  have hwritten := h.written
  rw [hpolling] at hpoller hwritten
  rw [hwritten, ← Poller.taken_append_HALpipe hpoller, List.append_assoc]
  rfl

theorem ok_returned (h : s.Ok) {c : PollEventsCall (PipeEvent F)} {nbEvents : Nat}
    (hpolling : s.poller = .polling c) (hpc : c.pc = .returned nbEvents) :
    Ok { s with
      poller := .idle c.HALpipe
      read := s.read ++ c.memory.take nbEvents
      got := s.got ++ c.memory.take nbEvents } := by
  have hcount : nbEvents = c.nbEvents := by
    have hpoller := h.poller
    rw [hpolling] at hpoller
    obtain ⟨memory, count, hmem, hc⟩ := hpoller
    have hat := hc.pc
    unfold PollEventsCall.AtPc at hat
    rw [hpc] at hat
    exact hat.1
  rw [hcount]
  refine ⟨trivial, read_of_polling h hpolling, ?_, h.data, h.flushes, h.exposed⟩
  have hextended := h.reads.append (.refl (c.memory.take c.nbEvents))
  rwa [List.append_nil] at hextended

theorem ok_failed (h : s.Ok) {c : PollEventsCall (PipeEvent F)} (hpolling : s.poller = .polling c) :
    Ok { s with
      poller := .idle c.HALpipe
      read := s.read ++ c.memory.take c.nbEvents
      lost := s.lost ++ c.memory.take c.nbEvents } := by
  refine ⟨trivial, read_of_polling h hpolling, ?_, h.data, h.flushes, h.exposed⟩
  have hextended := h.reads.append
    (.dropOldest (List.append_nil (c.memory.take c.nbEvents)))
  rwa [List.append_nil] at hextended

section Threads

variable [CFloat F]

/-- What a stretch makes is what the pipeline puts on its pipe. -/
theorem halPipe_step {u : Pipeline F} {a : Act} (h : s.threads.step a = some u) :
    u.halPipe = s.threads.halPipe ++ s.madeBy a := by
  cases Pipeline.step_cases h with
  | polled => exact (List.append_nil _).symm
  | mounted =>
      show (s.threads.mountStep).halPipe = s.threads.halPipe ++ []
      unfold Pipeline.mountStep
      rw [List.append_nil]
      split <;> rfl
  | nothingShared => exact (List.append_nil _).symm
  | drained => exact (List.append_nil _).symm
  | waitFailed => exact (List.append_nil _).symm
  | woken => exact (List.append_nil _).symm
  | processed _ hprocess =>
      obtain ⟨r, hr, rfl⟩ := Option.map_eq_some_iff.mp hprocess
      show s.threads.halPipe ++ r.events = s.threads.halPipe ++
        ((sensordAlgoProcess _ _ _).map ProcessResult.events).getD []
      rw [hr]
      rfl

theorem ok_thread (h : s.Ok) {a : Act} {u : Pipeline F} (hstep : s.threads.step a = some u) :
    Ok { s with threads := u, outbox := s.outbox ++ s.madeBy a } := by
  refine ⟨h.poller, h.written, h.reads, ?_, h.flushes, h.exposed⟩
  show s.written.filterMap PipeEvent.data? ++ (s.outbox ++ s.madeBy a) = u.halPipe
  rw [halPipe_step hstep, ← h.data, List.append_assoc]

theorem ok_step (h : s.Ok) {a : EventPipeAct F} (hstep : s.step a = some t) : t.Ok := by
  cases step_cases hstep with
  | thread _ hu => exact ok_thread h hu
  | deliver houtbox => exact ok_deliver h houtbox
  | noFlush _ => exact h
  | flush hevent => exact ok_flush h hevent
  | pollEvents hidle hcount => exact ok_pollEvents h hidle hcount
  | poll hpolling hnone hd => exact ok_poll h hpolling hnone hd
  | returned hpolling hpc => exact ok_returned h hpolling hpc
  | failed hpolling _ => exact ok_failed h hpolling

/-- The two threads do not see the readers of the pipe. -/
theorem threads_reach (h : (eventPipe F).ReachUnder PipeEnvOk s) :
    (pipeline F).ReachUnder EnvOk s.threads := by
  refine h.invariant (P := fun s => (pipeline F).ReachUnder EnvOk s.threads) ?_ ?_
  · rintro s rfl
    exact .start rfl
  · intro s a t hs henv hstep
    cases step_cases hstep with
    | thread _ hu => exact .next hs henv hu
    | deliver | noFlush | flush | pollEvents | poll | returned | failed => exact hs

theorem ok_of_reach (h : (eventPipe F).ReachUnder PipeEnvOk s) : s.Ok := by
  refine h.invariant (P := Ok) ?_ (fun _ _ _ hs _ => ok_step hs)
  rintro s rfl
  exact ok_init

end Threads

end EventPipe

/-! ## The delivered samples, both sensors together -/

section Delivered

variable [CFloat F] {s : Pipeline F}

/-- What is delivered is of one of the two sensors. -/
theorem ordered_known_of_reach (h : (pipeline F).ReachUnder EnvOk s) :
    ∃ delivered, Ordered s delivered ∧ ∀ x ∈ delivered, ∃ b : Sensor, x.id = b.id := by
  refine Machine.ReachUnder.invariant
    (P := fun s => ∃ delivered, Ordered s delivered ∧ ∀ x ∈ delivered, ∃ b : Sensor, x.id = b.id)
    ?_ ?_ h
  · rintro s rfl
    exact ⟨[], ordered_init, by nofun⟩
  · rintro s a t ⟨delivered, hs, hknown⟩ henv hstep
    cases Pipeline.step_cases hstep with
    | polled hpc => exact ⟨delivered, ordered_pollStep hs hpc henv, hknown⟩
    | mounted => exact ⟨delivered, ordered_mountStep hs, hknown⟩
    | nothingShared hpc => exact ⟨delivered, ordered_wait hs (by rw [hpc]; decide) .wait, hknown⟩
    | @drained failed hpc =>
        obtain rfl : failed = [] := henv
        exact ⟨delivered, ordered_drainStep hs (by rw [hpc]; decide), hknown⟩
    | waitFailed hpc => exact ⟨delivered, ordered_wait hs (by rw [hpc]; decide) .process, hknown⟩
    | @woken ret failed hpc =>
        obtain rfl : failed = [] := henv
        exact ⟨delivered, ordered_drainStep hs (by rw [hpc]; decide), hknown⟩
    | @processed m t hpc hprocess =>
        obtain rfl : m = .ok := henv
        rw [processStep_eq_deliver hs] at hprocess
        cases hprocess
        refine ⟨delivered ++ s.merged, ordered_deliver hs, fun x hx => ?_⟩
        rcases List.mem_append.mp hx with hold | hnew
        · exact hknown x hold
        · obtain ⟨b, hb⟩ := mem_merged hnew
          exact ⟨b, (hs.sensordOk b).sensor x hb⟩

variable {delivered : List (HwDataUnion F)}

/-- What one sensor delivers is part of what it polled. -/
theorem ofSensor_delivered (h : Ordered s delivered) (b : Sensor) :
    (ofSensor b delivered).Sublist (ofSensor b s.polled) := by
  refine List.Sublist.trans ?_ (h.accounts b).order
  unfold Pipeline.chain
  rw [ofSensor_append, ofSensor_append, List.append_assoc]
  exact List.sublist_append_left _ _

theorem delivered_subset (h : Ordered s delivered)
    (hknown : ∀ x ∈ delivered, ∃ b : Sensor, x.id = b.id) : delivered ⊆ s.polled := by
  intro x hx
  obtain ⟨b, hb⟩ := hknown x hx
  have hsensor : x ∈ ofSensor b s.polled :=
    (ofSensor_delivered h b).subset (mem_ofSensor.mpr ⟨hx, hb⟩)
  exact (mem_ofSensor.mp hsensor).1

theorem delivered_nodup (h : Ordered s delivered)
    (hknown : ∀ x ∈ delivered, ∃ b : Sensor, x.id = b.id) : delivered.Nodup := by
  classical
  rw [List.nodup_iff_count_le_one]
  intro x
  by_cases hx : x ∈ delivered
  · -- a sample occurs as often as among those of its sensor
    obtain ⟨b, hb⟩ := hknown x hx
    have hcount : (ofSensor b delivered).count x = delivered.count x :=
      List.count_filter (by simpa using hb)
    have hnodup : (ofSensor b delivered).Nodup :=
      (h.nodup.filter _).sublist (ofSensor_delivered h b)
    rw [← hcount]
    exact List.nodup_iff_count_le_one.mp hnodup x
  · rw [List.count_eq_zero_of_not_mem hx]
    exact Nat.zero_le 1

theorem delivered_timeOrdered (h : Ordered s delivered) : TimeOrdered delivered := by
  refine List.Pairwise.sublist ?_ (h.time .accl)
  unfold Pipeline.chain
  rw [List.append_assoc]
  exact List.sublist_append_left _ _

end Delivered

/-! ## What the framework gets -/

/-- In every run of the legacy HAL in the environment `PipeEnvOk` (that of the pipeline: readings
stamped in order, and allocations and writes that succeed), with any flushes and any calls of
`pollEvents` while the two threads poll, mount, drain and deliver:

* the events that calls of `pollEvents` have taken out of the pipe, those the running call has taken
  and those still in it are the events written, once each and in order;
* a call returns what it took, unless `poll` failed in it;
* the data events among them, with those still to be written, are the ones of the pipeline, and the
  others one META_DATA event for each flush that wrote one, each of one of the two sensors;
* the data events the framework gets are in time order and made of samples that were polled, each of
  another one. -/
theorem framework_gets_events [CFloat F] {s : EventPipe F}
    (h : (eventPipe F).ReachUnder PipeEnvOk s) :
    s.written = s.read ++ s.poller.taken ++ s.poller.HALpipe ∧
    Accounts s.read s.got s.lost ∧
    s.written.filterMap PipeEvent.data? ++ s.outbox = s.threads.halPipe ∧
    (s.written.filterMap PipeEvent.flushComplete? = s.flushed ∧ ∀ handle ∈ s.flushed,
      handle = BSX_SENSOR_ID_ACCELEROMETER ∨ handle = BSX_SENSOR_ID_GYROSCOPE_UNCALIBRATED) ∧
    (∃ seen : List (HwDataUnion F), s.got.filterMap PipeEvent.data? = seen.map sampleEvent ∧
      seen.Nodup ∧ seen ⊆ s.threads.polled) ∧
    (s.got.filterMap PipeEvent.data?).Pairwise fun e e' => e.timestamp ≤ e'.timestamp := by
  have hok := EventPipe.ok_of_reach h
  obtain ⟨delivered, ho, hknown⟩ := ordered_known_of_reach (EventPipe.threads_reach h)
  -- what the framework gets is on the pipe of the pipeline
  have hgot : (s.got.filterMap PipeEvent.data?).Sublist (delivered.map sampleEvent) := by
    rw [← ho.pipe, ← hok.data]
    refine List.Sublist.trans ?_ (List.sublist_append_left _ _)
    rw [hok.written]
    exact (hok.reads.order.trans (List.sublist_append_left _ _)).filterMap _
  obtain ⟨seen, hseen, heq⟩ := List.sublist_map_iff.mp hgot
  refine ⟨?_, hok.reads, hok.data, ⟨hok.flushes, hok.exposed⟩, ⟨seen, heq, ?_, ?_⟩, ?_⟩
  · rw [List.append_assoc, Poller.taken_append_HALpipe hok.poller]
    exact hok.written
  · exact (delivered_nodup ho hknown).sublist hseen
  · exact List.Subset.trans hseen.subset (delivered_subset ho hknown)
  · rw [heq, List.pairwise_map]
    simp only [sampleEvent_timestamp]
    exact (delivered_timeOrdered ho).sublist hseen

instance (clock : Int) (rs : List SysfsReading) : Decidable (PollOk clock rs) :=
  decidable_of_iff ((∀ r ∈ rs, r.AllocOk) ∧ (∀ r ∈ rs, 0 < r.timestamp) ∧
      (clock :: rs.map SysfsReading.timestamp).Pairwise (· ≤ ·))
    ⟨fun h => ⟨h.1, h.2.1, h.2.2⟩, fun h => ⟨h.alloc, h.positive, h.monotone⟩⟩

instance (s : Pipeline F) : (a : Act) → Decidable (EnvOk s a)
  | .poll acc gyro => inferInstanceAs (Decidable (PollOk s.clock (acc ++ gyro)))
  | .mount => isTrue trivial
  | .read failed => inferInstanceAs (Decidable (failed = []))
  | .wake _ failed => inferInstanceAs (Decidable (failed = []))
  | .process m => inferInstanceAs (Decidable (m = .ok))

instance (s : EventPipe F) : (a : EventPipeAct F) → Decidable (PipeEnvOk s a)
  | .thread a => inferInstanceAs (Decidable (EnvOk s.threads a))
  | .deliver | .flush .. | .pollEvents .. | .poll _ | .pollDone => isTrue trivial

/-- One sample of each sensor, a flush between the two writes, and two calls of `pollEvents`. -/
def flushBetween : List (EventPipeAct ℚ) :=
  [.thread (.poll [⟨1, 2, 3, 0, 5, true, true⟩] [⟨4, 5, 6, 0, 6, true, true⟩]), .thread .mount,
    .thread (.read []), .thread (.process .ok), .deliver,
    .pollEvents [.flushComplete 0, .flushComplete 0] 2, .poll .pass, .poll .pollReturns,
    .flush 16 true true, .poll .pass, .pollDone, .deliver, .flush 4 true true,
    .pollEvents [.flushComplete 0] 1, .poll .pass, .poll .pollReturns]

theorem framework_gets_events_flush_between : ∃ s : EventPipe ℚ,
    (eventPipe ℚ).run .init flushBetween = some s ∧
      s.got.map PipeEvent.flushComplete? = [none, some 16] ∧ s.flushed = [16] ∧
      s.written = s.read ++ s.poller.taken ++ s.poller.HALpipe := by
  have hstart : (eventPipe ℚ).ReachUnder PipeEnvOk .init := .start rfl
  have hrun : (eventPipe ℚ).runUnder PipeEnvOk .init flushBetween = some _ := rfl
  exact ⟨_, rfl, rfl, rfl, (framework_gets_events (hstart.of_runUnder hrun)).1⟩

end Smi240Hal.Legacy
