/-
# Smi240Hal.Legacy.PollEvents — what `pollEvents` takes out of the HAL pipe

`sensors_poll_context_t::pollEvents` is one loop with two exits: a read when `poll` has reported
`POLLIN`, and a `poll` that blocks only while there is nothing to return.  Meanwhile the sensord
thread (`sensord_deliver_event`) and the callers of `flush` (`send_flush_event`) write to the pipe,
each a whole event at a time.

The pipe is a FIFO of events, and `POLLIN` is reported exactly when it is not empty.  One action is
one write, one pass through the body of the loop, or one return of `poll`.  `data` is memory: cells
with their old contents, of which the call may use the first `count`.
-/
import Smi240Hal.Lib.Machine
import Mathlib.Data.List.TakeDrop
import Mathlib.Algebra.Order.Ring.Nat

namespace Smi240Hal.Legacy

open Smi240Hal.Lib

/-! ## The loop -/

/-- Where the call is. -/
inductive PollPc
  /-- At the head of the `do` loop. -/
  | body
  /-- Before `poll`. -/
  | poll
  | returned (nbEvents : Nat)
  /-- `return -errno`. -/
  | failed (errno : Nat)
deriving DecidableEq, Repr

/-- The local variables of `pollEvents`, the pipe and the memory `data` points into; `data` itself
is the offset of the next cell.  Two fields are not in the code: everything that has entered the
pipe, and the passes through the loop. -/
structure PollEventsCall (E : Type*) where
  HALpipe : List E
  memory : List E
  data : Nat
  count : Nat
  nbEvents : Nat
  /-- `POLLIN` in `extended_mPollFds[0].revents`. -/
  revents : Bool
  n : Nat
  pc : PollPc
  entered : List E
  passes : Nat

namespace PollEventsCall

variable {E : Type*}

/-- `pollEvents(data, count)` as it is called. -/
def call (HALpipe memory : List E) (count : Nat) : PollEventsCall E where
  HALpipe := HALpipe
  memory := memory
  data := 0
  count := count
  nbEvents := 0
  revents := false
  n := 0
  pc := .body
  entered := HALpipe
  passes := 0

/-- `write` of one event, by `sensord_deliver_event` or `send_flush_event`. -/
def write (s : PollEventsCall E) (e : E) : PollEventsCall E :=
  { s with HALpipe := s.HALpipe ++ [e], entered := s.entered ++ [e] }

/-- The cells from `pos` on are overwritten; `none` outside the memory. -/
def store (memory : List E) (pos : Nat) (events : List E) : Option (List E) :=
  if pos + events.length ≤ memory.length then
    some (memory.take pos ++ events ++ memory.drop (pos + events.length))
  else none

/-- `read_events(data, count)`: the events read and what is left; the pipe is not blocking, and an
error counts as no event. -/
def readEvents (HALpipe : List E) (count : Nat) : List E × List E :=
  (HALpipe.take count, HALpipe.drop count)

/-- `while (n && count)`. -/
def loopTest (s : PollEventsCall E) : PollEventsCall E :=
  if s.n ≠ 0 ∧ s.count ≠ 0 then { s with pc := .body } else { s with pc := .returned s.nbEvents }

/-- `if (count)`: on to `poll`, or past it. -/
def room (s : PollEventsCall E) : PollEventsCall E :=
  if s.count ≠ 0 then { s with pc := .poll } else s.loopTest

/-- The body of the loop up to `poll`. -/
def pass (s : PollEventsCall E) : Option (PollEventsCall E) :=
  if s.pc = .body then do
    let s := { s with passes := s.passes + 1 }
    let s ←
      if s.revents then do
        let (events, rest) := readEvents s.HALpipe s.count
        let memory ← store s.memory s.data events
        some { s with
          HALpipe := rest
          memory := memory
          -- no more data for next time
          revents := if events.length < s.count then false else s.revents
          count := s.count - events.length
          nbEvents := s.nbEvents + events.length
          data := s.data + events.length }
      else some s
    some s.room
  else none

/-- `poll` returns without an error.  With nothing in the pipe it waits, unless there is something
to return. -/
def pollReturns (s : PollEventsCall E) : Option (PollEventsCall E) :=
  if s.pc = .poll then
    if s.HALpipe ≠ [] then some { s with n := 1, revents := true }.loopTest
    else if s.nbEvents ≠ 0 then some { s with n := 0, revents := false }.loopTest
    else none
  else none

end PollEventsCall

/-- A write, or a step of the call. -/
inductive PollAct (E : Type*)
  | write (e : E)
  | pass
  | pollReturns
  /-- `poll` returns -1 with `EINTR`. -/
  | pollInterrupted
  /-- `poll` returns -1 with another `errno`. -/
  | pollFails (errno : Nat)

/-- The event an action writes. -/
def PollAct.written {E : Type*} : PollAct E → Option E
  | .write e => some e
  | _ => none

namespace PollEventsCall

variable {E : Type*}

/-- A step of the call, or an event that comes into the pipe beside it. -/
def step (s : PollEventsCall E) : PollAct E → Option (PollEventsCall E)
  | .write e => some (s.write e)
  | .pass => s.pass
  | .pollReturns => s.pollReturns
  | .pollInterrupted => if s.pc = .poll then some s else none
  | .pollFails errno => if s.pc = .poll then some { s with pc := .failed errno } else none

end PollEventsCall

/-- One call, among writes, on any contents of the pipe and the memory. -/
def pollEvents (E : Type*) : Machine (PollEventsCall E) (PollAct E) where
  Start s := ∃ HALpipe memory count, 0 < count ∧ count ≤ memory.length ∧
    s = .call HALpipe memory count
  step := PollEventsCall.step

/-! ## What holds on the way -/

namespace PollEventsCall

variable {E : Type*}

/-- What the place in the loop says about the variables. -/
def AtPc (s : PollEventsCall E) : Prop :=
  match s.pc with
  | .body =>
      s.count ≠ 0 ∧ (s.revents = true → s.HALpipe ≠ [] ∧ s.passes ≤ s.nbEvents + 1) ∧
        (s.revents = false → s.nbEvents = 0 ∧ s.passes = 0)
  | .poll => s.count ≠ 0 ∧ s.passes ≤ s.nbEvents + 1
  | .returned k => k = s.nbEvents ∧ 0 < k ∧ s.passes ≤ s.nbEvents + 1
  | .failed _ => s.passes ≤ s.nbEvents + 1

/-- The first `nbEvents` events that have entered the pipe are in the memory, the others are still
in the pipe. -/
structure Copied (memory : List E) (count : Nat) (s : PollEventsCall E) : Prop where
  total : s.nbEvents + s.count = count
  data : s.data = s.nbEvents
  read : s.nbEvents ≤ s.entered.length
  pipe : s.HALpipe = s.entered.drop s.nbEvents
  memory : s.memory = s.entered.take s.nbEvents ++ memory.drop s.nbEvents

/-- What has been copied, and what that says where the call stands. -/
structure Delivered (memory : List E) (count : Nat) (s : PollEventsCall E) : Prop
    extends Copied memory count s where
  pc : s.AtPc

variable {memory : List E} {count : Nat} {s t : PollEventsCall E}

theorem Delivered.call (HALpipe memory : List E) (hcount : 0 < count) :
    Delivered memory count (.call HALpipe memory count) where
  total := Nat.zero_add count
  data := rfl
  read := Nat.zero_le _
  pipe := rfl
  memory := rfl
  pc := ⟨Nat.ne_of_gt hcount, nofun, fun _ => ⟨rfl, rfl⟩⟩

/-- The cells are as many as before. -/
theorem Copied.length (h : s.Copied memory count) (hmem : count ≤ memory.length) :
    s.memory.length = memory.length := by
  have := h.read
  have := h.total
  rw [h.memory]
  simp only [List.length_append, List.length_take, List.length_drop]
  omega

/-- A write adds to the end of the pipe, whatever the call is doing. -/
theorem Delivered.write (h : s.Delivered memory count) (e : E) :
    (s.write e).Delivered memory count where
  total := h.total
  data := h.data
  read := by
    have := h.read
    simp only [PollEventsCall.write, List.length_append]
    omega
  pipe := by
    show s.HALpipe ++ [e] = (s.entered ++ [e]).drop s.nbEvents
    rw [List.drop_append_of_le_length h.read, ← h.pipe]
  memory := by
    show s.memory = (s.entered ++ [e]).take s.nbEvents ++ memory.drop s.nbEvents
    rw [List.take_append_of_le_length h.read, h.memory]
  pc := by
    have hpc := h.pc
    simp only [AtPc, PollEventsCall.write] at hpc ⊢
    cases hcase : s.pc with
    | body =>
        rw [hcase] at hpc
        obtain ⟨hroom, hready, hfirst⟩ := hpc
        exact ⟨hroom, fun hrevents => ⟨by simp, (hready hrevents).2⟩, hfirst⟩
    | poll => rw [hcase] at hpc; exact hpc
    | returned k => rw [hcase] at hpc; exact hpc
    | failed errno => rw [hcase] at hpc; exact hpc

/-- What is read goes behind what was read before. -/
theorem Copied.store_eq (h : s.Copied memory count) (hmem : count ≤ memory.length) :
    store s.memory s.data (s.HALpipe.take s.count) = some
      (s.entered.take (s.nbEvents + (s.HALpipe.take s.count).length) ++
        memory.drop (s.nbEvents + (s.HALpipe.take s.count).length)) := by
  have hlen := h.length hmem
  have htotal := h.total
  have hread : s.HALpipe.take s.count =
      (s.entered.drop s.nbEvents).take (s.HALpipe.take s.count).length := by
    rw [← h.pipe, List.length_take]
    exact List.take_eq_take_min
  have hfits : s.data + (s.HALpipe.take s.count).length ≤ s.memory.length := by
    rw [hlen, h.data, List.length_take]
    omega
  -- the cells in front are those read before, the cells behind are still the old ones
  have hfront : s.memory.take s.data = s.entered.take s.nbEvents := by
    rw [h.memory, h.data, List.take_append_of_le_length (by simp [h.read]), List.take_take,
      Nat.min_self]
  have hback : ∀ n, s.memory.drop (s.data + n) = memory.drop (s.nbEvents + n) := by
    intro n
    have hfull : (s.entered.take s.nbEvents).length = s.nbEvents := by simp [h.read]
    rw [h.memory, h.data, ← List.drop_drop, List.drop_left' hfull, List.drop_drop]
  rw [store, if_pos hfits, hfront, hback, List.take_add, ← hread]

/-- The place and the answer of `poll` are no part of what is delivered. -/
theorem Copied.atPc (h : s.Copied memory count) (revents : Bool) (n passes : Nat) (pc : PollPc)
    (hpc : { s with revents := revents, n := n, passes := passes, pc := pc }.AtPc) :
    { s with revents := revents, n := n, passes := passes, pc := pc }.Delivered memory count where
  total := h.total
  data := h.data
  read := h.read
  pipe := h.pipe
  memory := h.memory
  pc := hpc

/-- After a pass there is room left, or something has been read. -/
theorem Copied.room (h : s.Copied memory count) (hsome : s.count = 0 → 0 < s.nbEvents)
    (hpasses : s.passes ≤ s.nbEvents + 1) : s.room.Delivered memory count := by
  by_cases hfull : s.count = 0
  · rw [PollEventsCall.room, if_neg (not_not_intro hfull), loopTest,
      if_neg fun hboth => hboth.2 hfull]
    exact h.atPc s.revents s.n s.passes _ ⟨rfl, hsome hfull, hpasses⟩
  · rw [PollEventsCall.room, if_pos hfull]
    exact h.atPc s.revents s.n s.passes _ ⟨hfull, hpasses⟩

/-! ### The first pass, and the passes that read -/

theorem pass_first (hpc : s.pc = .body) (hrevents : s.revents = false) :
    s.pass = some { s with passes := s.passes + 1 }.room := by
  simp [pass, hpc, hrevents]

/-- The state before `if (count)` when the events that are there have been read. -/
def afterRead (s : PollEventsCall E) (memory : List E) : PollEventsCall E :=
  { s with
    passes := s.passes + 1
    HALpipe := s.HALpipe.drop s.count
    memory := memory
    revents := if (s.HALpipe.take s.count).length < s.count then false else s.revents
    count := s.count - (s.HALpipe.take s.count).length
    nbEvents := s.nbEvents + (s.HALpipe.take s.count).length
    data := s.data + (s.HALpipe.take s.count).length }

theorem pass_read (h : s.Copied memory count) (hmem : count ≤ memory.length)
    (hpc : s.pc = .body) (hrevents : s.revents = true) :
    s.pass = some (s.afterRead
      (s.entered.take (s.nbEvents + (s.HALpipe.take s.count).length) ++
        memory.drop (s.nbEvents + (s.HALpipe.take s.count).length))).room := by
  have hstore := h.store_eq hmem
  simp only [pass, if_pos hpc, hrevents, if_true, readEvents, hstore, Option.bind_eq_bind,
    Option.bind_some, afterRead]

/-- A pass in the body is never stuck. -/
theorem pass_isSome (h : s.Copied memory count) (hmem : count ≤ memory.length)
    (hpc : s.pc = .body) : s.pass.isSome := by
  cases hrevents : s.revents with
  | false => rw [pass_first hpc hrevents]; rfl
  | true => rw [pass_read h hmem hpc hrevents]; rfl

/-- With nothing read yet the call goes on to `poll`. -/
theorem Delivered.pass_first (h : s.Delivered memory count) (hpc : s.pc = .body)
    (hrevents : s.revents = false) :
    { s with passes := s.passes + 1 }.room.Delivered memory count := by
  have hbody := h.pc
  simp only [AtPc, hpc] at hbody
  obtain ⟨hroom, -, hfirst⟩ := hbody
  obtain ⟨hnone, hpasses⟩ := hfirst hrevents
  have hcopied : { s with passes := s.passes + 1 }.Copied memory count :=
    ⟨h.total, h.data, h.read, h.pipe, h.memory⟩
  apply hcopied.room
  · exact fun hfull => absurd hfull hroom
  · show s.passes + 1 ≤ s.nbEvents + 1
    omega

/-- A pass that reads takes at least one event. -/
theorem Delivered.pass_read (h : s.Delivered memory count) (hpc : s.pc = .body)
    (hrevents : s.revents = true) :
    (s.afterRead (s.entered.take (s.nbEvents + (s.HALpipe.take s.count).length) ++
      memory.drop (s.nbEvents + (s.HALpipe.take s.count).length))).room.Delivered memory count := by
  have hbody := h.pc
  simp only [AtPc, hpc] at hbody
  obtain ⟨hroom, hready, -⟩ := hbody
  obtain ⟨hpipe, hpasses⟩ := hready hrevents
  have htotal := h.total
  have hread := h.read
  have hqueued : s.HALpipe.length = s.entered.length - s.nbEvents := by
    rw [h.pipe, List.length_drop]
  have hsome : 0 < s.HALpipe.length := List.length_pos_iff.mpr hpipe
  have hlen : (s.HALpipe.take s.count).length = min s.count s.HALpipe.length := List.length_take
  -- the fields that do not depend on where the call goes next
  have hrest : s.HALpipe.drop s.count =
      s.entered.drop (s.nbEvents + (s.HALpipe.take s.count).length) := by
    rw [← List.drop_drop, ← h.pipe, hlen]
    rcases Nat.le_total s.count s.HALpipe.length with hle | hle
    · rw [Nat.min_eq_left hle]
    · rw [Nat.min_eq_right hle, List.drop_length, List.drop_eq_nil_of_le hle]
  have hcopied : (s.afterRead (s.entered.take (s.nbEvents + (s.HALpipe.take s.count).length) ++
      memory.drop (s.nbEvents + (s.HALpipe.take s.count).length))).Copied memory count :=
    { total := by dsimp only [afterRead]; omega
      data := by dsimp only [afterRead]; rw [h.data]
      read := by dsimp only [afterRead]; omega
      pipe := hrest
      memory := rfl }
  apply hcopied.room
  · intro _
    dsimp only [afterRead]
    omega
  · dsimp only [afterRead]
    omega

theorem Delivered.pass (h : s.Delivered memory count) (hmem : count ≤ memory.length)
    (hstep : s.pass = some t) : t.Delivered memory count := by
  have hpc : s.pc = .body := by
    by_contra hother
    rw [PollEventsCall.pass, if_neg hother] at hstep
    exact absurd hstep nofun
  cases hrevents : s.revents with
  | false =>
      rw [PollEventsCall.pass_first hpc hrevents] at hstep
      cases hstep
      exact h.pass_first hpc hrevents
  | true =>
      rw [PollEventsCall.pass_read h.toCopied hmem hpc hrevents] at hstep
      cases hstep
      exact h.pass_read hpc hrevents

/-! ### The answers of `poll` -/

/-- `POLLIN` leads back to the body, no event to the end of the call. -/
theorem Delivered.pollReturns (h : s.Delivered memory count) (hstep : s.pollReturns = some t) :
    t.Delivered memory count := by
  simp only [PollEventsCall.pollReturns] at hstep
  split at hstep
  case isFalse => exact absurd hstep nofun
  case isTrue hpc =>
    have hpoll := h.pc
    simp only [AtPc, hpc] at hpoll
    obtain ⟨hroom, hpasses⟩ := hpoll
    split at hstep
    · next hpipe =>
        cases hstep
        rw [loopTest, if_pos ⟨Nat.one_ne_zero, hroom⟩]
        apply h.toCopied.atPc
        exact ⟨hroom, fun _ => ⟨hpipe, hpasses⟩, nofun⟩
    · split at hstep
      · next hsome =>
          cases hstep
          rw [loopTest, if_neg fun hboth => hboth.1 rfl]
          apply h.toCopied.atPc
          exact ⟨rfl, Nat.pos_of_ne_zero hsome, hpasses⟩
      · exact absurd hstep nofun

/-- What one step of the call or of a writer keeps. -/
theorem Delivered.step (h : s.Delivered memory count) (hmem : count ≤ memory.length)
    {a : PollAct E} (hstep : s.step a = some t) : t.Delivered memory count := by
  cases a with
  | write e => cases hstep; exact h.write e
  | pass => exact h.pass hmem hstep
  | pollReturns => exact h.pollReturns hstep
  | pollInterrupted =>
      simp only [PollEventsCall.step] at hstep
      split at hstep
      · cases hstep; exact h
      · exact absurd hstep nofun
  | pollFails errno =>
      simp only [PollEventsCall.step] at hstep
      split at hstep
      · next hpc =>
          have hpoll := h.pc
          simp only [AtPc, hpc] at hpoll
          cases hstep
          exact h.toCopied.atPc s.revents s.n s.passes _ hpoll.2
      · exact absurd hstep nofun

/-! ### What has entered the pipe -/

@[simp] theorem loopTest_entered (s : PollEventsCall E) : s.loopTest.entered = s.entered := by
  unfold loopTest
  split <;> rfl

@[simp] theorem room_entered (s : PollEventsCall E) : s.room.entered = s.entered := by
  unfold room
  split
  · rfl
  · exact loopTest_entered s

/-- Only the writers put events in. -/
theorem step_entered {a : PollAct E} (hstep : s.step a = some t) :
    t.entered = s.entered ++ a.written.toList := by
  cases a with
  | write e => cases hstep; rfl
  | pass =>
      simp only [step, pass] at hstep
      split at hstep
      case isFalse => exact absurd hstep nofun
      case isTrue =>
        split at hstep
        · obtain ⟨memory, -, hread⟩ := Option.bind_eq_some_iff.mp hstep
          cases hread
          simp [PollAct.written]
        · cases hstep
          simp [PollAct.written]
  | pollReturns =>
      simp only [step, pollReturns] at hstep
      split at hstep
      case isFalse => exact absurd hstep nofun
      case isTrue =>
        split at hstep
        · cases hstep
          simp [PollAct.written]
        · split at hstep
          · cases hstep
            simp [PollAct.written]
          · exact absurd hstep nofun
  | pollInterrupted =>
      simp only [step, Option.ite_none_right_eq_some] at hstep
      cases hstep.2
      simp [PollAct.written]
  | pollFails errno =>
      simp only [step, Option.ite_none_right_eq_some] at hstep
      cases hstep.2
      simp [PollAct.written]

theorem run_entered {as : List (PollAct E)} (h : (pollEvents E).run s as = some t) :
    t.entered = s.entered ++ as.filterMap PollAct.written := by
  apply Machine.run_history (M := pollEvents E)
    (P := fun as t => t.entered = s.entered ++ as.filterMap PollAct.written) _ _ h
  · intro before u a t hu hstep
    rw [step_entered hstep, hu, List.filterMap_append, List.append_assoc]
    congr 2
  · exact (List.append_nil _).symm

/-- What holds at the start of a call holds on the way. -/
theorem Delivered.run (h : s.Delivered memory count) (hmem : count ≤ memory.length)
    {as : List (PollAct E)} (hrun : (pollEvents E).run s as = some t) :
    t.Delivered memory count :=
  (pollEvents E).run_invariant (fun _ _ _ hs _ hstep => Delivered.step hs hmem hstep) h
    (fun _ _ _ _ => trivial) hrun

/-- Every pass but the first has read an event. -/
theorem Delivered.passes_le (h : s.Delivered memory count) : s.passes ≤ s.nbEvents + 1 := by
  have hpc := h.pc
  simp only [AtPc] at hpc
  split at hpc
  · cases hrevents : s.revents with
    | false =>
        have := (hpc.2.2 hrevents).2
        omega
    | true => exact (hpc.2.1 hrevents).2
  · exact hpc.2
  · exact hpc.2.2
  · exact hpc

/-- With an event in the pipe, or one already read, `poll` does not wait. -/
theorem Delivered.pollReturns_isSome (h : s.Delivered memory count) (hpc : s.pc = .poll)
    (hentered : s.entered ≠ []) : s.pollReturns.isSome := by
  rw [PollEventsCall.pollReturns, if_pos hpc]
  by_cases hpipe : s.HALpipe = []
  · have hsome : s.nbEvents ≠ 0 := by
      intro hnone
      apply hentered
      have := h.pipe
      rwa [hnone, List.drop_zero, hpipe, eq_comm] at this
    rw [if_neg (not_not_intro hpipe), if_pos hsome]
    rfl
  · rw [if_pos hpipe]
    rfl

end PollEventsCall

/-! ## The call -/

/-- On any schedule of writes and of answers of `poll`, a call that returns `k` has put the `k`
oldest events of the pipe into the first `k` cells, in their order, and has left the later ones in
the pipe and the other cells as they were.  The loop is passed at most once more than there are
cells to fill, and as soon as an event has entered the pipe the call is held up by nothing. -/
theorem poll_events_prefix {E : Type*} (HALpipe memory : List E) (count : Nat)
    (as : List (PollAct E)) (t : PollEventsCall E) (hcount : 0 < count)
    (hmem : count ≤ memory.length)
    (hrun : (pollEvents E).run (.call HALpipe memory count) as = some t) :
    (∀ k, t.pc = .returned k →
      1 ≤ k ∧ k ≤ count ∧ k ≤ (HALpipe ++ as.filterMap PollAct.written).length ∧
      t.memory = (HALpipe ++ as.filterMap PollAct.written).take k ++ memory.drop k ∧
      t.HALpipe = (HALpipe ++ as.filterMap PollAct.written).drop k ∧ t.passes ≤ k + 1) ∧
    t.passes ≤ count + 1 ∧
    (HALpipe ++ as.filterMap PollAct.written ≠ [] →
      (t.pc = .body → (t.step .pass).isSome) ∧ (t.pc = .poll → (t.step .pollReturns).isSome)) := by
  have hdelivered : t.Delivered memory count :=
    (PollEventsCall.Delivered.call HALpipe memory hcount).run hmem hrun
  have hentered : t.entered = HALpipe ++ as.filterMap PollAct.written :=
    PollEventsCall.run_entered hrun
  have hpasses := hdelivered.passes_le
  have htotal := hdelivered.total
  refine ⟨?_, by omega, ?_⟩
  · intro k hk
    have hpc := hdelivered.pc
    simp only [PollEventsCall.AtPc, hk] at hpc
    obtain ⟨rfl, hpos, -⟩ := hpc
    rw [← hentered]
    exact ⟨hpos, by omega, hdelivered.read, hdelivered.memory, hdelivered.pipe, hpasses⟩
  · intro hsome
    rw [← hentered] at hsome
    constructor
    · intro hbody
      exact PollEventsCall.pass_isSome hdelivered.toCopied hmem hbody
    · intro hpoll
      exact hdelivered.pollReturns_isSome hpoll hsome

/-- An interrupted wait, a short read, and an event that comes before `poll` is asked again. -/
theorem poll_events_prefix_two :
    let as : List (PollAct Nat) := [.pass, .pollInterrupted, .write 7, .pollReturns, .pass,
      .write 8, .write 9, .pollReturns, .pass]
    ∃ t, (pollEvents Nat).run (.call [] [0, 0, 0] 2) as = some t ∧ t.pc = .returned 2 ∧
      t.memory = [7, 8, 0] ∧ t.HALpipe = [9] ∧ t.passes ≤ 3 := by
  intro as
  obtain ⟨t, hrun, hpc⟩ : ∃ t, (pollEvents Nat).run (.call [] [0, 0, 0] 2) as = some t ∧
      t.pc = .returned 2 := ⟨_, rfl, rfl⟩
  obtain ⟨hreturned, -, -⟩ :=
    poll_events_prefix [] [0, 0, 0] 2 as t (by omega) (Nat.le_succ 2) hrun
  obtain ⟨-, -, -, hmemory, hpipe, hpasses⟩ := hreturned 2 hpc
  exact ⟨t, hrun, hpc, hmemory, hpipe, hpasses⟩

end Smi240Hal.Legacy
