/-
# Smi240Hal.Lib.BoundedFifo — bounded queues that drop their oldest elements

A family of queues, each with a limit.  An element is pushed behind the others, or refused; a queue
is appended to another one; what does not fit is dropped from the front.  `FifoLog` keeps what has
been handed in, given back, dropped and refused, so that at any time every element can be accounted
for (`Fifos.places_eq`).
-/
import Mathlib.Algebra.BigOperators.Group.Finset.Basic
import Mathlib.Algebra.Order.BigOperators.Group.Finset
import Mathlib.Data.Fintype.Basic

namespace Smi240Hal.Lib

/-- What has become of the elements: those pushed, those popped, those dropped or cleared, and those
refused. -/
structure FifoLog (δ : Type*) where
  handed : List δ
  returned : List δ
  freed : List δ
  refused : List δ

/-- The queues, and the log of all of them together. -/
structure Fifos (ι δ : Type*) where
  queue : ι → List δ
  log : FifoLog δ

/-- What is done to the queues; a `push` may be refused, whatever the queue holds. -/
inductive FifoOp (ι δ : Type*)
  | push (i : ι) (x : δ) (accepted : Bool)
  | pop (i : ι)
  /-- the elements of `j` behind those of `i` -/
  | append (i j : ι)
  | clear (i : ι)

section Lists

variable {δ : Type*}

/-- The newest `n` elements. -/
def keepLast (n : Nat) (l : List δ) : List δ := l.drop (l.length - n)

/-- The older ones. -/
def overflow (n : Nat) (l : List δ) : List δ := l.take (l.length - n)

@[simp] theorem overflow_append_keepLast (n : Nat) (l : List δ) :
    overflow n l ++ keepLast n l = l :=
  List.take_append_drop _ _

theorem keepLast_of_length_le {n : Nat} {l : List δ} (h : l.length ≤ n) : keepLast n l = l := by
  rw [keepLast, Nat.sub_eq_zero_of_le h, List.drop_zero]

theorem overflow_of_length_le {n : Nat} {l : List δ} (h : l.length ≤ n) : overflow n l = [] := by
  rw [overflow, Nat.sub_eq_zero_of_le h, List.take_zero]

theorem keepLast_cons {n : Nat} {x : δ} {l : List δ} (h : n ≤ l.length) :
    keepLast n (x :: l) = keepLast n l := by
  rw [keepLast, List.length_cons, Nat.succ_sub h, List.drop_succ_cons, keepLast]

theorem overflow_cons {n : Nat} {x : δ} {l : List δ} (h : n ≤ l.length) :
    overflow n (x :: l) = x :: overflow n l := by
  rw [overflow, List.length_cons, Nat.succ_sub h, List.take_succ_cons, overflow]

/-- What stands before `n` elements is not among the newest `n`. -/
theorem keepLast_append {n : Nat} (o : List δ) {l : List δ} (h : n ≤ l.length) :
    keepLast n (o ++ l) = keepLast n l ∧ overflow n (o ++ l) = o ++ overflow n l := by
  induction o with
  | nil => exact ⟨rfl, rfl⟩
  | cons x o ih =>
      have hlen : n ≤ (o ++ l).length := by
        rw [List.length_append]
        omega
      rw [List.cons_append, keepLast_cons hlen, overflow_cons hlen, ih.1, ih.2, List.cons_append]
      exact ⟨rfl, rfl⟩

/-- Dropping before more is appended drops nothing that would have stayed, and in the same order. -/
theorem keepLast_keepLast_append (n : Nat) (l m : List δ) :
    keepLast n (keepLast n l ++ m) = keepLast n (l ++ m) ∧
      overflow n l ++ overflow n (keepLast n l ++ m) = overflow n (l ++ m) := by
  rcases le_total l.length n with hfits | hlong
  · rw [keepLast_of_length_le hfits, overflow_of_length_le hfits, List.nil_append]
    exact ⟨rfl, rfl⟩
  · have hlen : n ≤ (keepLast n l ++ m).length := by
      rw [List.length_append, keepLast, List.length_drop]
      omega
    obtain ⟨hkeep, hover⟩ := keepLast_append (overflow n l) hlen
    rw [← List.append_assoc, overflow_append_keepLast] at hkeep hover
    exact ⟨hkeep.symm, hover.symm⟩

theorem length_keepLast (n : Nat) (l : List δ) : (keepLast n l).length = min n l.length := by
  rw [keepLast, List.length_drop]
  omega

theorem length_keepLast_le (n : Nat) (l : List δ) : (keepLast n l).length ≤ n := by
  rw [length_keepLast]
  exact Nat.min_le_left n _

end Lists

namespace Fifos

variable {ι δ : Type*} [DecidableEq ι]

/-- Empty queues and nothing logged. -/
def init : Fifos ι δ := ⟨fun _ => [], ⟨[], [], [], []⟩⟩

/-- The queue `i` becomes `q`, and nothing is logged. -/
def setQueue (f : Fifos ι δ) (i : ι) (q : List δ) : Fifos ι δ :=
  { f with queue := fun j => if j = i then q else f.queue j }

/-- The queue `i` becomes what fits of `q`; the rest is dropped. -/
def fill (f : Fifos ι δ) (limit : ι → Nat) (i : ι) (q : List δ) : Fifos ι δ :=
  { f.setQueue i (keepLast (limit i) q) with
    log := { f.log with freed := f.log.freed ++ overflow (limit i) q } }

/-- An element is handed in; where it goes is up to the caller. -/
def handIn (f : Fifos ι δ) (x : δ) : Fifos ι δ :=
  { f with log := { f.log with handed := f.log.handed ++ [x] } }

/-- A push or an append that makes a queue too long drops its oldest elements. -/
def step (limit : ι → Nat) (f : Fifos ι δ) : FifoOp ι δ → Fifos ι δ
  | .push i x true => (f.handIn x).fill limit i (f.queue i ++ [x])
  | .push _ x false =>
      { f.handIn x with log := { (f.handIn x).log with refused := f.log.refused ++ [x] } }
  | .pop i =>
      { f.setQueue i (f.queue i).tail with
        log := { f.log with returned := f.log.returned ++ (f.queue i).head?.toList } }
  | .append i j => (f.setQueue j []).fill limit i (f.queue i ++ f.queue j)
  | .clear i =>
      { f.setQueue i [] with log := { f.log with freed := f.log.freed ++ f.queue i } }

/-- One operation after another. -/
def run (limit : ι → Nat) : Fifos ι δ → List (FifoOp ι δ) → Fifos ι δ
  | f, [] => f
  | f, op :: ops => run limit (f.step limit op) ops

/-! ## Bounds -/

variable {limit : ι → Nat} {f : Fifos ι δ}

@[simp] theorem setQueue_queue (i j : ι) (q : List δ) :
    (f.setQueue i q).queue j = if j = i then q else f.queue j := rfl

@[simp] theorem setQueue_log (i : ι) (q : List δ) : (f.setQueue i q).log = f.log := rfl

theorem setQueue_setQueue (i : ι) (q q' : List δ) :
    (f.setQueue i q).setQueue i q' = f.setQueue i q' := by
  simp only [setQueue, mk.injEq, and_true]
  funext j
  split <;> rfl

theorem setQueue_self (i : ι) : f.setQueue i (f.queue i) = f := by
  have hqueue : (fun j => if j = i then f.queue i else f.queue j) = f.queue := by
    funext j
    split
    · next h => rw [h]
    · rfl
  rw [setQueue, hqueue]

theorem fill_setQueue (i : ι) (q q' : List δ) :
    (f.setQueue i q').fill limit i q = f.fill limit i q := by
  rw [fill, setQueue_setQueue, setQueue_log, fill]

/-- Filling a queue with what it holds, with nothing allowed to stay. -/
theorem fill_zero (i : ι) :
    f.fill (fun _ => 0) i (f.queue i) = f.step limit (.clear i) := by
  simp only [fill, step, keepLast, overflow, Nat.sub_zero, List.drop_length, List.take_length]

/-- What fits is kept. -/
theorem fill_of_length_le {i : ι} {q : List δ} (h : q.length ≤ limit i) :
    f.fill limit i q = f.setQueue i q := by
  simp only [fill, keepLast_of_length_le h, overflow_of_length_le h, List.append_nil]
  rfl

/-- One element too many is dropped by itself. -/
theorem fill_cons {i : ι} {x : δ} {q : List δ} (h : limit i ≤ q.length) :
    fill { f.setQueue i q with log := { f.log with freed := f.log.freed ++ [x] } } limit i q =
      f.fill limit i (x :: q) := by
  have hqueue : ({ f.setQueue i q with
      log := { f.log with freed := f.log.freed ++ [x] } } : Fifos ι δ).setQueue i
        (keepLast (limit i) q) =
      { f.setQueue i (keepLast (limit i) q) with
        log := { f.log with freed := f.log.freed ++ [x] } } :=
    congrArg (fun g : Fifos ι δ => (⟨g.queue, _⟩ : Fifos ι δ)) (setQueue_setQueue i q _)
  simp only [fill, hqueue, keepLast_cons h, overflow_cons h, List.append_assoc,
    List.singleton_append]

/-- Appending an empty queue. -/
theorem step_append_of_empty {i j : ι} (hj : f.queue j = []) (hi : (f.queue i).length ≤ limit i) :
    f.step limit (.append i j) = f := by
  have hself : f.setQueue j [] = f := by rw [← hj, setQueue_self]
  rw [step, hself, hj, List.append_nil, fill_of_length_le hi, setQueue_self]

/-- Appending a queue is pushing its first element, and appending the rest. -/
theorem step_append_of_cons {i j : ι} {x : δ} {q : List δ} (hne : i ≠ j)
    (hj : f.queue j = x :: q) :
    ((f.setQueue j q).fill limit i (f.queue i ++ [x])).step limit (.append i j) =
      f.step limit (.append i j) := by
  obtain ⟨hkeep, hover⟩ := keepLast_keepLast_append (limit i) (f.queue i ++ [x]) q
  have hall : f.queue i ++ [x] ++ q = f.queue i ++ f.queue j := by
    rw [hj, List.append_assoc, List.singleton_append]
  rw [hall] at hkeep hover
  simp only [step, fill, setQueue, if_pos, if_neg hne.symm, mk.injEq, FifoLog.mk.injEq, true_and,
    and_true, List.append_assoc] at hkeep hover ⊢
  refine ⟨funext fun k => ?_, ?_⟩
  · split
    · exact hkeep
    · split <;> rfl
  · rw [hover]

/-- Every queue keeps to its limit. -/
def Bounded (f : Fifos ι δ) (limit : ι → Nat) : Prop := ∀ i, (f.queue i).length ≤ limit i

theorem Bounded.setQueue (h : f.Bounded limit) {i : ι} {q : List δ} (hq : q.length ≤ limit i) :
    (f.setQueue i q).Bounded limit := by
  intro j
  rw [setQueue_queue]
  split
  case isTrue heq => exact heq ▸ hq
  case isFalse => exact h j

theorem Bounded.fill (h : f.Bounded limit) (i : ι) (q : List δ) :
    (f.fill limit i q).Bounded limit :=
  h.setQueue (length_keepLast_le _ _)

theorem Bounded.step (h : f.Bounded limit) (op : FifoOp ι δ) : (f.step limit op).Bounded limit := by
  rcases op with ⟨i, x, _ | _⟩ | i | ⟨i, j⟩ | i
  · exact h
  · exact Bounded.fill (f := f.handIn x) h i _
  · exact h.setQueue (by rw [List.length_tail]; exact (Nat.sub_le ..).trans (h i))
  · exact (h.setQueue (Nat.zero_le _)).fill i _
  · exact h.setQueue (Nat.zero_le _)

/-! ## Where the elements are -/

variable [Fintype ι] [DecidableEq δ]

/-- How often the queues hold an element. -/
def inQueues (f : Fifos ι δ) (x : δ) : Nat := ∑ i, (f.queue i).count x

/-- How often an element is held or has been dropped. -/
def taken (f : Fifos ι δ) (x : δ) : Nat := f.inQueues x + f.log.freed.count x

theorem inQueues_setQueue (f : Fifos ι δ) (i : ι) (q : List δ) (x : δ) :
    (f.setQueue i q).inQueues x + (f.queue i).count x = f.inQueues x + q.count x := by
  have hrest : ∑ j ∈ Finset.univ.erase i, ((f.setQueue i q).queue j).count x =
      ∑ j ∈ Finset.univ.erase i, (f.queue j).count x := by
    refine Finset.sum_congr rfl fun j hj => ?_
    rw [setQueue_queue, if_neg (Finset.ne_of_mem_erase hj)]
  have hnew := Finset.add_sum_erase Finset.univ (fun j => ((f.setQueue i q).queue j).count x)
    (Finset.mem_univ i)
  have hold := Finset.add_sum_erase Finset.univ (fun j => (f.queue j).count x)
    (Finset.mem_univ i)
  simp only [setQueue_queue, if_pos] at hnew
  simp only [setQueue_queue] at hrest
  unfold inQueues
  simp only [setQueue_queue]
  omega

theorem taken_fill (f : Fifos ι δ) (limit : ι → Nat) (i : ι) (q : List δ) (x : δ) :
    (f.fill limit i q).taken x + (f.queue i).count x = f.taken x + q.count x := by
  have hsplit : (overflow (limit i) q).count x + (keepLast (limit i) q).count x = q.count x := by
    rw [← List.count_append, overflow_append_keepLast]
  have hqueues := inQueues_setQueue f i (keepLast (limit i) q) x
  have hfill : (f.fill limit i q).taken x =
      (f.setQueue i (keepLast (limit i) q)).inQueues x +
        (f.log.freed.count x + (overflow (limit i) q).count x) := by
    rw [← List.count_append]
    rfl
  rw [hfill]
  unfold taken
  omega

/-- A queue is not appended to itself. -/
def Proper : FifoOp ι δ → Prop
  | .append i j => i ≠ j
  | _ => True

/-- The elements an operation puts into a queue for the first time. -/
def accepted : FifoOp ι δ → List δ
  | .push _ x true => [x]
  | _ => []

/-- The elements an operation refuses. -/
def rejected : FifoOp ι δ → List δ
  | .push _ x false => [x]
  | _ => []

/-- The elements an operation gives back. -/
def popped (f : Fifos ι δ) : FifoOp ι δ → List δ
  | .pop i => (f.queue i).head?.toList
  | _ => []

omit [Fintype ι] [DecidableEq δ] in
/-- What a step adds to the log, the dropped elements apart. -/
theorem step_log (limit : ι → Nat) (f : Fifos ι δ) (op : FifoOp ι δ) :
    (f.step limit op).log.handed = f.log.handed ++ (accepted op ++ rejected op) ∧
      (f.step limit op).log.returned = f.log.returned ++ f.popped op ∧
      (f.step limit op).log.refused = f.log.refused ++ rejected op := by
  rcases op with ⟨i, x, _ | _⟩ | i | ⟨i, j⟩ | i <;>
    simp [step, fill, handIn, accepted, rejected, popped]

/-- Only an accepted push and a pop change how often an element is held or dropped. -/
theorem taken_step {op : FifoOp ι δ} (hop : Proper op) (x : δ) :
    (f.step limit op).taken x + (f.popped op).count x = f.taken x + (accepted op).count x := by
  rcases op with ⟨i, y, _ | _⟩ | i | ⟨i, j⟩ | i
  · rfl
  · have hfill : ((f.handIn y).fill limit i (f.queue i ++ [y])).taken x + (f.queue i).count x =
        f.taken x + (f.queue i ++ [y]).count x := taken_fill (f.handIn y) limit i _ x
    rw [List.count_append] at hfill
    show ((f.handIn y).fill limit i (f.queue i ++ [y])).taken x + 0 = f.taken x + [y].count x
    omega
  · have hqueues := inQueues_setQueue f i (f.queue i).tail x
    have hhead : (f.queue i).count x =
        (f.queue i).head?.toList.count x + (f.queue i).tail.count x := by
      rcases f.queue i with _ | ⟨y, rest⟩
      · rfl
      · rw [← List.count_append]
        rfl
    show (f.setQueue i (f.queue i).tail).inQueues x + f.log.freed.count x +
        (f.queue i).head?.toList.count x = f.inQueues x + f.log.freed.count x
    omega
  · have hne : i ≠ j := hop
    have hfill := taken_fill (f.setQueue j []) limit i (f.queue i ++ f.queue j) x
    have hclear := inQueues_setQueue f j [] x
    rw [setQueue_queue, if_neg hne, List.count_append] at hfill
    rw [List.count_nil] at hclear
    have htaken : (f.setQueue j []).taken x = (f.setQueue j []).inQueues x +
        f.log.freed.count x := rfl
    show ((f.setQueue j []).fill limit i (f.queue i ++ f.queue j)).taken x =
      f.inQueues x + f.log.freed.count x
    omega
  · have hqueues := inQueues_setQueue f i [] x
    rw [List.count_nil] at hqueues
    show (f.setQueue i []).inQueues x + (f.log.freed ++ f.queue i).count x =
      f.inQueues x + f.log.freed.count x
    rw [List.count_append]
    omega

/-- Every time an element was handed in, it has gone to one place. -/
def Accounted (f : Fifos ι δ) : Prop :=
  ∀ x, f.log.handed.count x = f.taken x + f.log.returned.count x + f.log.refused.count x

theorem Accounted.step {op : FifoOp ι δ} (h : f.Accounted) (hop : Proper op) :
    (f.step limit op).Accounted := by
  intro x
  obtain ⟨hhanded, hreturned, hrefused⟩ := step_log limit f op
  have htaken : (f.step limit op).taken x + (f.popped op).count x =
      f.taken x + (accepted op).count x := taken_step hop x
  have hx := h x
  rw [hhanded, hreturned, hrefused]
  simp only [List.count_append]
  omega

/-- Whoever pushes an element has it: no queue holds it, and it has not been dropped. -/
def Owns (f : Fifos ι δ) : FifoOp ι δ → Prop
  | .push _ x _ => f.taken x = 0
  | _ => True

/-- Then an element is in one queue, once, or has been dropped once, or neither. -/
theorem taken_step_le {op : FifoOp ι δ} (h : ∀ x, f.taken x ≤ 1) (hop : Proper op)
    (hown : f.Owns op) (x : δ) : (f.step limit op).taken x ≤ 1 := by
  have htaken : (f.step limit op).taken x + (f.popped op).count x =
      f.taken x + (accepted op).count x := taken_step hop x
  have hx := h x
  have haccepted : f.taken x + (accepted op).count x ≤ 1 := by
    rcases op with ⟨i, y, _ | _⟩ | i | ⟨i, j⟩ | i
    case push.true =>
      by_cases hxy : y = x
      · subst hxy
        have hnone : f.taken y = 0 := hown
        rw [accepted, List.count_singleton_self]
        omega
      · rw [accepted, List.count_singleton, if_neg (by simpa using hxy)]
        exact hx
    all_goals exact hx
  omega

/-! ## One place -/

/-- Where an element handed in can be. -/
inductive Place (ι : Type*)
  | inQueue (i : ι)
  | returned
  | freed
  | refused

/-- The elements there. -/
def elementsAt (f : Fifos ι δ) : Place ι → List δ
  | .inQueue i => f.queue i
  | .returned => f.log.returned
  | .freed => f.log.freed
  | .refused => f.log.refused

omit [DecidableEq ι] in
theorem count_queue_le (f : Fifos ι δ) (i : ι) (x : δ) : (f.queue i).count x ≤ f.inQueues x :=
  Finset.single_le_sum (f := fun j => (f.queue j).count x) (fun _ _ => Nat.zero_le _)
    (Finset.mem_univ i)

theorem count_queues_le (f : Fifos ι δ) {i j : ι} (hne : i ≠ j) (x : δ) :
    (f.queue i).count x + (f.queue j).count x ≤ f.inQueues x := by
  have hclear := inQueues_setQueue f j [] x
  have hi := count_queue_le (f.setQueue j []) i x
  rw [setQueue_queue, if_neg hne] at hi
  rw [List.count_nil] at hclear
  omega

/-- An element that has been handed in once is in one place, once. -/
theorem existsUnique_place (h : f.Accounted) {x : δ} (hx : f.log.handed.count x = 1) :
    (∃! p, x ∈ f.elementsAt p) ∧ ∀ p, (f.elementsAt p).count x ≤ 1 := by
  have hsum := h x
  rw [hx, taken] at hsum
  have hle : ∀ p, (f.elementsAt p).count x ≤ 1 := by
    rintro (i | _ | _ | _)
    · have := count_queue_le f i x
      exact this.trans (by omega)
    all_goals
      simp only [elementsAt]
      omega
  -- two places would make two
  have hpair : ∀ p q : Place ι, x ∈ f.elementsAt p → x ∈ f.elementsAt q → p = q := by
    intro p q hp hq
    replace hp := List.count_pos_iff.mpr hp
    replace hq := List.count_pos_iff.mpr hq
    rcases p with i | _ | _ | _ <;> rcases q with j | _ | _ | _ <;> simp only [elementsAt] at hp hq
    case inQueue.inQueue =>
      by_contra hne
      have := count_queues_le f (fun heq => hne (congrArg _ heq)) x
      omega
    case inQueue.returned | inQueue.freed | inQueue.refused =>
      have := count_queue_le f i x
      omega
    case returned.inQueue | freed.inQueue | refused.inQueue =>
      have := count_queue_le f j x
      omega
    all_goals first | rfl | omega
  obtain ⟨p, hp⟩ : ∃ p, x ∈ f.elementsAt p := by
    by_contra hnone
    rw [not_exists] at hnone
    have hqueues : f.inQueues x = 0 :=
      Finset.sum_eq_zero fun i _ => List.count_eq_zero.mpr (hnone (.inQueue i))
    have hreturned := List.count_eq_zero.mpr (hnone .returned)
    have hfreed := List.count_eq_zero.mpr (hnone .freed)
    have hrefused := List.count_eq_zero.mpr (hnone .refused)
    simp only [elementsAt] at hreturned hfreed hrefused
    omega
  exact ⟨⟨p, hp, fun q hq => hpair q p hq hp⟩, hle⟩

/-! ## Whole runs -/

/-- Every operation of a run is proper. -/
theorem accounted_run {ops : List (FifoOp ι δ)} (hops : ∀ op ∈ ops, Proper op)
    (h : f.Accounted) : (f.run limit ops).Accounted := by
  induction ops generalizing f with
  | nil => exact h
  | cons op ops ih =>
      exact ih (fun o ho => hops o (List.mem_cons_of_mem _ ho))
        (h.step (hops op (List.mem_cons_self ..)))

omit [Fintype ι] [DecidableEq δ] in
theorem bounded_run {ops : List (FifoOp ι δ)} (h : f.Bounded limit) :
    (f.run limit ops).Bounded limit := by
  induction ops generalizing f with
  | nil => exact h
  | cons op ops ih => exact ih (h.step op)

/-- Every push of a run is of an element its caller has. -/
def OwnsAll (limit : ι → Nat) : Fifos ι δ → List (FifoOp ι δ) → Prop
  | _, [] => True
  | f, op :: ops => f.Owns op ∧ OwnsAll limit (f.step limit op) ops

theorem taken_run_le {ops : List (FifoOp ι δ)} (hops : ∀ op ∈ ops, Proper op)
    (hown : OwnsAll limit f ops) (h : ∀ x, f.taken x ≤ 1) (x : δ) :
    (f.run limit ops).taken x ≤ 1 := by
  induction ops generalizing f with
  | nil => exact h x
  | cons op ops ih =>
      exact ih (fun o ho => hops o (List.mem_cons_of_mem _ ho)) hown.2
        (taken_step_le h (hops op (List.mem_cons_self ..)) hown.1)

end Fifos

end Smi240Hal.Lib
