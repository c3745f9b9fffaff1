/-
# Smi240Hal.Legacy.ActiveConfigSorted — the active arrays hold exactly the active sensors

`Holds b S` says that a bank's array is the ascending list `S` of offsets, packed at its front, with
its counter.  One call of `activate_configref_resort` takes such a bank to such a bank whose members
are those asked for; a batch changes the configuration table only.  The run lemma then says which
list it is after any sequence of calls: the indices whose last activate call was an enable.
-/
import Smi240Hal.Legacy.ActiveConfig

namespace Smi240Hal.Legacy

open Smi240Hal.Lib

/-! ## One bank -/

/-- The bank holds the references with the offsets `S`, in ascending order. -/
structure ConfBank.Holds (b : ConfBank) (S : List Int) : Prop where
  refers : b.configRefers = SlotArray.packed S 32
  cnt : b.activeSensorCnt = S.length
  ascending : S.Pairwise (· < ·)
  range : ∀ x ∈ S, 0 ≤ x ∧ x < 32
  config : b.config.length = 32

theorem ConfBank.Holds.length_le {b : ConfBank} {S : List Int} (h : b.Holds S) : S.length ≤ 32 :=
  SlotArray.length_le_of_ascending h.ascending h.range

section Activate

variable {b : ConfBank} {base k isEnable : Int} {l r : List Int}

/-- `k` belongs between what is smaller and what is larger. -/
theorem ascending_insert (h : (l ++ r).Pairwise (· < ·)) (hl : ∀ x ∈ l, x < k)
    (hr : ∀ x ∈ r, k < x) : (l ++ k :: r).Pairwise (· < ·) := by
  obtain ⟨hpl, hpr, hlr⟩ := List.pairwise_append.mp h
  refine List.pairwise_append.mpr ⟨hpl, List.pairwise_cons.mpr ⟨hr, hpr⟩, fun x hx y hy => ?_⟩
  rcases List.mem_cons.mp hy with rfl | hy
  · exact hl x hx
  · exact hlr x hx y hy

theorem not_mem_between (hl : ∀ x ∈ l, x < k) (hr : ∀ x ∈ r, k < x) : k ∉ l ++ r := by
  intro hmem
  rcases List.mem_append.mp hmem with hmem | hmem
  · exact absurd (hl k hmem) (Int.lt_irrefl k)
  · exact absurd (hr k hmem) (Int.lt_irrefl k)

theorem range_insert (h : b.Holds (l ++ r)) (hk : 0 ≤ k ∧ k < 32) :
    ∀ x ∈ l ++ k :: r, 0 ≤ x ∧ x < 32 := by
  intro x hx
  rcases List.mem_append.mp hx with hx | hx
  · exact h.range x (by simp [hx])
  · rcases List.mem_cons.mp hx with rfl | hx
    · exact hk
    · exact h.range x (by simp [hx])

/-- A bank that lacks `k` has an empty slot left. -/
theorem room_of_lacks (h : b.Holds (l ++ r)) (hk : 0 ≤ k ∧ k < 32) (hl : ∀ x ∈ l, x < k)
    (hr : ∀ x ∈ r, k < x) : (l ++ r).length < 32 := by
  have hlen := SlotArray.length_le_of_ascending (ascending_insert h.ascending hl hr)
    (range_insert h hk)
  simp only [List.length_append, List.length_cons] at hlen ⊢
  omega

/-- The result of an activate call on a bank that holds `S`: the return value says whether `k` had
to be added or removed, and the bank holds what was asked for. -/
def Activated (b : ConfBank) (S : List Int) (k isEnable : Int) (out : Option (Int × ConfBank)) :
    Prop :=
  ∃ b' S', out = some (if k ∈ S ↔ isEnable ≠ 0 then 0 else 1, b') ∧ b'.Holds S' ∧
    b'.config = b.config ∧ ∀ x, x ∈ S' ↔ if x = k then isEnable ≠ 0 else x ∈ S

/-- Nothing to do: `k` is in the array exactly if that was asked for. -/
theorem activated_same {S : List Int} (h : b.Holds S) (hk : k ∈ S ↔ isEnable ≠ 0) :
    Activated b S k isEnable (some (0, b)) := by
  refine ⟨b, S, by rw [if_pos hk], h, rfl, fun x => ?_⟩
  split
  case isTrue hx => rw [hx, hk]
  case isFalse => exact Iff.rfl

/-- The counter after an insertion. -/
theorem cnt_succ {n : Nat} (h : n < 32) : (n + 1) % 2 ^ 32 = n + 1 :=
  Nat.mod_eq_of_lt (by omega)

/-- The counter after a deletion. -/
theorem cnt_pred {n : Nat} (h : n < 32) : (n + 1 + (2 ^ 32 - 1)) % 2 ^ 32 = n := by
  omega

theorem asInt_of_le {n : Nat} (h : n ≤ 32) : asInt n = n := by
  unfold asInt
  rw [if_pos (by omega)]

/-- A new reference in front of larger ones (or behind all others): the bank afterwards. -/
theorem activated_insert (h : b.Holds (l ++ r)) (hk : 0 ≤ k ∧ k < 32) (hl : ∀ x ∈ l, x < k)
    (hr : ∀ x ∈ r, k < x) (hen : isEnable ≠ 0) {refers : List (Option Int)}
    (hrefers : refers = SlotArray.packed (l ++ k :: r) 32) :
    Activated b (l ++ r) k isEnable
      (some (1, { b with configRefers := refers
                         activeSensorCnt := (b.activeSensorCnt + 1) % 2 ^ 32 })) := by
  have hnot := not_mem_between hl hr
  have hroom := room_of_lacks h hk hl hr
  have hcnt : (b.activeSensorCnt + 1) % 2 ^ 32 = (l ++ k :: r).length := by
    rw [h.cnt, cnt_succ hroom]
    simp only [List.length_append, List.length_cons]
    omega
  refine ⟨{ b with configRefers := refers, activeSensorCnt := (b.activeSensorCnt + 1) % 2 ^ 32 },
    l ++ k :: r, by rw [if_neg (fun hiff => hnot (hiff.mpr hen))], ?_, rfl, fun x => ?_⟩
  · exact ⟨hrefers, hcnt, ascending_insert h.ascending hl hr, range_insert h hk, h.config⟩
  · simp only [List.mem_append, List.mem_cons]
    split
    case isTrue hx => exact ⟨fun _ => hen, fun _ => Or.inr (Or.inl hx)⟩
    case isFalse hx => simp [hx]

/-- The reference `k` taken out: the bank afterwards. -/
theorem activated_delete (h : b.Holds (l ++ k :: r)) (hdis : ¬ isEnable ≠ 0)
    {refers : List (Option Int)} (hrefers : refers = SlotArray.packed (l ++ r) 32) :
    Activated b (l ++ k :: r) k isEnable
      (some (1, { b with configRefers := refers, activeSensorCnt := (l ++ r).length })) := by
  obtain ⟨hpl, hpr, hlr⟩ := List.pairwise_append.mp h.ascending
  have hasc : (l ++ r).Pairwise (· < ·) :=
    List.pairwise_append.mpr ⟨hpl, (List.pairwise_cons.mp hpr).2,
      fun x hx y hy => hlr x hx y (List.mem_cons_of_mem k hy)⟩
  have hnotl : k ∉ l := fun hmem => absurd (hlr k hmem k (by simp)) (Int.lt_irrefl k)
  have hnotr : k ∉ r := fun hmem => absurd ((List.pairwise_cons.mp hpr).1 k hmem) (Int.lt_irrefl k)
  have hmem : k ∈ l ++ k :: r := by simp
  refine ⟨{ b with configRefers := refers, activeSensorCnt := (l ++ r).length }, l ++ r,
    by rw [if_neg (fun hiff => hdis (hiff.mp hmem))], ?_, rfl, fun x => ?_⟩
  · refine ⟨hrefers, rfl, hasc, fun x hx => h.range x ?_, h.config⟩
    rcases List.mem_append.mp hx with hx | hx <;> simp [hx]
  · split
    case isTrue hx =>
      rw [hx]
      exact ⟨fun hin => absurd hin (by simp [hnotl, hnotr]), fun hin => absurd hin hdis⟩
    case isFalse hx => simp [hx]

/-- The loop at the first NULL slot, behind every reference. -/
theorem activateLoop_empty (h : b.Holds l) (hk : 0 ≤ k ∧ k < 32) (hl : ∀ x ∈ l, x < k)
    (hroom : l.length < 32) (n : Nat) :
    Activated b l k isEnable (activateLoop base (base + k) isEnable b (n + 1) l.length) := by
  have hsub : base + k - base = k := by omega
  have hnot : k ∉ l := fun hmem => absurd (hl k hmem) (Int.lt_irrefl k)
  rw [activateLoop, h.refers, SlotArray.load_packed_empty hroom, Option.bind_eq_bind,
    Option.bind_some]
  by_cases hen : isEnable ≠ 0
  · simp only [if_pos hen, hsub, SlotArray.store_packed_end k hroom, Option.bind_eq_bind,
      Option.bind_some]
    have := activated_insert (r := []) (by rwa [List.append_nil]) hk hl (by simp) hen rfl
    rwa [List.append_nil] at this
  · simp only [if_neg hen]
    exact activated_same h ⟨fun hin => absurd hin hnot, fun hin => absurd hin hen⟩

/-- The loop at the reference of `k` itself. -/
theorem activateLoop_found (h : b.Holds (l ++ k :: r)) (n : Nat) :
    Activated b (l ++ k :: r) k isEnable
      (activateLoop base (base + k) isEnable b (n + 1) l.length) := by
  have hlen := h.length_le
  have hcnt : b.activeSensorCnt = (l ++ r).length + 1 := by
    rw [h.cnt]
    simp only [List.length_append, List.length_cons]
    omega
  have hroom : (l ++ r).length < 32 := by
    simp only [List.length_append, List.length_cons] at hlen ⊢
    omega
  rw [activateLoop, h.refers, SlotArray.load_packed_entry, Option.bind_eq_bind, Option.bind_some]
  simp only [if_neg (Int.lt_irrefl (base + k)), if_true]
  by_cases hen : isEnable ≠ 0
  · simp only [if_pos hen]
    exact activated_same h ⟨fun _ => hen, fun _ => by simp⟩
  · -- present and to go: the larger ones move down, and the last slot becomes NULL
    simp only [if_neg hen, hcnt, cnt_pred hroom, asInt_of_le (Nat.le_of_lt hroom)]
    have hdel := SlotArray.delete_packed hlen
    rw [← Option.bind_eq_bind] at hdel
    obtain ⟨moved, hmoved, hstore⟩ := Option.bind_eq_some_iff.mp hdel
    simp only [Option.bind_eq_bind, hmoved, Option.bind_some, hstore]
    exact activated_delete h hen rfl

/-- The loop at the first reference that is larger. -/
theorem activateLoop_larger (h : b.Holds (l ++ r)) (hk : 0 ≤ k ∧ k < 32) (hl : ∀ x ∈ l, x < k)
    (hr : ∀ x ∈ r, k < x) {x : Int} {rest : List Int} (hfirst : r = x :: rest) (n : Nat) :
    Activated b (l ++ r) k isEnable
      (activateLoop base (base + k) isEnable b (n + 1) l.length) := by
  have hsub : base + k - base = k := by omega
  have hlt : k < x := hr x (by simp [hfirst])
  have hload : SlotArray.load b.configRefers l.length = some (some x) := by
    rw [h.refers, hfirst]
    exact SlotArray.load_packed_entry
  have hnot := not_mem_between hl hr
  rw [activateLoop, hload, Option.bind_eq_bind, Option.bind_some]
  simp only [if_neg (show ¬ base + k > base + x by omega),
    if_neg (show ¬ base + k = base + x by omega)]
  by_cases hen : isEnable ≠ 0
  · -- absent and to come: the larger ones move up, and there is a free slot behind them
    have hfits := room_of_lacks h hk hl hr
    simp only [if_pos hen, hsub, h.refers, h.cnt, asInt_of_le h.length_le]
    have hins := SlotArray.insert_packed k hfits
    obtain ⟨moved, hmoved, hstore⟩ := Option.bind_eq_some_iff.mp hins
    simp only [Option.bind_eq_bind, hmoved, Option.bind_some, hstore]
    have := activated_insert h hk hl hr hen rfl
    rwa [h.cnt] at this
  · simp only [if_neg hen]
    exact activated_same h ⟨fun hin => absurd hin hnot, fun hin => absurd hin hen⟩

/-- The loop, at a slot behind entries that are all smaller than `k`. -/
theorem activateLoop_activated (hk : 0 ≤ k ∧ k < 32) (n : Nat) :
    ∀ l r : List Int, b.Holds (l ++ r) → (∀ x ∈ l, x < k) → n + l.length = 32 →
      Activated b (l ++ r) k isEnable (activateLoop base (base + k) isEnable b n l.length) := by
  induction n with
  | zero =>
      -- a full array of smaller entries would not fit below `k`
      intro l r h hl hn
      have hlen := h.length_le
      have hbelow : l.length ≤ k.toNat := by
        apply SlotArray.length_le_of_ascending (List.pairwise_append.mp h.ascending).1
        intro x hx
        have := h.range x (by simp [hx])
        have := hl x hx
        omega
      omega
  | succ n ih =>
      intro l r h hl hn
      cases r with
      | nil =>
          rw [List.append_nil] at h ⊢
          exact activateLoop_empty h hk hl (by omega) n
      | cons x r =>
          have hxr := (List.pairwise_cons.mp (List.pairwise_append.mp h.ascending).2.1).1
          rcases Int.lt_trichotomy x k with hgt | rfl | hlt
          · -- the entry is smaller: the next slot
            rw [activateLoop, h.refers, SlotArray.load_packed_entry, Option.bind_eq_bind,
              Option.bind_some]
            simp only [if_pos (show base + k > base + x by omega)]
            have hshift : l ++ x :: r = (l ++ [x]) ++ r := by simp
            have hlen' : (l ++ [x]).length = l.length + 1 := by simp
            have := ih (l ++ [x]) r (hshift ▸ h) (fun y hy => ?_) (by omega)
            · rwa [hlen', ← hshift] at this
            · rcases List.mem_append.mp hy with hy | hy
              · exact hl y hy
              · rw [List.mem_singleton.mp hy]
                exact hgt
          · exact activateLoop_found h n
          · have hall : ∀ y ∈ x :: r, k < y := by
              intro y hy
              rcases List.mem_cons.mp hy with rfl | hy
              · exact hlt
              · exact hlt.trans (hxr y hy)
            exact activateLoop_larger h hk hl hall rfl n

end Activate

section Batch

variable {b : ConfBank} {base k : Int} {a : BatchArgs}

/-- The search of `batch_configref_resort`: what the call returns, and the entry it writes. -/
def batchTarget (base bsxListIndex : Int) (b : ConfBank) : Nat → Nat → Option (Int × Int)
  | 0, _ => some (0, bsxListIndex - base)
  | n + 1, i => do
      let slot ← SlotArray.load b.configRefers i
      let ref ← slot
      if bsxListIndex = base + ref then some (1, ref)
      else batchTarget base bsxListIndex b n (i + 1)

theorem batchLoop_target (bsxListIndex : Int) (n : Nat) : ∀ i : Nat,
    batchLoop base bsxListIndex a b n i = (batchTarget base bsxListIndex b n i).bind
      fun t => (writeConfig b t.2 a).map fun b' => (t.1, b') := by
  induction n with
  | zero => exact fun _ => rfl
  | succ n ih =>
      intro i
      rw [batchLoop, batchTarget]
      rcases SlotArray.load b.configRefers i with _ | _ | ref
      · rfl
      · rfl
      · simp only [Option.bind_eq_bind, Option.bind_some]
        split
        · rfl
        · exact ih (i + 1)

/-- A batch with a non-zero period stores one configuration inside the table. -/
theorem writeConfig_eq (hlen : b.config.length = 32) (hk : 0 ≤ k ∧ k < 32)
    (hp : a.samplingPeriodNs ≠ 0) :
    ∃ c, batchConfig a = some c ∧
      writeConfig b k a = some { b with config := b.config.set k.toNat c } := by
  obtain ⟨c, hc⟩ : ∃ c, batchConfig a = some c := by
    unfold batchConfig
    rw [if_neg hp]
    exact ⟨_, rfl⟩
  refine ⟨c, hc, ?_⟩
  have hin : k.toNat < b.config.length := by omega
  simp only [writeConfig, if_pos hk.1, hc, SlotArray.store, if_pos hin, Option.bind_eq_bind,
    Option.bind_some]

/-- The search finds `k` exactly if it is active, and ends at the same entry either way. -/
theorem batchTarget_eq (n : Nat) : ∀ l r : List Int, b.Holds (l ++ r) → k ∉ l → n = r.length →
    batchTarget base (base + k) b n l.length = some (if k ∈ l ++ r then 1 else 0, k) := by
  induction n with
  | zero =>
      intro l r h hl hn
      obtain rfl : r = [] := List.length_eq_zero_iff.mp hn.symm
      have hsub : base + k - base = k := by omega
      rw [batchTarget, List.append_nil, if_neg hl, hsub]
  | succ n ih =>
      intro l r h hl hn
      cases r with
      | nil => cases hn
      | cons x r =>
          rw [batchTarget, h.refers, SlotArray.load_packed_entry]
          simp only [Option.bind_eq_bind, Option.bind_some]
          by_cases heq : x = k
          · subst heq
            rw [if_pos rfl, if_pos (by simp)]
          · rw [if_neg (by omega)]
            have hshift : l ++ x :: r = (l ++ [x]) ++ r := by simp
            have hlen' : (l ++ [x]).length = l.length + 1 := by simp
            have hnot : k ∉ l ++ [x] := by
              intro hmem
              rcases List.mem_append.mp hmem with hmem | hmem
              · exact hl hmem
              · exact heq (List.mem_singleton.mp hmem).symm
            have := ih (l ++ [x]) r (hshift ▸ h) hnot (Nat.succ.inj hn)
            rwa [hlen', ← hshift] at this

end Batch

/-! ## Sequences of calls -/

/-- A call of one of the two functions. -/
inductive ConfCall
  | activate (bsxListIndex isEnable : Int)
  | batch (bsxListIndex : Int) (a : BatchArgs)
deriving DecidableEq

namespace ConfCall

/-- The list index it is about. -/
def index : ConfCall → Int
  | activate i _ => i
  | batch i _ => i

/-- The index names a sensor, and a batch has a period. -/
def Valid (c : ConfCall) : Prop :=
  (0 ≤ c.index ∧ c.index < SENSORLIST_INX_END) ∧
    match c with
    | activate _ _ => True
    | batch _ a => a.samplingPeriodNs ≠ 0

end ConfCall

/-- `none` is an access outside an array. -/
def ActiveConfigs.call (s : ActiveConfigs) : ConfCall → Option (Int × ActiveConfigs)
  | .activate i isEnable => activateConfigrefResort s i isEnable
  | .batch i a => batchConfigrefResort s i a

/-- The globals of the two functions under a sequence of calls. -/
def activeConfigs : Machine ActiveConfigs ConfCall where
  Start s := s = .init
  step s c := (s.call c).map Prod.snd

/-- The last activate call of an index was an enable. -/
def enabledAfter (calls : List ConfCall) (i : Int) : Bool :=
  calls.foldl
    (fun enabled c =>
      match c with
      | .activate j isEnable => if j = i then decide (isEnable ≠ 0) else enabled
      | .batch _ _ => enabled)
    false

theorem enabledAfter_activate (calls : List ConfCall) (i j isEnable : Int) :
    enabledAfter (calls ++ [.activate i isEnable]) j =
      if i = j then decide (isEnable ≠ 0) else enabledAfter calls j := by
  simp [enabledAfter]

theorem enabledAfter_batch (calls : List ConfCall) (i j : Int) (a : BatchArgs) :
    enabledAfter (calls ++ [.batch i a]) j = enabledAfter calls j := by
  simp [enabledAfter]

/-- The offsets of a range whose last activate call was an enable, in ascending order. -/
def activeOffsets (calls : List ConfCall) (r : ConfRange) : List Int :=
  ((List.range 32).map Int.ofNat).filter fun k => enabledAfter calls (r.base + k)

theorem mem_activeOffsets {calls : List ConfCall} {r : ConfRange} {x : Int} :
    x ∈ activeOffsets calls r ↔ (0 ≤ x ∧ x < 32) ∧ enabledAfter calls (r.base + x) = true := by
  unfold activeOffsets
  rw [List.mem_filter]
  apply and_congr_left
  intro _
  constructor
  · intro hx
    obtain ⟨n, hn, rfl⟩ := List.mem_map.mp hx
    have := List.mem_range.mp hn
    exact ⟨Int.natCast_nonneg n, by show (n : Int) < 32; omega⟩
  · rintro ⟨h0, h32⟩
    exact List.mem_map.mpr ⟨x.toNat, List.mem_range.mpr (by omega), by show (x.toNat : Int) = x; omega⟩

theorem activeOffsets_ascending (calls : List ConfCall) (r : ConfRange) :
    (activeOffsets calls r).Pairwise (· < ·) := by
  apply List.Pairwise.filter _
  rw [List.pairwise_map]
  exact List.pairwise_lt_range.imp fun h => Int.ofNat_lt.mpr h

/-- Every bank holds what the calls made so far ask for. -/
def Tracks (s : ActiveConfigs) (calls : List ConfCall) : Prop :=
  ∀ r, (s.bank r).Holds (activeOffsets calls r)

theorem tracks_init : Tracks .init [] := by
  intro r
  have hnil : activeOffsets [] r = [] := List.filter_eq_nil_iff.mpr fun _ _ => by
    simp [enabledAfter]
  rw [hnil]
  cases r <;> exact ⟨rfl, rfl, List.Pairwise.nil, by simp, rfl⟩

/-- A valid index is an offset of its own range, and of no other. -/
theorem offset_of_valid {i : Int} (hi : 0 ≤ i ∧ i < SENSORLIST_INX_END) :
    ∃ k, (0 ≤ k ∧ k < 32) ∧ (ConfRange.of i).base + k = i ∧ (ConfRange.of i).loopEnd = 32 ∧
      ∀ q, q ≠ ConfRange.of i → ∀ x, 0 ≤ x ∧ x < 32 → q.base + x ≠ i := by
  have hend : SENSORLIST_INX_END = 64 := rfl
  unfold ConfRange.of
  split
  case isTrue h =>
    have h31 : i ≤ 31 := h
    refine ⟨i, by omega, by show (0 : Int) + i = i; omega, rfl, fun q hq x hx => ?_⟩
    cases q with
    | nonwk => exact absurd rfl hq
    | wk => show (32 : Int) + x ≠ i; omega
  case isFalse h =>
    have h31 : ¬ i ≤ 31 := h
    refine ⟨i - 32, by omega, by show (32 : Int) + (i - 32) = i; omega, rfl, fun q hq x hx => ?_⟩
    cases q with
    | nonwk => show (0 : Int) + x ≠ i; omega
    | wk => exact absurd rfl hq

/-- What one call does to globals that track the calls before it. -/
structure CallDone (s : ActiveConfigs) (calls : List ConfCall) (c : ConfCall) (ret : Int)
    (t : ActiveConfigs) : Prop where
  done : s.call c = some (ret, t)
  tracks : Tracks t (calls ++ [c])
  frame : ∀ q, q ≠ ConfRange.of c.index → t.bank q = s.bank q
  ret : ∀ i isEnable, c = .activate i isEnable →
    ret = if enabledAfter (calls ++ [c]) i = enabledAfter calls i then 0 else 1

theorem activate_done {s : ActiveConfigs} {calls : List ConfCall} {i isEnable : Int}
    (h : Tracks s calls) (hv : (ConfCall.activate i isEnable).Valid) :
    ∃ ret t, CallDone s calls (.activate i isEnable) ret t := by
  have hi : 0 ≤ i ∧ i < SENSORLIST_INX_END := hv.1
  obtain ⟨k, hk, hbase, hloop, hother⟩ := offset_of_valid hi
  obtain ⟨b', S', hout, hholds, _, hmem⟩ : Activated (s.bank (.of i))
      (activeOffsets calls (.of i)) k isEnable
      (activateLoop (ConfRange.of i).base ((ConfRange.of i).base + k) isEnable (s.bank (.of i))
        32 0) :=
    activateLoop_activated hk 32 [] _ (h _) (by simp) rfl
  have henabled : enabledAfter (calls ++ [.activate i isEnable]) i = decide (isEnable ≠ 0) := by
    rw [enabledAfter_activate, if_pos rfl]
  have hkmem : k ∈ activeOffsets calls (.of i) ↔ enabledAfter calls i = true := by
    rw [mem_activeOffsets, hbase]
    exact and_iff_right hk
  rw [hbase] at hout
  have hdone : s.call (.activate i isEnable) = some
      (if k ∈ activeOffsets calls (.of i) ↔ isEnable ≠ 0 then 0 else 1, s.setBank (.of i) b') := by
    show (activateLoop (ConfRange.of i).base i isEnable (s.bank (.of i))
      (ConfRange.of i).loopEnd 0).map _ = _
    rw [hloop, hout, Option.map_some]
  refine ⟨_, _, hdone, fun q => ?_, fun q hq => ?_, ?_⟩
  · by_cases hq : q = .of i
    · subst hq
      have hS : S' = activeOffsets (calls ++ [.activate i isEnable]) (.of i) := by
        apply hholds.ascending.eq_of_mem_iff (activeOffsets_ascending _ _)
        intro x
        rw [hmem x]
        by_cases hx : x = k
        · subst hx
          rw [if_pos rfl, mem_activeOffsets, enabledAfter_activate, if_pos hbase.symm,
            decide_eq_true_iff]
          exact (and_iff_right hk).symm
        · rw [if_neg hx, mem_activeOffsets, mem_activeOffsets, enabledAfter_activate,
            if_neg (by omega)]
      rw [ActiveConfigs.bank_setBank_same, ← hS]
      exact hholds
    · have hS : activeOffsets (calls ++ [.activate i isEnable]) q = activeOffsets calls q := by
        apply (activeOffsets_ascending _ _).eq_of_mem_iff (activeOffsets_ascending _ _)
        intro x
        simp only [mem_activeOffsets, enabledAfter_activate]
        apply and_congr_right
        intro hx
        rw [if_neg (hother q hq x hx).symm]
      rw [ActiveConfigs.bank_setBank_of_ne _ _ hq, hS]
      exact h q
  · exact ActiveConfigs.bank_setBank_of_ne _ _ hq
  · intro j en hc
    cases hc
    rw [henabled]
    refine if_congr ?_ rfl rfl
    rw [hkmem]
    cases enabledAfter calls i <;> simp

/-- An activate call neither reads nor writes the configuration table. -/
theorem activateLoop_withConfig (b : ConfBank) (base k isEnable : Int)
    (config : List SensorConfig) (n : Nat) : ∀ i : Nat,
    activateLoop base k isEnable { b with config := config } n i =
      (activateLoop base k isEnable b n i).map
        fun out => (out.1, { out.2 with config := config }) := by
  induction n with
  | zero => exact fun _ => rfl
  | succ n ih =>
      intro i
      rw [activateLoop, activateLoop]
      simp only [ih]
      rcases SlotArray.load b.configRefers i with _ | _ | ref
      · rfl
      · simp only [Option.bind_eq_bind, Option.bind_some]
        split
        · rw [Option.map_bind]
          rfl
        · rfl
      · simp only [Option.bind_eq_bind, Option.bind_some]
        split
        · rfl
        · split
          · split
            · rfl
            · rw [Option.map_bind]
              refine Option.bind_congr fun moved _ => ?_
              rw [Function.comp_apply, Option.map_bind]
              rfl
          · split
            · rw [Option.map_bind]
              refine Option.bind_congr fun moved _ => ?_
              rw [Function.comp_apply, Option.map_bind]
              rfl
            · rfl

theorem activateLoop_config {b b' : ConfBank} {base k isEnable ret : Int} {n i : Nat}
    (h : activateLoop base k isEnable b n i = some (ret, b')) : b'.config = b.config := by
  have hsame := activateLoop_withConfig b base k isEnable b.config n i
  rw [h, Option.map_some, Option.some_inj, Prod.mk.injEq] at hsame
  rw [hsame.2]

theorem activateConfigrefResort_config {s t : ActiveConfigs} {i isEnable ret : Int}
    (h : activateConfigrefResort s i isEnable = some (ret, t)) (q : ConfRange) :
    (t.bank q).config = (s.bank q).config := by
  obtain ⟨⟨r, b'⟩, hout, heq⟩ := Option.map_eq_some_iff.mp h
  cases heq
  by_cases hq : q = .of i
  · rw [hq, ActiveConfigs.bank_setBank_same]
    exact activateLoop_config hout
  · rw [ActiveConfigs.bank_setBank_of_ne _ _ hq]

/-- The globals with another configuration for an index. -/
def ActiveConfigs.setEntry (s : ActiveConfigs) (i : Int) (cfg : SensorConfig) : ActiveConfigs :=
  s.setBank (.of i) { s.bank (.of i) with
    config := (s.bank (.of i)).config.set (i - (ConfRange.of i).base).toNat cfg }

section SetEntry

variable {s : ActiveConfigs} {i : Int} {cfg : SensorConfig}

/-- Only the table is written. -/
theorem bank_setEntry (s : ActiveConfigs) (i : Int) (cfg : SensorConfig) (r : ConfRange) :
    ((s.setEntry i cfg).bank r).configRefers = (s.bank r).configRefers ∧
      ((s.setEntry i cfg).bank r).activeSensorCnt = (s.bank r).activeSensorCnt ∧
      ((s.setEntry i cfg).bank r).config.length = (s.bank r).config.length := by
  unfold ActiveConfigs.setEntry
  by_cases hr : r = .of i
  · rw [hr, ActiveConfigs.bank_setBank_same]
    exact ⟨rfl, rfl, List.length_set⟩
  · rw [ActiveConfigs.bank_setBank_of_ne _ _ hr]
    exact ⟨rfl, rfl, rfl⟩

end SetEntry

/-- Which entry a batch of a valid index writes, and what it returns. -/
theorem batchTarget_of_tracks {s : ActiveConfigs} {calls : List ConfCall} {i : Int}
    (h : Tracks s calls) (hi : 0 ≤ i ∧ i < SENSORLIST_INX_END) :
    batchTarget (ConfRange.of i).base i (s.bank (.of i)) (s.bank (.of i)).activeSensorCnt 0 =
        some (if enabledAfter calls i then 1 else 0, i - (ConfRange.of i).base) ∧
      0 ≤ i - (ConfRange.of i).base ∧ i - (ConfRange.of i).base < 32 := by
  obtain ⟨k, hk, hbase, _, _⟩ := offset_of_valid hi
  have hb := h (.of i)
  have hoff : i - (ConfRange.of i).base = k := by omega
  have htarget : batchTarget (ConfRange.of i).base ((ConfRange.of i).base + k) (s.bank (.of i))
      (activeOffsets calls (.of i)).length 0 =
        some (if k ∈ activeOffsets calls (.of i) then 1 else 0, k) :=
    batchTarget_eq _ [] (activeOffsets calls (.of i)) hb List.not_mem_nil rfl
  have hmem : k ∈ activeOffsets calls (.of i) ↔ enabledAfter calls i = true := by
    rw [mem_activeOffsets, hbase]
    exact and_iff_right hk
  rw [hbase] at htarget
  rw [hb.cnt, htarget, hoff, if_congr hmem rfl rfl]
  exact ⟨rfl, hk⟩

/-- What a valid batch returns and stores. -/
theorem batchConfigrefResort_eq {s : ActiveConfigs} {calls : List ConfCall} {i : Int}
    {a : BatchArgs} (h : Tracks s calls) (hv : (ConfCall.batch i a).Valid) :
    ∃ cfg, batchConfig a = some cfg ∧ batchConfigrefResort s i a =
      some (if enabledAfter calls i then 1 else 0, s.setEntry i cfg) := by
  have hi : 0 ≤ i ∧ i < SENSORLIST_INX_END := hv.1
  obtain ⟨htarget, hk⟩ := batchTarget_of_tracks h hi
  obtain ⟨cfg, hcfg, hwrite⟩ := writeConfig_eq (h (.of i)).config hk hv.2
  refine ⟨cfg, hcfg, ?_⟩
  show (batchLoop (ConfRange.of i).base i a (s.bank (.of i))
    (s.bank (.of i)).activeSensorCnt 0).map _ = _
  rw [batchLoop_target, htarget, Option.bind_some, hwrite, Option.map_some, Option.map_some]
  rfl

/-- A write to the table leaves the arrays as the calls ask for them, and so does a batch. -/
theorem Tracks.setEntry {s : ActiveConfigs} {calls : List ConfCall} (h : Tracks s calls) (i : Int)
    (cfg : SensorConfig) : Tracks (s.setEntry i cfg) calls := by
  intro q
  obtain ⟨hrefers, hcnt, hlen⟩ := bank_setEntry s i cfg q
  exact ⟨hrefers.trans (h q).refers, hcnt.trans (h q).cnt, (h q).ascending, (h q).range,
    hlen.trans (h q).config⟩

theorem Tracks.batch {s : ActiveConfigs} {calls : List ConfCall} (h : Tracks s calls) (i : Int)
    (a : BatchArgs) : Tracks s (calls ++ [.batch i a]) := by
  intro q
  have hsame : activeOffsets (calls ++ [.batch i a]) q = activeOffsets calls q := by
    simp only [activeOffsets, enabledAfter_batch]
  rw [hsame]
  exact h q

theorem batch_done {s : ActiveConfigs} {calls : List ConfCall} {i : Int} {a : BatchArgs}
    (h : Tracks s calls) (hv : (ConfCall.batch i a).Valid) :
    ∃ ret t, CallDone s calls (.batch i a) ret t := by
  obtain ⟨cfg, _, hdone⟩ := batchConfigrefResort_eq h hv
  refine ⟨_, _, hdone, (h.setEntry i cfg).batch i a,
    fun q hq => ActiveConfigs.bank_setBank_of_ne _ _ hq, ?_⟩
  intro j en hc
  cases hc

/-- A valid call succeeds, and the globals go on tracking the calls. -/
theorem call_done {s : ActiveConfigs} {calls : List ConfCall} {c : ConfCall} (h : Tracks s calls)
    (hv : c.Valid) : ∃ ret t, CallDone s calls c ret t := by
  cases c with
  | activate i isEnable => exact activate_done h hv
  | batch i a => exact batch_done h hv

/-- So does every sequence of valid calls. -/
theorem run_tracks {calls : List ConfCall} (hv : ∀ c ∈ calls, c.Valid) :
    ∃ t, activeConfigs.run .init calls = some t ∧ Tracks t calls := by
  apply Machine.exists_run_history (P := fun calls s => Tracks s calls) _ tracks_init hv
  intro before s c h hc
  obtain ⟨ret, t, ht⟩ := call_done h hc
  refine ⟨t, ?_, ht.tracks⟩
  show (s.call c).map Prod.snd = some t
  rw [ht.done, Option.map_some]

/-- After every sequence of valid calls, no access having left its array:

* the first `activeSensorCnt` slots of each array are the references of the indices of its range
  whose last activate call was an enable, in ascending order, and all later slots are NULL;
* the counters are at most 32;
* a further call succeeds, leaves the other range as it is, and, when it is an activate call,
  returns 1 exactly if it changes membership. -/
theorem active_arrays_exact (calls : List ConfCall) (hv : ∀ c ∈ calls, c.Valid) :
    ∃ s, activeConfigs.run .init calls = some s ∧
      (∀ r, (s.bank r).configRefers = SlotArray.packed (activeOffsets calls r) 32 ∧
        (s.bank r).activeSensorCnt = (activeOffsets calls r).length ∧
        (activeOffsets calls r).Pairwise (· < ·) ∧ (s.bank r).activeSensorCnt ≤ 32) ∧
      ∀ c : ConfCall, c.Valid → ∃ ret t, s.call c = some (ret, t) ∧
        (∀ q, q ≠ ConfRange.of c.index → t.bank q = s.bank q) ∧
        ∀ i isEnable, c = .activate i isEnable →
          ret = if enabledAfter (calls ++ [c]) i = enabledAfter calls i then 0 else 1 := by
  obtain ⟨s, hrun, htracks⟩ := run_tracks hv
  refine ⟨s, hrun, fun r => ?_, fun c hc => ?_⟩
  · have hr := htracks r
    exact ⟨hr.refers, hr.cnt, hr.ascending, hr.cnt ▸ hr.length_le⟩
  · obtain ⟨ret, t, ht⟩ := call_done htracks hc
    exact ⟨ret, t, ht.done, ht.frame, ht.ret⟩

/-- Three enables out of order, one of them for a wake-up sensor, and a disable of an absent one. -/
theorem active_arrays_exact_four_calls :
    ∃ s, activeConfigs.run .init [.activate 4 1, .activate 33 1, .activate 1 1, .activate 2 0] =
        some s ∧ s.nonwk.configRefers.take 3 = [some 1, some 4, none] ∧
      (∀ r, (s.bank r).configRefers = SlotArray.packed (activeOffsets
          [.activate 4 1, .activate 33 1, .activate 1 1, .activate 2 0] r) 32 ∧
        (s.bank r).activeSensorCnt ≤ 32) := by
  obtain ⟨s, hrun, hbanks, _⟩ := active_arrays_exact
    [.activate 4 1, .activate 33 1, .activate 1 1, .activate 2 0]
    (by
      intro c hc
      simp only [List.mem_cons, List.not_mem_nil, or_false] at hc
      rcases hc with rfl | rfl | rfl | rfl <;> exact ⟨by decide, trivial⟩)
  refine ⟨s, hrun, ?_, fun r => ⟨(hbanks r).1, (hbanks r).2.2.2⟩⟩
  have hs : s.nonwk.configRefers = _ := (hbanks .nonwk).1
  rw [hs]
  decide

/-! ## The two paths of a batch -/

/-- The reference of the index is in the array of its range. -/
def ActiveConfigs.Active (s : ActiveConfigs) (i : Int) : Prop :=
  some (i - (ConfRange.of i).base) ∈ (s.bank (.of i)).configRefers

instance (s : ActiveConfigs) (i : Int) : Decidable (s.Active i) :=
  inferInstanceAs (Decidable (_ ∈ (s.bank (.of i)).configRefers))

theorem Tracks.active_iff {s : ActiveConfigs} {calls : List ConfCall} (h : Tracks s calls) {i : Int}
    (hi : 0 ≤ i ∧ i < SENSORLIST_INX_END) : s.Active i ↔ enabledAfter calls i = true := by
  obtain ⟨k, hk, hbase, _, _⟩ := offset_of_valid hi
  have hoff : i - (ConfRange.of i).base = k := by omega
  rw [ActiveConfigs.Active, (h (.of i)).refers, SlotArray.mem_packed, hoff, mem_activeOffsets, hbase]
  exact and_iff_right hk

/-- The index names a sensor. -/
def ConfCall.InList (c : ConfCall) : Prop := 0 ≤ c.index ∧ c.index < SENSORLIST_INX_END

/-- A call that gets through has a period, if it is a batch. -/
theorem valid_of_step {s t : ActiveConfigs} {calls : List ConfCall} {c : ConfCall}
    (h : Tracks s calls) (hc : c.InList) (ht : activeConfigs.step s c = some t) : c.Valid := by
  cases c with
  | activate i isEnable => exact ⟨hc, trivial⟩
  | batch i a =>
      refine ⟨hc, fun hzero => ?_⟩
      have hi : 0 ≤ i ∧ i < SENSORLIST_INX_END := hc
      obtain ⟨htarget, hk, -⟩ := batchTarget_of_tracks h hi
      have hnone : writeConfig (s.bank (.of i)) (i - (ConfRange.of i).base) a = none := by
        rw [writeConfig, if_pos hk, batchConfig, if_pos hzero]
        rfl
      have hstep : activeConfigs.step s (.batch i a) = none := by
        show (Option.map _ (batchLoop (ConfRange.of i).base i a (s.bank (.of i))
          (s.bank (.of i)).activeSensorCnt 0)).map _ = none
        rw [batchLoop_target, htarget, Option.bind_some, hnone]
        rfl
      rw [hstep] at ht
      cases ht

/-- The states reached by calls on sensors of the list. -/
theorem exists_tracks {s : ActiveConfigs} (h : activeConfigs.ReachUnder (fun _ c => c.InList) s) :
    ∃ calls, Tracks s calls := by
  refine h.invariant (P := fun s => ∃ calls, Tracks s calls) ?_ ?_
  · rintro s rfl
    exact ⟨[], tracks_init⟩
  · rintro s c t ⟨calls, htracks⟩ hc ht
    obtain ⟨ret, u, hu⟩ := call_done htracks (valid_of_step htracks hc ht)
    have hstep : activeConfigs.step s c = some u := by
      show (s.call c).map Prod.snd = some u
      rw [hu.done, Option.map_some]
    rw [hstep] at ht
    cases ht
    exact ⟨_, hu.tracks⟩

end Smi240Hal.Legacy
