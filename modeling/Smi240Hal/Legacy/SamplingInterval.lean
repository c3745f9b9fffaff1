/-
# Smi240Hal.Legacy.SamplingInterval — which requested rates the polling interval honours

The two exposed sensors share one polling interval, and only the accelerometer's configuration is
written to it.  `Requests` is the history of the calls as the rate law sees it: which sensors are
enabled, the period each was last batched with, and the period of the accelerometer configuration
that was last sent.  `RateInv` says that the driver's arrays and interval are those of the history;
what remains is the grid of rates, `pollInterval`.

The grid is cut at the periods where the `float` quotient falls on a rate of the table, which is a
few nanoseconds before the exact quotient does.
-/
import Smi240Hal.Legacy.HwcntlSteps

namespace Smi240Hal.Legacy

open Smi240Hal.Lib

/-! ## The grid of rates -/

/-- The interval an accelerometer request of this period sets. -/
def pollInterval (periodNs : Int) : Nat := codeInterval (encodeDatarate periodNs)

theorem dataHz_antitone {p q : Int} (hp : 0 < p) (h : p ≤ q) : dataHz q ≤ dataHz p := by
  have hp' : (0 : ℚ) < p := by exact_mod_cast hp
  have hround : BinaryFloat.round 23 p ≤ BinaryFloat.round 23 q :=
    BinaryFloat.round_mono hp' (by exact_mod_cast h)
  have hpos : 0 < BinaryFloat.round 23 q := lt_of_lt_of_le (BinaryFloat.round_pos hp') hround
  apply BinaryFloat.round_mono (by positivity)
  exact div_le_div_of_nonneg_left (by norm_num) (BinaryFloat.round_pos hp') hround

/-- A rate is exceeded by the periods below a bound, if the two periods around the bound say so. -/
theorem lt_dataHz_iff {hz : ℚ} {below bound p : Int} (hp : 0 < p) (hsucc : below + 1 = bound)
    (hbound : 0 < bound) (hbelow : hz < dataHz below) (hat : dataHz bound ≤ hz) :
    hz < dataHz p ↔ p < bound := by
  constructor
  · intro h
    by_contra hge
    have := dataHz_antitone hbound (show bound ≤ p by omega)
    linarith
  · intro h
    have := dataHz_antitone hp (show p ≤ below by omega)
    linarith

/-- The rate of a period that is a `float`, when the quotient is one too. -/
theorem dataHz_of_exact {p k l m n : ℤ} (hplow : (2 : ℚ) ^ k ≤ p) (hphigh : (p : ℚ) < 2 ^ (k + 1))
    (hp : (p : ℚ) = m * 2 ^ (k - 23)) (hlow : (2 : ℚ) ^ l ≤ 1000000000 / p)
    (hhigh : (1000000000 / p : ℚ) < 2 ^ (l + 1)) (hq : (1000000000 / p : ℚ) = n * 2 ^ (l - 23)) :
    dataHz p = 1000000000 / p := by
  rw [dataHz, BinaryFloat.round_of_exact hplow hphigh hp, BinaryFloat.round_of_exact hlow hhigh hq]

/-- A `float` that the quotient exceeds is exceeded by the rounded quotient, or equal to it. -/
theorem le_dataHz {p l n : ℤ} {f q : ℚ} (hf : BinaryFloat.round 23 p = f) (hlow : (2 : ℚ) ^ l ≤ q)
    (hhigh : q < 2 ^ (l + 1)) (hq : q = n * 2 ^ (l - 23)) (hle : q ≤ 1000000000 / f) :
    q ≤ dataHz p := by
  have hpos : 0 < q := lt_of_lt_of_le (by positivity) hlow
  have := BinaryFloat.round_mono (d := 23) hpos hle
  rw [BinaryFloat.round_of_exact hlow hhigh hq] at this
  rw [dataHz, hf]
  exact this

theorem dataHz_500000 : dataHz 500000 = 2000 := by
  rw [dataHz_of_exact (k := 18) (m := 16000000) (l := 10) (n := 16384000)] <;> norm_num

theorem dataHz_5000000 : dataHz 5000000 = 200 := by
  rw [dataHz_of_exact (k := 22) (m := 10000000) (l := 7) (n := 13107200)] <;> norm_num

theorem dataHz_10000000 : dataHz 10000000 = 100 := by
  rw [dataHz_of_exact (k := 23) (m := 10000000) (l := 6) (n := 13107200)] <;> norm_num

/-- The period lies half way between two `float`s, and the even one is 20 ms. -/
theorem dataHz_19999999 : dataHz 19999999 = 50 := by
  have hround : BinaryFloat.round 23 ((19999999 : ℤ) : ℚ) = 20000000 := by
    rw [BinaryFloat.round_eq (k := 24) (by norm_num) (by norm_num)]
    norm_num [BinaryFloat.roundEven]
  rw [dataHz, hround, BinaryFloat.round_of_exact (k := 5) (m := 13107200)] <;> norm_num

/-- The first of the periods whose nearest `float` is 200 ms. -/
theorem dataHz_199999992 : dataHz 199999992 = 5 := by
  have hround : BinaryFloat.round 23 ((199999992 : ℤ) : ℚ) = 200000000 := by
    rw [BinaryFloat.round_eq (k := 27) (by norm_num) (by norm_num)]
    norm_num [BinaryFloat.roundEven]
  rw [dataHz, hround, BinaryFloat.round_of_exact (k := 2) (m := 10485760)] <;> norm_num

theorem lt_dataHz_4999999 : 200 < dataHz 4999999 := by
  have hround : BinaryFloat.round 23 ((4999999 : ℤ) : ℚ) = 4999999 := by
    rw [BinaryFloat.round_of_exact (k := 22) (m := 9999998)] <;> norm_num
  have := le_dataHz (l := 7) (n := 13107201) (q := 13107201 / 65536) hround
    (by norm_num) (by norm_num) (by norm_num) (by norm_num)
  linarith

theorem lt_dataHz_9999999 : 100 < dataHz 9999999 := by
  have hround : BinaryFloat.round 23 ((9999999 : ℤ) : ℚ) = 9999999 := by
    rw [BinaryFloat.round_of_exact (k := 23) (m := 9999999)] <;> norm_num
  have := le_dataHz (l := 6) (n := 13107201) (q := 13107201 / 131072) hround
    (by norm_num) (by norm_num) (by norm_num) (by norm_num)
  linarith

theorem lt_dataHz_19999998 : 50 < dataHz 19999998 := by
  have hround : BinaryFloat.round 23 ((19999998 : ℤ) : ℚ) = 19999998 := by
    rw [BinaryFloat.round_of_exact (k := 24) (m := 9999999)] <;> norm_num
  have := le_dataHz (l := 5) (n := 13107201) (q := 13107201 / 262144) hround
    (by norm_num) (by norm_num) (by norm_num) (by norm_num)
  linarith

theorem lt_dataHz_199999991 : 5 < dataHz 199999991 := by
  have hround : BinaryFloat.round 23 ((199999991 : ℤ) : ℚ) = 199999984 := by
    rw [BinaryFloat.round_eq (k := 27) (by norm_num) (by norm_num)]
    norm_num [BinaryFloat.roundEven]
  rw [dataHz, hround, BinaryFloat.round_eq (k := 2) (by norm_num) (by norm_num)]
  norm_num [BinaryFloat.roundEven]

theorem pollInterval_of_rate {p : Int} (hp : p ≠ 0) (hmax : dataHz p ≤ 2000) :
    pollInterval p =
      if 200 < dataHz p then 2500 else if 100 < dataHz p then 5000
      else if 50 < dataHz p then 10000 else if 5 < dataHz p then 20000 else 200000 := by
  rw [pollInterval, codeInterval, encodeDatarate_eq hp, convertODR_rateCode hmax]
  simp only [apply_ite fun odr => US_PER_SEC / odr]
  rfl

/-- The interval by the period, in the range of the two sensors. -/
theorem pollInterval_eq {p : Int} (hmin : 500000 ≤ p) :
    pollInterval p =
      if p < 5000000 then 2500 else if p < 10000000 then 5000
      else if p < 19999999 then 10000 else if p < 199999992 then 20000 else 200000 := by
  have hp : 0 < p := by omega
  have hmax : dataHz p ≤ 2000 := dataHz_500000 ▸ dataHz_antitone (by norm_num) hmin
  have h200 := lt_dataHz_iff hp (by norm_num) (by norm_num) lt_dataHz_4999999 dataHz_5000000.le
  have h100 := lt_dataHz_iff hp (by norm_num) (by norm_num) lt_dataHz_9999999 dataHz_10000000.le
  have h50 := lt_dataHz_iff hp (by norm_num) (by norm_num) lt_dataHz_19999998 dataHz_19999999.le
  have h5 := lt_dataHz_iff hp (by norm_num) (by norm_num) lt_dataHz_199999991 dataHz_199999992.le
  rw [pollInterval_of_rate hp.ne' hmax]
  simp only [h200, h100, h50, h5]

/-- The interval set for an accelerometer request of period `sent` is short enough for a request of
`wanted`. -/
def Covers (sent wanted : Int) : Prop :=
  sent < 5000000 ∨ (sent < 10000000 ∧ 5000000 ≤ wanted) ∨ (sent < 19999999 ∧ 10000000 ≤ wanted) ∨
    (sent < 199999992 ∧ 20000000 ≤ wanted) ∨ 200000000 ≤ wanted

theorem covers_iff {sent wanted : Int} (hmin : 500000 ≤ sent) :
    (pollInterval sent : Int) * 1000 ≤ max wanted 2500000 ↔ Covers sent wanted := by
  unfold Covers
  rw [pollInterval_eq hmin]
  split_ifs <;> omega

/-- A sensor whose own period was sent is polled often enough, unless that period is just below
20 ms or 200 ms. -/
theorem covers_self_iff {p : Int} (hmax : p ≤ 200000000) :
    Covers p p ↔ p ≠ 19999999 ∧ ¬ (199999992 ≤ p ∧ p < 200000000) := by
  unfold Covers
  omega

/-! ## The history of the calls -/

/-- What the calls so far ask for, by handle. -/
structure Requests where
  enabled : Int → Bool
  period : Int → Option Int
  /-- the period of the accelerometer configuration that was last sent -/
  sent : Option Int

namespace Requests

/-- The period of the configuration a sensor has before its first batch. -/
def defaultPeriod : Int := 20000000

/-- No request yet, and nothing sent to the kernel. -/
def init : Requests where
  enabled _ := false
  period _ := none
  sent := none

/-- A call on a handle that is not in the sensor list asks for nothing. -/
def step (r : Requests) : PollCall → Requests
  | .activate handle enabled =>
      { r with
        enabled := fun h => if h = handle then decide (enabled ≠ 0) else r.enabled h
        sent := if handle = BSX_SENSOR_ID_ACCELEROMETER ∧ enabled ≠ 0 then
            some ((r.period handle).getD defaultPeriod)
          else r.sent }
  | .batch handle periodNs _ =>
      match getSensorT handle with
      | none => r
      | some (p, _) =>
          { r with
            period := fun h => if h = handle then some (p.clampPeriod periodNs) else r.period h
            sent := if handle = BSX_SENSOR_ID_ACCELEROMETER ∧ r.enabled handle then
                some (p.clampPeriod periodNs)
              else r.sent }

end Requests

/-- The requests after a sequence of calls. -/
def requests (calls : List PollCall) : Requests := calls.foldl Requests.step .init

theorem requests_append (calls : List PollCall) (c : PollCall) :
    requests (calls ++ [c]) = (requests calls).step c := by
  simp [requests]

/-- What holds of the requests after any calls: periods are clamped ones, and while the
accelerometer is enabled its own period is the one that was sent. -/
structure Requests.Sound (r : Requests) : Prop where
  period : ∀ h p, r.period h = some p → 500000 ≤ p ∧ p ≤ 200000000
  sent : ∀ p, r.sent = some p → 500000 ≤ p
  own : r.enabled BSX_SENSOR_ID_ACCELEROMETER = true →
    r.sent = some ((r.period BSX_SENSOR_ID_ACCELEROMETER).getD defaultPeriod)

theorem Requests.Sound.getD {r : Requests} (h : r.Sound) (handle : Int) :
    500000 ≤ (r.period handle).getD defaultPeriod := by
  cases hp : r.period handle with
  | none => decide
  | some p => exact (h.period handle p hp).1

theorem Requests.Sound.step {r : Requests} (h : r.Sound) (c : PollCall) : (r.step c).Sound := by
  cases c with
  | activate handle enabled =>
      refine ⟨h.period, fun p hp => ?_, fun hen => ?_⟩
      · simp only [Requests.step] at hp
        split at hp
        · cases hp
          exact h.getD handle
        · exact h.sent p hp
      · simp only [Requests.step] at hen ⊢
        split at hen
        case isTrue heq =>
          rw [if_pos ⟨heq.symm, of_decide_eq_true hen⟩, heq]
        case isFalse hne =>
          rw [if_neg fun hboth => hne hboth.1.symm]
          exact h.own hen
  | batch handle periodNs latency =>
      simp only [Requests.step]
      split
      case h_1 => exact h
      case h_2 p i hget =>
        have hclamp := clampPeriod_bounds hget periodNs
        refine ⟨fun j q hq => ?_, fun q hq => ?_, fun hen => ?_⟩
        · dsimp only at hq
          split at hq
          · cases hq
            exact hclamp
          · exact h.period j q hq
        · dsimp only at hq
          split at hq
          · cases hq
            exact hclamp.1
          · exact h.sent q hq
        · dsimp only at hen ⊢
          by_cases heq : handle = BSX_SENSOR_ID_ACCELEROMETER
          · rw [if_pos ⟨heq, heq ▸ hen⟩, if_pos heq.symm, Option.getD_some]
          · rw [if_neg fun hboth => heq hboth.1, if_neg fun hsym => heq hsym.symm]
            exact h.own hen

theorem requests_sound (calls : List PollCall) : (requests calls).Sound := by
  induction calls using List.reverseRecOn with
  | nil => exact ⟨by simp [requests, Requests.init], by simp [requests, Requests.init],
      by simp [requests, Requests.init]⟩
  | append_singleton calls c ih =>
      rw [requests_append]
      exact ih.step c

/-! ## The driver follows the history -/

/-- The call of the configuration arrays a call of the poll device makes. -/
def confCall : PollCall → Option ConfCall
  | .activate handle enabled => (getSensorT handle).map fun e => .activate e.2 enabled
  | .batch handle periodNs latency =>
      (getSensorT handle).map fun e => .batch e.2 ⟨e.1.clampPeriod periodNs, latency, 0⟩

/-- The calls that reach the active configuration. -/
def confCalls (calls : List PollCall) : List ConfCall := calls.filterMap confCall

theorem confCalls_append (calls : List PollCall) (c : PollCall) :
    confCalls (calls ++ [c]) = confCalls calls ++ (confCall c).toList := by
  rw [confCalls, List.filterMap_append]
  cases h : confCall c with
  | none => simp [h, confCalls]
  | some d => simp [h, confCalls]

/-- The arrays, the accelerometer's configuration and the interval are those of the calls. -/
structure RateInv (s : HwConfig) (calls : List PollCall) : Prop where
  tracks : Tracks s.configs (confCalls calls)
  enabled : ∀ h e, getSensorT h = some e →
    (requests calls).enabled h = enabledAfter (confCalls calls) h
  config : ∃ cfg, s.configs.nonwk.config[1]? = some cfg ∧ cfg.dataRate = encodeDatarate
    (((requests calls).period BSX_SENSOR_ID_ACCELEROMETER).getD Requests.defaultPeriod)
  interval : s.samplingInterval = ((requests calls).sent.map pollInterval).getD US_PER_SEC

theorem encodeDatarate_default : encodeDatarate Requests.defaultPeriod = BSX_CONFSTR_50Hz := by
  have hz : dataHz Requests.defaultPeriod = 50 := by
    show dataHz 20000000 = 50
    rw [dataHz_of_exact (k := 24) (m := 10000000) (l := 5) (n := 13107200)] <;> norm_num
  rw [encodeDatarate_eq (by decide), rateCode_eq (by rw [hz]; norm_num), hz]
  norm_num

theorem rateInv_init : RateInv .init [] where
  tracks := tracks_init
  enabled _ _ _ := rfl
  config := ⟨_, rfl, encodeDatarate_default.symm⟩
  interval := rfl

/-- A call on a handle that is not in the sensor list. -/
theorem RateInv.of_unlisted {s : HwConfig} {calls : List PollCall} {c : PollCall}
    (h : RateInv s calls) (hconf : confCall c = none)
    (hreq : ∀ e, getSensorT e = none ∨
      ((requests (calls ++ [c])).enabled e = (requests calls).enabled e ∧
        (requests (calls ++ [c])).period e = (requests calls).period e))
    (hsent : (requests (calls ++ [c])).sent = (requests calls).sent) : RateInv s (calls ++ [c]) := by
  have hcalls : confCalls (calls ++ [c]) = confCalls calls := by
    rw [confCalls_append, hconf, Option.toList_none, List.append_nil]
  refine ⟨hcalls ▸ h.tracks, fun e entry he => ?_, ?_, hsent ▸ h.interval⟩
  · rw [hcalls, ((hreq e).resolve_left (by rw [he]; exact nofun)).1]
    exact h.enabled e entry he
  · rw [((hreq BSX_SENSOR_ID_ACCELEROMETER).resolve_left (by decide)).2]
    exact h.config

/-- An activate call: the arrays follow, and an enabled accelerometer sends its configuration. -/
theorem rateInv_activate {s : HwConfig} {calls : List PollCall} {handle enabled : Int}
    (h : RateInv s calls) :
    ∃ ret t, s.apActivate handle enabled = some (ret, t) ∧
      RateInv t (calls ++ [.activate handle enabled]) := by
  cases hget : getSensorT handle with
  | none =>
      obtain ⟨ret, hret⟩ := apActivate_of_unlisted (s := s) hget enabled
      have hne : handle ≠ BSX_SENSOR_ID_ACCELEROMETER := by
        rintro rfl
        exact absurd hget (by decide)
      refine ⟨ret, s, hret, h.of_unlisted (by simp [confCall, hget]) (fun e => ?_) ?_⟩
      · rw [requests_append]
        by_cases he : e = handle
        · exact Or.inl (he ▸ hget)
        · exact Or.inr ⟨if_neg he, rfl⟩
      · rw [requests_append]
        exact if_neg fun hboth => hne hboth.1
  | some e =>
      obtain ⟨p, i⟩ := e
      obtain ⟨r, confs, own, hdone, hown, hret⟩ := apActivate_eq h.tracks hget enabled
      obtain ⟨_, rfl, hexp, _⟩ := getSensorT_spec hget
      obtain ⟨cfg, hcfg, hrate⟩ := h.config
      obtain rfl : own = cfg := Option.some_inj.mp (hown.symm.trans hcfg)
      have hcalls : confCalls (calls ++ [.activate i enabled]) =
          confCalls calls ++ [.activate i enabled] := by
        simp [confCalls_append, confCall, hget]
      have hsame : confs.nonwk.config = s.configs.nonwk.config :=
        activateConfigrefResort_config hdone.done .nonwk
      refine ⟨0, _, hret, ?_, ?_, ?_, ?_⟩
      · rw [hcalls]
        exact hdone.tracks
      · intro j e hj
        rw [hcalls, requests_append, enabledAfter_activate]
        simp only [Requests.step]
        by_cases hji : j = i
        · rw [if_pos hji, if_pos hji.symm]
        · rw [if_neg hji, if_neg (Ne.symm hji)]
          exact h.enabled j e hj
      · rw [requests_append]
        exact ⟨own, by rw [hsame, hcfg], hrate⟩
      · rw [requests_append]
        simp only [Requests.step]
        split
        case isTrue hboth =>
          rw [Option.map_some, Option.getD_some, pollInterval, hrate, hboth.1]
        case isFalse => exact h.interval

/-- A batch: the table keeps the clamped period, and an enabled accelerometer sends it. -/
theorem rateInv_batch {s : HwConfig} {calls : List PollCall} {handle periodNs latency : Int}
    (h : RateInv s calls) :
    ∃ ret t, s.apBatch handle periodNs latency = some (ret, t) ∧
      RateInv t (calls ++ [.batch handle periodNs latency]) := by
  cases hget : getSensorT handle with
  | none =>
      obtain ⟨ret, hret⟩ := apBatchWith_of_unlisted s batchConfigrefResort hget periodNs latency
      have hreq : requests (calls ++ [.batch handle periodNs latency]) = requests calls := by
        simp [requests_append, Requests.step, hget]
      exact ⟨ret, s, hret, h.of_unlisted (by simp [confCall, hget])
        (fun e => Or.inr (by rw [hreq]; exact ⟨rfl, rfl⟩)) (by rw [hreq])⟩
  | some e =>
      obtain ⟨p, i⟩ := e
      have hret := apBatch_eq h.tracks hget periodNs latency
      obtain ⟨_, rfl, hexp, _⟩ := getSensorT_spec hget
      have hcalls : confCalls (calls ++ [.batch i periodNs latency]) =
          confCalls calls ++ [.batch i ⟨p.clampPeriod periodNs, latency, 0⟩] := by
        simp [confCalls_append, confCall, hget]
      refine ⟨0, _, hret, ?_, ?_, ?_, ?_⟩
      · rw [hcalls]
        exact (h.tracks.setEntry i _).batch _ _
      · intro j e hj
        rw [hcalls, requests_append, enabledAfter_batch]
        simp only [Requests.step, hget]
        exact h.enabled j e hj
      · -- the accelerometer's entry: the new one, or the old one
        obtain ⟨own, hown, hcase⟩ :=
          exists_entry_setEntry h.tracks hexp (batchEntry dataHz p periodNs latency)
        rw [requests_append]
        simp only [Requests.step, hget]
        refine ⟨own, hown, ?_⟩
        by_cases hi : i = BSX_SENSOR_ID_ACCELEROMETER
        · rw [if_pos hi] at hcase
          rw [if_pos hi.symm, hcase]
          rfl
        · obtain ⟨cfg, hcfg, hrate⟩ := h.config
          rw [if_neg hi, hcfg, Option.some_inj] at hcase
          rw [if_neg (Ne.symm hi), ← hcase, hrate]
      · rw [requests_append]
        simp only [Requests.step, hget, h.enabled i _ hget]
        split
        case isTrue hboth =>
          rw [Option.map_some, Option.getD_some]
          rfl
        case isFalse => exact h.interval

/-- A call succeeds, and the driver goes on following the calls. -/
theorem rateInv_call {s : HwConfig} {calls : List PollCall} (h : RateInv s calls) (c : PollCall) :
    ∃ ret t, s.call c = some (ret, t) ∧ RateInv t (calls ++ [c]) := by
  cases c with
  | activate handle enabled => exact rateInv_activate h
  | batch handle periodNs latency => exact rateInv_batch h

/-- So does every sequence of calls. -/
theorem run_rateInv (calls : List PollCall) :
    ∃ t, pollDevice.run .init calls = some t ∧ RateInv t calls := by
  apply Machine.exists_run_history (P := fun calls s => RateInv s calls) (V := fun _ => True) _
    rateInv_init fun _ _ => trivial
  intro before s c h _
  obtain ⟨ret, t, hcall, ht⟩ := rateInv_call h c
  refine ⟨t, ?_, ht⟩
  show (s.call c).map Prod.snd = some t
  rw [hcall, Option.map_some]

/-! ## The rate law -/

/-- An active sensor that has been batched is polled at least as often as it asked for, or at
400 Hz. -/
def HwConfig.RateHonoured (s : HwConfig) (calls : List PollCall) (e : SensorT × Int) : Prop :=
  s.configs.Active e.2 → ∀ p, (requests calls).period e.1.handle = some p →
    (s.samplingInterval : Int) * 1000 ≤ max p 2500000

theorem RateInv.active_iff {s : HwConfig} {calls : List PollCall} (h : RateInv s calls)
    {handle i : Int} {p : SensorT} (hget : getSensorT handle = some (p, i)) :
    s.configs.Active i ↔ (requests calls).enabled handle = true := by
  obtain ⟨_, rfl, _⟩ := getSensorT_spec hget
  have hactive : s.configs.Active i ↔ enabledAfter (confCalls calls) i = true :=
    h.tracks.active_iff (inList_of_getSensorT hget)
  rw [hactive, h.enabled i _ hget]

/-- The interval is short enough for a period exactly if the accelerometer's request that was last
sent covers it. -/
theorem RateInv.interval_le_iff {s : HwConfig} {calls : List PollCall} (h : RateInv s calls)
    {p : Int} (hp : p ≤ 200000000) :
    (s.samplingInterval : Int) * 1000 ≤ max p 2500000 ↔
      ∃ a, (requests calls).sent = some a ∧ Covers a p := by
  rw [h.interval]
  cases hsent : (requests calls).sent with
  | none =>
      have hsec : US_PER_SEC = 1000000 := rfl
      simp only [Option.map_none, Option.getD_none, hsec, reduceCtorEq, false_and, exists_false,
        iff_false]
      omega
  | some a =>
      rw [Option.map_some, Option.getD_some,
        covers_iff ((requests_sound calls).sent a hsent)]
      constructor
      · exact fun hcov => ⟨a, rfl, hcov⟩
      · rintro ⟨b, hb, hcov⟩
        cases hb
        exact hcov

/-- After every sequence of calls, every active sensor that has been batched is polled often enough
exactly if

* the accelerometer, when it is active and batched, has not been batched with a period just below
  20 ms or 200 ms;
* the gyroscope, when it is active and batched, has a period that is covered by the period of the
  accelerometer configuration that was last sent, and there is one. -/
theorem rates_honoured_iff (calls : List PollCall) :
    ∃ s, pollDevice.run .init calls = some s ∧
      ((∀ e ∈ boschSensorlist, s.RateHonoured calls e) ↔
        ((requests calls).enabled BSX_SENSOR_ID_ACCELEROMETER = true →
          ∀ p, (requests calls).period BSX_SENSOR_ID_ACCELEROMETER = some p →
            p ≠ 19999999 ∧ ¬ (199999992 ≤ p ∧ p < 200000000)) ∧
        ((requests calls).enabled BSX_SENSOR_ID_GYROSCOPE_UNCALIBRATED = true →
          ∀ p, (requests calls).period BSX_SENSOR_ID_GYROSCOPE_UNCALIBRATED = some p →
            ∃ a, (requests calls).sent = some a ∧ Covers a p)) := by
  obtain ⟨s, hrun, hinv⟩ := run_rateInv calls
  refine ⟨s, hrun, ?_⟩
  have hsound := requests_sound calls
  obtain ⟨acc, hacc⟩ : ∃ acc, getSensorT BSX_SENSOR_ID_ACCELEROMETER = some (acc, 1) := ⟨_, rfl⟩
  obtain ⟨gyr, hgyr⟩ : ∃ gyr, getSensorT BSX_SENSOR_ID_GYROSCOPE_UNCALIBRATED = some (gyr, 16) :=
    ⟨_, rfl⟩
  have hlist : boschSensorlist = [(acc, 1), (gyr, 16)] := by
    cases hacc
    cases hgyr
    rfl
  rw [hlist, List.forall_mem_cons, List.forall_mem_singleton]
  apply and_congr
  · unfold HwConfig.RateHonoured
    rw [hinv.active_iff hacc, (getSensorT_spec hacc).1]
    apply forall_congr'
    intro hen
    apply forall_congr'
    intro p
    apply forall_congr'
    intro hp
    have hmax := (hsound.period _ p hp).2
    -- the accelerometer's own period is the one that was sent
    have hsent : (requests calls).sent = some p := by
      rw [hsound.own hen, hp, Option.getD_some]
    rw [hinv.interval_le_iff hmax, ← covers_self_iff hmax, hsent]
    constructor
    · rintro ⟨a, ha, hcov⟩
      cases ha
      exact hcov
    · exact fun hcov => ⟨p, rfl, hcov⟩
  · unfold HwConfig.RateHonoured
    rw [hinv.active_iff hgyr, (getSensorT_spec hgyr).1]
    apply forall_congr'
    intro _
    apply forall_congr'
    intro p
    apply forall_congr'
    intro hp
    exact hinv.interval_le_iff (hsound.period _ p hp).2

/-- The gyroscope alone, enabled and batched with 5 ms, is polled once a second. -/
theorem rate_ignored_gyroscope :
    ¬ ∀ (calls : List PollCall) (s : HwConfig), pollDevice.run .init calls = some s →
      ∀ e ∈ boschSensorlist, s.RateHonoured calls e := by
  intro hall
  obtain ⟨s, hrun, hinv⟩ := run_rateInv [.activate 16 1, .batch 16 5000000 0]
  obtain ⟨gyr, hgyr⟩ : ∃ gyr, getSensorT 16 = some (gyr, 16) := ⟨_, rfl⟩
  have hmem : (gyr, (16 : Int)) ∈ boschSensorlist := List.mem_of_find?_eq_some hgyr
  have hle := hall _ s hrun _ hmem ((hinv.active_iff hgyr).mpr rfl) 5000000
    (by rw [(getSensorT_spec hgyr).1]; rfl)
  have hinterval : s.samplingInterval = US_PER_SEC := hinv.interval
  rw [hinterval] at hle
  exact absurd hle (by decide)

end Smi240Hal.Legacy
