/-
# Smi240Hal.Legacy.RateSelection — the polling interval of a requested period

Three tables lie between a requested period and the polling interval: the clamp of the sensor, the
codes of `encode_datarate` with their decoder, and the rates of the chip.  With the quotient of period
and rate taken exactly they compose to one rule, `ChipRate`: the least rate of the chip that is not
below the requested one, or the largest if there is none.
-/
import Smi240Hal.Legacy.HwcntlSteps

namespace Smi240Hal.Legacy

open Smi240Hal.Lib

/-- What the polling thread takes off its interval. -/
def SAMPLING_INTERVAL_OFFSET : Nat := 600

/-- The rate of a period, without rounding. -/
def exactHz (periodNs : Int) : ℚ := 1000000000 / periodNs

/-- The rate of the chip for a requested one. -/
structure ChipRate (hz : ℚ) (odr : Nat) : Prop where
  chip : odr ∈ smi240Rates
  least : ∀ o ∈ smi240Rates, hz ≤ (o : ℚ) → odr ≤ o
  enough : hz ≤ 400 → hz ≤ odr
  above : 400 < hz → odr = 400

theorem le_400_of_mem {odr : Nat} (h : odr ∈ smi240Rates) : odr ≤ 400 := by
  have hall : ∀ o ∈ smi240Rates, o ≤ 400 := by decide
  exact hall odr h

/-- A higher requested rate never gets a lower one. -/
theorem ChipRate.mono {hz hz' : ℚ} {odr odr' : Nat} (h : ChipRate hz odr) (h' : ChipRate hz' odr')
    (hle : hz ≤ hz') : odr ≤ odr' := by
  rcases le_or_gt hz' 400 with hslow | hfast
  · exact h.least odr' h'.chip (hle.trans (h'.enough hslow))
  · rw [h'.above hfast]
    exact le_400_of_mem h.chip

/-- The tables compose to the rule. -/
theorem chipRate_convertODR {hz : ℚ} (hmax : hz ≤ 2000) :
    ChipRate hz (smi240ConvertODR (convertDatarateCode (rateCode hz))) := by
  have hchip := smi240ConvertODR_mem (convertDatarateCode (rateCode hz))
  have hrates : smi240Rates = [5, 50, 100, 200, 400] := rfl
  have hleast : ∀ (odr : Nat) (below : ℚ), (∀ o ∈ smi240Rates, o < odr → (o : ℚ) ≤ below) →
      below < hz → ∀ o ∈ smi240Rates, hz ≤ (o : ℚ) → odr ≤ o := by
    intro odr below hbelow hlt o ho hle
    by_contra hnot
    have := hbelow o ho (Nat.lt_of_not_le hnot)
    linarith
  rw [convertODR_rateCode hmax] at hchip ⊢
  rcases lt_or_ge 200 hz with h200 | h200
  · rw [if_pos h200] at hchip ⊢
    refine ⟨hchip, hleast 400 200 ?_ h200, fun h => by exact_mod_cast h, fun _ => rfl⟩
    simp [hrates]
  · rw [if_neg h200.not_gt] at hchip ⊢
    have hnot : ¬ 400 < hz := by linarith
    rcases lt_or_ge 100 hz with h100 | h100
    · rw [if_pos h100] at hchip ⊢
      refine ⟨hchip, hleast 200 100 ?_ h100, fun _ => by exact_mod_cast h200,
        fun h => absurd h hnot⟩
      simp [hrates]
    · rw [if_neg h100.not_gt] at hchip ⊢
      rcases lt_or_ge 50 hz with h50 | h50
      · rw [if_pos h50] at hchip ⊢
        refine ⟨hchip, hleast 100 50 ?_ h50, fun _ => by exact_mod_cast h100,
          fun h => absurd h hnot⟩
        simp [hrates]
      · rw [if_neg h50.not_gt] at hchip ⊢
        rcases lt_or_ge 5 hz with h5 | h5
        · rw [if_pos h5] at hchip ⊢
          refine ⟨hchip, hleast 50 5 ?_ h5, fun _ => by exact_mod_cast h50, fun h => absurd h hnot⟩
          simp [hrates]
        · rw [if_neg h5.not_gt] at hchip ⊢
          refine ⟨hchip, ?_, fun _ => by exact_mod_cast h5, fun h => absurd h hnot⟩
          simp [hrates]

/-- The code that is sent stands for a rate. -/
theorem convertDatarateCode_rateCode_pos {hz : ℚ} (hmax : hz ≤ 2000) :
    0 < convertDatarateCode (rateCode hz) := by
  have hcodes : ∀ code ∈ [BSX_CONFSTR_2000Hz, BSX_CONFSTR_1600Hz, BSX_CONFSTR_1000Hz,
      BSX_CONFSTR_800Hz, BSX_CONFSTR_400Hz, BSX_CONFSTR_200Hz, BSX_CONFSTR_100Hz, BSX_CONFSTR_50Hz,
      BSX_CONFSTR_25Hz, BSX_CONFSTR_12_5Hz, BSX_CONFSTR_6_25Hz, BSX_CONFSTR_5Hz,
      BSX_CONFSTR_1Hz], 0 < convertDatarateCode code := by
    decide +kernel
  apply hcodes
  rw [rateCode_eq hmax]
  repeat refine iteInduction (fun _ => by decide) fun _ => ?_
  decide

theorem exactHz_antitone {p q : Int} (hp : 0 < p) (h : p ≤ q) : exactHz q ≤ exactHz p := by
  have hp' : (0 : ℚ) < p := by exact_mod_cast hp
  exact div_le_div_of_nonneg_left (by norm_num) hp' (by exact_mod_cast h)

theorem clampPeriod_mono {handle i : Int} {p : SensorT} (hget : getSensorT handle = some (p, i))
    {periodNs periodNs' : Int} (h : periodNs ≤ periodNs') :
    p.clampPeriod periodNs ≤ p.clampPeriod periodNs' := by
  obtain ⟨_, _, _, hmin, hmax, _⟩ := getSensorT_spec hget
  unfold SensorT.clampPeriod
  rw [hmin, hmax]
  split_ifs <;> omega

/-- The faster of two rates has no longer interval. -/
theorem ChipRate.interval_le {hz hz' : ℚ} {rate rate' : Nat} (h : ChipRate hz rate)
    (h' : ChipRate hz' rate') (hle : hz' ≤ hz) : 1000000 / rate ≤ 1000000 / rate' := by
  have hpos : ∀ r ∈ smi240Rates, 0 < r := by decide
  exact Nat.div_le_div_left (h'.mono h hle) (hpos rate' h'.chip)

/-- With exact rates, for every period `p` and latency and in every state reached:

* a batch of the active accelerometer, or a batch and an enable, sets the polling interval to
  `1000000 / odr p`, where `odr p` is the chip's rate for the clamped period;
* what is sent to the chip is a rate, not the mark of a disabled sensor;
* a shorter period never gets a longer interval;
* the interval is at least the offset that the polling thread takes off. -/
theorem rate_selection :
    ∃ (acc : SensorT) (odr : Int → Nat),
      getSensorT BSX_SENSOR_ID_ACCELEROMETER = some (acc, SENSORLIST_INX_ACCELEROMETER) ∧
      (∀ p, ChipRate (exactHz (acc.clampPeriod p)) (odr p)) ∧
      (∀ p, 0 < convertDatarateCode (encodeDatarateOf exactHz (acc.clampPeriod p)) ∧
        convertDatarateCode (encodeDatarateOf exactHz (acc.clampPeriod p)) ≠
          SAMPLE_RATE_DISABLED) ∧
      (∀ p q, p ≤ q → 1000000 / odr p ≤ 1000000 / odr q) ∧
      ∀ s, (pollDeviceOf exactHz).Reach s → SAMPLING_INTERVAL_OFFSET ≤ s.samplingInterval ∧
        ∀ p latency, ∃ t,
          s.apBatchWith (batchConfigrefResortOf exactHz) BSX_SENSOR_ID_ACCELEROMETER p latency =
            some (0, t) ∧
          (s.configs.Active SENSORLIST_INX_ACCELEROMETER → t.samplingInterval = 1000000 / odr p) ∧
          ∀ enable, enable ≠ 0 →
            ∃ u, t.apActivate BSX_SENSOR_ID_ACCELEROMETER enable = some (0, u) ∧
              u.samplingInterval = 1000000 / odr p := by
  obtain ⟨acc, hget⟩ : ∃ acc, getSensorT BSX_SENSOR_ID_ACCELEROMETER =
    some (acc, SENSORLIST_INX_ACCELEROMETER) := ⟨_, rfl⟩
  have hclamp := clampPeriod_bounds hget
  have hcode : ∀ p, encodeDatarateOf exactHz (acc.clampPeriod p) =
      rateCode (exactHz (acc.clampPeriod p)) := fun p =>
    if_neg (show acc.clampPeriod p ≠ 0 by have := hclamp p; omega)
  have hmax : ∀ p, exactHz (acc.clampPeriod p) ≤ 2000 := by
    intro p
    have hmin : exactHz 500000 = 2000 := by
      norm_num [exactHz]
    exact hmin ▸ exactHz_antitone (by norm_num) (hclamp p).1
  have hrate : ∀ p, ChipRate (exactHz (acc.clampPeriod p))
      (smi240ConvertODR (convertDatarateCode (encodeDatarateOf exactHz (acc.clampPeriod p)))) := by
    intro p
    rw [hcode p]
    exact chipRate_convertODR (hmax p)
  refine ⟨acc, _, hget, hrate, fun p => ⟨?_, convertDatarateCode_ne_disabled _⟩, ?_, ?_⟩
  · rw [hcode p]
    exact convertDatarateCode_rateCode_pos (hmax p)
  · intro p q hle
    have hpos : 0 < acc.clampPeriod p := by
      have := hclamp p
      omega
    exact (hrate p).interval_le (hrate q) (exactHz_antitone hpos (clampPeriod_mono hget hle))
  · intro s hs
    obtain ⟨⟨calls, htracks⟩, hinterval⟩ := exists_tracks_of_reach hs
    refine ⟨le_trans (by decide) hinterval, fun p latency =>
      ⟨_, apBatchOf_eq _ htracks hget p latency, fun hactive => ?_, fun enable henable => ?_⟩⟩
    · have hen := (htracks.active_iff (inList_of_getSensorT hget)).mp hactive
      exact if_pos ⟨rfl, hen⟩
    · have htracks' := htracks.setEntry SENSORLIST_INX_ACCELEROMETER
        (batchEntry exactHz acc p latency)
      obtain ⟨_, confs, own, _, hown, hret⟩ := apActivate_eq (s := ⟨_, _⟩) htracks' hget enable
      obtain ⟨own', hown', hcase⟩ :=
        exists_entry_setEntry htracks (Or.inl rfl) (batchEntry exactHz acc p latency)
      rw [if_pos rfl] at hcase
      obtain rfl : own = own' := Option.some_inj.mp (hown.symm.trans hown')
      refine ⟨_, hret, ?_⟩
      rw [hcase, if_pos ⟨rfl, henable⟩]
      rfl

end Smi240Hal.Legacy
