/-
# Smi240Hal.Legacy.HwcntlBatch — configuring a sensor: before or after enabling it, and its watermark

`ap_batch` reaches the configuration table through the active array or directly, and it sends the
configuration on only for an active sensor; `ap_activate` changes the array and always sends.  The two
orders of the calls end in the same state all the same: an activate call neither reads nor writes the
table, and what reaches the chip is the accelerometer's entry at the last of the two calls.

The second part is about one field of the entry, the watermark `fifo_data_len`.
-/
import Smi240Hal.Legacy.HwcntlSteps

namespace Smi240Hal.Legacy

open Smi240Hal.Lib

/-! ## Configuring and enabling commute -/

/-- An activate call leaves the table, and does the same whatever stands in it. -/
theorem activateConfigrefResort_setEntry (s : ActiveConfigs) (i j isEnable : Int)
    (cfg : SensorConfig) :
    activateConfigrefResort (s.setEntry i cfg) j isEnable =
      (activateConfigrefResort s j isEnable).map fun out => (out.1, out.2.setEntry i cfg) := by
  unfold activateConfigrefResort
  dsimp only
  by_cases hij : ConfRange.of i = ConfRange.of j
  · have hbank : (s.setEntry i cfg).bank (.of j) = { s.bank (.of j) with
        config := (s.bank (.of j)).config.set (i - (ConfRange.of i).base).toNat cfg } := by
      rw [ActiveConfigs.setEntry, ← hij, ActiveConfigs.bank_setBank_same]
    rw [hbank, activateLoop_withConfig, Option.map_map, Option.map_map]
    refine Option.map_congr fun ⟨ret, b'⟩ hout => ?_
    have hconfig := activateLoop_config hout
    rw [Function.comp_apply, Function.comp_apply]
    dsimp only
    rw [ActiveConfigs.setEntry, ActiveConfigs.setEntry, hij, ActiveConfigs.bank_setBank_same, hconfig,
      ActiveConfigs.setBank_setBank, ActiveConfigs.setBank_setBank]
  · have hbank : (s.setEntry i cfg).bank (.of j) = s.bank (.of j) :=
      ActiveConfigs.bank_setBank_of_ne _ _ (Ne.symm hij)
    rw [hbank, Option.map_map]
    refine Option.map_congr fun out _ => ?_
    rw [Function.comp_apply]
    dsimp only
    rw [ActiveConfigs.setEntry, ActiveConfigs.setEntry, ActiveConfigs.bank_setBank_of_ne _ _ hij,
      ActiveConfigs.setBank_comm _ _ _ hij]

/-- So an activate call ends in the same arrays before and after a write to the table. -/
theorem CallDone.setEntry {calls calls' : List ConfCall} {s confs confs' : ActiveConfigs}
    {i j isEnable ret ret' : Int} {cfg : SensorConfig}
    (h : CallDone s calls (.activate j isEnable) ret confs)
    (h' : CallDone (s.setEntry i cfg) calls' (.activate j isEnable) ret' confs') :
    confs' = confs.setEntry i cfg := by
  have hdone : activateConfigrefResort s j isEnable = some (ret, confs) := h.done
  have hdone' : activateConfigrefResort (s.setEntry i cfg) j isEnable = some (ret', confs') :=
    h'.done
  rw [activateConfigrefResort_setEntry, hdone, Option.map_some, Option.some_inj,
    Prod.mk.injEq] at hdone'
  exact hdone'.2.symm

/-- What the two calls send to the chip: the accelerometer's entry, as the batch leaves it. -/
theorem interval_comm {calls : List ConfCall} {s : HwConfig} {i j : Int} {own own' : SensorConfig}
    {code : Nat} (hown : if i = BSX_SENSOR_ID_ACCELEROMETER then own'.dataRate = code else own' = own) :
    (if i = BSX_SENSOR_ID_ACCELEROMETER ∧ enabledAfter (calls ++ [.activate j 1]) i = true then
        codeInterval code
      else if j = BSX_SENSOR_ID_ACCELEROMETER ∧ (1 : Int) ≠ 0 then codeInterval own.dataRate
      else s.samplingInterval) =
    if j = BSX_SENSOR_ID_ACCELEROMETER ∧ (1 : Int) ≠ 0 then codeInterval own'.dataRate
    else if i = BSX_SENSOR_ID_ACCELEROMETER ∧ enabledAfter calls i = true then codeInterval code
    else s.samplingInterval := by
  rw [enabledAfter_activate]
  by_cases hi : i = BSX_SENSOR_ID_ACCELEROMETER
  · rw [if_pos hi] at hown
    by_cases hj : j = BSX_SENSOR_ID_ACCELEROMETER
    · -- enabled by the second call, or before it
      rw [if_pos (hj.trans hi.symm), if_pos ⟨hi, rfl⟩, if_pos ⟨hj, by omega⟩, hown]
    · have hji : j ≠ i := fun h => hj (h.trans hi)
      rw [if_neg hji, if_neg fun h : j = BSX_SENSOR_ID_ACCELEROMETER ∧ (1 : Int) ≠ 0 => hj h.1,
        if_neg fun h : j = BSX_SENSOR_ID_ACCELEROMETER ∧ (1 : Int) ≠ 0 => hj h.1]
  · rw [if_neg hi] at hown
    rw [if_neg fun h => hi h.1, if_neg fun h : _ ∧ enabledAfter calls i = true => hi h.1, hown]

/-- In every state reached, for two sensors of the list, the same or different: a batch and then an
enable, or the enable and then the batch, end in one and the same state. -/
theorem batch_activate_comm {s : HwConfig} (hs : pollDevice.Reach s) {a b : SensorT × Int}
    (ha : a ∈ boschSensorlist) (hb : b ∈ boschSensorlist) (periodNs latency : Int) :
    ∃ t u v, s.apBatch a.1.handle periodNs latency = some (0, t) ∧
      t.apActivate b.1.handle 1 = some (0, v) ∧
      s.apActivate b.1.handle 1 = some (0, u) ∧
      u.apBatch a.1.handle periodNs latency = some (0, v) := by
  rw [← pollDeviceOf_dataHz] at hs
  obtain ⟨⟨calls, htracks⟩, -⟩ := exists_tracks_of_reach hs
  obtain ⟨p, i⟩ := a
  obtain ⟨q, j⟩ := b
  have hgeta := getSensorT_of_mem ha
  have hgetb := getSensorT_of_mem hb
  obtain ⟨_, hi, hexp, _⟩ := getSensorT_spec hgeta
  have hbatch := apBatch_eq htracks hgeta periodNs latency
  obtain ⟨r, confs, own, hdone, hown, hact⟩ := apActivate_eq htracks hgetb 1
  have htracks' := htracks.setEntry i (batchEntry dataHz p periodNs latency)
  obtain ⟨r', confs', own', hdone', hown', hact'⟩ :=
    apActivate_eq (s := ⟨_, if i = BSX_SENSOR_ID_ACCELEROMETER ∧ enabledAfter calls i = true then
      codeInterval (encodeDatarate (p.clampPeriod periodNs)) else s.samplingInterval⟩) htracks'
      hgetb 1
  have hbatch' := apBatch_eq (s := ⟨confs, if j = BSX_SENSOR_ID_ACCELEROMETER ∧ (1 : Int) ≠ 0 then
    codeInterval own.dataRate else s.samplingInterval⟩) hdone.tracks hgeta periodNs latency
  have hconfs : confs' = confs.setEntry i (batchEntry dataHz p periodNs latency) :=
    hdone.setEntry hdone'
  have hentry : if i = BSX_SENSOR_ID_ACCELEROMETER then
      own'.dataRate = encodeDatarate (p.clampPeriod periodNs) else own' = own := by
    obtain ⟨own'', hown'', hcase⟩ := exists_entry_setEntry htracks (i := i)
      (by rw [hi]; exact hexp) (batchEntry dataHz p periodNs latency)
    obtain rfl : own' = own'' := Option.some_inj.mp (hown'.symm.trans hown'')
    split
    case isTrue h =>
      rw [if_pos h] at hcase
      rw [hcase]
      rfl
    case isFalse h =>
      rw [if_neg h] at hcase
      exact Option.some_inj.mp (hcase.symm.trans hown)
  refine ⟨_, _, _, hbatch, hact', hact, ?_⟩
  rw [hbatch', hconfs, interval_comm hentry]

/-- The accelerometer batched, the gyroscope enabled, from the initial state. -/
theorem batch_activate_comm_init : ∃ a ∈ boschSensorlist, ∃ b ∈ boschSensorlist, a ≠ b ∧ ∃ t u v,
    HwConfig.init.apBatch a.1.handle 5000000 0 = some (0, t) ∧
      t.apActivate b.1.handle 1 = some (0, v) ∧
      HwConfig.init.apActivate b.1.handle 1 = some (0, u) ∧
      u.apBatch a.1.handle 5000000 0 = some (0, v) := by
  obtain ⟨acc, hacc⟩ : ∃ acc, (acc, (1 : Int)) ∈ boschSensorlist := ⟨_, List.mem_cons_self ..⟩
  obtain ⟨gyr, hgyr⟩ : ∃ gyr, (gyr, (16 : Int)) ∈ boschSensorlist :=
    ⟨_, List.mem_cons_of_mem _ (List.mem_cons_self ..)⟩
  exact ⟨_, hacc, _, hgyr, fun h => absurd (congrArg Prod.snd h) (show (1 : Int) ≠ 16 by omega),
    batch_activate_comm (.start rfl) hacc hgyr 5000000 0⟩

/-! ## The watermark -/

/-- A quotient survives a `uint16_t` exactly if the dividend is below `2 ^ 16` divisors. -/
theorem toUInt16_tdiv_iff {n d : Int} (hn : 0 ≤ n) (hd : 0 < d) :
    (toUInt16 (n.tdiv d) : Int) = n / d ↔ n < 65536 * d := by
  have hquot : 0 ≤ n / d := Int.ediv_nonneg hn hd.le
  rw [Int.tdiv_eq_ediv_of_nonneg hn, toUInt16, Int.toNat_of_nonneg (Int.emod_nonneg _ (by omega)),
    ← Int.ediv_lt_iff_lt_mul hd]
  omega

/-- The configuration of a list index. -/
def ActiveConfigs.entry (s : ActiveConfigs) (i : Int) : Option SensorConfig :=
  (s.bank (.of i)).config[(i - (ConfRange.of i).base).toNat]?

theorem entry_setEntry {s : ActiveConfigs} {calls : List ConfCall} (h : Tracks s calls) {i : Int}
    (hi : 0 ≤ i ∧ i < SENSORLIST_INX_END) (cfg : SensorConfig) :
    (s.setEntry i cfg).entry i = some cfg := by
  obtain ⟨-, hk⟩ := batchTarget_of_tracks h hi
  have hlen := (h (.of i)).config
  rw [ActiveConfigs.entry, ActiveConfigs.setEntry, ActiveConfigs.bank_setBank_same,
    List.getElem?_set_self (by omega)]

/-- `fifo_data_len` of a sensor after a batch. -/
def HwConfig.watermark (s : HwConfig) (e : SensorT × Int) (periodNs latency : Int) : Option Nat := do
  let (_, t) ← s.apBatch e.1.handle periodNs latency
  let cfg ← t.configs.entry e.2
  some cfg.fifoDataLen

theorem watermark_eq {s : HwConfig} (hs : pollDevice.Reach s) {e : SensorT × Int}
    (he : e ∈ boschSensorlist) (periodNs latency : Int) :
    s.watermark e periodNs latency =
      some (toUInt16 (latency.tdiv (e.1.clampPeriod periodNs))) := by
  rw [← pollDeviceOf_dataHz] at hs
  obtain ⟨⟨calls, htracks⟩, -⟩ := exists_tracks_of_reach hs
  have hget := getSensorT_of_mem he
  have hentry := entry_setEntry htracks (inList_of_getSensorT hget)
    (batchEntry dataHz e.1 periodNs latency)
  simp only [HwConfig.watermark, apBatch_eq htracks hget, Option.bind_eq_bind, Option.bind_some,
    hentry]
  rfl

/-- In every state reached, for a sensor of the list, any period and any latency that is not
negative: the watermark is the quotient exactly if the latency is below `2 ^ 16` clamped periods.
Among those latencies it is monotone. -/
theorem watermark_exact_iff {s : HwConfig} (hs : pollDevice.Reach s) {e : SensorT × Int}
    (he : e ∈ boschSensorlist) (periodNs : Int) {latency : Int} (hlatency : 0 ≤ latency) :
    ∃ n, s.watermark e periodNs latency = some n ∧
      ((n : Int) = latency / e.1.clampPeriod periodNs ↔
        latency < 65536 * e.1.clampPeriod periodNs) ∧
      (latency < 65536 * e.1.clampPeriod periodNs → ∀ shorter, 0 ≤ shorter → shorter ≤ latency →
        ∃ m, s.watermark e periodNs shorter = some m ∧ m ≤ n) := by
  have hclamp := clampPeriod_bounds (getSensorT_of_mem he) periodNs
  have hpos : 0 < e.1.clampPeriod periodNs := by omega
  have hexact := toUInt16_tdiv_iff hlatency hpos
  refine ⟨_, watermark_eq hs he periodNs latency, hexact, fun hlt shorter hshorter hle => ?_⟩
  refine ⟨_, watermark_eq hs he periodNs shorter, ?_⟩
  have hn := hexact.mpr hlt
  have hm := (toUInt16_tdiv_iff hshorter hpos).mpr (by omega)
  have hquot := Int.ediv_le_ediv hpos hle
  omega

/-- The last latency that fits at 500 us, and the first that does not. -/
theorem watermark_exact_iff_edge : ∃ e ∈ boschSensorlist,
    (∃ n, HwConfig.init.watermark e 500000 32767999999 = some n ∧
      (n : Int) = 32767999999 / e.1.clampPeriod 500000) ∧
    ∃ n, HwConfig.init.watermark e 500000 32768000000 = some n ∧
      (n : Int) ≠ 32768000000 / e.1.clampPeriod 500000 := by
  obtain ⟨acc, hacc, hclamp⟩ : ∃ acc, (acc, (1 : Int)) ∈ boschSensorlist ∧
    acc.clampPeriod 500000 = 500000 := ⟨_, List.mem_cons_self .., rfl⟩
  refine ⟨_, hacc, ?_, ?_⟩
  · obtain ⟨n, hn, hiff, -⟩ := watermark_exact_iff (.start rfl) hacc 500000
      (show (0 : Int) ≤ 32767999999 by omega)
    exact ⟨n, hn, hiff.mpr (by dsimp only; omega)⟩
  · obtain ⟨n, hn, hiff, -⟩ := watermark_exact_iff (.start rfl) hacc 500000
      (show (0 : Int) ≤ 32768000000 by omega)
    exact ⟨n, hn, fun h => absurd (hiff.mp h) (by dsimp only; omega)⟩

/-- A report latency of 32.768 s at the shortest period is stored as no events at all. -/
theorem watermark_truncated :
    ¬ ∀ s, pollDevice.Reach s → ∀ e ∈ boschSensorlist, ∀ periodNs latency : Int, 0 ≤ latency →
      latency < 2 ^ 63 → ∃ n, s.watermark e periodNs latency = some n ∧
        (n : Int) = latency / e.1.clampPeriod periodNs := by
  intro hall
  obtain ⟨acc, hacc, hclamp⟩ : ∃ acc, (acc, (1 : Int)) ∈ boschSensorlist ∧
    acc.clampPeriod 500000 = 500000 := ⟨_, List.mem_cons_self .., rfl⟩
  have hinit : pollDevice.Reach .init := .start rfl
  obtain ⟨n, hn, hquot⟩ := hall .init hinit _ hacc 500000 32768000000 (by omega) (by omega)
  rw [watermark_eq hinit hacc, Option.some_inj] at hn
  dsimp only at hn hquot
  rw [hclamp] at hn hquot
  have hzero : toUInt16 (Int.tdiv 32768000000 500000) = 0 := rfl
  omega

end Smi240Hal.Legacy
