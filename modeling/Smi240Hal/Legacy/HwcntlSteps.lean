/-
# Smi240Hal.Legacy.HwcntlSteps — what one call of the poll device does

One equation for each call on a sensor of the list: which state it leaves, as a function of the state
before it.  A batch writes the sensor's entry, and an active accelerometer sends it; an activate call
changes the arrays, and an enabled accelerometer sends the entry it has.

The rate of a period is a parameter, `hzOf`.  The code computes it in `float` (`dataHz`), and
`pollDeviceOf dataHz` is `pollDevice`; everything else about a batch is independent of the rate.
-/
import Smi240Hal.Legacy.ActiveConfigSorted
import Smi240Hal.Legacy.HwcntlConfig

namespace Smi240Hal.Legacy

open Smi240Hal.Lib

/-! ## The sensors of the list -/

/-- A sensor of the list: its handle is its list index, and it is one of two. -/
theorem getSensorT_spec {handle i : Int} {p : SensorT} (h : getSensorT handle = some (p, i)) :
    p.handle = handle ∧ i = handle ∧
      (handle = BSX_SENSOR_ID_ACCELEROMETER ∨ handle = BSX_SENSOR_ID_GYROSCOPE_UNCALIBRATED) ∧
      p.minDelay = 500 ∧ p.maxDelay = 200000 ∧ p.reportingMode = SENSOR_FLAG_CONTINUOUS_MODE := by
  have hfind := List.find?_some h
  have hmem := List.mem_of_find?_eq_some h
  have hlist : boschSensorlist =
      [(⟨some "BOSCH Accelerometer Sensor", 1, 500, 200000, 0⟩, 1),
        (⟨some "BOSCH Gyroscope Uncalibrated Sensor", 16, 500, 200000, 0⟩, 16)] := rfl
  simp only [Bool.and_eq_true, beq_iff_eq] at hfind
  rw [hlist] at hmem
  rcases List.mem_cons.mp hmem with heq | hmem
  · cases heq
    exact ⟨hfind.2, hfind.2, Or.inl hfind.2.symm, rfl, rfl, rfl⟩
  · cases List.mem_singleton.mp hmem
    exact ⟨hfind.2, hfind.2, Or.inr hfind.2.symm, rfl, rfl, rfl⟩

/-- Every sensor of the list is found by its handle. -/
theorem getSensorT_of_mem {e : SensorT × Int} (h : e ∈ boschSensorlist) :
    getSensorT e.1.handle = some e := by
  have hlist : boschSensorlist =
      [(⟨some "BOSCH Accelerometer Sensor", 1, 500, 200000, 0⟩, 1),
        (⟨some "BOSCH Gyroscope Uncalibrated Sensor", 16, 500, 200000, 0⟩, 16)] := rfl
  rw [hlist] at h
  rcases List.mem_cons.mp h with rfl | h
  · rfl
  · obtain rfl := List.mem_singleton.mp h
    rfl

theorem clampPeriod_bounds {handle i : Int} {p : SensorT} (h : getSensorT handle = some (p, i))
    (periodNs : Int) :
    500000 ≤ p.clampPeriod periodNs ∧ p.clampPeriod periodNs ≤ 200000000 := by
  obtain ⟨_, _, _, hmin, hmax, _⟩ := getSensorT_spec h
  unfold SensorT.clampPeriod
  rw [hmin, hmax]
  split_ifs <;> omega

/-! ## Sending a configuration -/

/-- The interval a code of the table sets. -/
def codeInterval (code : Nat) : Nat := US_PER_SEC / smi240ConvertODR (convertDatarateCode code)

section Send

variable {s : HwConfig}

theorem convertDatarateCode_ne_disabled (code : Nat) :
    convertDatarateCode code ≠ SAMPLE_RATE_DISABLED := by
  unfold convertDatarateCode SAMPLE_RATE_DISABLED
  repeat
    refine iteInduction (motive := fun rate : ℚ => rate ≠ 65535) (fun _ => by norm_num) fun _ => ?_
  norm_num

/-- Sending the accelerometer's configuration sets the interval. -/
theorem apSendConfig_acc {cfg : SensorConfig} (h : s.configs.nonwk.config[1]? = some cfg) :
    s.apSendConfig SENSORLIST_INX_ACCELEROMETER =
      some { s with samplingInterval := codeInterval cfg.dataRate } := by
  have hrate : s.configuredRate SENSORLIST_INX_ACCELEROMETER =
      some (convertDatarateCode cfg.dataRate) := by
    show (s.configs.nonwk.config[1]?).bind _ = _
    rw [h]
    rfl
  show (s.configuredRate SENSORLIST_INX_ACCELEROMETER).bind _ = _
  rw [hrate]
  show some (s.apConfigPhyACC (convertDatarateCode cfg.dataRate)) = _
  rw [HwConfig.apConfigPhyACC, if_neg (convertDatarateCode_ne_disabled _)]
  rfl

/-- Sending the gyroscope's changes nothing. -/
theorem apSendConfig_gyro (h : s.configs.nonwk.config.length = 32) :
    s.apSendConfig SENSORLIST_INX_GYROSCOPE_UNCALIBRATED = some s := by
  obtain ⟨cfg, hcfg⟩ : ∃ cfg, s.configs.nonwk.config[16]? = some cfg :=
    ⟨_, List.getElem?_eq_getElem (by omega)⟩
  have hrate : s.configuredRate SENSORLIST_INX_GYROSCOPE_UNCALIBRATED =
      some (convertDatarateCode cfg.dataRate) := by
    show (s.configs.nonwk.config[16]?).bind _ = _
    rw [hcfg]
    rfl
  show (s.configuredRate SENSORLIST_INX_GYROSCOPE_UNCALIBRATED).bind _ = _
  rw [hrate]
  rfl

theorem apSendDisableConfig_eq (i : Int) : s.apSendDisableConfig i = s := by
  have hphy : ∀ inputId, s.apConfigPhysensor inputId SAMPLE_RATE_DISABLED = s := by
    intro inputId
    unfold HwConfig.apConfigPhysensor HwConfig.apConfigPhyACC HwConfig.apConfigPhyGYR
    rw [if_pos rfl, ite_self, ite_self]
  unfold HwConfig.apSendDisableConfig
  split
  · rfl
  · split
    · rfl
    · exact hphy _

theorem apSendConfig_eq {i : Int} {cfg : SensorConfig}
    (hi : i = BSX_SENSOR_ID_ACCELEROMETER ∨ i = BSX_SENSOR_ID_GYROSCOPE_UNCALIBRATED)
    (h : s.configs.nonwk.config[1]? = some cfg) (hlen : s.configs.nonwk.config.length = 32) :
    s.apSendConfig i = some { s with
      samplingInterval := if i = BSX_SENSOR_ID_ACCELEROMETER then codeInterval cfg.dataRate
        else s.samplingInterval } := by
  rcases hi with rfl | rfl
  · exact apSendConfig_acc h
  · exact apSendConfig_gyro hlen

end Send

/-! ## The rates of the chip -/

/-- The codes with the rates the chip runs at for them. -/
theorem convertODR_table :
    [BSX_CONFSTR_2000Hz, BSX_CONFSTR_1600Hz, BSX_CONFSTR_1000Hz, BSX_CONFSTR_800Hz,
      BSX_CONFSTR_400Hz, BSX_CONFSTR_200Hz, BSX_CONFSTR_100Hz, BSX_CONFSTR_50Hz, BSX_CONFSTR_25Hz,
      BSX_CONFSTR_12_5Hz, BSX_CONFSTR_6_25Hz, BSX_CONFSTR_5Hz, BSX_CONFSTR_1Hz].map
        (fun code => smi240ConvertODR (convertDatarateCode code)) =
    [400, 400, 400, 400, 400, 200, 100, 50, 50, 50, 50, 5, 5] := by
  decide +kernel

/-- `SMI240_ODR_*`. -/
def smi240Rates : List Nat :=
  [SMI240_ODR_5HZ, SMI240_ODR_50HZ, SMI240_ODR_100HZ, SMI240_ODR_200HZ, SMI240_ODR_400HZ]

theorem smi240ConvertODR_mem (hz : ℚ) : smi240ConvertODR hz ∈ smi240Rates := by
  unfold smi240ConvertODR
  rcases lt_or_ge 200 hz with h200 | h200
  · simp [h200, smi240Rates]
  rcases lt_or_ge 100 hz with h100 | h100
  · simp [h200, h100, h200.not_gt, smi240Rates]
  rcases lt_or_ge 50 hz with h50 | h50
  · simp [h100, h50, h200.not_gt, h100.not_gt, smi240Rates]
  rcases lt_or_ge 5 hz with h5 | h5
  · simp [h50, h5, h200.not_gt, h100.not_gt, h50.not_gt, smi240Rates]
  · simp [h5, h200.not_gt, h100.not_gt, h50.not_gt, h5.not_gt, smi240Rates]

/-- The polling thread is never asked for more than 400 Hz. -/
theorem le_codeInterval (code : Nat) : 2500 ≤ codeInterval code := by
  have hmem := smi240ConvertODR_mem (convertDatarateCode code)
  have hrates : ∀ odr ∈ smi240Rates, 2500 ≤ US_PER_SEC / odr := by decide
  exact hrates _ hmem

/-! ## A batch with the rate as a parameter -/

theorem encodeDatarate_eq {p : Int} (hp : p ≠ 0) : encodeDatarate p = rateCode (dataHz p) :=
  if_neg hp

/-- The ranges tile the rates up to 2000 Hz. -/
theorem rateCode_eq {hz : ℚ} (hmax : hz ≤ 2000) :
    rateCode hz =
      if 1600 < hz then BSX_CONFSTR_2000Hz
      else if 1000 < hz then BSX_CONFSTR_1600Hz
      else if 800 < hz then BSX_CONFSTR_1000Hz
      else if 400 < hz then BSX_CONFSTR_800Hz
      else if 200 < hz then BSX_CONFSTR_400Hz
      else if 100 < hz then BSX_CONFSTR_200Hz
      else if 50 < hz then BSX_CONFSTR_100Hz
      else if 25 < hz then BSX_CONFSTR_50Hz
      else if 12 < hz then BSX_CONFSTR_25Hz
      else if 6 < hz then BSX_CONFSTR_12_5Hz
      else if 5 < hz then BSX_CONFSTR_6_25Hz
      else if 1 < hz then BSX_CONFSTR_5Hz
      else BSX_CONFSTR_1Hz := by
  unfold rateCode
  rcases lt_or_ge 50 hz with hfast | hslow <;> grind

/-- Encoded, decoded and rounded up to a rate of the chip. -/
theorem convertODR_rateCode {hz : ℚ} (hmax : hz ≤ 2000) :
    smi240ConvertODR (convertDatarateCode (rateCode hz)) =
      if 200 < hz then 400 else if 100 < hz then 200
      else if 50 < hz then 100 else if 5 < hz then 50 else 5 := by
  have htable := convertODR_table
  simp only [List.map_cons, List.map_nil, List.cons.injEq, and_true] at htable
  obtain ⟨h2000, h1600, h1000, h800, h400, h200, h100, h50, h25, h12, h6, h5, h1⟩ := htable
  rw [rateCode_eq hmax]
  simp only [apply_ite fun code => smi240ConvertODR (convertDatarateCode code), h2000, h1600, h1000,
    h800, h400, h200, h100, h50, h25, h12, h6, h5, h1]
  rcases lt_or_ge 50 hz with hfast | hslow <;> grind

/-- The configuration a batch writes. -/
def batchConfigOf (hzOf : Int → ℚ) (a : BatchArgs) : Option SensorConfig :=
  (batchConfig a).map fun c => { c with dataRate := encodeDatarateOf hzOf a.samplingPeriodNs }

/-- Store a configuration into `p_config[k]`. -/
def storeConfig (b : ConfBank) (k : Int) (c : SensorConfig) : Option ConfBank :=
  if 0 ≤ k then (SlotArray.store b.config k.toNat c).map fun config => { b with config := config }
  else none

/-- `batch_configref_resort`. -/
def batchConfigrefResortOf (hzOf : Int → ℚ) (s : ActiveConfigs) (bsxListIndex : Int)
    (a : BatchArgs) : Option (Int × ActiveConfigs) := do
  let r := ConfRange.of bsxListIndex
  let b := s.bank r
  let (ret, k) ← batchTarget r.base bsxListIndex b b.activeSensorCnt 0
  let c ← batchConfigOf hzOf a
  let b' ← storeConfig b k c
  some (ret, s.setBank r b')

namespace HwConfig

/-- A call of the poll device. -/
def callOf (hzOf : Int → ℚ) (s : HwConfig) : PollCall → Option (Int × HwConfig)
  | .activate handle enabled => s.apActivate handle enabled
  | .batch handle period latency =>
      s.apBatchWith (batchConfigrefResortOf hzOf) handle period latency

end HwConfig

/-- The driver under a sequence of calls. -/
def pollDeviceOf (hzOf : Int → ℚ) : Machine HwConfig PollCall where
  Start s := s = .init
  step s c := (s.callOf hzOf c).map Prod.snd

theorem batchConfigOf_dataHz (a : BatchArgs) : batchConfigOf dataHz a = batchConfig a := by
  unfold batchConfigOf
  by_cases hzero : a.samplingPeriodNs = 0
  · rw [show batchConfig a = none from if_pos hzero]
    rfl
  · rw [batchConfig, if_neg hzero]
    rfl

theorem writeConfig_eq_store (b : ConfBank) (k : Int) (a : BatchArgs) :
    writeConfig b k a = (batchConfig a).bind (storeConfig b k) := by
  unfold writeConfig storeConfig
  by_cases hk : 0 ≤ k
  · simp only [if_pos hk, Option.map_eq_bind]
    rfl
  · simp only [if_neg hk]
    cases batchConfig a <;> rfl

theorem batchConfigrefResortOf_dataHz : batchConfigrefResortOf dataHz = batchConfigrefResort := by
  funext s i a
  unfold batchConfigrefResortOf batchConfigrefResort
  rw [batchConfigOf_dataHz]
  dsimp only
  rw [batchLoop_target]
  simp only [writeConfig_eq_store, Option.map_bind, Option.bind_eq_bind]
  rcases batchTarget (ConfRange.of i).base i (s.bank (.of i)) (s.bank (.of i)).activeSensorCnt 0
    with _ | ⟨ret, k⟩
  · rfl
  · rcases batchConfig a with _ | c
    · rfl
    · simp only [Option.bind_some, Function.comp_apply]
      cases storeConfig (s.bank (.of i)) k c <;> rfl

/-- With the code's rate it is the poll device. -/
theorem pollDeviceOf_dataHz : pollDeviceOf dataHz = pollDevice := by
  have hcall : ∀ (s : HwConfig) (c : PollCall), s.callOf dataHz c = s.call c := by
    intro s c
    unfold HwConfig.callOf
    rw [batchConfigrefResortOf_dataHz]
    cases c <;> rfl
  unfold pollDeviceOf pollDevice
  simp only [hcall]

/-! ## One call on a sensor of the list -/

section Steps

variable {hzOf : Int → ℚ} {calls : List ConfCall} {handle i : Int} {p : SensorT}

theorem inList_of_getSensorT (hget : getSensorT handle = some (p, i)) :
    0 ≤ i ∧ i < SENSORLIST_INX_END := by
  obtain ⟨_, rfl, hexp, _⟩ := getSensorT_spec hget
  rcases hexp with rfl | rfl <;> decide

theorem batchArgs_of_getSensorT (hget : getSensorT handle = some (p, i)) (periodNs latency : Int) :
    p.batchArgs periodNs latency = ⟨p.clampPeriod periodNs, latency, 0⟩ := by
  obtain ⟨_, _, _, _, _, hmode⟩ := getSensorT_spec hget
  have hchange : SENSOR_FLAG_CONTINUOUS_MODE ≠ SENSOR_FLAG_ON_CHANGE_MODE := by decide
  unfold SensorT.batchArgs
  simp only [hmode, if_neg hchange]

theorem batchConfigOf_eq {a : BatchArgs} (hp : a.samplingPeriodNs ≠ 0) :
    batchConfigOf hzOf a = some
      { dataRate := encodeDatarateOf hzOf a.samplingPeriodNs
        latencyUnit := (encodeMaxLatency a.maxReportLatencyNs).2
        maxLatency := (encodeMaxLatency a.maxReportLatencyNs).1
        fifoDataLen := toUInt16 (a.maxReportLatencyNs.tdiv a.samplingPeriodNs)
        delayOnchangeHz := a.delayHz } := by
  rw [batchConfigOf, batchConfig, if_neg hp]
  rfl

theorem batchConfigrefResortOf_eq {s : ActiveConfigs} {a : BatchArgs} {cfg : SensorConfig}
    (h : Tracks s calls) (hi : 0 ≤ i ∧ i < SENSORLIST_INX_END)
    (hcfg : batchConfigOf hzOf a = some cfg) :
    batchConfigrefResortOf hzOf s i a =
      some (if enabledAfter calls i then 1 else 0, s.setEntry i cfg) := by
  obtain ⟨htarget, hk⟩ := batchTarget_of_tracks h hi
  have hlen := (h (.of i)).config
  have hstore : storeConfig (s.bank (.of i)) (i - (ConfRange.of i).base) cfg =
      some { s.bank (.of i) with
        config := (s.bank (.of i)).config.set (i - (ConfRange.of i).base).toNat cfg } := by
    rw [storeConfig, if_pos hk.1, SlotArray.store, if_pos (by omega), Option.map_some]
  unfold batchConfigrefResortOf
  simp only [htarget, hcfg, hstore, Option.bind_eq_bind, Option.bind_some]
  rfl

/-- The configuration a batch leaves for the sensor. -/
def batchEntry (hzOf : Int → ℚ) (p : SensorT) (periodNs latency : Int) : SensorConfig where
  dataRate := encodeDatarateOf hzOf (p.clampPeriod periodNs)
  latencyUnit := (encodeMaxLatency latency).2
  maxLatency := (encodeMaxLatency latency).1
  fifoDataLen := toUInt16 (latency.tdiv (p.clampPeriod periodNs))
  delayOnchangeHz := 0

theorem batchConfigOf_clamp (hzOf : Int → ℚ) (hget : getSensorT handle = some (p, i))
    (periodNs latency : Int) :
    batchConfigOf hzOf ⟨p.clampPeriod periodNs, latency, 0⟩ =
      some (batchEntry hzOf p periodNs latency) := by
  have hclamp := clampPeriod_bounds hget periodNs
  exact batchConfigOf_eq (show p.clampPeriod periodNs ≠ 0 by omega)

/-- The accelerometer's entry after a batch. -/
theorem exists_entry_setEntry {s : ActiveConfigs} (h : Tracks s calls)
    (hi : i = BSX_SENSOR_ID_ACCELEROMETER ∨ i = BSX_SENSOR_ID_GYROSCOPE_UNCALIBRATED)
    (cfg : SensorConfig) :
    ∃ own, (s.setEntry i cfg).nonwk.config[1]? = some own ∧
      if i = BSX_SENSOR_ID_ACCELEROMETER then own = cfg else s.nonwk.config[1]? = some own := by
  have hlen : s.nonwk.config.length = 32 := (h .nonwk).config
  rcases hi with rfl | rfl
  · refine ⟨cfg, ?_, rfl⟩
    show (s.nonwk.config.set 1 cfg)[1]? = some cfg
    rw [List.getElem?_set_self (by omega)]
  · obtain ⟨own, hown⟩ : ∃ own, s.nonwk.config[1]? = some own :=
      ⟨_, List.getElem?_eq_getElem (by omega)⟩
    refine ⟨own, ?_, hown⟩
    show (s.nonwk.config.set 16 cfg)[1]? = some own
    rw [List.getElem?_set_ne (by omega), hown]

theorem apBatchOf_eq (hzOf : Int → ℚ) {s : HwConfig} (h : Tracks s.configs calls)
    (hget : getSensorT handle = some (p, i)) (periodNs latency : Int) :
    s.apBatchWith (batchConfigrefResortOf hzOf) handle periodNs latency =
      some (0, { configs := s.configs.setEntry i (batchEntry hzOf p periodNs latency)
                 samplingInterval :=
                   if i = BSX_SENSOR_ID_ACCELEROMETER ∧ enabledAfter calls i = true then
                     codeInterval (encodeDatarateOf hzOf (p.clampPeriod periodNs))
                   else s.samplingInterval }) := by
  have hresort := batchConfigrefResortOf_eq h (inList_of_getSensorT hget)
    (batchConfigOf_clamp hzOf hget periodNs latency)
  obtain ⟨_, rfl, hexp, _, _, hmode⟩ := getSensorT_spec hget
  have hone : SENSOR_FLAG_CONTINUOUS_MODE ≠ SENSOR_FLAG_ONE_SHOT_MODE := by decide
  have hspecial : SENSOR_FLAG_CONTINUOUS_MODE ≠ SENSOR_FLAG_SPECIAL_REPORTING_MODE := by decide
  obtain ⟨own, hown, hcase⟩ := exists_entry_setEntry h hexp (batchEntry hzOf p periodNs latency)
  have hlen :=
    (bank_setEntry s.configs i (batchEntry hzOf p periodNs latency) .nonwk).2.2.trans
      (h .nonwk).config
  unfold HwConfig.apBatchWith
  rw [hget]
  simp only [hmode, if_neg hone, if_neg hspecial, batchArgs_of_getSensorT hget, hresort,
    Option.bind_eq_bind, Option.bind_some]
  cases enabledAfter calls i with
  | false => rw [if_neg (by decide), if_neg fun hboth => Bool.false_ne_true hboth.2]
  | true =>
      rw [if_pos (by decide), apSendConfig_eq hexp hown hlen, Option.bind_some]
      by_cases hi : i = BSX_SENSOR_ID_ACCELEROMETER
      · rw [if_pos hi] at hcase
        rw [if_pos hi, if_pos ⟨hi, rfl⟩, hcase]
        rfl
      · rw [if_neg hi, if_neg fun hboth => hi hboth.1]

/-- A batch of the poll device. -/
theorem apBatch_eq {s : HwConfig} (h : Tracks s.configs calls)
    (hget : getSensorT handle = some (p, i)) (periodNs latency : Int) :
    s.apBatch handle periodNs latency =
      some (0, { configs := s.configs.setEntry i (batchEntry dataHz p periodNs latency)
                 samplingInterval :=
                   if i = BSX_SENSOR_ID_ACCELEROMETER ∧ enabledAfter calls i = true then
                     codeInterval (encodeDatarate (p.clampPeriod periodNs))
                   else s.samplingInterval }) := by
  have hbatch := apBatchOf_eq dataHz h hget periodNs latency
  rw [batchConfigrefResortOf_dataHz] at hbatch
  exact hbatch

theorem apActivate_eq {s : HwConfig} (h : Tracks s.configs calls)
    (hget : getSensorT handle = some (p, i)) (enabled : Int) :
    ∃ ret confs own, CallDone s.configs calls (.activate i enabled) ret confs ∧
      s.configs.nonwk.config[1]? = some own ∧
      s.apActivate handle enabled = some (0, { configs := confs
                                               samplingInterval :=
        if i = BSX_SENSOR_ID_ACCELEROMETER ∧ enabled ≠ 0 then codeInterval own.dataRate
        else s.samplingInterval }) := by
  have hv : (ConfCall.activate i enabled).Valid := ⟨inList_of_getSensorT hget, trivial⟩
  have hi := inList_of_getSensorT hget
  obtain ⟨_, rfl, hexp, _⟩ := getSensorT_spec hget
  have hvalid : i ≠ BSX_SENSOR_ID_INVALID := by
    have hend : SENSORLIST_INX_END = 64 := rfl
    have hinvalid : BSX_SENSOR_ID_INVALID = 255 := rfl
    omega
  obtain ⟨ret, confs, hdone⟩ := activate_done h hv
  have hact : activateConfigrefResort s.configs i enabled = some (ret, confs) := hdone.done
  have hlen : s.configs.nonwk.config.length = 32 := (h .nonwk).config
  obtain ⟨own, hown⟩ : ∃ own, s.configs.nonwk.config[1]? = some own :=
    ⟨_, List.getElem?_eq_getElem (by omega)⟩
  have hsame : confs.nonwk.config = s.configs.nonwk.config :=
    activateConfigrefResort_config hact .nonwk
  refine ⟨ret, confs, own, hdone, hown, ?_⟩
  unfold HwConfig.apActivate
  rw [if_neg hvalid, hget]
  simp only [hact, Option.bind_eq_bind, Option.bind_some]
  by_cases hen : enabled ≠ 0
  · rw [if_pos hen, apSendConfig_eq hexp (hsame ▸ hown) (hdone.tracks .nonwk).config]
    simp [hen]
  · rw [if_neg hen, apSendDisableConfig_eq, if_neg fun hboth => hen hboth.2]

theorem apActivate_of_unlisted {s : HwConfig} (hget : getSensorT handle = none) (enabled : Int) :
    ∃ ret, s.apActivate handle enabled = some (ret, s) := by
  unfold HwConfig.apActivate
  rw [hget]
  split <;> exact ⟨_, rfl⟩

theorem apBatchWith_of_unlisted (s : HwConfig)
    (resort : ActiveConfigs → Int → BatchArgs → Option (Int × ActiveConfigs))
    (hget : getSensorT handle = none) (periodNs latency : Int) :
    ∃ ret, s.apBatchWith resort handle periodNs latency = some (ret, s) := by
  unfold HwConfig.apBatchWith
  rw [hget]
  exact ⟨_, rfl⟩

/-- In every state reached the arrays are those of some calls, and the polling interval is at least
2.5 ms. -/
theorem exists_tracks_of_reach {s : HwConfig} (h : (pollDeviceOf hzOf).Reach s) :
    (∃ calls, Tracks s.configs calls) ∧ 2500 ≤ s.samplingInterval := by
  refine h.invariant (P := fun s => (∃ calls, Tracks s.configs calls) ∧ 2500 ≤ s.samplingInterval)
    ?_ ?_
  · rintro s rfl
    exact ⟨⟨[], tracks_init⟩, show 2500 ≤ US_PER_SEC by decide⟩
  · rintro s c t ⟨⟨calls, htracks⟩, hinterval⟩ hstep
    obtain ⟨⟨ret, u⟩, hcall, rfl⟩ := Option.map_eq_some_iff.mp hstep
    cases c with
    | activate handle enabled =>
        have hcall : s.apActivate handle enabled = some (ret, u) := hcall
        cases hget : getSensorT handle with
        | none =>
            obtain ⟨ret', hret⟩ := apActivate_of_unlisted (s := s) hget enabled
            cases hcall.symm.trans hret
            exact ⟨⟨calls, htracks⟩, hinterval⟩
        | some e =>
            obtain ⟨_, confs, own, hdone, _, hret⟩ := apActivate_eq htracks hget enabled
            cases hcall.symm.trans hret
            refine ⟨⟨_, hdone.tracks⟩, ?_⟩
            dsimp only
            split
            · exact le_codeInterval _
            · exact hinterval
    | batch handle periodNs latency =>
        have hcall : s.apBatchWith (batchConfigrefResortOf hzOf) handle periodNs latency =
          some (ret, u) := hcall
        cases hget : getSensorT handle with
        | none =>
            obtain ⟨ret', hret⟩ := apBatchWith_of_unlisted s
              (batchConfigrefResortOf hzOf) hget periodNs latency
            cases hcall.symm.trans hret
            exact ⟨⟨calls, htracks⟩, hinterval⟩
        | some e =>
            cases hcall.symm.trans (apBatchOf_eq hzOf htracks hget periodNs latency)
            refine ⟨⟨calls, htracks.setEntry _ _⟩, ?_⟩
            dsimp only
            split
            · exact le_codeInterval _
            · exact hinterval

end Steps

end Smi240Hal.Legacy
