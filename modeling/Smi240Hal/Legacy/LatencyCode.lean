/-
# Smi240Hal.Legacy.LatencyCode — the report latency as a value and a unit

`encode_max_latency` has five branches, tested out of order, and each but the last divides by its unit
and casts the quotient to 16 bits.  Over the non-negative latencies they are five ranges that follow
one another: in each of the first four the quotient is exact in 16 bits and below 2^14, so the pair
stands for the latency rounded down to the unit.

`decodeMaxLatency` is what such a pair stands for.
-/
import Smi240Hal.Legacy.HwcntlBatch
import Mathlib.Order.Bounds.Basic

namespace Smi240Hal.Legacy

/-! ## What a pair stands for -/

/-- A unit in nanoseconds. -/
def latencyUnitNs (unit : Nat) : Int :=
  if unit = BSX_CONFSTR_UNITns then 1
  else if unit = BSX_CONFSTR_UNITus then 1000
  else if unit = BSX_CONFSTR_UNITms then 1000000
  else 1000000000

@[simp] theorem latencyUnitNs_ns : latencyUnitNs BSX_CONFSTR_UNITns = 1 := rfl
@[simp] theorem latencyUnitNs_us : latencyUnitNs BSX_CONFSTR_UNITus = 1000 := rfl
@[simp] theorem latencyUnitNs_ms : latencyUnitNs BSX_CONFSTR_UNITms = 1000000 := rfl
@[simp] theorem latencyUnitNs_s : latencyUnitNs BSX_CONFSTR_UNITs = 1000000000 := rfl

/-- The latency a code stands for. -/
def decodeMaxLatency (code : Nat × Nat) : Int := code.1 * latencyUnitNs code.2

/-! ## The five ranges -/

/-- The branch a latency takes: the unit, and what the 16 bits hold. -/
inductive LatencyRange (latency : Int) : Nat × Nat → Prop
  | ns {value : Nat} (hlatency : latency < 1000) (hvalue : (value : Int) = latency) :
      LatencyRange latency (value, BSX_CONFSTR_UNITns)
  | us {value : Nat} (hlow : 1000 ≤ latency) (hhigh : latency < 1000000)
      (hvalue : (value : Int) = latency / 1000) :
      LatencyRange latency (value, BSX_CONFSTR_UNITus)
  | ms {value : Nat} (hlow : 1000000 ≤ latency) (hhigh : latency < 1000000000)
      (hvalue : (value : Int) = latency / 1000000) :
      LatencyRange latency (value, BSX_CONFSTR_UNITms)
  | s {value : Nat} (hlow : 1000000000 ≤ latency) (hhigh : latency < 16383000000000)
      (hvalue : (value : Int) = latency / 1000000000) :
      LatencyRange latency (value, BSX_CONFSTR_UNITs)
  | full (hlow : 16383000000000 ≤ latency) : LatencyRange latency (16383, BSX_CONFSTR_UNITs)

theorem encodeMaxLatency_range {latency : Int} (hlatency : 0 ≤ latency) :
    LatencyRange latency (encodeMaxLatency latency) := by
  unfold encodeMaxLatency
  split
  · next hms =>
      exact .ms hms.1 hms.2 ((toUInt16_tdiv_iff hlatency (by omega)).mpr (by omega))
  · split
    · next hus =>
        exact .us hus.1 hus.2 ((toUInt16_tdiv_iff hlatency (by omega)).mpr (by omega))
    · split
      · next hns =>
          refine .ns hns ?_
          unfold toUInt16
          omega
      · split
        · next hs =>
            exact .s hs.1 hs.2 ((toUInt16_tdiv_iff hlatency (by omega)).mpr (by omega))
        · exact .full (by omega)

namespace LatencyRange

variable {latency : Int} {code : Nat × Nat}

/-- Two bits of sixteen are left for the unit. -/
theorem value_le (h : LatencyRange latency code) : code.1 ≤ 16383 := by
  cases h with
  | ns hlatency hvalue => dsimp only; omega
  | us hlow hhigh hvalue => dsimp only; omega
  | ms hlow hhigh hvalue => dsimp only; omega
  | s hlow hhigh hvalue => dsimp only; omega
  | full hlow => exact Nat.le_refl _

/-- Below the last range the latency is rounded down to the unit. -/
theorem decode_eq (h : LatencyRange latency code) (hlatency : latency < 16383000000000) :
    0 < latencyUnitNs code.2 ∧
      decodeMaxLatency code = latency / latencyUnitNs code.2 * latencyUnitNs code.2 := by
  cases h with
  | ns hshort hvalue =>
      rw [decodeMaxLatency, hvalue, latencyUnitNs_ns, Int.ediv_one]
      exact ⟨Int.one_pos, rfl⟩
  | us hlow hhigh hvalue =>
      rw [decodeMaxLatency, hvalue, latencyUnitNs_us]
      exact ⟨by omega, rfl⟩
  | ms hlow hhigh hvalue =>
      rw [decodeMaxLatency, hvalue, latencyUnitNs_ms]
      exact ⟨by omega, rfl⟩
  | s hlow hhigh hvalue =>
      rw [decodeMaxLatency, hvalue, latencyUnitNs_s]
      exact ⟨by omega, rfl⟩
  | full hlow => omega

theorem decode_full (h : LatencyRange latency code) (hlatency : 16383000000000 ≤ latency) :
    decodeMaxLatency code = 16383000000000 := by
  cases h with
  | ns hshort => omega
  | us hlow hhigh => omega
  | ms hlow hhigh => omega
  | s hlow hhigh => omega
  | full => rfl

/-- No multiple of the unit lies between the code and the latency. -/
theorem decode_greatest (h : LatencyRange latency code) (hlatency : latency < 16383000000000) :
    IsGreatest {m | latencyUnitNs code.2 ∣ m ∧ m ≤ latency} (decodeMaxLatency code) := by
  obtain ⟨hunit, hdecode⟩ := h.decode_eq hlatency
  rw [hdecode]
  constructor
  · exact ⟨Int.dvd_mul_left _ _, Int.ediv_mul_le latency (Int.ne_of_gt hunit)⟩
  · rintro m ⟨⟨k, rfl⟩, hle⟩
    rw [Int.mul_comm] at hle ⊢
    have hk : k ≤ latency / latencyUnitNs code.2 := (Int.le_ediv_iff_mul_le hunit).mpr hle
    exact Int.mul_le_mul_of_nonneg_right hk hunit.le

/-- Within a range the quotient grows; a later range begins at a multiple of its unit that no code of
an earlier range exceeds. -/
theorem decode_mono {later : Int} {code' : Nat × Nat} (h : LatencyRange latency code)
    (h' : LatencyRange later code') (hle : latency ≤ later) :
    decodeMaxLatency code ≤ decodeMaxLatency code' := by
  cases h <;> cases h'
  all_goals
    simp only [decodeMaxLatency, latencyUnitNs_ns, latencyUnitNs_us, latencyUnitNs_ms,
      latencyUnitNs_s]
    omega

end LatencyRange

/-- For every latency that is not negative: the value fits beside the two unit bits; below 16383 s the
pair stands for the largest multiple of its unit that does not exceed the latency, and from there on
for 16383 s; and a longer latency never gets a pair that stands for less. -/
theorem encode_max_latency_rounds_down (latency : Int) (hlatency : 0 ≤ latency) :
    (encodeMaxLatency latency).1 ≤ 16383 ∧
    (latency < 16383 * 1000000000 →
      IsGreatest {m | latencyUnitNs (encodeMaxLatency latency).2 ∣ m ∧ m ≤ latency}
        (decodeMaxLatency (encodeMaxLatency latency))) ∧
    (16383 * 1000000000 ≤ latency →
      decodeMaxLatency (encodeMaxLatency latency) = 16383 * 1000000000) ∧
    ∀ later, latency ≤ later →
      decodeMaxLatency (encodeMaxLatency latency) ≤ decodeMaxLatency (encodeMaxLatency later) := by
  have hrange := encodeMaxLatency_range hlatency
  refine ⟨hrange.value_le, ?_, ?_, ?_⟩
  · intro hshort
    exact hrange.decode_greatest (by omega)
  · intro hlong
    rw [hrange.decode_full (by omega)]
    rfl
  · intro later hle
    exact hrange.decode_mono (encodeMaxLatency_range (hlatency.trans hle)) hle

/-- One nanosecond below a second, the unit is still the millisecond. -/
theorem encode_max_latency_rounds_down_ms :
    decodeMaxLatency (encodeMaxLatency 999999999) = 999000000 ∧
    IsGreatest {m | latencyUnitNs (encodeMaxLatency 999999999).2 ∣ m ∧ m ≤ 999999999} 999000000 ∧
    decodeMaxLatency (encodeMaxLatency 999999999) ≤
      decodeMaxLatency (encodeMaxLatency 1000000000) := by
  have hcode : decodeMaxLatency (encodeMaxLatency 999999999) = 999000000 := rfl
  obtain ⟨-, hgreatest, -, hmono⟩ := encode_max_latency_rounds_down 999999999 (by omega)
  refine ⟨hcode, ?_, hmono 1000000000 (by omega)⟩
  have h := hgreatest (by omega)
  rwa [hcode] at h

end Smi240Hal.Legacy
