/-
# When the distance is exact

`DistanceEstimator` multiplies 32-bit durations in `int64_t`, narrows the
quotient and the distance to `int32_t`, and adds the bias in `int32_t`, without
a check.  Each of these has a limit of its own; here they are next to what the
same expressions are over the integers.

The quotient is always representable (`fits_exactTofTicks`): the limits are the
two products and the range of the result.  `exact_iff_inRange` is the exact
condition on the durations and the bias.
-/

import AliroUwb.Library.SignedWords
import AliroUwb.Ranging.Distance
import Mathlib.Tactic.Linarith

namespace AliroUwb
namespace Ranging

open SignedWords

/-! ### Over the integers -/

section

variable (ts : DoubleSidedTwrTimestamps)

/-- `r1 * r2`. -/
def roundProduct : ℤ := ts.round1Dtu.toNat * ts.round2Dtu.toNat

/-- `rep1 * rep2`. -/
def replyProduct : ℤ := ts.reply1Dtu.toNat * ts.reply2Dtu.toNat

/-- `numerator`, unbounded. -/
def exactNumerator : ℤ := roundProduct ts - replyProduct ts

/-- `denominator` and `totalInterval`, unbounded. -/
def exactInterval : ℤ :=
  ts.round1Dtu.toNat + ts.round2Dtu.toNat + ts.reply1Dtu.toNat + ts.reply2Dtu.toNat

/-- The time of flight in ticks, unbounded. -/
def exactTofTicks : ℤ := (exactNumerator ts).tdiv (exactInterval ts)

/-- `distanceCalculated`, unbounded. -/
def exactMillimetres : ℤ := (exactTofTicks ts * 4692).tdiv 1000

/-- The distance that is returned, unbounded. -/
def exactDistance (antennaDelayBiasMm : DistanceMm) : ℤ :=
  exactMillimetres ts + antennaDelayBiasMm.toInt

/-- Every value that `calculateSignedTofTicks` and `calculateDistance` compute,
unbounded, with the width it is computed in. -/
def intermediates (antennaDelayBiasMm : DistanceMm) : List (ℕ × ℤ) :=
  [(64, roundProduct ts),
    (64, replyProduct ts),
    (64, exactNumerator ts),
    (64, ts.round1Dtu.toNat + ts.round2Dtu.toNat),
    (64, ts.round1Dtu.toNat + ts.round2Dtu.toNat + ts.reply1Dtu.toNat),
    (64, exactInterval ts),
    (64, exactTofTicks ts),
    (32, exactTofTicks ts),
    (64, exactTofTicks ts * 4692),
    (64, exactMillimetres ts),
    (32, exactMillimetres ts),
    (32, exactDistance ts antennaDelayBiasMm)]

end

variable {ts : DoubleSidedTwrTimestamps} {bias : DistanceMm}

/-- No operation overflows and no cast changes a value. -/
def NoWrap (ts : DoubleSidedTwrTimestamps) (bias : DistanceMm) : Prop :=
  ∀ p ∈ intermediates ts bias, Fits p.1 p.2

/-- **The distance computation is exact**: nothing wraps, what is returned is the
unbounded distance, and a distance that is not representable is an error. -/
structure ExactDistance (ts : DoubleSidedTwrTimestamps) (bias : DistanceMm) : Prop where
  noWrap : NoWrap ts bias
  returned : ∀ d, calculateDistance ts bias = .ok d → d.toInt = exactDistance ts bias
  rejected : ¬ Fits 32 (exactDistance ts bias) → ∃ e, calculateDistance ts bias = .error e

/-! ### Bounds -/

/-- The sum of the intervals is not negative. -/
theorem exactInterval_nonneg (ts : DoubleSidedTwrTimestamps) : 0 ≤ exactInterval ts := by
  unfold exactInterval
  omega

/-- The sum of four 32-bit intervals fits 34 bits. -/
theorem exactInterval_lt (ts : DoubleSidedTwrTimestamps) : exactInterval ts < 2 ^ 34 := by
  have h₁ := ts.round1Dtu.toNat_lt
  have h₂ := ts.round2Dtu.toNat_lt
  have h₃ := ts.reply1Dtu.toNat_lt
  have h₄ := ts.reply2Dtu.toNat_lt
  unfold exactInterval
  omega

/-- The product of two numbers is at most a fourth of the square of their sum. -/
theorem four_mul_le_sq_add (a b : ℤ) : 4 * (a * b) ≤ (a + b) * (a + b) := by
  have h := mul_self_nonneg (a - b)
  linarith

/-- A product of durations is below `2 ^ 31` times their sum. -/
theorem mul_lt_two_pow_mul_add {a b : ℕ} (ha : a < 2 ^ 32) (hb : b < 2 ^ 32) {d : ℤ}
    (hd : (a : ℤ) + b ≤ d) (hpos : 0 < d) : (a : ℤ) * b < 2 ^ 31 * d := by
  have hsq := four_mul_le_sq_add a b
  have hsum : ((a : ℤ) + b) * (a + b) ≤ (2 ^ 33 - 2) * (a + b) :=
    mul_le_mul_of_nonneg_right (by omega) (by omega)
  linarith

/-- **The quotient is always representable.** -/
theorem fits_exactTofTicks (hpos : 0 < exactInterval ts) : Fits 32 (exactTofTicks ts) := by
  have hround : roundProduct ts < 2 ^ 31 * exactInterval ts :=
    mul_lt_two_pow_mul_add ts.round1Dtu.toNat_lt ts.round2Dtu.toNat_lt
      (by unfold exactInterval; omega) hpos
  have hreply : replyProduct ts < 2 ^ 31 * exactInterval ts :=
    mul_lt_two_pow_mul_add ts.reply1Dtu.toNat_lt ts.reply2Dtu.toNat_lt
      (by unfold exactInterval; omega) hpos
  have hround₀ : 0 ≤ roundProduct ts := Int.mul_nonneg (by omega) (by omega)
  have hreply₀ : 0 ≤ replyProduct ts := Int.mul_nonneg (by omega) (by omega)
  have hlow := (neg_lt_tdiv_iff (n := exactNumerator ts) (k := 2 ^ 31) hpos (by decide)).2
    (by unfold exactNumerator; omega)
  have hhigh := (tdiv_lt_iff (n := exactNumerator ts) (k := 2 ^ 31) hpos (by decide)).2
    (by unfold exactNumerator; omega)
  exact ⟨Int.le_of_lt hlow, hhigh⟩

/-- The conversion to millimetres does not leave 64 bits. -/
theorem fits_exactMillimetres (hpos : 0 < exactInterval ts) :
    Fits 64 (exactTofTicks ts * 4692) ∧ Fits 64 (exactMillimetres ts) := by
  obtain ⟨hlow, hhigh⟩ := fits_exactTofTicks hpos
  have hscaled : Fits 64 (exactTofTicks ts * 4692) := ⟨by omega, by omega⟩
  refine ⟨hscaled, ?_⟩
  have h₁ := (neg_lt_tdiv_iff (n := exactTofTicks ts * 4692) (d := 1000) (k := 2 ^ 44)
    (by decide) (by decide)).2 (by omega)
  have h₂ := (tdiv_lt_iff (n := exactTofTicks ts * 4692) (d := 1000) (k := 2 ^ 44)
    (by decide) (by decide)).2 (by omega)
  unfold exactMillimetres
  exact ⟨by omega, by omega⟩

/-! ### The machine computes it -/

/-- Widening keeps the value. -/
theorem toInt_toInt64 (v : UInt32) : (toInt64 v).toInt = v.toNat := by
  have hv := v.toNat_lt
  have hword : v.toUInt64 = UInt64.ofNat v.toNat := by
    rw [← UInt64.toNat_inj, UInt32.toNat_toUInt64, UInt64.toNat_ofNat', Nat.mod_eq_of_lt (by omega)]
  rw [toInt64, hword, UInt64.toInt64_ofNat', Int64.toInt_ofNat_of_lt (by omega)]

/-- `totalInterval` and `denominator`. -/
theorem toInt_interval (ts : DoubleSidedTwrTimestamps) :
    (toInt64 ts.round1Dtu + toInt64 ts.round2Dtu + toInt64 ts.reply1Dtu +
      toInt64 ts.reply2Dtu).toInt = exactInterval ts := by
  have h₁ := ts.round1Dtu.toNat_lt
  have h₂ := ts.round2Dtu.toNat_lt
  have h₃ := ts.reply1Dtu.toNat_lt
  have h₄ := ts.reply2Dtu.toNat_lt
  have hsum₂ : (toInt64 ts.round1Dtu + toInt64 ts.round2Dtu).toInt =
      ts.round1Dtu.toNat + ts.round2Dtu.toNat := by
    rw [toInt_add_of_fits (by simp only [toInt_toInt64]; exact ⟨by omega, by omega⟩),
      toInt_toInt64, toInt_toInt64]
  have hsum₃ : (toInt64 ts.round1Dtu + toInt64 ts.round2Dtu + toInt64 ts.reply1Dtu).toInt =
      ts.round1Dtu.toNat + ts.round2Dtu.toNat + ts.reply1Dtu.toNat := by
    rw [toInt_add_of_fits (by rw [hsum₂, toInt_toInt64]; exact ⟨by omega, by omega⟩),
      hsum₂, toInt_toInt64]
  rw [toInt_add_of_fits (by rw [hsum₃, toInt_toInt64]; exact ⟨by omega, by omega⟩),
    hsum₃, toInt_toInt64]
  rfl

/-- The sum that the code computes is zero when the exact one is. -/
theorem interval_eq_zero_iff :
    toInt64 ts.round1Dtu + toInt64 ts.round2Dtu + toInt64 ts.reply1Dtu + toInt64 ts.reply2Dtu = 0 ↔
      exactInterval ts = 0 := by
  rw [← Int64.toInt_inj, toInt_interval]
  rfl

/-- **The time of flight is exact when the products are.** -/
theorem toInt_calculateSignedTofTicks (hpos : 0 < exactInterval ts)
    (hround : roundProduct ts < 2 ^ 63) (hreply : replyProduct ts < 2 ^ 63) :
    (calculateSignedTofTicks ts).toInt = exactTofTicks ts := by
  have hround₀ : 0 ≤ roundProduct ts := Int.mul_nonneg (by omega) (by omega)
  have hreply₀ : 0 ≤ replyProduct ts := Int.mul_nonneg (by omega) (by omega)
  have hr : (toInt64 ts.round1Dtu * toInt64 ts.round2Dtu).toInt = roundProduct ts := by
    rw [toInt_mul_of_fits] <;> rw [toInt_toInt64, toInt_toInt64]
    · rfl
    · exact ⟨by unfold roundProduct at hround₀; omega, hround⟩
  have hq : (toInt64 ts.reply1Dtu * toInt64 ts.reply2Dtu).toInt = replyProduct ts := by
    rw [toInt_mul_of_fits] <;> rw [toInt_toInt64, toInt_toInt64]
    · rfl
    · exact ⟨by unfold replyProduct at hreply₀; omega, hreply⟩
  have hn : (toInt64 ts.round1Dtu * toInt64 ts.round2Dtu -
      toInt64 ts.reply1Dtu * toInt64 ts.reply2Dtu).toInt = exactNumerator ts := by
    rw [toInt_sub_of_fits] <;> rw [hr, hq]
    · rfl
    · exact ⟨by omega, by omega⟩
  have hfits := fits_exactTofTicks hpos
  have hquot : ((toInt64 ts.round1Dtu * toInt64 ts.round2Dtu -
      toInt64 ts.reply1Dtu * toInt64 ts.reply2Dtu) /
        (toInt64 ts.round1Dtu + toInt64 ts.round2Dtu + toInt64 ts.reply1Dtu +
          toInt64 ts.reply2Dtu)).toInt = exactTofTicks ts := by
    rw [toInt_div_of_fits] <;> rw [hn, toInt_interval]
    · rfl
    · exact ⟨Int.le_trans (by decide) hfits.1, Int.lt_trans hfits.2 (by decide)⟩
  unfold calculateSignedTofTicks
  dsimp only
  rw [if_neg (by rw [interval_eq_zero_iff]; omega), toInt_toInt32_of_fits (hquot ▸ hfits), hquot]

/-- **The distance is exact when the products, the millimetres and the sum with
the bias are representable.** -/
theorem toInt_calculateDistance (hpos : 0 < exactInterval ts)
    (hround : roundProduct ts < 2 ^ 63) (hreply : replyProduct ts < 2 ^ 63)
    (hmm : Fits 32 (exactMillimetres ts)) (hdist : Fits 32 (exactDistance ts bias)) :
    ∃ d, calculateDistance ts bias = .ok d ∧ d.toInt = exactDistance ts bias := by
  obtain ⟨hscaled, hmm64⟩ := fits_exactMillimetres hpos
  have htof := toInt_calculateSignedTofTicks hpos hround hreply
  have hprod : ((calculateSignedTofTicks ts).toInt64 * 4692).toInt = exactTofTicks ts * 4692 := by
    rw [toInt_mul_of_fits] <;> rw [Int32.toInt_toInt64, htof]
    · rfl
    · exact hscaled
  have hquot : ((calculateSignedTofTicks ts).toInt64 * 4692 / 1000).toInt =
      exactMillimetres ts := by
    rw [toInt_div_of_fits] <;> rw [hprod]
    · rfl
    · exact hmm64
  have hnarrow : ((calculateSignedTofTicks ts).toInt64 * 4692 / 1000).toInt32.toInt =
      exactMillimetres ts := by
    rw [toInt_toInt32_of_fits (hquot ▸ hmm), hquot]
  unfold calculateDistance
  dsimp only
  rw [if_neg (by rw [interval_eq_zero_iff]; omega)]
  refine ⟨_, rfl, ?_⟩
  rw [toInt_add32_of_fits] <;> rw [hnarrow]
  · rfl
  · exact hdist

/-! ### The exact condition -/

/-- The least number of ticks that are more than `m` millimetres. -/
def ticksBeyond (m : ℤ) : ℤ := ((m + 1) * 1000 + 4691) / 4692

/-- The products are below `2 ^ 63`, and the quotient of numerator and interval
lies between the ticks that would take the distance, or its sum with the bias,
out of `int32_t` on either side. -/
structure InRange (ts : DoubleSidedTwrTimestamps) (bias : DistanceMm) : Prop where
  round : roundProduct ts < 2 ^ 63
  reply : replyProduct ts < 2 ^ 63
  above : exactNumerator ts < ticksBeyond (2 ^ 31 - 1 - max 0 bias.toInt) * exactInterval ts
  below : -exactNumerator ts < ticksBeyond (2 ^ 31 + min 0 bias.toInt) * exactInterval ts

/-- There are ticks beyond a distance that is not negative. -/
theorem ticksBeyond_pos {m : ℤ} (hm : 0 ≤ m) : 0 < ticksBeyond m := by
  unfold ticksBeyond
  omega

/-- At most `m` millimetres, in ticks. -/
theorem exactMillimetres_le_iff (hpos : 0 < exactInterval ts) {m : ℤ} (hm : 0 ≤ m) :
    exactMillimetres ts ≤ m ↔ exactNumerator ts < ticksBeyond m * exactInterval ts := by
  have hticks := tdiv_lt_iff (n := exactTofTicks ts * 4692) (d := 1000) (k := m + 1)
    (by decide) (by omega)
  rw [← tdiv_lt_iff hpos (ticksBeyond_pos hm)]
  change _ ↔ exactTofTicks ts < _
  unfold exactMillimetres ticksBeyond
  omega

/-- A bound on a negative distance, without the division. -/
theorem neg_le_exactMillimetres_iff (hpos : 0 < exactInterval ts) {m : ℤ} (hm : 0 ≤ m) :
    -m ≤ exactMillimetres ts ↔ -exactNumerator ts < ticksBeyond m * exactInterval ts := by
  have hticks := neg_lt_tdiv_iff (n := exactTofTicks ts * 4692) (d := 1000) (k := m + 1)
    (by decide) (by omega)
  rw [← neg_lt_tdiv_iff hpos (ticksBeyond_pos hm)]
  change _ ↔ _ < exactTofTicks ts
  unfold exactMillimetres ticksBeyond
  omega

/-- The range of the quotient is the range of the results. -/
theorem fits_distance_iff (bias : DistanceMm) (hpos : 0 < exactInterval ts) :
    Fits 32 (exactMillimetres ts) ∧ Fits 32 (exactDistance ts bias) ↔
      exactNumerator ts < ticksBeyond (2 ^ 31 - 1 - max 0 bias.toInt) * exactInterval ts ∧
      -exactNumerator ts < ticksBeyond (2 ^ 31 + min 0 bias.toInt) * exactInterval ts := by
  obtain ⟨hlow, hhigh⟩ := fits_int32 bias
  rw [← exactMillimetres_le_iff hpos (by omega), ← neg_le_exactMillimetres_iff hpos (by omega)]
  unfold exactDistance Fits
  omega

/-- **The computation is exact if and only if the inputs are in range**, for all
durations that are not all zero and every bias. -/
theorem exact_iff_inRange (ts : DoubleSidedTwrTimestamps) (bias : DistanceMm)
    (hnonzero : ¬ (ts.round1Dtu = 0 ∧ ts.reply1Dtu = 0 ∧ ts.round2Dtu = 0 ∧ ts.reply2Dtu = 0)) :
    ExactDistance ts bias ↔ InRange ts bias := by
  have hpos : 0 < exactInterval ts := by
    refine lt_of_le_of_ne (exactInterval_nonneg ts) fun h => hnonzero ?_
    unfold exactInterval at h
    simp only [← UInt32.toNat_inj, UInt32.toNat_zero]
    omega
  constructor
  · rintro ⟨hwrap, -, -⟩
    have hmm := hwrap (32, exactMillimetres ts) (by simp [intermediates])
    have hdist := hwrap (32, exactDistance ts bias) (by simp [intermediates])
    obtain ⟨habove, hbelow⟩ := (fits_distance_iff bias hpos).1 ⟨hmm, hdist⟩
    exact ⟨(hwrap (64, roundProduct ts) (by simp [intermediates])).2,
      (hwrap (64, replyProduct ts) (by simp [intermediates])).2, habove, hbelow⟩
  · rintro ⟨hround, hreply, habove, hbelow⟩
    obtain ⟨hmm, hdist⟩ := (fits_distance_iff bias hpos).2 ⟨habove, hbelow⟩
    obtain ⟨hscaled, hmm64⟩ := fits_exactMillimetres hpos
    have htof := fits_exactTofTicks hpos
    have hround₀ : 0 ≤ roundProduct ts := Int.mul_nonneg (by omega) (by omega)
    have hreply₀ : 0 ≤ replyProduct ts := Int.mul_nonneg (by omega) (by omega)
    have hlt := exactInterval_lt ts
    refine ⟨?_, fun d hd => ?_, fun h => absurd hdist h⟩
    · have hinterval := hlt
      unfold exactInterval at hinterval
      unfold NoWrap intermediates
      simp only [List.forall_mem_cons, List.not_mem_nil, false_imp_iff, implies_true, and_true]
      refine ⟨⟨by omega, hround⟩, ⟨by omega, hreply⟩, ⟨?_, ?_⟩, ⟨by omega, by omega⟩,
        ⟨by omega, by omega⟩, ⟨by omega, by omega⟩, ⟨by have := htof.1; omega,
        by have := htof.2; omega⟩, htof, hscaled, hmm64, hmm, hdist⟩
      · unfold exactNumerator
        omega
      · unfold exactNumerator
        omega
    · obtain ⟨d', hd', hval⟩ := toInt_calculateDistance hpos hround hreply hmm hdist
      obtain rfl := Except.ok.inj (hd'.symm.trans hd)
      exact hval

/-- **Two long rounds wrap**: a true distance of more than ten thousand kilometres
is returned as four millimetres below zero. -/
theorem calculateDistance_wraps :
    ¬ ExactDistance ⟨0xFFFFFFFF, 0, 0xFFFFFFFF, 0⟩ 0 ∧
    calculateDistance ⟨0xFFFFFFFF, 0, 0xFFFFFFFF, 0⟩ 0 = .ok (-4) ∧
    exactDistance ⟨0xFFFFFFFF, 0, 0xFFFFFFFF, 0⟩ 0 = 10075993271 := by
  refine ⟨fun h => ?_, by decide +kernel, by decide +kernel⟩
  have hround := h.noWrap _ (List.mem_cons_self ..)
  exact absurd hround (by decide +kernel)

/-- The hypothesis of `exact_iff_inRange` is satisfiable: the durations of an
exchange over five meters. -/
theorem exact_iff_inRange_sample : ExactDistance ⟨2132, 1000, 4132, 2000⟩ (-10) := by
  refine (exact_iff_inRange _ _ (by decide)).2 ⟨?_, ?_, ?_, ?_⟩ <;> decide +kernel

end Ranging
end AliroUwb
