/-
# Time of flight from two clocks

Double-sided two-way ranging over an ordered field: each of two parties measures a
round, from sending to the answer, and a reply, from being asked to sending, in ticks
of a clock of its own.  The quotient `tofEstimate` of these four intervals is the time of
flight at the harmonic mean of the two rates, whatever the delays of the replies
(`tofEstimate_clocks`); and where the four intervals are off by up to `η`, it is off by no
more than `2 * η` (`abs_tofEstimate_sub_le`), with no factor that grows with the length of the
exchange.
-/

import Mathlib.Algebra.Order.Field.Basic
import Mathlib.Algebra.Order.Ring.Abs
import Mathlib.Tactic.Linarith
import Mathlib.Tactic.Ring

namespace TwoWayTime

variable {K : Type*} [Field K]

/-- The time of flight, as it is computed of two rounds and two replies. -/
def tofEstimate (r₁ q₁ r₂ q₂ : K) : K := (r₁ * r₂ - q₁ * q₂) / (r₁ + r₂ + q₁ + q₂)

/-- The harmonic mean of two rates. -/
def meanRate (a b : K) : K := 2 * a * b / (a + b)

/-- **The delays cancel**, and the rates do but for their mean. -/
theorem tofEstimate_clocks {a b t D₁ D₂ : K} (hdur : 2 * t + D₁ + D₂ ≠ 0) :
    tofEstimate (a * (2 * t + D₁)) (b * D₁) (b * (2 * t + D₂)) (a * D₂) = meanRate a b * t := by
  have hden : a * (2 * t + D₁) + b * (2 * t + D₂) + b * D₁ + a * D₂ =
      (a + b) * (2 * t + D₁ + D₂) := by ring
  have hnum : a * (2 * t + D₁) * (b * (2 * t + D₂)) - b * D₁ * (a * D₂) =
      2 * a * b * t * (2 * t + D₁ + D₂) := by ring
  rw [tofEstimate, hden, hnum, mul_div_mul_right _ _ hdur, meanRate, div_mul_eq_mul_div]

variable [LinearOrder K] [IsStrictOrderedRing K]

section

variable {a b ε : K}

/-- The mean rate is positive. -/
theorem meanRate_pos (ha : 0 < a) (hb : 0 < b) : 0 < meanRate a b :=
  div_pos (mul_pos (mul_pos two_pos ha) hb) (add_pos ha hb)

/-- Twice the mean is no more than the sum. -/
theorem two_mul_meanRate_le (ha : 0 < a) (hb : 0 < b) : 2 * meanRate a b ≤ a + b := by
  have hsq : 4 * (a * b) ≤ (a + b) * (a + b) := by
    have h := mul_self_nonneg (a - b)
    linarith
  rw [meanRate, mul_div_assoc', div_le_iff₀ (add_pos ha hb)]
  linarith

/-- **The mean is as near to the nominal rate as the two rates are.** -/
theorem abs_meanRate_sub_one_le (ha : 0 < a) (hb : 0 < b) (hε : |a - 1| ≤ ε) (hε' : |b - 1| ≤ ε) :
    |meanRate a b - 1| ≤ ε := by
  have hab := add_pos ha hb
  obtain ⟨ha₁, ha₂⟩ := abs_le.1 hε
  obtain ⟨hb₁, hb₂⟩ := abs_le.1 hε'
  have hmean : meanRate a b * (a + b) = 2 * a * b := div_mul_cancel₀ _ hab.ne'
  have hlow : 0 ≤ a * (b - 1 + ε) + b * (a - 1 + ε) :=
    add_nonneg (mul_nonneg ha.le (by linarith)) (mul_nonneg hb.le (by linarith))
  have hhigh : 0 ≤ a * (ε - (b - 1)) + b * (ε - (a - 1)) :=
    add_nonneg (mul_nonneg ha.le (by linarith)) (mul_nonneg hb.le (by linarith))
  refine abs_le.2 ⟨?_, ?_⟩
  · refine le_of_mul_le_mul_right ?_ hab
    rw [sub_mul, hmean]
    linarith
  · refine le_of_mul_le_mul_right ?_ hab
    rw [sub_mul, hmean]
    linarith

end

/-! ### Measurement errors -/

section

variable {r₁ q₁ r₂ q₂ R₁ Q₁ R₂ Q₂ η : K}

/-- Between two stamps, each off by up to `δ`, lies an interval that is off by up to twice as
much. -/
theorem interval_of_stamps {u v : ℕ} {U V δ : K} (hu : |u - U| ≤ δ) (hv : |v - V| ≤ δ)
    (hlong : 2 * δ ≤ V - U) : u ≤ v ∧ |((v - u : ℕ) : K) - (V - U)| ≤ 2 * δ := by
  rw [abs_le] at hu hv
  have hle : u ≤ v := by
    have h : (u : K) ≤ v := by linarith
    exact_mod_cast h
  refine ⟨hle, ?_⟩
  rw [Nat.cast_sub hle, abs_le]
  constructor <;> linarith

/-- Truncating a quotient of integers takes away less than one. -/
theorem abs_tdiv_sub_div_lt {n d : ℤ} (hd : 0 < d) : |((n.tdiv d : ℤ) : K) - n / d| < 1 := by
  have hdK : (0 : K) < d := by exact_mod_cast hd
  have hsplit : ((d * n.tdiv d + n.tmod d : ℤ) : K) = n := by rw [Int.mul_tdiv_add_tmod]
  have hdiff : ((n.tdiv d : ℤ) : K) - n / d = -((n.tmod d : ℤ) : K) / d := by
    rw [← hsplit, Int.cast_add, Int.cast_mul, add_div, mul_div_cancel_left₀ _ hdK.ne']
    ring
  have hrem : |n.tmod d| < d := by
    have h : (n.tmod d).natAbs < d.natAbs := by
      rw [Int.natAbs_tmod]
      exact Nat.mod_lt _ (Int.natAbs_pos.2 hd.ne')
    rw [Int.abs_eq_natAbs]
    omega
  have hremK : |((n.tmod d : ℤ) : K)| < d := by exact_mod_cast hrem
  rwa [hdiff, abs_div, abs_neg, abs_of_pos hdK, div_lt_one hdK]

/-- The error of a product of measured values. -/
theorem abs_mul_sub_mul_le {x y X Y : K} (hx : |x - X| ≤ η) (hy : |y - Y| ≤ η) (hy₀ : 0 ≤ y)
    (hX₀ : 0 ≤ X) : |x * y - X * Y| ≤ η * (y + X) := by
  have hsplit : x * y - X * Y = (x - X) * y + X * (y - Y) := by ring
  calc |x * y - X * Y| ≤ |x - X| * y + X * |y - Y| := by
        rw [hsplit]
        refine (abs_add_le _ _).trans_eq ?_
        rw [abs_mul, abs_mul, abs_of_nonneg hy₀, abs_of_nonneg hX₀]
    _ ≤ η * y + X * η :=
        add_le_add (mul_le_mul_of_nonneg_right hx hy₀) (mul_le_mul_of_nonneg_left hy hX₀)
    _ = η * (y + X) := by ring

/-- **The estimate is off by no more than twice what the intervals are**, if four times the
time of flight is less than the exchange by this much. -/
theorem abs_tofEstimate_sub_le (h₁ : |r₁ - R₁| ≤ η) (h₂ : |r₂ - R₂| ≤ η) (h₃ : |q₁ - Q₁| ≤ η)
    (h₄ : |q₂ - Q₂| ≤ η) (hr₂ : 0 ≤ r₂) (hq₂ : 0 ≤ q₂) (hR₁ : 0 ≤ R₁) (hQ₁ : 0 ≤ Q₁)
    (hsum : 0 < r₁ + r₂ + q₁ + q₂) (hSum : 0 < R₁ + R₂ + Q₁ + Q₂)
    (hlong : 4 * |tofEstimate R₁ Q₁ R₂ Q₂| + 2 * η ≤ r₁ + r₂ + q₁ + q₂) :
    |tofEstimate r₁ q₁ r₂ q₂ - tofEstimate R₁ Q₁ R₂ Q₂| ≤ 2 * η := by
  set S := r₁ + r₂ + q₁ + q₂ with hS
  set T := tofEstimate R₁ Q₁ R₂ Q₂ with hT
  have hη : 0 ≤ η := (abs_nonneg _).trans h₁
  have hnum : tofEstimate r₁ q₁ r₂ q₂ * S = r₁ * r₂ - q₁ * q₂ := div_mul_cancel₀ _ hsum.ne'
  have hNum : T * (R₁ + R₂ + Q₁ + Q₂) = R₁ * R₂ - Q₁ * Q₂ := div_mul_cancel₀ _ hSum.ne'
  have hrounds := abs_mul_sub_mul_le h₁ h₂ hr₂ hR₁
  have hreplies := abs_mul_sub_mul_le h₃ h₄ hq₂ hQ₁
  have htotal : |R₁ + R₂ + Q₁ + Q₂ - S| ≤ 4 * η := by
    rw [abs_le] at h₁ h₂ h₃ h₄ ⊢
    constructor <;> linarith
  have hmid : η * (r₂ + R₁) + η * (q₂ + Q₁) ≤ η * (S + 2 * η) := by
    rw [← mul_add]
    refine mul_le_mul_of_nonneg_left ?_ hη
    rw [abs_le] at h₁ h₃
    linarith
  -- all the errors, over the common denominator
  have hsplit : (tofEstimate r₁ q₁ r₂ q₂ - T) * S = (r₁ * r₂ - R₁ * R₂) - (q₁ * q₂ - Q₁ * Q₂) +
      T * (R₁ + R₂ + Q₁ + Q₂ - S) := by
    rw [sub_mul, hnum, mul_sub, hNum]
    ring
  have herr : |(tofEstimate r₁ q₁ r₂ q₂ - T) * S| ≤ 2 * η * S := by
    calc |(tofEstimate r₁ q₁ r₂ q₂ - T) * S|
        ≤ |r₁ * r₂ - R₁ * R₂| + |q₁ * q₂ - Q₁ * Q₂| + |T| * |R₁ + R₂ + Q₁ + Q₂ - S| := by
          rw [hsplit, ← abs_mul]
          exact (abs_add_le _ _).trans (add_le_add_left (abs_sub _ _) _)
      _ ≤ η * (S + 2 * η) + |T| * (4 * η) :=
          add_le_add ((add_le_add hrounds hreplies).trans hmid)
            (mul_le_mul_of_nonneg_left htotal (abs_nonneg _))
      _ = η * (S + (4 * |T| + 2 * η)) := by ring
      _ ≤ η * (S + S) := mul_le_mul_of_nonneg_left (by linarith) hη
      _ = 2 * η * S := by ring
  rw [abs_mul, abs_of_pos hsum] at herr
  exact le_of_mul_le_mul_right herr hsum

/-- **Two clocks and their errors.**  If the replies take a few times longer than the errors of
the intervals, the estimate is the time of flight at the mean rate to within twice the error. -/
theorem abs_tofEstimate_sub_meanRate_le {a b t D₁ D₂ : K} (ha : 0 < a) (hb : 0 < b) (ht : 0 ≤ t)
    (hD₁ : 0 < D₁) (hD₂ : 0 < D₂) (hη : 6 * η ≤ b * D₁ + a * D₂)
    (h₁ : |r₁ - a * (2 * t + D₁)| ≤ η) (h₂ : |r₂ - b * (2 * t + D₂)| ≤ η)
    (h₃ : |q₁ - b * D₁| ≤ η) (h₄ : |q₂ - a * D₂| ≤ η) (hr₂ : 0 ≤ r₂) (hq₂ : 0 ≤ q₂) :
    |tofEstimate r₁ q₁ r₂ q₂ - meanRate a b * t| ≤ 2 * η := by
  have hdur : 0 < 2 * t + D₁ + D₂ := by linarith
  have hT : 0 ≤ meanRate a b * t := mul_nonneg (meanRate_pos ha hb).le ht
  have hmean : 2 * (meanRate a b * t) ≤ a * t + b * t := by
    rw [← mul_assoc, ← add_mul]
    exact mul_le_mul_of_nonneg_right (two_mul_meanRate_le ha hb) ht
  have haD₁ := mul_pos ha hD₁
  have hbD₁ := mul_pos hb hD₁
  have haD₂ := mul_pos ha hD₂
  have hbD₂ := mul_pos hb hD₂
  have hat := mul_nonneg ha.le ht
  have hbt := mul_nonneg hb.le ht
  have hlong : 4 * (meanRate a b * t) + 2 * η < r₁ + r₂ + q₁ + q₂ := by
    have h := (abs_le.1 h₁).1
    have h' := (abs_le.1 h₂).1
    have h'' := (abs_le.1 h₃).1
    have h''' := (abs_le.1 h₄).1
    rw [mul_add] at h h'
    linarith
  have hη₀ : 0 ≤ η := (abs_nonneg _).trans h₁
  rw [← tofEstimate_clocks hdur.ne'] at hT hlong ⊢
  refine abs_tofEstimate_sub_le h₁ h₂ h₃ h₄ hr₂ hq₂ ?_ hbD₁.le ?_ ?_ ?_
  · exact mul_nonneg ha.le (by linarith)
  · linarith
  · rw [mul_add, mul_add]
    linarith
  · rw [abs_of_nonneg hT]
    exact hlong.le

end

end TwoWayTime
