/-
# When an angle is gated

The `AoaStabilityDetector` of `include/uwb/ranging/NlosDetector.hpp` over a
sequence of angles.  Two counters run down at once, the warm-up from the start
and the hold from the last jump, and an angle is gated while one of them runs
(`gated_iff`).  The reference that a jump is measured from moves half-way to
each angle, so it stays among the angles seen (`reference_between`), and with
angles between -90 and 90 degrees no difference overflows.
-/

import AliroUwb.Library.SignedWords
import AliroUwb.Library.Streaks
import AliroUwb.Ranging.Angle

namespace AliroUwb
namespace Ranging

open SignedWords Streaks

namespace AoaStabilityDetector

/-- A detector constructed with `config` after the first `i` of `angles`. -/
def after (config : AoaStabilityConfig) (angles : ℕ → Int32) : ℕ → AoaStabilityDetector
  | 0 => new config
  | i + 1 => ((after config angles i).ingest (angles i)).2

/-- The verdict on angle `i`. -/
def verdict (config : AoaStabilityConfig) (angles : ℕ → Int32) (i : ℕ) : AoaStabilityVerdict :=
  ((after config angles i).ingest (angles i)).1

variable (config : AoaStabilityConfig) (angles : ℕ → Int32)

/-- No angle changes the configuration. -/
theorem config_after (i : ℕ) : (after config angles i).config = config := by
  induction i with
  | zero => rfl
  | succ i ih => exact ih

/-! ### The two counters -/

/-- A counter that stops at zero. -/
theorem toNat_decrement (c : UInt8) : (if c ≠ 0 then c - 1 else 0).toNat = c.toNat - 1 := by
  by_cases hzero : c = 0
  · subst hzero
    rfl
  · have hpos : 1 ≤ c.toNat := by
      have hne : c.toNat ≠ 0 := fun h0 => hzero (UInt8.toNat_inj.1 h0)
      omega
    have hle : (1 : UInt8) ≤ c := UInt8.le_iff_toNat_le.2 hpos
    rw [if_pos hzero, UInt8.toNat_sub_of_le _ _ hle]
    rfl

/-- Each angle takes one off the warm-up, down to zero. -/
theorem toNat_warmup (i : ℕ) :
    (after config angles i).warmup.toNat = config.warmupBlocks.toNat - i := by
  induction i with
  | zero => rfl
  | succ i ih =>
    have hstep := toNat_decrement (after config angles i).warmup
    rw [ih] at hstep
    exact hstep.trans (by omega)

/-- The hold counts down from the last jump. -/
theorem toNat_hold (i : ℕ) : (after config angles i).hold.toNat =
    countdown config.holdBlocks.toNat (fun j => (verdict config angles j).jump) i := by
  induction i with
  | zero => rfl
  | succ i ih =>
    have hstep := toNat_decrement (if (verdict config angles i).jump
      then (after config angles i).config.holdBlocks else (after config angles i).hold)
    rw [countdown, ← ih]
    refine hstep.trans ?_
    rw [config_after]
    split_ifs <;> rfl

/-- A counter is running if and only if it is positive. -/
theorem decide_ne_zero_iff {c : UInt8} : decide (c ≠ 0) = true ↔ 0 < c.toNat := by
  rw [decide_eq_true_iff, Nat.pos_iff_ne_zero]
  exact not_congr UInt8.toNat_inj.symm

/-- **An angle is gated during the warm-up and after a jump**, the angle that
jumps included. -/
theorem gated_iff (i : ℕ) : (verdict config angles i).gated = true ↔
    i < config.warmupBlocks.toNat ∨
      ∃ j ≤ i, i < j + config.holdBlocks.toNat ∧ (verdict config angles j).jump = true := by
  have hwarmup : 0 < (after config angles i).warmup.toNat ↔ i < config.warmupBlocks.toNat := by
    rw [toNat_warmup]
    omega
  -- after this angle the hold has been set, if it is, and decreased once
  have hhold : 0 < (if (verdict config angles i).jump then (after config angles i).config.holdBlocks
      else (after config angles i).hold).toNat ↔
      ∃ j ≤ i, i < j + config.holdBlocks.toNat ∧ (verdict config angles j).jump = true := by
    rw [config_after]
    by_cases hjump : (verdict config angles i).jump = true
    · rw [if_pos hjump]
      constructor
      · intro hpos
        exact ⟨i, Nat.le_refl i, by omega, hjump⟩
      · rintro ⟨j, hj, hlt, -⟩
        omega
    · rw [if_neg hjump, toNat_hold, lt_countdown_iff]
      constructor
      · rintro ⟨j, hj, hjj, hlt⟩
        exact ⟨j, Nat.le_of_lt hj, by omega, hjj⟩
      · rintro ⟨j, hj, hlt, hjj⟩
        have hne : j ≠ i := fun heq => hjump (heq ▸ hjj)
        exact ⟨j, by omega, hjj, by omega⟩
  rw [← hwarmup, ← hhold, ← decide_ne_zero_iff, ← decide_ne_zero_iff]
  exact Bool.or_eq_true_iff

/-- `isGated` tells whether an angle that does not jump is gated next. -/
theorem gated_eq_isGated (d : AoaStabilityDetector) {aoaCentiDeg : Int32}
    (h : (d.ingest aoaCentiDeg).1.jump = false) :
    (d.ingest aoaCentiDeg).1.gated = d.isGated := by
  change (decide (d.warmup ≠ 0) || decide ((if (d.ingest aoaCentiDeg).1.jump
    then d.config.holdBlocks else d.hold) ≠ 0)) = d.isGated
  rw [h]
  exact Bool.or_comm ..

/-! ### The reference -/

/-- An angle in centidegrees between -90 and 90 degrees. -/
def InRange (aoaCentiDeg : Int32) : Prop :=
  -9000 ≤ aoaCentiDeg.toInt ∧ aoaCentiDeg.toInt ≤ 9000

/-- The intermediates of a step from the reference `ref` to the angle `a`. -/
structure NoOverflow (a ref : Int32) : Prop where
  difference : Fits 32 (a.toInt - ref.toInt)
  negated : Fits 32 (-(a.toInt - ref.toInt))
  moved : Fits 32 (ref.toInt + (a.toInt - ref.toInt).tdiv 2)

/-- Angles within range do not overflow. -/
theorem noOverflow_of_inRange {a ref : Int32} (ha : InRange a) (href : InRange ref) :
    NoOverflow a ref := by
  obtain ⟨ha, ha'⟩ := ha
  obtain ⟨hr, hr'⟩ := href
  have hhalf := tdiv_two_between (a.toInt - ref.toInt)
  constructor <;> unfold Fits <;> omega

/-- The reference moves towards the angle and not past it. -/
theorem toInt_moved {a ref : Int32} (h : NoOverflow a ref) :
    min a.toInt ref.toInt ≤ (ref + (a - ref) / 2).toInt ∧
      (ref + (a - ref) / 2).toInt ≤ max a.toInt ref.toInt := by
  have hbetween := tdiv_two_between (a.toInt - ref.toInt)
  have hdiff : (a - ref).toInt = a.toInt - ref.toInt := by
    rw [Int32.toInt_sub, bmod_of_fits32 h.difference]
  have hhalf : ((a - ref) / 2).toInt = (a.toInt - ref.toInt).tdiv 2 := by
    rw [Int32.toInt_div, hdiff]
    refine bmod_of_fits32 ?_
    have hd := h.difference
    change Fits 32 ((a.toInt - ref.toInt).tdiv 2)
    unfold Fits at hd ⊢
    omega
  rw [toInt_add32_of_fits (by rw [hhalf]; exact h.moved), hhalf]
  omega

/-- **The reference stays between angles that were seen.** -/
theorem reference_between {i : ℕ} (hrange : ∀ j ≤ i, InRange (angles j)) :
    (∃ j ≤ i, (angles j).toInt ≤ (after config angles (i + 1)).refCentiDeg.toInt) ∧
      ∃ j ≤ i, (after config angles (i + 1)).refCentiDeg.toInt ≤ (angles j).toInt := by
  induction i with
  | zero => exact ⟨⟨0, Nat.le_refl 0, Int.le_refl _⟩, 0, Nat.le_refl 0, Int.le_refl _⟩
  | succ i ih =>
    obtain ⟨⟨j, hj, hlow⟩, k, hk, hhigh⟩ := ih fun j hj => hrange j (Nat.le_succ_of_le hj)
    have ha := hrange (i + 1) (Nat.le_refl _)
    have hj' := hrange j (Nat.le_succ_of_le hj)
    have hk' := hrange k (Nat.le_succ_of_le hk)
    have href : InRange (after config angles (i + 1)).refCentiDeg :=
      ⟨Int.le_trans hj'.1 hlow, Int.le_trans hhigh hk'.2⟩
    obtain ⟨hmin, hmax⟩ := toInt_moved (noOverflow_of_inRange ha href)
    constructor
    · rcases Int.le_total (angles (i + 1)).toInt (angles j).toInt with hle | hle
      · exact ⟨i + 1, Nat.le_refl _, Int.le_trans (by omega) hmin⟩
      · exact ⟨j, Nat.le_succ_of_le hj, Int.le_trans (by omega) hmin⟩
    · rcases Int.le_total (angles (i + 1)).toInt (angles k).toInt with hle | hle
      · exact ⟨k, Nat.le_succ_of_le hk, Int.le_trans hmax (by omega)⟩
      · exact ⟨i + 1, Nat.le_refl _, Int.le_trans hmax (by omega)⟩

/-! ### All of it -/

/-- **How the detector gates angles.**  Angle `i` is gated if and only if it is
one of the warm-up or a jump is less than the hold ago, and `isGated` tells so
beforehand for an angle that does not jump.  The reference stays between angles
that were seen, and no intermediate overflows.  A detector that is reset is a
new one. -/
theorem gating_characterised (config : AoaStabilityConfig) (angles : ℕ → Int32) :
    (∀ i, (verdict config angles i).gated = true ↔ i < config.warmupBlocks.toNat ∨
      ∃ j ≤ i, i < j + config.holdBlocks.toNat ∧ (verdict config angles j).jump = true) ∧
    (∀ i aoaCentiDeg, ((after config angles i).ingest aoaCentiDeg).1.jump = false →
      ((after config angles i).ingest aoaCentiDeg).1.gated = (after config angles i).isGated) ∧
    (∀ i, (∀ j ≤ i + 1, InRange (angles j)) →
      (∃ j ≤ i, (angles j).toInt ≤ (after config angles (i + 1)).refCentiDeg.toInt) ∧
      (∃ j ≤ i, (after config angles (i + 1)).refCentiDeg.toInt ≤ (angles j).toInt) ∧
      NoOverflow (angles (i + 1)) (after config angles (i + 1)).refCentiDeg) ∧
    ∀ d : AoaStabilityDetector, d.config = config → d.reset = new config := by
  refine ⟨gated_iff config angles, fun i a h => gated_eq_isGated _ h, fun i hrange => ?_, ?_⟩
  · have hseen : ∀ j ≤ i, InRange (angles j) := fun j hj => hrange j (Nat.le_succ_of_le hj)
    obtain ⟨⟨j, hj, hlow⟩, k, hk, hhigh⟩ := reference_between config angles hseen
    have href : InRange (after config angles (i + 1)).refCentiDeg :=
      ⟨Int.le_trans (hseen j hj).1 hlow, Int.le_trans hhigh (hseen k hk).2⟩
    exact ⟨⟨j, hj, hlow⟩, ⟨k, hk, hhigh⟩, noOverflow_of_inRange (hrange _ (Nat.le_refl _)) href⟩
  · rintro d rfl
    exact reset_eq d

/-- The hypotheses of `gating_characterised` are satisfiable: with the session's
configuration the fifth angle is not gated, a jump in the sixth gates it and the
next ones, and the jump does not overflow. -/
theorem gating_characterised_sample :
    let angles : ℕ → Int32 := fun j => if j = 5 then 9000 else 0
    (verdict {} angles 4).gated = false ∧ (verdict {} angles 14).gated = true ∧
      (after {} angles 4).isGated = false ∧
      NoOverflow (angles 5) (after {} angles 5).refCentiDeg := by
  intro angles
  have hrange (j : ℕ) : InRange (angles j) := by
    dsimp only [angles]
    split_ifs <;> constructor <;> decide
  obtain ⟨hgated, hnext, hseen, -⟩ := gating_characterised {} angles
  refine ⟨by decide, (hgated 14).2 (.inr ⟨5, by decide, by decide, by decide⟩), ?_,
    (hseen 4 fun j _ => hrange j).2.2⟩
  exact (hnext 4 0 (by decide)).symm.trans (by decide)

end AoaStabilityDetector

end Ranging
end AliroUwb
