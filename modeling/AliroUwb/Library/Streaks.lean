/-
# Streaks in a record

How far a property goes back in a record that lists its newest entry first.

`passingStreak p` counts the newest entries that satisfy `p`, `chainStreak R` the
newest entries each of which is related to the one before it.  A program keeps
such a count in a counter that it resets or increases, often only up to a bound;
`min_succ` is what an increase below the bound does to the bounded count.

Both counts are the length of the longest beginning of the record that has a
property (`Longest`).

The opposite question is how long ago an event was the last one.  A program
answers it with a counter that an event sets and every turn decreases
(`countdown`); what is left of it says whether the event is recent
(`lt_countdown_iff`).
-/

import Mathlib.Data.List.Chain
import Mathlib.Order.Bounds.Defs

namespace Streaks

variable {α : Type*}

/-- The number of newest entries that satisfy `p`. -/
def passingStreak (p : α → Bool) : List α → ℕ
  | [] => 0
  | a :: l => if p a then passingStreak p l + 1 else 0

/-- The number of newest entries of which each but the oldest is related to its
predecessor. -/
def chainStreak (R : α → α → Prop) [DecidableRel R] : List α → ℕ
  | [] => 0
  | [_] => 1
  | a :: b :: l => if R a b then chainStreak R (b :: l) + 1 else 1

/-- **A streak of `n` is `n` entries that satisfy `p`.** -/
theorem le_passingStreak_iff {p : α → Bool} {l : List α} {n : ℕ} :
    n ≤ passingStreak p l ↔ n ≤ l.length ∧ ∀ a ∈ l.take n, p a = true := by
  induction l generalizing n with
  | nil => simp [passingStreak]
  | cons a l ih =>
    cases n with
    | zero => simp
    | succ n =>
      rw [passingStreak, List.take_succ_cons, List.forall_mem_cons, List.length_cons,
        Nat.succ_le_succ_iff]
      split_ifs with h
      · rw [Nat.succ_le_succ_iff, ih]
        exact ⟨fun hl => ⟨hl.1, h, hl.2⟩, fun hl => ⟨hl.1, hl.2.2⟩⟩
      · exact ⟨fun hl => absurd hl (Nat.not_succ_le_zero n), fun hl => absurd hl.2.1 h⟩

/-- **A streak of `n` is a chain of `n` entries.** -/
theorem le_chainStreak_iff {R : α → α → Prop} [DecidableRel R] {l : List α} {n : ℕ} :
    n ≤ chainStreak R l ↔ n ≤ l.length ∧ (l.take n).IsChain R := by
  induction l generalizing n with
  | nil => simp [chainStreak]
  | cons a l ih =>
    cases n with
    | zero => simp
    | succ n =>
      rw [List.take_succ_cons, List.length_cons, Nat.succ_le_succ_iff]
      cases l with
      | nil =>
        rw [chainStreak, Nat.succ_le_succ_iff]
        exact ⟨fun h => ⟨h, by simp⟩, fun h => h.1⟩
      | cons b l =>
        rw [chainStreak]
        cases n with
        | zero =>
          refine ⟨fun _ => ⟨Nat.zero_le _, .singleton a⟩, fun _ => ?_⟩
          split_ifs <;> omega
        | succ n =>
          split_ifs with h
          · rw [Nat.succ_le_succ_iff, ih, List.take_succ_cons, List.isChain_cons_cons]
            exact ⟨fun hl => ⟨hl.1, h, hl.2⟩, fun hl => ⟨hl.1, hl.2.2⟩⟩
          · rw [List.take_succ_cons, List.isChain_cons_cons]
            exact ⟨fun hl => by omega, fun hl => absurd hl.2.1 h⟩

/-- `n` is the length of the longest beginning of `l` that satisfies `p`. -/
def Longest (p : List α → Prop) (l : List α) (n : ℕ) : Prop :=
  IsGreatest {k | k ≤ l.length ∧ p (l.take k)} n

/-- The streak of passing elements is the longest one. -/
theorem longest_passingStreak (p : α → Bool) (l : List α) :
    Longest (fun m => ∀ a ∈ m, p a = true) l (passingStreak p l) :=
  ⟨le_passingStreak_iff.1 (Nat.le_refl _), fun _ h => le_passingStreak_iff.2 h⟩

/-- The streak of a relation is the longest chain. -/
theorem longest_chainStreak (R : α → α → Prop) [DecidableRel R] (l : List α) :
    Longest (List.IsChain R) l (chainStreak R l) :=
  ⟨le_chainStreak_iff.1 (Nat.le_refl _), fun _ h => le_chainStreak_iff.2 h⟩

/-- A count bounded by `K` that is increased below `K` only. -/
theorem min_succ {K c n : ℕ} (h : c = min K n) : (if c < K then c + 1 else c) = min K (n + 1) := by
  split_ifs <;> omega

/-! ### Countdowns -/

/-- A counter after `i` turns, which an event (`f`) sets to `H` and each turn,
also that of the event, decreases by one. -/
def countdown (H : ℕ) (f : ℕ → Bool) : ℕ → ℕ
  | 0 => 0
  | i + 1 => (if f i then H else countdown H f i) - 1

/-- **More than `k` is left if and only if an event is recent enough.** -/
theorem lt_countdown_iff {H : ℕ} {f : ℕ → Bool} {i k : ℕ} :
    k < countdown H f i ↔ ∃ j < i, f j = true ∧ i + k < j + H := by
  induction i generalizing k with
  | zero => simp [countdown]
  | succ i ih =>
    rw [countdown]
    by_cases hf : f i = true
    · rw [if_pos hf]
      constructor
      · intro h
        exact ⟨i, Nat.lt_succ_self i, hf, by omega⟩
      · rintro ⟨j, hj, -, hlt⟩
        omega
    · rw [if_neg hf, Nat.lt_sub_iff_add_lt, ih]
      constructor
      · rintro ⟨j, hj, hfj, hlt⟩
        exact ⟨j, Nat.lt_succ_of_lt hj, hfj, by omega⟩
      · rintro ⟨j, hj, hfj, hlt⟩
        have hne : j ≠ i := fun heq => hf (heq ▸ hfj)
        exact ⟨j, by omega, hfj, by omega⟩

end Streaks
