/-
# Signed machine words and the integers

Two's complement arithmetic is exact where the exact result is representable:
`Fits w z` says that the integer `z` is a value of a signed `w`-bit word, and
each operation on `Int64` and `Int32` has a lemma that says so (`toInt_mul_of_fits`,
…).  Division truncates, so a bound on a quotient is a bound on the dividend
(`tdiv_lt_iff`).
-/

import Mathlib.Algebra.Group.Int.Defs
import Mathlib.Algebra.Group.Nat.Defs

namespace SignedWords

/-- `z` is representable in `w` bits, two's complement. -/
def Fits (w : ℕ) (z : ℤ) : Prop := -2 ^ (w - 1) ≤ z ∧ z < 2 ^ (w - 1)

/-- Whether a number fits can be computed. -/
instance (w : ℕ) (z : ℤ) : Decidable (Fits w z) := inferInstanceAs (Decidable (_ ∧ _))

/-- The value of a 32-bit word fits 32 bits. -/
theorem fits_int32 (x : Int32) : Fits 32 x.toInt := ⟨x.le_toInt, x.toInt_lt⟩

/-- A number that fits 64 bits does not wrap. -/
theorem bmod_of_fits64 {z : ℤ} (h : Fits 64 z) : z.bmod (2 ^ 64) = z :=
  Int.bmod_eq_of_le h.1 h.2

/-- A number that fits 32 bits does not wrap. -/
theorem bmod_of_fits32 {z : ℤ} (h : Fits 32 z) : z.bmod (2 ^ 32) = z :=
  Int.bmod_eq_of_le h.1 h.2

/-- A 64-bit sum that fits is exact. -/
theorem toInt_add_of_fits {a b : Int64} (h : Fits 64 (a.toInt + b.toInt)) :
    (a + b).toInt = a.toInt + b.toInt := by
  rw [Int64.toInt_add, bmod_of_fits64 h]

/-- A 64-bit difference that fits is exact. -/
theorem toInt_sub_of_fits {a b : Int64} (h : Fits 64 (a.toInt - b.toInt)) :
    (a - b).toInt = a.toInt - b.toInt := by
  rw [Int64.toInt_sub, bmod_of_fits64 h]

/-- A 64-bit product that fits is exact. -/
theorem toInt_mul_of_fits {a b : Int64} (h : Fits 64 (a.toInt * b.toInt)) :
    (a * b).toInt = a.toInt * b.toInt := by
  rw [Int64.toInt_mul, bmod_of_fits64 h]

/-- A 64-bit quotient that fits is the one rounded towards zero. -/
theorem toInt_div_of_fits {a b : Int64} (h : Fits 64 (a.toInt.tdiv b.toInt)) :
    (a / b).toInt = a.toInt.tdiv b.toInt := by
  rw [Int64.toInt_div, bmod_of_fits64 h]

/-- A narrowing cast. -/
theorem toInt_toInt32_of_fits {a : Int64} (h : Fits 32 a.toInt) : a.toInt32.toInt = a.toInt := by
  rw [Int64.toInt_toInt32, bmod_of_fits32 h]

/-- A 32-bit sum that fits is exact. -/
theorem toInt_add32_of_fits {a b : Int32} (h : Fits 32 (a.toInt + b.toInt)) :
    (a + b).toInt = a.toInt + b.toInt := by
  rw [Int32.toInt_add, bmod_of_fits32 h]

/-- The absolute value of all but the least value. -/
theorem toInt_abs_of_ne {x : Int32} (h : x.toInt ≠ -2 ^ 31) : x.abs.toInt = x.toInt.natAbs := by
  refine (BitVec.toInt_abs_eq_natAbs_of_ne_intMin fun hmin => h ?_)
  exact congrArg BitVec.toInt hmin

/-- Counters that wrap are compared by the sign of their difference. -/
theorem toInt_ofNat_sub_of_fits {a b : ℕ} (h : Fits 32 ((a : ℤ) - b)) :
    (UInt32.ofNat a - UInt32.ofNat b).toInt32.toInt = a - b := by
  have hsub : (UInt32.ofNat a - UInt32.ofNat b).toInt32 = Int32.ofNat a - Int32.ofNat b := rfl
  rw [hsub, Int32.toInt_sub, Int32.toInt_ofNat', Int32.toInt_ofNat',
    show Int32.size = 2 ^ 32 from rfl, Int.bmod_sub_bmod, Int.sub_bmod_bmod, bmod_of_fits32 h]

/-! ### Truncating division -/

/-- A quotient is below a positive bound if and only if the dividend is. -/
theorem tdiv_lt_iff {n d k : ℤ} (hd : 0 < d) (hk : 0 < k) : n.tdiv d < k ↔ n < k * d := by
  rcases Int.le_total 0 n with hn | hn
  · rw [Int.tdiv_eq_ediv_of_nonneg hn, Int.ediv_lt_iff_lt_mul hd]
  · have hquot : n.tdiv d ≤ 0 := by
      have h := Int.tdiv_nonneg (Int.neg_nonneg_of_nonpos hn) (Int.le_of_lt hd)
      rw [Int.neg_tdiv] at h
      omega
    have hprod := Int.mul_pos hk hd
    omega

/-- The same on the other side of zero. -/
theorem neg_lt_tdiv_iff {n d k : ℤ} (hd : 0 < d) (hk : 0 < k) : -k < n.tdiv d ↔ -n < k * d := by
  rw [← tdiv_lt_iff hd hk, Int.neg_tdiv]
  omega

/-- A half lies between zero and the whole. -/
theorem tdiv_two_between (n : ℤ) : min 0 n ≤ n.tdiv 2 ∧ n.tdiv 2 ≤ max 0 n := by
  rcases Int.le_total 0 n with hn | hn
  · rw [Int.tdiv_eq_ediv_of_nonneg hn]
    omega
  · have h : (-n).tdiv 2 = -n / 2 := Int.tdiv_eq_ediv_of_nonneg (by omega)
    rw [Int.neg_tdiv] at h
    omega

end SignedWords
