/-
# The default hopping sequence

`src/ranging/HoppingCalculator.cpp`.  The 64-bit intermediates of the C++ code
stay below `2^33`, so natural numbers stand for them.
-/

import AliroUwb.Core.Types

namespace AliroUwb
namespace Ranging

/-- `HoppingCalculator::HoppingModulus`, the largest prime below `2^16`. -/
def hoppingModulus : ℕ := 65521

/-- `HoppingCalculator::calculateRoundIndex`. -/
def calculateRoundIndex (blockIndex : BlockIndex) (hopKeyRw : UInt32) (roundsPerBlock : UInt16) :
    SlotIndex :=
  if roundsPerBlock = 0 then 0
  else
    let t := (blockIndex.toNat + hopKeyRw.toNat) &&& 0xFFFF
    let t := t * t % hoppingModulus
    UInt16.ofNat ((t * roundsPerBlock.toNat) >>> 16)

/-- A round index is the index of a round. -/
theorem calculateRoundIndex_lt (block : BlockIndex) (key : UInt32) {rounds : UInt16}
    (h : rounds ≠ 0) : calculateRoundIndex block key rounds < rounds := by
  have hpos : 0 < rounds.toNat := by
    have hne : rounds.toNat ≠ 0 := fun h0 => h (UInt16.toNat_inj.1 h0)
    omega
  have hlt : rounds.toNat < 2 ^ 16 := rounds.toNat_lt
  unfold calculateRoundIndex
  rw [if_neg h, UInt16.lt_iff_toNat_lt]
  dsimp only
  generalize (block.toNat + key.toNat) &&& 0xFFFF = t
  rw [Nat.shiftRight_eq_div_pow]
  have ht : t * t % hoppingModulus < 2 ^ 16 := by
    have hmod : t * t % hoppingModulus < hoppingModulus := Nat.mod_lt _ (by decide)
    have hprime : hoppingModulus < 2 ^ 16 := by decide
    omega
  have hdiv : t * t % hoppingModulus * rounds.toNat / 2 ^ 16 < rounds.toNat := by
    rw [Nat.div_lt_iff_lt_mul (by decide), Nat.mul_comm rounds.toNat]
    exact Nat.mul_lt_mul_of_pos_right ht hpos
  rw [UInt16.toNat_ofNat_of_lt' (Nat.lt_trans hdiv hlt)]
  exact hdiv

end Ranging
end AliroUwb
