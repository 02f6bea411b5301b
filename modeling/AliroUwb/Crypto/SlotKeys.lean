/-
# Slot keys and rounds

What `deriveSlotKeys` takes from an STS index.  The round key URSK_KT is a CMAC
of two messages that contain the base of the round (`urskKtMessage`), and these
are the same exactly for the STS indices of one round (`urskKtMessage_inj`); the
keys dURSK and dUDSK are derived from URSK_KT alone (`deriveSlotKeys_eq`), and
the STS IV is different for every STS index (`deriveStsIv_inj`).

A round is counted from the first STS index of the session, modulo 2^32, so the
last round before the wrap may be a short one.
-/

import AliroUwb.Crypto.KeyDerivation
import Mathlib.Data.Nat.Bitwise

namespace AliroUwb
namespace Crypto

/-! ### The messages and the keys in parts -/

/-- A message from which `deriveSlotKeys` derives a half of URSK_KT. -/
def urskKtMessage (counter : UInt32) (stsIndex : StsIndex) (slotsPerRound : UInt16)
    (stsIndex0 : StsIndex) : List UInt8 :=
  kdf108Message counter labelUrskKt (bitContext (roundBase stsIndex slotsPerRound stsIndex0)) 256

variable (P : CryptoProvider)

/-- URSK_KT, of its two messages. -/
def deriveUrskKt (mursk : Bytes 32) (message₁ message₂ : List UInt8) : CryptoM (Bytes 32) := do
  let kt1 ← aesCmac P mursk.1 message₁
  let kt2 ← aesCmac P mursk.1 message₂
  return kt1.append kt2

/-- dURSK and dUDSK. -/
def deriveRoundKeys (urskKt : Bytes 32) (saltedHash : Bytes 16) :
    CryptoM (Bytes 16 × Bytes 16) := do
  let durskKey ← kdf108 P urskKt.1 1 labelUrsk (saltedHash.1 ++ zeroContext3) 128
  let dudskKey ← kdf108 P urskKt.1 1 labelUdsk (saltedHash.1 ++ zeroContext3) 128
  return (durskKey, dudskKey)

variable {P}

/-- **The STS index enters the keys through URSK_KT only.** -/
theorem deriveSlotKeys_eq (mursk : Bytes 32) (saltedHash : Bytes 16) (stsIndex : StsIndex)
    {slotsPerRound : UInt16} (h : slotsPerRound ≠ 0) (stsIndex0 : StsIndex) :
    deriveSlotKeys P mursk saltedHash stsIndex slotsPerRound stsIndex0 = (do
      let urskKt ← deriveUrskKt P mursk (urskKtMessage 1 stsIndex slotsPerRound stsIndex0)
        (urskKtMessage 2 stsIndex slotsPerRound stsIndex0)
      let keys ← deriveRoundKeys P urskKt saltedHash
      return {
        durskKey := keys.1, dudskKey := keys.2, stsIv := deriveStsIv saltedHash stsIndex }) := by
  unfold deriveSlotKeys deriveUrskKt deriveRoundKeys
  rw [if_neg h]
  simp only [bind_assoc, pure_bind]
  rfl

/-! ### The base of a round -/

/-- The bits of a round base, in terms of the number. -/
theorem bitContext_eq (base : StsIndex) : bitContext base =
    (List.range 32).map fun b => UInt8.ofNat (base.toNat.testBit (31 - b)).toNat := by
  refine List.map_congr_left fun b hb => ?_
  rw [List.mem_range] at hb
  have hshift : (31 - UInt32.ofNat b).toNat % 32 = 31 - b := by
    have hle : UInt32.ofNat b ≤ 31 := by
      rw [UInt32.le_iff_toNat_le, UInt32.toNat_ofNat']
      change b % 2 ^ 32 ≤ 31
      omega
    rw [UInt32.toNat_sub_of_le _ _ hle, UInt32.toNat_ofNat']
    change (31 - b % 2 ^ 32) % 32 = 31 - b
    omega
  refine UInt8.toNat_inj.1 ?_
  rw [UInt32.toNat_toUInt8, UInt32.toNat_and, UInt32.toNat_shiftRight, hshift, UInt8.toNat_ofNat',
    Nat.toNat_testBit, ← Nat.shiftRight_eq_div_pow, ← Nat.and_one_is_mod]
  rfl

/-- Different bases have different bits. -/
theorem bitContext_inj {a b : StsIndex} : bitContext a = bitContext b ↔ a = b := by
  refine ⟨fun h => ?_, congrArg bitContext⟩
  rw [bitContext_eq, bitContext_eq, List.map_inj_left] at h
  refine UInt32.toNat_inj.1 (Nat.eq_of_testBit_eq fun i => ?_)
  by_cases hi : i < 32
  · have hbit := h (31 - i) (List.mem_range.2 (by omega))
    rw [show 31 - (31 - i) = i by omega] at hbit
    generalize a.toNat.testBit i = x at hbit ⊢
    generalize b.toNat.testBit i = y at hbit ⊢
    revert hbit
    cases x <;> cases y <;> decide
  · have hlarge {n : ℕ} (hn : n < 2 ^ 32) : n.testBit i = false :=
      Nat.testBit_lt_two_pow (Nat.lt_of_lt_of_le hn (Nat.pow_le_pow_right (by decide) (by omega)))
    rw [hlarge a.toNat_lt, hlarge b.toNat_lt]

/-- How far the base of the round lies from the first STS index. -/
theorem toNat_roundBase_sub (stsIndex : StsIndex) (slotsPerRound : UInt16) (stsIndex0 : StsIndex) :
    (roundBase stsIndex slotsPerRound stsIndex0 - stsIndex0).toNat =
      slotsPerRound.toNat * ((stsIndex - stsIndex0).toNat / slotsPerRound.toNat) := by
  have hsub : roundBase stsIndex slotsPerRound stsIndex0 - stsIndex0 =
      (stsIndex - stsIndex0) - (stsIndex - stsIndex0) % slotsPerRound.toUInt32 := by
    unfold roundBase
    grind
  have hmod : ((stsIndex - stsIndex0) % slotsPerRound.toUInt32).toNat =
      (stsIndex - stsIndex0).toNat % slotsPerRound.toNat := by
    rw [UInt32.toNat_mod, UInt16.toNat_toUInt32]
  have hle := Nat.mod_le (stsIndex - stsIndex0).toNat slotsPerRound.toNat
  have hdiv := Nat.div_add_mod (stsIndex - stsIndex0).toNat slotsPerRound.toNat
  rw [hsub, UInt32.toNat_sub_of_le _ _ (UInt32.le_iff_toNat_le.2 (by rw [hmod]; exact hle)), hmod]
  omega

/-- **Two STS indices have the same base if and only if they are in the same round.** -/
theorem roundBase_inj {stsIndex stsIndex' : StsIndex} {slotsPerRound : UInt16}
    (h : slotsPerRound ≠ 0) {stsIndex0 : StsIndex} :
    roundBase stsIndex slotsPerRound stsIndex0 = roundBase stsIndex' slotsPerRound stsIndex0 ↔
      (stsIndex - stsIndex0).toNat / slotsPerRound.toNat =
        (stsIndex' - stsIndex0).toNat / slotsPerRound.toNat := by
  have hpos : 0 < slotsPerRound.toNat := by
    have hne : slotsPerRound.toNat ≠ 0 := fun h0 => h (UInt16.toNat_inj.1 h0)
    omega
  have hoffset {a b : StsIndex} : a = b ↔ (a - stsIndex0).toNat = (b - stsIndex0).toNat := by
    rw [UInt32.toNat_inj, UInt32.sub_left_inj]
  rw [hoffset, toNat_roundBase_sub, toNat_roundBase_sub]
  exact Nat.mul_right_inj (Nat.ne_of_gt hpos)

/-- **The messages of URSK_KT are those of the round.** -/
theorem urskKtMessage_inj {counter : UInt32} {stsIndex stsIndex' : StsIndex}
    {slotsPerRound : UInt16} (h : slotsPerRound ≠ 0) {stsIndex0 : StsIndex} :
    urskKtMessage counter stsIndex slotsPerRound stsIndex0 =
        urskKtMessage counter stsIndex' slotsPerRound stsIndex0 ↔
      (stsIndex - stsIndex0).toNat / slotsPerRound.toNat =
        (stsIndex' - stsIndex0).toNat / slotsPerRound.toNat := by
  rw [urskKtMessage, urskKtMessage, kdf108Message, kdf108Message, List.append_left_inj,
    List.append_right_inj, bitContext_inj, roundBase_inj h]

/-! ### The STS IV -/

/-- **Every STS index has its own IV.** -/
theorem deriveStsIv_inj {saltedHash : Bytes 16} {stsIndex stsIndex' : StsIndex} :
    deriveStsIv saltedHash stsIndex = deriveStsIv saltedHash stsIndex' ↔ stsIndex = stsIndex' := by
  refine ⟨fun h => ?_, congrArg (deriveStsIv saltedHash)⟩
  have hbytes (i : StsIndex) : (deriveStsIv saltedHash i).1 =
      saltedHash.1.take 8 ++ writeBe32 (readBe32 saltedHash.1 8 + i) ++ saltedHash.1.drop 12 := by
    have hlen : (saltedHash.1.take 8 ++ writeBe32 (readBe32 saltedHash.1 8 + i) ++
        saltedHash.1.drop 12).length = 16 := by
      simp [saltedHash.2]
    change (_ : List UInt8).take 16 ++ List.replicate (16 - (_ : List UInt8).length) 0 = _
    rw [hlen, List.take_of_length_le (Nat.le_of_eq hlen)]
    exact List.append_nil _
  have hcounter := congrArg Subtype.val h
  rw [hbytes, hbytes, List.append_left_inj, List.append_right_inj] at hcounter
  exact (UInt32.add_right_inj _).1 (writeBe32_inj.1 hcounter)

end Crypto
end AliroUwb
