/-
# One key for a round

The three slots of an exchange have STS indices that are computed apart from
the rounds of `deriveSlotKeys`: the schedule counts blocks and rounds in 64 bits
(`pollStsIndexFor`) and the legs as offsets from the Poll.  Where nothing wraps,
the Poll is one slot into its round, and all legs of the exchange are inside it
(`round_of_leg`).  So they share their keys, and the FinalData, whose key is
derived again from the armed Poll index, is secured with the same one.
-/

import AliroUwb.Crypto.SlotKeys
import AliroUwb.Session.Effects
import AliroUwb.Session.System

namespace AliroUwb
namespace Session

open Crypto Protocol

variable {P : Platform} {params : RangingSessionParameters}

/-- A block has its rounds and their slots, if the number fits. -/
theorem toNat_blockStsStride
    (h : (roundsPerBlock params).toNat * params.slotsPerRound.toNat < 2 ^ 32) :
    (blockStsStride params).toNat =
      (roundsPerBlock params).toNat * params.slotsPerRound.toNat := by
  unfold blockStsStride
  dsimp only
  split_ifs with hzero
  · rw [hzero]
    exact (Nat.zero_mul _).symm
  · rw [UInt32.toNat_mul, UInt8.toNat_toUInt32, Nat.mod_eq_of_lt h]

/-- The Poll of a round, counted from the first STS index. -/
theorem toNat_pollStsIndexFor_sub (block : BlockIndex) (round : SlotIndex)
    (h : block.toNat * (blockStsStride params).toNat +
      round.toNat * params.slotsPerRound.toNat + 1 < 2 ^ 32) :
    (pollStsIndexFor params block round - params.stsIndex0).toNat =
      block.toNat * (blockStsStride params).toNat +
        round.toNat * params.slotsPerRound.toNat + 1 := by
  have h₀ := params.stsIndex0.toNat_lt
  unfold pollStsIndexFor
  generalize block.toNat * (blockStsStride params).toNat +
    round.toNat * params.slotsPerRound.toNat = offset at h ⊢
  rw [UInt32.toNat_sub, UInt32.toNat_ofNat']
  omega

/-- The legs of an exchange are slots of its round, `leg` slots after the Poll. -/
theorem round_of_leg {block : BlockIndex} {round : SlotIndex} {leg : UInt32}
    (hrounds : (roundsPerBlock params).toNat * params.slotsPerRound.toNat < 2 ^ 32)
    (hwrap : block.toNat * (blockStsStride params).toNat +
      round.toNat * params.slotsPerRound.toNat + 1 + leg.toNat < 2 ^ 32)
    (hleg : leg.toNat + 1 < params.slotsPerRound.toNat) :
    (pollStsIndexFor params block round + leg - params.stsIndex0).toNat /
      params.slotsPerRound.toNat = block.toNat * (roundsPerBlock params).toNat + round.toNat := by
  have hpoll := @toNat_pollStsIndexFor_sub params block round (by omega)
  have hsub : pollStsIndexFor params block round + leg - params.stsIndex0 =
      (pollStsIndexFor params block round - params.stsIndex0) + leg := by grind
  have hval : (pollStsIndexFor params block round + leg - params.stsIndex0).toNat =
      (block.toNat * (roundsPerBlock params).toNat + round.toNat) * params.slotsPerRound.toNat +
        (1 + leg.toNat) := by
    rw [hsub, UInt32.toNat_add, hpoll, Nat.mod_eq_of_lt hwrap, toNat_blockStsStride hrounds,
      Nat.add_mul, Nat.mul_assoc, Nat.add_assoc]
  rw [hval, Nat.add_comm, Nat.add_mul_div_right _ _ (by omega),
    Nat.div_eq_of_lt (by omega), Nat.zero_add]

/-- What the engine returns for an STS index, without a fault. -/
theorem value_slotKeysAt {s : SessionMembers} (h : s.params.slotsPerRound.toUInt16 ≠ 0)
    (stsIndex : StsIndex) : ∃ urskKt keys,
      value (deriveUrskKt P.crypto s.keys.mursk
        (urskKtMessage 1 stsIndex s.params.slotsPerRound.toUInt16 s.params.stsIndex0)
        (urskKtMessage 2 stsIndex s.params.slotsPerRound.toUInt16 s.params.stsIndex0)) =
          .ok urskKt ∧
      value (deriveRoundKeys P.crypto urskKt s.keys.saltedHash) = .ok keys ∧
      value (slotKeysAt P s stsIndex) =
        .ok ⟨keys.1, deriveStsIv s.keys.saltedHash stsIndex, keys.2⟩ := by
  refine ⟨_, _, rfl, rfl, ?_⟩
  rw [slotKeysAt, deriveSlotKeys_eq _ _ _ h]
  rfl

/-- **Slots of one round have the same keys.** -/
theorem same_keys_of_round {s : SessionMembers} {i j : StsIndex} {a b : SlotCryptoMaterial}
    (h : s.params.slotsPerRound.toUInt16 ≠ 0)
    (hround : (i - s.params.stsIndex0).toNat / s.params.slotsPerRound.toUInt16.toNat =
      (j - s.params.stsIndex0).toNat / s.params.slotsPerRound.toUInt16.toNat)
    (ha : value (slotKeysAt P s i) = .ok a) (hb : value (slotKeysAt P s j) = .ok b) :
    a.durskKey = b.durskKey ∧ a.dudskKey = b.dudskKey := by
  obtain ⟨kt, keys, hkt, hkeys, hi⟩ := value_slotKeysAt (P := P) h i
  obtain ⟨kt', keys', hkt', hkeys', hj⟩ := value_slotKeysAt (P := P) h j
  rw [(urskKtMessage_inj h).2 hround, (urskKtMessage_inj h).2 hround, hkt'] at hkt
  obtain rfl := Except.ok.inj hkt
  obtain rfl := Except.ok.inj (hkeys.symm.trans hkeys')
  obtain rfl := Except.ok.inj (ha.symm.trans hi)
  obtain rfl := Except.ok.inj (hb.symm.trans hj)
  exact ⟨rfl, rfl⟩

/-- The keys that `deriveCycleKeys` returns are those of its exchange. -/
theorem cycleKeysFor_of_ok {s : SessionMembers} {i : StsIndex} {out keys : CycleKeys}
    {faults : Faults} (h : (deriveCycleKeys P s i out faults).1 = (.ok (), keys)) :
    CycleKeysFor P s i keys := by
  rcases deriveCycleKeys_cases (P := P) s i out faults with
    ⟨keys', f, hd, hkeys, -⟩ | ⟨e, keys', f, hd, -⟩
  · rw [hd] at h
    obtain ⟨-, rfl⟩ := Prod.mk.inj h
    exact hkeys
  · rw [hd] at h
    cases (Prod.mk.inj h).1

/-- **The legs of an exchange share their keys.** -/
theorem same_keys_of_cycle {s : SessionMembers} {block : BlockIndex} {round : SlotIndex}
    {keys : CycleKeys} (hkeys : CycleKeysFor P s (pollStsIndexFor s.params block round) keys)
    (hrounds : (roundsPerBlock s.params).toNat * s.params.slotsPerRound.toNat < 2 ^ 32)
    (hwrap : block.toNat * (blockStsStride s.params).toNat +
      round.toNat * s.params.slotsPerRound.toNat + s.params.responderCount.toNat + 2 < 2 ^ 32)
    (hindex : s.nodeConfig.responderIndex < s.params.responderCount)
    (hcount : s.params.responderCount.toNat + 2 < s.params.slotsPerRound.toNat) :
    (keys.poll.durskKey = keys.response.durskKey ∧ keys.poll.dudskKey = keys.response.dudskKey) ∧
      keys.poll.durskKey = keys.final.durskKey ∧ keys.poll.dudskKey = keys.final.dudskKey := by
  have hindex' := UInt8.lt_iff_toNat_lt.1 hindex
  have hslots : s.params.slotsPerRound.toUInt16 ≠ 0 := fun h0 => by
    have hzero := congrArg UInt16.toNat h0
    rw [UInt8.toNat_toUInt16] at hzero
    change s.params.slotsPerRound.toNat = 0 at hzero
    omega
  -- the Poll and every leg up to the Final is in round `round` of block `block`
  have hleg (leg : UInt32) (h : leg.toNat ≤ 1 + s.params.responderCount.toNat) :
      (pollStsIndexFor s.params block round - s.params.stsIndex0).toNat /
          s.params.slotsPerRound.toUInt16.toNat =
        (pollStsIndexFor s.params block round + leg - s.params.stsIndex0).toNat /
          s.params.slotsPerRound.toUInt16.toNat := by
    have hpoll := @round_of_leg s.params block round 0 hrounds
      (by rw [UInt32.toNat_zero]; omega) (by rw [UInt32.toNat_zero]; omega)
    rw [UInt32.add_zero] at hpoll
    rw [UInt8.toNat_toUInt16, hpoll, round_of_leg hrounds (by omega) (by omega)]
  have hoffset (n : UInt8) : (1 + n.toUInt32).toNat = 1 + n.toNat := by
    have hn := n.toNat_lt
    rw [UInt32.toNat_add, UInt8.toNat_toUInt32]
    change (1 + n.toNat) % 2 ^ 32 = 1 + n.toNat
    omega
  have hresponse := hkeys.response
  have hfinal := hkeys.final
  rw [UInt32.add_assoc] at hresponse hfinal
  exact ⟨same_keys_of_round hslots (hleg _ (by rw [hoffset]; omega)) hkeys.poll hresponse,
    same_keys_of_round hslots (hleg _ (Nat.le_of_eq (hoffset _))) hkeys.poll hfinal⟩

/-- **The round key is that of the round, and the IV that of the slot.**  The
messages of URSK_KT tell rounds apart and nothing else, the other keys depend on
the STS index through URSK_KT only, and no two STS indices share an IV.  So
where the counting of the schedule does not wrap, and the exchange fits into its
round, the Poll, the Response and the Final have one dURSK and one dUDSK, and
the latter is what a FinalData is decrypted with. -/
theorem slotKeys_of_rounds (P : Platform) :
    (∀ (mursk : Bytes 32) (saltedHash : Bytes 16) (slotsPerRound : UInt16)
        (stsIndex0 s₁ s₂ : StsIndex), slotsPerRound ≠ 0 →
      (∀ counter, urskKtMessage counter s₁ slotsPerRound stsIndex0 =
          urskKtMessage counter s₂ slotsPerRound stsIndex0 ↔
        (s₁ - stsIndex0).toNat / slotsPerRound.toNat =
          (s₂ - stsIndex0).toNat / slotsPerRound.toNat) ∧
      (deriveSlotKeys P.crypto mursk saltedHash s₁ slotsPerRound stsIndex0 = do
        let urskKt ← deriveUrskKt P.crypto mursk (urskKtMessage 1 s₁ slotsPerRound stsIndex0)
          (urskKtMessage 2 s₁ slotsPerRound stsIndex0)
        let keys ← deriveRoundKeys P.crypto urskKt saltedHash
        return ⟨keys.1, deriveStsIv saltedHash s₁, keys.2⟩) ∧
      (deriveStsIv saltedHash s₁ = deriveStsIv saltedHash s₂ ↔ s₁ = s₂)) ∧
    ∀ (s : SessionMembers) (block : BlockIndex) (round : SlotIndex),
      round.toUInt32 < roundsPerBlock s.params →
      (roundsPerBlock s.params).toNat * s.params.slotsPerRound.toNat < 2 ^ 32 →
      block.toNat * (blockStsStride s.params).toNat +
        round.toNat * s.params.slotsPerRound.toNat + s.params.responderCount.toNat + 2 < 2 ^ 32 →
      s.nodeConfig.responderIndex < s.params.responderCount →
      s.params.responderCount.toNat + 2 < s.params.slotsPerRound.toNat →
      ∀ (out keys : CycleKeys) (faults : Faults),
        (deriveCycleKeys P s (pollStsIndexFor s.params block round) out faults).1 =
          (.ok (), keys) →
        (keys.poll.durskKey = keys.response.durskKey ∧
          keys.poll.dudskKey = keys.response.dudskKey) ∧
        (keys.poll.durskKey = keys.final.durskKey ∧ keys.poll.dudskKey = keys.final.dudskKey) ∧
        ∀ (t : SessionMembers) (faults : Faults) (slotKeys : SlotCryptoMaterial),
          t.keys = s.keys → t.params = s.params → t.armedPollStsIndex = keys.pollStsIndex →
          (deriveSlotKeys P.crypto t.keys.mursk t.keys.saltedHash t.armedPollStsIndex
            t.params.slotsPerRound.toUInt16 t.params.stsIndex0 faults).1 = .ok slotKeys →
          slotKeys.dudskKey = keys.poll.dudskKey := by
  refine ⟨fun mursk saltedHash slotsPerRound stsIndex0 s₁ s₂ h =>
    ⟨fun _ => urskKtMessage_inj h, deriveSlotKeys_eq mursk saltedHash s₁ h stsIndex0,
      deriveStsIv_inj⟩, ?_⟩
  intro s block round _ hrounds hwrap hindex hcount out keys faults hok
  have hkeys := cycleKeysFor_of_ok hok
  obtain ⟨hresponse, hfinal⟩ := same_keys_of_cycle hkeys hrounds hwrap hindex hcount
  refine ⟨hresponse, hfinal, fun t faults slotKeys htkeys htparams harmed hslot => ?_⟩
  rw [harmed, hkeys.pollStsIndex, htkeys, htparams] at hslot
  have hvalue := (steady_slotKeysAt s (pollStsIndexFor s.params block round)).value_of_ok hslot
  rw [Except.ok.inj (hvalue.symm.trans hkeys.poll)]

/-- The hypotheses of `slotKeys_of_rounds` are satisfiable: round 5 of block 3, of
eight rounds to a block. -/
theorem slotKeys_of_rounds_sample :
    let s : SessionMembers := { (System.initial {}).session with params := sampleParams }
    urskKtMessage 1 5 12 0 = urskKtMessage 1 6 12 0 ∧
    ∃ keys, (deriveCycleKeys .sample s (pollStsIndexFor s.params 3 5) {} noFaults).1 =
        (.ok (), keys) ∧
      keys.poll.durskKey = keys.final.durskKey ∧ keys.poll.dudskKey = keys.final.dudskKey := by
  intro s
  have h := slotKeys_of_rounds .sample
  refine ⟨((h.1 (Bytes.zero 32) (Bytes.zero 16) 12 0 5 6 (by decide)).1 1).2 (by decide), ?_⟩
  exact ⟨_, rfl, (h.2 s 3 5 (by decide) (by decide) (by decide) (by decide) (by decide) {} _
    noFaults rfl).2.1⟩

end Session
end AliroUwb
