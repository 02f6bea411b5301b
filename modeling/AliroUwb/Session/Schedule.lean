/-
# The ranging schedule

`RangingSession::roundsPerBlock` … `nextScheduledExchange`
(`src/session/RangingSession.cpp`).  A block is a fixed number of rounds, a
round a fixed number of slots, and every slot of a block has an STS index; the
Poll of round `r` of block `b` is one slot into its round.  The 64-bit
intermediates of the C++ code do not overflow, so natural numbers stand for
them; the narrowing casts are the `ofNat` of the narrow type.
-/

import AliroUwb.Core.ByteOrder
import AliroUwb.Ranging.Hopping
import AliroUwb.Session.State

namespace AliroUwb
namespace Session

open Protocol Ranging

/-- `RangingSession::roundsPerBlock`. -/
def roundsPerBlock (params : RangingSessionParameters) : UInt32 :=
  if params.slotDurationRstu = 0 ∨ params.slotsPerRound = 0 ∨ params.durationMs = 0 then 0
  else
    let roundDurationUs := params.slotsPerRound.toNat * params.slotDurationRstu.toNat * 5 / 6
    if roundDurationUs = 0 then 0
    else UInt32.ofNat (params.durationMs.toNat * 1000 / roundDurationUs)

/-- `RangingSession::blockStsStride`. -/
def blockStsStride (params : RangingSessionParameters) : UInt32 :=
  let rounds := roundsPerBlock params
  if rounds = 0 then 0 else rounds * params.slotsPerRound.toUInt32

/-- `RangingSession::pollStsIndexFor`. -/
def pollStsIndexFor (params : RangingSessionParameters) (block : BlockIndex) (round : SlotIndex) :
    StsIndex :=
  UInt32.ofNat (params.stsIndex0.toNat +
    (block.toNat * (blockStsStride params).toNat + round.toNat * params.slotsPerRound.toNat) + 1)

/-- `m_params.hopModeKey` as a big-endian integer. -/
def hopKey (params : RangingSessionParameters) : UInt32 := readBe32 params.hopModeKey.1 0

/-- `RangingSession::scheduledRoundFor`. -/
def scheduledRoundFor (params : RangingSessionParameters) (block : BlockIndex) : SlotIndex :=
  match params.hoppingMode with
  | .continuousDefault =>
    let rounds := roundsPerBlock params
    if rounds = 0 ∨ rounds > 0xFFFF then 0
    else calculateRoundIndex block (hopKey params) rounds.toUInt16
  | _ => 0

/-- `macMode` selects two active rounds per block. -/
def twoRounds (params : RangingSessionParameters) : Bool := params.macMode &&& 0xC0 == 0x40

/-- `RangingSession::nextScheduledExchange`: the block and round of the next
exchange, `none` where the C++ function returns `false`. -/
def nextScheduledExchange (params : RangingSessionParameters) (block : BlockIndex)
    (round : SlotIndex) : Option (BlockIndex × SlotIndex) :=
  match params.hoppingMode with
  | .disabled | .continuousDefault =>
    if roundsPerBlock params = 0 then none
    else if twoRounds params && round == scheduledRoundFor params block then
      let ok := params.macMode &&& 0x3F
      if ok = 0 then none
      else
        let nextRound := round + ok.toUInt16
        if nextRound.toUInt32 < roundsPerBlock params then some (block, nextRound) else none
    else some (block + 1, scheduledRoundFor params (block + 1))
  | _ => none

/-- `RangingSession::isBlockParityEligible`. -/
def isBlockParityEligible (nodeConfig : SessionNodeConfig) (block : BlockIndex) : Bool :=
  if nodeConfig.blockParityFilter < 0 then true
  else ((block.toNat % 2 : ℕ) : ℤ) == nodeConfig.blockParityFilter.toInt

/-! ### Scheduled rounds exist -/

/-- The scheduled round is one of the block. -/
theorem scheduledRoundFor_lt {params : RangingSessionParameters} (block : BlockIndex)
    (h : roundsPerBlock params ≠ 0) :
    (scheduledRoundFor params block).toUInt32 < roundsPerBlock params := by
  have hpos : 0 < (roundsPerBlock params).toNat := by
    have hne : (roundsPerBlock params).toNat ≠ 0 := fun h0 => h (UInt32.toNat_inj.1 h0)
    omega
  have hzero : (0 : SlotIndex).toUInt32 < roundsPerBlock params := by
    rw [UInt32.lt_iff_toNat_lt]
    exact hpos
  unfold scheduledRoundFor
  cases params.hoppingMode with
  | continuousDefault =>
    dsimp only
    split_ifs with hsmall
    · exact hzero
    · have hle : (roundsPerBlock params).toNat ≤ 0xFFFF := by
        have hnot := fun hgt => hsmall (Or.inr hgt)
        rw [gt_iff_lt, UInt32.lt_iff_toNat_lt] at hnot
        exact Nat.not_lt.1 hnot
      have hval : (roundsPerBlock params).toUInt16.toNat = (roundsPerBlock params).toNat := by
        rw [UInt32.toNat_toUInt16]
        omega
      have hne : (roundsPerBlock params).toUInt16 ≠ 0 := fun h0 => by
        rw [← UInt16.toNat_inj, hval] at h0
        exact Nat.ne_of_gt hpos h0
      have hround := calculateRoundIndex_lt block (hopKey params) hne
      rw [UInt16.lt_iff_toNat_lt, hval] at hround
      rw [UInt32.lt_iff_toNat_lt, UInt16.toNat_toUInt32]
      exact hround
  | _ => exact hzero

/-- What `nextScheduledExchange` predicts: a second round in the same block, or
the scheduled round of the next block. -/
theorem nextScheduledExchange_cases {params : RangingSessionParameters} {b block : BlockIndex}
    {r round : SlotIndex} (h : nextScheduledExchange params b r = some (block, round)) :
    ((twoRounds params = true ∧ r = scheduledRoundFor params b) ∧ params.macMode &&& 0x3F ≠ 0 ∧
        block = b ∧ round = r + (params.macMode &&& 0x3F).toUInt16 ∧
        round.toUInt32 < roundsPerBlock params) ∨
      (¬ (twoRounds params = true ∧ r = scheduledRoundFor params b) ∧
        roundsPerBlock params ≠ 0 ∧ block = b + 1 ∧
        round = scheduledRoundFor params (b + 1)) := by
  unfold nextScheduledExchange at h
  cases hmode : params.hoppingMode with
  | disabled | continuousDefault =>
    rw [hmode] at h
    dsimp only at h
    split_ifs at h with hzero htwo hok hlt
    · obtain ⟨rfl, rfl⟩ := Prod.mk.inj (Option.some.inj h)
      exact .inl ⟨by simpa using htwo, hok, rfl, rfl, hlt⟩
    · obtain ⟨rfl, rfl⟩ := Prod.mk.inj (Option.some.inj h)
      exact .inr ⟨by simpa using htwo, hzero, rfl, rfl⟩
  | _ =>
    rw [hmode] at h
    cases h

/-- **The next scheduled exchange is one of its block.** -/
theorem nextScheduledExchange_lt {params : RangingSessionParameters} {b block : BlockIndex}
    {r round : SlotIndex} (h : nextScheduledExchange params b r = some (block, round)) :
    round.toUInt32 < roundsPerBlock params := by
  rcases nextScheduledExchange_cases h with ⟨-, -, -, -, hlt⟩ | ⟨-, hzero, -, rfl⟩
  · exact hlt
  · exact scheduledRoundFor_lt _ hzero

end Session
end AliroUwb
