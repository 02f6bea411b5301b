/-
# The schedule of a negotiated session

Setup leaves few choices of a schedule: twelve slots to a round, a block of
`96 k` milliseconds and a slot of 3, 4, 6, 8, 9, 12 or 24 chaps
(`NegotiatedSchedule`).  A block has `⌊24 k / chaps⌋` rounds then, and that many
times twelve STS indices.

Two things that the schedule is relied on for go wrong at an edge.  Nine chaps
do not divide a block into rounds unless three divides `k`, and the slots after
the last round are not counted (`countsBlock_iff`).  And the block after number
65535 is number 0, whose STS indices are those of the first block again, so the
predicted exchange lies behind the current one (`next_is_ahead_iff`).
-/

import AliroUwb.Library.SignedWords
import AliroUwb.Protocol.Negotiation
import AliroUwb.Session.RoundKeys

namespace AliroUwb
namespace Session

open SignedWords Protocol LastWriter

variable {params : RangingSessionParameters}

/-- The chaps per slot that can be negotiated. -/
def slotChaps : List ℕ := [3, 4, 6, 8, 9, 12, 24]

/-- The schedule as setup negotiates it. -/
structure NegotiatedSchedule (params : RangingSessionParameters) (k chaps : ℕ) : Prop where
  slotsPerRound : params.slotsPerRound.toNat = 12
  durationMs : params.durationMs.toNat = 96 * k
  slotDurationRstu : params.slotDurationRstu.toNat = 400 * chaps
  multiplier : 1 ≤ k ∧ k < 256
  chaps : chaps ∈ slotChaps

/-! ### Rounds and strides -/

/-- What is left of the bounds on the chaps. -/
theorem NegotiatedSchedule.chaps_cases {k chaps : ℕ} (h : NegotiatedSchedule params k chaps) :
    chaps = 3 ∨ chaps = 4 ∨ chaps = 6 ∨ chaps = 8 ∨ chaps = 9 ∨ chaps = 12 ∨ chaps = 24 := by
  simpa [slotChaps] using h.chaps

/-- The rounds of a block, as many as fit. -/
theorem NegotiatedSchedule.toNat_roundsPerBlock {k chaps : ℕ}
    (h : NegotiatedSchedule params k chaps) :
    (roundsPerBlock params).toNat = 24 * k / chaps := by
  have hchaps := h.chaps_cases
  obtain ⟨hslots, hduration, hslot, hk, -⟩ := h
  have hround : params.slotsPerRound.toNat * params.slotDurationRstu.toNat * 5 / 6 =
      4000 * chaps := by
    rw [hslots, hslot]
    omega
  have hne : ¬ (params.slotDurationRstu = 0 ∨ params.slotsPerRound = 0 ∨
      params.durationMs = 0) := by
    rw [← UInt16.toNat_inj, ← UInt8.toNat_inj, ← UInt32.toNat_inj, hslots, hduration, hslot]
    change ¬ (400 * chaps = 0 ∨ 12 = 0 ∨ 96 * k = 0)
    omega
  have hrounds : 96 * k * 1000 / (4000 * chaps) = 24 * k / chaps := by
    rcases hchaps with rfl | rfl | rfl | rfl | rfl | rfl | rfl <;> omega
  have hfits : 24 * k / chaps ≤ 24 * k := Nat.div_le_self _ _
  rw [roundsPerBlock, if_neg hne]
  dsimp only
  rw [hround, if_neg (by omega), UInt32.toNat_ofNat', hduration, hrounds,
    Nat.mod_eq_of_lt (by omega)]

/-- Between one round to a block and 2040. -/
theorem NegotiatedSchedule.rounds_bounds {k chaps : ℕ} (h : NegotiatedSchedule params k chaps) :
    1 ≤ 24 * k / chaps ∧ 24 * k / chaps ≤ 2040 := by
  have hk := h.multiplier
  rcases h.chaps_cases with rfl | rfl | rfl | rfl | rfl | rfl | rfl <;> omega

/-- The stride of a negotiated schedule. -/
theorem NegotiatedSchedule.toNat_blockStsStride {k chaps : ℕ}
    (h : NegotiatedSchedule params k chaps) :
    (blockStsStride params).toNat = 24 * k / chaps * 12 := by
  have hbounds := h.rounds_bounds
  have hrounds := h.toNat_roundsPerBlock
  have hslots := h.slotsPerRound
  rw [Session.toNat_blockStsStride (by rw [hrounds, hslots]; omega), hrounds, hslots]

/-! ### The next exchange -/

/-- The Poll of a round of a block, counted in slots from the session's first one. -/
def pollPosition (params : RangingSessionParameters) (block : BlockIndex) (round : SlotIndex) : ℕ :=
  block.toNat * (blockStsStride params).toNat + round.toNat * params.slotsPerRound.toNat

/-- Poll indices are compared as the replay check compares them. -/
theorem ahead_iff {block block' : BlockIndex} {round round' : SlotIndex}
    (h : Fits 32 ((pollPosition params block' round' : ℤ) - pollPosition params block round)) :
    0 < (pollStsIndexFor params block' round' - pollStsIndexFor params block round).toInt32 ↔
      pollPosition params block round < pollPosition params block' round' := by
  have hindex (b : BlockIndex) (r : SlotIndex) : pollStsIndexFor params b r =
      UInt32.ofNat (params.stsIndex0.toNat + pollPosition params b r + 1) := rfl
  rw [hindex, hindex, Int32.lt_iff_toInt_lt, toInt_ofNat_sub_of_fits (by unfold Fits at h ⊢; omega)]
  change (0 : ℤ) < _ ↔ _
  omega

/-- **A prediction is ahead of the current exchange except where the block number
wraps.**  The predicted round is one of its block, and a PrePoll that announces
the predicted exchange passes the replay check against the current one if and
only if the prediction does not lead from block 65535 to block 0. -/
theorem next_is_ahead_iff {k chaps : ℕ} (h : NegotiatedSchedule params k chaps)
    {block block' : BlockIndex} {round round' : SlotIndex}
    (hround : round.toUInt32 < roundsPerBlock params)
    (hnext : nextScheduledExchange params block round = some (block', round')) :
    round'.toUInt32 < roundsPerBlock params ∧
      (0 < (pollStsIndexFor params block' round' - pollStsIndexFor params block round).toInt32 ↔
        block ≠ 65535 ∨ twoRounds params = true ∧ round = scheduledRoundFor params block) := by
  have hround' := nextScheduledExchange_lt hnext
  refine ⟨hround', ?_⟩
  obtain ⟨hone, hmany⟩ := h.rounds_bounds
  have hposition (b : BlockIndex) (r : SlotIndex) : pollPosition params b r =
      b.toNat * (24 * k / chaps * 12) + r.toNat * 12 := by
    rw [pollPosition, h.toNat_blockStsStride, h.slotsPerRound]
  rw [UInt32.lt_iff_toNat_lt, UInt16.toNat_toUInt32, h.toNat_roundsPerBlock] at hround hround'
  generalize 24 * k / chaps = rounds at hone hmany hposition hround hround'
  rcases nextScheduledExchange_cases hnext with
    ⟨htwo, hok, rfl, rfl, -⟩ | ⟨hnot, -, rfl, rfl⟩
  · -- a second round of the same block
    have hlt := (params.macMode &&& 0x3F).toNat_lt
    have hpos : 0 < (params.macMode &&& 0x3F).toNat := by
      have hne : (params.macMode &&& 0x3F).toNat ≠ 0 := fun h0 => hok (UInt8.toNat_inj.1 h0)
      omega
    have hsum : (round + (params.macMode &&& 0x3F).toUInt16).toNat =
        round.toNat + (params.macMode &&& 0x3F).toNat := by
      rw [UInt16.toNat_add, UInt8.toNat_toUInt16]
      omega
    rw [ahead_iff (by unfold Fits; rw [hposition, hposition, hsum]; omega), hposition, hposition,
      hsum]
    exact iff_of_true (by omega) (.inr htwo)
  · rw [or_iff_left hnot]
    by_cases hwrap : block = 65535
    · -- block 0 comes next
      subst hwrap
      have hzero : (65535 + 1 : BlockIndex).toNat = 0 := rfl
      have hlast : (65535 : BlockIndex).toNat = 65535 := rfl
      rw [ahead_iff (by unfold Fits; rw [hposition, hposition, hzero, hlast]; omega), hposition,
        hposition, hzero, hlast]
      exact iff_of_false (by omega) (not_not.2 rfl)
    · have hne : block.toNat ≠ 65535 := fun h0 => hwrap (UInt16.toNat_inj.1 h0)
      have hblock := block.toNat_lt
      have hsucc : (block + 1).toNat = block.toNat + 1 := by
        rw [UInt16.toNat_add]
        change (block.toNat + 1) % 2 ^ 16 = _
        omega
      rw [ahead_iff (by unfold Fits; rw [hposition, hposition, hsucc, Nat.succ_mul]; omega),
        hposition, hposition, hsucc, Nat.succ_mul]
      exact iff_of_true (by omega) hwrap

/-- The schedule of `sampleParams`: two times 96 ms to a block, six chaps to a slot. -/
theorem negotiatedSchedule_sampleParams : NegotiatedSchedule sampleParams 2 6 := by
  constructor <;> decide

/-- The hypotheses of `next_is_ahead_iff` are satisfiable: block 7 follows block 6. -/
theorem next_is_ahead_iff_sample :
    (0 : SlotIndex).toUInt32 < roundsPerBlock sampleParams ∧
      0 < (pollStsIndexFor sampleParams 7 0 - pollStsIndexFor sampleParams 6 0).toInt32 := by
  have hnext : nextScheduledExchange sampleParams 6 0 = some (7, 0) := by decide
  have h := next_is_ahead_iff negotiatedSchedule_sampleParams (by decide) hnext
  exact ⟨h.1, h.2.2 (.inl (by decide))⟩

/-- **Where the block number wraps the prediction falls back**: after block 65535
the session expects an index that it rejects as a replay. -/
theorem next_is_behind_at_wrap :
    nextScheduledExchange sampleParams 65535 0 = some (0, 0) ∧
      ¬ 0 < (pollStsIndexFor sampleParams 0 0 - pollStsIndexFor sampleParams 65535 0).toInt32 := by
  decide

/-! ### The slots of a block -/

/-- The stride is the number of slots in a block, and Polls of consecutive blocks
are that far apart.  A slot takes 5/6 µs for each RSTU. -/
structure CountsBlock (params : RangingSessionParameters) : Prop where
  exact' : (blockStsStride params).toNat * params.slotDurationRstu.toNat * 5 =
    params.durationMs.toNat * 1000 * 6
  elapsed : ∀ (block : BlockIndex) (round : SlotIndex), block.toNat + 1 < 2 ^ 16 →
    (pollStsIndexFor params (block + 1) round - pollStsIndexFor params block round).toNat *
      params.slotDurationRstu.toNat * 5 = params.durationMs.toNat * 1000 * 6

/-- Polls of consecutive blocks are a stride apart. -/
theorem toNat_pollStsIndexFor_succ_sub {block : BlockIndex} (round : SlotIndex)
    (h : block.toNat + 1 < 2 ^ 16) :
    (pollStsIndexFor params (block + 1) round - pollStsIndexFor params block round).toNat =
      (blockStsStride params).toNat := by
  have hstride := (blockStsStride params).toNat_lt
  have hsucc : (block + 1).toNat = block.toNat + 1 := by
    rw [UInt16.toNat_add]
    exact Nat.mod_eq_of_lt h
  rw [pollStsIndexFor, pollStsIndexFor, hsucc, Nat.succ_mul, UInt32.toNat_sub,
    UInt32.toNat_ofNat', UInt32.toNat_ofNat']
  omega

/-- Nine chaps and a multiplier that three does not divide leave slots over. -/
theorem NegotiatedSchedule.counts_iff {k chaps : ℕ} (h : NegotiatedSchedule params k chaps) :
    CountsBlock params ↔ ¬ (chaps = 9 ∧ k % 3 ≠ 0) := by
  have hexact : (blockStsStride params).toNat * params.slotDurationRstu.toNat * 5 =
      params.durationMs.toNat * 1000 * 6 ↔ ¬ (chaps = 9 ∧ k % 3 ≠ 0) := by
    rw [h.toNat_blockStsStride, h.slotDurationRstu, h.durationMs]
    rcases h.chaps_cases with rfl | rfl | rfl | rfl | rfl | rfl | rfl <;> omega
  refine ⟨fun hcounts => hexact.1 hcounts.exact', fun hcond => ⟨hexact.2 hcond, ?_⟩⟩
  intro block round hblock
  rw [toNat_pollStsIndexFor_succ_sub round hblock]
  exact hexact.2 hcond

/-! ### From the setup message -/

/-- The slot bitmasks share the slot of nine chaps and none that is shorter. -/
def NineChaps (common : UInt8) : Prop := common &&& 0x1F = 0x10

/-- It can be seen from the mask. -/
instance (common : UInt8) : Decidable (NineChaps common) := inferInstanceAs (Decidable (_ = _))

/-- Every bit stands for one of the slot durations. -/
theorem chapsOfBit_mem (idx : Option ℕ) : (chapsOfBit idx).toNat ∈ slotChaps := by
  unfold chapsOfBit
  split <;> decide

/-- Nine chaps are chosen for the shortest slot in common only. -/
theorem chapsOfBit_eq_nine_iff (common : UInt8) :
    (chapsOfBit ((List.range 7).find? fun idx =>
      (common >>> UInt8.ofNat idx) &&& 0x01 ≠ 0)).toNat = 9 ↔ NineChaps common := by
  have hall : ∀ n < 256, (chapsOfBit ((List.range 7).find? fun idx =>
      (UInt8.ofNat n >>> UInt8.ofNat idx) &&& 0x01 ≠ 0)).toNat = 9 ↔
        UInt8.ofNat n &&& 0x1F = 0x10 := by
    decide +kernel
  have h := hall common.toNat common.toNat_lt
  rwa [UInt8.ofNat_toNat] at h

section

variable {payload ran slot : List UInt8} {expectedSessionId : SessionId}
  {localCaps : DeviceCapabilities} {prior q : RangingSessionParameters}

/-- **What M2 makes of the schedule.** -/
theorem negotiatedSchedule_of_parseM2
    (h : parseM2 payload expectedSessionId localCaps prior = (.ok (), q))
    (hran : valueOf payload .ranMultiplier = some ran)
    (hslot : valueOf payload .slotBitmask = some slot)
    (hpos : 1 ≤ (max (byteAt ran 0) localCaps.minRanMultiplier).toNat) :
    ∃ chaps, NegotiatedSchedule q (max (byteAt ran 0) localCaps.minRanMultiplier).toNat chaps ∧
      (chaps = 9 ↔ NineChaps (commonSlots localCaps slot)) := by
  obtain ⟨elements, hp, hw⟩ := m2Written_of_parseM2 h
  rw [valueOf_eq hp, Option.map_eq_some_iff] at hran hslot
  obtain ⟨e, he, rfl⟩ := hran
  obtain ⟨e', he', rfl⟩ := hslot
  have hduration := hw.durationMs.1 e he
  have hchaps := toNat_of_selectSlotDuration (hw.slotDurationRstu.1 e' he')
  have hslots : q.slotsPerRound = 12 := congrArg (·.slotsPerRound) hw.rest
  refine ⟨_, ⟨congrArg UInt8.toNat hslots, ?_, hchaps, ⟨hpos, UInt8.toNat_lt _⟩,
    chapsOfBit_mem _⟩, chapsOfBit_eq_nine_iff _⟩
  rw [hduration, toNat_duration]

/-- **When the stride counts every slot of a block.**  For an M2 that has a block
duration and a slot duration, always but where the slot of nine chaps is the
shortest in common and three does not divide the multiplier. -/
theorem countsBlock_iff (h : parseM2 payload expectedSessionId localCaps prior = (.ok (), q))
    (hran : valueOf payload .ranMultiplier = some ran)
    (hslot : valueOf payload .slotBitmask = some slot)
    (hpos : 1 ≤ (max (byteAt ran 0) localCaps.minRanMultiplier).toNat) :
    CountsBlock q ↔ ¬ (NineChaps (commonSlots localCaps slot) ∧
      (max (byteAt ran 0) localCaps.minRanMultiplier).toNat % 3 ≠ 0) := by
  obtain ⟨chaps, hschedule, hnine⟩ := negotiatedSchedule_of_parseM2 h hran hslot hpos
  rw [hschedule.counts_iff, hnine]

end

/-- An M2 with a multiplier and a slot bitmask. -/
def scheduleM2 (multiplier slots : UInt8) : List UInt8 :=
  [0x01, 0x01, 0x00, 0x06, 0x04, 0x01, multiplier, 0x05, 0x01, slots]

/-- What the M2 `scheduleM2` makes of `sampleParams`, for a device with slots of
nine chaps only. -/
def scheduleOf (multiplier : UInt8) : Except StatusCode Unit × RangingSessionParameters :=
  parseM2 (scheduleM2 multiplier 0x10) 0 { slotBitmask := 0x10 } sampleParams

/-- The hypotheses of `countsBlock_iff` are satisfiable: three times 96 ms, and
nine chaps. -/
theorem countsBlock_iff_sample :
    (scheduleOf 3).1 = .ok () ∧ CountsBlock (scheduleOf 3).2 := by
  have h : parseM2 (scheduleM2 3 0x10) 0 { slotBitmask := 0x10 } sampleParams =
      (.ok (), (scheduleOf 3).2) := rfl
  have hran : valueOf (scheduleM2 3 0x10) .ranMultiplier = some [3] := by decide
  have hslot : valueOf (scheduleM2 3 0x10) .slotBitmask = some [0x10] := by decide
  exact ⟨rfl, (countsBlock_iff h hran hslot (by decide)).2 (by decide)⟩

/-- **Slots are left over**: 96 ms hold 32 slots of nine chaps, and the stride is 24. -/
theorem not_countsBlock_nine :
    (scheduleOf 1).1 = .ok () ∧ blockStsStride (scheduleOf 1).2 = 24 ∧
      ¬ CountsBlock (scheduleOf 1).2 := by
  refine ⟨rfl, by decide, fun h => ?_⟩
  have hexact := h.exact'
  revert hexact
  decide

end Session
end AliroUwb
