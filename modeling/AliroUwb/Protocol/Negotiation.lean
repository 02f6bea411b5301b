/-
# What M2 negotiates

Each bitmask of M2 is met by one of the device capabilities, and `parseM2`
chooses among the bits of both: a channel in order of preference, the slot
duration of the lowest bit, a combination of bits for the hopping mode.  The
values it writes should be offered by both sides, and it should fail where
nothing is (`NegotiatesCommon`).

It does so but for one case.  The slot bitmask has a slot duration for each of
its seven low bits and none for bit 7, and `parseM2` fails when the two masks
have no bit in common.  When they have bit 7 alone in common it takes the
duration of 3 chaps, which neither has offered (`negotiatesCommon_iff`).
-/

import AliroUwb.Protocol.SetupCodecLaws
import Mathlib.Data.Nat.Bitwise

namespace AliroUwb
namespace Protocol

open LastWriter

/-! ### Bits of two masks -/

/-- Both masks have all bits of `piece`. -/
def BothOffer (peer own piece : UInt8) : Prop := peer &&& piece = piece ∧ own &&& piece = piece

/-- Whether both offer it can be computed. -/
instance (peer own piece : UInt8) : Decidable (BothOffer peer own piece) :=
  inferInstanceAs (Decidable (_ ∧ _))

/-- Both offer what is in the common mask. -/
theorem bothOffer_iff {peer own piece : UInt8} :
    BothOffer peer own piece ↔ (peer &&& own) &&& piece = piece := by
  constructor
  · rintro ⟨hp, ho⟩
    rw [UInt8.and_assoc, ho, hp]
  · intro h
    constructor
    · rw [← h, ← UInt8.and_assoc, ← UInt8.and_assoc, UInt8.and_self, UInt8.and_assoc]
    · rw [← h, ← UInt8.and_assoc, UInt8.and_comm own, UInt8.and_assoc peer, UInt8.and_self]

/-- The mask with one bit. -/
def bit (idx : ℕ) : UInt8 := UInt8.ofNat (2 ^ idx)

/-- A bit is a power of two. -/
theorem toNat_bit {idx : ℕ} (h : idx < 8) : (bit idx).toNat = 2 ^ idx :=
  (UInt8.toNat_ofNat').trans (Nat.mod_eq_of_lt (Nat.pow_lt_pow_right (by omega) h))

/-- A mask contains a bit if that bit of its value is set. -/
theorem and_bit_eq_iff {mask : UInt8} {idx : ℕ} (h : idx < 8) :
    mask &&& bit idx = bit idx ↔ mask.toNat.testBit idx = true := by
  rw [← UInt8.toNat_inj, UInt8.toNat_and, toNat_bit h, Nat.and_two_pow]
  have hpos := Nat.two_pow_pos idx
  cases mask.toNat.testBit idx <;> simp
  omega

/-- A mask that meets a bit contains it. -/
theorem and_bit_ne_zero_iff {mask : UInt8} {idx : ℕ} (h : idx < 8) :
    mask &&& bit idx ≠ 0 ↔ mask &&& bit idx = bit idx := by
  rw [and_bit_eq_iff h, Ne, ← UInt8.toNat_inj, UInt8.toNat_and, toNat_bit h, Nat.and_two_pow]
  cases mask.toNat.testBit idx <;> simp

/-- The test of the loop over the slot bits. -/
theorem shiftRight_and_ne_zero_iff {mask : UInt8} {idx : ℕ} (h : idx < 8) :
    (mask >>> UInt8.ofNat idx) &&& 0x01 ≠ 0 ↔ mask &&& bit idx = bit idx := by
  have hidx : (UInt8.ofNat idx).toNat % 8 = idx := by
    rw [UInt8.toNat_ofNat']
    omega
  rw [and_bit_eq_iff h, Ne, ← UInt8.toNat_inj, UInt8.toNat_and, UInt8.toNat_shiftRight, hidx,
    Nat.testBit_eq_decide_div_mod_eq, decide_eq_true_iff, Nat.shiftRight_eq_div_pow]
  change ¬ mask.toNat / 2 ^ idx &&& 1 = 0 ↔ _
  rw [Nat.and_one_is_mod]
  omega

/-- The reserved bit is none of those with a meaning. -/
theorem reserved_and_bit_ne : ∀ idx < 7, (0x80 : UInt8) &&& bit idx ≠ bit idx := by decide

/-- Bit 7 alone is what is left without the seven low bits. -/
theorem exists_low_bit {mask : UInt8} (h₀ : mask ≠ 0) (h₇ : mask ≠ 0x80) :
    ∃ idx < 7, mask &&& bit idx = bit idx := by
  by_contra hno
  have hlow : mask.toNat % 2 ^ 7 = 0 := Nat.eq_of_testBit_eq fun i => by
    rw [Nat.testBit_mod_two_pow, Nat.zero_testBit]
    by_cases hi : i < 7
    · have hbit : mask.toNat.testBit i = false := Bool.eq_false_iff.2 fun hb =>
        hno ⟨i, hi, (and_bit_eq_iff (by omega)).2 hb⟩
      rw [hbit, Bool.and_false]
    · rw [decide_eq_false hi, Bool.false_and]
  have hlt := mask.toNat_lt
  have hcases : mask.toNat = 0 ∨ mask.toNat = 0x80 := by omega
  rcases hcases with h | h
  · exact h₀ (UInt8.toNat_inj.1 h)
  · exact h₇ (UInt8.toNat_inj.1 h)

/-! ### What is negotiated -/

/-- The bit of a channel in a channel bitmask. -/
def channelBit : UwbChannel → UInt8
  | .channel9 => 0x02
  | .channel5 => 0x01

/-- The hopping configurations that `parseM2` knows, each a mode and its bits. -/
def hopCombos : List (HoppingMode × UInt8) :=
  [(.disabled, hopComboNoHopping), (.continuousDefault, hopComboContinuousDefault),
    (.adaptiveDefault, hopComboAdaptiveDefault)]

/-- The negotiated values are offered by both sides: by the last attribute with
the tag and by the device capabilities. -/
structure Supported (localCaps : DeviceCapabilities) (elements : List TlvElement)
    (q : RangingSessionParameters) : Prop where
  channel : ∀ e, latest (tagged .channelBitmask) elements = some e →
    BothOffer (byteAt e.value 0) localCaps.channelBitmask (channelBit q.channel)
  durationMs : ∀ e, latest (tagged .ranMultiplier) elements = some e →
    q.durationMs.toNat = 96 * max (byteAt e.value 0).toNat localCaps.minRanMultiplier.toNat
  /-- The slot duration is that of the lowest common bit. -/
  slot : ∀ e, latest (tagged .slotBitmask) elements = some e → ∃ idx < 7,
    BothOffer (byteAt e.value 0) localCaps.slotBitmask (bit idx) ∧
      (∀ j < idx, ¬ BothOffer (byteAt e.value 0) localCaps.slotBitmask (bit j)) ∧
      q.slotDurationRstu.toNat = 400 * (chapsOfBit (some idx)).toNat
  hopping : ∀ e, latest (tagged .hoppingConfigBitmask) elements = some e → ∃ c ∈ hopCombos,
    BothOffer (hopCccToFira (byteAt e.value 0)) localCaps.hoppingConfigBitmask c.2 ∧
      q.hopping = (c.1, hopFiraToCcc c.2)

/-- Both sides offer something for each of the bitmasks in the message. -/
structure CommonChoice (localCaps : DeviceCapabilities) (elements : List TlvElement) : Prop where
  channel : ∀ e, latest (tagged .channelBitmask) elements = some e →
    ∃ c, BothOffer (byteAt e.value 0) localCaps.channelBitmask (channelBit c)
  slot : ∀ e, latest (tagged .slotBitmask) elements = some e →
    ∃ idx < 7, BothOffer (byteAt e.value 0) localCaps.slotBitmask (bit idx)
  hopping : ∀ e, latest (tagged .hoppingConfigBitmask) elements = some e →
    ∃ c ∈ hopCombos, BothOffer (hopCccToFira (byteAt e.value 0)) localCaps.hoppingConfigBitmask c.2

/-- `parseM2` writes values that both sides offer, and fails where there is none. -/
structure NegotiatesCommon (payload : List UInt8) (expectedSessionId : SessionId)
    (localCaps : DeviceCapabilities) (prior : RangingSessionParameters) : Prop where
  supported : ∀ q elements, parseM2 payload expectedSessionId localCaps prior = (.ok (), q) →
    parseTlvStream payload = .ok elements → Supported localCaps elements q
  refused : ∀ elements, parseTlvStream payload = .ok elements →
    ¬ CommonChoice localCaps elements →
    ∀ q, parseM2 payload expectedSessionId localCaps prior ≠ (.ok (), q)

/-- The message is one that `parseM2` accepts, and its last slot bitmask has bit 7
alone in common with that of the device. -/
def ReservedSlotOnly (payload : List UInt8) (expectedSessionId : SessionId)
    (localCaps : DeviceCapabilities) : Prop :=
  ∃ elements, parseTlvStream payload = .ok elements ∧
    (∀ e ∈ elements, M2Acceptable expectedSessionId localCaps e) ∧
    ∃ e, latest (tagged .slotBitmask) elements = some e ∧ commonSlots localCaps e.value = 0x80

/-- What is supported is a choice both sides have. -/
theorem Supported.commonChoice {localCaps : DeviceCapabilities} {elements : List TlvElement}
    {q : RangingSessionParameters} (h : Supported localCaps elements q) :
    CommonChoice localCaps elements where
  channel e he := ⟨q.channel, h.channel e he⟩
  slot e he := by
    obtain ⟨idx, hidx, hboth, -⟩ := h.slot e he
    exact ⟨idx, hidx, hboth⟩
  hopping e he := by
    obtain ⟨c, hc, hboth, -⟩ := h.hopping e he
    exact ⟨c, hc, hboth⟩

/-! ### The three choices -/

/-- A channel that is selected is in the common mask. -/
theorem selectChannel_eq_ok {common : UInt8} {c : UwbChannel} (h : selectChannel common = .ok c) :
    common &&& channelBit c = channelBit c := by
  rw [selectChannel] at h
  split_ifs at h with h₂ h₁
  · obtain rfl := Except.ok.inj h
    exact (and_bit_ne_zero_iff (show 1 < 8 by omega)).1 h₂
  · obtain rfl := Except.ok.inj h
    exact (and_bit_ne_zero_iff (show 0 < 8 by omega)).1 h₁

/-- The larger byte has the larger value. -/
theorem toNat_max (a b : UInt8) : (max a b).toNat = max a.toNat b.toNat := by
  change (if a ≤ b then b else a).toNat = _
  split_ifs with h <;> rw [UInt8.le_iff_toNat_le] at h <;> omega

/-- The loop over the slot bits finds the lowest. -/
theorem selectSlotDuration_eq_ok {common : UInt8} {v : UInt16}
    (h : selectSlotDuration common = .ok v) (h₇ : common ≠ 0x80) :
    ∃ idx < 7, common &&& bit idx = bit idx ∧ (∀ j < idx, ¬ common &&& bit j = bit j) ∧
      v.toNat = 400 * (chapsOfBit (some idx)).toNat := by
  have hv := toNat_of_selectSlotDuration h
  cases hfind : (List.range 7).find? fun idx => (common >>> UInt8.ofNat idx) &&& 0x01 ≠ 0 with
  | none =>
    obtain ⟨idx, hidx, hbit⟩ := exists_low_bit (selectSlotDuration_ok.1 ⟨v, h⟩) h₇
    have hnot := List.find?_range_eq_none.1 hfind idx hidx
    simp only [Bool.not_eq_true', decide_eq_false_iff_not] at hnot
    exact absurd ((shiftRight_and_ne_zero_iff (by omega)).2 hbit) hnot
  | some idx =>
    rw [hfind] at hv
    obtain ⟨hbit, hmem, hlow⟩ := List.find?_range_eq_some.1 hfind
    have hidx : idx < 7 := List.mem_range.1 hmem
    refine ⟨idx, hidx, (shiftRight_and_ne_zero_iff (by omega)).1 (of_decide_eq_true hbit),
      fun j hj => ?_, hv⟩
    have hnot := hlow j hj
    simp only [Bool.not_eq_true', decide_eq_false_iff_not] at hnot
    exact fun hb => hnot ((shiftRight_and_ne_zero_iff (by omega)).2 hb)

/-- A hopping mode that is selected is one of the three, and in the common mask. -/
theorem selectHopping_eq_ok {common : UInt8} {v : HoppingMode × UInt8}
    (h : selectHopping common = .ok v) :
    ∃ c ∈ hopCombos, common &&& c.2 = c.2 ∧ v = (c.1, hopFiraToCcc c.2) := by
  rw [selectHopping] at h
  split_ifs at h with h₁ h₂ h₃ <;> obtain rfl := Except.ok.inj h
  · exact ⟨_, List.mem_cons_self, h₁, rfl⟩
  · exact ⟨_, List.mem_cons_of_mem _ List.mem_cons_self, h₂, rfl⟩
  · exact ⟨_, List.mem_cons_of_mem _ (List.mem_cons_of_mem _ List.mem_cons_self), h₃, rfl⟩

/-! ### The negotiation -/

/-- Unless bit 7 is all that the slot bitmasks share, what is written is on offer. -/
theorem supported_of_parseM2 {payload : List UInt8} {expectedSessionId : SessionId}
    {localCaps : DeviceCapabilities} {prior q : RangingSessionParameters}
    {elements : List TlvElement}
    (h : parseM2 payload expectedSessionId localCaps prior = (.ok (), q))
    (hp : parseTlvStream payload = .ok elements)
    (h₇ : ¬ ReservedSlotOnly payload expectedSessionId localCaps) :
    Supported localCaps elements q := by
  obtain ⟨elements', hp', hw⟩ := m2Written_of_parseM2 h
  obtain rfl := Except.ok.inj (hp.symm.trans hp')
  refine ⟨fun e he => ?_, fun e he => ?_, fun e he => ?_, fun e he => ?_⟩
  · exact bothOffer_iff.2 (selectChannel_eq_ok (hw.channel.1 e he))
  · rw [hw.durationMs.1 e he, toNat_duration, toNat_max]
  · have hne : commonSlots localCaps e.value ≠ 0x80 := fun heq =>
      h₇ ⟨elements, hp, (parseM2_ok_iff hp).1 ⟨q, h⟩, e, he, heq⟩
    obtain ⟨idx, hidx, hbit, hlow, hv⟩ := selectSlotDuration_eq_ok (hw.slotDurationRstu.1 e he) hne
    exact ⟨idx, hidx, bothOffer_iff.2 hbit, fun j hj hb => hlow j hj (bothOffer_iff.1 hb), hv⟩
  · obtain ⟨c, hc, hbits, hv⟩ := selectHopping_eq_ok (hw.hopping.1 e he)
    exact ⟨c, hc, bothOffer_iff.2 hbits, hv⟩

/-- **When M2 negotiates values that both sides offer.**  Always, but for the
messages with a slot bitmask of which only bit 7 is shared. -/
theorem negotiatesCommon_iff (payload : List UInt8) (expectedSessionId : SessionId)
    (localCaps : DeviceCapabilities) (prior : RangingSessionParameters) :
    NegotiatesCommon payload expectedSessionId localCaps prior ↔
      ¬ ReservedSlotOnly payload expectedSessionId localCaps := by
  constructor
  · rintro ⟨hsup, -⟩ ⟨elements, hp, hacc, e, he, h₇⟩
    obtain ⟨q, hq⟩ : ∃ q, parseM2 payload expectedSessionId localCaps prior = (.ok (), q) :=
      (parseM2_ok_iff hp).2 hacc
    obtain ⟨idx, hidx, hboth, -⟩ := (hsup q elements hq hp).slot e he
    have hcommon : commonSlots localCaps e.value &&& bit idx = bit idx := bothOffer_iff.1 hboth
    exact reserved_and_bit_ne idx hidx (h₇ ▸ hcommon)
  · refine fun h₇ => ⟨fun q elements hq hp => supported_of_parseM2 hq hp h₇, ?_⟩
    exact fun elements hp hno q hq => hno (supported_of_parseM2 hq hp h₇).commonChoice

/-- **A slot duration that is not on offer:** 4 chaps and the reserved bit on the one
side, 3 chaps and the reserved bit on the other, and 3 chaps are written. -/
theorem not_negotiatesCommon_reserved :
    ¬ NegotiatesCommon [0x01, 0x01, 0x00, 0x03, 0x05, 1, 0x82] 7 { slotBitmask := 0x81 } {} := by
  intro h
  obtain ⟨idx, hidx, hboth, -⟩ := (h.supported { slotDurationRstu := 1200 }
    [⟨.slotBitmask, [0x82]⟩] (by decide) (by decide)).slot ⟨.slotBitmask, [0x82]⟩ (by decide)
  exact reserved_and_bit_ne idx hidx (bothOffer_iff.1 hboth)

end Protocol
end AliroUwb
