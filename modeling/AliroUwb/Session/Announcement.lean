/-
# What M3 announces and what the session uses

Between M2 and M4 the responder sends M3, in which it announces the number of
responders, the MAC mode, the block duration and the slots.  The session that is
then started uses the negotiated parameters: the schedule, the Final slot and
the salted hash all come from them.  The two have to agree, as both sides derive
their keys and slots from them (`Announces`).

M3 takes the durations and the slots per round from the parameters, but the
number of responders and the MAC mode from the device capabilities, which no
parser writes into the parameters.  So the two agree exactly when the parameters
had both already (`announces_iff`).
-/

import AliroUwb.Protocol.SetupCodecLaws
import AliroUwb.Session.System

namespace AliroUwb
namespace Session

open LastWriter Protocol

/-- A session started with `p` uses what `m3` announces. -/
structure Announces (m3 : List UInt8) (p : RangingSessionParameters) : Prop where
  numResponders : valueOf m3 .numResponders = some [p.responderCount]
  macMode : valueOf m3 .macMode = some [p.macMode]
  durationMs : ∃ n, valueOf m3 .ranMultiplier = some [n] ∧ n.toNat * 96 = p.durationMs.toNat
  slotDurationRstu :
    ∃ n, valueOf m3 .chapsPerSlot = some [n] ∧ n.toNat * 400 = p.slotDurationRstu.toNat
  slotsPerRound : valueOf m3 .slotsPerRound = some [p.slotsPerRound]
  /-- Bytes 12 to 15 of the configuration that the salted hash is derived from. -/
  rcfg : ∀ b ∈ [(12, AttributeTag.numResponders), (13, .ranMultiplier), (14, .slotsPerRound),
      (15, .chapsPerSlot)], valueOf m3 b.2 = some [byteAt (rangingConfig p) b.1]

/-- What the parameters before the negotiation must already have. -/
structure AnnouncedBefore (m2 : List UInt8) (localCaps : DeviceCapabilities)
    (prior : RangingSessionParameters) : Prop where
  responderCount : prior.responderCount = localCaps.responderCount
  macMode : prior.macMode = localCaps.macMode
  durationMs : valueOf m2 .ranMultiplier = none → ∃ k < 2 ^ 8, prior.durationMs.toNat = k * 96
  slotDurationRstu : valueOf m2 .slotBitmask = none → ∃ k, prior.slotDurationRstu.toNat = k * 400

variable {m2 m3 m4 : List UInt8} {expectedSessionId : SessionId} {localCaps : DeviceCapabilities}
  {prior mid p : RangingSessionParameters}

/-! ### The three representations -/

/-- **M3 and the salted hash always agree but for the number of responders**, and
so do M3 and the parameters where the byte holds the whole quotient. -/
theorem announces_iff_of_buildM3 (h : buildM3 p localCaps = .ok m3) :
    Announces m3 p ↔ p.responderCount = localCaps.responderCount ∧ p.macMode = localCaps.macMode ∧
      (p.durationMs / 96).toUInt8.toNat * 96 = p.durationMs.toNat ∧
      (p.slotDurationRstu / 400).toUInt8.toNat * 400 = p.slotDurationRstu.toNat := by
  have hm3 := parseTlvStream_buildM3 h
  have hn : valueOf m3 .numResponders = some [localCaps.responderCount] := valueOf_eq hm3 _
  have hm : valueOf m3 .macMode = some [localCaps.macMode] := valueOf_eq hm3 _
  have hd : valueOf m3 .ranMultiplier = some [(p.durationMs / 96).toUInt8] := valueOf_eq hm3 _
  have hs : valueOf m3 .chapsPerSlot = some [(p.slotDurationRstu / 400).toUInt8] :=
    valueOf_eq hm3 _
  have hr : valueOf m3 .slotsPerRound = some [p.slotsPerRound] := valueOf_eq hm3 _
  constructor
  · rintro ⟨hn', hm', ⟨n, hd', hn96⟩, ⟨c, hs', hc400⟩, -, -⟩
    rw [hn] at hn'
    rw [hm] at hm'
    rw [hd] at hd'
    rw [hs] at hs'
    simp only [Option.some.injEq, List.cons.injEq, and_true] at hn' hm' hd' hs'
    exact ⟨hn'.symm, hm'.symm, hd' ▸ hn96, hs' ▸ hc400⟩
  · rintro ⟨hn', hm', hd', hs'⟩
    refine ⟨hn'.symm ▸ hn, hm'.symm ▸ hm, ⟨_, hd, hd'⟩, ⟨_, hs, hs'⟩, hr, ?_⟩
    simp only [List.forall_mem_cons]
    refine ⟨hn.trans ?_, hd, hr, hs, by simp⟩
    rw [← hn']
    rfl

/-! ### What the negotiation leaves -/

/-- A 32-bit duration is a byte's worth of blocks of 96 ms. -/
theorem durationMs_announced_iff (d : UInt32) :
    (d / 96).toUInt8.toNat * 96 = d.toNat ↔ ∃ k < 2 ^ 8, d.toNat = k * 96 := by
  rw [UInt32.toNat_toUInt8, UInt32.toNat_div]
  change d.toNat / 96 % 2 ^ 8 * 96 = _ ↔ _
  constructor
  · exact fun h => ⟨d.toNat / 96 % 2 ^ 8, by omega, h.symm⟩
  · rintro ⟨k, hk, hd⟩
    omega

/-- A 16-bit slot duration has fewer than 256 chaps. -/
theorem slotDurationRstu_announced_iff (d : UInt16) :
    (d / 400).toUInt8.toNat * 400 = d.toNat ↔ ∃ k, d.toNat = k * 400 := by
  have hd := d.toNat_lt
  rw [UInt16.toNat_toUInt8, UInt16.toNat_div]
  change d.toNat / 400 % 2 ^ 8 * 400 = _ ↔ _
  constructor
  · exact fun h => ⟨d.toNat / 400 % 2 ^ 8, h.symm⟩
  · rintro ⟨k, hk⟩
    omega

/-- A negotiated block duration is announced whole, one from before only where it
is a multiple. -/
theorem durationMs_of_parseM2
    (h : parseM2 m2 expectedSessionId localCaps prior = (.ok (), mid)) :
    (∃ k < 2 ^ 8, mid.durationMs.toNat = k * 96) ↔
      (valueOf m2 .ranMultiplier = none → ∃ k < 2 ^ 8, prior.durationMs.toNat = k * 96) := by
  obtain ⟨elements, hp, hw⟩ := m2Written_of_parseM2 h
  rw [valueOf_eq_none hp]
  cases hl : latest (tagged .ranMultiplier) elements with
  | none => simp [hw.durationMs.2 hl]
  | some e =>
    refine iff_of_true ⟨(max (byteAt e.value 0) localCaps.minRanMultiplier).toNat,
      UInt8.toNat_lt _, ?_⟩ (fun h => absurd h (by simp))
    rw [hw.durationMs.1 e hl, toNat_duration, Nat.mul_comm]

/-- The same for the slot duration. -/
theorem slotDurationRstu_of_parseM2
    (h : parseM2 m2 expectedSessionId localCaps prior = (.ok (), mid)) :
    (∃ k, mid.slotDurationRstu.toNat = k * 400) ↔
      (valueOf m2 .slotBitmask = none → ∃ k, prior.slotDurationRstu.toNat = k * 400) := by
  obtain ⟨elements, hp, hw⟩ := m2Written_of_parseM2 h
  rw [valueOf_eq_none hp]
  cases hl : latest (tagged .slotBitmask) elements with
  | none => simp [hw.slotDurationRstu.2 hl]
  | some e =>
    have hv := toNat_of_selectSlotDuration (hw.slotDurationRstu.1 e hl)
    exact iff_of_true ⟨_, hv.trans (Nat.mul_comm _ _)⟩ (fun h => absurd h (by simp))

/-- **When the session uses what M3 has announced.**  Exactly when the parameters
that M2 was parsed into had the number of responders and the MAC mode of the
device capabilities, and durations that fit where M2 has none. -/
theorem announces_iff (h₂ : parseM2 m2 expectedSessionId localCaps prior = (.ok (), mid))
    (h₄ : parseM4 m4 mid = (.ok (), p)) (h₃ : buildM3 p localCaps = .ok m3) :
    Announces m3 p ↔ AnnouncedBefore m2 localCaps prior := by
  obtain ⟨_, _, hw₂⟩ := m2Written_of_parseM2 h₂
  obtain ⟨_, _, hw₄⟩ := m4Written_of_parseM4 h₄
  have hn : p.responderCount = prior.responderCount :=
    (congrArg (·.responderCount) hw₄.rest).trans (congrArg (·.responderCount) hw₂.rest)
  have hm : p.macMode = prior.macMode :=
    (congrArg (·.macMode) hw₄.rest).trans (congrArg (·.macMode) hw₂.rest)
  have hd : p.durationMs = mid.durationMs := congrArg (·.durationMs) hw₄.rest
  have hs : p.slotDurationRstu = mid.slotDurationRstu := congrArg (·.slotDurationRstu) hw₄.rest
  rw [announces_iff_of_buildM3 h₃, durationMs_announced_iff, slotDurationRstu_announced_iff, hn,
    hm, hd, hs, durationMs_of_parseM2 h₂, slotDurationRstu_of_parseM2 h₂]
  exact ⟨fun h => ⟨h.1, h.2.1, h.2.2.1, h.2.2.2⟩, fun h => ⟨h.1, h.2, h.3, h.4⟩⟩

/-! ### A negotiation -/

/-- An M2 with each of its attributes. -/
def sampleM2 : List UInt8 :=
  [0x01, 0x01, 0x00, 0x19, 0x00, 2, 0x00, 0x00, 0x01, 1, 0x00, 0x02, 4, 0x00, 0x00, 0x00, 0x07,
    0x03, 1, 0x02, 0x04, 1, 0x02, 0x05, 1, 0x01, 0x08, 1, 0x80]

/-- An M4 with each of its attributes. -/
def sampleM4 : List UInt8 :=
  [0x01, 0x03, 0x00, 0x19, 0x0C, 4, 0x00, 0x00, 0x00, 0x09, 0x0D, 8, 0x00, 0x00, 0x00, 0x00, 0x00,
    0x00, 0x00, 0x01, 0x0E, 4, 0x01, 0x02, 0x03, 0x04, 0x07, 1, 0x09]

/-- What the default capabilities make of M2. -/
def negotiatedMid : RangingSessionParameters :=
  { sampleParams with sessionId := 7, slotDurationRstu := 1200, hoppingConfigBitmask := 0x80 }

/-- And of M4. -/
def negotiated : RangingSessionParameters :=
  { negotiatedMid with
    stsIndex0 := 9, initiationTimeUs := 1, hopModeKey := ⟨[0x01, 0x02, 0x03, 0x04], rfl⟩,
    syncCodeIndex := 9 }

/-- The hypotheses of `announces_iff` are satisfiable. -/
theorem announces_iff_sample :
    ∃ m3, buildM3 negotiated {} = .ok m3 ∧ Announces m3 negotiated := by
  have h₂ : parseM2 sampleM2 7 {} {} = (.ok (), negotiatedMid) := by decide
  have h₄ : parseM4 sampleM4 negotiatedMid = (.ok (), negotiated) := by decide
  exact ⟨_, rfl, (announces_iff h₂ h₄ rfl).2
    ⟨rfl, rfl, fun h => absurd h (by decide), fun h => absurd h (by decide)⟩⟩

/-- **A responder count of two is announced and not used:** M2 and M4 are parsed
into fresh parameters, whose one responder stays. -/
theorem not_announces_responderCount :
    parseM2 sampleM2 7 { responderCount := 2 } {} = (.ok (), negotiatedMid) ∧
      parseM4 sampleM4 negotiatedMid = (.ok (), negotiated) ∧
      ∃ m3, buildM3 negotiated { responderCount := 2 } = .ok m3 ∧ ¬ Announces m3 negotiated :=
  ⟨by decide, by decide, _, rfl, fun h => absurd h.numResponders (by decide)⟩

end Session
end AliroUwb
