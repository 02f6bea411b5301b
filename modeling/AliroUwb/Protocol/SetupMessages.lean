/-
# What the setup builders write

Each builder adds its attributes to a `TlvWriter` and returns the message.  The
writer casts the length of a value to one byte and that of the payload to two,
and no builder returns an error.  So a message carries its attributes exactly
when they are `Encodable` (`builds_finalize_iff`).

Five of the six builders add values of fixed sizes, which always fit.  M1 adds two
lists of any length: 127 config ids and 255 pulse shapes are the most that a peer
can read back (`setupBuilders_iff`).
-/

import AliroUwb.Library.BlockModes
import AliroUwb.Protocol.TlvStream

namespace AliroUwb
namespace Protocol

open BlockModes LastWriter

/-- The length field counts the bytes behind the header, and the tokenizer returns
the attributes. -/
structure Carries (message : List UInt8) (elements : List TlvElement) : Prop where
  header : 4 ≤ message.length
  length : payloadLen message = message.length - 4
  parsed : parseTlvStream message = .ok elements

/-- Every value fits a one-byte length, and all of them a two-byte length. -/
def Encodable (elements : List TlvElement) : Prop :=
  (∀ e ∈ elements, e.Fits) ∧ (serialise elements).length < 2 ^ 16

/-- A builder that adds `elements`: a message it returns carries them, and if there
can be none, it reports an error. -/
structure Builds (result : Except StatusCode (List UInt8)) (elements : List TlvElement) :
    Prop where
  carries : ∀ message, result = .ok message → Carries message elements
  reported : ¬ Encodable elements → ∃ e, result = .error e

/-! ### The writer -/

variable {w : TlvWriter} {cat : ProtocolCategory} {msgType : MessageType}
  {elements : List TlvElement}

/-- A message is longer than its attributes by the header. -/
theorem TlvWriter.Holds.length_finalize (h : w.Holds cat msgType elements) :
    w.finalize.length = 4 + (serialise elements).length := by
  rw [h.finalize, List.length_append]
  rfl

/-- The length field holds the length of the payload modulo 2^16. -/
theorem TlvWriter.Holds.payloadLen_finalize (h : w.Holds cat msgType elements) :
    payloadLen w.finalize = (serialise elements).length % 2 ^ 16 := by
  rw [payloadLen, toNat_readBe16, h.finalize, writeBe16_eq]
  change 2 ^ 8 * (UInt8.ofNat _).toNat + (UInt8.ofNat _).toNat = _
  rw [UInt8.toNat_ofNat', UInt8.toNat_ofNat', UInt16.toNat_ofNat']
  omega

/-- **A message carries the attributes that were added if and only if they can be
encoded.** -/
theorem carries_finalize_iff (h : w.Holds cat msgType elements) :
    Carries w.finalize elements ↔ Encodable elements := by
  have hlength := h.length_finalize
  have hpayload := h.payloadLen_finalize
  constructor
  · intro hcarries
    have hfield := hcarries.length
    refine ⟨(parseTlvStream_ok_iff.1 hcarries.parsed).2.1, ?_⟩
    omega
  · rintro ⟨hfits, hlen⟩
    exact ⟨by omega, by omega, h.parseTlvStream_finalize hfits hlen⟩

/-- A builder reports no error, so it does right by what can be encoded only. -/
theorem builds_finalize_iff (h : w.Holds cat msgType elements) :
    Builds (.ok w.finalize) elements ↔ Encodable elements := by
  constructor
  · intro hbuilds
    exact (carries_finalize_iff h).1 (hbuilds.carries _ rfl)
  · intro hencodable
    refine ⟨?_, fun hno => absurd hencodable hno⟩
    intro message hmessage
    obtain rfl := Except.ok.inj hmessage
    exact (carries_finalize_iff h).2 hencodable

/-! ### M1 -/

/-- The attributes of M1. -/
def m1Elements (sessionId : SessionId) (caps : DeviceCapabilities) : List TlvElement :=
  [⟨.configId, caps.supportedConfigIds.flatMap writeBe16⟩,
    ⟨.pulseShapeCombo, caps.supportedPulseShapes⟩, ⟨.channelBitmask, [caps.channelBitmask]⟩,
    ⟨.sessionId, writeBe32 sessionId⟩]

/-- The words of a big-endian array. -/
def readU16Array (value : List UInt8) : List UInt16 := (pieces 2 value).map (readBe16 · 0)

/-- A 16-bit word that is written most significant byte first is read back. -/
theorem readBe16_writeBe16 (v : UInt16) (rest : List UInt8) :
    readBe16 (writeBe16 v ++ rest) 0 = v := by
  have hv := v.toNat_lt
  refine UInt16.toNat_inj.1 ?_
  rw [toNat_readBe16, writeBe16_eq]
  change 2 ^ 8 * (UInt8.ofNat _).toNat + (UInt8.ofNat _).toNat = _
  rw [UInt8.toNat_ofNat', UInt8.toNat_ofNat']
  omega

/-- An array is read back as it was written. -/
theorem readU16Array_flatMap (values : List UInt16) :
    readU16Array (values.flatMap writeBe16) = values := by
  induction values with
  | nil => rw [List.flatMap_nil, readU16Array, pieces_nil, List.map_nil]
  | cons v values ih =>
    have hne : writeBe16 v ++ values.flatMap writeBe16 ≠ [] :=
      List.append_ne_nil_of_left_ne_nil (List.cons_ne_nil _ _) _
    have hword : (writeBe16 v).length = 2 := rfl
    rw [List.flatMap_cons, readU16Array, pieces_of_ne_nil (by decide) hne, List.map_cons,
      List.take_left' hword, List.drop_left' hword, ← readU16Array, ih,
      ← List.append_nil (writeBe16 v), readBe16_writeBe16]

/-- The two lists of M1 must fit a one-byte length each. -/
theorem encodable_m1Elements_iff {sessionId : SessionId} {caps : DeviceCapabilities} :
    Encodable (m1Elements sessionId caps) ↔
      caps.supportedConfigIds.length < 128 ∧ caps.supportedPulseShapes.length < 256 := by
  have hids := length_flatMap_writeBe16 caps.supportedConfigIds
  simp only [Encodable, m1Elements, List.forall_mem_cons, TlvElement.Fits, hids, serialise_cons,
    serialise_nil, List.length_append, TlvElement.length_bytes, List.length_cons, List.length_nil,
    length_writeBe32]
  constructor
  · rintro ⟨⟨hconfig, hpulse, -⟩, -⟩
    omega
  · rintro ⟨hconfig, hpulse⟩
    refine ⟨⟨by omega, by omega, by decide, by decide, ?_⟩, by omega⟩
    simp

/-- M1 can be read back if its two lists fit. -/
theorem builds_buildM1_iff {sessionId : SessionId} {caps : DeviceCapabilities} :
    Builds (buildM1 sessionId caps) (m1Elements sessionId caps) ↔
      caps.supportedConfigIds.length < 128 ∧ caps.supportedPulseShapes.length < 256 := by
  have hholds : TlvWriter.Holds _ .uwbRangingService .rangingSetupM1 (m1Elements sessionId caps) :=
    (((TlvWriter.holds_new.addU16Array _ _).addBytes _ _).addU8 _ _).addU32 _ _
  exact (builds_finalize_iff hholds).trans encodable_m1Elements_iff

/-! ### The builders -/

/-- The setup builders do what their callers need, for one choice of arguments. -/
structure SetupBuilders (sessionId : SessionId) (params : RangingSessionParameters)
    (caps : DeviceCapabilities) (isSuspend accept : Bool) (attributeId : UInt8) : Prop where
  m1 : Builds (buildM1 sessionId caps) (m1Elements sessionId caps)
  /-- The peer that reads M1 recovers both lists. -/
  m1Lists : ∀ m1, buildM1 sessionId caps = .ok m1 →
    (valueOf m1 .configId).map readU16Array = some caps.supportedConfigIds ∧
      valueOf m1 .pulseShapeCombo = some caps.supportedPulseShapes
  m3 : Builds (buildM3 params caps) (m3Elements params caps)
  suspendResumeRequest : Builds (buildSuspendResumeRequest sessionId isSuspend)
    [⟨.sessionId, writeBe32 sessionId⟩]
  suspendResponse : Builds (buildSuspendResponse accept)
    [⟨.status, [if accept then 0x00 else 0x01]⟩]
  resumeRequest : Builds (buildResumeRequest sessionId) [⟨.sessionId, writeBe32 sessionId⟩]
  rangingNotification : Builds (buildRangingNotification attributeId) [⟨⟨attributeId⟩, []⟩]

/-- **The builders produce messages that parse, up to 127 config ids and 255 pulse
shapes**, and never beyond. -/
theorem setupBuilders_iff {sessionId : SessionId} {params : RangingSessionParameters}
    {caps : DeviceCapabilities} {isSuspend accept : Bool} {attributeId : UInt8} :
    SetupBuilders sessionId params caps isSuspend accept attributeId ↔
      caps.supportedConfigIds.length < 128 ∧ caps.supportedPulseShapes.length < 256 := by
  constructor
  · intro h
    exact builds_buildM1_iff.1 h.m1
  · intro hfit
    have hbuilds : Builds (buildM1 sessionId caps) _ := builds_buildM1_iff.2 hfit
    refine ⟨hbuilds, ?_, ?_, ?_, ?_, ?_, ?_⟩
    · intro m1 h
      have hp := (hbuilds.carries m1 h).parsed
      rw [valueOf_eq hp, valueOf_eq hp]
      exact ⟨congrArg some (readU16Array_flatMap caps.supportedConfigIds), rfl⟩
    · refine (builds_finalize_iff (((((((TlvWriter.holds_new.addU8 _ _).addU8 _ _).addU8 _ _).addU8
        _ _).addU32 _ _).addU8 _ _).addU8 _ _)).2 ?_
      simp [Encodable, TlvElement.Fits]
    · refine (builds_finalize_iff (TlvWriter.holds_new.addU32 _ _)).2 ?_
      simp [Encodable, TlvElement.Fits]
    · refine (builds_finalize_iff (TlvWriter.holds_new.addU8 _ _)).2 ?_
      simp [Encodable, TlvElement.Fits]
    · refine (builds_finalize_iff (TlvWriter.holds_new.addU32 _ _)).2 ?_
      simp [Encodable, TlvElement.Fits]
    · refine (builds_finalize_iff (TlvWriter.holds_new.addBytes _ _)).2 ?_
      simp [Encodable, TlvElement.Fits]

/-- A device that supports 128 config ids. -/
def manyConfigIds : DeviceCapabilities := { supportedConfigIds := List.replicate 128 0 }

/-- **With 128 config ids M1 is returned, and a peer reads none of them.** -/
theorem not_setupBuilders_manyConfigIds :
    (∃ m1, buildM1 7 manyConfigIds = .ok m1 ∧ valueOf m1 .configId = some []) ∧
      ¬ SetupBuilders 7 {} manyConfigIds true true 0 := by
  refine ⟨⟨_, rfl, by decide +kernel⟩, fun h => ?_⟩
  have hids : manyConfigIds.supportedConfigIds.length = 128 := List.length_replicate
  have hfit := (builds_buildM1_iff.1 h.m1).1
  omega

end Protocol
end AliroUwb
