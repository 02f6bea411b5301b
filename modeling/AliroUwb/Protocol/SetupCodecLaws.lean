/-
# Laws of the setup message codec

The tokenizer reads back what the writer has written (`parseTlvStream_finalize`):
a writer `Holds` the attributes added to it, each a tag, a length and a value in
a row (`serialise`), and the length field counts their bytes.  The header's
category and type are not among what the tokenizer looks at
(`parseTlvStream_header`).

Each parser is a loop over the attributes.  It goes through when it accepts each
of them (`M2Acceptable`, `ResumeAcceptable`; of those of M4 only the sizes are checked,
`m4Sizes`), and every output parameter then holds what the last attribute with its tag
says, or what it held before (`M2Written`, `M4Written`, `ResumeWritten`).
-/

import AliroUwb.Protocol.SetupCodec

namespace AliroUwb
namespace Protocol

open LastWriter WireFormat

/-! ### The tokenizer -/

/-- The byte at an offset is the first of what is left there. -/
theorem byteAt_of_drop {l rest : List UInt8} {i : ℕ} {b : UInt8} (h : l.drop i = b :: rest) :
    byteAt l i = b := by
  rw [byteAt, List.getD_eq_getElem?_getD, ← Nat.add_zero i, ← List.getElem?_drop, h]
  rfl

/-- What is left behind a part of known length. -/
theorem drop_of_drop {α : Type} {l l₁ l₂ : List α} {i j : ℕ} (h : l.drop i = l₁ ++ l₂)
    (hj : l₁.length = j) : l.drop (i + j) = l₂ := by
  rw [← List.drop_drop, h, List.drop_left' hj]

/-- An attribute as it stands in a message. -/
def TlvElement.bytes (e : TlvElement) : List UInt8 :=
  [e.tag.toByte, UInt8.ofNat e.value.length] ++ e.value

/-- Attributes in a row. -/
def serialise (elements : List TlvElement) : List UInt8 := elements.flatMap TlvElement.bytes

/-- No attributes take no bytes. -/
@[simp] theorem serialise_nil : serialise [] = [] := rfl

/-- The bytes of the first attribute come first. -/
@[simp] theorem serialise_cons (e : TlvElement) (elements : List TlvElement) :
    serialise (e :: elements) = e.bytes ++ serialise elements := rfl

/-- The bytes of two rows of attributes follow one another. -/
@[simp] theorem serialise_append (elements₁ elements₂ : List TlvElement) :
    serialise (elements₁ ++ elements₂) = serialise elements₁ ++ serialise elements₂ :=
  List.flatMap_append

/-- An attribute takes two bytes more than its value. -/
@[simp] theorem TlvElement.length_bytes (e : TlvElement) : e.bytes.length = 2 + e.value.length :=
  List.length_append

/-- Every attribute takes two bytes or more. -/
theorem length_le_length_serialise (elements : List TlvElement) :
    elements.length ≤ (serialise elements).length := by
  induction elements with
  | nil => exact Nat.le_refl 0
  | cons e elements ih =>
    rw [serialise_cons, List.length_append, e.length_bytes, List.length_cons]
    omega

/-- The value's length fits its byte. -/
def TlvElement.Fits (e : TlvElement) : Prop := e.value.length < 2 ^ 8

/-- The loop reads the attributes that start at `offset`. -/
theorem parseTlvElements_serialise {stream rest : List UInt8} {elements : List TlvElement}
    (hfit : ∀ e ∈ elements, e.Fits) {end' offset fuel : ℕ} {read : List TlvElement}
    (hdrop : stream.drop offset = serialise elements ++ rest)
    (hend : end' = offset + (serialise elements).length) (hfuel : elements.length < fuel) :
    parseTlvElements stream end' fuel offset read = .ok (read ++ elements) := by
  induction elements generalizing offset fuel read with
  | nil =>
    obtain ⟨fuel, rfl⟩ := Nat.exists_eq_add_of_lt hfuel
    rw [serialise_nil, List.length_nil, Nat.add_zero] at hend
    rw [List.append_nil]
    exact if_neg (Nat.not_lt.2 (Nat.le_of_eq hend))
  | cons e elements ih =>
    obtain ⟨fuel, rfl⟩ : ∃ n, fuel = n + 1 := ⟨fuel - 1, by omega⟩
    rw [List.forall_mem_cons] at hfit
    rw [serialise_cons, List.append_assoc] at hdrop
    rw [serialise_cons, List.length_append, e.length_bytes] at hend
    have htag : byteAt stream offset = e.tag.toByte := byteAt_of_drop hdrop
    have hlen : (byteAt stream (offset + 1)).toNat = e.value.length := by
      have h : stream.drop (offset + 1) = UInt8.ofNat e.value.length :: (e.value ++ _) :=
        drop_of_drop (show _ = [e.tag.toByte] ++ _ from hdrop) rfl
      rw [byteAt_of_drop h, UInt8.toNat_ofNat', Nat.mod_eq_of_lt hfit.1]
    have hvalue : stream.drop (offset + 2) = e.value ++ (serialise elements ++ rest) :=
      drop_of_drop (show _ = [e.tag.toByte, UInt8.ofNat e.value.length] ++ _ from hdrop) rfl
    rw [parseTlvElements, if_pos (by omega), if_neg (by omega)]
    dsimp only
    rw [hlen, if_neg (by omega), htag, hvalue, List.take_left' rfl,
      ih hfit.2 (drop_of_drop hvalue rfl) (by omega) (by simpa using hfuel), List.append_assoc]
    rfl

/-! ### The writer -/

/-- The writer holds a header and the attributes. -/
def TlvWriter.Holds (w : TlvWriter) (cat : ProtocolCategory) (msgType : MessageType)
    (elements : List TlvElement) : Prop :=
  w.buffer = [cat.toByte, msgType.toByte, 0, 0] ++ serialise elements

/-- An array of 16-bit words takes two bytes for each. -/
theorem length_flatMap_writeBe16 (values : List UInt16) :
    (values.flatMap writeBe16).length = values.length * 2 := by
  induction values with
  | nil => rfl
  | cons v values ih =>
    rw [List.flatMap_cons, List.length_append, ih, List.length_cons, Nat.succ_mul, Nat.add_comm]
    rfl

namespace TlvWriter

variable {w : TlvWriter} {cat : ProtocolCategory} {msgType : MessageType}
  {elements : List TlvElement}

/-- A new writer holds no attributes. -/
theorem holds_new : (new cat msgType).Holds cat msgType [] := rfl

/-- A byte is put behind the attributes there are. -/
theorem Holds.addU8 (h : w.Holds cat msgType elements) (tag : AttributeTag) (val : UInt8) :
    (w.addU8 tag val).Holds cat msgType (elements ++ [⟨tag, [val]⟩]) := by
  rw [Holds] at h
  rw [Holds, TlvWriter.addU8, h, serialise_append, List.append_assoc]
  rfl

/-- A 32-bit word is put behind the attributes there are, most significant byte first. -/
theorem Holds.addU32 (h : w.Holds cat msgType elements) (tag : AttributeTag) (val : UInt32) :
    (w.addU32 tag val).Holds cat msgType (elements ++ [⟨tag, writeBe32 val⟩]) := by
  rw [Holds] at h
  rw [Holds, TlvWriter.addU32, h, serialise_append, List.append_assoc, List.append_assoc]
  rfl

/-- Bytes are put behind the attributes there are. -/
theorem Holds.addBytes (h : w.Holds cat msgType elements) (tag : AttributeTag)
    (bytes : List UInt8) :
    (w.addBytes tag bytes).Holds cat msgType (elements ++ [⟨tag, bytes⟩]) := by
  rw [Holds] at h
  rw [Holds, TlvWriter.addBytes, h, serialise_append, serialise_cons, serialise_nil,
    List.append_nil, TlvElement.bytes, List.append_assoc, List.append_assoc]

/-- An array of 16-bit words is put behind the attributes there are, each most significant byte
first. -/
theorem Holds.addU16Array (h : w.Holds cat msgType elements) (tag : AttributeTag)
    (values : List UInt16) : (w.addU16Array tag values).Holds cat msgType
      (elements ++ [⟨tag, values.flatMap writeBe16⟩]) := by
  rw [Holds] at h
  rw [Holds, TlvWriter.addU16Array, h, serialise_append, serialise_cons, serialise_nil,
    List.append_nil, TlvElement.bytes, length_flatMap_writeBe16, List.append_assoc,
    List.append_assoc]

/-- The message: the header with the length, and the attributes. -/
theorem Holds.finalize (h : w.Holds cat msgType elements) :
    w.finalize = [cat.toByte, msgType.toByte] ++
      writeBe16 (UInt16.ofNat (serialise elements).length) ++ serialise elements := by
  rw [Holds] at h
  rw [TlvWriter.finalize, h]
  rfl

/-- **The tokenizer reads back what the writer wrote.** -/
theorem Holds.parseTlvStream_finalize (h : w.Holds cat msgType elements)
    (hfit : ∀ e ∈ elements, e.Fits) (hlen : (serialise elements).length < 2 ^ 16) :
    parseTlvStream w.finalize = .ok elements := by
  rw [h.finalize]
  generalize hs : [cat.toByte, msgType.toByte] ++
    writeBe16 (UInt16.ofNat (serialise elements).length) ++ serialise elements = stream
  have hstream : stream.length = 4 + (serialise elements).length := by
    rw [← hs, List.length_append]
    rfl
  have hpayload : (readBe16 stream 2).toNat = (serialise elements).length := by
    rw [toNat_readBe16, ← hs, writeBe16_eq]
    change 2 ^ 8 * (UInt8.ofNat _).toNat + (UInt8.ofNat _).toNat = _
    rw [UInt8.toNat_ofNat', UInt8.toNat_ofNat', UInt16.toNat_ofNat', Nat.mod_eq_of_lt hlen]
    omega
  have hcount := length_le_length_serialise elements
  rw [parseTlvStream, if_neg (by omega)]
  dsimp only
  rw [hpayload, if_neg (by omega)]
  have hdrop : stream.drop 4 = serialise elements ++ [] := by
    rw [← hs, List.append_nil]
    rfl
  exact parseTlvElements_serialise hfit hdrop rfl (by omega)

end TlvWriter

/-! ### The header -/

/-- The loop looks at nothing before `offset`. -/
theorem parseTlvElements_header (c t c' t' : UInt8) (rest : List UInt8) {end' fuel offset : ℕ}
    {read : List TlvElement} (h : 2 ≤ offset) :
    parseTlvElements (c :: t :: rest) end' fuel offset read =
      parseTlvElements (c' :: t' :: rest) end' fuel offset read := by
  induction fuel generalizing offset read with
  | zero => rfl
  | succ fuel ih =>
    obtain ⟨k, rfl⟩ := Nat.exists_eq_add_of_le' h
    have htag : byteAt (c :: t :: rest) (k + 2) = byteAt (c' :: t' :: rest) (k + 2) := rfl
    have hlen : byteAt (c :: t :: rest) (k + 2 + 1) = byteAt (c' :: t' :: rest) (k + 2 + 1) := rfl
    have hvalue : (c :: t :: rest).drop (k + 2 + 2) = (c' :: t' :: rest).drop (k + 2 + 2) := rfl
    rw [parseTlvElements]
    conv_rhs => rw [parseTlvElements]
    dsimp only
    rw [htag, hlen, hvalue]
    split_ifs
    · rfl
    · rfl
    · exact ih (by omega)
    · rfl

/-- **The category and the type are not looked at.** -/
theorem parseTlvStream_header (c t c' t' : UInt8) (rest : List UInt8) :
    parseTlvStream (c :: t :: rest) = parseTlvStream (c' :: t' :: rest) := by
  rw [parseTlvStream]
  conv_rhs => rw [parseTlvStream]
  dsimp only
  rw [parseTlvElements_header c t c' t' rest (by omega)]
  rfl

/-! ### What a parser accepts -/

/-- The attribute has the tag. -/
def tagged (tag : AttributeTag) (e : TlvElement) : Bool := e.tag = tag

/-- `tagged` holds of the attributes with the tag. -/
@[simp] theorem tagged_eq_true {tag : AttributeTag} {e : TlvElement} :
    tagged tag e = true ↔ e.tag = tag := decide_eq_true_iff

/-- `tagged` fails for those with another tag. -/
@[simp] theorem tagged_eq_false {tag : AttributeTag} {e : TlvElement} :
    tagged tag e = false ↔ e.tag ≠ tag := decide_eq_false_iff_not

/-- An attribute is read if its value has the size and is one that can be read. -/
theorem readAttribute_ok {β σ : Type} {size : ℕ} {value : List UInt8}
    {read : Except StatusCode β} {store : β → σ} {s : σ} :
    readAttribute size value read store = .ok s ↔
      value.length = size ∧ ∃ v, read = .ok v ∧ store v = s := by
  rw [readAttribute]
  split_ifs with h
  · simp [h]
  · cases read <;> simp_all [Except.map]

/-- The attributes of each of the tags have the size for it. -/
def Sized (sizes : List (AttributeTag × ℕ)) (e : TlvElement) : Prop :=
  ∀ p ∈ sizes, e.tag = p.1 → e.value.length = p.2

/-- The attributes `parseM2` reads. -/
def m2Sizes : List (AttributeTag × ℕ) :=
  [(.configId, 2), (.pulseShapeCombo, 1), (.sessionId, 4), (.channelBitmask, 1),
    (.ranMultiplier, 1), (.slotBitmask, 1), (.hoppingConfigBitmask, 1)]

/-- The attributes `parseM4` reads. -/
def m4Sizes : List (AttributeTag × ℕ) :=
  [(.stsIndex0, 4), (.uwbTime0, 8), (.hopModeKey, 4), (.syncCodeIndex, 1)]

/-- The attributes `parseResumeResponse` reads. -/
def resumeSizes : List (AttributeTag × ℕ) := [(.stsIndex0, 4), (.uwbTime0, 8), (.status, 1)]

/-- `parseM2` accepts the attribute. -/
@[mk_iff]
structure M2Acceptable (expectedSessionId : SessionId) (localCaps : DeviceCapabilities)
    (e : TlvElement) : Prop where
  size : Sized m2Sizes e
  sessionId : e.tag = .sessionId → readBe32 e.value 0 = expectedSessionId
  channel : e.tag = .channelBitmask →
    commonChannels localCaps e.value &&& 0x02 ≠ 0 ∨ commonChannels localCaps e.value &&& 0x01 ≠ 0
  slot : e.tag = .slotBitmask → commonSlots localCaps e.value ≠ 0
  hopping : e.tag = .hoppingConfigBitmask →
    ∃ combo ∈ [hopComboNoHopping, hopComboContinuousDefault, hopComboAdaptiveDefault],
      commonHopping localCaps e.value &&& combo = combo

/-- Only the expected session id is accepted. -/
theorem matchSessionId_ok {expected sessionId v : SessionId} :
    matchSessionId expected sessionId = .ok v ↔ sessionId = expected ∧ v = expected := by
  rw [matchSessionId]
  split_ifs with h <;> simp_all [eq_comm]

/-- A channel is selected if channel 9 or channel 5 is common. -/
theorem selectChannel_ok {common : UInt8} :
    (∃ v, selectChannel common = .ok v) ↔ common &&& 0x02 ≠ 0 ∨ common &&& 0x01 ≠ 0 := by
  rw [selectChannel]
  split_ifs with h₂ h₁ <;> simp [*]

/-- A slot duration is selected if any bit is common. -/
theorem selectSlotDuration_ok {common : UInt8} :
    (∃ v, selectSlotDuration common = .ok v) ↔ common ≠ 0 := by
  rw [selectSlotDuration]
  split_ifs with h <;> simp [h]

/-- A hopping mode is selected if all bits of one of the three combinations are common. -/
theorem selectHopping_ok {common : UInt8} :
    (∃ v, selectHopping common = .ok v) ↔
      ∃ combo ∈ [hopComboNoHopping, hopComboContinuousDefault, hopComboAdaptiveDefault],
        common &&& combo = combo := by
  rw [selectHopping]
  split_ifs with h₁ h₂ h₃ <;> simp [*]

/-- A block duration is a number of blocks of 96 ms and does not overflow. -/
theorem toNat_duration (multiplier : UInt8) :
    (96 * multiplier.toUInt32).toNat = 96 * multiplier.toNat := by
  have hlt := multiplier.toNat_lt
  rw [UInt32.toNat_mul, UInt8.toNat_toUInt32]
  change 96 * multiplier.toNat % 2 ^ 32 = _
  omega

/-- No bit stands for more than 24 chaps. -/
theorem chapsOfBit_le (idx : Option ℕ) : (chapsOfBit idx).toNat ≤ 24 := by
  unfold chapsOfBit
  split <;> decide

/-- The slot duration is a number of chaps, of 400 RSTU each. -/
theorem toNat_of_selectSlotDuration {common : UInt8} {v : UInt16}
    (h : selectSlotDuration common = .ok v) : v.toNat = 400 * (chapsOfBit
      ((List.range 7).find? fun idx => (common >>> UInt8.ofNat idx) &&& 0x01 ≠ 0)).toNat := by
  rw [selectSlotDuration] at h
  split_ifs at h
  obtain rfl := Except.ok.inj h
  generalize (List.range 7).find? _ = idx
  have hle := chapsOfBit_le idx
  rw [UInt32.toNat_toUInt16, UInt32.toNat_mul, UInt8.toNat_toUInt32]
  change 400 * (chapsOfBit idx).toNat % 2 ^ 32 % 2 ^ 16 = _
  omega

/-- **What `parseM2` accepts.** -/
theorem m2Attribute_ok_iff {expectedSessionId : SessionId} {localCaps : DeviceCapabilities}
    (s : RangingSessionParameters) (e : TlvElement) :
    (∃ s', m2Attribute expectedSessionId localCaps s e = .ok s') ↔
      M2Acceptable expectedSessionId localCaps e := by
  rw [m2Attribute]
  -- one case for each tag of the switch
  split_ifs <;> simp +decide [-Prod.exists, m2Acceptable_iff, Sized, m2Sizes, readAttribute_ok,
    matchSessionId_ok, selectChannel_ok, selectSlotDuration_ok, selectHopping_ok, *]

/-- `parseM4` accepts the attribute. -/
theorem m4Attribute_ok_iff (s : RangingSessionParameters) (e : TlvElement) :
    (∃ s', m4Attribute s e = .ok s') ↔ Sized m4Sizes e := by
  rw [m4Attribute]
  split_ifs <;> simp +decide [Sized, m4Sizes, readAttribute_ok, *]

/-- `parseResumeResponse` accepts the attribute: a status is the one of success. -/
@[mk_iff]
structure ResumeAcceptable (e : TlvElement) : Prop where
  size : Sized resumeSizes e
  status : e.tag = .status → byteAt e.value 0 = 0x00

/-- Only the status 0 is accepted. -/
theorem matchStatus_ok {status : UInt8} :
    (∃ v, matchStatus status = .ok v) ↔ status = 0x00 := by
  rw [matchStatus]
  split_ifs with h <;> simp_all

/-- **What `parseResumeResponse` accepts.** -/
theorem resumeAttribute_ok_iff (s : ResumeState) (e : TlvElement) :
    (∃ s', resumeAttribute s e = .ok s') ↔ ResumeAcceptable e := by
  rw [resumeAttribute]
  split_ifs <;> simp +decide [resumeAcceptable_iff, Sized, resumeSizes, readAttribute_ok,
    matchStatus_ok, *]

/-! ### What a parser writes -/

/-- A parser that succeeds has a row of attributes before it. -/
theorem elements_of_ok {σ : Type} {payload : List UInt8} {out q : σ}
    {loop : List TlvElement → Except StatusCode Unit × σ}
    (h : (match parseTlvStream payload with
      | .error e => (.error e, out)
      | .ok elements => loop elements) = (.ok (), q)) :
    ∃ elements, parseTlvStream payload = .ok elements ∧ loop elements = (.ok (), q) := by
  cases hp : parseTlvStream payload with
  | error e =>
    rw [hp] at h
    exact nomatch congrArg Prod.fst h
  | ok elements =>
    rw [hp] at h
    exact ⟨elements, rfl, h⟩

/-- The hopping mode and its bitmask, which `parseM2` chooses together. -/
def RangingSessionParameters.hopping (p : RangingSessionParameters) : HoppingMode × UInt8 :=
  (p.hoppingMode, p.hoppingConfigBitmask)

/-- The parameters without those that M2 determines. -/
def m2Rest (p : RangingSessionParameters) : RangingSessionParameters :=
  { p with
    uwbConfigId := 0, pulseShapeCombo := 0, sessionId := 0, channel := .channel9, durationMs := 0,
    slotDurationRstu := 0, hoppingMode := .disabled, hoppingConfigBitmask := 0 }

/-- The parameters after the attributes of M2, given those before. -/
structure M2Written (expectedSessionId : SessionId) (localCaps : DeviceCapabilities)
    (elements : List TlvElement) (before after : RangingSessionParameters) : Prop where
  uwbConfigId : Written (tagged .configId) (fun e v => v = readBe16 e.value 0) elements
    before.uwbConfigId after.uwbConfigId
  pulseShapeCombo : Written (tagged .pulseShapeCombo) (fun e v => v = byteAt e.value 0) elements
    before.pulseShapeCombo after.pulseShapeCombo
  sessionId : Written (tagged .sessionId) (fun _ v => v = expectedSessionId) elements
    before.sessionId after.sessionId
  channel : Written (tagged .channelBitmask)
    (fun e v => selectChannel (commonChannels localCaps e.value) = .ok v) elements
    before.channel after.channel
  durationMs : Written (tagged .ranMultiplier)
    (fun e v => v = 96 * (max (byteAt e.value 0) localCaps.minRanMultiplier).toUInt32) elements
    before.durationMs after.durationMs
  slotDurationRstu : Written (tagged .slotBitmask)
    (fun e v => selectSlotDuration (commonSlots localCaps e.value) = .ok v) elements
    before.slotDurationRstu after.slotDurationRstu
  hopping : Written (tagged .hoppingConfigBitmask)
    (fun e v => selectHopping (commonHopping localCaps e.value) = .ok v) elements
    before.hopping after.hopping
  rest : m2Rest after = m2Rest before

/-- An attribute of M2 that is accepted has been written. -/
theorem m2Attribute_step {expectedSessionId : SessionId} {localCaps : DeviceCapabilities}
    {s s' : RangingSessionParameters} {e : TlvElement}
    (h : m2Attribute expectedSessionId localCaps s e = .ok s') :
    M2Written expectedSessionId localCaps [e] s s' := by
  rw [m2Attribute] at h
  split_ifs at h with h₁ h₂ h₃ h₄ h₅ h₆ h₇
  case neg =>
    obtain rfl := Except.ok.inj h
    constructor <;> simp [written_singleton, *]
  all_goals
    obtain ⟨-, v, hv, rfl⟩ := readAttribute_ok.1 h
    clear h
    refine ⟨?_, ?_, ?_, ?_, ?_, ?_, ?_, rfl⟩ <;>
      simp_all +decide [written_singleton, matchSessionId_ok, RangingSessionParameters.hopping]

/-- **What M2 determines.**  A successful `parseM2` has read attributes that it
accepts, and has written what they say. -/
theorem parseM2_ok_iff {payload : List UInt8} {expectedSessionId : SessionId}
    {localCaps : DeviceCapabilities} {prior : RangingSessionParameters}
    {elements : List TlvElement} (hp : parseTlvStream payload = .ok elements) :
    (∃ q, parseM2 payload expectedSessionId localCaps prior = (.ok (), q)) ↔
      ∀ e ∈ elements, M2Acceptable expectedSessionId localCaps e := by
  simp only [parseM2, hp]
  exact walk_ok_iff m2Attribute_ok_iff

/-- When the loop of `parseM2` comes to its end, all attributes have been written. -/
theorem m2Written_of_walk {expectedSessionId : SessionId} {localCaps : DeviceCapabilities}
    {elements : List TlvElement} {s t : RangingSessionParameters}
    (h : walk (m2Attribute expectedSessionId localCaps) s elements = (.ok (), t)) :
    M2Written expectedSessionId localCaps elements s t := by
  have step := @m2Attribute_step expectedSessionId localCaps
  refine ⟨?_, ?_, ?_, ?_, ?_, ?_, ?_, ?_⟩
  · exact written_of_walk (fun _ _ _ h => (step h).uwbConfigId) h
  · exact written_of_walk (fun _ _ _ h => (step h).pulseShapeCombo) h
  · exact written_of_walk (fun _ _ _ h => (step h).sessionId) h
  · exact written_of_walk (fun _ _ _ h => (step h).channel) h
  · exact written_of_walk (fun _ _ _ h => (step h).durationMs) h
  · exact written_of_walk (fun _ _ _ h => (step h).slotDurationRstu) h
  · exact written_of_walk (fun _ _ _ h => (step h).hopping) h
  · exact get_walk (fun _ _ _ h => (step h).rest) h

/-- When `parseM2` succeeds, all attributes have been written over twelve slots to a round. -/
theorem m2Written_of_parseM2 {payload : List UInt8} {expectedSessionId : SessionId}
    {localCaps : DeviceCapabilities} {prior q : RangingSessionParameters}
    (h : parseM2 payload expectedSessionId localCaps prior = (.ok (), q)) :
    ∃ elements, parseTlvStream payload = .ok elements ∧
      M2Written expectedSessionId localCaps elements { prior with slotsPerRound := 12 } q := by
  obtain ⟨elements, hp, hw⟩ := elements_of_ok h
  exact ⟨elements, hp, m2Written_of_walk hw⟩

/-- The parameters without those that M4 determines. -/
def m4Rest (p : RangingSessionParameters) : RangingSessionParameters :=
  { p with stsIndex0 := 0, initiationTimeUs := 0, hopModeKey := Bytes.zero 4, syncCodeIndex := 0 }

/-- The parameters after the attributes of M4, given those before. -/
structure M4Written (elements : List TlvElement) (before after : RangingSessionParameters) :
    Prop where
  stsIndex0 : Written (tagged .stsIndex0) (fun e v => v = readBe32 e.value 0) elements
    before.stsIndex0 after.stsIndex0
  initiationTimeUs : Written (tagged .uwbTime0) (fun e v => v = readBe64 e.value 0) elements
    before.initiationTimeUs after.initiationTimeUs
  hopModeKey : Written (tagged .hopModeKey) (fun e v => v = Bytes.ofList 4 e.value) elements
    before.hopModeKey after.hopModeKey
  syncCodeIndex : Written (tagged .syncCodeIndex) (fun e v => v = byteAt e.value 0) elements
    before.syncCodeIndex after.syncCodeIndex
  rest : m4Rest after = m4Rest before

/-- An attribute of M4 that is accepted has been written. -/
theorem m4Attribute_step {s s' : RangingSessionParameters} {e : TlvElement}
    (h : m4Attribute s e = .ok s') : M4Written [e] s s' := by
  rw [m4Attribute] at h
  split_ifs at h
  case neg =>
    obtain rfl := Except.ok.inj h
    constructor <;> simp [written_singleton, *]
  all_goals
    obtain ⟨-, v, hv, rfl⟩ := readAttribute_ok.1 h
    clear h
    refine ⟨?_, ?_, ?_, ?_, rfl⟩ <;> simp_all +decide [written_singleton]

/-- M4 is accepted when its known attributes have the right sizes. -/
theorem parseM4_ok_iff {payload : List UInt8} {prior : RangingSessionParameters}
    {elements : List TlvElement} (hp : parseTlvStream payload = .ok elements) :
    (∃ q, parseM4 payload prior = (.ok (), q)) ↔ ∀ e ∈ elements, Sized m4Sizes e := by
  simp only [parseM4, hp]
  exact walk_ok_iff m4Attribute_ok_iff

/-- When the loop of `parseM4` comes to its end, all attributes have been written. -/
theorem m4Written_of_walk {elements : List TlvElement} {s t : RangingSessionParameters}
    (h : walk m4Attribute s elements = (.ok (), t)) : M4Written elements s t := by
  refine ⟨?_, ?_, ?_, ?_, ?_⟩
  · exact written_of_walk (fun _ _ _ h => (m4Attribute_step h).stsIndex0) h
  · exact written_of_walk (fun _ _ _ h => (m4Attribute_step h).initiationTimeUs) h
  · exact written_of_walk (fun _ _ _ h => (m4Attribute_step h).hopModeKey) h
  · exact written_of_walk (fun _ _ _ h => (m4Attribute_step h).syncCodeIndex) h
  · exact get_walk (fun _ _ _ h => (m4Attribute_step h).rest) h

/-- When `parseM4` succeeds, all attributes have been written. -/
theorem m4Written_of_parseM4 {payload : List UInt8} {prior q : RangingSessionParameters}
    (h : parseM4 payload prior = (.ok (), q)) :
    ∃ elements, parseTlvStream payload = .ok elements ∧ M4Written elements prior q := by
  obtain ⟨elements, hp, hw⟩ := elements_of_ok h
  exact ⟨elements, hp, m4Written_of_walk hw⟩

/-- The STS index and whether it has been read. -/
def ResumeState.sts (s : ResumeState) : StsIndex × Bool := (s.outStsIndex0, s.haveSts)

/-- The time and whether it has been read. -/
def ResumeState.time (s : ResumeState) : UInt64 × Bool := (s.outTime0Us, s.haveTime)

/-- The outputs and flags after the attributes of a resume response. -/
structure ResumeWritten (elements : List TlvElement) (before after : ResumeState) : Prop where
  sts : Written (tagged .stsIndex0) (fun e v => v = (readBe32 e.value 0, true)) elements
    before.sts after.sts
  time : Written (tagged .uwbTime0) (fun e v => v = (readBe64 e.value 0, true)) elements
    before.time after.time

/-- An attribute of a resume response that is accepted has been written. -/
theorem resumeAttribute_step {s s' : ResumeState} {e : TlvElement}
    (h : resumeAttribute s e = .ok s') : ResumeWritten [e] s s' := by
  rw [resumeAttribute] at h
  split_ifs at h
  case neg =>
    obtain rfl := Except.ok.inj h
    constructor <;> simp [written_singleton, *]
  all_goals
    obtain ⟨-, v, hv, rfl⟩ := readAttribute_ok.1 h
    clear h
    constructor <;> simp_all +decide [written_singleton, ResumeState.sts, ResumeState.time]

/-- When the loop of `parseResumeResponse` comes to its end, all attributes have been written. -/
theorem resumeWritten_of_walk {elements : List TlvElement} {s t : ResumeState}
    (h : walk resumeAttribute s elements = (.ok (), t)) : ResumeWritten elements s t :=
  ⟨written_of_walk (fun _ _ _ h => (resumeAttribute_step h).sts) h,
    written_of_walk (fun _ _ _ h => (resumeAttribute_step h).time) h⟩

/-- **What a resume response determines.**  `parseResumeResponse` succeeds when it
accepts all attributes and an STS index and a time are among them, and returns
what the last of each says. -/
theorem parseResumeResponse_ok_iff {payload : List UInt8} {sts q : StsIndex} {time t : UInt64} :
    parseResumeResponse payload sts time = (.ok (), q, t) ↔
      ∃ elements, parseTlvStream payload = .ok elements ∧ (∀ e ∈ elements, ResumeAcceptable e) ∧
        (∃ e, latest (tagged .stsIndex0) elements = some e ∧ q = readBe32 e.value 0) ∧
        ∃ e, latest (tagged .uwbTime0) elements = some e ∧ t = readBe64 e.value 0 := by
  constructor
  · intro h
    obtain ⟨elements, hp, h⟩ := elements_of_ok h
    cases hw : walk resumeAttribute { outStsIndex0 := sts, outTime0Us := time } elements with
    | mk result s =>
      rw [hw] at h
      cases result with
      | error e => exact nomatch congrArg Prod.fst h
      | ok =>
        obtain ⟨hresult, rfl, rfl⟩ : _ ∧ s.outStsIndex0 = q ∧ s.outTime0Us = t := by
          simpa only [Prod.mk.injEq] using h
        split_ifs at hresult with hmissing
        -- a flag that is set has been written
        obtain ⟨e, he, hsts⟩ := (resumeWritten_of_walk hw).sts.exists_latest fun hs =>
          hmissing (Or.inl (congrArg Prod.snd hs))
        obtain ⟨e', he', htime⟩ := (resumeWritten_of_walk hw).time.exists_latest fun hs =>
          hmissing (Or.inr (congrArg Prod.snd hs))
        exact ⟨elements, hp, (walk_ok_iff resumeAttribute_ok_iff).1 ⟨s, hw⟩,
          ⟨e, he, congrArg Prod.fst hsts⟩, e', he', congrArg Prod.fst htime⟩
  · rintro ⟨elements, hp, hacc, ⟨e, he, rfl⟩, e', he', rfl⟩
    obtain ⟨s, hw⟩ := (walk_ok_iff resumeAttribute_ok_iff).2 hacc
    obtain ⟨hsts, hsts'⟩ := Prod.mk.inj ((resumeWritten_of_walk hw).sts.1 e he)
    obtain ⟨htime, htime'⟩ := Prod.mk.inj ((resumeWritten_of_walk hw).time.1 e' he')
    rw [parseResumeResponse, hp]
    dsimp only
    rw [hw]
    dsimp only
    rw [hsts, hsts', htime, htime']
    rfl

/-! ### The attributes of a message -/

/-- The value of the last attribute with the tag. -/
def valueOf (message : List UInt8) (tag : AttributeTag) : Option (List UInt8) :=
  match parseTlvStream message with
  | .ok elements => (latest (tagged tag) elements).map TlvElement.value
  | .error _ => none

/-- `valueOf` is the value of the last attribute with the tag. -/
theorem valueOf_eq {message : List UInt8} {elements : List TlvElement}
    (h : parseTlvStream message = .ok elements) (tag : AttributeTag) :
    valueOf message tag = (latest (tagged tag) elements).map TlvElement.value := by
  rw [valueOf, h]

/-- `valueOf` is missing when there is no attribute with the tag. -/
theorem valueOf_eq_none {message : List UInt8} {elements : List TlvElement}
    (h : parseTlvStream message = .ok elements) {tag : AttributeTag} :
    valueOf message tag = none ↔ latest (tagged tag) elements = none := by
  rw [valueOf_eq h, Option.map_eq_none_iff]

/-- The attributes of M3. -/
def m3Elements (params : RangingSessionParameters) (localCaps : DeviceCapabilities) :
    List TlvElement :=
  [⟨.ranMultiplier, [(params.durationMs / 96).toUInt8]⟩,
    ⟨.chapsPerSlot, [(params.slotDurationRstu / 400).toUInt8]⟩,
    ⟨.numResponders, [localCaps.responderCount]⟩, ⟨.slotsPerRound, [params.slotsPerRound]⟩,
    ⟨.syncCodeIndexBitmask, writeBe32 localCaps.syncCodeBitmask⟩,
    ⟨.hoppingConfigBitmask, [params.hoppingConfigBitmask]⟩, ⟨.macMode, [localCaps.macMode]⟩]

/-- M3 carries its attributes. -/
theorem parseTlvStream_buildM3 {params : RangingSessionParameters}
    {localCaps : DeviceCapabilities} {m3 : List UInt8} (h : buildM3 params localCaps = .ok m3) :
    parseTlvStream m3 = .ok (m3Elements params localCaps) := by
  obtain rfl := Except.ok.inj h
  have hw : TlvWriter.Holds _ .uwbRangingService .rangingSetupM3 (m3Elements params localCaps) :=
    ((((((TlvWriter.holds_new.addU8 _ _).addU8 _ _).addU8 _ _).addU8 _ _).addU32 _ _).addU8
      _ _).addU8 _ _
  exact hw.parseTlvStream_finalize (by simp [m3Elements, TlvElement.Fits]) (by simp [m3Elements])

end Protocol
end AliroUwb
