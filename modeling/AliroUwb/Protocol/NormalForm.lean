/-
# What a setup message says

The parsers take the attributes of a message in any order, with others in between and with
some repeated.  What they make of it depends on less: the last attribute of each tag that
they know, as long as the others of these tags are accepted too.

So the attributes of different tags can be interleaved in any way, and those of other tags
be left out or put in (`SameByTag`); and a message that is accepted can be replaced by its
`normalForm`, the last attribute of each known tag in the order of the tags (`setup_readsBy`).
-/

import AliroUwb.Protocol.SetupFailure
import AliroUwb.Protocol.SetupMessages
import Mathlib.Data.List.Flatten
import Mathlib.Data.List.Perm.Subperm

namespace AliroUwb
namespace Protocol

open LastWriter

/-- The tags that `parseM2` knows. -/
def m2Tags : List AttributeTag := m2Sizes.map Prod.fst

/-- The tags that `parseM4` knows. -/
def m4Tags : List AttributeTag := m4Sizes.map Prod.fst

/-- The tags that `parseResumeResponse` knows. -/
def resumeTags : List AttributeTag := resumeSizes.map Prod.fst

/-- To a reader of the tags, `elements'` says no more than `elements`, and the same in the
end. -/
structure Restates (tags : List AttributeTag) (elements elements' : List TlvElement) : Prop where
  known : ∀ e ∈ elements', e.tag ∈ tags → e ∈ elements
  last : ∀ tag ∈ tags, latest (tagged tag) elements' = latest (tagged tag) elements

/-- The messages have the same attributes of each of the tags, in the same order. -/
def SameByTag (tags : List AttributeTag) (message message' : List UInt8) : Prop :=
  ∃ elements elements', parseTlvStream message = .ok elements ∧
    parseTlvStream message' = .ok elements' ∧
    ∀ tag ∈ tags, elements.filter (tagged tag) = elements'.filter (tagged tag)

/-- The message that a writer makes of the attributes. -/
def written (cat : ProtocolCategory) (msgType : MessageType) (elements : List TlvElement) :
    TlvWriter :=
  elements.foldl (fun w e => w.addBytes e.tag e.value) (TlvWriter.new cat msgType)

/-- The message with the last attribute of each of the tags only, in their order. -/
def normalForm (tags : List AttributeTag) (message : List UInt8) : List UInt8 :=
  match parseTlvStream message with
  | .ok elements =>
    (written ⟨byteAt message 0⟩ ⟨byteAt message 1⟩ (lasts tags TlvElement.tag elements)).finalize
  | .error _ => message

/-- Whether a message is accepted, and with which result, depends on what it says about
the tags. -/
structure ReadsBy (tags : List AttributeTag) (Accepts : List UInt8 → Prop) : Prop where
  interleaving : ∀ message message', SameByTag tags message message' →
    (Accepts message ↔ Accepts message')
  normalForm : ∀ message, Accepts message → Accepts (normalForm tags message)

/-! ### The normal form -/

/-- Messages with the same attributes of each tag restate each other. -/
theorem restates_of_filter {tags : List AttributeTag} {elements elements' : List TlvElement}
    (h : ∀ tag ∈ tags, elements.filter (tagged tag) = elements'.filter (tagged tag)) :
    Restates tags elements elements' := by
  constructor
  · intro e he htag
    have hmem : e ∈ elements'.filter (tagged e.tag) :=
      List.mem_filter.2 ⟨he, tagged_eq_true.2 rfl⟩
    rw [← h e.tag htag] at hmem
    exact (List.mem_filter.1 hmem).1
  · intro tag htag
    rw [latest_eq_getLast?, latest_eq_getLast?, h tag htag]

/-- The last attributes restate all of them. -/
theorem restates_lasts {tags : List AttributeTag} (h : tags.Nodup) (elements : List TlvElement) :
    Restates tags elements (lasts tags TlvElement.tag elements) :=
  ⟨fun _ he _ => (mem_of_mem_lasts he).1, fun _ htag => latest_lasts h elements htag⟩

/-- The writer holds what has been written. -/
theorem holds_written (cat : ProtocolCategory) (msgType : MessageType)
    (elements : List TlvElement) : (written cat msgType elements).Holds cat msgType elements := by
  have hfold (w : TlvWriter) (before : List TlvElement) (h : w.Holds cat msgType before) :
      (elements.foldl (fun w e => w.addBytes e.tag e.value) w).Holds cat msgType
        (before ++ elements) := by
    induction elements generalizing w before with
    | nil => rw [List.append_nil]; exact h
    | cons e elements ih =>
      rw [← List.singleton_append, ← List.append_assoc]
      exact ih _ _ (h.addBytes e.tag e.value)
  exact hfold _ [] TlvWriter.holds_new

/-- Fewer attributes take no more bytes. -/
theorem length_serialise_le_of_subperm {elements elements' : List TlvElement}
    (h : elements'.Subperm elements) :
    (serialise elements').length ≤ (serialise elements).length := by
  obtain ⟨l, hperm, hsub⟩ := h
  have hlength : (serialise l).length = (serialise elements').length :=
    (hperm.flatMap_right TlvElement.bytes).length_eq
  rw [← hlength]
  exact (hsub.flatMap TlvElement.bytes).length_le

/-- **The normal form is a message of the same kind**, and holds what it should. -/
theorem parseTlvStream_normalForm {tags : List AttributeTag} (htags : tags.Nodup)
    {message : List UInt8} {elements : List TlvElement}
    (h : parseTlvStream message = .ok elements) :
    parseTlvStream (normalForm tags message) = .ok (lasts tags TlvElement.tag elements) := by
  obtain ⟨⟨hlong, hdeclared⟩, hfits, hserialise⟩ := parseTlvStream_ok_iff.1 h
  have hsub : (lasts tags TlvElement.tag elements).Subperm elements :=
    List.subperm_of_subset (nodup_lasts htags elements) fun e he => (mem_of_mem_lasts he).1
  have hlength := length_serialise_le_of_subperm hsub
  have hpayload : (serialise elements).length ≤ payloadLen message := by
    rw [hserialise, payload]
    exact List.length_take_le ..
  have hlt : payloadLen message < 2 ^ 16 := (readBe16 message 2).toNat_lt
  rw [normalForm, h]
  exact (holds_written ..).parseTlvStream_finalize
    (fun e he => hfits e (mem_of_mem_lasts he).1) (by omega)

/-- **A reader that accepts what is restated** reads by the tags. -/
theorem readsBy_of_restates {tags : List AttributeTag} (htags : tags.Nodup)
    {Accepts : List UInt8 → Prop}
    (hparsed : ∀ message, Accepts message → ∃ elements, parseTlvStream message = .ok elements)
    (h : ∀ message message' elements elements', parseTlvStream message = .ok elements →
      parseTlvStream message' = .ok elements' → Restates tags elements elements' →
        Accepts message → Accepts message') : ReadsBy tags Accepts := by
  constructor
  · rintro message message' ⟨elements, elements', hp, hp', hsame⟩
    exact ⟨h _ _ _ _ hp hp' (restates_of_filter hsame),
      h _ _ _ _ hp' hp (restates_of_filter fun tag htag => (hsame tag htag).symm)⟩
  · intro message hacc
    obtain ⟨elements, hp⟩ := hparsed message hacc
    exact h _ _ _ _ hp (parseTlvStream_normalForm htags hp) (restates_lasts htags elements) hacc

/-! ### The parsers -/

variable {message message' : List UInt8} {elements elements' : List TlvElement}

/-- An attribute with an unknown tag may have any size. -/
theorem sized_of_not_mem {sizes : List (AttributeTag × ℕ)} {e : TlvElement}
    (h : e.tag ∉ sizes.map Prod.fst) : Sized sizes e :=
  fun p hp htag => absurd (List.mem_map.2 ⟨p, hp, htag.symm⟩) h

/-- An attribute that `parseM2` does not know is accepted. -/
theorem m2Acceptable_of_not_mem {expectedSessionId : SessionId} {localCaps : DeviceCapabilities}
    {e : TlvElement} (h : e.tag ∉ m2Tags) : M2Acceptable expectedSessionId localCaps e := by
  have hother {tag : AttributeTag} (htag : tag ∈ m2Tags) : e.tag ≠ tag := fun heq => h (heq ▸ htag)
  exact ⟨sized_of_not_mem h, fun htag => absurd htag (hother (by decide)),
    fun htag => absurd htag (hother (by decide)), fun htag => absurd htag (hother (by decide)),
    fun htag => absurd htag (hother (by decide))⟩

/-- An attribute that `parseResumeResponse` does not know is accepted. -/
theorem resumeAcceptable_of_not_mem {e : TlvElement} (h : e.tag ∉ resumeTags) :
    ResumeAcceptable e :=
  ⟨sized_of_not_mem h, fun htag => absurd (htag ▸ by decide) h⟩

/-- What all attributes that are known satisfy, and those that are not. -/
theorem Restates.forall {tags : List AttributeTag} (hr : Restates tags elements elements')
    {p : TlvElement → Prop} (h : ∀ e ∈ elements, p e) (hunknown : ∀ e, e.tag ∉ tags → p e) :
    ∀ e ∈ elements', p e := by
  intro e he
  by_cases htag : e.tag ∈ tags
  · exact h e (hr.known e he htag)
  · exact hunknown e htag

/-- **M2 restated is M2.** -/
theorem parseM2_of_restates {expectedSessionId : SessionId} {localCaps : DeviceCapabilities}
    {prior q : RangingSessionParameters} (hp : parseTlvStream message = .ok elements)
    (hp' : parseTlvStream message' = .ok elements') (hr : Restates m2Tags elements elements')
    (h : parseM2 message expectedSessionId localCaps prior = (.ok (), q)) :
    parseM2 message' expectedSessionId localCaps prior = (.ok (), q) := by
  obtain ⟨q', h'⟩ : ∃ q', parseM2 message' expectedSessionId localCaps prior = (.ok (), q') :=
    (parseM2_ok_iff hp').2
      (hr.forall ((parseM2_ok_iff hp).1 ⟨q, h⟩) fun _ => m2Acceptable_of_not_mem)
  obtain ⟨_, hp₁, hw⟩ := m2Written_of_parseM2 h
  obtain rfl := Except.ok.inj (hp.symm.trans hp₁)
  obtain ⟨_, hp₂, hw'⟩ := m2Written_of_parseM2 h'
  obtain rfl := Except.ok.inj (hp'.symm.trans hp₂)
  have hlast {tag : AttributeTag} (htag : tag ∈ m2Tags) := hr.last tag htag
  rw [h', hw'.unique ⟨hw.uwbConfigId.congr (hlast (by decide)),
    hw.pulseShapeCombo.congr (hlast (by decide)), hw.sessionId.congr (hlast (by decide)),
    hw.channel.congr (hlast (by decide)), hw.durationMs.congr (hlast (by decide)),
    hw.slotDurationRstu.congr (hlast (by decide)), hw.hopping.congr (hlast (by decide)), hw.rest⟩]

/-- **M4 restated is M4.** -/
theorem parseM4_of_restates {prior q : RangingSessionParameters}
    (hp : parseTlvStream message = .ok elements) (hp' : parseTlvStream message' = .ok elements')
    (hr : Restates m4Tags elements elements') (h : parseM4 message prior = (.ok (), q)) :
    parseM4 message' prior = (.ok (), q) := by
  obtain ⟨q', h'⟩ : ∃ q', parseM4 message' prior = (.ok (), q') :=
    (parseM4_ok_iff hp').2 (hr.forall ((parseM4_ok_iff hp).1 ⟨q, h⟩) fun _ => sized_of_not_mem)
  obtain ⟨_, hp₁, hw⟩ := m4Written_of_parseM4 h
  obtain rfl := Except.ok.inj (hp.symm.trans hp₁)
  obtain ⟨_, hp₂, hw'⟩ := m4Written_of_parseM4 h'
  obtain rfl := Except.ok.inj (hp'.symm.trans hp₂)
  have hlast {tag : AttributeTag} (htag : tag ∈ m4Tags) := hr.last tag htag
  rw [h', hw'.unique ⟨hw.stsIndex0.congr (hlast (by decide)),
    hw.initiationTimeUs.congr (hlast (by decide)), hw.hopModeKey.congr (hlast (by decide)),
    hw.syncCodeIndex.congr (hlast (by decide)), hw.rest⟩]

/-- **A resume response restated is that resume response.** -/
theorem parseResumeResponse_of_restates {sts sts' : StsIndex} {time time' : UInt64}
    (hp : parseTlvStream message = .ok elements) (hp' : parseTlvStream message' = .ok elements')
    (hr : Restates resumeTags elements elements')
    (h : parseResumeResponse message sts time = (.ok (), sts', time')) :
    parseResumeResponse message' sts time = (.ok (), sts', time') := by
  obtain ⟨_, hp₁, hacc, ⟨e, he, hsts⟩, e', he', htime⟩ := parseResumeResponse_ok_iff.1 h
  obtain rfl := Except.ok.inj (hp.symm.trans hp₁)
  exact parseResumeResponse_ok_iff.2 ⟨elements', hp',
    hr.forall hacc fun _ => resumeAcceptable_of_not_mem,
    ⟨e, (hr.last _ (by decide)).trans he, hsts⟩, e', (hr.last _ (by decide)).trans he', htime⟩

/-- **What the setup parsers make of a message is what its attributes of the known tags
say**: they can be interleaved in any way and others put in between, and a message that is
accepted has a normal form that is accepted with the same result. -/
theorem setup_readsBy :
    (∀ expectedSessionId localCaps prior q, ReadsBy m2Tags fun message =>
      parseM2 message expectedSessionId localCaps prior = (.ok (), q)) ∧
    (∀ prior q, ReadsBy m4Tags fun message => parseM4 message prior = (.ok (), q)) ∧
    ∀ sts time sts' time', ReadsBy resumeTags fun message =>
      parseResumeResponse message sts time = (.ok (), sts', time') := by
  refine ⟨fun expectedSessionId localCaps prior q => ?_, fun prior q => ?_,
    fun sts time sts' time' => ?_⟩
  · refine readsBy_of_restates (by decide) (fun message h => ?_)
      fun _ _ _ _ hp hp' hr => parseM2_of_restates hp hp' hr
    obtain ⟨elements, hp, -⟩ := m2Written_of_parseM2 h
    exact ⟨elements, hp⟩
  · refine readsBy_of_restates (by decide) (fun message h => ?_)
      fun _ _ _ _ hp hp' hr => parseM4_of_restates hp hp' hr
    obtain ⟨elements, hp, -⟩ := m4Written_of_parseM4 h
    exact ⟨elements, hp⟩
  · refine readsBy_of_restates (by decide) (fun message h => ?_)
      fun _ _ _ _ hp hp' hr => parseResumeResponse_of_restates hp hp' hr
    obtain ⟨elements, hp, -⟩ := parseResumeResponse_ok_iff.1 h
    exact ⟨elements, hp⟩

/-- A repeated STS index, an unknown attribute and a time, in normal form. -/
example : normalForm resumeTags [0x01, 0x07, 0x00, 0x18, 0x0C, 4, 0x00, 0x00, 0x00, 0x05,
      0x0D, 8, 0x00, 0x00, 0x00, 0x00, 0x00, 0x00, 0x00, 0x01, 0x42, 0, 0x0C, 4, 0x00, 0x00, 0x00,
      0x09] =
    [0x01, 0x07, 0x00, 0x10, 0x0C, 4, 0x00, 0x00, 0x00, 0x09, 0x0D, 8, 0x00, 0x00, 0x00, 0x00,
      0x00, 0x00, 0x00, 0x01] := by decide

end Protocol
end AliroUwb
