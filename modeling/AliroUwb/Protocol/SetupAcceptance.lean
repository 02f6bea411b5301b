/-
# What the setup parsers accept

`parseM2`, `parseM4` and `parseResumeResponse` go through the attributes of a
message and take those they know, in any order and number.  On success each of
these has its exact size, and what it determines depends on the message and the
capabilities alone (`acceptsSetup`).  A resume response must have both its STS
index and its time.

The parsers do not look at the category and type of the message: their caller
knows what it has sent and waits for.
-/

import AliroUwb.Protocol.SetupCodecLaws

namespace AliroUwb
namespace Protocol

open LastWriter

/-- The message is a row of attributes, and those of the given tags have the
given sizes. -/
def WellSized (sizes : List (AttributeTag × ℕ)) (payload : List UInt8) : Prop :=
  ∃ elements, parseTlvStream payload = .ok elements ∧ ∀ e ∈ elements, Sized sizes e

/-- The message has an attribute with the tag. -/
def Has (payload : List UInt8) (tag : AttributeTag) : Prop := valueOf payload tag ≠ none

/-- The two agree on what the attributes in M2 determine. -/
structure M2Agree (payload : List UInt8) (q q' : RangingSessionParameters) : Prop where
  uwbConfigId : Has payload .configId → q.uwbConfigId = q'.uwbConfigId
  pulseShapeCombo : Has payload .pulseShapeCombo → q.pulseShapeCombo = q'.pulseShapeCombo
  sessionId : Has payload .sessionId → q.sessionId = q'.sessionId
  channel : Has payload .channelBitmask → q.channel = q'.channel
  durationMs : Has payload .ranMultiplier → q.durationMs = q'.durationMs
  slotDurationRstu : Has payload .slotBitmask → q.slotDurationRstu = q'.slotDurationRstu
  hopping : Has payload .hoppingConfigBitmask → q.hopping = q'.hopping
  slotsPerRound : q.slotsPerRound = q'.slotsPerRound

/-- The two agree on what the attributes in M4 determine. -/
structure M4Agree (payload : List UInt8) (q q' : RangingSessionParameters) : Prop where
  stsIndex0 : Has payload .stsIndex0 → q.stsIndex0 = q'.stsIndex0
  initiationTimeUs : Has payload .uwbTime0 → q.initiationTimeUs = q'.initiationTimeUs
  hopModeKey : Has payload .hopModeKey → q.hopModeKey = q'.hopModeKey
  syncCodeIndex : Has payload .syncCodeIndex → q.syncCodeIndex = q'.syncCodeIndex

/-- What a successful `parseM2` says of the message and of what it has written. -/
structure M2Accepts (payload : List UInt8) (expectedSessionId : SessionId)
    (localCaps : DeviceCapabilities) (q : RangingSessionParameters) : Prop where
  sized : WellSized m2Sizes payload
  sessionId : Has payload .sessionId → q.sessionId = expectedSessionId
  /-- Any other parameters before the call are as good. -/
  independent : ∀ prior, ∃ q', parseM2 payload expectedSessionId localCaps prior = (.ok (), q') ∧
    M2Agree payload q q'

/-- What a successful `parseM4` says. -/
structure M4Accepts (payload : List UInt8) (q : RangingSessionParameters) : Prop where
  sized : WellSized m4Sizes payload
  independent : ∀ prior, ∃ q', parseM4 payload prior = (.ok (), q') ∧ M4Agree payload q q'

/-- What a successful `parseResumeResponse` says. -/
structure ResumeAccepts (payload : List UInt8) (sts : StsIndex) (time : UInt64) : Prop where
  sized : WellSized resumeSizes payload
  hasSts : Has payload .stsIndex0
  hasTime : Has payload .uwbTime0
  independent : ∀ sts' time', parseResumeResponse payload sts' time' = (.ok (), sts, time)

variable {payload : List UInt8} {expectedSessionId : SessionId} {localCaps : DeviceCapabilities}
  {prior prior' q q' : RangingSessionParameters}

/-! ### The parameters before the call -/

/-- A message has an attribute if there is a latest one with its tag. -/
theorem has_iff {elements : List TlvElement} (h : parseTlvStream payload = .ok elements)
    {tag : AttributeTag} : Has payload tag ↔ latest (tagged tag) elements ≠ none :=
  not_congr (valueOf_eq_none h)

/-- Two runs on one message write the same wherever the message says what. -/
theorem m2Agree_of_parseM2 (h : parseM2 payload expectedSessionId localCaps prior = (.ok (), q))
    (h' : parseM2 payload expectedSessionId localCaps prior' = (.ok (), q')) :
    M2Agree payload q q' := by
  obtain ⟨elements, hp, hw⟩ := m2Written_of_parseM2 h
  obtain ⟨elements', hp', hw'⟩ := m2Written_of_parseM2 h'
  obtain rfl := Except.ok.inj (hp.symm.trans hp')
  refine ⟨fun hn => ?_, fun hn => ?_, fun hn => ?_, fun hn => ?_, fun hn => ?_, fun hn => ?_,
    fun hn => ?_, (congrArg (·.slotsPerRound) hw.rest).trans
      (congrArg (·.slotsPerRound) hw'.rest).symm⟩ <;> rw [has_iff hp] at hn
  · exact hw.uwbConfigId.unique hw'.uwbConfigId (fun _ _ _ hb hc => hb.trans hc.symm) hn
  · exact hw.pulseShapeCombo.unique hw'.pulseShapeCombo (fun _ _ _ hb hc => hb.trans hc.symm) hn
  · exact hw.sessionId.unique hw'.sessionId (fun _ _ _ hb hc => hb.trans hc.symm) hn
  · exact hw.channel.unique hw'.channel (fun _ _ _ hb hc => Except.ok.inj (hb.symm.trans hc)) hn
  · exact hw.durationMs.unique hw'.durationMs (fun _ _ _ hb hc => hb.trans hc.symm) hn
  · exact hw.slotDurationRstu.unique hw'.slotDurationRstu
      (fun _ _ _ hb hc => Except.ok.inj (hb.symm.trans hc)) hn
  · exact hw.hopping.unique hw'.hopping (fun _ _ _ hb hc => Except.ok.inj (hb.symm.trans hc)) hn

/-- The same for M4. -/
theorem m4Agree_of_parseM4 (h : parseM4 payload prior = (.ok (), q))
    (h' : parseM4 payload prior' = (.ok (), q')) : M4Agree payload q q' := by
  obtain ⟨elements, hp, hw⟩ := m4Written_of_parseM4 h
  obtain ⟨elements', hp', hw'⟩ := m4Written_of_parseM4 h'
  obtain rfl := Except.ok.inj (hp.symm.trans hp')
  refine ⟨fun hn => ?_, fun hn => ?_, fun hn => ?_, fun hn => ?_⟩ <;> rw [has_iff hp] at hn
  · exact hw.stsIndex0.unique hw'.stsIndex0 (fun _ _ _ hb hc => hb.trans hc.symm) hn
  · exact hw.initiationTimeUs.unique hw'.initiationTimeUs (fun _ _ _ hb hc => hb.trans hc.symm) hn
  · exact hw.hopModeKey.unique hw'.hopModeKey (fun _ _ _ hb hc => hb.trans hc.symm) hn
  · exact hw.syncCodeIndex.unique hw'.syncCodeIndex (fun _ _ _ hb hc => hb.trans hc.symm) hn

/-! ### The three parsers -/

/-- What `parseM2` accepts is acceptable. -/
theorem m2Accepts_of_parseM2
    (h : parseM2 payload expectedSessionId localCaps prior = (.ok (), q)) :
    M2Accepts payload expectedSessionId localCaps q := by
  obtain ⟨elements, hp, hw⟩ := m2Written_of_parseM2 h
  have hacc := (parseM2_ok_iff hp).1 ⟨q, h⟩
  refine ⟨⟨elements, hp, fun e he => (hacc e he).size⟩, fun hs => ?_, fun prior' => ?_⟩
  · rw [has_iff hp, Option.ne_none_iff_exists'] at hs
    obtain ⟨e, he⟩ := hs
    exact hw.sessionId.1 e he
  · obtain ⟨q', h'⟩ := (parseM2_ok_iff hp).2 hacc
    exact ⟨q', h', m2Agree_of_parseM2 h h'⟩

/-- What `parseM4` accepts is acceptable. -/
theorem m4Accepts_of_parseM4 (h : parseM4 payload prior = (.ok (), q)) : M4Accepts payload q := by
  obtain ⟨elements, hp, -⟩ := m4Written_of_parseM4 h
  have hacc := (parseM4_ok_iff hp).1 ⟨q, h⟩
  refine ⟨⟨elements, hp, hacc⟩, fun prior' => ?_⟩
  obtain ⟨q', h'⟩ := (parseM4_ok_iff hp).2 hacc
  exact ⟨q', h', m4Agree_of_parseM4 h h'⟩

/-- What `parseResumeResponse` accepts is acceptable. -/
theorem resumeAccepts_of_parseResumeResponse {sts sts' : StsIndex} {time time' : UInt64}
    (h : parseResumeResponse payload sts time = (.ok (), sts', time')) :
    ResumeAccepts payload sts' time' := by
  obtain ⟨elements, hp, hacc, ⟨e, he, hsts⟩, e', he', htime⟩ := parseResumeResponse_ok_iff.1 h
  refine ⟨⟨elements, hp, fun e he => (hacc e he).size⟩, ?_, ?_, fun _ _ => ?_⟩
  · exact (has_iff hp).2 (Option.ne_none_iff_exists'.2 ⟨e, he⟩)
  · exact (has_iff hp).2 (Option.ne_none_iff_exists'.2 ⟨e', he'⟩)
  · exact parseResumeResponse_ok_iff.2 ⟨elements, hp, hacc, ⟨e, he, hsts⟩, e', he', htime⟩

/-- **What success of a setup parser says.**  The attributes it knows have their
exact sizes, and what they determine does not depend on what the output
parameters held before; a session id is the expected one, and a resume response
has both of its values.  The category and the type of the message are not looked
at. -/
theorem acceptsSetup :
    (∀ payload expectedSessionId localCaps prior q,
      parseM2 payload expectedSessionId localCaps prior = (.ok (), q) →
        M2Accepts payload expectedSessionId localCaps q) ∧
    (∀ payload prior q, parseM4 payload prior = (.ok (), q) → M4Accepts payload q) ∧
    (∀ payload sts time sts' time',
      parseResumeResponse payload sts time = (.ok (), sts', time') →
        ResumeAccepts payload sts' time') ∧
    ∀ (c t c' t' : UInt8) (rest : List UInt8),
      parseM2 (c :: t :: rest) = parseM2 (c' :: t' :: rest) ∧
      parseM4 (c :: t :: rest) = parseM4 (c' :: t' :: rest) ∧
      parseResumeResponse (c :: t :: rest) = parseResumeResponse (c' :: t' :: rest) := by
  refine ⟨fun _ _ _ _ _ h => m2Accepts_of_parseM2 h, fun _ _ _ h => m4Accepts_of_parseM4 h,
    fun _ _ _ _ _ h => resumeAccepts_of_parseResumeResponse h, fun c t c' t' rest => ?_⟩
  have hheader := parseTlvStream_header c t c' t' rest
  refine ⟨?_, ?_, ?_⟩
  · funext expectedSessionId localCaps outParams
    rw [parseM2, hheader, parseM2]
  · funext inOutParams
    rw [parseM4, hheader, parseM4]
  · funext sts time
    rw [parseResumeResponse, hheader, parseResumeResponse]

/-- Each of the parsers of `acceptsSetup` succeeds on some message. -/
theorem acceptsSetup_sample :
    M2Accepts [0x01, 0x01, 0x00, 0x06, 0x02, 4, 0x00, 0x00, 0x00, 0x07] 7 {} { sessionId := 7 } ∧
      M4Accepts [0x01, 0x03, 0x00, 0x03, 0x07, 1, 0x09] { syncCodeIndex := 9 } ∧
      ResumeAccepts [0x01, 0x07, 0x00, 0x10, 0x0C, 4, 0x00, 0x00, 0x00, 0x09, 0x0D, 8, 0x00, 0x00,
        0x00, 0x00, 0x00, 0x00, 0x00, 0x01] 9 1 := by
  refine ⟨acceptsSetup.1 _ _ _ {} _ ?_, acceptsSetup.2.1 _ {} _ ?_,
    acceptsSetup.2.2.1 _ 0 0 _ _ ?_⟩
  · decide
  · decide
  · decide

/-- **An empty message of another type is accepted as M2**, and leaves the session
id of an earlier negotiation. -/
theorem parseM2_accepts_empty :
    parseM2 [0x02, 0x01, 0x00, 0x00] 7 {} { sessionId := 5 } = (.ok (), { sessionId := 5 }) := by
  decide

end Protocol
end AliroUwb
