/-
# What the setup parsers leave on failure

The parsers write into the parameters they are given, one attribute after the
other, and stop at the first attribute they refuse.  Nothing is taken back: what
the attributes before it determine stays written, and nothing else is
(`LeavesOnFailure`).  A message that is not a row of attributes is refused before
anything is written; `parseM2` then sets the number of slots before its first
attribute, and `parseResumeResponse` misses an attribute only after its last.
-/

import AliroUwb.Protocol.SetupAcceptance

namespace AliroUwb
namespace Protocol

open LastWriter

/-- What a parser that accepts the attributes `ok` leaves of `prior` when it fails
at an attribute or before: `prior` itself, or what it is after the attributes
before the refused one. -/
inductive LeavesOnFailure {σ : Type} (payload : List UInt8) (ok : TlvElement → Prop)
    (after : List TlvElement → σ → Prop) (prior : σ) : σ → Prop
  | malformed {e : StatusCode} (h : parseTlvStream payload = .error e) :
    LeavesOnFailure payload ok after prior prior
  | refused {elements taken : List TlvElement} {q : σ} (hp : parseTlvStream payload = .ok elements)
    (hstops : StopsAfter ok elements taken) (hafter : after taken q) :
    LeavesOnFailure payload ok after prior q

/-- The two values of a resume response after its attributes. -/
structure ResumeTaken (elements : List TlvElement) (sts : StsIndex) (time : UInt64)
    (q : StsIndex × UInt64) : Prop where
  sts : Written (tagged .stsIndex0) (fun e v => v = readBe32 e.value 0) elements sts q.1
  time : Written (tagged .uwbTime0) (fun e v => v = readBe64 e.value 0) elements time q.2

variable {payload : List UInt8} {expectedSessionId : SessionId} {localCaps : DeviceCapabilities}
  {prior q q' : RangingSessionParameters} {elements : List TlvElement}

/-! ### What has been written -/

/-- The attributes of M2 and what was there before determine the parameters. -/
theorem M2Written.unique (h : M2Written expectedSessionId localCaps elements prior q)
    (h' : M2Written expectedSessionId localCaps elements prior q') : q = q' := by
  have huwbConfigId := h.uwbConfigId.right_unique h'.uwbConfigId fun _ _ _ hb hc => hb.trans hc.symm
  have hpulse := h.pulseShapeCombo.right_unique h'.pulseShapeCombo fun _ _ _ hb hc =>
    hb.trans hc.symm
  have hsession := h.sessionId.right_unique h'.sessionId fun _ _ _ hb hc => hb.trans hc.symm
  have hchannel := h.channel.right_unique h'.channel fun _ _ _ hb hc =>
    Except.ok.inj (hb.symm.trans hc)
  have hduration := h.durationMs.right_unique h'.durationMs fun _ _ _ hb hc => hb.trans hc.symm
  have hslot := h.slotDurationRstu.right_unique h'.slotDurationRstu fun _ _ _ hb hc =>
    Except.ok.inj (hb.symm.trans hc)
  have hhopping := h.hopping.right_unique h'.hopping fun _ _ _ hb hc =>
    Except.ok.inj (hb.symm.trans hc)
  have hrest := h.rest.trans h'.rest.symm
  cases q
  cases q'
  simp_all [m2Rest, RangingSessionParameters.hopping]

/-- The attributes of M4 and what was there before determine the parameters. -/
theorem M4Written.unique (h : M4Written elements prior q) (h' : M4Written elements prior q') :
    q = q' := by
  have hsts := h.stsIndex0.right_unique h'.stsIndex0 fun _ _ _ hb hc => hb.trans hc.symm
  have htime := h.initiationTimeUs.right_unique h'.initiationTimeUs fun _ _ _ hb hc =>
    hb.trans hc.symm
  have hkey := h.hopModeKey.right_unique h'.hopModeKey fun _ _ _ hb hc => hb.trans hc.symm
  have hsync := h.syncCodeIndex.right_unique h'.syncCodeIndex fun _ _ _ hb hc => hb.trans hc.symm
  have hrest := h.rest.trans h'.rest.symm
  cases q
  cases q'
  simp_all [m4Rest]

/-- The attributes of a resume response and what was there before determine its two values. -/
theorem ResumeTaken.unique {sts : StsIndex} {time : UInt64} {q q' : StsIndex × UInt64}
    (h : ResumeTaken elements sts time q) (h' : ResumeTaken elements sts time q') : q = q' :=
  Prod.ext (h.sts.right_unique h'.sts fun _ _ _ hb hc => hb.trans hc.symm)
    (h.time.right_unique h'.time fun _ _ _ hb hc => hb.trans hc.symm)

/-- The two values are those that the loop of `parseResumeResponse` has written. -/
theorem ResumeWritten.taken {s t : ResumeState} (h : ResumeWritten elements s t) :
    ResumeTaken elements s.outStsIndex0 s.outTime0Us (t.outStsIndex0, t.outTime0Us) :=
  ⟨h.sts.map Prod.fst fun _ _ hv => congrArg Prod.fst hv,
    h.time.map Prod.fst fun _ _ hv => congrArg Prod.fst hv⟩

/-! ### The three parsers -/

/-- A parser fails on what is no row of attributes, or in its loop. -/
theorem failure_cases {σ : Type} {out q : σ} {loop : List TlvElement → Except StatusCode Unit × σ} :
    (∃ e, (match parseTlvStream payload with
      | .error e => (.error e, out)
      | .ok elements => loop elements) = (.error e, q)) ↔
      (∃ e, parseTlvStream payload = .error e ∧ q = out) ∨
        ∃ elements, parseTlvStream payload = .ok elements ∧ ∃ e, loop elements = (.error e, q) := by
  cases hp : parseTlvStream payload with
  | error e => simp [eq_comm]
  | ok elements => simp

/-- A parser whose loop leaves what the attributes before the refused one make. -/
theorem leavesOnFailure_iff {σ : Type} {out q : σ} {ok : TlvElement → Prop}
    {after : List TlvElement → σ → Prop} {loop : List TlvElement → Except StatusCode Unit × σ}
    (h : ∀ elements, (∃ e, loop elements = (.error e, q)) ↔
      ∃ taken, StopsAfter ok elements taken ∧ after taken q) :
    (∃ e, (match parseTlvStream payload with
      | .error e => (.error e, out)
      | .ok elements => loop elements) = (.error e, q)) ↔
      LeavesOnFailure payload ok after out q := by
  rw [failure_cases]
  constructor
  · rintro (⟨e, hp, rfl⟩ | ⟨elements, hp, herror⟩)
    · exact .malformed hp
    · obtain ⟨taken, hstops, hafter⟩ := (h elements).1 herror
      exact .refused hp hstops hafter
  · rintro (hp | ⟨hp, hstops, hafter⟩)
    · exact Or.inl ⟨_, hp, rfl⟩
    · exact Or.inr ⟨_, hp, (h _).2 ⟨_, hstops, hafter⟩⟩

/-- A loop that goes through what it accepts and whose record it determines. -/
theorem walk_error_iff_after {σ : Type} {body : σ → TlvElement → Except StatusCode σ}
    {ok : TlvElement → Prop} {after : List TlvElement → σ → Prop} {s q : σ}
    (hok : ∀ s a, (∃ s', body s a = .ok s') ↔ ok a)
    (hafter : ∀ {l t}, walk body s l = (.ok (), t) → after l t)
    (hunique : ∀ {l t t'}, after l t → after l t' → t = t') (elements : List TlvElement) :
    (∃ e, walk body s elements = (.error e, q)) ↔
      ∃ taken, StopsAfter ok elements taken ∧ after taken q := by
  rw [walk_error_iff hok]
  refine exists_congr fun taken => and_congr_right fun hstops => ⟨hafter, fun h => ?_⟩
  obtain ⟨a, rest, -, htaken, -⟩ := hstops
  obtain ⟨t, ht⟩ := (walk_ok_iff hok (s := s)).2 htaken
  rwa [hunique h (hafter ht)]

/-- **What `parseM2` leaves on failure.** -/
theorem parseM2_error_iff :
    (∃ e, parseM2 payload expectedSessionId localCaps prior = (.error e, q)) ↔
      LeavesOnFailure payload (M2Acceptable expectedSessionId localCaps)
        (M2Written expectedSessionId localCaps · { prior with slotsPerRound := 12 }) prior q :=
  leavesOnFailure_iff (walk_error_iff_after m2Attribute_ok_iff m2Written_of_walk M2Written.unique)

/-- **What `parseM4` leaves on failure.** -/
theorem parseM4_error_iff :
    (∃ e, parseM4 payload prior = (.error e, q)) ↔
      LeavesOnFailure payload (Sized m4Sizes) (M4Written · prior) prior q :=
  leavesOnFailure_iff (walk_error_iff_after m4Attribute_ok_iff m4Written_of_walk M4Written.unique)

/-- A resume response whose attributes are all accepted, one of the two that it needs
not being among them. -/
structure ResumeIncomplete (payload : List UInt8) (elements : List TlvElement) : Prop where
  parsed : parseTlvStream payload = .ok elements
  accepted : ∀ e ∈ elements, ResumeAcceptable e
  missing : ¬ (Has payload .stsIndex0 ∧ Has payload .uwbTime0)

section

variable {sts : StsIndex} {time : UInt64}

/-- The flags say which attributes there were. -/
theorem ResumeWritten.missing_iff {t : ResumeState}
    (hp : parseTlvStream payload = .ok elements)
    (h : ResumeWritten elements { outStsIndex0 := sts, outTime0Us := time } t) :
    t.haveSts = false ∨ t.haveTime = false ↔
      ¬ (Has payload .stsIndex0 ∧ Has payload .uwbTime0) := by
  have hsts : t.haveSts = false ↔ ¬ Has payload .stsIndex0 := by
    rw [has_iff hp, not_not]
    cases hl : latest (tagged .stsIndex0) elements with
    | none => simpa [ResumeState.sts] using congrArg Prod.snd (h.sts.2 hl)
    | some a => simpa [ResumeState.sts] using congrArg Prod.snd (h.sts.1 a hl)
  have htime : t.haveTime = false ↔ ¬ Has payload .uwbTime0 := by
    rw [has_iff hp, not_not]
    cases hl : latest (tagged .uwbTime0) elements with
    | none => simpa [ResumeState.time] using congrArg Prod.snd (h.time.2 hl)
    | some a => simpa [ResumeState.time] using congrArg Prod.snd (h.time.1 a hl)
  rw [hsts, htime, not_and_or]

/-- **What `parseResumeResponse` leaves on failure.** -/
theorem parseResumeResponse_error_iff {q : StsIndex × UInt64} :
    (∃ e, parseResumeResponse payload sts time = (.error e, q)) ↔
      LeavesOnFailure payload ResumeAcceptable (ResumeTaken · sts time) (sts, time) q ∨
        ∃ elements, ResumeIncomplete payload elements ∧ ResumeTaken elements sts time q := by
  refine Iff.trans failure_cases ?_
  constructor
  · rintro (⟨e, hp, rfl⟩ | ⟨elements, hp, e, h⟩)
    · exact Or.inl (.malformed hp)
    cases hw : walk resumeAttribute { outStsIndex0 := sts, outTime0Us := time } elements with
    | mk result s =>
      rw [hw] at h
      cases result with
      | error e' =>
        obtain rfl : (s.outStsIndex0, s.outTime0Us) = q := congrArg Prod.snd h
        obtain ⟨taken, hstops, hdone⟩ := (walk_error_iff resumeAttribute_ok_iff).1 ⟨e', hw⟩
        exact Or.inl (.refused hp hstops (resumeWritten_of_walk hdone).taken)
      | ok =>
        obtain ⟨hresult, rfl⟩ : _ ∧ (s.outStsIndex0, s.outTime0Us) = q := Prod.mk.inj h
        split_ifs at hresult with hmissing
        have hwritten := resumeWritten_of_walk hw
        exact Or.inr ⟨elements, ⟨hp, (walk_ok_iff resumeAttribute_ok_iff).1 ⟨s, hw⟩,
          (hwritten.missing_iff hp).1 hmissing⟩, hwritten.taken⟩
  · rintro ((hp | ⟨hp, hstops, htaken⟩) | ⟨elements, ⟨hp, hacc, hmissing⟩, htaken⟩)
    · exact Or.inl ⟨_, hp, rfl⟩
    · obtain ⟨-, -, -, hacc, -⟩ := id hstops
      obtain ⟨s, hdone⟩ := (walk_ok_iff resumeAttribute_ok_iff).2 hacc
      obtain ⟨e, hw⟩ := (walk_error_iff resumeAttribute_ok_iff).2 ⟨_, hstops, hdone⟩
      refine Or.inr ⟨_, hp, e, ?_⟩
      rw [hw, htaken.unique (resumeWritten_of_walk hdone).taken]
    · obtain ⟨s, hw⟩ := (walk_ok_iff resumeAttribute_ok_iff).2 hacc
      have hwritten := resumeWritten_of_walk hw
      refine Or.inr ⟨_, hp, .malformedFrame, ?_⟩
      rw [hw, htaken.unique hwritten.taken]
      dsimp only
      rw [if_pos ((hwritten.missing_iff hp).2 hmissing)]

end

/-- **What a failed setup parser leaves.**  A message that is no row of attributes
changes nothing.  Any other failure leaves what the attributes before the first
refused one determine, over what was there before the call; `parseM2` has set
twelve slots as well, and `parseResumeResponse` fails behind its last attribute
when one of its two values is missing.  So a failure leaves the parameters
exactly as they were when what has been written was there already. -/
theorem failed_setup_leaves :
    (∀ payload expectedSessionId localCaps prior q,
      (∃ e, parseM2 payload expectedSessionId localCaps prior = (.error e, q)) ↔
        LeavesOnFailure payload (M2Acceptable expectedSessionId localCaps)
          (M2Written expectedSessionId localCaps · { prior with slotsPerRound := 12 }) prior q) ∧
    (∀ payload prior q,
      (∃ e, parseM4 payload prior = (.error e, q)) ↔
        LeavesOnFailure payload (Sized m4Sizes) (M4Written · prior) prior q) ∧
    ∀ payload sts time q,
      (∃ e, parseResumeResponse payload sts time = (.error e, q)) ↔
        LeavesOnFailure payload ResumeAcceptable (ResumeTaken · sts time) (sts, time) q ∨
          ∃ elements, ResumeIncomplete payload elements ∧ ResumeTaken elements sts time q :=
  ⟨fun _ _ _ _ _ => parseM2_error_iff, fun _ _ _ => parseM4_error_iff,
    fun _ _ _ _ => parseResumeResponse_error_iff⟩

/-- **Failures that leave what they wrote**: an M2 with a multiplier and then another
session's id, an M4 with an STS index and then two synchronisation codes in one
attribute, and a resume response without a time. -/
theorem failed_setup_not_atomic :
    parseM2 [0x01, 0x01, 0x00, 0x09, 0x04, 1, 5, 0x02, 4, 0x00, 0x00, 0x00, 0x08] 7 {} {} =
        (.error .invalidParameter, { durationMs := 480 }) ∧
      parseM4 [0x01, 0x03, 0x00, 0x0A, 0x0C, 4, 0x00, 0x00, 0x00, 0x09, 0x07, 2, 9, 10] {} =
        (.error .malformedFrame, { stsIndex0 := 9 }) ∧
      parseResumeResponse [0x01, 0x07, 0x00, 0x06, 0x0C, 4, 0x00, 0x00, 0x00, 0x09] 1 1 =
        (.error .malformedFrame, 9, 1) := by
  refine ⟨?_, ?_, ?_⟩ <;> decide

end Protocol
end AliroUwb
