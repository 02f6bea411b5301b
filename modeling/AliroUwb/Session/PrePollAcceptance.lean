/-
# Which PrePolls are accepted

`RangingSession::decodePrePollFrame` decides on a frame in six checks across the
header codec, the SP0 engine and the payload codec.  Here the decision is read
off the frame alone: what `encodeHeader`, `encodePrePoll` and `encryptPayload`
would have written.

The engine decrypts into a zeroed buffer of 13 bytes and `decodePrePoll` gets the
whole buffer, not the part that was written to.  So a secured payload shorter
than a PrePoll is accepted too, the missing fields being zero
(`checkPrePollFrame_ok_iff`); for every other frame the decision is the right one
(`decodePrePollFrame_accepts_exactly_iff`).
-/

import AliroUwb.Crypto.Sp0Ccm
import AliroUwb.Protocol.FrameCodecLaws
import AliroUwb.Session.Effects
import AliroUwb.Session.System

namespace AliroUwb
namespace Session

open Stepwise Crypto Protocol Ranging Transceiver

variable {P : Platform} {s : SessionMembers} {frame : List UInt8} {mhr : MacHeader}
  {payload : List UInt8} {prePoll : PrePollPayload}

/-- The frame carries `payload` under the header `mhr`, secured under `mupsk1`
for the addresses of this session, with a frame counter above the last accepted
one. -/
structure SecuredPrePoll (P : Platform) (s : SessionMembers) (frame : List UInt8)
    (mhr : MacHeader) (payload : List UInt8) : Prop where
  messageId : mhr.messageId = .prePoll
  payloadLength : mhr.payloadLength.toNat = payload.length
  destination : matchShortAddress mhr.destinationShortAddress s.keys.addresses.destinationShort
  keySource : matchKeySource mhr.keySource s.keys.addresses.keySource
  secured : ∃ c, EncryptsTo P.crypto s.keys.mupsk1 s.keys.addresses.sourceLong mhr.frameCounter
    (encodeHeader mhr) payload c ∧ encodeHeader mhr ++ c <+: frame
  counter : s.replay.hasReceivedPrePollCounter → s.replay.lastPrePollCounter < mhr.frameCounter

/-- A PrePoll of this session, ahead of the last accepted one. -/
structure FreshPrePoll (s : SessionMembers) (prePoll : PrePollPayload) : Prop where
  sessionId : prePoll.sessionId = s.params.sessionId
  ahead : s.replay.hasPrePollStsIndex →
    0 < (prePoll.pollStsIndex - s.replay.lastPrePollStsIndex).toInt32

/-- **The frame is an authentic fresh PrePoll.** -/
def CarriesPrePoll (P : Platform) (s : SessionMembers) (frame : List UInt8)
    (prePoll : PrePollPayload) : Prop :=
  ∃ mhr, SecuredPrePoll P s frame mhr (encodePrePoll prePoll) ∧ FreshPrePoll s prePoll

/-- The frame carries a secured payload of fewer than 13 bytes that is a fresh
PrePoll once zeros fill it up. -/
def CarriesShortPrePoll (P : Platform) (s : SessionMembers) (frame : List UInt8) : Prop :=
  ∃ mhr payload prePoll, payload.length < prePollPayloadLength ∧
    SecuredPrePoll P s frame mhr payload ∧ FreshPrePoll s prePoll ∧
    encodePrePoll prePoll = payload ++ List.replicate (prePollPayloadLength - payload.length) 0

/-! ### The parts of the decision -/

/-- A frame starts with a header and a secured payload if and only if the header
decodes and the payload decrypts. -/
theorem secured_iff :
    (mhr.payloadLength.toNat = payload.length ∧
      ∃ c, EncryptsTo P.crypto s.keys.mupsk1 s.keys.addresses.sourceLong mhr.frameCounter
        (encodeHeader mhr) payload c ∧ encodeHeader mhr ++ c <+: frame) ↔
    decodeHeader frame = .ok mhr ∧
      macHeaderLength + (mhr.payloadLength.toNat + micLength) ≤ frame.length ∧
      unsecuredPayload P.crypto s.keys.mupsk1 s.keys.addresses.sourceLong mhr.frameCounter
        (frame.take macHeaderLength) (securedPart mhr frame) = some payload := by
  constructor
  · rintro ⟨hlen, c, henc, rest, rfl⟩
    have hc := encryptsTo_iff.1 henc
    have hclen : c.length = mhr.payloadLength.toNat + micLength := by
      rw [← hc, length_securedPayload, hlen]
    have hhdr := length_encodeHeader mhr
    rw [List.append_assoc, securedPart, List.take_left' hhdr, List.drop_left' hhdr,
      List.take_left' hclen, unsecuredPayload_eq_some_iff]
    refine ⟨decodeHeader_encodeHeader mhr _, ?_, hc⟩
    rw [List.length_append, List.length_append, hhdr, hclen]
    omega
  · rintro ⟨hdec, hlen, huns⟩
    have hpre := prefix_of_decodeHeader hdec
    have hhdr : frame.take macHeaderLength = encodeHeader mhr := by
      rw [List.prefix_iff_eq_take.1 hpre, length_encodeHeader]
    rw [unsecuredPayload_eq_some_iff, hhdr] at huns
    have hpart := congrArg List.length huns
    rw [length_securedPayload, securedPart, List.length_take, List.length_drop] at hpart
    refine ⟨by omega, securedPart mhr frame, encryptsTo_iff.2 huns, ?_⟩
    rw [← hhdr, securedPart, ← List.take_add]
    exact List.take_prefix _ frame

/-- Thirteen bytes decode to the PrePoll that they are the layout of. -/
theorem decodePrePoll_eq_ok_iff {plaintext : List UInt8}
    (hlen : plaintext.length = prePollPayloadLength) :
    decodePrePoll plaintext = .ok prePoll ↔ encodePrePoll prePoll = plaintext := by
  constructor
  · intro h
    exact (prefix_of_decodePrePoll h).eq_of_length (by rw [length_encodePrePoll, hlen])
  · rintro rfl
    have h := decodePrePoll_encodePrePoll prePoll []
    rwa [List.append_nil] at h

/-- What the engine leaves in the 13-byte buffer. -/
theorem decryptPayload_prePoll
    (hlen : macHeaderLength + (mhr.payloadLength.toNat + micLength) ≤ frame.length)
    (len : ℕ) (plaintext : List UInt8) :
    (decryptPayload P.crypto s.keys.mupsk1 s.keys.addresses.sourceLong mhr.frameCounter
      (frame.take macHeaderLength) (securedPart mhr frame)
      (List.replicate prePollPayloadLength 0) noFaults).1 = (.ok len, plaintext) ↔
    mhr.payloadLength.toNat ≤ prePollPayloadLength ∧ ∃ payload, payload.length = len ∧
      unsecuredPayload P.crypto s.keys.mupsk1 s.keys.addresses.sourceLong mhr.frameCounter
        (frame.take macHeaderLength) (securedPart mhr frame) = some payload ∧
      plaintext = payload ++ List.replicate (prePollPayloadLength - payload.length) 0 := by
  have hpart : (securedPart mhr frame).length = mhr.payloadLength.toNat + micLength := by
    rw [securedPart, List.length_take, List.length_drop]
    omega
  by_cases hfit : mhr.payloadLength.toNat ≤ prePollPayloadLength
  · rw [decryptPayload_noFaults _ _ _ (by omega)
      (by rw [hpart, List.length_replicate]; omega)]
    cases unsecuredPayload P.crypto s.keys.mupsk1 s.keys.addresses.sourceLong mhr.frameCounter
      (frame.take macHeaderLength) (securedPart mhr frame) with
    | none => simp
    | some m => simp [hfit, List.drop_replicate, eq_comm]
  · rw [decryptPayload_overflow (by rw [hpart, List.length_replicate]; omega)]
    constructor
    · intro h
      cases h
    · exact fun h => absurd h.1 hfit

/-- **What the checks accept:** up to 13 secured bytes that, filled up with
zeros, are a fresh PrePoll. -/
theorem checkPrePollFrame_ok_iff :
    (checkPrePollFrame P s frame noFaults).1 = .ok (mhr, prePoll) ↔
      ∃ payload, payload.length ≤ prePollPayloadLength ∧ SecuredPrePoll P s frame mhr payload ∧
        FreshPrePoll s prePoll ∧ encodePrePoll prePoll =
          payload ++ List.replicate (prePollPayloadLength - payload.length) 0 := by
  constructor
  · intro h
    have ha := acceptable_checkPrePollFrame h
    unfold checkPrePollFrame at h
    rw [ha.header] at h
    dsimp only at h
    split_ifs at h
    iterate 4 · cases h
    rw [bind_faults] at h
    rcases hdec : decryptPayload P.crypto s.keys.mupsk1 s.keys.addresses.sourceLong
      mhr.frameCounter (frame.take macHeaderLength) (securedPart mhr frame)
      (List.replicate prePollPayloadLength 0) noFaults with ⟨⟨_ | len, plaintext⟩, faults⟩
    · rw [securedPart] at hdec
      rw [hdec] at h
      cases h
    obtain ⟨hfit, payload, -, huns, rfl⟩ :=
      (decryptPayload_prePoll ha.complete len plaintext).1 (congrArg Prod.fst hdec)
    rw [securedPart] at hdec
    rw [hdec] at h
    dsimp only at h
    obtain ⟨hplen, c, hc⟩ := secured_iff.2 ⟨ha.header, ha.complete, huns⟩
    have hfull : (payload ++ List.replicate (prePollPayloadLength - payload.length) 0).length =
        prePollPayloadLength := by
      rw [List.length_append, List.length_replicate]
      omega
    cases hpp : decodePrePoll
        (payload ++ List.replicate (prePollPayloadLength - payload.length) 0) with
    | error e => rw [hpp] at h; cases h
    | ok prePoll' =>
      rw [hpp] at h
      dsimp only at h
      split_ifs at h
      iterate 2 · cases h
      obtain ⟨-, rfl⟩ := Prod.mk.inj (Except.ok.inj h)
      exact ⟨payload, by omega, ⟨ha.messageId, hplen, ha.destination, ha.keySource, ⟨c, hc⟩,
        ha.counter⟩, ⟨ha.sessionId, ha.ahead⟩, (decodePrePoll_eq_ok_iff hfull).1 hpp⟩
  · rintro ⟨payload, hle, hsec, hfresh, henc⟩
    obtain ⟨hdec, hlen, huns⟩ := secured_iff.1 ⟨hsec.payloadLength, hsec.secured⟩
    have hfit : mhr.payloadLength.toNat ≤ prePollPayloadLength := by
      rw [hsec.payloadLength]
      exact hle
    have hrun := (decryptPayload_prePoll (P := P) (s := s) hlen payload.length
      (encodePrePoll prePoll)).2 ⟨hfit, payload, rfl, huns, henc⟩
    have hctr : ¬(s.replay.hasReceivedPrePollCounter = true ∧
        mhr.frameCounter ≤ s.replay.lastPrePollCounter) :=
      fun h => UInt32.not_le.2 (hsec.counter h.1) h.2
    have hsts : ¬(s.replay.hasPrePollStsIndex = true ∧
        (prePoll.pollStsIndex - s.replay.lastPrePollStsIndex).toInt32 ≤ 0) :=
      fun h => Int32.not_le.2 (hfresh.ahead h.1) h.2
    unfold checkPrePollFrame
    rw [hdec]
    dsimp only
    rw [if_neg (not_not.2 hsec.messageId), if_neg (by simp [hsec.destination, hsec.keySource]),
      if_neg hctr, if_neg (Nat.not_lt.2 hlen), bind_faults]
    rw [securedPart] at hrun
    rw [hrun, (decodePrePoll_eq_ok_iff (length_encodePrePoll prePoll)).2 rfl]
    dsimp only
    rw [if_neg (not_not.2 hfresh.sessionId), if_neg hsts]
    rfl

/-- Without faults, `decodePrePollFrame` returns what the checks return. -/
theorem decodePrePollFrame_ok_iff (c : Ctx) (hfaults : c.faults = noFaults) :
    (decodePrePollFrame P frame c).1 = .ok prePoll ↔
      ∃ mhr payload, payload.length ≤ prePollPayloadLength ∧
        SecuredPrePoll P c.session frame mhr payload ∧ FreshPrePoll c.session prePoll ∧
        encodePrePoll prePoll =
          payload ++ List.replicate (prePollPayloadLength - payload.length) 0 := by
  simp only [← checkPrePollFrame_ok_iff]
  rw [fst_decodePrePollFrame, hfaults]
  cases checkPrePollFrame P c.session frame noFaults with
  | mk res f =>
    rcases res with e | ⟨mhr, prePoll'⟩
    · exact ⟨(nomatch ·), fun ⟨_, h⟩ => nomatch h⟩
    · constructor
      · intro h
        obtain rfl := Except.ok.inj h
        exact ⟨mhr, rfl⟩
      · rintro ⟨_, h⟩
        obtain ⟨rfl, rfl⟩ := Prod.mk.inj (Except.ok.inj h)
        rfl

/-- A frame has at most one header that it carries a payload under. -/
theorem SecuredPrePoll.header_unique {mhr' : MacHeader} {payload' : List UInt8}
    (h : SecuredPrePoll P s frame mhr payload) (h' : SecuredPrePoll P s frame mhr' payload') :
    mhr = mhr' := by
  have hdec := (secured_iff.1 ⟨h.payloadLength, h.secured⟩).1
  have hdec' := (secured_iff.1 ⟨h'.payloadLength, h'.secured⟩).1
  exact Except.ok.inj (hdec.symm.trans hdec')

/-! ### The decision -/

/-- **`decodePrePollFrame` accepts exactly the authentic fresh PrePolls, and
leaves the session unchanged otherwise, if and only if the frame does not carry a
short one.** -/
theorem decodePrePollFrame_accepts_exactly_iff (P : Platform) (frame : List UInt8) (c : Ctx)
    (hfaults : c.faults = noFaults) :
    ((∀ prePoll, (decodePrePollFrame P frame c).1 = .ok prePoll ↔
        CarriesPrePoll P c.session frame prePoll) ∧
      ∀ e, (decodePrePollFrame P frame c).1 = .error e →
        (decodePrePollFrame P frame c).2.session = c.session) ↔
    ¬ CarriesShortPrePoll P c.session frame := by
  constructor
  · rintro ⟨hiff, -⟩ ⟨mhr, payload, prePoll, hshort, hsec, hfresh, henc⟩
    have hacc := (decodePrePollFrame_ok_iff c hfaults).2
      ⟨mhr, payload, Nat.le_of_lt hshort, hsec, hfresh, henc⟩
    obtain ⟨mhr', hsec', -⟩ := (hiff prePoll).1 hacc
    obtain rfl := hsec.header_unique hsec'
    have hlen := hsec'.payloadLength
    rw [hsec.payloadLength, length_encodePrePoll] at hlen
    exact Nat.ne_of_lt hshort hlen
  · intro hnoshort
    refine ⟨fun prePoll => (decodePrePollFrame_ok_iff c hfaults).trans ⟨?_, ?_⟩, fun e he => ?_⟩
    · rintro ⟨mhr, payload, hle, hsec, hfresh, henc⟩
      rcases Nat.lt_or_eq_of_le hle with hlt | heq
      · exact absurd ⟨mhr, payload, prePoll, hlt, hsec, hfresh, henc⟩ hnoshort
      · rw [heq, Nat.sub_self, List.replicate_zero, List.append_nil] at henc
        exact ⟨mhr, henc ▸ hsec, hfresh⟩
    · rintro ⟨mhr, hsec, hfresh⟩
      refine ⟨mhr, encodePrePoll prePoll, Nat.le_of_eq (length_encodePrePoll prePoll), hsec,
        hfresh, ?_⟩
      rw [length_encodePrePoll, Nat.sub_self, List.replicate_zero, List.append_nil]
    · rcases decodePrePollFrame_cases (P := P) frame c with
        ⟨e', faults, -, -, h⟩ | ⟨mhr, prePoll, faults, -, -, h⟩
      · rw [h]
      · rw [h] at he
        cases he

/-- A PrePoll that lacks its last byte, secured as the initiator secures it. -/
def truncatedPrePoll : List UInt8 :=
  sampleFrame .prePoll 1 ((encodePrePoll { pollStsIndex := 1 }).take 12)

/-- The header of a sample frame is the one it was given. -/
theorem SecuredPrePoll.payloadLength_sampleFrame {messageId : MessageIdentifier}
    {frameCounter : FrameCounter} {plaintext : List UInt8}
    (h : SecuredPrePoll P s (sampleFrame messageId frameCounter plaintext) mhr payload) :
    (UInt8.ofNat plaintext.length).toNat = payload.length := by
  have hdec := (secured_iff.1 ⟨h.payloadLength, h.secured⟩).1
  rw [sampleFrame, List.append_assoc, decodeHeader_encodeHeader] at hdec
  have hlen := h.payloadLength
  rwa [← Except.ok.inj hdec] at hlen

/-- **A truncated PrePoll is accepted** by a session that was just started, and it
is none. -/
theorem decodePrePollFrame_accepts_truncated : ∃ tr t,
    (machine .sample).Run (System.initial {}) tr t ∧
    tr.map (·.input) = [sampleStart sampleParams {}] ∧
    (decodePrePollFrame .sample truncatedPrePoll ⟨t.session, false, noFaults, []⟩).1 =
      .ok { pollStsIndex := 1 } ∧
    ∀ prePoll, ¬ CarriesPrePoll .sample t.session truncatedPrePoll prePoll := by
  obtain ⟨tr, t, hrun, hin, h⟩ := Machine.exists_run_of_exec (M := machine .sample)
    (s := System.initial {}) (l := [sampleStart sampleParams {}])
    (p := fun _ t => (decodePrePollFrame .sample truncatedPrePoll
      ⟨t.session, false, noFaults, []⟩).1.toOption = some { pollStsIndex := 1 }) (by decide +kernel)
  refine ⟨tr, t, hrun, hin, ?_, ?_⟩
  · have h := of_decide_eq_true h
    cases hres : (decodePrePollFrame .sample truncatedPrePoll
        ⟨t.session, false, noFaults, []⟩).1 with
    | error e => rw [hres] at h; cases h
    | ok prePoll => rw [hres] at h; exact congrArg _ (Option.some.inj h)
  · rintro prePoll ⟨mhr, hsec, -⟩
    have hlen := hsec.payloadLength_sampleFrame
    rw [length_encodePrePoll] at hlen
    exact absurd hlen (by decide)

/-- The hypothesis of `decodePrePollFrame_accepts_exactly_iff` is satisfiable: a
whole PrePoll on an unstarted session. -/
theorem decodePrePollFrame_accepts_exactly_iff_sample :
    let frame := sampleFrame .prePoll 1 (encodePrePoll { pollStsIndex := 1 })
    let c : Ctx := ⟨{}, false, noFaults, []⟩
    (∀ prePoll, (decodePrePollFrame .sample frame c).1 = .ok prePoll ↔
        CarriesPrePoll .sample {} frame prePoll) ∧
      ∀ e, (decodePrePollFrame .sample frame c).1 = .error e →
        (decodePrePollFrame .sample frame c).2.session = {} := by
  refine (decodePrePollFrame_accepts_exactly_iff .sample _ ⟨{}, false, noFaults, []⟩ rfl).2 ?_
  rintro ⟨mhr, payload, prePoll, hshort, hsec, -⟩
  have hlen := hsec.payloadLength_sampleFrame
  rw [length_encodePrePoll] at hlen
  exact absurd (hlen ▸ hshort) (by decide)

end Session
end AliroUwb
