/-
# What an accepted frame has passed

The frame checks of the handlers, read as facts about the frames they let
through.  `AuthenticPrePoll` and `AuthenticFinalData` say that the frame was
encrypted under the session's keys for this session; `AcceptablePrePoll` and
`AcceptableFinalData` add the addresses and the freshness.

`acceptable_checkPrePollFrame` and `acceptable_checkFinalDataFrame` connect them to
the code: a frame passes the checks of a handler only if it is acceptable.
-/

import AliroUwb.Crypto.Sp0Failure
import AliroUwb.Session.Handlers

namespace AliroUwb
namespace Session

open Crypto Protocol Ranging Transceiver

variable {P : Platform}

/-- The frame that a handler reads: the received bytes, when they fit the
buffer and hold a header. -/
def receivedFrame (env : Env) : Option (List UInt8) :=
  if receivedLength env 256 ≤ 256 ∧ macHeaderLength ≤ receivedLength env 256 then
    some ((List.range (receivedLength env 256)).map env.rxData)
  else none

/-- A received frame is never empty. -/
theorem length_of_receivedFrame {env : Env} {frame : List UInt8}
    (h : receivedFrame env = some frame) : macHeaderLength ≤ frame.length := by
  unfold receivedFrame at h
  split_ifs at h with hlen
  rw [← Option.some.inj h, List.length_map, List.length_range]
  exact hlen.2

/-- What a handler finds when it reads the received data. -/
theorem readReceivedData_cases (env : Env) (buffer : Bytes 256) :
    (receivedFrame env = none ∧ ∃ e, (readReceivedData env buffer).1 = .error e) ∨
    (receivedFrame env = none ∧ ∃ len < macHeaderLength,
      (readReceivedData env buffer).1 = .ok len) ∨
    (∃ frame len, receivedFrame env = some frame ∧ macHeaderLength ≤ len ∧
      (readReceivedData env buffer).1 = .ok len ∧
      (readReceivedData env buffer).2.1.take len = frame) := by
  by_cases hfit : 256 < receivedLength env 256
  · refine Or.inl ⟨if_neg fun h => by omega, .bufferOverflow, ?_⟩
    unfold readReceivedData
    simp only [dif_pos hfit]
  have hread : (readReceivedData env buffer).1 = .ok (receivedLength env 256) := by
    unfold readReceivedData
    simp only [dif_neg hfit]
  by_cases hlen : macHeaderLength ≤ receivedLength env 256
  · exact Or.inr (Or.inr ⟨_, _, if_pos ⟨by omega, hlen⟩, hlen, hread,
      take_readReceivedData hread⟩)
  · exact Or.inr (Or.inl ⟨if_neg fun h => hlen h.2, _, by omega, hread⟩)

/-- The secured part of a frame: the encrypted payload and its MIC. -/
def securedPart (mhr : MacHeader) (frame : List UInt8) : List UInt8 :=
  (frame.drop macHeaderLength).take (mhr.payloadLength.toNat + micLength)

/-- `decryptPayload` succeeds on the frame under `key` and leaves `plaintext`,
of which the first `len` bytes are the payload, in a buffer of `n` bytes. -/
def Decrypts (P : CryptoProvider) (key : Bytes 16) (address : Bytes 8) (mhr : MacHeader)
    (frame : List UInt8) (n len : ℕ) (plaintext : List UInt8) : Prop :=
  ∃ faults, (decryptPayload P key address mhr.frameCounter (frame.take macHeaderLength)
    (securedPart mhr frame) (List.replicate n 0) faults).1 = (.ok len, plaintext)

/-- What is decrypted is what would be if no provider call could fail. -/
theorem Decrypts.of_noFaults {C : CryptoProvider} {key : Bytes 16} {address : Bytes 8}
    {mhr : MacHeader} {frame : List UInt8} {n len : ℕ} {plaintext : List UInt8}
    (h : Decrypts C key address mhr frame n len plaintext) :
    (decryptPayload C key address mhr.frameCounter (frame.take macHeaderLength)
      (securedPart mhr frame) (List.replicate n 0) noFaults).1 = (.ok len, plaintext) := by
  obtain ⟨faults, h⟩ := h
  by_cases hfits : micLength ≤ (securedPart mhr frame).length ∧
      (securedPart mhr frame).length - micLength ≤ (List.replicate n (0 : UInt8)).length
  · obtain ⟨i, hi, hquiet, hfault⟩ | hquiet := firstFault_or_quiet
      (decryptCalls (frame.take macHeaderLength).length
        ((securedPart mhr frame).length - micLength)) faults
    · obtain ⟨e, he⟩ := Option.ne_none_iff_exists'.1 hfault
      rw [decryptPayload_of_fault _ _ _ hfits.1 hfits.2 hi hquiet he] at h
      cases h
    · rwa [calls_decryptPayload _ _ _ hfits.1 hfits.2 _ hquiet] at h
  · obtain ⟨e, he⟩ := @decryptPayload_rejected C key address mhr.frameCounter
      (frame.take macHeaderLength) _ _ faults hfits
    rw [he] at h
    cases h

/-- The frame decrypts under `mupsk1` to a PrePoll of this session. -/
structure AuthenticPrePoll (P : Platform) (s : SessionMembers) (frame : List UInt8)
    (mhr : MacHeader) (prePoll : PrePollPayload) : Prop where
  header : decodeHeader frame = .ok mhr
  decrypts : ∃ len plaintext, Decrypts P.crypto s.keys.mupsk1 s.keys.addresses.sourceLong mhr frame
    prePollPayloadLength len plaintext ∧ decodePrePoll plaintext = .ok prePoll
  sessionId : prePoll.sessionId = s.params.sessionId

/-- Everything `decodePrePollFrame` checks. -/
structure AcceptablePrePoll (P : Platform) (s : SessionMembers) (frame : List UInt8)
    (mhr : MacHeader) (prePoll : PrePollPayload) : Prop
    extends AuthenticPrePoll P s frame mhr prePoll where
  messageId : mhr.messageId = .prePoll
  destination : matchShortAddress mhr.destinationShortAddress s.keys.addresses.destinationShort
  keySource : matchKeySource mhr.keySource s.keys.addresses.keySource
  complete : macHeaderLength + (mhr.payloadLength.toNat + micLength) ≤ frame.length
  counter : s.replay.hasReceivedPrePollCounter → s.replay.lastPrePollCounter < mhr.frameCounter
  ahead : s.replay.hasPrePollStsIndex →
    0 < (prePoll.pollStsIndex - s.replay.lastPrePollStsIndex).toInt32

/-- The frame decrypts under the dUDSK of the armed round to a FinalData of
this session. -/
structure AuthenticFinalData (P : Platform) (s : SessionMembers) (frame : List UInt8)
    (mhr : MacHeader) (finalData : FinalDataPayload) : Prop where
  header : decodeHeader frame = .ok mhr
  decrypts : ∃ slotKeys len plaintext,
    value (deriveSlotKeys P.crypto s.keys.mursk s.keys.saltedHash s.armedPollStsIndex
      s.params.slotsPerRound.toUInt16 s.params.stsIndex0) = .ok slotKeys ∧
    Decrypts P.crypto slotKeys.dudskKey s.keys.addresses.sourceLong mhr frame 128 len plaintext ∧
    decodeFinalData (plaintext.take len) = .ok finalData
  sessionId : finalData.sessionId = s.params.sessionId

/-- Everything `handleFinalDataReception` checks of the frame itself. -/
structure AcceptableFinalData (P : Platform) (s : SessionMembers) (frame : List UInt8)
    (mhr : MacHeader) (finalData : FinalDataPayload) : Prop
    extends AuthenticFinalData P s frame mhr finalData where
  messageId : mhr.messageId = .finalData
  complete : macHeaderLength + (mhr.payloadLength.toNat + micLength) ≤ frame.length
  counter : s.replay.hasReceivedFinalDataCounter →
    s.replay.lastFinalDataCounter < mhr.frameCounter

/-! ### The checks -/

/-- **A PrePoll that passes the checks is acceptable.** -/
theorem acceptable_checkPrePollFrame {s : SessionMembers} {frame : List UInt8} {faults : Faults}
    {mhr : MacHeader} {prePoll : PrePollPayload}
    (h : (checkPrePollFrame P s frame faults).1 = .ok (mhr, prePoll)) :
    AcceptablePrePoll P s frame mhr prePoll := by
  unfold checkPrePollFrame at h
  cases hmhr : decodeHeader frame with
  | error e => rw [hmhr] at h; cases h
  | ok mhr' =>
    rw [hmhr] at h
    dsimp only at h
    split_ifs at h with hid haddr hctr hlen
    · cases h
    · cases h
    · cases h
    · cases h
    rw [bind_faults] at h
    rcases hdec : decryptPayload P.crypto s.keys.mupsk1 s.keys.addresses.sourceLong
      mhr'.frameCounter (frame.take macHeaderLength) (securedPart mhr' frame)
      (List.replicate prePollPayloadLength 0) faults with ⟨⟨_ | len, plaintext⟩, faults'⟩
    · rw [securedPart] at hdec
      rw [hdec] at h
      cases h
    have hdec' := hdec
    rw [securedPart] at hdec'
    rw [hdec'] at h
    dsimp only at h
    cases hpp : decodePrePoll plaintext with
    | error e => rw [hpp] at h; cases h
    | ok prePoll' =>
      rw [hpp] at h
      dsimp only at h
      split_ifs at h with hsid hsts
      · cases h
      · cases h
      obtain ⟨rfl, rfl⟩ := Prod.mk.inj (Except.ok.inj h)
      simp only [Bool.or_eq_true, Bool.not_eq_true', not_or, Bool.not_eq_false] at haddr
      refine ⟨⟨hmhr, ⟨len, plaintext, ⟨faults, congrArg Prod.fst hdec⟩, hpp⟩, not_not.1 hsid⟩,
        not_not.1 hid, haddr.1, haddr.2, not_lt.1 hlen, fun hc => ?_, fun hs => ?_⟩
      · exact UInt32.not_le.1 fun hle => hctr ⟨hc, hle⟩
      · exact Int32.not_le.1 fun hle => hsts ⟨hs, hle⟩

/-- **A FinalData that passes the checks is acceptable.** -/
theorem acceptable_checkFinalDataFrame {s : SessionMembers} {frame : List UInt8} {faults : Faults}
    {mhr : MacHeader} {finalData : FinalDataPayload}
    (h : (checkFinalDataFrame P s frame faults).1 = .ok (mhr, finalData)) :
    AcceptableFinalData P s frame mhr finalData := by
  unfold checkFinalDataFrame at h
  cases hmhr : decodeHeader frame with
  | error e => rw [hmhr] at h; cases h
  | ok mhr' =>
    rw [hmhr] at h
    dsimp only at h
    split_ifs at h with hid hctr hlen
    · cases h
    · cases h
    · cases h
    rw [bind_faults] at h
    rcases hkeys : (deriveSlotKeys P.crypto s.keys.mursk s.keys.saltedHash s.armedPollStsIndex
      s.params.slotsPerRound.toUInt16 s.params.stsIndex0).run faults with ⟨_ | slotKeys, faults₁⟩
    · rw [hkeys] at h
      cases h
    have hval := (steady_deriveSlotKeys (P := P.crypto) s.keys.mursk s.keys.saltedHash
      s.armedPollStsIndex s.params.slotsPerRound.toUInt16 s.params.stsIndex0).value_of_ok
      (congrArg Prod.fst hkeys)
    rw [hkeys] at h
    dsimp only at h
    rw [bind_faults] at h
    rcases hdec : decryptPayload P.crypto slotKeys.dudskKey s.keys.addresses.sourceLong
      mhr'.frameCounter (frame.take macHeaderLength) (securedPart mhr' frame)
      (List.replicate 128 0) faults₁ with ⟨⟨_ | len, plaintext⟩, faults₂⟩
    · rw [securedPart] at hdec
      rw [hdec] at h
      cases h
    have hdec' := hdec
    rw [securedPart] at hdec'
    rw [hdec'] at h
    dsimp only at h
    cases hfd : decodeFinalData (plaintext.take len) with
    | error e => rw [hfd] at h; cases h
    | ok finalData' =>
      rw [hfd] at h
      dsimp only at h
      split_ifs at h with hsid
      · cases h
      obtain ⟨rfl, rfl⟩ := Prod.mk.inj (Except.ok.inj h)
      refine ⟨⟨hmhr, ⟨slotKeys, len, plaintext, hval, ⟨faults₁, congrArg Prod.fst hdec⟩, hfd⟩,
        not_not.1 hsid⟩, not_not.1 hid, not_lt.1 hlen, fun hc => ?_⟩
      exact UInt32.not_le.1 fun hle => hctr ⟨hc, hle⟩

/-- The checks leave no fault behind that was not there. -/
theorem keepsQuiet_checkPrePollFrame (s : SessionMembers) (frame : List UInt8) :
    KeepsQuiet (checkPrePollFrame P s frame) := by
  unfold checkPrePollFrame
  split
  · exact .pure _
  dsimp only
  split_ifs
  · exact .pure _
  · exact .pure _
  · exact .pure _
  · exact .pure _
  refine (keepsQuiet_decryptPayload ..).bind fun res => ?_
  rcases res with ⟨_ | len, plaintext⟩
  · exact .pure _
  cases decodePrePoll plaintext with
  | error e => exact .pure _
  | ok prePoll =>
    dsimp only
    split_ifs <;> exact .pure _

/-- The check of a FinalData keeps quiet. -/
theorem keepsQuiet_checkFinalDataFrame (s : SessionMembers) (frame : List UInt8) :
    KeepsQuiet (checkFinalDataFrame P s frame) := by
  unfold checkFinalDataFrame
  split
  · exact .pure _
  dsimp only
  split_ifs
  · exact .pure _
  · exact .pure _
  · exact .pure _
  refine KeepsQuiet.bind (steady_deriveSlotKeys ..).rest fun res => ?_
  rcases res with _ | slotKeys
  · exact .pure _
  refine (keepsQuiet_decryptPayload ..).bind fun res => ?_
  rcases res with ⟨_ | len, plaintext⟩
  · exact .pure _
  dsimp only
  cases decodeFinalData (plaintext.take len) with
  | error e => exact .pure _
  | ok finalData =>
    dsimp only
    split_ifs <;> exact .pure _

end Session
end AliroUwb
