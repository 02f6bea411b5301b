/-
# Deferred PrePolls

On the warm path the session arms before it decodes.  `handlePrePollReception` keeps
the first 128 bytes of the PrePoll, and `processStashedPrePoll` decodes them when the
exchange is over.  The frame itself may have up to 256 bytes and declare a payload
of any length up to 255.

Nothing is lost by the cut (`decodePrePollFrame_stash`).  A frame that ends behind the
stash declares a payload of more than 97 bytes: the stashed copy is then
incomplete, and the payload of the full frame is too long for the 13 bytes of a PrePoll.
Both are refused, with the same error, before the provider is called.
-/

import AliroUwb.Protocol.FrameCodecLaws
import AliroUwb.Session.Served

namespace AliroUwb
namespace Session

open Crypto Protocol Ranging Transceiver

variable {P : Platform}

/-- **The checks find in the first 128 bytes what they find in the frame.** -/
theorem checkPrePollFrame_stash (s : SessionMembers) (frame : List UInt8) (faults : Faults) :
    checkPrePollFrame P s (frame.take 128) faults = checkPrePollFrame P s frame faults := by
  unfold checkPrePollFrame
  rw [decodeHeader_take frame (by decide)]
  cases hheader : decodeHeader frame with
  | error e => rfl
  | ok mhr =>
    dsimp only
    split_ifs with hid haddress hcounter hstash hframe hframe
    · rfl
    · rfl
    · rfl
    · rfl
    · -- the secured part ends behind the stash
      rw [List.length_take, macHeaderLength, micLength] at hstash
      rw [macHeaderLength, micLength] at hframe
      have hlong : (List.replicate prePollPayloadLength (0 : UInt8)).length + micLength <
          ((frame.drop macHeaderLength).take (mhr.payloadLength.toNat + micLength)).length := by
        rw [List.length_replicate, List.length_take, List.length_drop, prePollPayloadLength,
          macHeaderLength, micLength]
        omega
      rw [bind_faults, decryptPayload_overflow hlong]
    · rw [List.length_take] at hstash
      omega
    · -- it ends within, and so do the two spans
      rw [List.length_take] at hstash
      have hheaderSpan : (frame.take 128).take macHeaderLength = frame.take macHeaderLength := by
        rw [List.take_take, macHeaderLength]
        rfl
      have hsecured : ((frame.take 128).drop macHeaderLength).take
          (mhr.payloadLength.toNat + micLength) =
          (frame.drop macHeaderLength).take (mhr.payloadLength.toNat + micLength) := by
        rw [List.drop_take, List.take_take, Nat.min_eq_left (by omega)]
      rw [hheaderSpan, hsecured]

/-- **`decodePrePollFrame` gives the same result and leaves the same session.** -/
theorem decodePrePollFrame_stash (frame : List UInt8) (c : Ctx) :
    decodePrePollFrame P (frame.take 128) c = decodePrePollFrame P frame c := by
  rw [decodePrePollFrame_eq, decodePrePollFrame_eq, checkPrePollFrame_stash]

/-- What `processStashedPrePoll` makes of a frame. -/
def processPrePoll (P : Platform) (frame : List UInt8) (c : Ctx) : Ctx :=
  let (res, c) := decodePrePollFrame P frame c
  match res with
  | .ok prePoll =>
    let c := c.modify fun s =>
      { s with currentBlock := prePoll.rangingBlock, currentRound := prePoll.roundIndex }
    if isBlockParityEligible c.session.nodeConfig c.session.currentBlock then refreshWarmKeys P c
    else c
  | .error _ => c.modify fun s => { s with warmValid := false }

/-- A copy of the frame is stashed. -/
def Stashes (frame : List UInt8) (s : SessionMembers) : Prop :=
  s.stashLen ≠ 0 ∧ s.stashedFrame = frame.take 128

/-- The warm path stashes the frame it has received. -/
theorem stashes_of_warm {env : Env} {event : RxSuccessEvent} {frame : List UInt8} {c : Ctx}
    (hwarm : c.session.warmValid = true) (hframe : receivedFrame env = some frame) :
    Stashes frame (handlePrePollReception P env event c).session := by
  have hlong : macHeaderLength ≤ frame.length := by
    unfold receivedFrame at hframe
    split_ifs at hframe with h
    rw [← Option.some.inj hframe, List.length_map, List.length_range]
    exact h.2
  rw [handlePrePollReception_eq, hframe]
  dsimp only
  rw [if_pos hwarm]
  generalize c.readRx env = c
  have hlen : (UInt16.ofNat (min frame.length 128)).toNat = min frame.length 128 := by
    rw [UInt16.toNat_ofNat']
    omega
  have hstash : (armWarm env event frame c).session.stashLen = UInt16.ofNat (min frame.length 128) ∧
      (armWarm env event frame c).session.stashFrame = Bytes.ofList 128
        (frame.take 128 ++ c.session.stashFrame.1.drop (min frame.length 128)) := by
    unfold armWarm
    simp only [startRx_eq, transitionTo, Ctx.command, Ctx.emit, Ctx.modify]
    split <;> exact ⟨rfl, rfl⟩
  constructor
  · rw [hstash.1]
    intro h0
    rw [macHeaderLength] at hlong
    rw [h0] at hlen
    change 0 = _ at hlen
    omega
  · rw [SessionMembers.stashedFrame, hstash.1, hstash.2, hlen, take_stash]

/-- What it means that the stash loses nothing of a frame. -/
structure StashLosesNothing (P : Platform) (frame : List UInt8) : Prop where
  /-- The same result and the same session, from every session. -/
  decoded : ∀ c, decodePrePollFrame P (frame.take 128) c = decodePrePollFrame P frame c
  /-- The warm path keeps those bytes. -/
  stashed : ∀ env event c, c.session.warmValid = true → receivedFrame env = some frame →
    Stashes frame (handlePrePollReception P env event c).session
  /-- What is decoded later is as if it were the frame. -/
  processed : ∀ c, Stashes frame c.session → processStashedPrePoll P c =
    processPrePoll P frame (c.modify fun s => { s with stashLen := 0 })

/-- **Stashing loses nothing**, for frames of any length. -/
theorem stash_loses_nothing (frame : List UInt8) : StashLosesNothing P frame where
  decoded := decodePrePollFrame_stash frame
  stashed _ _ _ := stashes_of_warm
  processed c h := by
    obtain ⟨hlen, hframe⟩ := h
    rw [processStashedPrePoll, if_neg hlen, ← SessionMembers.stashedFrame, hframe]
    dsimp only
    rw [decodePrePollFrame_stash]
    rfl

end Session
end AliroUwb
