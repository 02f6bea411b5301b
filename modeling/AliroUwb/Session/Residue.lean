/-
# What a former session leaves behind

`start` resets some of the members of a session and leaves the others as an
earlier session has left them.  `Residue` collects the members that are left, and
`s.withResidue r` is the session `s` with another residue.

`Hidden` and `Permitted` say which parts of a residue must agree, and when: warm
keys while they are valid, the position once a PrePoll has been accepted, the
armed keys and the time stamps while an exchange is under way.  Every handler
maps two sessions that differ in a permitted residue to two such sessions, with
the same outputs: `alike_serve`.
-/

import AliroUwb.Session.Frames
import AliroUwb.Session.Steps

namespace AliroUwb
namespace Session

open Stepwise Crypto Protocol Ranging Transceiver

variable {P : Platform}

/-- The members that `start` does not reset. -/
structure Residue where
  lastDeriveError : StatusCode
  currentBlock : BlockIndex
  currentRound : SlotIndex
  armedPollStsIndex : StsIndex
  measurement : Measurement
  warm : CycleKeys
  armed : CycleKeys
  lastPrePollCounter : FrameCounter
  lastFinalDataCounter : FrameCounter
  rxFrameBuffer : Bytes 256
  stashFrame : Bytes 128

/-- The residue of a session. -/
def SessionMembers.residue (s : SessionMembers) : Residue where
  lastDeriveError := s.lastDeriveError
  currentBlock := s.currentBlock
  currentRound := s.currentRound
  armedPollStsIndex := s.armedPollStsIndex
  measurement := s.measurement
  warm := s.warm
  armed := s.armed
  lastPrePollCounter := s.replay.lastPrePollCounter
  lastFinalDataCounter := s.replay.lastFinalDataCounter
  rxFrameBuffer := s.rxFrameBuffer
  stashFrame := s.stashFrame

/-- The session with another residue. -/
def SessionMembers.withResidue (s : SessionMembers) (r : Residue) : SessionMembers :=
  { s with
    lastDeriveError := r.lastDeriveError
    currentBlock := r.currentBlock
    currentRound := r.currentRound
    armedPollStsIndex := r.armedPollStsIndex
    measurement := r.measurement
    warm := r.warm
    armed := r.armed
    replay := { s.replay with
      lastPrePollCounter := r.lastPrePollCounter, lastFinalDataCounter := r.lastFinalDataCounter }
    rxFrameBuffer := r.rxFrameBuffer
    stashFrame := r.stashFrame }

/-- The context of a session with another residue. -/
def Ctx.withResidue (c : Ctx) (r : Residue) : Ctx :=
  { c with session := c.session.withResidue r }

/-- The residue has the session's position. -/
def AtPosition (s : SessionMembers) (r : Residue) : Prop :=
  r.currentBlock = s.currentBlock ∧ r.currentRound = s.currentRound

/-- The residue cannot be told from the session's own while it listens. -/
structure Hidden (s : SessionMembers) (r : Residue) : Prop where
  warm : s.warmValid = true → r.warm = s.warm ∧ s.replay.hasPrePollStsIndex = true
  stash : r.stashFrame.1.take s.stashLen.toNat = s.stashFrame.1.take s.stashLen.toNat
  position : s.replay.hasPrePollStsIndex = true → AtPosition s r
  prePollCounter : s.replay.hasReceivedPrePollCounter = true →
    r.lastPrePollCounter = s.replay.lastPrePollCounter
  finalDataCounter : s.replay.hasReceivedFinalDataCounter = true →
    r.lastFinalDataCounter = s.replay.lastFinalDataCounter

/-- Nor while it is in an exchange. -/
structure Permitted (s : SessionMembers) (r : Residue) : Prop extends Hidden s r where
  exchange : s.state.inExchange = true →
    r.armed = s.armed ∧ r.armedPollStsIndex = s.armedPollStsIndex ∧ AtPosition s r
  polled : s.state = .transmittingResponse ∨ s.state = .awaitingFinal →
    r.measurement.pollRxTimestampDtu = s.measurement.pollRxTimestampDtu
  answered : s.state = .awaitingFinal →
    r.measurement.respTxTimestampDtu = s.measurement.respTxTimestampDtu
  measured : s.state = .awaitingFinalData → r.measurement = s.measurement

/-- What it depends on of the session and of the residue. -/
theorem Hidden.congr {s t : SessionMembers} {r q : Residue} (h : Hidden s r)
    (hs : (t.warmValid, t.warm, t.replay, t.stashLen, t.stashFrame, t.currentBlock,
      t.currentRound) = (s.warmValid, s.warm, s.replay, s.stashLen, s.stashFrame, s.currentBlock,
      s.currentRound))
    (hr : (q.warm, q.lastPrePollCounter, q.lastFinalDataCounter, q.stashFrame, q.currentBlock,
      q.currentRound) = (r.warm, r.lastPrePollCounter, r.lastFinalDataCounter, r.stashFrame,
      r.currentBlock, r.currentRound)) : Hidden t q := by
  simp only [Prod.mk.injEq] at hs hr
  obtain ⟨hvalid, hwarm, hreplay, hlen, hframe, hblock, hround⟩ := hs
  obtain ⟨hwarm', hcounter, hcounter', hframe', hblock', hround'⟩ := hr
  refine ⟨?_, ?_, ?_, ?_, ?_⟩
  · rw [hvalid, hwarm, hwarm', hreplay]
    exact h.warm
  · rw [hframe, hframe', hlen]
    exact h.stash
  · rw [hreplay, AtPosition, hblock, hround, hblock', hround']
    exact h.position
  · rw [hreplay, hcounter]
    exact h.prePollCounter
  · rw [hreplay, hcounter']
    exact h.finalDataCounter

/-- Outside of an exchange nothing more is asked. -/
theorem Hidden.permitted {s : SessionMembers} {r : Residue} (h : Hidden s r)
    (hst : s.state.inExchange = false) : Permitted s r := by
  refine ⟨h, fun h => absurd (hst.symm.trans h) (by simp), fun h => ?_, fun h => ?_, fun h => ?_⟩
  · rcases h with h | h <;> rw [h] at hst <;> cases hst
  · rw [h] at hst; cases hst
  · rw [h] at hst; cases hst

/-! ### The frame checks -/

/-- The checks of a PrePoll do not see the residue. -/
theorem checkPrePollFrame_withResidue {s : SessionMembers} {r : Residue} (h : Hidden s r)
    (frame : List UInt8) :
    checkPrePollFrame P (s.withResidue r) frame = checkPrePollFrame P s frame := by
  have hcounter (counter : FrameCounter) :
      ((s.withResidue r).replay.hasReceivedPrePollCounter = true ∧
        counter ≤ (s.withResidue r).replay.lastPrePollCounter) ↔
      (s.replay.hasReceivedPrePollCounter = true ∧ counter ≤ s.replay.lastPrePollCounter) := by
    constructor
    · rintro ⟨hhas, hle⟩
      exact ⟨hhas, h.prePollCounter hhas ▸ hle⟩
    · rintro ⟨hhas, hle⟩
      refine ⟨hhas, ?_⟩
      rw [show (s.withResidue r).replay.lastPrePollCounter = r.lastPrePollCounter from rfl,
        h.prePollCounter hhas]
      exact hle
  unfold checkPrePollFrame
  simp only [hcounter]
  rfl

/-- The checks of a FinalData see no more of it than the armed STS index. -/
theorem checkFinalDataFrame_withResidue {s : SessionMembers} {r : Residue} (h : Hidden s r)
    (hindex : r.armedPollStsIndex = s.armedPollStsIndex) (frame : List UInt8) :
    checkFinalDataFrame P (s.withResidue r) frame = checkFinalDataFrame P s frame := by
  have hcounter (counter : FrameCounter) :
      ((s.withResidue r).replay.hasReceivedFinalDataCounter = true ∧
        counter ≤ (s.withResidue r).replay.lastFinalDataCounter) ↔
      (s.replay.hasReceivedFinalDataCounter = true ∧ counter ≤ s.replay.lastFinalDataCounter) := by
    constructor
    · rintro ⟨hhas, hle⟩
      exact ⟨hhas, h.finalDataCounter hhas ▸ hle⟩
    · rintro ⟨hhas, hle⟩
      refine ⟨hhas, ?_⟩
      rw [show (s.withResidue r).replay.lastFinalDataCounter = r.lastFinalDataCounter from rfl,
        h.finalDataCounter hhas]
      exact hle
  have hindex : (s.withResidue r).armedPollStsIndex = s.armedPollStsIndex := hindex
  unfold checkFinalDataFrame
  simp only [hcounter, hindex]
  rfl

/-! ### The warm keys -/

/-- What `deriveCycleKeys` overwrites matters only where it fails. -/
theorem deriveCycleKeys_out (s : SessionMembers) (i : StsIndex) (out out' : CycleKeys)
    (faults : Faults) : ∃ keys,
      deriveCycleKeys P s i out' faults =
        (((deriveCycleKeys P s i out faults).1.1, keys), (deriveCycleKeys P s i out faults).2) ∧
      ((deriveCycleKeys P s i out faults).1.1 = .ok () →
        keys = (deriveCycleKeys P s i out faults).1.2) := by
  rw [deriveCycleKeys_eq, deriveCycleKeys_eq, bind_faults, bind_faults, ExceptT.run]
  rcases slotKeysAt P s i faults with ⟨e | poll, f₁⟩
  · exact ⟨_, rfl, (nomatch ·)⟩
  dsimp only
  rw [bind_faults, bind_faults, ExceptT.run]
  rcases slotKeysAt P s (i + 1 + s.nodeConfig.responderIndex.toUInt32) f₁ with ⟨e | response, f₂⟩
  · exact ⟨_, rfl, (nomatch ·)⟩
  dsimp only
  rw [bind_faults, bind_faults, ExceptT.run]
  rcases slotKeysAt P s (i + 1 + s.params.responderCount.toUInt32) f₂ with ⟨e | final, f₃⟩
  · exact ⟨_, rfl, (nomatch ·)⟩
  · exact ⟨_, rfl, fun _ => rfl⟩

/-- From the same position `refreshWarmKeys` predicts the same exchange. -/
theorem refreshWarmKeys_withResidue {c : Ctx} {r : Residue} (hpos : AtPosition c.session r) :
    ∃ warm, refreshWarmKeys P (c.withResidue r) =
        (refreshWarmKeys P c).withResidue { r with warm } ∧
      ((refreshWarmKeys P c).session.warmValid = true →
        warm = (refreshWarmKeys P c).session.warm) := by
  have hnext : nextScheduledExchange (c.withResidue r).session.params
      (c.withResidue r).session.currentBlock (c.withResidue r).session.currentRound =
      nextScheduledExchange c.session.params c.session.currentBlock c.session.currentRound := by
    rw [← hpos.1, ← hpos.2]
    rfl
  unfold refreshWarmKeys
  dsimp only
  rw [hnext]
  cases nextScheduledExchange c.session.params c.session.currentBlock c.session.currentRound with
  | none => exact ⟨r.warm, rfl, (nomatch ·)⟩
  | some next =>
    obtain ⟨keys, hkeys, hok⟩ := deriveCycleKeys_out (P := P) c.session
      (pollStsIndexFor c.session.params next.1 next.2) c.session.warm r.warm c.faults
    have hderive : deriveCycleKeys P (c.withResidue r).session
        (pollStsIndexFor (c.withResidue r).session.params next.1 next.2)
        (c.withResidue r).session.warm (c.withResidue r).faults = _ := hkeys
    dsimp only [Ctx.run]
    rw [hderive]
    rcases hres : deriveCycleKeys P c.session
      (pollStsIndexFor c.session.params next.1 next.2) c.session.warm c.faults with
      ⟨⟨e | ⟨⟩, warm⟩, f⟩
    · exact ⟨keys, rfl, (nomatch ·)⟩
    · rw [hres] at hok
      exact ⟨keys, rfl, fun _ => hok rfl⟩

/-! ### Accepted PrePolls -/

/-- The residue after an accepted PrePoll. -/
def Residue.prePollAccepted (r : Residue) (mhr : MacHeader) (prePoll : PrePollPayload) : Residue :=
  { r with
    lastPrePollCounter := mhr.frameCounter
    currentBlock := prePoll.rangingBlock, currentRound := prePoll.roundIndex }

/-- An accepted PrePoll brings both sessions to its position. -/
theorem Hidden.prePollAccepted {s : SessionMembers} {r : Residue} (h : Hidden s r)
    (mhr : MacHeader) (prePoll : PrePollPayload) :
    Hidden (s.prePollAccepted mhr prePoll) (r.prePollAccepted mhr prePoll) where
  warm hw := ⟨(h.warm hw).1, rfl⟩
  stash := h.stash
  position _ := ⟨rfl, rfl⟩
  prePollCounter _ := rfl
  finalDataCounter := h.finalDataCounter

/-- A residue that is permitted stays so when a PrePoll is accepted. -/
theorem Permitted.prePollAccepted {s : SessionMembers} {r : Residue} (h : Permitted s r)
    (mhr : MacHeader) (prePoll : PrePollPayload) :
    Permitted (s.prePollAccepted mhr prePoll) (r.prePollAccepted mhr prePoll) where
  toHidden := h.toHidden.prePollAccepted mhr prePoll
  exchange hst := ⟨(h.exchange hst).1, (h.exchange hst).2.1, rfl, rfl⟩
  polled := h.polled
  answered := h.answered
  measured := h.measured

/-- An empty stash is the same stash. -/
theorem Permitted.unstash {s : SessionMembers} {r : Residue} (h : Permitted s r) :
    Permitted { s with stashLen := 0 } r where
  toHidden := ⟨h.warm, rfl, h.position, h.prePollCounter, h.finalDataCounter⟩
  exchange := h.exchange
  polled := h.polled
  answered := h.answered
  measured := h.measured

/-- `processStashedPrePoll` as one function of what the checks say. -/
theorem processStashedPrePoll_eq (c : Ctx) :
    processStashedPrePoll P c = if c.session.stashLen = 0 then c else
      match checkPrePollFrame P { c.session with stashLen := 0 } c.session.stashedFrame
        c.faults with
      | (.error _, faults) => { c with
          session := { c.session with stashLen := 0, warmValid := false }, faults }
      | (.ok (mhr, prePoll), faults) =>
        let accepted : Ctx := { c with
          session := SessionMembers.prePollAccepted { c.session with stashLen := 0 } mhr prePoll
          faults
          outputs := c.outputs ++ [.acceptedPrePoll mhr prePoll] }
        if isBlockParityEligible c.session.nodeConfig prePoll.rangingBlock then
          refreshWarmKeys P accepted
        else accepted := by
  unfold processStashedPrePoll
  split_ifs
  · rfl
  dsimp only
  have hdecode := decodePrePollFrame_eq (P := P) c.session.stashedFrame
    (c.modify fun s => { s with stashLen := 0 })
  have hsame : checkPrePollFrame P (c.modify fun s => { s with stashLen := 0 }).session
      c.session.stashedFrame (c.modify fun s => { s with stashLen := 0 }).faults =
      checkPrePollFrame P { c.session with stashLen := 0 } c.session.stashedFrame c.faults := rfl
  rw [hsame] at hdecode
  rw [← SessionMembers.stashedFrame, hdecode]
  rcases checkPrePollFrame P { c.session with stashLen := 0 } c.session.stashedFrame c.faults with
    ⟨e | ⟨mhr, prePoll⟩, f⟩ <;> rfl

/-! ### Handlers of sessions alike -/

/-- Two contexts that differ in a permitted residue. -/
def Alike (c c' : Ctx) : Prop := ∃ r, c' = c.withResidue r ∧ Permitted c.session r

/-- Refreshing the warm keys. -/
theorem alike_refreshWarmKeys {c : Ctx} {r : Residue} (h : Permitted c.session r)
    (hheard : c.session.replay.hasPrePollStsIndex = true) :
    Alike (refreshWarmKeys P c) (refreshWarmKeys P (c.withResidue r)) := by
  obtain ⟨warm, heq, hwarm⟩ := refreshWarmKeys_withResidue (P := P) (h.position hheard)
  refine ⟨_, heq, ?_⟩
  obtain ⟨_, _, _, hframe, -⟩ := (refreshed_refreshWarmKeys (P := P) c).frame
  rw [hframe] at hwarm ⊢
  exact ⟨⟨fun hv => ⟨hwarm hv, hheard⟩, h.stash, h.position, h.prePollCounter,
    h.finalDataCounter⟩, h.exchange, h.polled, h.answered, h.measured⟩

/-- **The stash is processed alike.** -/
theorem alike_processStashedPrePoll {c : Ctx} {r : Residue} (h : Permitted c.session r) :
    Alike (processStashedPrePoll P c) (processStashedPrePoll P (c.withResidue r)) := by
  have hframe : (c.withResidue r).session.stashedFrame = c.session.stashedFrame := h.stash
  have hcheck : checkPrePollFrame P { (c.withResidue r).session with stashLen := 0 }
      (c.withResidue r).session.stashedFrame (c.withResidue r).faults =
      checkPrePollFrame P { c.session with stashLen := 0 } c.session.stashedFrame c.faults := by
    rw [hframe]
    exact congrFun (checkPrePollFrame_withResidue h.unstash.toHidden _) _
  rw [processStashedPrePoll_eq, processStashedPrePoll_eq, hcheck]
  by_cases hlen : c.session.stashLen = 0
  · rw [if_pos hlen, if_pos (show (c.withResidue r).session.stashLen = 0 from hlen)]
    exact ⟨r, rfl, h⟩
  rw [if_neg hlen, if_neg (show ¬ (c.withResidue r).session.stashLen = 0 from hlen)]
  rcases checkPrePollFrame P { c.session with stashLen := 0 } c.session.stashedFrame c.faults with
    ⟨e | ⟨mhr, prePoll⟩, f⟩
  · have hempty := h.unstash
    exact ⟨r, rfl, ⟨(nomatch ·), hempty.stash, h.position, h.prePollCounter,
      h.finalDataCounter⟩, h.exchange, h.polled, h.answered, h.measured⟩
  have haccepted := h.unstash.prePollAccepted mhr prePoll
  by_cases hparity : isBlockParityEligible c.session.nodeConfig prePoll.rangingBlock = true
  · dsimp only
    rw [if_pos hparity, if_pos (show isBlockParityEligible (c.withResidue r).session.nodeConfig
      prePoll.rangingBlock = true from hparity)]
    exact alike_refreshWarmKeys (r := r.prePollAccepted mhr prePoll) haccepted rfl
  · dsimp only
    rw [if_neg hparity, if_neg (show ¬ isBlockParityEligible (c.withResidue r).session.nodeConfig
      prePoll.rangingBlock = true from hparity)]
    exact ⟨_, rfl, haccepted⟩

/-- Back to listening, from any point of an exchange. -/
theorem alike_armPrePollListening {env : Env} {c : Ctx} {r : Residue} (h : Hidden c.session r) :
    Alike (armPrePollListening P env c) (armPrePollListening P env (c.withResidue r)) := by
  have hlisten : Hidden { c.session with state := .prePollListening } r :=
    ⟨h.warm, h.stash, h.position, h.prePollCounter, h.finalDataCounter⟩
  exact alike_processStashedPrePoll (hlisten.permitted rfl)

/-- A condition on which both agree. -/
theorem alike_ite {p q : Prop} [Decidable p] [Decidable q] {a b a' b' : Ctx} (hpq : q ↔ p)
    (ha : p → Alike a a') (hb : ¬p → Alike b b') :
    Alike (if p then a else b) (if q then a' else b') := by
  by_cases h : p
  · rw [if_pos h, if_pos (hpq.2 h)]
    exact ha h
  · rw [if_neg h, if_neg (mt hpq.1 h)]
    exact hb h

/-- The residue with what an exchange of `s` has armed, and its position. -/
def Residue.inExchange (r : Residue) (s : SessionMembers) : Residue :=
  { r with
    currentBlock := s.currentBlock, currentRound := s.currentRound
    armed := s.armed, armedPollStsIndex := s.armedPollStsIndex }

/-- In an exchange a permitted residue has the armed exchange of the session. -/
theorem Permitted.eq_inExchange {s : SessionMembers} {r : Residue} (h : Permitted s r)
    (hst : s.state.inExchange = true) : ∃ r' : Residue, r = r'.inExchange s := by
  obtain ⟨harmed, hindex, hblock, hround⟩ := h.exchange hst
  refine ⟨r, ?_⟩
  rw [Residue.inExchange, ← harmed, ← hindex, ← hblock, ← hround]

/-- The header check of the warm path. -/
theorem warmHeaderOk_withResidue {s : SessionMembers} {r : Residue}
    (h : s.replay.hasReceivedPrePollCounter = true →
      r.lastPrePollCounter = s.replay.lastPrePollCounter) (frame : List UInt8) :
    warmHeaderOk (s.withResidue r) frame = warmHeaderOk s frame := by
  unfold warmHeaderOk
  cases decodeHeader frame with
  | error e => rfl
  | ok mhr =>
    have hcounter : ((s.withResidue r).replay.hasReceivedPrePollCounter &&
        decide (mhr.frameCounter ≤ (s.withResidue r).replay.lastPrePollCounter)) =
        (s.replay.hasReceivedPrePollCounter &&
          decide (mhr.frameCounter ≤ s.replay.lastPrePollCounter)) := by
      have hhas' : (s.withResidue r).replay.hasReceivedPrePollCounter =
        s.replay.hasReceivedPrePollCounter := rfl
      rw [hhas']
      cases hhas : s.replay.hasReceivedPrePollCounter with
      | false => rfl
      | true =>
        have hlast : (s.withResidue r).replay.lastPrePollCounter = s.replay.lastPrePollCounter :=
          h hhas
        rw [hlast]
    dsimp only
    rw [hcounter]
    rfl

/-- The stash of a frame hides what was stashed before. -/
theorem stash_eq (frame : List UInt8) (old old' : Bytes 128) :
    (Bytes.ofList 128 (frame.take 128 ++ old'.1.drop (min frame.length 128))).1.take
      (UInt16.ofNat (min frame.length 128)).toNat =
    (Bytes.ofList 128 (frame.take 128 ++ old.1.drop (min frame.length 128))).1.take
      (UInt16.ofNat (min frame.length 128)).toNat := by
  have hlen : (UInt16.ofNat (min frame.length 128)).toNat = min frame.length 128 := by
    rw [UInt16.toNat_ofNat']
    omega
  rw [hlen, take_stash, take_stash]

/-- **The warm path.** -/
theorem alike_armWarm {env : Env} {event : RxSuccessEvent} {frame : List UInt8} {c : Ctx}
    {r : Residue} (h : Hidden c.session r) (hwarm : c.session.warmValid = true) :
    Alike (armWarm env event frame c) (armWarm env event frame (c.withResidue r)) := by
  obtain ⟨hkeys, hheard⟩ := h.warm hwarm
  obtain ⟨r, rfl⟩ : ∃ r' : Residue, r = { r' with warm := c.session.warm } :=
    ⟨r, by rw [← hkeys]⟩
  have hpos := h.position hheard
  unfold armWarm
  simp only [startRx_eq]
  let r' : Residue := { r with
    warm := c.session.warm, armed := c.session.warm
    armedPollStsIndex := c.session.warm.pollStsIndex
    stashFrame := Bytes.ofList 128
      (frame.take 128 ++ r.stashFrame.1.drop (min frame.length 128)) }
  have hpermitted (valid : Bool) : Permitted { c.session.armedFor c.session.warm with
      warmValid := valid
      stashLen := UInt16.ofNat (min frame.length 128)
      stashFrame := Bytes.ofList 128
        (frame.take 128 ++ c.session.stashFrame.1.drop (min frame.length 128)) } r' := by
    refine ⟨⟨fun _ => ⟨rfl, hheard⟩, stash_eq frame c.session.stashFrame r.stashFrame,
      fun _ => hpos, h.prePollCounter, h.finalDataCounter⟩, fun _ => ⟨rfl, rfl, hpos⟩, ?_, ?_, ?_⟩
    · rintro (hst | hst) <;> cases hst
    · intro hst
      cases hst
    · intro hst
      cases hst
  refine alike_ite (iff_of_eq (congrArg (· = true)
    (warmHeaderOk_withResidue (r := r') h.prePollCounter frame))) (fun _ => ?_) fun _ => ?_
  · exact ⟨r', rfl, hpermitted c.session.warmValid⟩
  · exact ⟨r', rfl, hpermitted false⟩

/-- **A Poll is answered alike.** -/
theorem alike_handlePollReception {env : Env} {event : RxSuccessEvent} {c : Ctx} {r : Residue}
    (h : Permitted c.session r) (hst : c.session.state = .awaitingPoll) :
    Alike (handlePollReception P env event c)
      (handlePollReception P env event (c.withResidue r)) := by
  obtain ⟨r, rfl⟩ := h.eq_inExchange (by rw [hst]; rfl)
  have hhidden := h.toHidden
  let r' : Residue := { r.inExchange c.session with
    measurement := { r.measurement with pollRxTimestampDtu := event.rxTimestampDtu } }
  unfold handlePollReception
  refine alike_ite Iff.rfl (fun _ => alike_armPrePollListening hhidden) fun _ => ?_
  refine alike_ite Iff.rfl (fun _ => alike_armPrePollListening (r := r') (hhidden.congr rfl rfl))
    fun _ => ?_
  refine alike_ite Iff.rfl (fun _ => ⟨r', rfl, hhidden.congr rfl rfl, ?_, ?_, ?_, ?_⟩)
    fun _ => alike_armPrePollListening (r := r') (hhidden.congr rfl rfl)
  · intro _
    exact ⟨rfl, rfl, rfl, rfl⟩
  · intro _
    rfl
  · intro hst
    cases hst
  · intro hst
    cases hst

/-- **The Final is awaited alike.** -/
theorem alike_onTxComplete {env : Env} {c : Ctx} {r : Residue} (h : Permitted c.session r) :
    Alike (onTxComplete P env c) (onTxComplete P env (c.withResidue r)) := by
  unfold onTxComplete
  refine alike_ite Iff.rfl (fun hst => ?_) fun _ => ⟨r, rfl, h⟩
  obtain ⟨r, rfl⟩ := h.eq_inExchange (by rw [hst]; rfl)
  have hhidden := h.toHidden
  obtain ⟨m, hm⟩ : ∃ m : Measurement, r.measurement =
      { m with pollRxTimestampDtu := c.session.measurement.pollRxTimestampDtu } :=
    ⟨r.measurement, by rw [← h.polled (Or.inl hst)]; rfl⟩
  obtain ⟨r, rfl⟩ : ∃ r' : Residue, r = { r' with measurement :=
    { m with pollRxTimestampDtu := c.session.measurement.pollRxTimestampDtu } } :=
    ⟨r, by rw [← hm]⟩
  let r' : Residue := { r.inExchange c.session with
    measurement := { m with
      pollRxTimestampDtu := c.session.measurement.pollRxTimestampDtu
      respTxTimestampDtu := env.txTimestampDtu } }
  refine alike_ite Iff.rfl (fun _ => alike_armPrePollListening (r := r') (hhidden.congr rfl rfl))
    fun _ => ?_
  simp only [startRx_eq]
  refine ⟨r', rfl, hhidden.congr rfl rfl, ?_, ?_, ?_, ?_⟩
  · intro _
    exact ⟨rfl, rfl, rfl, rfl⟩
  · intro _
    rfl
  · intro _
    rfl
  · intro hst
    cases hst

/-- **The Final is taken alike.** -/
theorem alike_handleFinalReception {env : Env} {event : RxSuccessEvent} {c : Ctx} {r : Residue}
    (h : Permitted c.session r) (hst : c.session.state = .awaitingFinal) :
    Alike (handleFinalReception P env event c)
      (handleFinalReception P env event (c.withResidue r)) := by
  obtain ⟨r, rfl⟩ := h.eq_inExchange (by rw [hst]; rfl)
  have hhidden := h.toHidden
  obtain ⟨m, hm⟩ : ∃ m : Measurement, r.measurement = { m with
      pollRxTimestampDtu := c.session.measurement.pollRxTimestampDtu
      respTxTimestampDtu := c.session.measurement.respTxTimestampDtu } :=
    ⟨r.measurement, by rw [← h.polled (Or.inr hst), ← h.answered hst]; rfl⟩
  obtain ⟨r, rfl⟩ : ∃ r' : Residue, r = { r' with measurement := { m with
      pollRxTimestampDtu := c.session.measurement.pollRxTimestampDtu
      respTxTimestampDtu := c.session.measurement.respTxTimestampDtu } } :=
    ⟨r, by rw [← hm]⟩
  let r' : Residue := { r.inExchange c.session with
    measurement := c.session.measurement.takeFinal event env }
  unfold handleFinalReception
  simp only [startRx_eq]
  refine alike_processStashedPrePoll (r := r') ⟨hhidden.congr rfl rfl, ?_, ?_, ?_, ?_⟩
  · intro _
    exact ⟨rfl, rfl, rfl, rfl⟩
  · rintro (hst | hst) <;> cases hst
  · intro hst
    cases hst
  · intro _
    rfl

/-! ### The FinalData -/

/-- The received data are read alike. -/
theorem alike_readRx (env : Env) {c : Ctx} {r : Residue} (h : Permitted c.session r) :
    Alike (c.readRx env) ((c.withResidue r).readRx env) :=
  ⟨{ r with rxFrameBuffer := (readReceivedData env r.rxFrameBuffer).2 }, rfl,
    h.toHidden.congr rfl rfl, h.exchange, h.polled, h.answered, h.measured⟩

/-- **A distance is evaluated alike.** -/
theorem alike_evaluateFinalData {env : Env} {finalData : FinalDataPayload} {c : Ctx} {r : Residue}
    (h : Permitted c.session r) (hst : c.session.state = .awaitingFinalData) :
    Alike (evaluateFinalData P env finalData c)
      (evaluateFinalData P env finalData (c.withResidue r)) := by
  obtain ⟨r, rfl⟩ := h.eq_inExchange (by rw [hst]; rfl)
  obtain ⟨r, rfl⟩ : ∃ r' : Residue, r = { r' with measurement := c.session.measurement } :=
    ⟨r, by rw [← h.measured hst]; rfl⟩
  let r' : Residue := { r.inExchange c.session with measurement := c.session.measurement }
  have hreport : ownReport (c.withResidue r').session finalData =
      ownReport c.session finalData := rfl
  have hmeasured : (c.withResidue r').session.measurement = c.session.measurement := rfl
  have hbias : (c.withResidue r').session.nodeConfig = c.session.nodeConfig := rfl
  have hcallback : (c.withResidue r').session.callback = c.session.callback := rfl
  have hhidden := h.toHidden
  change Alike _ (evaluateFinalData P env finalData (c.withResidue r'))
  unfold evaluateFinalData
  refine alike_ite Iff.rfl (fun _ => alike_armPrePollListening hhidden) fun _ => ?_
  rw [hreport, hmeasured, hbias]
  cases ownReport c.session finalData with
  | none => exact alike_armPrePollListening hhidden
  | some report =>
    dsimp only
    cases calculateDistance (dsTwrTimestamps c.session.measurement finalData report)
      c.session.nodeConfig.antennaDelayBias with
    | error e => exact alike_armPrePollListening hhidden
    | ok distance =>
      dsimp only
      rw [evaluateDistance_eq, evaluateDistance_eq, hcallback]
      cases c.session.callback with
      | none => exact alike_armPrePollListening (r := r') (hhidden.congr rfl rfl)
      | some callback =>
        exact ⟨r', rfl, hhidden.congr rfl rfl, h.exchange, h.polled, h.answered, h.measured⟩

/-- **A FinalData is checked alike.** -/
theorem alike_handleFinalDataFrame {env : Env} {frame : List UInt8} {c : Ctx} {r : Residue}
    (h : Permitted c.session r) (hst : c.session.state = .awaitingFinalData) :
    Alike (handleFinalDataFrame P env frame c)
      (handleFinalDataFrame P env frame (c.withResidue r)) := by
  have hcheck : checkFinalDataFrame P (c.withResidue r).session frame (c.withResidue r).faults =
      checkFinalDataFrame P c.session frame c.faults :=
    congrFun (checkFinalDataFrame_withResidue h.toHidden (h.exchange (by rw [hst]; rfl)).2.1 _) _
  have hhidden := h.toHidden
  unfold handleFinalDataFrame
  dsimp only [Ctx.run]
  rw [hcheck]
  rcases checkFinalDataFrame P c.session frame c.faults with ⟨e | ⟨mhr, finalData⟩, f⟩
  · exact alike_armPrePollListening (r := r) (hhidden.congr rfl rfl)
  · refine alike_evaluateFinalData (r := { r with lastFinalDataCounter := mhr.frameCounter })
      ⟨?_, h.exchange, h.polled, h.answered, h.measured⟩ hst
    exact ⟨hhidden.warm, hhidden.stash, hhidden.position, hhidden.prePollCounter, fun _ => rfl⟩

/-- The reception of a FinalData is served alike. -/
theorem alike_handleFinalDataReception {env : Env} {c : Ctx} {r : Residue}
    (h : Permitted c.session r) (hst : c.session.state = .awaitingFinalData) :
    Alike (handleFinalDataReception P env c)
      (handleFinalDataReception P env (c.withResidue r)) := by
  obtain ⟨r', hread, hr'⟩ := alike_readRx env h
  rw [handleFinalDataReception_eq, handleFinalDataReception_eq, hread]
  cases receivedFrame env with
  | none => exact alike_armPrePollListening hr'.toHidden
  | some frame => exact alike_handleFinalDataFrame hr' hst

/-! ### The PrePoll -/

/-- **An exchange is armed alike.** -/
theorem alike_armExchange {env : Env} {event : RxSuccessEvent} {prePoll : PrePollPayload} {c : Ctx}
    {r : Residue} (h : Hidden c.session r)
    (hheard : c.session.replay.hasPrePollStsIndex = true) :
    Alike (armExchange P env event prePoll c)
      (armExchange P env event prePoll (c.withResidue r)) := by
  obtain ⟨keys, hkeys, hok⟩ := deriveCycleKeys_out (P := P) c.session prePoll.pollStsIndex
    c.session.armed r.armed c.faults
  have hderive : deriveCycleKeys P ((c.withResidue r).command .forceReceiverOff).session
      prePoll.pollStsIndex ((c.withResidue r).command .forceReceiverOff).session.armed
      ((c.withResidue r).command .forceReceiverOff).faults = _ := hkeys
  unfold armExchange
  dsimp only [Ctx.run]
  rw [hderive]
  rcases hres : deriveCycleKeys P c.session prePoll.pollStsIndex c.session.armed c.faults with
    ⟨⟨e | ⟨⟩, armed⟩, f⟩
  · have hres' : deriveCycleKeys P (c.command .forceReceiverOff).session prePoll.pollStsIndex
      (c.command .forceReceiverOff).session.armed (c.command .forceReceiverOff).faults = _ := hres
    rw [hres']
    exact alike_armPrePollListening (r := { r with armed := keys }) (h.congr rfl rfl)
  · have hres' : deriveCycleKeys P (c.command .forceReceiverOff).session prePoll.pollStsIndex
      (c.command .forceReceiverOff).session.armed (c.command .forceReceiverOff).faults = _ := hres
    rw [hres] at hok
    obtain rfl := hok rfl
    rw [hres']
    simp only [startRx_eq]
    have hpos := h.position hheard
    refine alike_refreshWarmKeys
      (r := { r with armed := keys, armedPollStsIndex := keys.pollStsIndex })
      ⟨h.congr rfl rfl, fun _ => ⟨rfl, rfl, hpos⟩, ?_, ?_, ?_⟩ hheard
    · rintro (hst | hst) <;> cases hst
    · intro hst
      cases hst
    · intro hst
      cases hst

/-- **The bootstrap path.** -/
theorem alike_armBootstrap {env : Env} {event : RxSuccessEvent} {frame : List UInt8} {c : Ctx}
    {r : Residue} (h : Hidden c.session r) :
    Alike (armBootstrap P env event frame c)
      (armBootstrap P env event frame (c.withResidue r)) := by
  have hcheck : checkPrePollFrame P (c.withResidue r).session frame (c.withResidue r).faults =
      checkPrePollFrame P c.session frame c.faults :=
    congrFun (checkPrePollFrame_withResidue h _) _
  unfold armBootstrap
  rw [decodePrePollFrame_eq, decodePrePollFrame_eq, hcheck]
  rcases checkPrePollFrame P c.session frame c.faults with ⟨e | ⟨mhr, prePoll⟩, f⟩
  · exact alike_armPrePollListening (r := r) (h.congr rfl rfl)
  have haccepted := h.prePollAccepted mhr prePoll
  refine alike_ite Iff.rfl (fun _ => ?_) fun _ => ?_
  · exact alike_armPrePollListening (r := r.prePollAccepted mhr prePoll) haccepted
  · exact alike_armExchange (r := r.prePollAccepted mhr prePoll) haccepted rfl

/-- The reception of a PrePoll is served alike. -/
theorem alike_handlePrePollReception {env : Env} {event : RxSuccessEvent} {c : Ctx} {r : Residue}
    (h : Permitted c.session r) : Alike (handlePrePollReception P env event c)
      (handlePrePollReception P env event (c.withResidue r)) := by
  obtain ⟨r', hread, hr'⟩ := alike_readRx env h
  rw [handlePrePollReception_eq, handlePrePollReception_eq, hread]
  cases receivedFrame env with
  | none => exact alike_armPrePollListening hr'.toHidden
  | some frame =>
    exact alike_ite Iff.rfl (fun hwarm => alike_armWarm hr'.toHidden hwarm)
      fun _ => alike_armBootstrap hr'.toHidden

/-! ### Radio events -/

/-- A reception is served alike in every state. -/
theorem alike_onRxSuccess {env : Env} {event : RxSuccessEvent} {c : Ctx} {r : Residue}
    (h : Permitted c.session r) :
    Alike (onRxSuccess P env event c) (onRxSuccess P env event (c.withResidue r)) := by
  have hstate : (c.withResidue r).session.state = c.session.state := rfl
  unfold onRxSuccess
  rw [hstate]
  cases hst : c.session.state with
  | prePollListening => exact alike_handlePrePollReception h
  | awaitingPoll => exact alike_handlePollReception h hst
  | awaitingFinal => exact alike_handleFinalReception h hst
  | awaitingFinalData => exact alike_handleFinalDataReception h hst
  | _ => exact ⟨r, rfl, h⟩

/-- A timeout is served alike. -/
theorem alike_onRxTimeout {env : Env} {c : Ctx} {r : Residue} (h : Permitted c.session r) :
    Alike (onRxTimeout P env c) (onRxTimeout P env (c.withResidue r)) := by
  have hstate : (c.withResidue r).session.state = c.session.state := rfl
  unfold onRxTimeout
  rw [hstate]
  cases c.session.state with
  | idle | uninitialized | suspended | prePollListening => exact ⟨r, rfl, h⟩
  | _ => exact alike_armPrePollListening h.toHidden

/-- An error is served alike. -/
theorem alike_onRxError {env : Env} {c : Ctx} {r : Residue} (h : Permitted c.session r) :
    Alike (onRxError P env c) (onRxError P env (c.withResidue r)) := by
  have hstate : (c.withResidue r).session.state = c.session.state := rfl
  unfold onRxError
  rw [hstate]
  cases c.session.state with
  | idle | uninitialized | suspended => exact ⟨r, rfl, h⟩
  | _ => exact alike_armPrePollListening h.toHidden

/-! ### Control calls -/

/-- Returning ends both calls. -/
theorem Alike.return' {c c' : Ctx} (h : Alike c c') (res : Except StatusCode Unit) :
    Alike (return' res c) (return' res c') := by
  obtain ⟨r, rfl, hr⟩ := h
  exact ⟨r, rfl, hr⟩

/-- After a derivation, the errors remembered are the same if they can still be
returned. -/
def AlikeDerived (r : Residue) (c c' : Ctx) : Prop :=
  ∃ e, c' = c.withResidue { r with lastDeriveError := e } ∧
    (c.session.materialValid = true ∨ e = c.session.lastDeriveError)

/-- One step of the derivation goes alike. -/
theorem alikeDerived_derive {α : Type} {x : CryptoM α} {store : α → KeyMaterial → KeyMaterial}
    {next : Ctx → Ctx} {c : Ctx} {r : Residue}
    (h : ∀ a faults, let c' := { c with
        session := { c.session with keys := store a c.session.keys }, faults }
      AlikeDerived r (next c') (next (c'.withResidue r))) :
    AlikeDerived r (derive x store next c) (derive x store next (c.withResidue r)) := by
  have hfaults : (c.withResidue r).faults = c.faults := rfl
  unfold derive
  dsimp only [Ctx.run]
  rw [hfaults]
  rcases x c.faults with ⟨e | a, faults⟩
  · exact ⟨e, rfl, Or.inr rfl⟩
  · exact h a faults

/-- **The key material is derived alike.** -/
theorem alikeDerived_deriveSessionMaterial (c : Ctx) (r : Residue) :
    AlikeDerived r (deriveSessionMaterial P c) (deriveSessionMaterial P (c.withResidue r)) := by
  unfold deriveSessionMaterial
  refine alikeDerived_derive fun mupsk1 f₁ => ?_
  refine alikeDerived_derive fun mupsk2 f₂ => ?_
  refine alikeDerived_derive fun mursk f₃ => ?_
  refine alikeDerived_derive fun saltedHash f₄ => ?_
  refine alikeDerived_derive fun addresses f₅ => ?_
  exact ⟨r.lastDeriveError, rfl, Or.inl rfl⟩

/-- The derivation leaves a residue permitted. -/
theorem permitted_derived {material : CryptoM KeyMaterial} {c c' : Ctx} {r : Residue}
    (hc : MaterialDerived material c c') (h : Permitted c.session r) (e : StatusCode) :
    Permitted c'.session { r with lastDeriveError := e } := by
  have hhidden := h.toHidden
  cases hc <;>
    exact ⟨hhidden.congr rfl rfl, h.exchange, h.polled, h.answered, h.measured⟩

/-- What is forgotten need not agree. -/
theorem Permitted.clearTracking {s : SessionMembers} {r : Residue} (h : Permitted s r)
    (aoaStability : AoaStabilityDetector) :
    Permitted { Session.clearTracking s with aoaStability } r where
  toHidden := ⟨(nomatch ·), h.stash, (nomatch ·), (nomatch ·), (nomatch ·)⟩
  exchange := h.exchange
  polled := h.polled
  answered := h.answered
  measured := h.measured

/-- After a derivation in two sessions alike, a control call goes on with its
material or returns the error. -/
theorem alike_derived {c c' : Ctx} {r : Residue} (f : Ctx → Ctx) (h : AlikeDerived r c c')
    (hpermitted : ∀ e, Permitted c.session { r with lastDeriveError := e })
    (hf : ∀ q, Permitted c.session q → Alike (f c) (f (c.withResidue q))) :
    Alike (if !c.session.materialValid then return' (.error c.session.lastDeriveError) c else f c)
      (if !c'.session.materialValid then return' (.error c'.session.lastDeriveError) c'
        else f c') := by
  obtain ⟨e, rfl, he⟩ := h
  refine alike_ite Iff.rfl (fun hvalid => ?_) fun _ => hf _ (hpermitted e)
  rcases he with hvalid' | rfl
  · rw [hvalid'] at hvalid
    cases hvalid
  · exact ⟨_, rfl, hpermitted _⟩

/-- `start` is served alike. -/
theorem alike_start {env : Env} {ursk : Bytes 32} {params : RangingSessionParameters}
    {nodeConfig : SessionNodeConfig} {callback : Option ℕ} {c : Ctx} {r : Residue}
    (h : Permitted c.session r) : Alike (start P env ursk params nodeConfig callback c)
      (start P env ursk params nodeConfig callback (c.withResidue r)) := by
  have hhidden := h.toHidden
  let c₁ : Ctx := (c.command .forceReceiverOff).modify fun s =>
    { s with params, nodeConfig, callback, ursk }
  have h₁ : Permitted c₁.session r :=
    ⟨hhidden.congr rfl rfl, h.exchange, h.polled, h.answered, h.measured⟩
  unfold start
  refine alike_derived (fun c => configureAndListen P env
    (c.modify fun s => { Session.clearTracking s with aoaStability := .new {} }))
    (alikeDerived_deriveSessionMaterial c₁ r)
    (permitted_derived (materialDerived_deriveSessionMaterial c₁) h₁) fun q hq => ?_
  have hcleared := hq.clearTracking (.new {})
  unfold configureAndListen
  cases env.configurePhyError with
  | some e => exact ⟨q, rfl, hcleared⟩
  | none => exact (alike_armPrePollListening (r := q) hcleared.toHidden).return' _

/-- `resumeWithAnchor` is served alike. -/
theorem alike_resumeWithAnchor {env : Env} {newStsIndex0 : StsIndex} {c : Ctx} {r : Residue}
    (h : Permitted c.session r) : Alike (resumeWithAnchor P env newStsIndex0 c)
      (resumeWithAnchor P env newStsIndex0 (c.withResidue r)) := by
  have hhidden := h.toHidden
  let c₁ : Ctx := c.modify fun s =>
    { s with params := { s.params with stsIndex0 := newStsIndex0 }, materialValid := false }
  have h₁ : Permitted c₁.session r :=
    ⟨hhidden.congr rfl rfl, h.exchange, h.polled, h.answered, h.measured⟩
  unfold resumeWithAnchor
  refine alike_ite Iff.rfl (fun _ => ⟨r, rfl, h⟩) fun _ => ?_
  refine alike_derived (fun c => return' (.ok ()) (armPrePollListening P env
    (c.modify fun s => { Session.clearTracking s with aoaStability := s.aoaStability.reset })))
    (alikeDerived_deriveSessionMaterial c₁ r)
    (permitted_derived (materialDerived_deriveSessionMaterial c₁) h₁) fun q hq => ?_
  have hcleared := hq.clearTracking (deriveSessionMaterial P c₁).session.aoaStability.reset
  exact (alike_armPrePollListening (r := q) hcleared.toHidden).return' _

/-- **The step lemma**: every input is served alike. -/
theorem alike_serve {i : Input} {c : Ctx} {r : Residue} (h : Permitted c.session r) :
    Alike (serve P i c) (serve P i (c.withResidue r)) := by
  have hhidden := h.toHidden
  unfold serve
  cases i.action with
  | start => exact alike_start h
  | stop => exact ⟨r, rfl, Hidden.permitted (hhidden.congr rfl rfl) rfl⟩
  | suspend => exact ⟨r, rfl, Hidden.permitted (hhidden.congr rfl rfl) rfl⟩
  | resume =>
    exact alike_ite Iff.rfl (fun _ => ⟨r, rfl, h⟩)
      fun _ => (alike_armPrePollListening hhidden).return' _
  | resumeWithAnchor => exact alike_resumeWithAnchor h
  | rxSuccess => exact alike_onRxSuccess h
  | rxTimeout => exact alike_onRxTimeout h
  | rxError => exact alike_onRxError h
  | txComplete => exact alike_onTxComplete h
  | callbackReturn => exact alike_armPrePollListening (r := r) (hhidden.congr rfl rfl)

/-- Two systems that differ in a permitted residue. -/
def AlikeSystems (x y : System) : Prop :=
  ∃ r, y = ⟨x.session.withResidue r, x.inCallback⟩ ∧ Permitted x.session r

/-- They step alike. -/
theorem AlikeSystems.step {x y t : System} {i : Input} {o : List Output} (h : AlikeSystems x y)
    (hstep : (machine P).step x i = some (t, o)) :
    ∃ t', (machine P).step y i = some (t', o) ∧ AlikeSystems t t' := by
  obtain ⟨r, rfl, hr⟩ := h
  obtain ⟨q, heq, hq⟩ := alike_serve (P := P) (i := i) (c := x.enter i) hr
  have henter : System.enter ⟨x.session.withResidue r, x.inCallback⟩ i =
      (x.enter i).withResidue r := rfl
  have henabled : System.enabled ⟨x.session.withResidue r, x.inCallback⟩ i.action =
      x.enabled i.action := rfl
  simp only [machine, System.step, henter, henabled, heq] at hstep ⊢
  split_ifs at hstep ⊢
  obtain ⟨rfl, rfl⟩ := Prod.mk.inj (Option.some.inj hstep)
  exact ⟨_, rfl, q, rfl, hq⟩

/-- **A permitted residue does not show**: every run is matched by a run of the
system with the other residue, with the same inputs and outputs. -/
theorem AlikeSystems.run {x y t : System} {tr : List Event} (h : AlikeSystems x y)
    (hrun : (machine P).Run x tr t) :
    ∃ tr' t', (machine P).Run y tr' t' ∧
      tr'.map (·.input) = tr.map (·.input) ∧ tr'.map (·.output) = tr.map (·.output) := by
  obtain ⟨tr', t', hrun', hin, hout, -⟩ :=
    hrun.simulate h fun _ _ _ _ _ hxy hstep => hxy.step hstep
  exact ⟨tr', t', hrun', hin, hout⟩

end Session
end AliroUwb
