/-
# The event handlers

`src/session/RangingSession.cpp`, from `armPrePollListening` to
`handleFinalDataReception`.  Each handler is a function from `Ctx` to `Ctx`,
with the early returns of the C++ code as the branches of a conditional.

Two functions of the source appear in two parts.  `decodePrePollFrame` is its
checks (`checkPrePollFrame`) followed by the update of the replay state, and
`handleFinalDataReception` likewise (`checkFinalDataFrame`).  And
`handleFinalDataReception` stops where it calls the user's callback: user code
runs there, and what the handler does after it returns is `afterCallback`.

The hot-path log macro is off and the logger absent, as in the default build.
-/

import AliroUwb.Crypto.Sp0
import AliroUwb.Ranging.Distance
import AliroUwb.Session.Schedule

namespace AliroUwb
namespace Session

open Crypto Protocol Ranging Transceiver

/-- `TicksPerRstuHi32`. -/
def ticksPerRstuHi32 : UInt32 := 208

/-- `LeadTimeHi32`. -/
def leadTimeHi32 : UInt32 := 40000

/-- `WindowTimeoutDtu`. -/
def windowTimeoutDtu : UInt16 := 1350

/-- `ImmediateSearchWindowDtu`. -/
def immediateSearchWindowDtu : UInt16 := 4000

/-- `RespAntDelayHi32`. -/
def respAntDelayHi32 : UInt32 := 62

/-- `matchKeySource`: equal or reversed. -/
def matchKeySource (a b : Bytes 4) : Bool := a == b || a.1 == b.1.reverse

/-- `matchShortAddress`: equal or byte-swapped. -/
def matchShortAddress (a b : UInt16) : Bool := a == b || a == (b >>> 8 ||| b <<< 8)

/-- `slotTicksHi32` of the handlers. -/
def slotTicksHi32 (params : RangingSessionParameters) : UInt32 :=
  params.slotDurationRstu.toUInt32 * ticksPerRstuHi32

/-- `static_cast<uint32_t>(timestamp >> 8)`. -/
def hi32 (timestampDtu : UInt64) : UInt32 := (timestampDtu >>> 8).toUInt32

variable (P : Platform) (env : Env)

/-- `RangingSession::transitionTo`. -/
def transitionTo (newState : SessionState) (c : Ctx) : Ctx :=
  (c.modify fun s => { s with state := newState }).emit (.transition newState)

/-- `RangingSession::deriveCycleKeys`: the keys it derives, written to `out` as
far as the derivation gets. -/
def deriveCycleKeys (s : SessionMembers) (pollStsIndex : StsIndex) (out : CycleKeys) :
    StateM Faults (Except StatusCode Unit × CycleKeys) := do
  let slotKeys (stsIndex : StsIndex) := (deriveSlotKeys P.crypto s.keys.mursk s.keys.saltedHash
    stsIndex s.params.slotsPerRound.toUInt16 s.params.stsIndex0).run
  let out := { out with pollStsIndex }
  match ← slotKeys pollStsIndex with
  | .error e => return (.error e, out)
  | .ok poll =>
    let out := { out with poll }
    match ← slotKeys (pollStsIndex + 1 + s.nodeConfig.responderIndex.toUInt32) with
    | .error e => return (.error e, out)
    | .ok response =>
      let out := { out with response }
      match ← slotKeys (pollStsIndex + 1 + s.params.responderCount.toUInt32) with
      | .error e => return (.error e, out)
      | .ok final => return (.ok (), { out with final })

/-- `RangingSession::refreshWarmKeys`. -/
def refreshWarmKeys (c : Ctx) : Ctx :=
  let s := c.session
  match nextScheduledExchange s.params s.currentBlock s.currentRound with
  | none => c.modify fun s => { s with warmValid := false }
  | some (nextBlock, nextRound) =>
    let expectedPollSts := pollStsIndexFor s.params nextBlock nextRound
    let ((res, warm), c) := c.run (deriveCycleKeys P s expectedPollSts s.warm)
    match res with
    | .ok () => c.modify fun s => { s with warm, warmValid := true }
    | .error _ => c.modify fun s => { s with warm, warmValid := false }

/-- The checks of `RangingSession::decodePrePollFrame`, in their order. -/
def checkPrePollFrame (s : SessionMembers) (frame : List UInt8) :
    StateM Faults (Except StatusCode (MacHeader × PrePollPayload)) :=
  match decodeHeader frame with
  | .error _ => return .error .malformedFrame
  | .ok mhr =>
    let securedLen := mhr.payloadLength.toNat + micLength
    if mhr.messageId ≠ .prePoll then return .error .malformedFrame
    else if !matchShortAddress mhr.destinationShortAddress s.keys.addresses.destinationShort ||
        !matchKeySource mhr.keySource s.keys.addresses.keySource then
      return .error .malformedFrame
    else if s.replay.hasReceivedPrePollCounter ∧ mhr.frameCounter ≤ s.replay.lastPrePollCounter then
      return .error .malformedFrame
    else if frame.length < macHeaderLength + securedLen then return .error .malformedFrame
    else do
      let (decRes, decryptedPayload) ← decryptPayload P.crypto s.keys.mupsk1
        s.keys.addresses.sourceLong mhr.frameCounter (frame.take macHeaderLength)
        ((frame.drop macHeaderLength).take securedLen) (List.replicate prePollPayloadLength 0)
      match decRes, decodePrePoll decryptedPayload with
      | .error _, _ => return .error .malformedFrame
      | _, .error _ => return .error .malformedFrame
      | .ok _, .ok prePoll =>
        if prePoll.sessionId ≠ s.params.sessionId then return .error .malformedFrame
        else if s.replay.hasPrePollStsIndex ∧
            (prePoll.pollStsIndex - s.replay.lastPrePollStsIndex).toInt32 ≤ 0 then
          return .error .malformedFrame
        else return .ok (mhr, prePoll)

/-- The replay state after an accepted PrePoll. -/
def ReplayState.acceptPrePoll (r : ReplayState) (mhr : MacHeader) (prePoll : PrePollPayload) :
    ReplayState :=
  { r with
    lastPrePollStsIndex := prePoll.pollStsIndex, hasPrePollStsIndex := true,
    lastPrePollCounter := mhr.frameCounter, hasReceivedPrePollCounter := true }

/-- `RangingSession::decodePrePollFrame`. -/
def decodePrePollFrame (frame : List UInt8) (c : Ctx) : Except StatusCode PrePollPayload × Ctx :=
  let (res, c) := c.run (checkPrePollFrame P c.session frame)
  match res with
  | .error e => (.error e, c)
  | .ok (mhr, prePoll) =>
    (.ok prePoll, (c.modify fun s => { s with replay := s.replay.acceptPrePoll mhr prePoll }).emit
      (.acceptedPrePoll mhr prePoll))

/-- `RangingSession::processStashedPrePoll`. -/
def processStashedPrePoll (c : Ctx) : Ctx :=
  if c.session.stashLen = 0 then c
  else
    let frame := c.session.stashFrame.1.take c.session.stashLen.toNat
    let c := c.modify fun s => { s with stashLen := 0 }
    let (res, c) := decodePrePollFrame P frame c
    match res with
    | .ok prePoll =>
      let c := c.modify fun s =>
        { s with currentBlock := prePoll.rangingBlock, currentRound := prePoll.roundIndex }
      if isBlockParityEligible c.session.nodeConfig c.session.currentBlock then refreshWarmKeys P c
      else c
    | .error _ => c.modify fun s => { s with warmValid := false }

/-- `RangingSession::armPrePollListening`. -/
def armPrePollListening (c : Ctx) : Ctx :=
  let c := c.command .forceReceiverOff
  let c := c.command (.configureStsMode .off)
  let c := c.command (.startImmediateRx 0 env.immediateRxStarts)
  let c := transitionTo .prePollListening c
  processStashedPrePoll P c

/-- `startDelayedRx`, and `startImmediateRx` where it was too late for that. -/
def startRx (rxStartTimeDtu : UInt32) (timeoutDtu immediateTimeoutDtu : UInt16) (c : Ctx) : Ctx :=
  let c := c.command (.startDelayedRx rxStartTimeDtu timeoutDtu env.delayedRxStarts)
  if env.delayedRxStarts then c
  else c.command (.startImmediateRx immediateTimeoutDtu env.immediateRxStarts)

/-- The header check after the warm arm in `handlePrePollReception`. -/
def warmHeaderOk (s : SessionMembers) (frame : List UInt8) : Bool :=
  match decodeHeader frame with
  | .error _ => false
  | .ok mhr =>
    mhr.messageId == .prePoll &&
      matchShortAddress mhr.destinationShortAddress s.keys.addresses.destinationShort &&
      matchKeySource mhr.keySource s.keys.addresses.keySource &&
      !(s.replay.hasReceivedPrePollCounter &&
        decide (mhr.frameCounter ≤ s.replay.lastPrePollCounter))

/-- When the Poll window of the exchange opened by a PrePoll starts. -/
def pollRxTime (params : RangingSessionParameters) (event : RxSuccessEvent) : UInt32 :=
  hi32 event.rxTimestampDtu + slotTicksHi32 params - leadTimeHi32

/-- The warm path of `RangingSession::handlePrePollReception`: arm first, check
the header afterwards, leave the decoding to the stash. -/
def armWarm (event : RxSuccessEvent) (frame : List UInt8) (c : Ctx) : Ctx :=
  let c := c.modify fun s =>
    { s with armed := s.warm, armedKeysValid := true, armedPollStsIndex := s.warm.pollStsIndex }
  let c := c.command (.configureStsMode .noDataSp3)
  let c := c.command (.loadStsKeyIv c.session.armed.poll.durskKey c.session.armed.poll.stsIv)
  let c := c.modify fun s =>
    { s with
      stashLen := UInt16.ofNat (min frame.length 128)
      stashFrame := Bytes.ofList 128
        (frame.take 128 ++ s.stashFrame.1.drop (min frame.length 128)) }
  let c := startRx env (pollRxTime c.session.params event) windowTimeoutDtu
    immediateSearchWindowDtu c
  let c := transitionTo .awaitingPoll c
  if warmHeaderOk c.session frame then c else c.modify fun s => { s with warmValid := false }

/-- The end of the bootstrap path: derive the keys of the announced exchange,
arm it, and predict the next one. -/
def armExchange (event : RxSuccessEvent) (prePoll : PrePollPayload) (c : Ctx) : Ctx :=
  let c := c.command .forceReceiverOff
  let ((cycleRes, armed), c) := c.run
    (deriveCycleKeys P c.session prePoll.pollStsIndex c.session.armed)
  let c := c.modify fun s => { s with armed }
  match cycleRes with
  | .error _ => armPrePollListening P env c
  | .ok () =>
    let c := c.modify fun s =>
      { s with armedKeysValid := true, armedPollStsIndex := s.armed.pollStsIndex }
    let c := c.command (.configureStsMode .noDataSp3)
    let c := c.command (.loadStsKeyIv c.session.armed.poll.durskKey c.session.armed.poll.stsIv)
    let c := startRx env (pollRxTime c.session.params event) windowTimeoutDtu
      immediateSearchWindowDtu c
    let c := transitionTo .awaitingPoll c
    refreshWarmKeys P c

/-- The bootstrap path of `RangingSession::handlePrePollReception`: decode
first, and arm an exchange of a block that is ours. -/
def armBootstrap (event : RxSuccessEvent) (frame : List UInt8) (c : Ctx) : Ctx :=
  let (prePollRes, c) := decodePrePollFrame P frame c
  match prePollRes with
  | .error _ => armPrePollListening P env c
  | .ok prePoll =>
    let c := c.modify fun s =>
      { s with currentBlock := prePoll.rangingBlock, currentRound := prePoll.roundIndex }
    if !isBlockParityEligible c.session.nodeConfig c.session.currentBlock then
      armPrePollListening P env c
    else armExchange P env event prePoll c

/-- `RangingSession::handlePrePollReception`. -/
def handlePrePollReception (event : RxSuccessEvent) (c : Ctx) : Ctx :=
  let (readLen, rxFrameBuffer) := readReceivedData env c.session.rxFrameBuffer
  let c := c.modify fun s => { s with rxFrameBuffer }
  match readLen with
  | .error _ => armPrePollListening P env c
  | .ok readLen =>
    if readLen < macHeaderLength then armPrePollListening P env c
    else
      let frame := c.session.rxFrameBuffer.1.take readLen
      if c.session.warmValid then armWarm env event frame c
      else armBootstrap P env event frame c

/-- `RangingSession::handlePollReception`. -/
def handlePollReception (event : RxSuccessEvent) (c : Ctx) : Ctx :=
  if !event.stsPassed then armPrePollListening P env c
  else
    let c := c.modify fun s =>
      { s with measurement := { s.measurement with pollRxTimestampDtu := event.rxTimestampDtu } }
    let slotOffset := 1 + c.session.nodeConfig.responderIndex.toUInt32
    let respTxTime := hi32 c.session.measurement.pollRxTimestampDtu +
      slotOffset * slotTicksHi32 c.session.params - respAntDelayHi32
    if !c.session.armedKeysValid then armPrePollListening P env c
    else
      let c := c.command (.configureStsMode .noDataSp3)
      let c := c.command
        (.loadStsKeyIv c.session.armed.response.durskKey c.session.armed.response.stsIv)
      let c := c.command (.startDelayedTx respTxTime true env.delayedTxStarts)
      if env.delayedTxStarts then transitionTo .transmittingResponse c
      else armPrePollListening P env c

/-- `RangingSession::handleFinalReception`. -/
def handleFinalReception (event : RxSuccessEvent) (c : Ctx) : Ctx :=
  let c := c.modify fun s =>
    { s with measurement := { s.measurement with
        finalRxTimestampDtu := event.rxTimestampDtu
        finalStsQuality := event.stsQualityIndex
        finalStsPassed := event.stsPassed
        finalPdoaRaw := event.pdoaRaw
        finalPdoaValid := event.pdoaValid } }
  let c := c.command .forceReceiverOff
  let c := c.command (.configureStsMode .off)
  let finalDataOffset := 2 + c.session.params.responderCount.toUInt32
  let finalDataRxTime := hi32 c.session.measurement.pollRxTimestampDtu +
    finalDataOffset * slotTicksHi32 c.session.params - leadTimeHi32
  let c := startRx env finalDataRxTime (windowTimeoutDtu * 2) (windowTimeoutDtu * 2) c
  let c := transitionTo .awaitingFinalData c
  let c := c.modify fun s =>
    { s with measurement := { s.measurement with
        finalFirstPathDbQ8 := env.firstPath.firstPathPowerDbQ8
        finalRssiDbQ8 := env.firstPath.rssiDbQ8
        finalNlosDiagValid := env.firstPath.valid } }
  processStashedPrePoll P c

/-- The checks of `RangingSession::handleFinalDataReception` up to the session
id, in their order; the errors all lead to the same exit. -/
def checkFinalDataFrame (s : SessionMembers) (frame : List UInt8) :
    StateM Faults (Except StatusCode (MacHeader × FinalDataPayload)) :=
  match decodeHeader frame with
  | .error e => return .error e
  | .ok mhr =>
    let securedLen := mhr.payloadLength.toNat + micLength
    if mhr.messageId ≠ .finalData then return .error .malformedFrame
    else if s.replay.hasReceivedFinalDataCounter ∧
        mhr.frameCounter ≤ s.replay.lastFinalDataCounter then
      return .error .replayDetected
    else if frame.length < macHeaderLength + securedLen then return .error .malformedFrame
    else do
      match ← (deriveSlotKeys P.crypto s.keys.mursk s.keys.saltedHash s.armedPollStsIndex
        s.params.slotsPerRound.toUInt16 s.params.stsIndex0).run with
      | .error e => return .error e
      | .ok slotKeys =>
        let (decRes, decryptedPayload) ← decryptPayload P.crypto slotKeys.dudskKey
          s.keys.addresses.sourceLong mhr.frameCounter (frame.take macHeaderLength)
          ((frame.drop macHeaderLength).take securedLen) (List.replicate 128 0)
        match decRes with
        | .error e => return .error e
        | .ok len =>
          match decodeFinalData (decryptedPayload.take len) with
          | .error e => return .error e
          | .ok finalData =>
            if finalData.sessionId ≠ s.params.sessionId then return .error .malformedFrame
            else return .ok (mhr, finalData)

/-- The replay state after an accepted FinalData. -/
def ReplayState.acceptFinalData (r : ReplayState) (mhr : MacHeader) : ReplayState :=
  { r with lastFinalDataCounter := mhr.frameCounter, hasReceivedFinalDataCounter := true }

/-- `expectedFinalSts`: the STS index of the Final slot of the armed exchange. -/
def expectedFinalSts (s : SessionMembers) : StsIndex :=
  s.armedPollStsIndex + 1 + s.params.responderCount.toUInt32

/-- The report of this responder, the first one with its index. -/
def ownReport (s : SessionMembers) (finalData : FinalDataPayload) :
    Option ResponderTimestampReport :=
  finalData.responderReports.find? fun r => r.responderIndex == s.nodeConfig.responderIndex

/-- `dsTs`: the four intervals of the double-sided exchange. -/
def dsTwrTimestamps (m : Measurement) (finalData : FinalDataPayload)
    (report : ResponderTimestampReport) : DoubleSidedTwrTimestamps where
  round1Dtu := report.pollToResponseDeltaDtu
  reply1Dtu := (m.respTxTimestampDtu - m.pollRxTimestampDtu).toUInt32
  round2Dtu := (m.finalRxTimestampDtu - m.respTxTimestampDtu).toUInt32
  reply2Dtu := finalData.pollToFinalTxDeltaDtu - report.pollToResponseDeltaDtu

/-- The part of `RangingSession::handleFinalDataReception` that evaluates a
distance: filter, line of sight, angle, and the call of the callback. -/
def evaluateDistance (distance : DistanceMm) (c : Ctx) : Ctx :=
  let s := c.session
  let m := s.measurement
  let (integrity, filter) := s.filter.ingest distance (if m.finalStsPassed then 0 else -1)
    m.finalStsQuality
  let nlos := evaluateNlos m.finalFirstPathDbQ8 m.finalRssiDbQ8
  let integrity := { integrity with
    nlosValid := nlos.valid && m.finalNlosDiagValid
    nlosDetected := nlos.nlos
    firstPathPowerDbQ8 := m.finalFirstPathDbQ8
    rssiDbQ8 := m.finalRssiDbQ8 }
  let aoa := if s.nodeConfig.enableAoA then
    P.fromPdoa m.finalPdoaRaw s.params.channel s.nodeConfig.aoaAntennaSpacingMm else {}
  let (aoaVerdict, aoaStability) := if aoa.valid then s.aoaStability.ingest aoa.centiDegrees
    else ({}, s.aoaStability)
  let integrity := if aoa.valid then { integrity with
    aoaUnstable := aoaVerdict.jump
    nlosDetected := integrity.nlosDetected || aoaVerdict.gated } else integrity
  let c := c.modify fun s => { s with filter, aoaStability }
  match s.callback with
  | none => armPrePollListening P env c
  | some callback =>
    { c.emit (.range callback {
        sessionId := s.params.sessionId
        blockIndex := s.currentBlock
        roundInBlock := if s.currentRound = scheduledRoundFor s.params s.currentBlock then 0 else 1
        distance := distance
        integrity := integrity
        timestampUs := env.monotonicTimeUs
        aoaCentiDegrees := aoa.centiDegrees
        aoaValid := aoa.valid }) with inCallback := true }

/-- The part of `RangingSession::handleFinalDataReception` after the replay state
is updated: find the own report and calculate the distance. -/
def evaluateFinalData (finalData : FinalDataPayload) (c : Ctx) : Ctx :=
  if finalData.finalStsIndex ≠ expectedFinalSts c.session then armPrePollListening P env c
  else
    match ownReport c.session finalData with
    | none => armPrePollListening P env c
    | some report =>
      match calculateDistance (dsTwrTimestamps c.session.measurement finalData report)
        c.session.nodeConfig.antennaDelayBias with
      | .error _ => armPrePollListening P env c
      | .ok distance => evaluateDistance P env distance c

/-- The part of `RangingSession::handleFinalDataReception` that has a frame. -/
def handleFinalDataFrame (frame : List UInt8) (c : Ctx) : Ctx :=
  let (res, c) := c.run (checkFinalDataFrame P c.session frame)
  match res with
  | .error _ => armPrePollListening P env c
  | .ok (mhr, finalData) =>
    evaluateFinalData P env finalData
      ((c.modify fun s => { s with replay := s.replay.acceptFinalData mhr }).emit
        (.acceptedFinalData mhr finalData))

/-- `RangingSession::handleFinalDataReception`, up to the return of the
callback where it calls it. -/
def handleFinalDataReception (c : Ctx) : Ctx :=
  let (readLen, rxFrameBuffer) := readReceivedData env c.session.rxFrameBuffer
  let c := c.modify fun s => { s with rxFrameBuffer }
  match readLen with
  | .error _ => armPrePollListening P env c
  | .ok readLen =>
    if readLen < macHeaderLength then armPrePollListening P env c
    else handleFinalDataFrame P env (c.session.rxFrameBuffer.1.take readLen) c

/-- What `RangingSession::handleFinalDataReception` does when the callback
returns. -/
def afterCallback (c : Ctx) : Ctx :=
  armPrePollListening P env { c with inCallback := false }

/-- `RangingSession::onRxSuccess`. -/
def onRxSuccess (event : RxSuccessEvent) (c : Ctx) : Ctx :=
  match c.session.state with
  | .prePollListening => handlePrePollReception P env event c
  | .awaitingPoll => handlePollReception P env event c
  | .awaitingFinal => handleFinalReception P env event c
  | .awaitingFinalData => handleFinalDataReception P env c
  | _ => c

/-- `RangingSession::onRxTimeout`. -/
def onRxTimeout (c : Ctx) : Ctx :=
  match c.session.state with
  | .idle | .uninitialized | .suspended => c
  | .prePollListening => c.command (.startImmediateRx 0 env.immediateRxStarts)
  | _ => armPrePollListening P env c

/-- `RangingSession::onRxError`; the status is only logged. -/
def onRxError (c : Ctx) : Ctx :=
  match c.session.state with
  | .idle | .uninitialized | .suspended => c
  | _ => armPrePollListening P env c

/-- `RangingSession::onTxComplete`. -/
def onTxComplete (c : Ctx) : Ctx :=
  if c.session.state = .transmittingResponse then
    let c := c.modify fun s =>
      { s with measurement := { s.measurement with respTxTimestampDtu := env.txTimestampDtu } }
    if !c.session.armedKeysValid then armPrePollListening P env c
    else
      let finalSlotOffset := 1 + c.session.params.responderCount.toUInt32
      let c := c.command (.configureStsMode .noDataSp3)
      let c := c.command (.loadStsKeyIv c.session.armed.final.durskKey c.session.armed.final.stsIv)
      let finalRxTime := hi32 c.session.measurement.pollRxTimestampDtu +
        finalSlotOffset * slotTicksHi32 c.session.params - leadTimeHi32
      let c := startRx env finalRxTime windowTimeoutDtu windowTimeoutDtu c
      transitionTo .awaitingFinal c
  else c

end Session
end AliroUwb
