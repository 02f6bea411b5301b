/-
# Everything a step can do

`Served P i c c'` lists what serving the input `i` can make of the context `c`,
one case for each way through a handler or a control call, with the checks that
were passed on that way.  `served_serve` says that the list is complete; every
invariant of the session is a case analysis on it.

A radio event that the session is not waiting for is ignored (`ignored`), and
one it cannot use sends it back to listening (`abandoned`); the other cases are
the ones in which something happens.
-/

import AliroUwb.Session.Effects
import AliroUwb.Session.System

namespace AliroUwb
namespace Session

open Stepwise Crypto Protocol Ranging Transceiver

variable {P : Platform}

/-- Whether the session reacts to an action in a state. -/
def Action.awaitedIn (state : SessionState) : Action → Bool
  | .rxSuccess _ => state.active && state != .transmittingResponse
  | .rxTimeout | .rxError => state.active
  | .txComplete => state == .transmittingResponse
  | _ => true

/-- The commands of `startRx`. -/
def rxCommands (env : Env) (rxStartTimeDtu : UInt32) (timeoutDtu immediateTimeoutDtu : UInt16) :
    List Output :=
  .command (.startDelayedRx rxStartTimeDtu timeoutDtu env.delayedRxStarts) ::
    if env.delayedRxStarts then []
    else [.command (.startImmediateRx immediateTimeoutDtu env.immediateRxStarts)]

/-- The commands that `startRx` gives. -/
theorem startRx_eq (env : Env) (t : UInt32) (timeout immediate : UInt16) (c : Ctx) :
    startRx env t timeout immediate c =
      { c with outputs := c.outputs ++ rxCommands env t timeout immediate } := by
  unfold startRx rxCommands
  split_ifs <;> simp [Ctx.command, Ctx.emit]

/-- When the Response is sent after a Poll. -/
def respTxTime (s : SessionMembers) (event : RxSuccessEvent) : UInt32 :=
  hi32 event.rxTimestampDtu +
    (1 + s.nodeConfig.responderIndex.toUInt32) * slotTicksHi32 s.params - respAntDelayHi32

/-- When the window of the slot `offset` slots after the Poll starts. -/
def slotRxTime (s : SessionMembers) (offset : UInt32) : UInt32 :=
  hi32 s.measurement.pollRxTimestampDtu + offset * slotTicksHi32 s.params - leadTimeHi32

/-- The readings taken at a Final. -/
def Measurement.takeFinal (m : Measurement) (event : RxSuccessEvent) (env : Env) : Measurement :=
  { m with
    finalRxTimestampDtu := event.rxTimestampDtu
    finalStsQuality := event.stsQualityIndex
    finalStsPassed := event.stsPassed
    finalPdoaRaw := event.pdoaRaw
    finalPdoaValid := event.pdoaValid
    finalFirstPathDbQ8 := env.firstPath.firstPathPowerDbQ8
    finalRssiDbQ8 := env.firstPath.rssiDbQ8
    finalNlosDiagValid := env.firstPath.valid }

/-! ### The evaluation of a distance -/

/-- The angle of the measured exchange. -/
def measuredAoa (P : Platform) (s : SessionMembers) : AoAEstimate :=
  if s.nodeConfig.enableAoA then
    P.fromPdoa s.measurement.finalPdoaRaw s.params.channel s.nodeConfig.aoaAntennaSpacingMm
  else {}

/-- The stability detector after the measured exchange. -/
def nextStability (P : Platform) (s : SessionMembers) :
    AoaStabilityVerdict × AoaStabilityDetector :=
  if (measuredAoa P s).valid then s.aoaStability.ingest (measuredAoa P s).centiDegrees
  else ({}, s.aoaStability)

/-- The consensus filter after the measured exchange. -/
def nextFilter (s : SessionMembers) (distance : DistanceMm) :
    RangeIntegrityReport × RangeConsensusFilter :=
  s.filter.ingest distance (if s.measurement.finalStsPassed then 0 else -1)
    s.measurement.finalStsQuality

/-- The integrity report of the measured exchange. -/
def integrityReport (P : Platform) (s : SessionMembers) (distance : DistanceMm) :
    RangeIntegrityReport :=
  let m := s.measurement
  let nlos := evaluateNlos m.finalFirstPathDbQ8 m.finalRssiDbQ8
  let integrity := { (nextFilter s distance).1 with
    nlosValid := nlos.valid && m.finalNlosDiagValid
    nlosDetected := nlos.nlos
    firstPathPowerDbQ8 := m.finalFirstPathDbQ8
    rssiDbQ8 := m.finalRssiDbQ8 }
  if (measuredAoa P s).valid then { integrity with
    aoaUnstable := (nextStability P s).1.jump
    nlosDetected := integrity.nlosDetected || (nextStability P s).1.gated } else integrity

/-- The result handed to the callback. -/
def rangingResult (P : Platform) (env : Env) (s : SessionMembers) (distance : DistanceMm) :
    RangingResult where
  sessionId := s.params.sessionId
  blockIndex := s.currentBlock
  roundInBlock := if s.currentRound = scheduledRoundFor s.params s.currentBlock then 0 else 1
  distance := distance
  integrity := integrityReport P s distance
  timestampUs := env.monotonicTimeUs
  aoaCentiDegrees := (measuredAoa P s).centiDegrees
  aoaValid := (measuredAoa P s).valid

/-- The session after the evaluation. -/
def SessionMembers.evaluated (P : Platform) (s : SessionMembers) (distance : DistanceMm) :
    SessionMembers :=
  { s with filter := (nextFilter s distance).2, aoaStability := (nextStability P s).2 }

/-- `evaluateDistance` in these terms. -/
theorem evaluateDistance_eq (env : Env) (distance : DistanceMm) (c : Ctx) :
    evaluateDistance P env distance c =
      match c.session.callback with
      | none => armPrePollListening P env { c with session := c.session.evaluated P distance }
      | some callback => { c with
          session := c.session.evaluated P distance
          inCallback := true
          outputs := c.outputs ++ [.range callback (rangingResult P env c.session distance)] } :=
  rfl

/-- Without a callback the session evaluates the distance and listens again. -/
theorem evaluateDistance_none {env : Env} {distance : DistanceMm} {c : Ctx}
    (h : c.session.callback = none) : evaluateDistance P env distance c =
      armPrePollListening P env { c with session := c.session.evaluated P distance } := by
  rw [evaluateDistance_eq, h]

/-- With a callback it evaluates the distance and calls it. -/
theorem evaluateDistance_some {env : Env} {distance : DistanceMm} {c : Ctx} {callback : ℕ}
    (h : c.session.callback = some callback) : evaluateDistance P env distance c = { c with
      session := c.session.evaluated P distance
      inCallback := true
      outputs := c.outputs ++ [.range callback (rangingResult P env c.session distance)] } := by
  rw [evaluateDistance_eq, h]

/-! ### The cases -/

/-- The session after an accepted PrePoll. -/
def SessionMembers.prePollAccepted (s : SessionMembers) (mhr : MacHeader)
    (prePoll : PrePollPayload) : SessionMembers :=
  { s with
    replay := s.replay.acceptPrePoll mhr prePoll
    currentBlock := prePoll.rangingBlock, currentRound := prePoll.roundIndex }

/-- The session once the keys of an exchange are armed and its Poll awaited. -/
def SessionMembers.armedFor (s : SessionMembers) (keys : CycleKeys) : SessionMembers :=
  { s with
    armed := keys, armedKeysValid := true, armedPollStsIndex := keys.pollStsIndex
    state := .awaitingPoll }

/-- The commands of an arm, up to the change of state. -/
def armCommands (s : SessionMembers) (env : Env) (event : RxSuccessEvent) (keys : CycleKeys) :
    List Output :=
  [.command (.configureStsMode .noDataSp3),
    .command (.loadStsKeyIv keys.poll.durskKey keys.poll.stsIv)] ++
  rxCommands env (pollRxTime s.params event) windowTimeoutDtu immediateSearchWindowDtu ++
  [.transition .awaitingPoll]

/-- The session as `start` has prepared it for the hardware. -/
def SessionMembers.prepared (s : SessionMembers) (ursk : Bytes 32)
    (params : RangingSessionParameters) (nodeConfig : SessionNodeConfig) (callback : Option ℕ)
    (keys : KeyMaterial) (lastDeriveError : StatusCode) : SessionMembers :=
  { clearTracking { s with
      params, nodeConfig, callback, ursk, keys, lastDeriveError, materialValid := true } with
    aoaStability := .new {} }

/-- The session as `resumeWithAnchor` has prepared it. -/
def SessionMembers.reanchored (s : SessionMembers) (newStsIndex0 : StsIndex) (keys : KeyMaterial) :
    SessionMembers :=
  { clearTracking { s with
      params := { s.params with stsIndex0 := newStsIndex0 }, keys, materialValid := true } with
    aoaStability := s.aoaStability.reset }

/-- The key material `start` goes on with: what the engine derives from its
arguments, or, where that fails, whatever is there when an earlier session's
material still counts as valid. -/
def StartsWith (P : Platform) (s : SessionMembers) (ursk : Bytes 32)
    (params : RangingSessionParameters) (faults : Faults) (keys : KeyMaterial) : Prop :=
  (deriveKeyMaterial P.crypto ursk params faults).1 = .ok keys ∨
    s.materialValid = true ∧ ∃ e, (deriveKeyMaterial P.crypto ursk params faults).1 = .error e

/-- A FinalData whose result is handed to the callback. -/
inductive Delivered (P : Platform) (i : Input) (c : Ctx) : Ctx → Prop
  | mk {event : RxSuccessEvent} {rxFrameBuffer : Bytes 256} {frame : List UInt8}
      {mhr : MacHeader} {finalData : FinalDataPayload} {report : ResponderTimestampReport}
      {distance : DistanceMm} {callback : ℕ} {faults : Faults}
      (haction : i.action = .rxSuccess event) (hstate : c.session.state = .awaitingFinalData)
      (hframe : receivedFrame i.env = some frame)
      (hcheck : (checkFinalDataFrame P c.session frame c.faults).1 = .ok (mhr, finalData))
      (hsts : finalData.finalStsIndex = expectedFinalSts c.session)
      (hreport : ownReport c.session finalData = some report)
      (hdistance : calculateDistance (dsTwrTimestamps c.session.measurement finalData report)
        c.session.nodeConfig.antennaDelayBias = .ok distance)
      (hcallback : c.session.callback = some callback)
      (hfaults : StaysQuiet c.faults faults) :
      Delivered P i c
        { session := { c.session.evaluated P distance with
            rxFrameBuffer, replay := c.session.replay.acceptFinalData mhr }
          inCallback := true
          faults
          outputs := c.outputs ++ [.acceptedFinalData mhr finalData,
            .range callback (rangingResult P i.env c.session distance)] }

/-- What serving an input can do. -/
inductive Served (P : Platform) (i : Input) (c : Ctx) : Ctx → Prop
  /-- An event that is not awaited. -/
  | ignored (hevent : i.action.isRadioEvent) (hstate : i.action.awaitedIn c.session.state = false) :
      Served P i c c
  /-- An event that ends the exchange, or is of no use. -/
  | abandoned {rxFrameBuffer : Bytes 256} {measurement : Measurement} {faults : Faults} {c' : Ctx}
      (hevent : i.action.isRadioEvent) (hstate : c.session.state.active)
      (hfaults : StaysQuiet c.faults faults)
      (h : Unstashed P (Ctx.listen i.env { c with
        session := { c.session with rxFrameBuffer, measurement }, faults }) c') :
      Served P i c c'
  /-- A time-out while listening. -/
  | rearmed (haction : i.action = .rxTimeout) (hstate : c.session.state = .prePollListening) :
      Served P i c { c with
        outputs := c.outputs ++ [.command (.startImmediateRx 0 i.env.immediateRxStarts)] }
  /-- A PrePoll of a block that is not ours. -/
  | ineligible {event : RxSuccessEvent} {rxFrameBuffer : Bytes 256} {frame : List UInt8}
      {mhr : MacHeader} {prePoll : PrePollPayload} {faults : Faults} {c' : Ctx}
      (haction : i.action = .rxSuccess event) (hstate : c.session.state = .prePollListening)
      (hwarm : c.session.warmValid = false) (hframe : receivedFrame i.env = some frame)
      (hcheck : (checkPrePollFrame P c.session frame c.faults).1 = .ok (mhr, prePoll))
      (hparity : isBlockParityEligible c.session.nodeConfig prePoll.rangingBlock = false)
      (hfaults : StaysQuiet c.faults faults)
      (h : Unstashed P (Ctx.listen i.env { c with
        session := { c.session.prePollAccepted mhr prePoll with rxFrameBuffer }, faults
        outputs := c.outputs ++ [.acceptedPrePoll mhr prePoll] }) c') :
      Served P i c c'
  /-- A PrePoll whose exchange has no keys. -/
  | unkeyed {event : RxSuccessEvent} {rxFrameBuffer : Bytes 256} {frame : List UInt8}
      {mhr : MacHeader} {prePoll : PrePollPayload} {armed : CycleKeys} {faults : Faults} {c' : Ctx}
      (haction : i.action = .rxSuccess event) (hstate : c.session.state = .prePollListening)
      (hwarm : c.session.warmValid = false) (hframe : receivedFrame i.env = some frame)
      (hcheck : (checkPrePollFrame P c.session frame c.faults).1 = .ok (mhr, prePoll))
      (hparity : isBlockParityEligible c.session.nodeConfig prePoll.rangingBlock = true)
      (hfaults : c.faults = noFaults → c.session.params.slotsPerRound = 0 ∧ faults = noFaults)
      (h : Unstashed P (Ctx.listen i.env { c with
        session := { c.session.prePollAccepted mhr prePoll with rxFrameBuffer, armed }, faults
        outputs := c.outputs ++ [.acceptedPrePoll mhr prePoll] ++ [.command .forceReceiverOff] })
        c') :
      Served P i c c'
  /-- The bootstrap path. -/
  | bootstrapped {event : RxSuccessEvent} {rxFrameBuffer : Bytes 256} {frame : List UInt8}
      {mhr : MacHeader} {prePoll : PrePollPayload} {armed : CycleKeys} {faults : Faults} {c' : Ctx}
      (haction : i.action = .rxSuccess event) (hstate : c.session.state = .prePollListening)
      (hwarm : c.session.warmValid = false) (hframe : receivedFrame i.env = some frame)
      (hcheck : (checkPrePollFrame P c.session frame c.faults).1 = .ok (mhr, prePoll))
      (hparity : isBlockParityEligible c.session.nodeConfig prePoll.rangingBlock = true)
      (hkeys : CycleKeysFor P c.session prePoll.pollStsIndex armed)
      (hfaults : StaysQuiet c.faults faults)
      (h : Refreshed P { c with
        session := { (c.session.prePollAccepted mhr prePoll).armedFor armed with rxFrameBuffer }
        faults
        outputs := c.outputs ++ [.acceptedPrePoll mhr prePoll] ++
          .command .forceReceiverOff :: armCommands c.session i.env event armed } c') :
      Served P i c c'
  /-- The warm path. -/
  | warmed {event : RxSuccessEvent} {rxFrameBuffer : Bytes 256} {frame : List UInt8}
      {stashFrame : Bytes 128} {warmValid : Bool}
      (haction : i.action = .rxSuccess event) (hstate : c.session.state = .prePollListening)
      (hwarm : c.session.warmValid = true) (hframe : receivedFrame i.env = some frame)
      (hstash : stashFrame.1.take (min frame.length 128) = frame.take 128)
      (hvalid : warmValid = warmHeaderOk c.session frame) :
      Served P i c { c with
        session := { c.session.armedFor c.session.warm with
          rxFrameBuffer, stashFrame, stashLen := UInt16.ofNat (min frame.length 128), warmValid }
        outputs := c.outputs ++ armCommands c.session i.env event c.session.warm }
  /-- A Poll, answered in time. -/
  | responded {event : RxSuccessEvent}
      (haction : i.action = .rxSuccess event) (hstate : c.session.state = .awaitingPoll)
      (hsts : event.stsPassed = true) (hkeys : c.session.armedKeysValid = true)
      (htx : i.env.delayedTxStarts = true) :
      Served P i c { c with
        session := { c.session with
          measurement := { c.session.measurement with pollRxTimestampDtu := event.rxTimestampDtu }
          state := .transmittingResponse }
        outputs := c.outputs ++ [.command (.configureStsMode .noDataSp3),
          .command (.loadStsKeyIv c.session.armed.response.durskKey c.session.armed.response.stsIv),
          .command (.startDelayedTx (respTxTime c.session event) true true),
          .transition .transmittingResponse] }
  /-- A Poll that it was too late to answer. -/
  | late {event : RxSuccessEvent} {c' : Ctx}
      (haction : i.action = .rxSuccess event) (hstate : c.session.state = .awaitingPoll)
      (hsts : event.stsPassed = true) (hkeys : c.session.armedKeysValid = true)
      (htx : i.env.delayedTxStarts = false)
      (h : Unstashed P (Ctx.listen i.env { c with
        session := { c.session with
          measurement := { c.session.measurement with
            pollRxTimestampDtu := event.rxTimestampDtu } }
        outputs := c.outputs ++ [.command (.configureStsMode .noDataSp3),
          .command (.loadStsKeyIv c.session.armed.response.durskKey c.session.armed.response.stsIv),
          .command (.startDelayedTx (respTxTime c.session event) true false)] }) c') :
      Served P i c c'
  /-- The Response is out, the Final awaited. -/
  | transmitted (haction : i.action = .txComplete)
      (hstate : c.session.state = .transmittingResponse)
      (hkeys : c.session.armedKeysValid = true) :
      Served P i c { c with
        session := { c.session with
          measurement := { c.session.measurement with
            respTxTimestampDtu := i.env.txTimestampDtu }
          state := .awaitingFinal }
        outputs := c.outputs ++ ([.command (.configureStsMode .noDataSp3),
          .command (.loadStsKeyIv c.session.armed.final.durskKey c.session.armed.final.stsIv)] ++
          rxCommands i.env (slotRxTime c.session (1 + c.session.params.responderCount.toUInt32))
            windowTimeoutDtu windowTimeoutDtu ++ [.transition .awaitingFinal]) }
  /-- A Final. -/
  | finalReceived {event : RxSuccessEvent} {c' : Ctx}
      (haction : i.action = .rxSuccess event) (hstate : c.session.state = .awaitingFinal)
      (h : Unstashed P { c with
        session := { c.session with
          measurement := c.session.measurement.takeFinal event i.env
          state := .awaitingFinalData }
        outputs := c.outputs ++ ([.command .forceReceiverOff, .command (.configureStsMode .off)] ++
          rxCommands i.env (slotRxTime c.session (2 + c.session.params.responderCount.toUInt32))
            (windowTimeoutDtu * 2) (windowTimeoutDtu * 2) ++ [.transition .awaitingFinalData]) }
        c') :
      Served P i c c'
  /-- A FinalData that yields no distance, or no callback to deliver it to. -/
  | undelivered {event : RxSuccessEvent} {rxFrameBuffer : Bytes 256} {frame : List UInt8}
      {mhr : MacHeader} {finalData : FinalDataPayload} {filter : RangeConsensusFilter}
      {aoaStability : AoaStabilityDetector} {faults : Faults} {c' : Ctx}
      (haction : i.action = .rxSuccess event) (hstate : c.session.state = .awaitingFinalData)
      (hframe : receivedFrame i.env = some frame)
      (hcheck : (checkFinalDataFrame P c.session frame c.faults).1 = .ok (mhr, finalData))
      (hfaults : StaysQuiet c.faults faults)
      (h : Unstashed P (Ctx.listen i.env { c with
        session := { c.session with
          rxFrameBuffer, replay := c.session.replay.acceptFinalData mhr, filter, aoaStability }
        faults
        outputs := c.outputs ++ [.acceptedFinalData mhr finalData] }) c')
      (hfilter : filter.config = c.session.filter.config) :
      Served P i c c'
  | delivered {c' : Ctx} (h : Delivered P i c c') : Served P i c c'
  /-- The callback returns. -/
  | callbackReturned {c' : Ctx} (haction : i.action = .callbackReturn)
      (h : Unstashed P (Ctx.listen i.env { c with inCallback := false }) c') :
      Served P i c c'
  | stopped (haction : i.action = .stop) :
      Served P i c { c with
        session := { c.session with state := .idle }
        outputs := c.outputs ++ [.command (.setListener false), .command .forceReceiverOff,
          .transition .idle, .returned (.ok ())] }
  | suspended (haction : i.action = .suspend) :
      Served P i c { c with
        session := { c.session with state := .suspended }
        outputs := c.outputs ++ [.command .forceReceiverOff, .transition .suspended,
          .returned (.ok ())] }
  /-- `resume` or `resumeWithAnchor` of a session that is not suspended. -/
  | refused (haction : i.action = .resume ∨ ∃ n, i.action = .resumeWithAnchor n)
      (hstate : c.session.state ≠ .suspended) :
      Served P i c { c with outputs := c.outputs ++ [.returned (.error .invalidState)] }
  | resumed {c' : Ctx} (haction : i.action = .resume) (hstate : c.session.state = .suspended)
      (h : Unstashed P (Ctx.listen i.env c) c') :
      Served P i c { c' with outputs := c'.outputs ++ [.returned (.ok ())] }
  /-- `resumeWithAnchor` without key material. -/
  | anchorFailed {newStsIndex0 : StsIndex} {keys : KeyMaterial} {e : StatusCode} {faults : Faults}
      (haction : i.action = .resumeWithAnchor newStsIndex0)
      (hstate : c.session.state = .suspended)
      (hkeys : (deriveKeyMaterial P.crypto c.session.ursk
        { c.session.params with stsIndex0 := newStsIndex0 } c.faults).1 = .error e) :
      Served P i c { c with
        session := { c.session with
          params := { c.session.params with stsIndex0 := newStsIndex0 }
          materialValid := false, keys, lastDeriveError := e }
        faults
        outputs := c.outputs ++ [.returned (.error e)] }
  | anchored {newStsIndex0 : StsIndex} {keys : KeyMaterial} {faults : Faults} {c' : Ctx}
      (haction : i.action = .resumeWithAnchor newStsIndex0)
      (hstate : c.session.state = .suspended)
      (hkeys : (deriveKeyMaterial P.crypto c.session.ursk
        { c.session.params with stsIndex0 := newStsIndex0 } c.faults).1 = .ok keys)
      (hfaults : StaysQuiet c.faults faults)
      (h : Unstashed P (Ctx.listen i.env { c with
        session := c.session.reanchored newStsIndex0 keys, faults }) c') :
      Served P i c { c' with outputs := c'.outputs ++ [.returned (.ok ())] }
  /-- `start` without key material. -/
  | startFailed {ursk : Bytes 32} {params : RangingSessionParameters}
      {nodeConfig : SessionNodeConfig} {callback : Option ℕ} {keys : KeyMaterial} {e : StatusCode}
      {faults : Faults}
      (haction : i.action = .start ursk params nodeConfig callback)
      (hvalid : c.session.materialValid = false)
      (hkeys : (deriveKeyMaterial P.crypto ursk params c.faults).1 = .error e) :
      Served P i c { c with
        session := { c.session with
          params, nodeConfig, callback, ursk, keys, lastDeriveError := e }
        faults
        outputs := c.outputs ++ [.command .forceReceiverOff, .returned (.error e)] }
  /-- `start` with a PHY that cannot be configured. -/
  | unconfigured {ursk : Bytes 32} {params : RangingSessionParameters}
      {nodeConfig : SessionNodeConfig} {callback : Option ℕ} {keys : KeyMaterial}
      {lastDeriveError e : StatusCode} {faults : Faults}
      (haction : i.action = .start ursk params nodeConfig callback)
      (hkeys : StartsWith P c.session ursk params c.faults keys)
      (hphy : i.env.configurePhyError = some e) :
      Served P i c { c with
        session := c.session.prepared ursk params nodeConfig callback keys lastDeriveError
        faults
        outputs := c.outputs ++ [.command .forceReceiverOff,
          .command (.configurePhy (hwConfig
            (c.session.prepared ursk params nodeConfig callback keys lastDeriveError))),
          .returned (.error e)] }
  | started {ursk : Bytes 32} {params : RangingSessionParameters}
      {nodeConfig : SessionNodeConfig} {callback : Option ℕ} {keys : KeyMaterial}
      {lastDeriveError : StatusCode} {faults : Faults} {c' : Ctx}
      (haction : i.action = .start ursk params nodeConfig callback)
      (hkeys : StartsWith P c.session ursk params c.faults keys)
      (hfaults : StaysQuiet c.faults faults)
      (hphy : i.env.configurePhyError = none)
      (h : Unstashed P (Ctx.listen i.env { c with
        session := c.session.prepared ursk params nodeConfig callback keys lastDeriveError
        faults
        outputs := c.outputs ++ [.command .forceReceiverOff,
          .command (.configurePhy (hwConfig
            (c.session.prepared ursk params nodeConfig callback keys lastDeriveError))),
          .command (.setListener true)] }) c') :
      Served P i c { c' with outputs := c'.outputs ++ [.returned (.ok ())] }

/-! ### What is received -/

/-- The context once the received data are read. -/
def Ctx.readRx (env : Env) (c : Ctx) : Ctx :=
  { c with session := { c.session with
      rxFrameBuffer := (readReceivedData env c.session.rxFrameBuffer).2 } }

/-- A handler that reads a frame: without a header there is nothing to read. -/
theorem readFrame_eq (env : Env) (buffer : Bytes 256) (reject : Ctx) (next : List UInt8 → Ctx) :
    (match (readReceivedData env buffer).1 with
      | .error _ => reject
      | .ok len => if len < macHeaderLength then reject
        else next ((readReceivedData env buffer).2.1.take len)) =
      match receivedFrame env with
      | none => reject
      | some frame => next frame := by
  rcases readReceivedData_cases env buffer with
    ⟨hnone, e, hread⟩ | ⟨hnone, len, hlen, hread⟩ | ⟨frame, len, hframe, hlen, hread, htake⟩
  · rw [hread, hnone]
  · rw [hread, hnone]
    exact if_pos hlen
  · rw [hread, hframe]
    dsimp only
    rw [if_neg (by omega), htake]

/-- `handlePrePollReception` as a function of the frame it reads. -/
theorem handlePrePollReception_eq (env : Env) (event : RxSuccessEvent) (c : Ctx) :
    handlePrePollReception P env event c = match receivedFrame env with
      | none => armPrePollListening P env (c.readRx env)
      | some frame => if c.session.warmValid then armWarm env event frame (c.readRx env)
        else armBootstrap P env event frame (c.readRx env) :=
  readFrame_eq env c.session.rxFrameBuffer (armPrePollListening P env (c.readRx env)) fun frame =>
    if c.session.warmValid then armWarm env event frame (c.readRx env)
    else armBootstrap P env event frame (c.readRx env)

/-- And `handleFinalDataReception`. -/
theorem handleFinalDataReception_eq (env : Env) (c : Ctx) :
    handleFinalDataReception P env c = match receivedFrame env with
      | none => armPrePollListening P env (c.readRx env)
      | some frame => handleFinalDataFrame P env frame (c.readRx env) :=
  readFrame_eq env c.session.rxFrameBuffer (armPrePollListening P env (c.readRx env)) fun frame =>
    handleFinalDataFrame P env frame (c.readRx env)

/-! ### The list is complete -/

/-- The stash holds what it was filled with. -/
theorem take_stash (frame : List UInt8) (old : Bytes 128) :
    (Bytes.ofList 128 (frame.take 128 ++ old.1.drop (min frame.length 128))).1.take
      (min frame.length 128) = frame.take 128 := by
  have hlen : (frame.take 128).length = min frame.length 128 := by
    rw [List.length_take, Nat.min_comm]
  have h128 : min (min frame.length 128) 128 = min frame.length 128 := by omega
  rw [Bytes.ofList, List.take_append_of_le_length (by
      rw [List.length_take, List.length_append, hlen, List.length_drop, old.2]; omega),
    List.take_take, h128, ← hlen, List.take_left]

/-- The warm path. -/
theorem served_armWarm {i : Input} {c : Ctx} {event : RxSuccessEvent} {frame : List UInt8}
    {rxFrameBuffer : Bytes 256} (haction : i.action = .rxSuccess event)
    (hstate : c.session.state = .prePollListening) (hwarm : c.session.warmValid = true)
    (hframe : receivedFrame i.env = some frame) :
    Served P i c (armWarm i.env event frame
      { c with session := { c.session with rxFrameBuffer } }) := by
  have h := @Served.warmed P i c event rxFrameBuffer frame _ _ haction hstate hwarm hframe
    (take_stash frame c.session.stashFrame) rfl
  unfold armWarm
  simp only [startRx_eq, transitionTo, Ctx.command, Ctx.emit, Ctx.modify, List.append_assoc,
    List.cons_append, List.nil_append]
  split
  · rename_i hok
    change warmHeaderOk c.session frame = true at hok
    rw [hok] at h
    simpa only [SessionMembers.armedFor, armCommands, List.cons_append, List.nil_append, hwarm]
      using h
  · rename_i hok
    change ¬ warmHeaderOk c.session frame = true at hok
    rw [Bool.eq_false_iff.2 hok] at h
    simpa only [SessionMembers.armedFor, armCommands, List.cons_append, List.nil_append] using h

/-- `armExchange` arms the exchange and predicts the next one, or finds no keys
for it. -/
theorem armExchange_cases (env : Env) (event : RxSuccessEvent) (prePoll : PrePollPayload)
    (c : Ctx) :
    (∃ armed faults, CycleKeysFor P c.session prePoll.pollStsIndex armed ∧
      StaysQuiet c.faults faults ∧
      armExchange P env event prePoll c = refreshWarmKeys P { c with
        session := c.session.armedFor armed, faults
        outputs := c.outputs ++ (.command .forceReceiverOff ::
          armCommands c.session env event armed) }) ∨
    (∃ armed faults,
      (c.faults = noFaults → c.session.params.slotsPerRound = 0 ∧ faults = noFaults) ∧
      armExchange P env event prePoll c = armPrePollListening P env { c with
        session := { c.session with armed }, faults
        outputs := c.outputs ++ [.command .forceReceiverOff] }) := by
  rcases deriveCycleKeys_cases (P := P) c.session prePoll.pollStsIndex c.session.armed c.faults with
    ⟨armed, f, hd, hkeys, hf⟩ | ⟨e, armed, f, hd, hf⟩
  · refine Or.inl ⟨armed, f, hkeys, hf, ?_⟩
    simp only [armExchange, Ctx.run, Ctx.session_command, Ctx.faults_command, hd]
    simp only [startRx_eq, transitionTo, Ctx.command, Ctx.emit, Ctx.modify, armCommands,
      SessionMembers.armedFor, List.append_assoc, List.cons_append, List.nil_append]
  · refine Or.inr ⟨armed, f, hf, ?_⟩
    simp only [armExchange, Ctx.run, Ctx.session_command, Ctx.faults_command, hd]
    rfl

/-- The bootstrap path. -/
theorem served_armBootstrap {i : Input} {c : Ctx} {event : RxSuccessEvent} {frame : List UInt8}
    {rxFrameBuffer : Bytes 256} (haction : i.action = .rxSuccess event)
    (hstate : c.session.state = .prePollListening) (hwarm : c.session.warmValid = false)
    (hframe : receivedFrame i.env = some frame) :
    Served P i c (armBootstrap P i.env event frame
      { c with session := { c.session with rxFrameBuffer } }) := by
  have hevent : i.action.isRadioEvent := by rw [haction]; rfl
  have hactive : c.session.state.active := by rw [hstate]; rfl
  unfold armBootstrap
  rcases decodePrePollFrame_cases (P := P) frame
      { c with session := { c.session with rxFrameBuffer } } with
    ⟨e, f, hcheck, hf, h⟩ | ⟨mhr, prePoll, f, hcheck, hf, h⟩
  · rw [h]
    exact .abandoned hevent hactive hf
      (unstashed_armPrePollListening _ _)
  rw [h]
  dsimp only [Ctx.modify]
  by_cases hparity : isBlockParityEligible c.session.nodeConfig prePoll.rangingBlock = true
  · rw [hparity, if_neg (by simp)]
    rcases armExchange_cases (P := P) i.env event prePoll { c with
        session := { c.session.prePollAccepted mhr prePoll with rxFrameBuffer }, faults := f
        outputs := c.outputs ++ [.acceptedPrePoll mhr prePoll] } with
      ⟨armed, f', hkeys, hf', harm⟩ | ⟨armed, f', hf', harm⟩
    · refine Eq.subst (motive := Served P i c) harm.symm ?_
      exact .bootstrapped haction hstate hwarm hframe hcheck hparity
        ⟨hkeys.1, hkeys.2, hkeys.3, hkeys.4⟩ (hf.trans hf') (refreshed_refreshWarmKeys _)
    · refine Eq.subst (motive := Served P i c) harm.symm ?_
      exact .unkeyed haction hstate hwarm hframe hcheck hparity (fun h => hf' (hf h))
        (unstashed_armPrePollListening _ _)
  · rw [Bool.eq_false_iff.2 hparity]
    exact .ineligible haction hstate hwarm hframe hcheck (Bool.eq_false_iff.2 hparity) hf
      (unstashed_armPrePollListening _ _)

/-- The reception of a PrePoll, on either path or of nothing that can be read. -/
theorem served_handlePrePollReception {i : Input} {c : Ctx} {event : RxSuccessEvent}
    (haction : i.action = .rxSuccess event) (hstate : c.session.state = .prePollListening) :
    Served P i c (handlePrePollReception P i.env event c) := by
  have hevent : i.action.isRadioEvent := by rw [haction]; rfl
  have hactive : c.session.state.active := by rw [hstate]; rfl
  have hunread (buffer : Bytes 256) : Served P i c (armPrePollListening P i.env
      { c with session := { c.session with rxFrameBuffer := buffer } }) :=
    .abandoned hevent hactive (.refl _)
      (unstashed_armPrePollListening _ _)
  rw [handlePrePollReception_eq]
  cases hframe : receivedFrame i.env with
  | none => exact hunread _
  | some frame =>
    dsimp only
    by_cases hwarm : c.session.warmValid = true
    · rw [if_pos hwarm]
      exact served_armWarm haction hstate hwarm hframe
    · rw [if_neg hwarm]
      exact served_armBootstrap haction hstate (Bool.eq_false_iff.2 hwarm) hframe

/-- The reception of a Poll. -/
theorem served_handlePollReception {i : Input} {c : Ctx} {event : RxSuccessEvent}
    (haction : i.action = .rxSuccess event) (hstate : c.session.state = .awaitingPoll) :
    Served P i c (handlePollReception P i.env event c) := by
  have hevent : i.action.isRadioEvent := by rw [haction]; rfl
  have hactive : c.session.state.active := by rw [hstate]; rfl
  unfold handlePollReception
  by_cases hsts : event.stsPassed = true
  · rw [hsts, if_neg (by simp)]
    dsimp only [Ctx.modify]
    by_cases hkeys : c.session.armedKeysValid = true
    · rw [if_neg (by simp [hkeys])]
      by_cases htx : i.env.delayedTxStarts = true
      · have h := Served.responded (P := P) haction hstate hsts hkeys htx
        rw [if_pos htx]
        simpa only [transitionTo, Ctx.command, Ctx.emit, Ctx.modify, List.append_assoc,
          List.cons_append, List.nil_append, respTxTime, htx] using h
      · rw [if_neg htx, Bool.eq_false_iff.2 htx]
        refine .late haction hstate hsts hkeys (Bool.eq_false_iff.2 htx) ?_
        have h := unstashed_armPrePollListening (P := P) i.env { c with
          session := { c.session with
            measurement := { c.session.measurement with
              pollRxTimestampDtu := event.rxTimestampDtu } }
          outputs := c.outputs ++ [.command (.configureStsMode .noDataSp3),
            .command (.loadStsKeyIv c.session.armed.response.durskKey
              c.session.armed.response.stsIv),
            .command (.startDelayedTx (respTxTime c.session event) true false)] }
        simpa only [Ctx.command, Ctx.emit, List.append_assoc, List.cons_append, List.nil_append,
          respTxTime] using h
    · rw [if_pos (by simp [hkeys])]
      exact .abandoned hevent hactive (.refl _)
        (unstashed_armPrePollListening _ _)
  · rw [Bool.eq_false_iff.2 hsts, if_pos (by simp)]
    exact .abandoned hevent hactive (.refl _)
      (unstashed_armPrePollListening _ _)

/-- The reception of a Final. -/
theorem served_handleFinalReception {i : Input} {c : Ctx} {event : RxSuccessEvent}
    (haction : i.action = .rxSuccess event) (hstate : c.session.state = .awaitingFinal) :
    Served P i c (handleFinalReception P i.env event c) := by
  refine .finalReceived haction hstate ?_
  have h := unstashed_processStashedPrePoll (P := P) { c with
    session := { c.session with
      measurement := c.session.measurement.takeFinal event i.env
      state := .awaitingFinalData }
    outputs := c.outputs ++ ([.command .forceReceiverOff, .command (.configureStsMode .off)] ++
      rxCommands i.env (slotRxTime c.session (2 + c.session.params.responderCount.toUInt32))
        (windowTimeoutDtu * 2) (windowTimeoutDtu * 2) ++ [.transition .awaitingFinalData]) }
  unfold handleFinalReception
  simpa only [startRx_eq, transitionTo, Ctx.command, Ctx.emit, Ctx.modify, List.append_assoc,
    List.cons_append, List.nil_append, slotRxTime, Measurement.takeFinal] using h

/-- What happens to an accepted FinalData: the session returns to listening, or
hands a result to the callback. -/
theorem evaluateFinalData_cases (env : Env) (finalData : FinalDataPayload) (c : Ctx) :
    (∃ filter aoaStability, evaluateFinalData P env finalData c = armPrePollListening P env
        { c with session := { c.session with filter, aoaStability } } ∧
      filter.config = c.session.filter.config) ∨
    (∃ report distance callback, finalData.finalStsIndex = expectedFinalSts c.session ∧
      ownReport c.session finalData = some report ∧
      calculateDistance (dsTwrTimestamps c.session.measurement finalData report)
        c.session.nodeConfig.antennaDelayBias = .ok distance ∧
      c.session.callback = some callback ∧
      evaluateFinalData P env finalData c = { c with
        session := c.session.evaluated P distance
        inCallback := true
        outputs := c.outputs ++ [.range callback (rangingResult P env c.session distance)] }) := by
  unfold evaluateFinalData
  by_cases hsts : finalData.finalStsIndex = expectedFinalSts c.session
  swap
  · rw [if_pos hsts]
    exact Or.inl ⟨c.session.filter, c.session.aoaStability, rfl, rfl⟩
  rw [if_neg (not_not.2 hsts)]
  cases hreport : ownReport c.session finalData with
  | none => exact Or.inl ⟨c.session.filter, c.session.aoaStability, rfl, rfl⟩
  | some report =>
    dsimp only
    cases hdistance : calculateDistance (dsTwrTimestamps c.session.measurement finalData report)
      c.session.nodeConfig.antennaDelayBias with
    | error e => exact Or.inl ⟨c.session.filter, c.session.aoaStability, rfl, rfl⟩
    | ok distance =>
      dsimp only
      rcases Option.eq_none_or_eq_some c.session.callback with hcallback | ⟨callback, hcallback⟩
      · exact Or.inl ⟨(nextFilter c.session distance).2, (nextStability P c.session).2,
          evaluateDistance_none hcallback, RangeConsensusFilter.config_ingest ..⟩
      · exact Or.inr ⟨report, distance, callback, hsts, rfl, hdistance, hcallback,
          evaluateDistance_some hcallback⟩

/-- A frame is refused, or its FinalData is accepted and evaluated. -/
theorem handleFinalDataFrame_cases (env : Env) (frame : List UInt8) (c : Ctx) :
    (∃ faults, StaysQuiet c.faults faults ∧
      handleFinalDataFrame P env frame c = armPrePollListening P env { c with faults }) ∨
    (∃ mhr finalData faults,
      (checkFinalDataFrame P c.session frame c.faults).1 = .ok (mhr, finalData) ∧
      StaysQuiet c.faults faults ∧
      handleFinalDataFrame P env frame c = evaluateFinalData P env finalData { c with
        session := { c.session with replay := c.session.replay.acceptFinalData mhr }, faults
        outputs := c.outputs ++ [.acceptedFinalData mhr finalData] }) := by
  have hquiet := (keepsQuiet_checkFinalDataFrame (P := P) c.session frame).staysQuiet c.faults
  unfold handleFinalDataFrame
  dsimp only [Ctx.run]
  rcases hres : checkFinalDataFrame P c.session frame c.faults with ⟨e | ⟨mhr, finalData⟩, f⟩
  · rw [hres] at hquiet
    exact Or.inl ⟨f, hquiet, rfl⟩
  · rw [hres] at hquiet
    exact Or.inr ⟨mhr, finalData, f, rfl, hquiet, rfl⟩

/-- The reception of a FinalData. -/
theorem served_handleFinalDataReception {i : Input} {c : Ctx} {event : RxSuccessEvent}
    (haction : i.action = .rxSuccess event) (hstate : c.session.state = .awaitingFinalData) :
    Served P i c (handleFinalDataReception P i.env c) := by
  have hevent : i.action.isRadioEvent := by rw [haction]; rfl
  have hactive : c.session.state.active := by rw [hstate]; rfl
  have hunread (buffer : Bytes 256) {faults : Faults} (hf : StaysQuiet c.faults faults) :
      Served P i c (armPrePollListening P i.env
        { c with session := { c.session with rxFrameBuffer := buffer }, faults }) :=
    .abandoned hevent hactive hf
      (unstashed_armPrePollListening _ _)
  rw [handleFinalDataReception_eq]
  rcases hframe : receivedFrame i.env with _ | frame
  · exact hunread _ (.refl _)
  dsimp only
  rcases handleFinalDataFrame_cases (P := P) i.env frame (c.readRx i.env) with
    ⟨f, hf, h⟩ | ⟨mhr, finalData, f, hcheck, hf, h⟩
  · rw [h]
    exact hunread _ hf
  rw [h]
  rcases evaluateFinalData_cases (P := P) i.env finalData { c with
      session := { c.session with
        rxFrameBuffer := (readReceivedData i.env c.session.rxFrameBuffer).2
        replay := c.session.replay.acceptFinalData mhr }
      faults := f
      outputs := c.outputs ++ [.acceptedFinalData mhr finalData] } with
    ⟨filter, aoaStability, h, hfilter⟩ | ⟨report, distance, callback, hsts, hreport, hdist, hcb, h⟩
  · refine Eq.subst (motive := Served P i c) h.symm ?_
    exact .undelivered haction hstate hframe hcheck hf (unstashed_armPrePollListening _ _) hfilter
  · refine Eq.subst (motive := Served P i c) h.symm ?_
    rw [List.append_assoc]
    exact .delivered (.mk haction hstate hframe hcheck hsts hreport hdist hcb hf)

/-- The end of a transmission, in any state. -/
theorem served_onTxComplete {i : Input} {c : Ctx} (haction : i.action = .txComplete) :
    Served P i c (onTxComplete P i.env c) := by
  have hevent : i.action.isRadioEvent := by rw [haction]; rfl
  unfold onTxComplete
  by_cases hstate : c.session.state = .transmittingResponse
  · rw [if_pos hstate]
    dsimp only [Ctx.modify]
    by_cases hkeys : c.session.armedKeysValid = true
    · rw [if_neg (by simp [hkeys])]
      have h := Served.transmitted (P := P) haction hstate hkeys
      simpa only [startRx_eq, transitionTo, Ctx.command, Ctx.emit, Ctx.modify, List.append_assoc,
        List.cons_append, List.nil_append, slotRxTime] using h
    · rw [if_pos (by simp [hkeys])]
      exact .abandoned hevent (by rw [hstate]; rfl)
        (.refl _) (unstashed_armPrePollListening _ _)
  · rw [if_neg hstate]
    exact .ignored hevent (by simp [haction, Action.awaitedIn, hstate])

/-- A timeout, in any state. -/
theorem served_onRxTimeout {i : Input} {c : Ctx} (haction : i.action = .rxTimeout) :
    Served P i c (onRxTimeout P i.env c) := by
  have hevent : i.action.isRadioEvent := by rw [haction]; rfl
  have harm (hactive : c.session.state.active) :
      Served P i c (armPrePollListening P i.env c) :=
    .abandoned hevent hactive (.refl _) (unstashed_armPrePollListening _ _)
  unfold onRxTimeout
  cases hstate : c.session.state with
  | uninitialized | idle | suspended =>
    exact .ignored hevent (by simp [haction, Action.awaitedIn, hstate, SessionState.active])
  | prePollListening => exact .rearmed haction hstate
  | awaitingPoll | transmittingResponse | awaitingFinal | awaitingFinalData =>
    exact harm (by rw [hstate]; rfl)

/-- An error, in any state. -/
theorem served_onRxError {i : Input} {c : Ctx} (haction : i.action = .rxError) :
    Served P i c (onRxError P i.env c) := by
  have hevent : i.action.isRadioEvent := by rw [haction]; rfl
  have harm (hactive : c.session.state.active) :
      Served P i c (armPrePollListening P i.env c) :=
    .abandoned hevent hactive (.refl _) (unstashed_armPrePollListening _ _)
  unfold onRxError
  cases hstate : c.session.state with
  | uninitialized | idle | suspended =>
    exact .ignored hevent (by simp [haction, Action.awaitedIn, hstate, SessionState.active])
  | prePollListening | awaitingPoll | transmittingResponse | awaitingFinal | awaitingFinalData =>
    exact harm (by rw [hstate]; rfl)

/-- A reception, in any state. -/
theorem served_onRxSuccess {i : Input} {c : Ctx} {event : RxSuccessEvent}
    (haction : i.action = .rxSuccess event) : Served P i c (onRxSuccess P i.env event c) := by
  have hevent : i.action.isRadioEvent := by rw [haction]; rfl
  unfold onRxSuccess
  cases hstate : c.session.state with
  | prePollListening => exact served_handlePrePollReception haction hstate
  | awaitingPoll => exact served_handlePollReception haction hstate
  | awaitingFinal => exact served_handleFinalReception haction hstate
  | awaitingFinalData => exact served_handleFinalDataReception haction hstate
  | uninitialized | idle | suspended | transmittingResponse =>
    exact .ignored hevent (by simp [haction, Action.awaitedIn, hstate, SessionState.active])

/-- How `start` ends when it has key material. -/
theorem served_configureAndListen {i : Input} {c : Ctx} {ursk : Bytes 32}
    {params : RangingSessionParameters} {nodeConfig : SessionNodeConfig} {callback : Option ℕ}
    {faults : Faults} (keys : KeyMaterial) (lastDeriveError : StatusCode)
    (haction : i.action = .start ursk params nodeConfig callback)
    (hkeys : StartsWith P c.session ursk params c.faults keys)
    (hfaults : StaysQuiet c.faults faults) :
    Served P i c (configureAndListen P i.env { c with
      session := c.session.prepared ursk params nodeConfig callback keys lastDeriveError, faults
      outputs := c.outputs ++ [.command .forceReceiverOff] }) := by
  unfold configureAndListen
  rcases Option.eq_none_or_eq_some i.env.configurePhyError with hphy | ⟨e, hphy⟩
  · rw [hphy]
    simp only [Ctx.command, Ctx.emit, List.append_assoc, List.cons_append, List.nil_append]
    exact .started haction hkeys hfaults hphy (unstashed_armPrePollListening _ _)
  · rw [hphy]
    simp only [return', Ctx.command, Ctx.emit, List.append_assoc, List.cons_append, List.nil_append]
    exact .unconfigured haction hkeys hphy

/-- `start`, in any state. -/
theorem served_start {i : Input} {c : Ctx} {ursk : Bytes 32} {params : RangingSessionParameters}
    {nodeConfig : SessionNodeConfig} {callback : Option ℕ}
    (haction : i.action = .start ursk params nodeConfig callback) :
    Served P i c (start P i.env ursk params nodeConfig callback c) := by
  have hm := materialDerived_deriveSessionMaterial (P := P) { c with
    session := { c.session with params, nodeConfig, callback, ursk }
    outputs := c.outputs ++ [.command .forceReceiverOff] }
  have hquiet : KeepsQuiet (deriveKeyMaterial P.crypto ursk params) :=
    (steady_deriveKeyMaterial ..).rest
  unfold start
  dsimp only [Ctx.command, Ctx.emit, Ctx.modify]
  generalize deriveSessionMaterial P _ = c' at hm ⊢
  cases hm with
  | @failed keys e faults hkeys =>
    by_cases hvalid : c.session.materialValid = true
    · rw [if_neg (by simp [hvalid])]
      have hf : StaysQuiet c.faults faults := fun h => by
        obtain ⟨keys, hk⟩ := deriveKeyMaterial_noFaults P.crypto ursk params
        rw [h] at hkeys
        exact absurd ((congrArg Prod.fst hk).symm.trans hkeys) (by simp)
      have h := served_configureAndListen keys e haction (Or.inr ⟨hvalid, _, hkeys⟩) hf
      simpa only [SessionMembers.prepared, clearTracking, hvalid] using h
    · rw [if_pos (by simp [hvalid])]
      simp only [return', Ctx.emit, List.append_assoc, List.cons_append, List.nil_append]
      exact .startFailed haction (Bool.eq_false_iff.2 hvalid) hkeys
  | derived hkeys =>
    rw [if_neg (by simp)]
    have hf := hquiet.staysQuiet c.faults
    rw [hkeys] at hf
    exact served_configureAndListen _ _ haction (Or.inl (congrArg Prod.fst hkeys)) hf

/-- `resumeWithAnchor`, in any state. -/
theorem served_resumeWithAnchor {i : Input} {c : Ctx} {newStsIndex0 : StsIndex}
    (haction : i.action = .resumeWithAnchor newStsIndex0) :
    Served P i c (resumeWithAnchor P i.env newStsIndex0 c) := by
  unfold resumeWithAnchor
  by_cases hstate : c.session.state = .suspended
  swap
  · rw [if_pos hstate]
    exact .refused (Or.inr ⟨_, haction⟩) hstate
  rw [if_neg (not_not.2 hstate)]
  have hm := materialDerived_deriveSessionMaterial (P := P) { c with
    session := { c.session with
      params := { c.session.params with stsIndex0 := newStsIndex0 }, materialValid := false } }
  have hquiet : KeepsQuiet (deriveKeyMaterial P.crypto c.session.ursk
      { c.session.params with stsIndex0 := newStsIndex0 }) := (steady_deriveKeyMaterial ..).rest
  dsimp only [Ctx.modify]
  generalize deriveSessionMaterial P _ = c' at hm ⊢
  cases hm with
  | failed hkeys =>
    rw [if_pos (by simp)]
    exact .anchorFailed haction hstate hkeys
  | derived hkeys =>
    rw [if_neg (by simp)]
    have hf := hquiet.staysQuiet c.faults
    rw [hkeys] at hf
    exact .anchored haction hstate (congrArg Prod.fst hkeys) hf (unstashed_armPrePollListening _ _)

/-- **`Served` lists everything that serving an input can do.** -/
theorem served_serve (i : Input) (c : Ctx) : Served P i c (serve P i c) := by
  cases haction : i.action with
  | start ursk params nodeConfig callback =>
    simp only [serve, haction]
    exact served_start haction
  | stop =>
    have h := Served.stopped (P := P) (c := c) haction
    simpa only [serve, haction, stop, return', transitionTo, Ctx.command, Ctx.emit, Ctx.modify,
      List.append_assoc, List.cons_append, List.nil_append] using h
  | suspend =>
    have h := Served.suspended (P := P) (c := c) haction
    simpa only [serve, haction, suspend, return', transitionTo, Ctx.command, Ctx.emit, Ctx.modify,
      List.append_assoc, List.cons_append, List.nil_append] using h
  | resume =>
    simp only [serve, haction, resume]
    by_cases hstate : c.session.state = .suspended
    · rw [if_neg (not_not.2 hstate)]
      exact .resumed haction hstate (unstashed_armPrePollListening _ _)
    · rw [if_pos hstate]
      exact .refused (Or.inl haction) hstate
  | resumeWithAnchor newStsIndex0 =>
    simp only [serve, haction]
    exact served_resumeWithAnchor haction
  | rxSuccess event =>
    simp only [serve, haction]
    exact served_onRxSuccess haction
  | rxTimeout =>
    simp only [serve, haction]
    exact served_onRxTimeout haction
  | rxError =>
    simp only [serve, haction]
    exact served_onRxError haction
  | txComplete =>
    simp only [serve, haction]
    exact served_onTxComplete haction
  | callbackReturn =>
    simp only [serve, haction]
    exact .callbackReturned haction (unstashed_armPrePollListening _ _)

/-- **What a step of the machine does.** -/
theorem served_of_steps {e : Event} (h : (machine P).Steps e) :
    e.pre.enabled e.input.action ∧ ∃ c, Served P e.input (e.pre.enter e.input) c ∧
      e.post = ⟨c.session, c.inCallback⟩ ∧ e.output = c.outputs := by
  obtain ⟨henabled, hpost, hout⟩ := steps_iff.1 h
  exact ⟨henabled, _, served_serve e.input _, hpost, hout⟩

end Session
end AliroUwb
