/-
# The control interface

`start`, `stop`, `suspend`, `resume` and `resumeWithAnchor` of
`src/session/RangingSession.cpp`, and `deriveSessionMaterial`, which fills the
key material member by member and stops at the first derivation that fails.

A control call returns what it puts out last, as `Output.returned`.
-/

import AliroUwb.Session.Handlers

namespace AliroUwb
namespace Session

open Crypto Protocol Ranging Transceiver

/-- One derivation of `deriveSessionMaterial`: its error is remembered and ends
the function, its value is stored and `next` goes on. -/
def derive {α : Type} (x : CryptoM α) (store : α → KeyMaterial → KeyMaterial) (next : Ctx → Ctx)
    (c : Ctx) : Ctx :=
  let (res, c) := c.run x
  match res with
  | .error e => c.modify fun s => { s with lastDeriveError := e }
  | .ok a => next (c.modify fun s => { s with keys := store a s.keys })

/-- `rcfg`, the packed ranging configuration that the salted hash covers. -/
def rangingConfig (params : RangingSessionParameters) : List UInt8 :=
  [byteAt params.protocolVersion.1 0, byteAt params.protocolVersion.1 1,
    ((params.uwbConfigId >>> 8) &&& 0xFF).toUInt8, (params.uwbConfigId &&& 0xFF).toUInt8] ++
  writeBe32 params.sessionId ++ writeBe32 params.stsIndex0 ++
  [params.responderCount, (params.durationMs / 96).toUInt8, params.slotsPerRound,
    (params.slotDurationRstu / 400).toUInt8, params.pulseShapeCombo]

variable (P : Platform) (env : Env)

/-- `RangingSession::deriveSessionMaterial`. -/
def deriveSessionMaterial (c : Ctx) : Ctx :=
  let { ursk, params, .. } := c.session
  derive (deriveMupsk1 P.crypto ursk) (fun mupsk1 keys => { keys with mupsk1 })
    (fun c => derive (deriveMupsk2 P.crypto ursk) (fun mupsk2 keys => { keys with mupsk2 })
      (fun c => derive (deriveMursk P.crypto ursk) (fun mursk keys => { keys with mursk })
        (fun c => derive (deriveSaltedHash P.crypto ursk (rangingConfig params))
          (fun saltedHash keys => { keys with saltedHash })
          (fun c => derive (deriveAddresses P.crypto c.session.keys.mupsk2 params.stsIndex0)
            (fun addresses keys => { keys with addresses })
            (fun c => c.modify fun s => { s with materialValid := true }) c) c) c) c) c

/-- Ends a control call. -/
def return' (result : Except StatusCode Unit) (c : Ctx) : Ctx := c.emit (.returned result)

/-- The members that `start` and `resumeWithAnchor` both clear. -/
def clearTracking (s : SessionMembers) : SessionMembers :=
  { s with
    filter := s.filter.reset
    replay := { s.replay with
      hasReceivedPrePollCounter := false, hasReceivedFinalDataCounter := false,
      hasPrePollStsIndex := false, lastPrePollStsIndex := 0 }
    warmValid := false
    armedKeysValid := false }

/-- `hwCfg` of `RangingSession::start`. -/
def hwConfig (s : SessionMembers) : TransceiverConfig where
  channel := s.params.channel
  preambleLengthSymbols := 64
  syncCode :=
    if 9 ≤ s.params.syncCodeIndex ∧ s.params.syncCodeIndex ≤ 12 then s.params.syncCodeIndex else 9
  sfd := .ieee4a
  sfdTimeoutSymbols := 65
  rxPacSize := 8
  antennaDelay := 16346
  pdoa := if s.nodeConfig.enableAoA then .mode3 else .off

/-- The end of `RangingSession::start`: the hardware, and listening. -/
def configureAndListen (c : Ctx) : Ctx :=
  let c := c.command (.configurePhy (hwConfig c.session))
  match env.configurePhyError with
  | some e => return' (.error e) c
  | none => return' (.ok ()) (armPrePollListening P env (c.command (.setListener true)))

/-- `RangingSession::start`. -/
def start (ursk : Bytes 32) (params : RangingSessionParameters) (nodeConfig : SessionNodeConfig)
    (callback : Option ℕ) (c : Ctx) : Ctx :=
  let c := c.command .forceReceiverOff
  let c := c.modify fun s => { s with params, nodeConfig, callback, ursk }
  let c := deriveSessionMaterial P c
  if !c.session.materialValid then return' (.error c.session.lastDeriveError) c
  else
    configureAndListen P env (c.modify fun s => { clearTracking s with aoaStability := .new {} })

/-- `RangingSession::stop`. -/
def stop (c : Ctx) : Ctx :=
  let c := c.command (.setListener false)
  let c := c.command .forceReceiverOff
  return' (.ok ()) (transitionTo .idle c)

/-- `RangingSession::suspend`. -/
def suspend (c : Ctx) : Ctx :=
  return' (.ok ()) (transitionTo .suspended (c.command .forceReceiverOff))

/-- `RangingSession::resume`. -/
def resume (c : Ctx) : Ctx :=
  if c.session.state ≠ .suspended then return' (.error .invalidState) c
  else return' (.ok ()) (armPrePollListening P env c)

/-- `RangingSession::resumeWithAnchor`; the new time origin is not used. -/
def resumeWithAnchor (newStsIndex0 : StsIndex) (c : Ctx) : Ctx :=
  if c.session.state ≠ .suspended then return' (.error .invalidState) c
  else
    let c := c.modify fun s =>
      { s with params := { s.params with stsIndex0 := newStsIndex0 }, materialValid := false }
    let c := deriveSessionMaterial P c
    if !c.session.materialValid then return' (.error c.session.lastDeriveError) c
    else
      let c := c.modify fun s => { clearTracking s with aoaStability := s.aoaStability.reset }
      return' (.ok ()) (armPrePollListening P env c)

end Session
end AliroUwb
