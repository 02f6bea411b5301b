/-
# The session's state

The members of `RangingSession` (`include/uwb/session/RangingSession.hpp`),
under the comment headings they stand under there: the key material
(`KeyMaterial`), the time stamps and readings of the running exchange
(`Measurement`), the pre-derived slot keys (`CycleKeys`) and the replay state
(`ReplayState`).  The consensus filter is a reference of the C++ class; its
state is carried along.  The logger is absent (a null pointer).

A handler runs on a `Ctx`: the session, the outcomes of the provider calls
still to come, and what the handler has put out so far.
-/

import AliroUwb.Crypto.KeyDerivation
import AliroUwb.Protocol.FrameCodec
import AliroUwb.Protocol.Parameters
import AliroUwb.Ranging.Angle
import AliroUwb.Ranging.Consensus
import AliroUwb.Transceiver.Radio

namespace AliroUwb
namespace Session

open Crypto Protocol Ranging Transceiver

/-- `session::SessionState`. -/
inductive SessionState
  | uninitialized
  | idle
  | prePollListening
  | awaitingPoll
  | transmittingResponse
  | awaitingFinal
  | awaitingFinalData
  | suspended
  deriving DecidableEq, Repr

/-- The states in which the session waits for the radio. -/
def SessionState.active : SessionState → Bool
  | .uninitialized | .idle | .suspended => false
  | _ => true

/-- The states between the arm and the result of an exchange. -/
def SessionState.inExchange : SessionState → Bool
  | .awaitingPoll | .transmittingResponse | .awaitingFinal | .awaitingFinalData => true
  | _ => false

/-- `session::RangingResult`. -/
structure RangingResult where
  sessionId : SessionId := 0
  blockIndex : BlockIndex := 0
  roundInBlock : UInt8 := 0
  distance : DistanceMm := 0
  integrity : RangeIntegrityReport := {}
  timestampUs : UInt64 := 0
  aoaCentiDegrees : Int32 := 0
  aoaValid : Bool := false
  deriving DecidableEq

/-- `session::SessionNodeConfig`; the antenna spacing is the binary32 pattern
of the C++ `float`. -/
structure SessionNodeConfig where
  responderIndex : UInt8 := 0
  blockParityFilter : Int8 := -1
  antennaDelayBias : DistanceMm := 0
  enableAoA : Bool := false
  aoaAntennaSpacingMm : UInt32 := 0
  deriving DecidableEq

/-- "Master Cryptographic Material", as `deriveSessionMaterial` fills it. -/
structure KeyMaterial where
  mupsk1 : Bytes 16 := Bytes.zero 16
  mupsk2 : Bytes 32 := Bytes.zero 32
  mursk : Bytes 32 := Bytes.zero 32
  saltedHash : Bytes 16 := Bytes.zero 16
  addresses : MacAddresses := {}
  deriving DecidableEq

/-- The time stamps of the running exchange and the readings of its Final. -/
structure Measurement where
  pollRxTimestampDtu : UInt64 := 0
  respTxTimestampDtu : UInt64 := 0
  finalRxTimestampDtu : UInt64 := 0
  finalStsQuality : Int16 := 0
  finalStsPassed : Bool := false
  finalPdoaRaw : Int16 := 0
  finalPdoaValid : Bool := false
  finalFirstPathDbQ8 : Int16 := 0
  finalRssiDbQ8 : Int16 := 0
  finalNlosDiagValid : Bool := false
  deriving DecidableEq

/-- `RangingSession::CycleKeys`. -/
structure CycleKeys where
  pollStsIndex : StsIndex := 0
  poll : SlotCryptoMaterial := {}
  response : SlotCryptoMaterial := {}
  final : SlotCryptoMaterial := {}
  deriving DecidableEq

/-- The counters and indices that frames are checked against. -/
structure ReplayState where
  lastPrePollCounter : FrameCounter := 0
  lastFinalDataCounter : FrameCounter := 0
  hasReceivedPrePollCounter : Bool := false
  hasReceivedFinalDataCounter : Bool := false
  lastPrePollStsIndex : StsIndex := 0
  hasPrePollStsIndex : Bool := false
  deriving DecidableEq

/-- The members of `RangingSession`. -/
structure SessionMembers where
  state : SessionState := .uninitialized
  nodeConfig : SessionNodeConfig := {}
  params : RangingSessionParameters := {}
  /-- The target of the `std::function`, `none` when it is empty. -/
  callback : Option ℕ := none
  ursk : Bytes 32 := Bytes.zero 32
  keys : KeyMaterial := {}
  materialValid : Bool := false
  lastDeriveError : StatusCode := .invalidParameter
  currentBlock : BlockIndex := 0
  currentRound : SlotIndex := 0
  armedPollStsIndex : StsIndex := 0
  measurement : Measurement := {}
  aoaStability : AoaStabilityDetector := .new {}
  warmValid : Bool := false
  warm : CycleKeys := {}
  armedKeysValid : Bool := false
  armed : CycleKeys := {}
  replay : ReplayState := {}
  rxFrameBuffer : Bytes 256 := Bytes.zero 256
  stashFrame : Bytes 128 := Bytes.zero 128
  stashLen : UInt16 := 0
  /-- The `RangeConsensusFilter` the session refers to. -/
  filter : RangeConsensusFilter := {}
  deriving DecidableEq

/-- What a handler puts out: commands, its return value, delivered results and
the state changes and acceptances that a debug log would show. -/
inductive Output
  | command (c : Command)
  | transition (newState : SessionState)
  | acceptedPrePoll (mhr : MacHeader) (prePoll : PrePollPayload)
  | acceptedFinalData (mhr : MacHeader) (finalData : FinalDataPayload)
  | range (callback : ℕ) (result : RangingResult)
  | returned (result : Except StatusCode Unit)
  deriving DecidableEq

/-- The functions outside the repository that the session computes with. -/
structure Platform where
  crypto : CryptoProvider
  fromPdoa : AngleFormula

/-- What a handler runs on. -/
structure Ctx where
  session : SessionMembers
  /-- The handler has called the user's callback, which has not returned. -/
  inCallback : Bool
  faults : Faults
  outputs : List Output

namespace Ctx

/-- An output is put out. -/
def emit (o : Output) (c : Ctx) : Ctx := { c with outputs := c.outputs ++ [o] }

/-- A command is given. -/
def command (cmd : Command) (c : Ctx) : Ctx := c.emit (.command cmd)

/-- The members are changed. -/
def modify (f : SessionMembers → SessionMembers) (c : Ctx) : Ctx :=
  { c with session := f c.session }

/-- Runs a computation that calls the crypto provider. -/
def run {α : Type} (x : StateM Faults α) (c : Ctx) : α × Ctx :=
  ((x c.faults).1, { c with faults := (x c.faults).2 })

/-- A command leaves the members as they are. -/
@[simp] theorem session_command (cmd : Command) (c : Ctx) :
    (c.command cmd).session = c.session := rfl

/-- A command does not call the provider. -/
@[simp] theorem faults_command (cmd : Command) (c : Ctx) : (c.command cmd).faults = c.faults := rfl

/-- A command is put out. -/
@[simp] theorem outputs_command (cmd : Command) (c : Ctx) :
    (c.command cmd).outputs = c.outputs ++ [.command cmd] := rfl

end Ctx

end Session
end AliroUwb
