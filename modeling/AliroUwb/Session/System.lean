/-
# The session as a machine

A `RangingSession` is driven by its owner, who calls the control interface, and
by the driver, which reports radio events.  The machine `machine P` takes one
such `Action` at a time, in any order, each with the platform's answers for it.

User code runs in the middle of one handler: `handleFinalDataReception` calls
the range callback.  So that step ends with `inCallback` set; the control calls
the callback makes are the steps that follow, the driver being busy reports
nothing meanwhile, and `Action.callbackReturn` is the rest of the handler.
-/

import AliroUwb.Library.Machine
import AliroUwb.Session.Control

namespace AliroUwb
namespace Session

open Stepwise Crypto Protocol Ranging Transceiver

/-- What can happen to a session. -/
inductive Action
  | start (ursk : Bytes 32) (params : RangingSessionParameters) (nodeConfig : SessionNodeConfig)
      (callback : Option ℕ)
  | stop
  | suspend
  | resume
  | resumeWithAnchor (newStsIndex0 : StsIndex)
  | rxSuccess (event : RxSuccessEvent)
  | rxTimeout
  | rxError
  | txComplete
  | callbackReturn
  deriving DecidableEq

/-- Reported by the driver. -/
def Action.isRadioEvent : Action → Bool
  | .rxSuccess _ | .rxTimeout | .rxError | .txComplete => true
  | _ => false

/-- An action and the platform's answers while it is served. -/
structure Input where
  action : Action
  env : Env := {}

/-- The session, and whether its user's callback is running. -/
structure System where
  session : SessionMembers
  inCallback : Bool := false
  deriving DecidableEq

/-- What an action makes the session do. -/
def serve (P : Platform) (i : Input) : Ctx → Ctx :=
  match i.action with
  | .start ursk params nodeConfig callback => start P i.env ursk params nodeConfig callback
  | .stop => stop
  | .suspend => suspend
  | .resume => resume P i.env
  | .resumeWithAnchor newStsIndex0 => resumeWithAnchor P i.env newStsIndex0
  | .rxSuccess event => onRxSuccess P i.env event
  | .rxTimeout => onRxTimeout P i.env
  | .rxError => onRxError P i.env
  | .txComplete => onTxComplete P i.env
  | .callbackReturn => afterCallback P i.env

/-- Whether an action can occur: no event while the callback runs, and the
callback returns only when it does. -/
def System.enabled (x : System) (a : Action) : Bool :=
  if a.isRadioEvent then !x.inCallback else if a = .callbackReturn then x.inCallback else true

/-- Where serving an input starts. -/
def System.enter (x : System) (i : Input) : Ctx := ⟨x.session, x.inCallback, i.env.faults, []⟩

/-- One step. -/
def System.step (P : Platform) (x : System) (i : Input) : Option (System × List Output) :=
  if x.enabled i.action then
    let c := serve P i (x.enter i)
    some (⟨c.session, c.inCallback⟩, c.outputs)
  else none

/-- The session as a machine. -/
def machine (P : Platform) : Machine System Input (List Output) := ⟨System.step P⟩

/-- A step of the session. -/
abbrev Event := Occurrence System Input (List Output)

/-- The control call that a step serves has succeeded. -/
def succeeded (e : Event) : Bool := decide (Output.returned (.ok ()) ∈ e.output)

/-- A session as it is constructed, with its consensus filter. -/
def System.initial (filter : RangeConsensusFilter) : System := ⟨{ filter := filter }, false⟩

/-- **What a step does**, in one statement: it is enabled, and what follows it
is what serving its input leaves. -/
theorem steps_iff {P : Platform} {e : Event} :
    (machine P).Steps e ↔ e.pre.enabled e.input.action ∧
      e.post = ⟨(serve P e.input (e.pre.enter e.input)).session,
        (serve P e.input (e.pre.enter e.input)).inCallback⟩ ∧
      e.output = (serve P e.input (e.pre.enter e.input)).outputs := by
  unfold Machine.Steps machine System.step
  by_cases h : e.pre.enabled e.input.action
  · simp [h, eq_comm]
  · simp [h]

/-! ### A session to look at

`Platform.sample` is a provider simple enough to compute with: its cipher maps
every block to zeros and its MAC returns the key.  Under a key of zeros, the
frames `samplePrePoll` and `sampleFinalData` are what an initiator sends. -/

/-- The provider of the examples. -/
def Platform.sample : Platform where
  crypto := ⟨fun _ _ => Bytes.zero 16, fun key _ => Bytes.ofList 16 key⟩
  fromPdoa _ _ _ := {}

/-- Eight rounds of twelve slots to a block. -/
def sampleParams : RangingSessionParameters := { durationMs := 192, slotDurationRstu := 2400 }

/-- A frame as the codec encodes it, the MIC being zeros. -/
def sampleFrame (messageId : MessageIdentifier) (frameCounter : FrameCounter)
    (payload : List UInt8) : List UInt8 :=
  encodeHeader {
    destinationShortAddress := 0, frameCounter, messageId
    payloadLength := UInt8.ofNat payload.length } ++ payload ++ List.replicate micLength 0

/-- The reception of a PrePoll. -/
def samplePrePoll (frameCounter : FrameCounter) (prePoll : PrePollPayload) : Input :=
  ⟨.rxSuccess {}, .received (sampleFrame .prePoll frameCounter (encodePrePoll prePoll))⟩

/-- The reception of a FinalData. -/
def sampleFinalData (frameCounter : FrameCounter) (finalData : FinalDataPayload) : Input :=
  ⟨.rxSuccess {}, .received (sampleFrame .finalData frameCounter (encodeFinalData finalData))⟩

/-- A session is started. -/
def sampleStart (params : RangingSessionParameters) (nodeConfig : SessionNodeConfig) : Input :=
  ⟨.start (Bytes.zero 32) params nodeConfig (some 0), {}⟩

/-- The Poll, the Response and the Final of an exchange. -/
def sampleRanging : List Input :=
  [⟨.rxSuccess { rxTimestampDtu := 1000000, stsPassed := true }, {}⟩,
    ⟨.txComplete, { txTimestampDtu := 2000000 }⟩,
    ⟨.rxSuccess { rxTimestampDtu := 3000000, stsPassed := true }, {}⟩]

/-- The first exchange of a session, up to the call of its callback. -/
def sampleExchange : List Input :=
  samplePrePoll 1 { pollStsIndex := 1 } :: sampleRanging ++
    [sampleFinalData 1 {
      finalStsIndex := 3
      pollToFinalTxDeltaDtu := 2000000
      responderReports := [{ pollToResponseDeltaDtu := 1000000 }] }]

end Session
end AliroUwb
