/-
# The setup message codec

`include/uwb/protocol/SetupMessageCodec.hpp` and
`src/protocol/SetupMessageCodec.cpp`: the messages M1 to M4 by which two devices
agree on a ranging session, and those that suspend and resume it.  A message has
a four-byte header (category, type and the big-endian length of the payload) and
a payload of attributes, each a tag, a length and a value.

The three enumerations have the underlying type `uint8_t` and an `AttributeTag`
is cast from any byte of a message, so they are bytes with named values here, as
in the frame codec.  A parser writes into its output parameters in place, also
where it then fails: it returns its result and the parameters it leaves.
-/

import AliroUwb.Core.ByteOrder
import AliroUwb.Library.LastWriter
import AliroUwb.Library.WireFormat
import AliroUwb.Protocol.Parameters

namespace AliroUwb
namespace Protocol

open LastWriter WireFormat

/-- `setup::ProtocolCategory`. -/
structure ProtocolCategory where
  toByte : UInt8
  deriving DecidableEq, Repr

namespace ProtocolCategory

def uwbRangingService : ProtocolCategory := ⟨0x01⟩
def notification : ProtocolCategory := ⟨0x02⟩

end ProtocolCategory

/-- `setup::MessageType`. -/
structure MessageType where
  toByte : UInt8
  deriving DecidableEq, Repr

namespace MessageType

def rangingSetupM1 : MessageType := ⟨0x00⟩
def rangingSetupM3 : MessageType := ⟨0x02⟩
def suspendRequest : MessageType := ⟨0x04⟩
def suspendResponse : MessageType := ⟨0x05⟩
def resumeRequest : MessageType := ⟨0x06⟩
def rangingNotification : MessageType := ⟨0x01⟩

end MessageType

/-- `setup::AttributeTag`. -/
structure AttributeTag where
  toByte : UInt8
  deriving DecidableEq, Repr

namespace AttributeTag

def configId : AttributeTag := ⟨0x00⟩
def pulseShapeCombo : AttributeTag := ⟨0x01⟩
def sessionId : AttributeTag := ⟨0x02⟩
def channelBitmask : AttributeTag := ⟨0x03⟩
def ranMultiplier : AttributeTag := ⟨0x04⟩
def slotBitmask : AttributeTag := ⟨0x05⟩
def syncCodeIndexBitmask : AttributeTag := ⟨0x06⟩
def syncCodeIndex : AttributeTag := ⟨0x07⟩
def hoppingConfigBitmask : AttributeTag := ⟨0x08⟩
def chapsPerSlot : AttributeTag := ⟨0x09⟩
def numResponders : AttributeTag := ⟨0x0A⟩
def slotsPerRound : AttributeTag := ⟨0x0B⟩
def stsIndex0 : AttributeTag := ⟨0x0C⟩
def uwbTime0 : AttributeTag := ⟨0x0D⟩
def hopModeKey : AttributeTag := ⟨0x0E⟩
def macMode : AttributeTag := ⟨0x0F⟩
def status : AttributeTag := ⟨0x11⟩

end AttributeTag

/-- `setup::DeviceCapabilities`. -/
structure DeviceCapabilities where
  supportedConfigIds : List UInt16 := [0x0000]
  supportedPulseShapes : List UInt8 := [0x00]
  channelBitmask : UInt8 := 0x02
  slotBitmask : UInt8 := 0x01
  syncCodeBitmask : UInt32 := 0x00000200
  hoppingConfigBitmask : UInt8 := 0x18
  minRanMultiplier : UInt8 := 1
  macMode : UInt8 := 0
  responderCount : UInt8 := 1
  deriving DecidableEq

/-! ### Writing attributes -/

/-- `TlvWriter`: the message written so far, its length field still zero. -/
structure TlvWriter where
  buffer : List UInt8

namespace TlvWriter

/-- The constructor of `TlvWriter`. -/
def new (cat : ProtocolCategory) (msgType : MessageType) : TlvWriter :=
  ⟨[cat.toByte, msgType.toByte, 0, 0]⟩

/-- `TlvWriter::addU8`. -/
def addU8 (w : TlvWriter) (tag : AttributeTag) (val : UInt8) : TlvWriter :=
  ⟨w.buffer ++ [tag.toByte, 1, val]⟩

/-- `TlvWriter::addU32`. -/
def addU32 (w : TlvWriter) (tag : AttributeTag) (val : UInt32) : TlvWriter :=
  ⟨w.buffer ++ [tag.toByte, 4] ++ writeBe32 val⟩

/-- `TlvWriter::addBytes`. -/
def addBytes (w : TlvWriter) (tag : AttributeTag) (bytes : List UInt8) : TlvWriter :=
  ⟨w.buffer ++ [tag.toByte, UInt8.ofNat bytes.length] ++ bytes⟩

/-- `TlvWriter::addU16Array`. -/
def addU16Array (w : TlvWriter) (tag : AttributeTag) (values : List UInt16) : TlvWriter :=
  ⟨w.buffer ++ [tag.toByte, UInt8.ofNat (values.length * 2)] ++ values.flatMap writeBe16⟩

/-- `TlvWriter::finalize`. -/
def finalize (w : TlvWriter) : List UInt8 :=
  overwrite w.buffer 2 (writeBe16 (UInt16.ofNat (w.buffer.length - 4)))

end TlvWriter

/-! ### Reading attributes -/

/-- `TlvElement`. -/
structure TlvElement where
  tag : AttributeTag
  value : List UInt8
  deriving DecidableEq, Repr

/-- The loop of `parseTlvStream`, in at most `fuel` rounds. -/
def parseTlvElements (stream : List UInt8) (end' : ℕ) :
    ℕ → ℕ → List TlvElement → Except StatusCode (List TlvElement)
  | 0, _, _ => .error .malformedFrame
  | fuel + 1, offset, elements =>
    if offset < end' then
      if end' < offset + 2 then .error .malformedFrame
      else
        let tag : AttributeTag := ⟨byteAt stream offset⟩
        let len := (byteAt stream (offset + 1)).toNat
        if end' < offset + 2 + len then .error .malformedFrame
        else parseTlvElements stream end' fuel (offset + 2 + len)
          (elements ++ [⟨tag, (stream.drop (offset + 2)).take len⟩])
    else .ok elements

/-- `parseTlvStream`.  A round of the loop reads two bytes or more, so the rounds
suffice. -/
def parseTlvStream (stream : List UInt8) : Except StatusCode (List TlvElement) :=
  if stream.length < 4 then .error .malformedFrame
  else
    let payloadLen := (readBe16 stream 2).toNat
    if stream.length - 4 < payloadLen then .error .malformedFrame
    else parseTlvElements stream (4 + payloadLen) (payloadLen + 1) 4 []

/-- A case of a parser's switch: the size of the value is checked, and what is
read from it stored. -/
def readAttribute {β σ : Type} (size : ℕ) (value : List UInt8) (read : Except StatusCode β)
    (store : β → σ) : Except StatusCode σ :=
  if value.length ≠ size then .error .malformedFrame else read.map store

/-! ### M1 and M2 -/

/-- `SetupMessageCodec::buildM1`. -/
def buildM1 (sessionId : SessionId) (caps : DeviceCapabilities) :
    Except StatusCode (List UInt8) :=
  .ok ((((TlvWriter.new .uwbRangingService .rangingSetupM1
    |>.addU16Array .configId caps.supportedConfigIds)
    |>.addBytes .pulseShapeCombo caps.supportedPulseShapes)
    |>.addU8 .channelBitmask caps.channelBitmask)
    |>.addU32 .sessionId sessionId).finalize

/-- `HopCccToFira`. -/
def hopCccToFira (ccc : UInt8) : UInt8 := ccc >>> 3

/-- `HopFiraToCcc`. -/
def hopFiraToCcc (fira : UInt8) : UInt8 := fira <<< 3

def hopComboContinuousDefault : UInt8 := 0x0A
def hopComboAdaptiveDefault : UInt8 := 0x06
def hopComboNoHopping : UInt8 := 0x10

/-- The check of the `SessionId` case of `parseM2`. -/
def matchSessionId (expectedSessionId sessionId : SessionId) : Except StatusCode SessionId :=
  if sessionId ≠ expectedSessionId then .error .invalidParameter else .ok sessionId

/-- `common` in the `ChannelBitmask` case: the channels on offer of both sides. -/
def commonChannels (localCaps : DeviceCapabilities) (value : List UInt8) : UInt8 :=
  byteAt value 0 &&& localCaps.channelBitmask

/-- The choice of the `ChannelBitmask` case, among the channels of both sides. -/
def selectChannel (common : UInt8) : Except StatusCode UwbChannel :=
  if common &&& 0x02 ≠ 0 then .ok .channel9
  else if common &&& 0x01 ≠ 0 then .ok .channel5
  else .error .invalidParameter

/-- `common` in the `SlotBitmask` case: the slot durations on offer of both sides. -/
def commonSlots (localCaps : DeviceCapabilities) (value : List UInt8) : UInt8 :=
  byteAt value 0 &&& localCaps.slotBitmask

/-- The table of the `SlotBitmask` case: the chaps per slot that bit `idx` stands
for; `chaps` keeps its initial value when no bit has been found. -/
def chapsOfBit : Option ℕ → UInt8
  | some 0 => 3
  | some 1 => 4
  | some 2 => 6
  | some 3 => 8
  | some 4 => 9
  | some 5 => 12
  | some 6 => 24
  | _ => 3

/-- The choice of the `SlotBitmask` case: the lowest bit of both sides. -/
def selectSlotDuration (common : UInt8) : Except StatusCode UInt16 :=
  if common = 0 then .error .invalidParameter
  else
    let chaps := chapsOfBit
      ((List.range 7).find? fun idx => (common >>> UInt8.ofNat idx) &&& 0x01 ≠ 0)
    .ok (400 * chaps.toUInt32).toUInt16

/-- `common` in the `HoppingConfigBitmask` case: the hopping configurations on
offer of both sides. -/
def commonHopping (localCaps : DeviceCapabilities) (value : List UInt8) : UInt8 :=
  hopCccToFira (byteAt value 0) &&& localCaps.hoppingConfigBitmask

/-- The choice of the `HoppingConfigBitmask` case: the mode and its own bitmask. -/
def selectHopping (common : UInt8) : Except StatusCode (HoppingMode × UInt8) :=
  if common &&& hopComboNoHopping = hopComboNoHopping then
    .ok (.disabled, hopFiraToCcc hopComboNoHopping)
  else if common &&& hopComboContinuousDefault = hopComboContinuousDefault then
    .ok (.continuousDefault, hopFiraToCcc hopComboContinuousDefault)
  else if common &&& hopComboAdaptiveDefault = hopComboAdaptiveDefault then
    .ok (.adaptiveDefault, hopFiraToCcc hopComboAdaptiveDefault)
  else .error .invalidParameter

/-- The switch of `parseM2`. -/
def m2Attribute (expectedSessionId : SessionId) (localCaps : DeviceCapabilities)
    (outParams : RangingSessionParameters) (elem : TlvElement) :
    Except StatusCode RangingSessionParameters :=
  let value := elem.value
  if elem.tag = .configId then
    readAttribute 2 value (.ok (readBe16 value 0)) fun v => { outParams with uwbConfigId := v }
  else if elem.tag = .pulseShapeCombo then
    readAttribute 1 value (.ok (byteAt value 0)) fun v => { outParams with pulseShapeCombo := v }
  else if elem.tag = .sessionId then
    readAttribute 4 value (matchSessionId expectedSessionId (readBe32 value 0))
      fun v => { outParams with sessionId := v }
  else if elem.tag = .channelBitmask then
    readAttribute 1 value (selectChannel (commonChannels localCaps value))
      fun v => { outParams with channel := v }
  else if elem.tag = .ranMultiplier then
    readAttribute 1 value (.ok (96 * (max (byteAt value 0) localCaps.minRanMultiplier).toUInt32))
      fun v => { outParams with durationMs := v }
  else if elem.tag = .slotBitmask then
    readAttribute 1 value (selectSlotDuration (commonSlots localCaps value))
      fun v => { outParams with slotDurationRstu := v }
  else if elem.tag = .hoppingConfigBitmask then
    readAttribute 1 value (selectHopping (commonHopping localCaps value))
      fun v => { outParams with hoppingMode := v.1, hoppingConfigBitmask := v.2 }
  else .ok outParams

/-- `SetupMessageCodec::parseM2`. -/
def parseM2 (payload : List UInt8) (expectedSessionId : SessionId)
    (localCaps : DeviceCapabilities) (outParams : RangingSessionParameters) :
    Except StatusCode Unit × RangingSessionParameters :=
  match parseTlvStream payload with
  | .error e => (.error e, outParams)
  | .ok elements =>
    walk (m2Attribute expectedSessionId localCaps) { outParams with slotsPerRound := 12 } elements

/-! ### M3 and M4 -/

/-- `SetupMessageCodec::buildM3`. -/
def buildM3 (params : RangingSessionParameters) (localCaps : DeviceCapabilities) :
    Except StatusCode (List UInt8) :=
  let ranMultiplier := (params.durationMs / 96).toUInt8
  let chapsPerSlot := (params.slotDurationRstu / 400).toUInt8
  .ok (((((((TlvWriter.new .uwbRangingService .rangingSetupM3
    |>.addU8 .ranMultiplier ranMultiplier)
    |>.addU8 .chapsPerSlot chapsPerSlot)
    |>.addU8 .numResponders localCaps.responderCount)
    |>.addU8 .slotsPerRound params.slotsPerRound)
    |>.addU32 .syncCodeIndexBitmask localCaps.syncCodeBitmask)
    |>.addU8 .hoppingConfigBitmask params.hoppingConfigBitmask)
    |>.addU8 .macMode localCaps.macMode).finalize

/-- The switch of `parseM4`. -/
def m4Attribute (inOutParams : RangingSessionParameters) (elem : TlvElement) :
    Except StatusCode RangingSessionParameters :=
  let value := elem.value
  if elem.tag = .stsIndex0 then
    readAttribute 4 value (.ok (readBe32 value 0)) fun v => { inOutParams with stsIndex0 := v }
  else if elem.tag = .uwbTime0 then
    readAttribute 8 value (.ok (readBe64 value 0))
      fun v => { inOutParams with initiationTimeUs := v }
  else if elem.tag = .hopModeKey then
    readAttribute 4 value (.ok (Bytes.ofList 4 value)) fun v => { inOutParams with hopModeKey := v }
  else if elem.tag = .syncCodeIndex then
    readAttribute 1 value (.ok (byteAt value 0)) fun v => { inOutParams with syncCodeIndex := v }
  else .ok inOutParams

/-- `SetupMessageCodec::parseM4`. -/
def parseM4 (payload : List UInt8) (inOutParams : RangingSessionParameters) :
    Except StatusCode Unit × RangingSessionParameters :=
  match parseTlvStream payload with
  | .error e => (.error e, inOutParams)
  | .ok elements => walk m4Attribute inOutParams elements

/-! ### Suspending and resuming -/

/-- `SetupMessageCodec::buildSuspendResumeRequest`. -/
def buildSuspendResumeRequest (sessionId : SessionId) (isSuspend : Bool) :
    Except StatusCode (List UInt8) :=
  .ok (TlvWriter.new .uwbRangingService (if isSuspend then .suspendRequest else .resumeRequest)
    |>.addU32 .sessionId sessionId).finalize

/-- `SetupMessageCodec::buildSuspendResponse`. -/
def buildSuspendResponse (accept : Bool) : Except StatusCode (List UInt8) :=
  .ok (TlvWriter.new .uwbRangingService .suspendResponse
    |>.addU8 .status (if accept then 0x00 else 0x01)).finalize

/-- `SetupMessageCodec::buildResumeRequest`. -/
def buildResumeRequest (sessionId : SessionId) : Except StatusCode (List UInt8) :=
  .ok (TlvWriter.new .uwbRangingService .resumeRequest
    |>.addU32 .sessionId sessionId).finalize

/-- The output parameters and the flags of `parseResumeResponse`. -/
structure ResumeState where
  outStsIndex0 : StsIndex
  outTime0Us : UInt64
  haveSts : Bool := false
  haveTime : Bool := false
  deriving DecidableEq, Repr

/-- The check of the `Status` case of `parseResumeResponse`. -/
def matchStatus (status : UInt8) : Except StatusCode Unit :=
  if status ≠ 0x00 then .error .invalidParameter else .ok ()

/-- The switch of `parseResumeResponse`. -/
def resumeAttribute (s : ResumeState) (elem : TlvElement) : Except StatusCode ResumeState :=
  let value := elem.value
  if elem.tag = .stsIndex0 then
    readAttribute 4 value (.ok (readBe32 value 0))
      fun v => { s with outStsIndex0 := v, haveSts := true }
  else if elem.tag = .uwbTime0 then
    readAttribute 8 value (.ok (readBe64 value 0))
      fun v => { s with outTime0Us := v, haveTime := true }
  else if elem.tag = .status then
    readAttribute 1 value (matchStatus (byteAt value 0)) fun _ => s
  else .ok s

/-- `SetupMessageCodec::parseResumeResponse`. -/
def parseResumeResponse (payload : List UInt8) (outStsIndex0 : StsIndex) (outTime0Us : UInt64) :
    Except StatusCode Unit × StsIndex × UInt64 :=
  match parseTlvStream payload with
  | .error e => (.error e, outStsIndex0, outTime0Us)
  | .ok elements =>
    match walk resumeAttribute { outStsIndex0, outTime0Us } elements with
    | (.error e, s) => (.error e, s.outStsIndex0, s.outTime0Us)
    | (.ok (), s) =>
      (if s.haveSts = false ∨ s.haveTime = false then .error .malformedFrame else .ok (),
        s.outStsIndex0, s.outTime0Us)

/-- `SetupMessageCodec::buildRangingNotification`. -/
def buildRangingNotification (attributeId : UInt8) : Except StatusCode (List UInt8) :=
  .ok (TlvWriter.new .notification .rangingNotification
    |>.addBytes ⟨attributeId⟩ []).finalize

end Protocol
end AliroUwb
