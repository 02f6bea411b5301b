/-
# The MAC frame codec

`src/protocol/FrameCodec.cpp`: the 23-byte MAC header, the 13-byte PrePoll
payload and the FinalData payload of 18 bytes and 7 bytes per responder.  All
integers are little-endian; the key source is stored reversed, so that the
decoded value compares directly with the derived address.

`MessageIdentifier` is a C++ enumeration with underlying type `uint8_t` that
`decodeHeader` fills by a cast, so any byte can be in it: it is a byte with two
named values here.
-/

import AliroUwb.Core.ByteOrder

namespace AliroUwb
namespace Protocol

def macHeaderLength : ℕ := 23
def prePollPayloadLength : ℕ := 13
def finalDataHeaderLength : ℕ := 18
def responderRecordLength : ℕ := 7
def maxRespondersSupported : ℕ := 10

def frameControlField : UInt16 := 0x2B49
def securityControlField : UInt8 := 0x16
def keyIndexField : UInt8 := 0xAA
def vendorIeHeader : UInt16 := 0x0005
def vendorOuiAliro : UInt32 := 0x4A191B
def headerTermination2Ie : UInt16 := 0x3F80

/-- `protocol::MessageIdentifier`. -/
structure MessageIdentifier where
  toByte : UInt8
  deriving DecidableEq, Repr

def MessageIdentifier.prePoll : MessageIdentifier := ⟨0x01⟩
def MessageIdentifier.finalData : MessageIdentifier := ⟨0x02⟩

/-- `protocol::MacHeader`. -/
structure MacHeader where
  destinationShortAddress : UInt16 := 0xFFFF
  frameCounter : FrameCounter := 0
  keySource : Bytes 4 := Bytes.zero 4
  messageId : MessageIdentifier := .prePoll
  payloadLength : UInt8 := 0
  deriving DecidableEq

/-- `protocol::PrePollPayload`. -/
structure PrePollPayload where
  sessionId : SessionId := 0
  pollStsIndex : StsIndex := 0
  rangingBlock : BlockIndex := 0
  hopFlag : UInt8 := 0
  roundIndex : SlotIndex := 0
  deriving DecidableEq, Repr

/-- `protocol::ResponderTimestampReport`. -/
structure ResponderTimestampReport where
  responderIndex : UInt8 := 0
  pollToResponseDeltaDtu : UInt32 := 0
  timestampUncertainty : UInt8 := 0
  rangingStatus : UInt8 := 0
  deriving DecidableEq, Repr

/-- `protocol::FinalDataPayload`. -/
structure FinalDataPayload where
  sessionId : SessionId := 0
  rangingBlock : BlockIndex := 0
  hopFlag : UInt8 := 0
  roundIndex : SlotIndex := 0
  finalStsIndex : StsIndex := 0
  pollToFinalTxDeltaDtu : UInt32 := 0
  responderReports : List ResponderTimestampReport := []
  deriving DecidableEq, Repr

/-- `isValidVendorOui`, of the three bytes from offset `i` on. -/
def isValidVendorOui (data : List UInt8) (i : ℕ) : Bool :=
  ((byteAt data i).toUInt32 ||| (byteAt data (i + 1)).toUInt32 <<< 8 |||
    (byteAt data (i + 2)).toUInt32 <<< 16) == vendorOuiAliro

/-- `FrameCodec::decodeHeader`. -/
def decodeHeader (frame : List UInt8) : Except StatusCode MacHeader :=
  if frame.length < macHeaderLength then .error .malformedFrame
  else if readLe16 frame 0 ≠ frameControlField ∨
      byteAt frame 4 ≠ securityControlField ∨
      byteAt frame 13 ≠ keyIndexField ∨
      readLe16 frame 14 ≠ vendorIeHeader ∨
      isValidVendorOui frame 16 = false ∨
      readLe16 frame 21 ≠ headerTermination2Ie then .error .malformedFrame
  else .ok {
    destinationShortAddress := readLe16 frame 2
    frameCounter := readLe32 frame 5
    keySource := ⟨[byteAt frame 12, byteAt frame 11, byteAt frame 10, byteAt frame 9], rfl⟩
    messageId := ⟨byteAt frame 19⟩
    payloadLength := byteAt frame 20 }

/-- The 23 bytes `FrameCodec::encodeHeader` writes. -/
def encodeHeader (header : MacHeader) : List UInt8 :=
  writeLe16 frameControlField ++ writeLe16 header.destinationShortAddress ++
    [securityControlField] ++ writeLe32 header.frameCounter ++ header.keySource.1.reverse ++
    [keyIndexField] ++ writeLe16 vendorIeHeader ++
    [(vendorOuiAliro &&& 0xFF).toUInt8, ((vendorOuiAliro >>> 8) &&& 0xFF).toUInt8,
      ((vendorOuiAliro >>> 16) &&& 0xFF).toUInt8] ++
    [header.messageId.toByte, header.payloadLength] ++ writeLe16 headerTermination2Ie

/-- `FrameCodec::decodePrePoll`. -/
def decodePrePoll (payload : List UInt8) : Except StatusCode PrePollPayload :=
  if payload.length < prePollPayloadLength then .error .malformedFrame
  else .ok {
    sessionId := readLe32 payload 0
    pollStsIndex := readLe32 payload 4
    rangingBlock := readLe16 payload 8
    hopFlag := byteAt payload 10
    roundIndex := readLe16 payload 11 }

/-- The 13 bytes `FrameCodec::encodePrePoll` writes. -/
def encodePrePoll (prePoll : PrePollPayload) : List UInt8 :=
  writeLe32 prePoll.sessionId ++ writeLe32 prePoll.pollStsIndex ++
    writeLe16 prePoll.rangingBlock ++ [prePoll.hopFlag] ++ writeLe16 prePoll.roundIndex

/-- The responder record at offset `o`. -/
def readReport (payload : List UInt8) (o : ℕ) : ResponderTimestampReport where
  responderIndex := byteAt payload o
  pollToResponseDeltaDtu := readLe32 payload (o + 1)
  timestampUncertainty := byteAt payload (o + 5)
  rangingStatus := byteAt payload (o + 6)

/-- `FrameCodec::decodeFinalData`. -/
def decodeFinalData (payload : List UInt8) : Except StatusCode FinalDataPayload :=
  if payload.length < finalDataHeaderLength then .error .malformedFrame
  else
    let numResponders := (byteAt payload 17).toNat
    if numResponders > maxRespondersSupported then .error .malformedFrame
    else if payload.length < finalDataHeaderLength + numResponders * responderRecordLength then
      .error .malformedFrame
    else .ok {
      sessionId := readLe32 payload 0
      rangingBlock := readLe16 payload 4
      hopFlag := byteAt payload 6
      roundIndex := readLe16 payload 7
      finalStsIndex := readLe32 payload 9
      pollToFinalTxDeltaDtu := readLe32 payload 13
      responderReports := (List.range numResponders).map fun i =>
        readReport payload (finalDataHeaderLength + i * responderRecordLength) }

/-- The 7 bytes of a responder record. -/
def writeReport (report : ResponderTimestampReport) : List UInt8 :=
  [report.responderIndex] ++ writeLe32 report.pollToResponseDeltaDtu ++
    [report.timestampUncertainty, report.rangingStatus]

/-- The bytes `FrameCodec::encodeFinalData` writes for at most
`maxRespondersSupported` records. -/
def encodeFinalData (finalData : FinalDataPayload) : List UInt8 :=
  writeLe32 finalData.sessionId ++ writeLe16 finalData.rangingBlock ++ [finalData.hopFlag] ++
    writeLe16 finalData.roundIndex ++ writeLe32 finalData.finalStsIndex ++
    writeLe32 finalData.pollToFinalTxDeltaDtu ++
    [UInt8.ofNat finalData.responderReports.length] ++
    finalData.responderReports.flatMap writeReport

end Protocol
end AliroUwb
