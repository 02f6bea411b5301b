/-
# Negotiated session parameters

`RangingSessionParameters` of `include/uwb/protocol/SetupMessageCodec.hpp`: what
the setup messages agree on and a session is started with.
-/

import AliroUwb.Core.Types

namespace AliroUwb
namespace Protocol

/-- `protocol::setup::RangingSessionParameters`. -/
structure RangingSessionParameters where
  sessionId : SessionId := 0
  protocolVersion : Bytes 2 := ⟨[0x01, 0x00], rfl⟩
  uwbConfigId : UInt16 := 0
  pulseShapeCombo : UInt8 := 0
  channel : UwbChannel := .channel9
  syncCodeIndex : UInt8 := 0
  durationMs : UInt32 := 0
  slotDurationRstu : UInt16 := 0
  slotsPerRound : UInt8 := 12
  hoppingMode : HoppingMode := .disabled
  hoppingConfigBitmask : UInt8 := 0
  hopModeKey : Bytes 4 := Bytes.zero 4
  stsIndex0 : StsIndex := 0
  initiationTimeUs : UInt64 := 0
  macMode : UInt8 := 0
  responderCount : UInt8 := 1
  deriving DecidableEq

end Protocol
end AliroUwb
