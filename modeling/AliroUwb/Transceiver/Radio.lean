/-
# The transceiver as the session sees it

`include/uwb/transceiver/DW3000Controller.hpp`: the events the driver reports,
the commands the session gives, `DW3000Controller::readReceivedData` and the time
stamps.

The DW3000 itself is outside the repository.  What the session can learn from
it during one entry point, whether a start succeeds, which bytes were received,
which time stamps are read, is an `Env`: no handler asks the same question
twice, so one answer of each kind is enough.

`Radio` abstracts the device to what it is doing: nothing, receiving, or about
to transmit.
-/

import AliroUwb.Crypto.Provider

namespace AliroUwb
namespace Transceiver

/-- `transceiver::PdoaMode`. -/
inductive PdoaMode
  | off
  | mode1
  | mode3
  deriving DecidableEq, Repr

/-- `transceiver::TransceiverConfig`. -/
structure TransceiverConfig where
  channel : UwbChannel := .channel9
  preambleLengthSymbols : UInt16 := 64
  syncCode : UInt8 := 9
  sfd : SfdType := .ieee4a
  sfdTimeoutSymbols : UInt16 := 65
  rxPacSize : UInt16 := 8
  antennaDelay : UInt16 := 0
  pdoa : PdoaMode := .off
  deriving DecidableEq, Repr

/-- `transceiver::StsMode`. -/
inductive StsMode
  | off
  | standardMode1
  | noDataSp3
  deriving DecidableEq, Repr

/-- `transceiver::RxSuccessEvent`, without the raw status register and frame
length that no handler reads. -/
structure RxSuccessEvent where
  rxTimestampDtu : UInt64 := 0
  stsQualityIndex : Int16 := 0
  stsPassed : Bool := false
  pdoaRaw : Int16 := 0
  pdoaValid : Bool := false
  deriving DecidableEq

/-- `DW3000Controller::FirstPathDiagnostics`. -/
structure FirstPathDiagnostics where
  firstPathPowerDbQ8 : Int16 := Int16.minValue
  rssiDbQ8 : Int16 := Int16.minValue
  valid : Bool := false
  deriving DecidableEq

/-- The commands the session gives the transceiver; a start records whether it
succeeded. -/
inductive Command
  | setListener (attached : Bool)
  | forceReceiverOff
  | configurePhy (config : TransceiverConfig)
  | configureStsMode (mode : StsMode)
  | loadStsKeyIv (key iv : Bytes 16)
  | startDelayedTx (txStartTimeDtu : UInt32) (rangingFrame started : Bool)
  | startDelayedRx (rxStartTimeDtu : UInt32) (timeoutDtu : UInt16) (started : Bool)
  | startImmediateRx (timeoutDtu : UInt16) (started : Bool)
  deriving DecidableEq

/-- What the platform answers during one entry point of the session. -/
structure Env where
  faults : Crypto.Faults := Crypto.noFaults
  /-- The failure of `configurePhy`, if it fails. -/
  configurePhyError : Option StatusCode := none
  delayedRxStarts : Bool := true
  immediateRxStarts : Bool := true
  delayedTxStarts : Bool := true
  /-- `dwt_getframelength`. -/
  frameLength : UInt16 := 0
  /-- `dwt_readrxdata`, byte by byte. -/
  rxData : ℕ → UInt8 := fun _ => 0
  txTimestampDtu : UInt64 := 0
  firstPath : FirstPathDiagnostics := {}
  monotonicTimeUs : UInt64 := 0

/-- The answers of a device that has received `frame`. -/
def Env.received (frame : List UInt8) : Env :=
  { frameLength := UInt16.ofNat frame.length, rxData := fun n => byteAt frame n }

/-- The length `DW3000Controller::readReceivedData` reads into a buffer of `n`
bytes: the reported one, or the whole buffer when none is reported. -/
def receivedLength (env : Env) (n : ℕ) : ℕ :=
  if env.frameLength = 0 then n else env.frameLength.toNat

/-- `DW3000Controller::readReceivedData`: the number of bytes read, and the
buffer with the received bytes in front. -/
def readReceivedData {n : ℕ} (env : Env) (outBuffer : Bytes n) :
    Except StatusCode ℕ × Bytes n :=
  let frameLen := receivedLength env n
  if h : n < frameLen then (.error .bufferOverflow, outBuffer)
  else (.ok frameLen, ⟨(List.range frameLen).map env.rxData ++ outBuffer.1.drop frameLen, by
    rw [List.length_append, List.length_map, List.length_range, List.length_drop, outBuffer.2]
    omega⟩)

/-- The bytes a handler finds in front of the buffer after `readReceivedData`:
the received ones, whatever was in the buffer before. -/
theorem take_readReceivedData {n : ℕ} {env : Env} {outBuffer : Bytes n} {len : ℕ}
    (h : (readReceivedData env outBuffer).1 = .ok len) :
    (readReceivedData env outBuffer).2.1.take len = (List.range len).map env.rxData := by
  unfold readReceivedData at h ⊢
  simp only at h ⊢
  split at h
  · cases h
  · rename_i hlen
    obtain rfl := Except.ok.inj h
    rw [dif_neg hlen]
    simp only
    rw [List.take_append_of_le_length (by simp), List.take_of_length_le (by simp)]

/-- The five bytes of a time stamp register, the least significant first. -/
def timestampDtu (ts : Bytes 5) : UInt64 :=
  (byteAt ts.1 0).toUInt64 ||| (byteAt ts.1 1).toUInt64 <<< 8 |||
    (byteAt ts.1 2).toUInt64 <<< 16 ||| (byteAt ts.1 3).toUInt64 <<< 24 |||
    (byteAt ts.1 4).toUInt64 <<< 32

/-- `DW3000Controller::readRxTimestampDtu`, of what `dwt_readrxtimestamp_ipatov`
reads. -/
def readRxTimestampDtu (ts : Bytes 5) : UInt64 := timestampDtu ts

/-- `DW3000Controller::readTxTimestampDtu`, of what `dwt_readtxtimestamp` reads. -/
def readTxTimestampDtu (ts : Bytes 5) : UInt64 := timestampDtu ts

/-- What the device is doing. -/
inductive Radio
  | off
  | receiving
  | transmitPending
  deriving DecidableEq, Repr

/-- The device after a command. -/
def Radio.command : Radio → Command → Radio
  | _, .forceReceiverOff => .off
  | _, .configurePhy _ => .off
  | _, .startDelayedTx _ _ started => if started then .transmitPending else .off
  | _, .startDelayedRx _ _ started => if started then .receiving else .off
  | r, .startImmediateRx _ started => if started then .receiving else r
  | r, _ => r

end Transceiver
end AliroUwb
