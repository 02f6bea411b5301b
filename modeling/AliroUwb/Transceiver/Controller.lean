/-
# The controller and its registers

`src/transceiver/DW3000Controller.cpp`, the functions that drive the device:
`initialize`, `configurePhy`, `configureStsMode`, the starts, `forceReceiverOff` and
the handlers of the driver's callbacks.  The STS key and its cache are those of
`StsKeyCache`.

The driver (`dwt_*`) is outside the repository.  Here each of its calls writes the
registers that it is there to write, and what it answers is part of the call.
`DX_TIME`, `DREF_TIME` and `RX_FWTO` lie side by side, four bytes each: a delayed
start writes all of them at once, an immediate one the last.  That a count of zero in
`RX_FWTO` does not switch the timeout off but lets it fire at once is what the source
says of the hardware; it is why `startImmediateRx` writes the largest count for "no
timeout".

Each command of the session is one call (`Controller.command`), and does to the
device what `Radio.command` says (`radio_command`).
-/

import AliroUwb.Core.ByteOrder
import AliroUwb.Transceiver.Radio
import AliroUwb.Transceiver.StsKeyCache

namespace AliroUwb
namespace Transceiver

open WireFormat

/-! ### The registers -/

/-- `DWT_PLEN_64` and `DWT_PLEN_128`. -/
inductive PreambleLength
  | plen64
  | plen128
  deriving DecidableEq, Repr

/-- `dwt_config_t` as `configurePhy` fills it, without the data rate and the two
PHR settings, which are constants. -/
structure DecaConfig where
  chan : UInt8
  txPreambLength : PreambleLength
  rxPac : UInt16 := 8
  txCode : UInt8
  rxCode : UInt8
  sfdType : SfdType
  sfdTo : UInt16
  stsMode : StsMode := .off
  stsLength : UInt16 := 64
  pdoaMode : PdoaMode
  deriving DecidableEq

/-- `DX_TIME`, `DREF_TIME` and `RX_FWTO`. -/
abbrev DelayRegisters := Bytes 12

/-- Where `RX_FWTO` begins in the block. -/
def rxFwtoOffset : ℕ := 8

/-- What `dwt_writetodevice` makes of the block. -/
def writeDelayRegisters (registers : DelayRegisters) (offset : ℕ) (bytes : List UInt8) :
    DelayRegisters :=
  Bytes.ofList 12 (overwrite registers.1 offset bytes)

/-- The transmit buffer and the frame control. -/
structure TxFrame where
  data : List UInt8 := []
  length : ℕ := 0
  ranging : Bool := false
  deriving DecidableEq

/-- The antenna delay after a reset. -/
def defaultAntennaDelay : UInt16 := 16384

/-- The controller and the device it drives. -/
structure Controller where
  sts : StsController := .start (Bytes.zero 32)
  /-- `m_listener` is not null. -/
  listener : Bool := false
  pdoaEnabled : Bool := false
  /-- What `dwt_configure` has been given since the last reset. -/
  phy : Option DecaConfig := none
  stsMode : StsMode := .off
  /-- `SYS_CFG.RXWTOE`: the receiver heeds `RX_FWTO`. -/
  rxwtoe : Bool := false
  delayRegisters : DelayRegisters := Bytes.zero 12
  txFrame : TxFrame := {}
  rxAntennaDelay : UInt16 := defaultAntennaDelay
  txAntennaDelay : UInt16 := defaultAntennaDelay
  radio : Radio := .off
  deriving DecidableEq

/-- The count in `RX_FWTO`. -/
def Controller.rxFwto (d : Controller) : UInt32 := readLe32 d.delayRegisters.1 rxFwtoOffset

/-- The time in `DX_TIME`. -/
def Controller.dxTime (d : Controller) : UInt32 := readLe32 d.delayRegisters.1 0

/-! ### The functions -/

namespace Controller

/-- `DW3000Controller::performHardwareReset`. -/
def performHardwareReset (d : Controller) : Controller :=
  { sts := Transceiver.performHardwareReset d.sts
    listener := d.listener
    pdoaEnabled := d.pdoaEnabled }

/-- `DW3000Controller::initialize`, with the answers of `dwt_probe` and
`dwt_initialise`. -/
def initializeDevice (probed initialised : Bool) (d : Controller) :
    Except StatusCode Unit × Controller :=
  let d := d.performHardwareReset
  if !probed then (.error .transceiverError, d)
  else if !initialised then (.error .transceiverError, d)
  else (.ok (), { d with sts := { d.sts with initialized := true } })

/-- `DW3000Controller::forceReceiverOff`. -/
def forceReceiverOff (d : Controller) : Controller := { d with radio := .off }

/-- `decaConfig` of `configurePhy`. -/
def decaConfig (config : TransceiverConfig) : DecaConfig :=
  let code := if 9 ≤ config.syncCode ∧ config.syncCode ≤ 12 then config.syncCode else 9
  { chan := if config.channel = .channel5 then 5 else 9
    txPreambLength := if config.preambleLengthSymbols = 64 then .plen64 else .plen128
    txCode := code
    rxCode := code
    sfdType := if config.sfd = .ieee4a then .ieee4a else .ieee4z
    sfdTo := if 0 < config.sfdTimeoutSymbols then config.sfdTimeoutSymbols else 65
    pdoaMode := config.pdoa }

/-- `DW3000Controller::configurePhy`, with the answer of `dwt_configure`; one that
fails writes nothing here. -/
def configurePhy (configured : Bool) (config : TransceiverConfig) (d : Controller) :
    Except StatusCode Unit × Controller :=
  if !d.sts.initialized then (.error .invalidState, d)
  else
    let d := d.forceReceiverOff
    let d := { d with pdoaEnabled := config.pdoa != .off }
    if !configured then (.error .transceiverError, d)
    else
      -- `dwt_configure` rewrites `SYS_CFG`, so the timeout is enabled after it
      let d := { d with
        phy := some (decaConfig config)
        stsMode := (decaConfig config).stsMode
        sts := { d.sts with stsKeyValid := false }
        rxwtoe := true }
      if config.antennaDelay ≠ 0 then
        (.ok (), { d with
          rxAntennaDelay := config.antennaDelay, txAntennaDelay := config.antennaDelay })
      else (.ok (), d)

/-- `DW3000Controller::configureStsMode`. -/
def configureStsMode (mode : StsMode) (d : Controller) : Controller := { d with stsMode := mode }

/-- `DW3000Controller::loadStsKeyIv`. -/
def loadStsKeyIv (key iv : Bytes 16) (d : Controller) : Controller :=
  { d with sts := (Transceiver.loadStsKeyIv key iv d.sts).2 }

/-- `delayRegs` of the delayed starts: bit 0 of the time is reserved, and
`DREF_TIME` stays zero. -/
def delayRegs (startTimeDtu : UInt32) (timeoutDtu : UInt16) : List UInt8 :=
  writeLe32 (startTimeDtu &&& 0xFFFFFFFE) ++ List.replicate 4 0 ++ writeLe16 timeoutDtu ++
    List.replicate 2 0

/-- `kDummyPayload`. -/
def dummyPayload : List UInt8 := List.replicate 4 0

/-- `DW3000Controller::startDelayedTx`, with the answer of `dwt_starttx`. -/
def startDelayedTx (txStartTimeDtu : UInt32) (frameData : List UInt8)
    (rangingFrame started : Bool) (d : Controller) : Except StatusCode Unit × Controller :=
  let d := { d with
    delayRegisters := writeDelayRegisters d.delayRegisters 0 (delayRegs txStartTimeDtu 0) }
  let d :=
    if !frameData.isEmpty then { d with txFrame := ⟨frameData, frameData.length + 2, true⟩ }
    else if rangingFrame then { d with txFrame := ⟨dummyPayload, dummyPayload.length + 2, true⟩ }
    else { d with txFrame := { d.txFrame with length := 0, ranging := false } }
  if !started then (.error .lateTransmission, { d with radio := .off })
  else (.ok (), { d with radio := .transmitPending })

/-- `DW3000Controller::startDelayedRx`, with the answer of `dwt_rxenable`. -/
def startDelayedRx (rxStartTimeDtu : UInt32) (timeoutDtu : UInt16) (started : Bool)
    (d : Controller) : Except StatusCode Unit × Controller :=
  let d := { d with
    delayRegisters := writeDelayRegisters d.delayRegisters 0 (delayRegs rxStartTimeDtu timeoutDtu) }
  if !started then (.error .lateTransmission, { d with radio := .off })
  else (.ok (), { d with radio := .receiving })

/-- `DW3000Controller::startImmediateRx`, with the answer of `dwt_rxenable`. -/
def startImmediateRx (timeoutDtu : UInt16) (started : Bool) (d : Controller) :
    Except StatusCode Unit × Controller :=
  let fwto : UInt32 := if 0 < timeoutDtu then timeoutDtu.toUInt32 else 0xFFFF
  let d := { d with
    delayRegisters := writeDelayRegisters d.delayRegisters rxFwtoOffset (writeLe32 fwto) }
  if !started then (.error .transceiverError, d)
  else (.ok (), { d with radio := .receiving })

/-- A command of the session; its Responses have no payload. -/
def command (configured : Bool) (d : Controller) : Command → Controller
  | .setListener attached => { d with listener := attached }
  | .forceReceiverOff => d.forceReceiverOff
  | .configurePhy config => (d.configurePhy configured config).2
  | .configureStsMode mode => d.configureStsMode mode
  | .loadStsKeyIv key iv => d.loadStsKeyIv key iv
  | .startDelayedTx txStartTimeDtu rangingFrame started =>
    (d.startDelayedTx txStartTimeDtu [] rangingFrame started).2
  | .startDelayedRx rxStartTimeDtu timeoutDtu started =>
    (d.startDelayedRx rxStartTimeDtu timeoutDtu started).2
  | .startImmediateRx timeoutDtu started => (d.startImmediateRx timeoutDtu started).2

end Controller

/-! ### The driver's callbacks -/

/-- What the driver and the device answer when a frame has been received: the status
of the callback data, zero without them, and the readings. -/
structure RxReport where
  status : UInt32 := 0
  /-- What `dwt_readstsquality` returns, and the quality it reads. -/
  qRet : Int32 := 0
  stsQuality : Int16 := 0
  sysStatusLo : UInt32 := 0
  pdoa : Int16 := 0
  rxTimestamp : Bytes 5 := Bytes.zero 5
  deriving DecidableEq

/-- The status that the handler goes by. -/
def RxReport.st (r : RxReport) : UInt32 := if r.status ≠ 0 then r.status else r.sysStatusLo

/-- `ev` of `handleDriverRxSuccess`, without the frame length, which no listener
reads.  `cperr` is `DWT_INT_CPERR_BIT_MASK` of the driver. -/
def Controller.rxSuccessEvent (cperr : UInt32) (r : RxReport) (d : Controller) :
    RxSuccessEvent where
  rxTimestampDtu := readRxTimestampDtu r.rxTimestamp
  stsQualityIndex := r.stsQuality
  stsPassed := decide (0 ≤ r.qRet) && r.st &&& cperr == 0
  pdoaRaw := if d.pdoaEnabled then r.pdoa else 0
  pdoaValid := d.pdoaEnabled && decide (0 ≤ r.qRet)

/-- `DW3000Controller::handleDriverRxSuccess`: what the listener is told, if there is
one. -/
def Controller.handleDriverRxSuccess (cperr : UInt32) (r : RxReport) (d : Controller) :
    Option RxSuccessEvent :=
  if d.listener then some (d.rxSuccessEvent cperr r) else none

/-! ### What the writes leave in the block -/

/-- The delay registers are twelve bytes. -/
theorem length_delayRegs (t : UInt32) (timeout : UInt16) :
    (Controller.delayRegs t timeout).length = 12 := rfl

/-- A delayed start fills the block. -/
theorem writeDelayRegisters_delayRegs (registers : DelayRegisters) (t : UInt32)
    (timeout : UInt16) :
    (writeDelayRegisters registers 0 (Controller.delayRegs t timeout)).1 =
      Controller.delayRegs t timeout := by
  rw [writeDelayRegisters, overwrite_zero, filledWith, length_delayRegs,
    List.drop_of_length_le (Nat.le_of_eq registers.2), List.append_nil]
  rfl

/-- An immediate one leaves the time in it alone. -/
theorem writeDelayRegisters_fwto (registers : DelayRegisters) (fwto : UInt32) :
    (writeDelayRegisters registers rxFwtoOffset (writeLe32 fwto)).1 =
      registers.1.take rxFwtoOffset ++ writeLe32 fwto := by
  have hdrop : registers.1.drop (rxFwtoOffset + (writeLe32 fwto).length) = [] :=
    List.drop_of_length_le (Nat.le_of_eq registers.2)
  have hlen : (registers.1.take rxFwtoOffset ++ writeLe32 fwto).length = 12 := by
    rw [List.length_append, List.length_take, registers.2]
    rfl
  rw [writeDelayRegisters, overwrite, hdrop, List.append_nil]
  change (_ : List UInt8).take 12 ++ List.replicate (12 - (_ : List UInt8).length) 0 = _
  rw [hlen, List.take_of_length_le (Nat.le_of_eq hlen)]
  exact List.append_nil _

/-- A count of two bytes. -/
theorem readLe32_timeout (timeout : UInt16) :
    readLe32 (writeLe16 timeout ++ List.replicate 2 0) 0 = timeout.toUInt32 := by
  refine UInt32.toNat_inj.1 ?_
  have h := congrArg UInt16.toNat (readLe16_writeLe16 timeout)
  rw [toNat_readLe16] at h
  rw [toNat_readLe32, UInt16.toNat_toUInt32, ← h]
  rfl

/-! ### What a command does -/

namespace Controller

variable (configured : Bool) (d : Controller)

/-- The window of a delayed start. -/
def window (startTimeDtu : UInt32) (timeoutDtu : UInt16) (d : Controller) : Controller :=
  { d with delayRegisters :=
      ⟨delayRegs startTimeDtu timeoutDtu, length_delayRegs startTimeDtu timeoutDtu⟩ }

/-- A write of all twelve replaces them. -/
theorem writeDelayRegisters_eq (registers : DelayRegisters) (t : UInt32) (timeout : UInt16) :
    writeDelayRegisters registers 0 (delayRegs t timeout) =
      ⟨delayRegs t timeout, length_delayRegs t timeout⟩ :=
  Subtype.ext (writeDelayRegisters_delayRegs registers t timeout)

/-- A window is opened at its time, bit 0 cleared. -/
@[simp] theorem dxTime_window (t : UInt32) (timeout : UInt16) :
    (d.window t timeout).dxTime = t &&& 0xFFFFFFFE :=
  readLe32_writeLe32 _

/-- A window is open for its timeout. -/
@[simp] theorem rxFwto_window (t : UInt32) (timeout : UInt16) :
    (d.window t timeout).rxFwto = timeout.toUInt32 :=
  readLe32_timeout timeout

/-- A delayed reception opens its window. -/
theorem startDelayedRx_eq (t : UInt32) (timeout : UInt16) (started : Bool) :
    d.command configured (.startDelayedRx t timeout started) =
      { d.window t timeout with radio := if started then .receiving else .off } := by
  rw [command, startDelayedRx]
  simp only [writeDelayRegisters_eq]
  cases started <;> rfl

/-- A Response is the dummy payload in a ranging frame. -/
theorem startDelayedTx_eq (t : UInt32) (started : Bool) :
    d.command configured (.startDelayedTx t true started) =
      { d.window t 0 with
        txFrame := ⟨dummyPayload, 6, true⟩
        radio := if started then .transmitPending else .off } := by
  rw [command, startDelayedTx]
  simp only [writeDelayRegisters_eq]
  cases started <;> rfl

/-- The count that an immediate reception writes. -/
def immediateFwto (timeoutDtu : UInt16) : UInt32 :=
  if 0 < timeoutDtu then timeoutDtu.toUInt32 else 0xFFFF

/-- An immediate reception writes its count, and leaves the rest. -/
theorem delayRegisters_startImmediateRx (timeout : UInt16) (started : Bool) :
    (d.command configured (.startImmediateRx timeout started)).delayRegisters.1 =
      d.delayRegisters.1.take rxFwtoOffset ++ writeLe32 (immediateFwto timeout) := by
  rw [← writeDelayRegisters_fwto]
  cases started <;> rfl

/-- There are as many bytes in front of `RX_FWTO` as its offset says. -/
theorem length_take_rxFwtoOffset :
    (d.delayRegisters.1.take rxFwtoOffset).length = rxFwtoOffset := by
  rw [List.length_take, d.delayRegisters.2]
  rfl

/-- An immediate reception has its timeout. -/
@[simp] theorem rxFwto_startImmediateRx (timeout : UInt16) (started : Bool) :
    (d.command configured (.startImmediateRx timeout started)).rxFwto = immediateFwto timeout := by
  rw [rxFwto, delayRegisters_startImmediateRx,
    readLe32_append_right _ d.length_take_rxFwtoOffset, readLe32_writeLe32]

/-- An immediate reception keeps `DX_TIME`. -/
@[simp] theorem dxTime_startImmediateRx (timeout : UInt16) (started : Bool) :
    (d.command configured (.startImmediateRx timeout started)).dxTime = d.dxTime := by
  have hfits : 0 + 4 ≤ (d.delayRegisters.1.take rxFwtoOffset).length := by
    rw [length_take_rxFwtoOffset]
    decide
  rw [dxTime, delayRegisters_startImmediateRx, readLe32_append_left _ hfits,
    readLe32_take (by decide), dxTime]

/-- An immediate reception changes the delay registers and the radio only. -/
theorem startImmediateRx_eq (timeout : UInt16) (started : Bool) :
    ∃ delayRegisters, d.command configured (.startImmediateRx timeout started) =
      { d with delayRegisters, radio := if started then .receiving else d.radio } := by
  cases started <;> exact ⟨_, rfl⟩

/-- A PHY that is configured. -/
theorem configurePhy_of_ok (config : TransceiverConfig) (hinit : d.sts.initialized = true)
    (hdelay : config.antennaDelay ≠ 0) :
    (d.configurePhy true config).2 = { d with
      phy := some (decaConfig config), stsMode := .off, rxwtoe := true
      pdoaEnabled := config.pdoa != .off
      sts := { d.sts with stsKeyValid := false }
      rxAntennaDelay := config.antennaDelay, txAntennaDelay := config.antennaDelay
      radio := .off } := by
  unfold configurePhy
  rw [hinit, if_neg (by decide)]
  dsimp only
  rw [if_neg (by decide), if_pos hdelay]
  rfl

/-- The failure of `configurePhy`, if it fails. -/
def phyError : Option StatusCode :=
  if !d.sts.initialized then some .invalidState
  else if !configured then some .transceiverError else none

/-- The PHY is configured when the controller has been initialized and the device accepts it. -/
theorem phyError_eq_none {d : Controller} (h : d.phyError configured = none) :
    d.sts.initialized = true ∧ configured = true := by
  unfold phyError at h
  cases hinit : d.sts.initialized <;> cases configured <;> simp [hinit] at h ⊢

/-- **`phyError` is what `configurePhy` returns.** -/
theorem fst_configurePhy (config : TransceiverConfig) :
    (d.configurePhy configured config).1 =
      match d.phyError configured with
      | some e => .error e
      | none => .ok () := by
  unfold configurePhy phyError
  cases d.sts.initialized
  · rfl
  cases configured
  · rfl
  dsimp only
  split_ifs <;> rfl

/-- `configurePhy` keeps the listener. -/
theorem listener_configurePhy (config : TransceiverConfig) :
    (d.configurePhy configured config).2.listener = d.listener := by
  unfold configurePhy
  cases d.sts.initialized
  · rfl
  cases configured
  · rfl
  dsimp only
  split_ifs <;> rfl

/-- **A command does to the device what `Radio.command` says**; `configurePhy` finds an
uninitialized controller's device off. -/
theorem radio_command (c : Command)
    (h : ∀ config, c = .configurePhy config → d.sts.initialized = true ∨ d.radio = .off) :
    (d.command configured c).radio = d.radio.command c := by
  cases c with
  | startDelayedTx t ranging started =>
    simp only [command, startDelayedTx]
    cases started <;> rfl
  | startDelayedRx t timeout started => rw [startDelayedRx_eq]; rfl
  | startImmediateRx timeout started => cases started <;> rfl
  | configurePhy config =>
    simp only [command, configurePhy, Radio.command]
    cases hinit : d.sts.initialized with
    | false => exact (h config rfl).resolve_left (by rw [hinit]; decide)
    | true =>
      cases configured
      · rfl
      · by_cases hdelay : config.antennaDelay = 0
        · simp [hdelay, forceReceiverOff]
        · simp [hdelay, forceReceiverOff]
  | _ => rfl

end Controller

end Transceiver
end AliroUwb
