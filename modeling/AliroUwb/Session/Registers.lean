/-
# What the registers hold

Whatever state the session waits in, the registers of the device hold what that state
is about (`Programmed`): the PHY is that of the session; while it listens the STS is
off and the timeout the largest there is; while it awaits a Poll or a Final, or
transmits the Response, the STS registers hold key and IV of that leg in reverse,
`DX_TIME` the time of its slot with bit 0 cleared, and `RX_FWTO` the window.  The slot
of the Poll is counted from the frame that has armed the exchange, which the session does
not remember; `armedBy` looks it up in the record of the run (`PollTimed`).  In
particular the receiver never waits with a count of zero, which would let the timeout
fire at once.

So it is in every state of a run (`registers_programmed`), provided that the listener
is kept, that the device is reset only when the session is at rest, that `start`
succeeds wherever the session is not, and that immediate receptions start.  If a
re-anchoring of a suspended session succeeds as well, key and IV are those that the
session's key material gives for the STS index of the leg (`registers_keyed`).
-/

import AliroUwb.Session.Device
import AliroUwb.Session.GenuineFinalData

namespace AliroUwb
namespace Session

open Stepwise Crypto Protocol Ranging Transceiver

variable {P : Platform} {cperr : UInt32}

/-! ### The registers of a leg -/

/-- The PHY is that of the session. -/
structure Tuned (s : SessionMembers) (d : Controller) : Prop where
  phy : d.phy = some (Controller.decaConfig (hwConfig s))
  pdoaEnabled : d.pdoaEnabled = s.nodeConfig.enableAoA
  rxwtoe : d.rxwtoe = true
  rxAntennaDelay : d.rxAntennaDelay = 16346
  txAntennaDelay : d.txAntennaDelay = 16346

/-- The STS registers hold a key and an IV. -/
def HoldsKeys (d : Controller) (m : SlotCryptoMaterial) : Prop :=
  d.sts.registers.1 = m.durskKey.1.reverse ++ m.stsIv.1.reverse

/-- When the Response is sent. -/
def responseTime (s : SessionMembers) : UInt32 :=
  hi32 s.measurement.pollRxTimestampDtu +
    (1 + s.nodeConfig.responderIndex.toUInt32) * slotTicksHi32 s.params - respAntDelayHi32

/-- The registers are programmed for what the session waits for. -/
def Programmed (s : SessionMembers) (d : Controller) : Prop :=
  match s.state with
  | .prePollListening => d.stsMode = .off ∧ d.rxFwto = 0xFFFF
  | .awaitingPoll => d.stsMode = .noDataSp3 ∧ HoldsKeys d s.armed.poll ∧
      (d.rxFwto = 1350 ∨ d.rxFwto = 4000)
  | .transmittingResponse => d.stsMode = .noDataSp3 ∧ HoldsKeys d s.armed.response ∧
      d.dxTime = responseTime s &&& 0xFFFFFFFE ∧
      d.txFrame = ⟨Controller.dummyPayload, 6, true⟩
  | .awaitingFinal => d.stsMode = .noDataSp3 ∧ HoldsKeys d s.armed.final ∧
      d.dxTime = slotRxTime s (1 + s.params.responderCount.toUInt32) &&& 0xFFFFFFFE ∧
      d.rxFwto = 1350
  | .awaitingFinalData => d.stsMode = .off ∧
      d.dxTime = slotRxTime s (2 + s.params.responderCount.toUInt32) &&& 0xFFFFFFFE ∧
      d.rxFwto = 2700
  | .uninitialized | .idle | .suspended => True

variable (configured : Bool) (d : Controller)

/-- A load fills both STS registers. -/
theorem holds_loadStsKeyIv (key iv : Bytes 16) :
    (d.command configured (.loadStsKeyIv key iv)).sts.registers.1 =
      key.1.reverse ++ iv.1.reverse := by
  rw [← packStsRegister_eq, ← packStsRegister_eq]
  exact loadStsKeyIv_registers key iv d.sts

/-- The commands that open a window write the time of it, and the count of the
reception that starts. -/
theorem deviceAfter_rxCommands (env : Env) (t : UInt32) (timeout immediate : UInt16) :
    ∃ delayRegisters radio,
      deviceAfter configured d (rxCommands env t timeout immediate) =
        { d with delayRegisters, radio } ∧
      readLe32 delayRegisters.1 0 = t &&& 0xFFFFFFFE ∧
      readLe32 delayRegisters.1 rxFwtoOffset =
        if env.delayedRxStarts then timeout.toUInt32 else Controller.immediateFwto immediate := by
  unfold rxCommands
  split_ifs with hdelayed
  · rw [device_command, device_nil, Controller.startDelayedRx_eq]
    exact ⟨_, _, rfl, d.dxTime_window t timeout, d.rxFwto_window t timeout⟩
  · rw [device_command, device_command, device_nil, Controller.startDelayedRx_eq]
    have hopened := Controller.startImmediateRx_eq configured
      { d.window t timeout with radio := if env.delayedRxStarts then .receiving else .off }
      immediate env.immediateRxStarts
    have htime := Controller.dxTime_startImmediateRx configured
      { d.window t timeout with radio := if env.delayedRxStarts then .receiving else .off }
      immediate env.immediateRxStarts
    have hfwto := Controller.rxFwto_startImmediateRx configured
      { d.window t timeout with radio := if env.delayedRxStarts then .receiving else .off }
      immediate env.immediateRxStarts
    obtain ⟨delayRegisters, hopened⟩ := hopened
    rw [hopened] at htime hfwto
    rw [hopened]
    exact ⟨delayRegisters, _, rfl, htime.trans (d.dxTime_window t timeout), hfwto⟩

/-- Listening programs the registers. -/
theorem programmed_listen {accepted : List Output} (env : Env)
    (h : ∀ o ∈ accepted, ∃ mhr prePoll, o = .acceptedPrePoll mhr prePoll) :
    (deviceAfter configured d (listenOutputs env ++ accepted)).stsMode = .off ∧
      (deviceAfter configured d (listenOutputs env ++ accepted)).rxFwto = 0xFFFF := by
  rw [device_append, device_accepted _ _ h]
  refine ⟨?_, ?_⟩
  · rw [listenOutputs, device_command, device_command, device_command, device_transition,
      device_nil]
    obtain ⟨_, hopened⟩ := Controller.startImmediateRx_eq configured
      ((d.command configured .forceReceiverOff).command configured (.configureStsMode .off)) 0
      env.immediateRxStarts
    rw [hopened]
    rfl
  · rw [listenOutputs, device_command, device_command, device_command, device_transition,
      device_nil, Controller.rxFwto_startImmediateRx]
    rfl

/-- What `Programmed` says while listening. -/
theorem programmed_of_listen {s : SessionMembers} {d : Controller}
    (hstate : s.state = .prePollListening) (h : d.stsMode = .off ∧ d.rxFwto = 0xFFFF) :
    Programmed s d := by
  unfold Programmed
  rw [hstate]
  exact h

/-- Nothing is asked of an inactive session. -/
theorem programmed_of_inactive {s : SessionMembers} (hstate : s.state.active = false)
    (d : Controller) : Programmed s d := by
  unfold Programmed
  cases hs : s.state <;> first | trivial | (rw [hs] at hstate; cases hstate)

/-- Going back to listening programs the registers, whatever has gone before. -/
theorem programmed_unstashed {env : Env} {c c' : Ctx} (h : Unstashed P (c.listen env) c')
    (d : Controller) : Programmed c'.session (deviceAfter configured d c'.outputs) := by
  obtain ⟨_, _, _, _, _, _, accepted, rfl, -, haccepted⟩ := h.frame
  refine programmed_of_listen rfl ?_
  have hlisten := programmed_listen configured (deviceAfter configured d c.outputs) env haccepted
  rw [← device_append, ← List.append_assoc] at hlisten
  exact hlisten

/-- The registers once an exchange is armed. -/
theorem programmed_armed {s : SessionMembers} {env : Env} {event : RxSuccessEvent}
    {keys : CycleKeys} (s₀ : SessionMembers) (hstate : s.state = .awaitingPoll)
    (harmed : s.armed = keys) :
    Programmed s (deviceAfter configured d (armCommands s₀ env event keys)) := by
  unfold Programmed armCommands
  rw [hstate, harmed, device_append, device_append, device_command, device_command, device_nil,
    device_transition, device_nil]
  have hkeys := holds_loadStsKeyIv configured (d.command configured (.configureStsMode .noDataSp3))
    keys.poll.durskKey keys.poll.stsIv
  obtain ⟨delayRegisters, radio, hopened, -, hfwto⟩ := deviceAfter_rxCommands configured
    ((d.command configured (.configureStsMode .noDataSp3)).command configured
      (.loadStsKeyIv keys.poll.durskKey keys.poll.stsIv)) env (pollRxTime s₀.params event)
    windowTimeoutDtu immediateSearchWindowDtu
  rw [hopened]
  refine ⟨rfl, hkeys, ?_⟩
  cases hdelayed : env.delayedRxStarts
  · exact Or.inr (hfwto.trans (by rw [hdelayed]; decide))
  · exact Or.inl (hfwto.trans (by rw [hdelayed]; decide))

/-- **Serving an input programs the registers for the state it leads to.** -/
theorem programmed_served {i : Input} {c c' : Ctx} (h : Served P i c c')
    (hnil : c.outputs = []) (hpre : Programmed c.session d)
    (hok : i.action.isStart = true → c.session.state.active = true →
      Output.returned (.ok ()) ∈ c'.outputs) :
    Programmed c'.session (deviceAfter configured d c'.outputs) := by
  cases h with
  | ignored =>
    rw [hnil]
    exact hpre
  | abandoned _ _ _ hu | ineligible _ _ _ _ _ _ _ hu | unkeyed _ _ _ _ _ _ _ hu
  | late _ _ _ _ _ hu | undelivered _ _ _ _ _ hu | callbackReturned _ hu =>
    exact programmed_unstashed configured hu d
  | resumed _ _ hu | anchored _ _ _ _ hu | started _ _ _ _ hu =>
    have hlisten := programmed_unstashed configured hu d
    dsimp only
    rw [device_append]
    exact hlisten
  | rearmed _ hstate =>
    rw [Programmed, hstate] at hpre
    refine programmed_of_listen hstate ?_
    rw [hnil, List.nil_append, device_command, device_nil, Controller.rxFwto_startImmediateRx]
    obtain ⟨_, hopened⟩ := d.startImmediateRx_eq configured 0 i.env.immediateRxStarts
    rw [hopened]
    exact ⟨hpre.1, rfl⟩
  | bootstrapped _ _ _ _ _ _ _ _ hrefreshed =>
    obtain ⟨_, _, _, rfl, -⟩ := hrefreshed.frame
    dsimp only
    rw [hnil, List.nil_append, device_append]
    exact programmed_armed configured _ _ rfl rfl
  | warmed =>
    dsimp only
    rw [hnil, List.nil_append]
    exact programmed_armed configured _ _ rfl rfl
  | responded =>
    rw [hnil, List.nil_append, device_command, device_command, device_command, device_transition,
      device_nil, Controller.startDelayedTx_eq]
    exact ⟨rfl, holds_loadStsKeyIv configured (d.command configured (.configureStsMode .noDataSp3))
      _ _, d.dxTime_window _ 0, rfl⟩
  | transmitted =>
    have hkeys := holds_loadStsKeyIv configured
      (d.command configured (.configureStsMode .noDataSp3)) c.session.armed.final.durskKey
      c.session.armed.final.stsIv
    obtain ⟨delayRegisters, radio, hopened, htime, hfwto⟩ := deviceAfter_rxCommands configured
      ((d.command configured (.configureStsMode .noDataSp3)).command configured
        (.loadStsKeyIv c.session.armed.final.durskKey c.session.armed.final.stsIv)) i.env
      (slotRxTime c.session (1 + c.session.params.responderCount.toUInt32)) windowTimeoutDtu
      windowTimeoutDtu
    rw [hnil, List.nil_append, device_append, device_append, device_command, device_command,
      device_nil, device_transition, device_nil, hopened]
    refine ⟨rfl, hkeys, htime, hfwto.trans ?_⟩
    cases i.env.delayedRxStarts <;> decide
  | finalReceived _ _ hu =>
    obtain ⟨_, _, _, _, _, _, accepted, rfl, -, haccepted⟩ := hu.frame
    obtain ⟨delayRegisters, radio, hopened, htime, hfwto⟩ := deviceAfter_rxCommands configured
      ((d.command configured .forceReceiverOff).command configured (.configureStsMode .off)) i.env
      (slotRxTime c.session (2 + c.session.params.responderCount.toUInt32)) (windowTimeoutDtu * 2)
      (windowTimeoutDtu * 2)
    dsimp only
    rw [hnil, List.nil_append, device_append, device_append, device_append, device_command,
      device_command, device_nil, device_transition, device_nil, hopened,
      device_accepted _ _ haccepted]
    refine ⟨rfl, htime, hfwto.trans ?_⟩
    cases i.env.delayedRxStarts <;> decide
  | delivered hd =>
    cases hd with
    | mk =>
      rw [hnil]
      exact hpre
  | stopped | suspended => exact programmed_of_inactive rfl _
  | refused =>
    rw [hnil]
    exact hpre
  | anchorFailed _ hstate => exact programmed_of_inactive (by dsimp only; rw [hstate]; rfl) _
  | startFailed haction | unconfigured haction =>
    refine programmed_of_inactive (Bool.eq_false_iff.2 fun hactive => ?_) _
    have hreturned := hok (by rw [haction]; rfl) hactive
    rw [hnil] at hreturned
    simp at hreturned

/-! ### The PHY -/

/-- The PHY stays that of the session as long as neither its setup nor its configuration changes.
-/
theorem Tuned.congr {s s' : SessionMembers} {d d' : Controller} (h : Tuned s d)
    (hsetup : setupOf d' = setupOf d) (hconfig : hwConfig s' = hwConfig s)
    (hnode : s'.nodeConfig = s.nodeConfig) : Tuned s' d' := by
  simp only [setupOf, Prod.mk.injEq] at hsetup
  obtain ⟨-, hpdoa, hphy, hrxwtoe, hrx, htx⟩ := hsetup
  exact ⟨by rw [hphy, hconfig, h.phy], by rw [hpdoa, hnode, h.pdoaEnabled],
    hrxwtoe.trans h.rxwtoe, hrx.trans h.rxAntennaDelay, htx.trans h.txAntennaDelay⟩

/-- **Only `start` changes what the PHY is configured with**: a re-anchoring changes
the first STS index. -/
theorem Served.hwConfig_eq {i : Input} {c c' : Ctx} (h : Served P i c c')
    (hno : i.action.setsUp = false) :
    hwConfig c'.session = hwConfig c.session ∧ c'.session.nodeConfig = c.session.nodeConfig := by
  cases h with
  | abandoned _ _ _ h | ineligible _ _ _ _ _ _ _ h | unkeyed _ _ _ _ _ _ _ h | late _ _ _ _ _ h
  | finalReceived _ _ h | undelivered _ _ _ _ _ h | callbackReturned _ h | resumed _ _ h
  | anchored _ _ _ _ h =>
    obtain ⟨_, _, _, _, _, _, _, rfl, -, -⟩ := h.frame
    exact ⟨rfl, rfl⟩
  | bootstrapped _ _ _ _ _ _ _ _ h =>
    obtain ⟨_, _, _, rfl, -⟩ := h.frame
    exact ⟨rfl, rfl⟩
  | delivered h =>
    cases h with
    | mk => exact ⟨rfl, rfl⟩
  | startFailed haction | unconfigured haction | started haction =>
    rw [haction] at hno
    cases hno
  | _ => exact ⟨rfl, rfl⟩

/-- A PHY that has been configured for the session. -/
theorem tuned_configurePhy (s : SessionMembers) {d : Controller}
    (h : d.phyError configured = none) :
    Tuned s (d.command configured (.configurePhy (hwConfig s))) := by
  obtain ⟨hinit, rfl⟩ := Controller.phyError_eq_none configured h
  have hpdoa : ((hwConfig s).pdoa != .off) = s.nodeConfig.enableAoA := by
    unfold hwConfig
    cases s.nodeConfig.enableAoA <;> rfl
  have hdelay : (hwConfig s).antennaDelay ≠ 0 := show (16346 : UInt16) ≠ 0 by decide
  have hphy := d.configurePhy_of_ok (hwConfig s) hinit hdelay
  rw [Controller.command, hphy]
  exact ⟨rfl, hpdoa, rfl, rfl, rfl⟩

/-! ### Steps -/

/-- The action is a `resumeWithAnchor`. -/
def Action.anchors : Action → Bool
  | .resumeWithAnchor _ => true
  | _ => false

/-- A radio event does not re-anchor. -/
theorem Action.anchors_of_isRadioEvent (a : Action) (h : a.isRadioEvent = true) :
    a.anchors = false := by
  cases a <;> first | rfl | cases h

/-- A radio event is no `start`. -/
theorem Action.isStart_of_isRadioEvent (a : Action) (h : a.isRadioEvent = true) :
    a.isStart = false := by
  cases a <;> first | rfl | cases h

/-- A step as the owner of the session should make it: without a listener the session
is not suspended, nor does its callback return; only then is the device reset, and
otherwise `start` succeeds.  Immediate receptions start. -/
structure Orderly (e : DeviceEvent) : Prop where
  keepsListener : KeepsListener e
  resets : e.input.resets = true → e.pre.1.session.state.resting = true
  starts : e.input.calls Action.isStart = true → e.pre.1.session.state.resting = false →
    Output.returned (.ok ()) ∈ e.output
  listens : e.input.env.immediateRxStarts = true

/-- A suspended session is re-anchored with success. -/
def AnchorsSafely (e : DeviceEvent) : Prop :=
  e.input.calls Action.anchors = true → e.pre.1.session.state = .suspended →
    Output.returned (.ok ()) ∈ e.output

/-- The device is programmed for its session and does what the session waits for. -/
structure OnDuty (x : System × Controller) : Prop where
  attached : Attached x
  restsOff : RestsOff x
  agrees : Agrees (x.1, x.2.radio)
  tuned : x.1.session.state.resting = false → Tuned x.1.session x.2
  programmed : Programmed x.1.session x.2

/-- A step starts the session if its call does. -/
theorem Serves.starts {e : DeviceEvent} {i : Input} {r : Radio} {c : Ctx}
    (h : Serves P cperr e i configured r c) : e.input.calls Action.isStart = i.action.isStart :=
  h.calls Action.isStart_of_isRadioEvent

/-- Where `start` succeeds it is safe. -/
theorem Serves.startSafe {e : DeviceEvent} {i : Input} {r : Radio} {c : Ctx}
    (h : Serves P cperr e i configured r c) (hgood : Orderly e) :
    StartSafe P ⟨(e.pre.1, e.pre.2.radio), i, e.output, (e.post.1, e.post.2.radio)⟩ := by
  intro ursk params nodeConfig callback haction _ hactive
  have hstart : e.input.calls Action.isStart = true := by
    rw [h.starts, show i.action = _ from haction]
    rfl
  have hok := hgood.starts hstart (SessionState.resting_of_active hactive)
  obtain ⟨keys, _, _, _, hkeys, hphy, -⟩ :=
    started_of_succeeded h.steps haction (decide_eq_true hok)
  refine ⟨hphy, ?_⟩
  rcases hkeys with hkeys | ⟨hvalid, -⟩
  · exact Or.inr ⟨keys, hkeys⟩
  · exact Or.inl hvalid

/-- Unless it is set up in this step, a session that has a listener had one before. -/
theorem Serves.resting_before {e : DeviceEvent} {i : Input} {r : Radio} {c : Ctx}
    (h : Serves P cperr e i configured r c) (hkeeps : KeepsListener e)
    (hset : i.action.setsUp = false) (hpost : c.session.state.resting = false) :
    e.pre.1.session.state.resting = false := by
  rw [h.served.resting_after hset] at hpost
  cases hunrests : i.action.unrests with
  | true => exact hkeeps (h.unrests.trans hunrests)
  | false =>
    rw [hunrests] at hpost
    exact hpost

/-- The PHY stays that of the session. -/
theorem Serves.tuned {e : DeviceEvent} {i : Input} {r : Radio} {c : Ctx}
    (h : Serves P cperr e i configured r c)
    (hpre : e.pre.1.session.state.resting = false → Tuned e.pre.1.session e.pre.2)
    (hkeeps : KeepsListener e)
    (hstarts : i.action.isStart = true → e.pre.1.session.state.resting = false →
      Output.returned (.ok ()) ∈ c.outputs) (hpost : c.session.state.resting = false) :
    Tuned c.session (deviceAfter configured { e.pre.2 with radio := r } c.outputs) := by
  cases hset : i.action.setsUp with
  | false =>
    obtain ⟨os, hos, hsetup⟩ := h.served.keepsSetup hset
    obtain ⟨hconfig, hnode⟩ := h.served.hwConfig_eq hset
    rw [hos]
    exact (hpre (h.resting_before configured hkeeps hset hpost)).congr
      (setup_deviceAfter configured _ hsetup) hconfig hnode
  | true =>
    cases h.served.setUp hset with
    | stopped hstate =>
      rw [hstate] at hpost
      cases hpost
    | underived hstart hstate hout | unconfigured hstart hstate hout =>
      have hok := hstarts hstart ((congrArg SessionState.resting hstate).symm.trans hpost)
      rw [hout] at hok
      simp [System.enter] at hok
    | started _ hphy hstate haccepted hout =>
      have hphy : ({ e.pre.2 with radio := .off } : Controller).phyError configured = none := by
        rw [h.env] at hphy
        exact hphy
      have htuned := tuned_configurePhy configured c.session hphy
      have hlisten : Tuned c.session ((({ e.pre.2 with radio := .off } : Controller).command
          configured (.configurePhy (hwConfig c.session))).command configured
            (.setListener true)) := ⟨htuned.1, htuned.2, htuned.3, htuned.4, htuned.5⟩
      rw [hout, device_append]
      exact hlisten.congr (setup_deviceAfter configured _ (keepsSetup_listenOutputs _ haccepted))
        rfl rfl

/-- **An orderly step leaves the device programmed.** -/
theorem onDuty_step {e : DeviceEvent} (he : (deviceMachine P cperr).Steps e) (hgood : Orderly e)
    (hpre : OnDuty e.pre) : OnDuty e.post := by
  have hattached := (attached_post_iff he hpre.attached).2 hgood.keepsListener
  have hoff := restsOff_step he hpre.restsOff
  rcases deviceMachine_steps he with ⟨probed, initialised, hinput, hpost⟩ |
    ⟨v, env, hinput, hlistener, -⟩ | ⟨i, configured, r, c, h⟩
  · have hrest : e.post.1.session.state.resting = true := by
      rw [hpost]
      exact hgood.resets (by rw [hinput]; rfl)
    have hinactive := SessionState.inactive_of_resting hrest
    exact ⟨hattached, hoff, fun _ => (hoff hrest).trans (radioFor_of_inactive hinactive).symm,
      fun h => absurd (h.symm.trans hrest) Bool.false_ne_true, programmed_of_inactive hinactive _⟩
  · exact absurd (hlistener.symm.trans (listener_of_event he hpre.attached hpre.restsOff hinput))
      Bool.false_ne_true
  · have himm : i.env.immediateRxStarts = true := by
      rw [h.env]
      exact hgood.listens
    have hstarts (hstart : i.action.isStart = true)
        (hstate : e.pre.1.session.state.resting = false) :
        Output.returned (.ok ()) ∈ c.outputs := by
      rw [← h.output]
      exact hgood.starts (by rw [h.starts, hstart]) hstate
    refine ⟨hattached, hoff, agrees_step (h.radioMachine_steps configured) himm
      (h.startSafe configured hgood) hpre.agrees, ?_, ?_⟩
    · rw [h.post]
      exact h.tuned configured hpre.tuned hgood.keepsListener hstarts
    · rw [h.post]
      exact programmed_served configured { e.pre.2 with radio := r } h.served rfl hpre.programmed
        fun hstart hactive => hstarts hstart (SessionState.resting_of_active hactive)

/-! ### The window of the Poll -/

/-- The time of the window once an exchange is armed. -/
theorem dxTime_armed (s : SessionMembers) (env : Env) (event : RxSuccessEvent) (keys : CycleKeys) :
    (deviceAfter configured d (armCommands s env event keys)).dxTime =
      pollRxTime s.params event &&& 0xFFFFFFFE := by
  unfold armCommands
  rw [device_append, device_append, device_command, device_command, device_nil, device_transition,
    device_nil]
  obtain ⟨delayRegisters, radio, hopened, htime, -⟩ := deviceAfter_rxCommands configured
    ((d.command configured (.configureStsMode .noDataSp3)).command configured
      (.loadStsKeyIv keys.poll.durskKey keys.poll.stsIv)) env (pollRxTime s.params event)
    windowTimeoutDtu immediateSearchWindowDtu
  rw [hopened]
  exact htime

/-- A session that awaits a Poll has been armed in this step, or has awaited it before. -/
theorem Served.armed_or {i : Input} {c c' : Ctx} (h : Served P i c c') (hnil : c.outputs = [])
    (hpost : c'.session.state = .awaitingPoll)
    (hok : i.action.isStart = true → c.session.state.active = true →
      Output.returned (.ok ()) ∈ c'.outputs) :
    (∃ event, i.action = .rxSuccess event ∧ c.session.state = .prePollListening ∧
      (deviceAfter configured d c'.outputs).dxTime =
        pollRxTime c'.session.params event &&& 0xFFFFFFFE) ∨
    c.session.state = .awaitingPoll ∧ c'.session.params = c.session.params ∧
      (deviceAfter configured d c'.outputs).dxTime = d.dxTime := by
  have hlisten {c₁ c₂ : Ctx} (h : Unstashed P (c₁.listen i.env) c₂)
      (hc₂ : c₂.session.state = .awaitingPoll) : False := by
    rw [(listens_unstashed h).1] at hc₂
    cases hc₂
  cases h with
  | abandoned _ _ _ h | ineligible _ _ _ _ _ _ _ h | unkeyed _ _ _ _ _ _ _ h | late _ _ _ _ _ h
  | undelivered _ _ _ _ _ h | callbackReturned _ h | resumed _ _ h | anchored _ _ _ _ h
  | started _ _ _ _ h => exact (hlisten h hpost).elim
  | ignored => exact Or.inr ⟨hpost, rfl, by rw [hnil, device_nil]⟩
  | refused =>
    exact Or.inr ⟨hpost, rfl, by rw [hnil, List.nil_append, device_returned, device_nil]⟩
  | bootstrapped haction hstate _ _ _ _ _ _ hrefreshed =>
    obtain ⟨_, _, _, rfl, -⟩ := hrefreshed.frame
    refine Or.inl ⟨_, haction, hstate, ?_⟩
    dsimp only
    rw [hnil, List.nil_append, device_append]
    exact dxTime_armed configured _ ..
  | warmed haction hstate =>
    refine Or.inl ⟨_, haction, hstate, ?_⟩
    dsimp only
    rw [hnil, List.nil_append]
    exact dxTime_armed configured d ..
  | rearmed _ hstate | anchorFailed _ hstate =>
    exact SessionState.noConfusion (hstate.symm.trans hpost)
  | finalReceived _ _ h =>
    obtain ⟨_, _, _, _, _, _, _, rfl, -, -⟩ := h.frame
    cases hpost
  | delivered h =>
    cases h with
    | mk _ hstate => exact SessionState.noConfusion (hstate.symm.trans hpost)
  | startFailed haction | unconfigured haction =>
    have hreturned := hok (by rw [haction]; rfl)
      ((congrArg SessionState.active hpost : c.session.state.active = _).trans rfl)
    rw [hnil] at hreturned
    simp at hreturned
  | responded | transmitted | stopped | suspended => cases hpost

/-- What a listener is told of an event. -/
def DriverEvent.told (cperr : UInt32) (d : Controller) : DriverEvent → Action
  | .rxSuccess report => .rxSuccess (d.rxSuccessEvent cperr report)
  | .rxTimeout => .rxTimeout
  | .rxError _ => .rxError
  | .txDone => .txComplete

/-- What the driver reports is what the session is told. -/
theorem told_of_reported {v : DriverEvent} {d : Controller} {a : Action}
    (h : v.reported cperr d = some a) : v.told cperr d = a := by
  cases hlistener : d.listener with
  | false =>
    rw [reported_eq_none v hlistener] at h
    cases h
  | true =>
    cases v with
    | rxSuccess =>
      rw [DriverEvent.reported, Controller.handleDriverRxSuccess, if_pos hlistener] at h
      exact Option.some.inj h
    | rxTimeout | rxError | txDone =>
      rw [DriverEvent.reported, if_pos hlistener] at h
      exact Option.some.inj h

/-- The reception with which the session has last begun to await a Poll. -/
def armedBy (cperr : UInt32) (past : Option RxSuccessEvent) (e : DeviceEvent) :
    Option RxSuccessEvent :=
  match e.input with
  | .event (.rxSuccess report) _ =>
    if e.pre.1.session.state = .prePollListening ∧ e.post.1.session.state = .awaitingPoll then
      some (e.pre.2.rxSuccessEvent cperr report) else past
  | _ => past

/-- A session that does not listen is not armed. -/
theorem armedBy_of_state {past : Option RxSuccessEvent} {e : DeviceEvent}
    (h : e.pre.1.session.state ≠ .prePollListening) : armedBy cperr past e = past := by
  unfold armedBy
  split
  · exact if_neg fun hboth => h hboth.1
  · rfl

/-- While a Poll is awaited, `DX_TIME` is one slot after the reception, less the lead. -/
def PollTimed (armed : Option RxSuccessEvent) (x : System × Controller) : Prop :=
  x.1.session.state = .awaitingPoll → ∃ event, armed = some event ∧
    x.2.dxTime = (hi32 event.rxTimestampDtu + slotTicksHi32 x.1.session.params - leadTimeHi32) &&&
      0xFFFFFFFE

/-- **The step lemma** for the window of the Poll. -/
theorem pollTimed_step {e : DeviceEvent} (he : (deviceMachine P cperr).Steps e)
    (hgood : Orderly e) (hduty : OnDuty e.pre) {past : Option RxSuccessEvent}
    (hpre : PollTimed past e.pre) : PollTimed (armedBy cperr past e) e.post := by
  intro hpost
  rcases deviceMachine_steps he with ⟨probed, initialised, hinput, hp⟩ |
    ⟨v, env, hinput, hlistener, -⟩ | ⟨i, configured, r, c, h⟩
  · have hrest := hgood.resets (by rw [hinput]; rfl)
    rw [hp] at hpost
    rw [show e.pre.1.session.state = _ from hpost] at hrest
    cases hrest
  · exact absurd (hlistener.symm.trans (listener_of_event he hduty.attached hduty.restsOff hinput))
      Bool.false_ne_true
  · have hcstate : c.session.state = .awaitingPoll := by
      rw [h.post] at hpost
      exact hpost
    have hok (hstart : i.action.isStart = true) (hactive : e.pre.1.session.state.active = true) :
        Output.returned (.ok ()) ∈ c.outputs := by
      rw [← h.output]
      exact hgood.starts (by rw [h.starts, hstart]) (SessionState.resting_of_active hactive)
    have harmed := h.served.armed_or configured { e.pre.2 with radio := r } rfl hcstate hok
    rcases harmed with ⟨event, haction, hstate, htime⟩ | ⟨hstate, hparams, htime⟩
    · -- armed in this step
      obtain ⟨-, v, env, hinput, hreported⟩ := h.reported (by rw [haction]; rfl)
      have htold := (told_of_reported hreported).trans haction
      have hst : e.pre.1.session.state = .prePollListening := hstate
      cases v with
      | rxSuccess report =>
        obtain rfl := Action.rxSuccess.inj htold
        refine ⟨e.pre.2.rxSuccessEvent cperr report, ?_, ?_⟩
        · unfold armedBy
          rw [hinput]
          exact if_pos ⟨hst, hpost⟩
        · rw [h.post]
          exact htime
      | rxTimeout | rxError | txDone => cases htold
    · have hst : e.pre.1.session.state = .awaitingPoll := hstate
      obtain ⟨event, hpast, hdx⟩ := hpre hst
      refine ⟨event, ?_, ?_⟩
      · rw [armedBy_of_state (by rw [hst]; decide), hpast]
      · rw [h.post]
        refine (htime.trans hdx).trans ?_
        dsimp only
        rw [hparams]
        rfl

/-- A receiver that waits has a count to wait for. -/
theorem OnDuty.timed {x : System × Controller} (h : OnDuty x) (hcb : x.1.inCallback = false)
    (hradio : x.2.radio = .receiving) : x.2.rxwtoe = true ∧ x.2.rxFwto ≠ 0 := by
  have hstate := (h.agrees hcb).symm.trans hradio
  have hprogrammed := h.programmed
  have htuned := h.tuned
  unfold Programmed at hprogrammed
  cases hs : x.1.session.state with
  | prePollListening =>
    rw [hs] at hprogrammed htuned
    exact ⟨(htuned rfl).rxwtoe, by rw [hprogrammed.2]; decide⟩
  | awaitingPoll =>
    rw [hs] at hprogrammed htuned
    refine ⟨(htuned rfl).rxwtoe, ?_⟩
    rcases hprogrammed.2.2 with hfwto | hfwto <;> rw [hfwto] <;> decide
  | awaitingFinal =>
    rw [hs] at hprogrammed htuned
    exact ⟨(htuned rfl).rxwtoe, by rw [hprogrammed.2.2.2]; decide⟩
  | awaitingFinalData =>
    rw [hs] at hprogrammed htuned
    exact ⟨(htuned rfl).rxwtoe, by rw [hprogrammed.2.2]; decide⟩
  | uninitialized | idle | suspended | transmittingResponse =>
    rw [hs] at hstate
    cases hstate

/-! ### Runs -/

/-- A new session and a controller that is not initialized. -/
theorem onDuty_initial (filter : RangeConsensusFilter) : OnDuty (deviceInitial filter) :=
  ⟨rfl, fun _ => rfl, fun _ => rfl, fun h => absurd h.symm Bool.false_ne_true, trivial⟩

/-- **The run lemma.** -/
theorem onDuty_run {filter : RangeConsensusFilter} {tr : List DeviceEvent}
    {t : System × Controller} (h : (deviceMachine P cperr).Run (deviceInitial filter) tr t)
    (hgood : ∀ e ∈ tr, Orderly e) : OnDuty t :=
  h.invariant hgood (onDuty_initial filter) fun _ he hgood hpre => onDuty_step he hgood hpre

/-- Whether a step is orderly can be computed. -/
instance : DecidablePred Orderly := fun e =>
  decidable_of_iff (KeepsListener e ∧
    (e.input.resets = true → e.pre.1.session.state.resting = true) ∧
    (e.input.calls Action.isStart = true → e.pre.1.session.state.resting = false →
      Output.returned (.ok ()) ∈ e.output) ∧ e.input.env.immediateRxStarts = true)
    ⟨fun h => ⟨h.1, h.2.1, h.2.2.1, h.2.2.2⟩,
      fun h => ⟨h.keepsListener, h.resets, h.starts, h.listens⟩⟩

/-- Whether a step anchors safely can be computed. -/
instance : DecidablePred AnchorsSafely := fun _ => inferInstanceAs (Decidable (_ → _))

/-- The first PrePoll is followed by its Poll. -/
def sampleDevicePoll : List DeviceInput :=
  sampleDevice ++ [.event (.rxSuccess {}) {}]

/-- The run up to the first Response is orderly. -/
theorem sampleDevicePoll_orderly : ∃ tr t, (deviceMachine .sample 1).Run (deviceInitial {}) tr t ∧
    tr.map (·.input) = sampleDevicePoll ∧ t.1.session.state = .transmittingResponse ∧
      t.1.inCallback = false ∧ ∀ e ∈ tr, Orderly e ∧ AnchorsSafely e := by
  obtain ⟨tr, t, hrun, hin, h⟩ := Machine.exists_run_of_exec (M := deviceMachine .sample 1)
    (s := deviceInitial {}) (l := sampleDevicePoll)
    (p := fun tr t => decide (t.1.session.state = .transmittingResponse ∧
      t.1.inCallback = false) && tr.all fun e => decide (Orderly e ∧ AnchorsSafely e))
    (by decide +kernel)
  rw [Bool.and_eq_true] at h
  obtain ⟨hstate, hcb⟩ := of_decide_eq_true h.1
  exact ⟨tr, t, hrun, hin, hstate, hcb,
    fun e he => of_decide_eq_true (List.all_eq_true.1 h.2 e he)⟩

/-- **In every state of an orderly run the registers hold what the session waits
for**: the device is doing it, tuned to the session's PHY and programmed for the leg, the
window of a Poll begins one slot after the frame that has announced it, less the lead, and
a receiver that waits has a count to wait for. -/
theorem registers_programmed {filter : RangeConsensusFilter} {tr : List DeviceEvent}
    {t : System × Controller} (h : (deviceMachine P cperr).Run (deviceInitial filter) tr t)
    (hgood : ∀ e ∈ tr, Orderly e) :
    (t.1.inCallback = false → t.2.radio = radioFor t.1.session.state) ∧
      (t.1.session.state.resting = false → Tuned t.1.session t.2) ∧
      Programmed t.1.session t.2 ∧ PollTimed (tr.foldl (armedBy cperr) none) t ∧
      (t.1.inCallback = false → t.2.radio = .receiving → t.2.rxwtoe = true ∧ t.2.rxFwto ≠ 0) := by
  obtain ⟨hduty, htimed⟩ := h.invariant_foldl (J := fun armed x => OnDuty x ∧ PollTimed armed x)
    (armedBy cperr) hgood ⟨onDuty_initial filter, fun hstate => by cases hstate⟩
    fun _ _ he hgood hpre => ⟨onDuty_step he hgood hpre.1, pollTimed_step he hgood hpre.1 hpre.2⟩
  exact ⟨hduty.agrees, hduty.tuned, hduty.programmed, htimed, hduty.timed⟩

/-- The hypotheses of `registers_programmed` are satisfiable: the session awaits its first
Poll, and answers it. -/
theorem registers_programmed_sample :
    (∃ tr t, (deviceMachine .sample 1).Run (deviceInitial {}) tr t ∧
      tr.map (·.input) = sampleDevice ∧ t.1.session.state = .awaitingPoll ∧
      Programmed t.1.session t.2 ∧ t.2.dxTime = 2400 * 208 - 40000) ∧
    ∃ tr t, (deviceMachine .sample 1).Run (deviceInitial {}) tr t ∧
      tr.map (·.input) = sampleDevicePoll ∧ t.2.radio = .transmitPending ∧
      Tuned t.1.session t.2 ∧ Programmed t.1.session t.2 := by
  constructor
  · obtain ⟨tr, t, hrun, hin, h⟩ := Machine.exists_run_of_exec (M := deviceMachine .sample 1)
      (s := deviceInitial {}) (l := sampleDevice)
      (p := fun tr t => decide (t.1.session.state = .awaitingPoll ∧
        (tr.foldl (armedBy 1) none).map (·.rxTimestampDtu) = some 0 ∧
        t.1.session.params = sampleParams) && tr.all fun e => decide (Orderly e))
      (by decide +kernel)
    obtain ⟨h, hgood⟩ := Bool.and_eq_true_iff.1 h
    obtain ⟨hstate, harmed, hparams⟩ := of_decide_eq_true h
    obtain ⟨-, -, hprogrammed, htimed, -⟩ :=
      registers_programmed hrun fun e he => of_decide_eq_true (List.all_eq_true.1 hgood e he)
    obtain ⟨event, hevent, htime⟩ := htimed hstate
    refine ⟨tr, t, hrun, hin, hstate, hprogrammed, ?_⟩
    have hzero : event.rxTimestampDtu = 0 := by
      rw [hevent] at harmed
      exact Option.some.inj harmed
    rw [htime, hzero, hparams]
    decide
  · obtain ⟨tr, t, hrun, hin, hstate, hcb, hgood⟩ := sampleDevicePoll_orderly
    obtain ⟨hradio, htuned, hprogrammed, -⟩ := registers_programmed hrun fun e he => (hgood e he).1
    exact ⟨tr, t, hrun, hin, by rw [hradio hcb, hstate]; rfl, htuned (by rw [hstate]; rfl),
      hprogrammed⟩

/-! ### Keys -/

/-- The states in which a frame with an STS is awaited or sent. -/
def SessionState.ranges : SessionState → Bool
  | .awaitingPoll | .transmittingResponse | .awaitingFinal => true
  | _ => false

/-- The STS index of the leg that the session waits in. -/
def legStsIndex (s : SessionMembers) : StsIndex :=
  match s.state with
  | .transmittingResponse => s.armedPollStsIndex + 1 + s.nodeConfig.responderIndex.toUInt32
  | .awaitingFinal => s.armedPollStsIndex + 1 + s.params.responderCount.toUInt32
  | _ => s.armedPollStsIndex

/-- A session that is not suspended refuses to be re-anchored. -/
theorem Served.session_of_refused {i : Input} {c c' : Ctx} (h : Served P i c c')
    (haction : i.action.anchors = true) (hstate : c.session.state ≠ .suspended) :
    c'.session = c.session := by
  cases h with
  | ignored | refused | rearmed => rfl
  | anchorFailed _ hsuspended | anchored _ hsuspended => exact absurd hsuspended hstate
  | abandoned hevent =>
    rw [Action.anchors_of_isRadioEvent _ hevent] at haction
    cases haction
  | delivered hd =>
    rw [Action.anchors_of_isRadioEvent _ hd.isRadioEvent] at haction
    cases haction
  | ineligible ha | unkeyed ha | bootstrapped ha | warmed ha | responded ha | late ha
  | transmitted ha | finalReceived ha | undelivered ha | callbackReturned ha | stopped ha
  | suspended ha | resumed ha | startFailed ha | unconfigured ha | started ha =>
    rw [ha] at haction
    cases haction

/-- A `start` configures the session. -/
theorem Action.configures_of_isStart {a : Action} (h : a.isStart = true) :
    a.configures = true := by
  cases a <;> first | rfl | cases h

/-- Where the session has a listener afterwards, `start` has succeeded. -/
theorem Serves.start_succeeds {e : DeviceEvent} {i : Input} {r : Radio} {c : Ctx}
    (h : Serves P cperr e i configured r c) (hgood : Orderly e)
    (hstart : i.action.isStart = true) (hpost : c.session.state.resting = false) :
    Output.returned (.ok ()) ∈ e.output := by
  have hset : i.action.setsUp = true := by
    cases ha : i.action <;> rw [ha] at hstart <;> first | rfl | cases hstart
  have hbefore (hstate : c.session.state = (e.pre.1.enter i).session.state) :=
    hgood.starts ((h.starts configured).trans hstart)
      ((congrArg SessionState.resting hstate).symm.trans hpost)
  cases h.served.setUp hset with
  | stopped hstate =>
    rw [hstate] at hpost
    cases hpost
  | underived _ hstate | unconfigured _ hstate => exact hbefore hstate
  | started _ _ _ _ hout =>
    rw [h.output, hout]
    simp

/-- **The keys stay those of the material** while the session is not at rest. -/
theorem keyed_deviceStep {e : DeviceEvent} (he : (deviceMachine P cperr).Steps e)
    (hgood : Orderly e) (hanchors : AnchorsSafely e)
    (hpre : e.pre.1.session.state.resting = false → KeyedNow P e.pre.1.session)
    (hpost : e.post.1.session.state.resting = false) : KeyedNow P e.post.1.session := by
  rcases deviceMachine_steps he with ⟨_, _, -, hp⟩ | ⟨_, _, -, -, hp⟩ | ⟨i, configured, r, c, h⟩
  · rw [hp] at hpost ⊢
    exact hpre hpost
  · rw [hp] at hpost ⊢
    exact hpre hpost
  have hstart (hs : i.action.isStart = true) : Output.returned (.ok ()) ∈ e.output := by
    rw [h.post] at hpost
    exact h.start_succeeds configured hgood hs hpost
  refine keyed_step h.steps (fun _ hkeys => hkeys) (fun ursk params nodeConfig callback ha => ?_)
    fun hfailed => ?_
  · exact decide_eq_true (hstart (by rw [show i.action = _ from ha]; rfl))
  rw [h.post] at hpost ⊢
  dsimp only at hpost hfailed ⊢
  cases hconf : i.action.configures with
  | false =>
    have hset : i.action.setsUp = false := by
      by_contra hset
      cases h.served.setUp (by simpa using hset) with
      | stopped hstate =>
        rw [hstate] at hpost
        cases hpost
      | underived hs | unconfigured hs | started hs =>
        rw [Action.configures_of_isStart hs] at hconf
        cases hconf
    have hsame := h.served.sameConfig hconf
    exact (hpre (h.resting_before configured hgood.keepsListener hset hpost)).mono fun _ hkeys =>
      hkeys.congr hsame.params hsame.nodeConfig hsame.keys
  | true =>
    have hnot := of_decide_eq_false (hfailed hconf)
    have hanchor : i.action.anchors = true := by
      cases ha : i.action with
      | start => exact absurd (hstart (by rw [ha]; rfl)) hnot
      | resumeWithAnchor => rfl
      | _ => rw [ha] at hconf; cases hconf
    have hstate : e.pre.1.session.state ≠ .suspended := fun hstate =>
      hnot (hanchors ((h.calls Action.anchors_of_isRadioEvent).trans hanchor) hstate)
    have hsame : c.session = e.pre.1.session := h.served.session_of_refused hanchor hstate
    rw [hsame] at hpost ⊢
    exact hpre hpost

/-- **In every exchange the STS registers hold the keys of the leg that is next**: those
which the key material gives for its STS index. -/
theorem registers_keyed {filter : RangeConsensusFilter} {tr : List DeviceEvent}
    {t : System × Controller} (h : (deviceMachine P cperr).Run (deviceInitial filter) tr t)
    (hgood : ∀ e ∈ tr, Orderly e ∧ AnchorsSafely e)
    (hranges : t.1.session.state.ranges = true) :
    ∃ keys, value (slotKeysAt P t.1.session (legStsIndex t.1.session)) = .ok keys ∧
      HoldsKeys t.2 keys ∧ t.2.stsMode = .noDataSp3 := by
  have hkeyed : t.1.session.state.resting = false → KeyedNow P t.1.session :=
    h.invariant (P := fun y => y.1.session.state.resting = false → KeyedNow P y.1.session) hgood
      (fun h => absurd h.symm Bool.false_ne_true)
      fun _ he hgood hpre => keyed_deviceStep he hgood.1 hgood.2 hpre
  have hprogrammed := (onDuty_run h fun e he => (hgood e he).1).programmed
  unfold Programmed at hprogrammed
  unfold legStsIndex
  cases hs : t.1.session.state with
  | awaitingPoll =>
    rw [hs] at hprogrammed hkeyed
    obtain ⟨-, hindex, hkeys⟩ := (hkeyed rfl).armed (by rw [hs]; rfl)
    exact ⟨_, hindex ▸ hkeys.poll, hprogrammed.2.1, hprogrammed.1⟩
  | transmittingResponse =>
    rw [hs] at hprogrammed hkeyed
    obtain ⟨-, hindex, hkeys⟩ := (hkeyed rfl).armed (by rw [hs]; rfl)
    exact ⟨_, hindex ▸ hkeys.response, hprogrammed.2.1, hprogrammed.1⟩
  | awaitingFinal =>
    rw [hs] at hprogrammed hkeyed
    obtain ⟨-, hindex, hkeys⟩ := (hkeyed rfl).armed (by rw [hs]; rfl)
    exact ⟨_, hindex ▸ hkeys.final, hprogrammed.2.1, hprogrammed.1⟩
  | uninitialized | idle | suspended | prePollListening | awaitingFinalData =>
    rw [hs] at hranges
    cases hranges

end Session
end AliroUwb
