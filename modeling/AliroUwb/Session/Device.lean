/-
# The session, its controller and the device

`deviceMachine` runs the session on the controller of `Transceiver.Controller`: what
the session puts out is executed command by command on the registers, and what the
driver reports reaches the session through the controller's listener, or, if there is
none, is lost.

`start` attaches the session, `stop` detaches it.  In a run the listener is attached
just when the session is neither uninitialized nor idle, unless a session that is one
of the two is suspended, or its callback returns (`listener_iff`): from either it can
come to listen without a listener.  Where that does not happen, the run is one of the
`radioMachine`, in which no event is lost (`device_refines_radio`).
-/

import AliroUwb.Session.RadioAgreement
import AliroUwb.Transceiver.Controller

namespace AliroUwb
namespace Session

open Stepwise Crypto Protocol Ranging Transceiver

variable {P : Platform} {cperr : UInt32}

/-- What the driver can report. -/
inductive DriverEvent
  | rxSuccess (report : RxReport)
  | rxTimeout
  | rxError (errorStatus : UInt32)
  | txDone

/-- The device is doing what the event comes of. -/
def DriverEvent.possible (r : Radio) : DriverEvent → Bool
  | .txDone => decide (r = .transmitPending)
  | _ => decide (r = .receiving)

/-- What the listener is told: `handleDriverRxSuccess`, `handleDriverRxTimeout`,
`handleDriverRxError` and `handleDriverTxDone`. -/
def DriverEvent.reported (cperr : UInt32) (d : Controller) : DriverEvent → Option Action
  | .rxSuccess report => (d.handleDriverRxSuccess cperr report).map .rxSuccess
  | .rxTimeout => if d.listener then some .rxTimeout else none
  | .rxError _ => if d.listener then some .rxError else none
  | .txDone => if d.listener then some .txComplete else none

/-- The controller after what a handler puts out. -/
def deviceAfter (configured : Bool) (d : Controller) (outputs : List Output) : Controller :=
  outputs.foldl (fun d o => match o with
    | .command c => d.command configured c
    | _ => d) d

/-- What can happen to a session with its device: the application resets the device
or makes a call (or its callback returns), or the driver reports something. -/
inductive DeviceInput
  | initializeDevice (probed initialised : Bool)
  | call (i : Input) (configured : Bool)
  | event (v : DriverEvent) (env : Env)

/-- What the platform answers. -/
def DeviceInput.env : DeviceInput → Env
  | .initializeDevice .. => {}
  | .call i _ => i.env
  | .event _ env => env

/-- A step of the session with its device. -/
abbrev DeviceEvent := Occurrence (System × Controller) DeviceInput (List Output)

/-- An input with the controller's own answer about the PHY. -/
def Input.on (d : Controller) (configured : Bool) (i : Input) : Input :=
  ⟨i.action, { i.env with configurePhyError := d.phyError configured }⟩

/-- The session serves an input, on a device that executes its commands. -/
def serveOn (P : Platform) (x : System) (d : Controller) (i : Input) (configured : Bool) :
    Option ((System × Controller) × List Output) :=
  (System.step P x (i.on d configured)).map fun r => ((r.1, deviceAfter configured d r.2), r.2)

/-- One step. -/
def deviceStep (P : Platform) (cperr : UInt32) (x : System × Controller) :
    DeviceInput → Option ((System × Controller) × List Output)
  | .initializeDevice probed initialised =>
    some ((x.1, (x.2.initializeDevice probed initialised).2), [])
  | .call i configured =>
    if i.action.isRadioEvent then none else serveOn P x.1 x.2 i configured
  | .event v env =>
    if x.1.inCallback || !v.possible x.2.radio then none
    else
      -- the event leaves the device off
      let d := x.2.forceReceiverOff
      match v.reported cperr d with
      | none => some ((x.1, d), [])
      | some action => serveOn P x.1 d ⟨action, env⟩ true

/-- The session with its device. -/
def deviceMachine (P : Platform) (cperr : UInt32) :
    Machine (System × Controller) DeviceInput (List Output) := ⟨deviceStep P cperr⟩

/-- The session as it is constructed, and a controller that is not initialized. -/
def deviceInitial (filter : RangeConsensusFilter) : System × Controller :=
  (System.initial filter, {})

/-! ### The device after the commands -/

variable (configured : Bool) (d : Controller)

/-- Without outputs the device does nothing. -/
@[simp] theorem device_nil : deviceAfter configured d [] = d := rfl

/-- Outputs act on the device one after the other. -/
@[simp] theorem device_append (a b : List Output) :
    deviceAfter configured d (a ++ b) = deviceAfter configured (deviceAfter configured d a) b :=
  List.foldl_append

/-- A command acts on the device. -/
@[simp] theorem device_command (c : Command) (os : List Output) :
    deviceAfter configured d (.command c :: os) =
      deviceAfter configured (d.command configured c) os := rfl

/-- A transition does nothing to the device. -/
@[simp] theorem device_transition (q : SessionState) (os : List Output) :
    deviceAfter configured d (.transition q :: os) = deviceAfter configured d os := rfl

/-- The acceptance of a PrePoll does nothing to the device. -/
@[simp] theorem device_acceptedPrePoll (mhr : MacHeader) (prePoll : PrePollPayload)
    (os : List Output) :
    deviceAfter configured d (.acceptedPrePoll mhr prePoll :: os) = deviceAfter configured d os :=
  rfl

/-- The return of a call does nothing to the device. -/
@[simp] theorem device_returned (res : Except StatusCode Unit) (os : List Output) :
    deviceAfter configured d (.returned res :: os) = deviceAfter configured d os := rfl

/-- Acceptances in a row do nothing to the device. -/
theorem device_accepted {os : List Output}
    (h : ∀ o ∈ os, ∃ mhr prePoll, o = .acceptedPrePoll mhr prePoll) :
    deviceAfter configured d os = d := by
  induction os with
  | nil => rfl
  | cons o os ih =>
    obtain ⟨mhr, prePoll, rfl⟩ := h o List.mem_cons_self
    exact ih fun o ho => h o (List.mem_cons_of_mem _ ho)

/-- What holds of the device before the commands and is kept by each of them. -/
theorem device_induction {p : Output → Bool} {Q : Controller → Prop} {os : List Output}
    (hos : os.all p = true) (hQ : Q d)
    (hstep : ∀ d c, p (.command c) = true → Q d → Q (d.command configured c)) :
    Q (deviceAfter configured d os) := by
  induction os generalizing d with
  | nil => exact hQ
  | cons o os ih =>
    rw [List.all_cons, Bool.and_eq_true] at hos
    cases o with
    | command c => exact ih (d.command configured c) hos.2 (hstep d c hos.1 hQ)
    | _ => exact ih d hos.2 hQ

/-! ### What only `start` and `stop` do -/

/-- Neither a listener nor a PHY is set. -/
def Output.keepsSetup : Output → Bool
  | .command (.setListener _) | .command (.configurePhy _) => false
  | _ => true

/-- What a controller keeps while its session ranges. -/
def setupOf (d : Controller) : Bool × Bool × Option DecaConfig × Bool × UInt16 × UInt16 :=
  (d.listener, d.pdoaEnabled, d.phy, d.rxwtoe, d.rxAntennaDelay, d.txAntennaDelay)

/-- The controller keeps its setup at a command that is known to. -/
theorem setup_command {c : Command} (h : (Output.command c).keepsSetup = true) :
    setupOf (d.command configured c) = setupOf d := by
  cases c with
  | setListener | configurePhy => cases h
  | startDelayedTx t ranging started =>
    simp only [Controller.command, Controller.startDelayedTx]
    cases ranging <;> cases started <;> rfl
  | startDelayedRx t timeout started =>
    rw [Controller.startDelayedRx_eq]
    rfl
  | startImmediateRx timeout started =>
    obtain ⟨_, h⟩ := d.startImmediateRx_eq configured timeout started
    rw [h]
    rfl
  | _ => rfl

/-- The controller keeps its setup over all such outputs. -/
theorem setup_deviceAfter {os : List Output} (h : os.all Output.keepsSetup = true) :
    setupOf (deviceAfter configured d os) = setupOf d :=
  device_induction configured d (Q := fun d' => setupOf d' = setupOf d) h rfl
    fun d' _ hc hd => (setup_command configured d' hc).trans hd

/-- The action is a `start`. -/
def Action.isStart : Action → Bool
  | .start .. => true
  | _ => false

/-- `start` and `stop`. -/
def Action.setsUp : Action → Bool
  | .start .. | .stop => true
  | _ => false

/-- Listening, whatever was put out before. -/
theorem keepsSetup_listen {env : Env} {c c₁ c' : Ctx} (h : Unstashed P (c₁.listen env) c')
    (hc : Only Output.keepsSetup c c₁) : Only Output.keepsSetup c c' :=
  (hc.trans ⟨_, rfl, rfl⟩).trans (only_unstashed (fun _ _ => rfl) h)

/-- **Only `start` and `stop` set a listener or a PHY.** -/
theorem Served.keepsSetup {i : Input} {c c' : Ctx} (h : Served P i c c')
    (hno : i.action.setsUp = false) : Only Output.keepsSetup c c' := by
  have hsame {c₁ : Ctx} (h : c₁.outputs = c.outputs) : Only Output.keepsSetup c c₁ :=
    ⟨[], h.trans (List.append_nil _).symm, rfl⟩
  cases h with
  | ignored => exact hsame rfl
  | abandoned _ _ _ h | callbackReturned _ h => exact keepsSetup_listen h (hsame rfl)
  | rearmed | suspended | refused | anchorFailed => exact ⟨_, rfl, rfl⟩
  | ineligible _ _ _ _ _ _ _ h | undelivered _ _ _ _ _ h =>
    exact keepsSetup_listen h ⟨_, rfl, rfl⟩
  | unkeyed _ _ _ _ _ _ _ h => exact keepsSetup_listen h ⟨_, List.append_assoc .., rfl⟩
  | @bootstrapped event _ _ _ _ armed _ _ _ _ _ _ _ _ _ _ h =>
    have harm : (armCommands c.session i.env event armed).all Output.keepsSetup = true :=
      all_window rfl rfl (fun _ => rfl) fun _ => rfl
    refine Only.trans ⟨_, List.append_assoc .., ?_⟩ (only_refreshed h)
    exact harm
  | warmed | transmitted => exact ⟨_, rfl, all_window rfl rfl (fun _ => rfl) fun _ => rfl⟩
  | responded => exact ⟨_, rfl, rfl⟩
  | late _ _ _ _ _ h => exact keepsSetup_listen h ⟨_, rfl, rfl⟩
  | finalReceived _ _ h =>
    exact Only.trans ⟨_, rfl, all_window rfl rfl (fun _ => rfl) fun _ => rfl⟩
      (only_unstashed (fun _ _ => rfl) h)
  | delivered h =>
    cases h with
    | mk => exact ⟨_, rfl, rfl⟩
  | resumed _ _ h | anchored _ _ _ _ h =>
    exact Only.trans (keepsSetup_listen h (hsame rfl)) ⟨_, rfl, rfl⟩
  | stopped haction | startFailed haction | unconfigured haction | started haction =>
    rw [haction] at hno
    cases hno

/-- What `armPrePollListening` puts out, apart from what it accepts. -/
def listenOutputs (env : Env) : List Output :=
  [.command .forceReceiverOff, .command (.configureStsMode .off),
    .command (.startImmediateRx 0 env.immediateRxStarts), .transition .prePollListening]

/-- What `start` and `stop` can do. -/
inductive SetUp (i : Input) (c c' : Ctx) : Prop
  | stopped (hstate : c'.session.state = .idle)
      (hout : c'.outputs = c.outputs ++ [.command (.setListener false),
        .command .forceReceiverOff, .transition .idle, .returned (.ok ())])
  | underived {e : StatusCode} (hstart : i.action.isStart = true)
      (hstate : c'.session.state = c.session.state)
      (hout : c'.outputs = c.outputs ++ [.command .forceReceiverOff, .returned (.error e)])
  | unconfigured {config : TransceiverConfig} {e : StatusCode} (hstart : i.action.isStart = true)
      (hstate : c'.session.state = c.session.state)
      (hout : c'.outputs = c.outputs ++ [.command .forceReceiverOff,
        .command (.configurePhy config), .returned (.error e)])
  | started {accepted : List Output} (hstart : i.action.isStart = true)
      (hphy : i.env.configurePhyError = none)
      (hstate : c'.session.state = .prePollListening)
      (haccepted : ∀ o ∈ accepted, ∃ mhr prePoll, o = .acceptedPrePoll mhr prePoll)
      (hout : c'.outputs = c.outputs ++ [.command .forceReceiverOff,
        .command (.configurePhy (hwConfig c'.session)), .command (.setListener true)] ++
          (listenOutputs i.env ++ accepted ++ [.returned (.ok ())]))

/-- A call that sets the session up does one of these. -/
theorem Served.setUp {i : Input} {c c' : Ctx} (h : Served P i c c')
    (hset : i.action.setsUp = true) : SetUp i c c' := by
  have hevent : i.action.isRadioEvent = false := by
    cases ha : i.action <;> rw [ha] at hset <;> first | rfl | cases hset
  cases h with
  | stopped => exact .stopped rfl rfl
  | startFailed haction => exact .underived (by rw [haction]; rfl) rfl rfl
  | unconfigured haction => exact .unconfigured (by rw [haction]; rfl) rfl rfl
  | started haction _ _ hphy hu =>
    obtain ⟨_, _, _, _, _, _, accepted, rfl, -, haccepted⟩ := hu.frame
    refine .started (by rw [haction]; rfl) hphy rfl haccepted ?_
    simp only [Ctx.listen, listenOutputs, List.append_assoc]
    rfl
  | ignored hno | abandoned hno => exact absurd (hevent.symm.trans hno) Bool.false_ne_true
  | delivered hd => exact absurd (hevent.symm.trans hd.isRadioEvent) Bool.false_ne_true
  | refused haction => rcases haction with ha | ⟨n, ha⟩ <;> rw [ha] at hset <;> cases hset
  | rearmed haction | ineligible haction | unkeyed haction | bootstrapped haction
  | warmed haction | responded haction | late haction | transmitted haction
  | finalReceived haction | undelivered haction | callbackReturned haction | suspended haction
  | resumed haction | anchorFailed haction | anchored haction =>
    rw [haction] at hset
    cases hset

/-! ### The steps -/

/-- What the session is told in a step, if anything. -/
def DeviceInput.toSession (cperr : UInt32) (d : Controller) : DeviceInput → Option Input
  | .initializeDevice .. => none
  | .call i configured => some (i.on d configured)
  | .event v env => (v.reported cperr d).map fun action => Input.on d true ⟨action, env⟩

/-- The step of the session in a step of the session with its device. -/
def sessionEvent (cperr : UInt32) (e : DeviceEvent) : Option Event :=
  (e.input.toSession cperr e.pre.2).map fun i => ⟨e.pre.1, i, e.output, e.post.1⟩

/-- In this step the session serves `i`, from `e.pre` to `c`, the device having been
left as `r` by what is reported. -/
structure Serves (P : Platform) (cperr : UInt32) (e : DeviceEvent) (i : Input)
    (configured : Bool) (r : Radio) (c : Ctx) : Prop where
  input : e.input.toSession cperr e.pre.2 = some i
  radio : radioEvent e.pre.2.radio i.action = some r
  reported : i.action.isRadioEvent = true → e.pre.2.listener = true ∧
    ∃ v env, e.input = .event v env ∧ v.reported cperr e.pre.2 = some i.action
  called : i.action.isRadioEvent = false → ∃ env, e.input = .call ⟨i.action, env⟩ configured
  env : i.env = { e.input.env with configurePhyError := e.pre.2.phyError configured }
  steps : (machine P).Steps ⟨e.pre.1, i, e.output, e.post.1⟩
  served : Served P i (e.pre.1.enter i) c
  post : e.post = (⟨c.session, c.inCallback⟩,
    deviceAfter configured { e.pre.2 with radio := r } c.outputs)
  output : e.output = c.outputs

/-- What `serveOn` does. -/
theorem serveOn_eq_some {x : System} {d : Controller} {i : Input} {configured : Bool}
    {y : (System × Controller) × List Output} (h : serveOn P x d i configured = some y) :
    ∃ c, (machine P).Steps ⟨x, i.on d configured, y.2, y.1.1⟩ ∧
      Served P (i.on d configured) (x.enter (i.on d configured)) c ∧
      y.1 = (⟨c.session, c.inCallback⟩, deviceAfter configured d c.outputs) ∧
      y.2 = c.outputs := by
  unfold serveOn at h
  obtain ⟨r, hr, rfl⟩ := Option.map_eq_some_iff.1 h
  have hsteps : (machine P).Steps ⟨x, i.on d configured, r.2, r.1⟩ := hr
  obtain ⟨-, c, hc, hpost, hout⟩ := served_of_steps hsteps
  dsimp only at hpost hout
  exact ⟨c, hsteps, hc, by rw [hpost, hout], hout⟩

/-- What is reported does not depend on what the device is doing. -/
theorem reported_forceReceiverOff (v : DriverEvent) (d : Controller) :
    v.reported cperr d.forceReceiverOff = v.reported cperr d := by
  cases v <;> rfl

/-- Without a listener nothing is reported. -/
theorem reported_eq_none (v : DriverEvent) {d : Controller} (h : d.listener = false) :
    v.reported cperr d = none := by
  cases v <;> simp [DriverEvent.reported, Controller.handleDriverRxSuccess, h]

/-- An event that is possible turns the device off; without a listener it is lost. -/
theorem reported_cases (cperr : UInt32) {v : DriverEvent} {d : Controller}
    (hpossible : v.possible d.radio = true) :
    (v.reported cperr d = none ∧ d.listener = false) ∨
    ∃ a, v.reported cperr d = some a ∧ radioEvent d.radio a = some .off ∧
      a.isRadioEvent = true ∧ d.listener = true := by
  cases hlistener : d.listener with
  | false =>
    exact Or.inl ⟨reported_eq_none v hlistener, rfl⟩
  | true =>
    refine Or.inr ?_
    cases v with
    | rxSuccess report =>
      refine ⟨.rxSuccess (d.rxSuccessEvent cperr report), ?_,
        if_pos (of_decide_eq_true hpossible), rfl, rfl⟩
      rw [DriverEvent.reported, Controller.handleDriverRxSuccess, if_pos hlistener, Option.map_some]
    | rxTimeout | rxError | txDone =>
      exact ⟨_, if_pos hlistener, if_pos (of_decide_eq_true hpossible), rfl, rfl⟩

/-- **What a step is**: a reset, an event that is lost, or an input that is served. -/
theorem deviceMachine_steps {e : DeviceEvent} (h : (deviceMachine P cperr).Steps e) :
    (∃ probed initialised, e.input = .initializeDevice probed initialised ∧
      e.post = (e.pre.1, (e.pre.2.initializeDevice probed initialised).2)) ∨
    (∃ v env, e.input = .event v env ∧ e.pre.2.listener = false ∧
      e.post = (e.pre.1, e.pre.2.forceReceiverOff)) ∨
    ∃ i configured r c, Serves P cperr e i configured r c := by
  obtain ⟨⟨x, d⟩, input, output, post⟩ := e
  have h : deviceStep P cperr (x, d) input = some (post, output) := h
  cases input with
  | initializeDevice probed initialised =>
    obtain ⟨rfl, -⟩ := Prod.mk.inj (Option.some.inj h)
    exact Or.inl ⟨probed, initialised, rfl, rfl⟩
  | call i configured =>
    unfold deviceStep at h
    dsimp only at h
    split_ifs at h with hevent
    obtain ⟨c, hsteps, hc, hpost, hout⟩ := serveOn_eq_some h
    have hno : (i.on d configured).action.isRadioEvent = false := Bool.eq_false_iff.2 hevent
    exact Or.inr (Or.inr ⟨_, configured, d.radio, c, rfl, radioEvent_of_not_isRadioEvent hno _,
      fun h => absurd h hevent, fun _ => ⟨i.env, rfl⟩, rfl, hsteps, hc, hpost, hout⟩)
  | event v env =>
    unfold deviceStep at h
    dsimp only at h
    split_ifs at h with hblocked
    rw [Bool.or_eq_true, Bool.not_eq_true', not_or, Bool.not_eq_false] at hblocked
    rw [reported_forceReceiverOff] at h
    rcases reported_cases cperr hblocked.2 with
      ⟨hnone, hlistener⟩ | ⟨a, hsome, hradio, hevent, hlistener⟩
    · rw [hnone] at h
      obtain ⟨rfl, -⟩ := Prod.mk.inj (Option.some.inj h)
      exact Or.inr (Or.inl ⟨v, env, rfl, hlistener, rfl⟩)
    · rw [hsome] at h
      obtain ⟨c, hsteps, hc, hpost, hout⟩ := serveOn_eq_some h
      have hinput : (DeviceInput.event v env).toSession cperr d =
          some (Input.on d.forceReceiverOff true ⟨a, env⟩) := by
        rw [DeviceInput.toSession, hsome]
        rfl
      exact Or.inr (Or.inr ⟨_, true, .off, c, hinput, hradio,
        fun _ => ⟨hlistener, v, env, rfl, hsome⟩,
        fun h => absurd (h.symm.trans hevent) Bool.false_ne_true, rfl, hsteps, hc, hpost, hout⟩)

/-- The step of the session serves what the session is told. -/
theorem serves_of_sessionEvent {e : DeviceEvent} (he : (deviceMachine P cperr).Steps e)
    {b : Event} (hb : sessionEvent cperr e = some b) :
    ∃ i configured r c, Serves P cperr e i configured r c ∧
      b = ⟨e.pre.1, i, e.output, e.post.1⟩ := by
  rcases deviceMachine_steps he with ⟨_, _, hinput, -⟩ | ⟨v, env, hinput, hlistener, -⟩ |
    ⟨i, configured, r, c, h⟩
  · rw [sessionEvent, hinput] at hb
    cases hb
  · rw [sessionEvent, hinput, DeviceInput.toSession, reported_eq_none v hlistener] at hb
    cases hb
  · rw [sessionEvent, h.input] at hb
    exact ⟨i, configured, r, c, h, (Option.some.inj hb).symm⟩

/-- **What the session does in a run with its device is a run of the session.** -/
theorem session_run {x t : System × Controller} {tr : List DeviceEvent}
    (h : (deviceMachine P cperr).Run x tr t) :
    (machine P).Run x.1 (tr.filterMap (sessionEvent cperr)) t.1 := by
  refine h.project (g := Prod.fst) (fun e _ he hnone => ?_) fun e _ he b hb => ?_
  · rcases deviceMachine_steps he with ⟨_, _, -, hpost⟩ | ⟨_, _, -, -, hpost⟩ | ⟨i, _, _, _, h⟩
    · rw [hpost]
    · rw [hpost]
    · rw [sessionEvent, h.input] at hnone
      cases hnone
  · obtain ⟨i, _, _, _, h, rfl⟩ := serves_of_sessionEvent he hb
    exact ⟨rfl, h.steps, rfl⟩

/-! ### The listener -/

/-- The states without a listener. -/
def SessionState.resting : SessionState → Bool
  | .uninitialized | .idle => true
  | _ => false

/-- An active session does not rest. -/
theorem SessionState.resting_of_active {q : SessionState} (h : q.active = true) :
    q.resting = false := by
  cases q <;> first | rfl | cases h

/-- A session that rests is not active. -/
theorem SessionState.inactive_of_resting {q : SessionState} (h : q.resting = true) :
    q.active = false := by
  cases q <;> first | rfl | cases h

/-- The listener is attached just when the session is neither uninitialized nor idle. -/
def Attached (x : System × Controller) : Prop := x.2.listener = !x.1.session.state.resting

/-- It can be seen from the state. -/
instance : DecidablePred Attached := fun _ => inferInstanceAs (Decidable (_ = _))

/-- The calls that can leave a state without a listener and set none. -/
def Action.unrests : Action → Bool
  | .suspend | .callbackReturn => true
  | _ => false

/-- The input is a call that satisfies `p`. -/
def DeviceInput.calls (p : Action → Bool) : DeviceInput → Bool
  | .call i _ => p i.action
  | _ => false

/-- A session without a listener is not suspended, and its callback does not return. -/
def KeepsListener (e : DeviceEvent) : Prop :=
  e.input.calls Action.unrests = true → e.pre.1.session.state.resting = false

/-- It can be seen from the step. -/
instance : DecidablePred KeepsListener := fun _ => inferInstanceAs (Decidable (_ → _))

/-- Listening is no state to rest in. -/
theorem resting_listen {env : Env} {c c' : Ctx} (h : Unstashed P (c.listen env) c') :
    c'.session.state.resting = false := by
  obtain ⟨_, _, _, _, _, _, _, rfl, -, -⟩ := h.frame
  rfl

/-- **Only the calls that are named leave the states to rest in without setting a
listener**, and they do so always. -/
theorem Served.resting_after {i : Input} {c c' : Ctx} (h : Served P i c c')
    (hno : i.action.setsUp = false) :
    c'.session.state.resting = (!i.action.unrests && c.session.state.resting) := by
  have hboth {q : SessionState} (hstate : c.session.state = q) (hq : q.resting = false)
      (hafter : c'.session.state.resting = false) :
      c'.session.state.resting = (!i.action.unrests && c.session.state.resting) := by
    rw [hafter, hstate, hq, Bool.and_false]
  have hsame (haction : i.action.unrests = false) (hstate : c'.session.state = c.session.state) :
      c'.session.state.resting = (!i.action.unrests && c.session.state.resting) := by
    rw [haction, hstate]
    rfl
  cases h with
  | ignored hevent =>
    refine hsame ?_ rfl
    cases ha : i.action <;> rw [ha] at hevent <;> first | rfl | cases hevent
  | abandoned _ hstate _ h =>
    exact hboth rfl (SessionState.resting_of_active hstate) (resting_listen h)
  | rearmed _ hstate =>
    refine hboth hstate rfl ?_
    rw [hstate]
    rfl
  | ineligible _ hstate _ _ _ _ _ h | unkeyed _ hstate _ _ _ _ _ h | late _ hstate _ _ _ h
  | undelivered _ hstate _ _ _ h => exact hboth hstate rfl (resting_listen h)
  | bootstrapped _ hstate _ _ _ _ _ _ h =>
    obtain ⟨_, _, _, rfl, -⟩ := h.frame
    exact hboth hstate rfl rfl
  | warmed _ hstate | responded _ hstate | transmitted _ hstate => exact hboth hstate rfl rfl
  | finalReceived _ hstate h =>
    obtain ⟨_, _, _, _, _, _, _, rfl, -, -⟩ := h.frame
    exact hboth hstate rfl rfl
  | delivered h =>
    cases h with
    | mk _ hstate =>
      refine hboth hstate rfl ?_
      dsimp only [SessionMembers.evaluated]
      rw [hstate]
      rfl
  | callbackReturned haction h =>
    rw [haction]
    exact resting_listen h
  | suspended haction =>
    rw [haction]
    rfl
  | refused haction =>
    refine hsame ?_ rfl
    rcases haction with ha | ⟨n, ha⟩ <;> rw [ha] <;> rfl
  | resumed _ hstate h | anchored _ hstate _ _ h =>
    have hafter := resting_listen h
    exact hboth hstate rfl hafter
  | anchorFailed _ hstate =>
    refine hboth hstate rfl ?_
    dsimp only
    rw [hstate]
    rfl
  | stopped haction | startFailed haction | unconfigured haction | started haction =>
    rw [haction] at hno
    cases hno

/-- The calls of a step are those that the session serves. -/
theorem Serves.calls {e : DeviceEvent} {i : Input} {configured : Bool} {r : Radio} {c : Ctx}
    (h : Serves P cperr e i configured r c) {p : Action → Bool}
    (hp : ∀ a : Action, a.isRadioEvent = true → p a = false) : e.input.calls p = p i.action := by
  cases hevent : i.action.isRadioEvent with
  | true =>
    obtain ⟨-, v, env, hv, -⟩ := h.reported hevent
    rw [hv, hp _ hevent]
    rfl
  | false =>
    obtain ⟨env, hcall⟩ := h.called hevent
    rw [hcall]
    rfl

/-- A radio event does not end the rest. -/
theorem Action.unrests_of_isRadioEvent (a : Action) (h : a.isRadioEvent = true) :
    a.unrests = false := by
  cases a <;> first | rfl | cases h

/-- A step ends the rest if its call does. -/
theorem Serves.unrests {e : DeviceEvent} {i : Input} {configured : Bool} {r : Radio} {c : Ctx}
    (h : Serves P cperr e i configured r c) : e.input.calls Action.unrests = i.action.unrests :=
  h.calls Action.unrests_of_isRadioEvent

/-- The listener after a step that sets none. -/
theorem Serves.setup {e : DeviceEvent} {i : Input} {configured : Bool} {r : Radio} {c : Ctx}
    (h : Serves P cperr e i configured r c) (hno : i.action.setsUp = false) :
    setupOf e.post.2 = setupOf e.pre.2 := by
  obtain ⟨os, hos, hkeeps⟩ := h.served.keepsSetup hno
  rw [h.post]
  dsimp only
  rw [hos]
  exact setup_deviceAfter configured _ hkeeps

/-- What is put out after the listener is set sets neither it nor the PHY. -/
theorem keepsSetup_listenOutputs (env : Env) {accepted : List Output}
    (h : ∀ o ∈ accepted, ∃ mhr prePoll, o = .acceptedPrePoll mhr prePoll) :
    (listenOutputs env ++ accepted ++ [Output.returned (.ok ())]).all Output.keepsSetup = true := by
  have haccepted : accepted.all Output.keepsSetup = true := List.all_eq_true.2 fun o ho => by
    obtain ⟨mhr, prePoll, rfl⟩ := h o ho
    rfl
  rw [List.all_append, List.all_append, haccepted]
  rfl

/-- `start` attaches the session if it succeeds, `stop` detaches it. -/
theorem Serves.attached_of_setsUp {e : DeviceEvent} {i : Input} {configured : Bool} {r : Radio}
    {c : Ctx} (h : Serves P cperr e i configured r c) (hset : i.action.setsUp = true)
    (hpre : Attached e.pre) : Attached e.post := by
  have hpre : { e.pre.2 with radio := r }.listener = !e.pre.1.session.state.resting := hpre
  rw [h.post, Attached]
  dsimp only
  cases h.served.setUp hset with
  | stopped hstate hout =>
    rw [hstate, hout]
    rfl
  | underived _ hstate hout =>
    rw [hstate, hout]
    exact hpre
  | unconfigured _ hstate hout =>
    rw [hstate, hout]
    exact (Controller.listener_configurePhy configured _ _).trans hpre
  | started _ hphy hstate haccepted hout =>
    rw [hstate, hout, device_append]
    exact congrArg Prod.fst (setup_deviceAfter configured _ (keepsSetup_listenOutputs _ haccepted))

/-- **A step keeps the listener where it belongs exactly if no session without one is
suspended or has its callback return.** -/
theorem attached_post_iff {e : DeviceEvent} (he : (deviceMachine P cperr).Steps e)
    (hpre : Attached e.pre) : Attached e.post ↔ KeepsListener e := by
  rcases deviceMachine_steps he with ⟨probed, initialised, hinput, hpost⟩ |
    ⟨v, env, hinput, -, hpost⟩ | ⟨i, configured, r, c, hserves⟩
  · refine iff_of_true ?_ fun h => ?_
    · rw [hpost]
      cases probed <;> cases initialised <;> exact hpre
    · rw [hinput] at h
      cases h
  · refine iff_of_true ?_ fun h => ?_
    · rw [hpost]
      exact hpre
    · rw [hinput] at h
      cases h
  · cases hset : i.action.setsUp with
    | false =>
      have hlistener : e.post.2.listener = e.pre.2.listener :=
        congrArg Prod.fst (hserves.setup hset)
      have hafter := hserves.served.resting_after hset
      have hstate : e.post.1.session.state = c.session.state := by rw [hserves.post]
      rw [Attached, KeepsListener, hlistener, hpre, hstate, hafter, hserves.unrests,
        Bool.not_inj_iff]
      change e.pre.1.session.state.resting =
        (!i.action.unrests && e.pre.1.session.state.resting) ↔ _
      cases i.action.unrests <;> cases e.pre.1.session.state.resting <;> decide
    | true =>
      have hno : e.input.calls Action.unrests = false := by
        rw [hserves.unrests]
        cases ha : i.action <;> rw [ha] at hset <;> first | rfl | cases hset
      exact iff_of_true (hserves.attached_of_setsUp hset hpre) fun h =>
        absurd (hno.symm.trans h) Bool.false_ne_true

/-! ### The device does what the session expects -/

/-- The commands drive the device as `radioAfter` says. -/
theorem radio_deviceAfter {os : List Output} (h : os.all Output.keepsSetup = true) :
    (deviceAfter configured d os).radio = radioAfter d.radio os := by
  induction os generalizing d with
  | nil => rfl
  | cons o os ih =>
    rw [List.all_cons, Bool.and_eq_true] at h
    cases o with
    | command c =>
      have hradio : (d.command configured c).radio = d.radio.command c := by
        refine d.radio_command configured c fun config hc => ?_
        rw [hc] at h
        cases h.1
      rw [device_command, after_command, ih _ h.2, hradio]
    | _ => exact ih d h.2

/-- **What is served on the controller is served with the abstract device.** -/
theorem Serves.radio_after {e : DeviceEvent} {i : Input} {r : Radio} {c : Ctx}
    (h : Serves P cperr e i configured r c) : e.post.2.radio = radioAfter r c.outputs := by
  have hphy (d : Controller) (config : TransceiverConfig) :
      (d.forceReceiverOff.configurePhy configured config).2.radio = .off :=
    Controller.radio_command configured d.forceReceiverOff (.configurePhy config)
      fun _ _ => Or.inr rfl
  rw [h.post]
  dsimp only
  cases hset : i.action.setsUp with
  | false =>
    obtain ⟨os, hos, hkeeps⟩ := h.served.keepsSetup hset
    rw [hos]
    exact radio_deviceAfter configured _ hkeeps
  | true =>
    cases h.served.setUp hset with
    | stopped _ hout | underived _ _ hout =>
      rw [hout]
      rfl
    | unconfigured _ _ hout =>
      rw [hout]
      exact hphy _ _
    | started _ _ _ haccepted hout =>
      rw [hout, device_append, after_append,
        radio_deviceAfter configured _ (keepsSetup_listenOutputs _ haccepted)]
      congr 1
      exact hphy _ _

/-- What is served is a step on the abstract radio, if the driver reports what that can. -/
theorem Serves.radioMachine_steps {e : DeviceEvent} {i : Input} {r : Radio} {c : Ctx}
    (h : Serves P cperr e i configured r c) :
    (radioMachine P).Steps ⟨(e.pre.1, e.pre.2.radio), i, e.output, (e.post.1, e.post.2.radio)⟩ := by
  have hsteps : System.step P e.pre.1 i = some (e.post.1, e.output) := h.steps
  have hradio : radioStep P (e.pre.1, e.pre.2.radio) i =
      some ((e.post.1, radioAfter r e.output), e.output) := by
    unfold radioStep
    rw [h.radio, hsteps]
  rw [h.output, ← h.radio_after configured] at hradio
  rw [h.output]
  exact hradio

/-- A session without a listener has its device off. -/
def RestsOff (x : System × Controller) : Prop :=
  x.1.session.state.resting = true → x.2.radio = .off

/-- A radio that is off reports nothing. -/
theorem radioEvent_off {a : Action} {r : Radio} (h : radioEvent .off a = some r) :
    a.isRadioEvent = false ∧ r = .off := by
  cases a <;> first | (cases h; exact ⟨rfl, rfl⟩) | (simp [radioEvent] at h)

/-- A session at rest refuses what does not set it up. -/
theorem Served.refused_of_resting {i : Input} {c c' : Ctx} (h : Served P i c c')
    (hrest : c.session.state.resting = true) (hevent : i.action.isRadioEvent = false)
    (hset : i.action.setsUp = false) (hno : i.action.unrests = false) :
    c'.outputs = c.outputs ++ [.returned (.error .invalidState)] := by
  have hin {q : SessionState} (hstate : c.session.state = q) (hq : q.resting = false) :
      c'.outputs = c.outputs ++ [.returned (.error .invalidState)] := by
    rw [hstate, hq] at hrest
    cases hrest
  cases h with
  | refused => rfl
  | ignored hyes | abandoned hyes => exact absurd (hevent.symm.trans hyes) Bool.false_ne_true
  | delivered hd => exact absurd (hevent.symm.trans hd.isRadioEvent) Bool.false_ne_true
  | rearmed _ hstate | ineligible _ hstate | unkeyed _ hstate | bootstrapped _ hstate
  | warmed _ hstate | responded _ hstate | late _ hstate | transmitted _ hstate
  | finalReceived _ hstate | undelivered _ hstate | resumed _ hstate | anchorFailed _ hstate
  | anchored _ hstate =>
    have hactive := hin hstate rfl
    exact hactive
  | callbackReturned haction | suspended haction =>
    rw [haction] at hno
    cases hno
  | stopped haction | startFailed haction | unconfigured haction | started haction =>
    rw [haction] at hset
    cases hset

/-- **The step lemma** for devices that are off while the session rests. -/
theorem restsOff_step {e : DeviceEvent} (he : (deviceMachine P cperr).Steps e)
    (hpre : RestsOff e.pre) : RestsOff e.post := by
  rcases deviceMachine_steps he with ⟨probed, initialised, -, hpost⟩ | ⟨v, env, -, -, hpost⟩ |
    ⟨i, configured, r, c, hserves⟩
  · rw [hpost]
    intro _
    cases probed <;> cases initialised <;> rfl
  · rw [hpost]
    exact fun _ => rfl
  intro hrest
  have hafter : e.post.1.session.state = c.session.state := by rw [hserves.post]
  rw [hserves.radio_after configured]
  rw [hafter] at hrest
  cases hset : i.action.setsUp with
  | true =>
    cases hserves.served.setUp hset with
    | stopped _ hout | underived _ _ hout | unconfigured _ _ hout =>
      rw [hout]
      rfl
    | started _ _ hstate =>
      rw [hstate] at hrest
      cases hrest
  | false =>
    rw [hserves.served.resting_after hset, Bool.and_eq_true, Bool.not_eq_true'] at hrest
    obtain ⟨hno, hbefore⟩ := hrest
    have hbefore : e.pre.1.session.state.resting = true := hbefore
    have hradio := hserves.radio
    rw [hpre hbefore] at hradio
    obtain ⟨hevent, rfl⟩ := radioEvent_off hradio
    rw [hserves.served.refused_of_resting hbefore hevent hset hno]
    rfl

/-- An event finds the listener attached. -/
theorem listener_of_event {e : DeviceEvent} (he : (deviceMachine P cperr).Steps e)
    (hattached : Attached e.pre) (hoff : RestsOff e.pre) {v : DriverEvent} {env : Env}
    (hinput : e.input = .event v env) : e.pre.2.listener = true := by
  obtain ⟨⟨x, d⟩, input, output, post⟩ := e
  obtain rfl : input = .event v env := hinput
  have h : deviceStep P cperr (x, d) (.event v env) = some (post, output) := he
  unfold deviceStep at h
  dsimp only at h
  split_ifs at h with hblocked
  rw [Bool.or_eq_true, Bool.not_eq_true', not_or, Bool.not_eq_false] at hblocked
  have hon : d.radio ≠ .off := by
    intro hradio
    have hpossible := hblocked.2
    rw [hradio] at hpossible
    cases v <;> cases hpossible
  have hrest : x.session.state.resting = false :=
    Bool.eq_false_iff.2 fun hrest => hon (hoff hrest)
  exact hattached.trans (congrArg not hrest)

/-- **The listener is attached just where it should be, all along a run, exactly if
no session that is uninitialized or idle is suspended or has its callback return**;
and then no event is lost. -/
theorem listener_iff {filter : RangeConsensusFilter} {tr : List DeviceEvent}
    {t : System × Controller} (h : (deviceMachine P cperr).Run (deviceInitial filter) tr t) :
    ((∀ e ∈ tr, Attached e.post) ↔ ∀ e ∈ tr, KeepsListener e) ∧
      ((∀ e ∈ tr, KeepsListener e) → ∀ e ∈ tr, ∀ v env, e.input = .event v env →
        e.pre.2.listener = true) := by
  refine ⟨h.invariant_iff (P := Attached) rfl fun e he hpre => attached_post_iff he hpre,
    fun hkeeps => ?_⟩
  refine h.forall_step (G := KeepsListener) (P := fun x => Attached x ∧ RestsOff x) hkeeps
    ⟨rfl, fun _ => rfl⟩ (fun e he hgood hpre => ⟨(attached_post_iff he hpre.1).2 hgood,
      restsOff_step he hpre.2⟩) fun e he _ hpre v env hinput => ?_
  exact listener_of_event he hpre.1 hpre.2 hinput

/-- The application initializes the device and starts a session, which receives its
first PrePoll. -/
def sampleDevice : List DeviceInput :=
  [.initializeDevice true true, .call (sampleStart sampleParams {}) true,
    .event (.rxSuccess {}) (samplePrePoll 1 { pollStsIndex := 1 }).env]

/-- The hypotheses of `listener_iff` are satisfiable. -/
theorem listener_iff_sample : ∃ tr t,
    (deviceMachine .sample 1).Run (deviceInitial {}) tr t ∧ tr.map (·.input) = sampleDevice ∧
      (∀ e ∈ tr, Attached e.post) ∧
      ∀ e ∈ tr, ∀ v env, e.input = .event v env → e.pre.2.listener = true := by
  obtain ⟨tr, t, hrun, hin, h⟩ := Machine.exists_run_of_exec (M := deviceMachine .sample 1)
    (s := deviceInitial {}) (l := sampleDevice)
    (p := fun tr _ => tr.all (decide <| KeepsListener ·)) (by decide +kernel)
  have hkeeps (e) (he : e ∈ tr) : KeepsListener e := of_decide_eq_true (List.all_eq_true.1 h e he)
  exact ⟨tr, t, hrun, hin, (listener_iff hrun).1.2 hkeeps, (listener_iff hrun).2 hkeeps⟩

/-- A session that is stopped, suspended and resumed listens, and hears nothing. -/
def deafSession : List DeviceInput :=
  [.initializeDevice true true, .call (sampleStart sampleParams {}) true, .call ⟨.stop, {}⟩ true,
    .call ⟨.suspend, {}⟩ true, .call ⟨.resume, {}⟩ true, .event .rxTimeout {}]

/-- Such a session listens with the radio off, and is not attached. -/
theorem deafSession_not_attached : ∃ tr t,
    (deviceMachine .sample 1).Run (deviceInitial {}) tr t ∧ tr.map (·.input) = deafSession ∧
      t.1.session.state = .prePollListening ∧ t.2.radio = .off ∧ ¬ Attached t := by
  obtain ⟨tr, t, hrun, hin, h⟩ := Machine.exists_run_of_exec (M := deviceMachine .sample 1)
    (s := deviceInitial {}) (l := deafSession) (p := fun _ t => decide
      (t.1.session.state = .prePollListening ∧ t.2.radio = .off ∧
        ¬ Attached t)) (by decide +kernel)
  exact ⟨tr, t, hrun, hin, of_decide_eq_true h⟩

/-! ### Refinement -/

/-- The device is reset. -/
def DeviceInput.resets : DeviceInput → Bool
  | .initializeDevice .. => true
  | _ => false

/-- The device is reset only while it is off. -/
def ResetsOff (e : DeviceEvent) : Prop := e.input.resets = true → e.pre.2.radio = .off

/-- It can be seen from the step. -/
instance : DecidablePred ResetsOff := fun _ => inferInstanceAs (Decidable (_ → _))

/-- What the session sees and does in a step. -/
def observed (cperr : UInt32) (e : DeviceEvent) : List (Action × List Output) :=
  match e.input with
  | .initializeDevice .. => []
  | .call i _ => [(i.action, e.output)]
  | .event v _ => (v.reported cperr e.pre.2).toList.map fun a => (a, e.output)

/-- What is observed of a step that serves an input. -/
theorem Serves.observed {e : DeviceEvent} {i : Input} {r : Radio} {c : Ctx}
    (h : Serves P cperr e i configured r c) :
    Session.observed cperr e = [(i.action, e.output)] := by
  cases hevent : i.action.isRadioEvent with
  | true =>
    obtain ⟨-, v, env, hinput, hreported⟩ := h.reported hevent
    rw [Session.observed, hinput]
    dsimp only
    rw [hreported]
    rfl
  | false =>
    obtain ⟨env, hinput⟩ := h.called hevent
    rw [Session.observed, hinput]

/-- **The session with its controller and the device refines the session with the
abstract device**: a run that keeps the listener and resets the device only while it
is off is a run of `radioMachine`, step by step, in which the session is told and does
the same. -/
theorem device_refines_radio {filter : RangeConsensusFilter} {tr : List DeviceEvent}
    {t : System × Controller} (h : (deviceMachine P cperr).Run (deviceInitial filter) tr t)
    (hkeeps : ∀ e ∈ tr, KeepsListener e) (hresets : ∀ e ∈ tr, ResetsOff e) :
    ∃ tr', (radioMachine P).Run (System.initial filter, .off) tr' (t.1, t.2.radio) ∧
      tr'.map (fun e => (e.input.action, e.output)) = tr.flatMap (observed cperr) := by
  suffices hstep : ∀ e y, (deviceMachine P cperr).Steps e → KeepsListener e ∧ ResetsOff e →
      y = (e.pre.1, e.pre.2.radio) ∧ Attached e.pre ∧ RestsOff e.pre →
      ∃ tr' y', (radioMachine P).Run y tr' y' ∧
        tr'.flatMap (fun e => [(e.input.action, e.output)]) = observed cperr e ∧
        y' = (e.post.1, e.post.2.radio) ∧ Attached e.post ∧ RestsOff e.post by
    obtain ⟨tr', t', hrun, hobs, rfl, -⟩ := h.refine
      (R := fun x y => y = (x.1, x.2.radio) ∧ Attached x ∧ RestsOff x)
      (fun e he => ⟨hkeeps e he, hresets e he⟩) ⟨rfl, rfl, fun _ => rfl⟩ hstep
    exact ⟨tr', hrun, by rw [List.map_eq_flatMap, hobs]⟩
  rintro e y he ⟨hkeeps, hresets⟩ ⟨rfl, hattached, hoff⟩
  have hpost := And.intro ((attached_post_iff he hattached).2 hkeeps) (restsOff_step he hoff)
  rcases deviceMachine_steps he with ⟨probed, initialised, hinput, hp⟩ |
    ⟨v, env, hinput, hlistener, -⟩ | ⟨i, configured, r, c, hserves⟩
  · refine ⟨[], _, rfl, ?_, ?_, hpost⟩
    · rw [observed, hinput]
      rfl
    · rw [hp, hresets (by rw [hinput]; rfl)]
      cases probed <;> cases initialised <;> rfl
  · exact absurd (hlistener.symm.trans (listener_of_event he hattached hoff hinput))
      Bool.false_ne_true
  · refine ⟨[_], _, ⟨rfl, hserves.radioMachine_steps configured, rfl⟩, ?_, rfl, hpost⟩
    exact (hserves.observed configured).symm

/-- The hypotheses of `device_refines_radio` are satisfiable. -/
theorem device_refines_radio_sample : ∃ tr t tr',
    (deviceMachine .sample 1).Run (deviceInitial {}) tr t ∧ tr.map (·.input) = sampleDevice ∧
      (radioMachine .sample).Run (System.initial {}, .off) tr' (t.1, t.2.radio) ∧
      tr'.map (fun e => (e.input.action, e.output)) = tr.flatMap (observed 1) := by
  obtain ⟨tr, t, hrun, hin, h⟩ := Machine.exists_run_of_exec (M := deviceMachine .sample 1)
    (s := deviceInitial {}) (l := sampleDevice)
    (p := fun tr _ => tr.all fun e => decide (KeepsListener e ∧ ResetsOff e)) (by decide +kernel)
  have hgood (e) (he : e ∈ tr) : KeepsListener e ∧ ResetsOff e :=
    of_decide_eq_true (List.all_eq_true.1 h e he)
  obtain ⟨tr', hrun', hobs⟩ := device_refines_radio hrun (fun e he => (hgood e he).1)
    fun e he => (hgood e he).2
  exact ⟨tr, t, tr', hrun, hin, hrun', hobs⟩

end Session
end AliroUwb
