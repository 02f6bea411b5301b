/-
# Where a distance comes from

`Session.Exchange` traces a delivered result back to the steps of the session, and
`Session.Registers` says what the registers of the device hold in each state.
Together they trace it back to the device: the time stamps that a distance is computed
from belong to frames that were received or sent while the STS registers held the slot
keys of the session, for the STS index which the authentic FinalData names
(`range_provenance`).
-/

import AliroUwb.Session.Exchange
import AliroUwb.Session.Registers

namespace AliroUwb
namespace Session

open Stepwise Crypto Protocol Ranging Transceiver

variable {P : Platform} {cperr : UInt32}

/-! ### The steps of an exchange -/

/-- What a leg keeps: the exchange that is armed, the configuration, and from the Poll
on its time. -/
structure KeepsLeg (e : Event) : Prop where
  config : SameConfig e.pre.session e.post.session
  stsIndex : e.post.session.armedPollStsIndex = e.pre.session.armedPollStsIndex
  polled : ∀ event, e.input.action = .rxSuccess event → e.pre.session.state = .awaitingPoll →
    e.post.session.measurement.pollRxTimestampDtu = event.rxTimestampDtu
  pollTime : e.pre.session.state ≠ .awaitingPoll →
    e.post.session.measurement.pollRxTimestampDtu = e.pre.session.measurement.pollRxTimestampDtu

/-- From one state of an exchange to the next. -/
theorem keepsLeg_of_steps {e : Event} (he : (machine P).Steps e)
    (hevent : e.input.action.isRadioEvent = true) (hpre : e.pre.session.state.ranges = true)
    (hpost : e.post.session.state.inExchange = true)
    (hne : e.post.session.state ≠ e.pre.session.state) : KeepsLeg e := by
  obtain ⟨-, c, hc, hp, -⟩ := served_of_steps he
  have hconfig := hc.sameConfig (Action.configures_of_isRadioEvent hevent)
  have hlisten {c₁ : Ctx} (h : Unstashed P (c₁.listen e.input.env) c) : False := by
    rw [hp] at hpost
    dsimp only at hpost
    rw [(listens_unstashed h).1] at hpost
    cases hpost
  rw [hp] at hne
  suffices h : c.session.armedPollStsIndex = e.pre.session.armedPollStsIndex ∧
      (∀ event, e.input.action = .rxSuccess event → e.pre.session.state = .awaitingPoll →
        c.session.measurement.pollRxTimestampDtu = event.rxTimestampDtu) ∧
      (e.pre.session.state ≠ .awaitingPoll → c.session.measurement.pollRxTimestampDtu =
        e.pre.session.measurement.pollRxTimestampDtu) by
    refine ⟨?_, ?_, ?_, ?_⟩ <;> rw [hp]
    exacts [hconfig, h.1, h.2.1, h.2.2]
  cases hc with
  | ignored | refused => exact absurd rfl hne
  | abandoned _ _ _ h | ineligible _ _ _ _ _ _ _ h | unkeyed _ _ _ _ _ _ _ h | late _ _ _ _ _ h
  | undelivered _ _ _ _ _ h | callbackReturned _ h => exact (hlisten h).elim
  | rearmed _ hstate | bootstrapped _ hstate | warmed _ hstate =>
    rw [show e.pre.session.state = _ from hstate] at hpre
    cases hpre
  | responded haction hstate =>
    refine ⟨rfl, fun event h _ => ?_, fun h => absurd hstate h⟩
    obtain rfl := Action.rxSuccess.inj (haction.symm.trans h)
    rfl
  | transmitted haction hstate =>
    exact ⟨rfl, fun event h => (by rw [haction] at h; cases h), fun _ => rfl⟩
  | finalReceived haction hstate h =>
    obtain ⟨_, _, _, _, _, _, _, rfl, -, -⟩ := h.frame
    have hst : e.pre.session.state = .awaitingFinal := hstate
    exact ⟨rfl, fun event _ h => (by rw [hst] at h; cases h), fun _ => rfl⟩
  | delivered hd =>
    have hst : e.pre.session.state = .awaitingFinalData := hd.state_before
    rw [hst] at hpre
    cases hpre
  | stopped ha | suspended ha | resumed ha | anchorFailed ha | anchored ha | startFailed ha
  | unconfigured ha | started ha =>
    rw [ha] at hevent
    cases hevent

/-- **What has happened since the session was last entered**, at some step after the first,
has brought it where it is. -/
theorem progress_of_run {x t : System} {e₀ d : Event} {tr : List Event}
    (h : (machine P).Run x (e₀ :: (tr ++ [d])) t) (hent : enters e₀ = true)
    (hno : ∀ e ∈ tr, e.input.action.configures = false)
    (hd : d.input.action.configures = false) (hcb : d.pre.inCallback = false) :
    ∃ mid, mid <:+ tr ∧ (∀ e ∈ mid, delivers e = false) ∧
      (d.pre.session.state.active = true → Progress d.pre.session (mid.filter changes)) := by
  obtain ⟨rfl, he₀, hrun⟩ := h
  have hwindow := hrun.observe (G := fun _ e => e.input.action.configures = false)
    (J := fun w y => y.inCallback = false → Window w y)
    (Q := fun w e => e.pre.inCallback = false → Window w e.pre)
    (Machine.since enters) (g := [e₀])
    (fun tr₁ e tr₂ htr => (List.forall_mem_append.2
      ⟨hno, fun e he => List.mem_singleton.1 he ▸ hd⟩) e (by rw [htr]; simp))
    (window_of_enters he₀ hent) (fun _ _ he hgood hJ => window_step he hgood hJ)
    (fun _ _ _ _ hJ => hJ) tr d [] rfl hcb
  obtain ⟨entry, mid, hw, -, -, hprogress⟩ := hwindow.entry
  have hsuffix := Machine.foldl_since enters [e₀] tr
  have hundelivered := hwindow.undelivered
  rw [hw] at hsuffix hundelivered
  refine ⟨mid, ?_, fun e he => hundelivered e (List.mem_cons_of_mem entry he), hprogress⟩
  rcases List.suffix_cons_iff.1 hsuffix with heq | hsub
  · exact (List.cons.inj heq).2 ▸ List.suffix_rfl
  · exact (List.suffix_cons entry mid).trans hsub

/-- **A result is backed by an exchange since the session was last entered.** -/
theorem exchange_of_range {x t : System} {e₀ d : Event} {tr : List Event}
    (h : (machine P).Run x (e₀ :: (tr ++ [d])) t) (hent : enters e₀ = true)
    (hno : ∀ e ∈ tr, e.input.action.configures = false) {callback : ℕ} {result : RangingResult}
    (hr : .range callback result ∈ d.output) :
    ∃ m mid, mid <:+ tr ∧ (∀ e ∈ mid, delivers e = false) ∧ (machine P).Run m mid d.pre ∧
      Backed P mid d result := by
  obtain ⟨-, -, hrun⟩ := id h
  obtain ⟨hbefore, hd, -⟩ := hrun.at_step
  obtain ⟨_, hdelivered, -, -⟩ := delivered_of_range hd hr
  obtain ⟨mid, hmid, hundelivered, hprogress⟩ := progress_of_run h hent hno
    (Action.configures_of_isRadioEvent hdelivered.isRadioEvent) (inCallback_of_delivered hd hr)
  obtain ⟨pre, rfl⟩ := hmid
  obtain ⟨m, -, hrunMid⟩ := Machine.run_append.1 hbefore
  exact ⟨m, mid, List.suffix_append pre mid, hundelivered, hrunMid,
    backed_of_progress hd hr hprogress⟩

/-- The legs of an exchange follow each other, as far as the session goes. -/
theorem legs_of_run {m : System} {mid l : List Event} {d : Event}
    (h : (machine P).Run m mid d.pre) (hl : mid.filter changes = l) : (machine P).Run m l d.pre :=
  hl ▸ h.filter fun _ _ hno => not_not.1 (of_decide_eq_false hno)

/-- A Poll, a Response and a Final of the exchange of `s`, with what they have in common
with it. -/
structure ExchangeOf (s : SessionMembers) (poll answer final : Event)
    (pollEvent finalEvent : RxSuccessEvent) : Prop where
  polled : PolledBy s poll pollEvent
  answered : AnsweredBy s answer
  finished : FinishedBy s final finalEvent
  config : ∀ e ∈ [poll, answer, final], SameConfig e.pre.session s
  stsIndex : ∀ e ∈ [poll, answer, final], e.pre.session.armedPollStsIndex = s.armedPollStsIndex
  pollTime : answer.pre.session.measurement.pollRxTimestampDtu =
    s.measurement.pollRxTimestampDtu

/-- **The legs of a run belong to one exchange.** -/
theorem exchangeOf_of_run {m x : System} {poll answer final : Event}
    {pollEvent finalEvent : RxSuccessEvent} (h : (machine P).Run m [poll, answer, final] x)
    (hpoll : PolledBy x.session poll pollEvent) (hanswer : AnsweredBy x.session answer)
    (hfinal : FinishedBy x.session final finalEvent) :
    ExchangeOf x.session poll answer final pollEvent finalEvent := by
  obtain ⟨-, hs₁, h₂, hs₂, h₃, hs₃, rfl⟩ := h
  have h₁ := keepsLeg_of_steps hs₁ (by rw [hpoll.action]; rfl) (by rw [hpoll.pre]; rfl)
    (by rw [hpoll.post]; rfl) (by rw [hpoll.pre, hpoll.post]; decide)
  have h₄ := keepsLeg_of_steps hs₂ (by rw [hanswer.action]; rfl) (by rw [hanswer.pre]; rfl)
    (by rw [hanswer.post]; rfl) (by rw [hanswer.pre, hanswer.post]; decide)
  have h₅ := keepsLeg_of_steps hs₃ (by rw [hfinal.action]; rfl) (by rw [hfinal.pre]; rfl)
    (by rw [hfinal.post]; rfl) (by rw [hfinal.pre, hfinal.post]; decide)
  have hconfig₃ := h₅.config
  have hconfig₂ := h₄.config.trans (h₃ ▸ hconfig₃)
  have hindex₃ := h₅.stsIndex
  have hindex₂ : final.post.session.armedPollStsIndex = answer.pre.session.armedPollStsIndex :=
    hindex₃.trans (by rw [h₃, h₄.stsIndex])
  refine ⟨hpoll, hanswer, hfinal, ?_, ?_, ?_⟩
  · simp only [List.forall_mem_cons, List.not_mem_nil, false_implies, implies_true, and_true]
    exact ⟨h₁.config.trans (h₂ ▸ hconfig₂), hconfig₂, hconfig₃⟩
  · simp only [List.forall_mem_cons, List.not_mem_nil, false_implies, implies_true, and_true]
    exact ⟨(hindex₂.trans (by rw [h₂, h₁.stsIndex])).symm, hindex₂.symm, hindex₃.symm⟩
  · rw [h₂, h₁.polled _ hpoll.action hpoll.pre, hpoll.timestamp]

/-! ### The steps of the device -/

/-- When the session is told of a radio event, the driver has reported it. -/
theorem told_of_sessionEvent {e : DeviceEvent} (he : (deviceMachine P cperr).Steps e)
    {b : Event} (hb : sessionEvent cperr e = some b) (ha : b.input.action.isRadioEvent = true) :
    ∃ v env, e.input = .event v env ∧ v.told cperr e.pre.2 = b.input.action ∧
      b.input.env = { env with configurePhyError := e.pre.2.phyError true } := by
  obtain ⟨i, hi, rfl⟩ := Option.map_eq_some_iff.1 hb
  cases hinput : e.input with
  | initializeDevice =>
    rw [hinput] at hi
    cases hi
  | call j configured =>
    rw [hinput] at hi
    obtain rfl := Option.some.inj hi
    -- a call is no radio event
    have hevent : j.action.isRadioEvent = true := ha
    have he : deviceStep P cperr e.pre e.input = some (e.post, e.output) := he
    rw [hinput, deviceStep, if_pos hevent] at he
    cases he
  | event v env =>
    rw [hinput] at hi
    obtain ⟨a, hreported, rfl⟩ := Option.map_eq_some_iff.1 hi
    exact ⟨v, env, rfl, told_of_reported hreported, rfl⟩

/-- The session receives what the driver has reported. -/
theorem received_of_sessionEvent {e : DeviceEvent} (he : (deviceMachine P cperr).Steps e)
    {b : Event} (hb : sessionEvent cperr e = some b) {event : RxSuccessEvent}
    (ha : b.input.action = .rxSuccess event) : ∃ report env,
      e.input = .event (.rxSuccess report) env ∧ event = e.pre.2.rxSuccessEvent cperr report := by
  obtain ⟨v, env, hinput, htold, -⟩ := told_of_sessionEvent he hb (by rw [ha]; rfl)
  rw [ha] at htold
  cases v with
  | rxSuccess report => exact ⟨report, env, hinput, (Action.rxSuccess.inj htold).symm⟩
  | rxTimeout | rxError | txDone => cases htold

/-- The session is told of the transmissions that the driver has reported. -/
theorem sent_of_sessionEvent {e : DeviceEvent} (he : (deviceMachine P cperr).Steps e)
    {b : Event} (hb : sessionEvent cperr e = some b) (ha : b.input.action = .txComplete) :
    ∃ env, e.input = .event .txDone env ∧ b.input.env.txTimestampDtu = env.txTimestampDtu := by
  obtain ⟨v, env, hinput, htold, henv⟩ := told_of_sessionEvent he hb (by rw [ha]; rfl)
  rw [ha] at htold
  cases v with
  | txDone => exact ⟨env, hinput, by rw [henv]⟩
  | rxSuccess | rxTimeout | rxError => cases htold

/-- A step that puts something out is one of the session. -/
theorem exists_sessionEvent {e : DeviceEvent} (he : (deviceMachine P cperr).Steps e) {o : Output}
    (ho : o ∈ e.output) : ∃ b, sessionEvent cperr e = some b := by
  have he : deviceStep P cperr e.pre e.input = some (e.post, e.output) := he
  unfold sessionEvent
  cases hinput : e.input with
  | initializeDevice =>
    rw [hinput] at he
    rw [← (Prod.mk.inj (Option.some.inj he)).2] at ho
    cases ho
  | call => exact ⟨_, rfl⟩
  | event v env =>
    cases hreported : v.reported cperr e.pre.2 with
    | none =>
      rw [hinput, deviceStep] at he
      dsimp only at he
      split_ifs at he
      rw [reported_forceReceiverOff, hreported] at he
      rw [← (Prod.mk.inj (Option.some.inj he)).2] at ho
      cases ho
    | some a =>
      rw [DeviceInput.toSession, hreported]
      exact ⟨_, rfl⟩

/-! ### Provenance -/

/-- In this step a frame is received or sent under the slot keys of the STS index `i`:
the registers hold them. -/
structure RangedUnder (P : Platform) (s : SessionMembers) (i : StsIndex) (e : DeviceEvent) :
    Prop where
  holds : ∃ keys, value (slotKeysAt P s i) = .ok keys ∧ HoldsKeys e.pre.2 keys
  stsMode : e.pre.2.stsMode = .noDataSp3

/-- What the exchange of `s` has been on the device: a Poll that passes the STS check,
the Response, sent in its slot after the Poll, and a Final, each under its own keys. -/
structure Provenance (P : Platform) (cperr : UInt32) (s : SessionMembers)
    (poll answer final : DeviceEvent) (pollReport finalReport : RxReport) (txEnv : Env) :
    Prop where
  received : ∃ env, poll.input = .event (.rxSuccess pollReport) env
  pollKeys : RangedUnder P s s.armedPollStsIndex poll
  pollSts : 0 ≤ pollReport.qRet ∧ pollReport.st &&& cperr = 0
  pollTime : s.measurement.pollRxTimestampDtu = readRxTimestampDtu pollReport.rxTimestamp
  sent : answer.input = .event .txDone txEnv
  answerKeys :
    RangedUnder P s (s.armedPollStsIndex + 1 + s.nodeConfig.responderIndex.toUInt32) answer
  answerTime : answer.pre.2.dxTime = responseTime s &&& 0xFFFFFFFE
  finished : ∃ env, final.input = .event (.rxSuccess finalReport) env
  finalKeys :
    RangedUnder P s (s.armedPollStsIndex + 1 + s.params.responderCount.toUInt32) final

/-- A run from the construction on, as its owner should make it, leads to `x`. -/
def OrderlyTo (P : Platform) (cperr : UInt32) (filter : RangeConsensusFilter)
    (x : System × Controller) : Prop :=
  ∃ tr, (deviceMachine P cperr).Run (deviceInitial filter) tr x ∧
    ∀ e ∈ tr, Orderly e ∧ AnchorsSafely e

/-- The registers in a leg of an exchange. -/
theorem rangedUnder_of_run {filter : RangeConsensusFilter} {s : SessionMembers} {i : StsIndex}
    {e : DeviceEvent} (h : OrderlyTo P cperr filter e.pre)
    (hranges : e.pre.1.session.state.ranges = true) (hs : SameConfig e.pre.1.session s)
    (hi : legStsIndex e.pre.1.session = i) : RangedUnder P s i e := by
  obtain ⟨tr, hrun, hgood⟩ := h
  obtain ⟨keys, hkeys, hholds, hmode⟩ := registers_keyed hrun hgood hranges
  rw [← hs.slotKeysAt, hi] at hkeys
  exact ⟨⟨keys, hkeys, hholds⟩, hmode⟩

/-- **An exchange of the session is one of the device.** -/
theorem provenance_of_exchange {filter : RangeConsensusFilter} {s : SessionMembers}
    {poll answer final : DeviceEvent} {pollB answerB finalB : Event}
    {pollEvent finalEvent : RxSuccessEvent}
    (hat : ∀ e ∈ [poll, answer, final],
      (deviceMachine P cperr).Steps e ∧ OrderlyTo P cperr filter e.pre)
    (hpoll : sessionEvent cperr poll = some pollB)
    (hanswer : sessionEvent cperr answer = some answerB)
    (hfinal : sessionEvent cperr final = some finalB)
    (hx : ExchangeOf s pollB answerB finalB pollEvent finalEvent) :
    ∃ pollReport finalReport txEnv,
      Provenance P cperr s poll answer final pollReport finalReport txEnv ∧
      pollEvent.rxTimestampDtu = readRxTimestampDtu pollReport.rxTimestamp ∧
      answerB.input.env.txTimestampDtu = txEnv.txTimestampDtu ∧
      finalEvent.rxTimestampDtu = readRxTimestampDtu finalReport.rxTimestamp := by
  simp only [List.forall_mem_cons, List.not_mem_nil, false_implies, implies_true,
    and_true] at hat
  obtain ⟨⟨hs₁, hto₁⟩, ⟨hs₂, hto₂⟩, hs₃, hto₃⟩ := hat
  obtain ⟨pollReport, env₁, hinput₁, rfl⟩ := received_of_sessionEvent hs₁ hpoll hx.polled.action
  obtain ⟨txEnv, hinput₂, htx⟩ := sent_of_sessionEvent hs₂ hanswer hx.answered.action
  obtain ⟨finalReport, env₃, hinput₃, rfl⟩ :=
    received_of_sessionEvent hs₃ hfinal hx.finished.action
  obtain ⟨_, _, _, _, -, rfl⟩ := serves_of_sessionEvent hs₁ hpoll
  obtain ⟨_, _, _, _, -, rfl⟩ := serves_of_sessionEvent hs₂ hanswer
  obtain ⟨_, _, _, _, -, rfl⟩ := serves_of_sessionEvent hs₃ hfinal
  have hconfig := hx.config
  have hindex := hx.stsIndex
  simp only [List.forall_mem_cons, List.not_mem_nil, false_implies, implies_true,
    and_true] at hconfig hindex
  obtain ⟨hconfig₁, hconfig₂, hconfig₃⟩ := hconfig
  obtain ⟨hindex₁, hindex₂, hindex₃⟩ := hindex
  have hstate₁ : poll.pre.1.session.state = .awaitingPoll := hx.polled.pre
  have hstate₂ : answer.pre.1.session.state = .transmittingResponse := hx.answered.pre
  have hstate₃ : final.pre.1.session.state = .awaitingFinal := hx.finished.pre
  refine ⟨pollReport, finalReport, txEnv, ?_, rfl, htx, rfl⟩
  have hsts : (decide (0 ≤ pollReport.qRet) && pollReport.st &&& cperr == 0) = true :=
    hx.polled.sts
  rw [Bool.and_eq_true, decide_eq_true_iff, beq_iff_eq] at hsts
  constructor
  case received => exact ⟨env₁, hinput₁⟩
  case pollSts => exact hsts
  case pollTime => exact hx.polled.timestamp
  case sent => exact hinput₂
  case finished => exact ⟨env₃, hinput₃⟩
  case pollKeys =>
    refine rangedUnder_of_run hto₁ (by rw [hstate₁]; rfl) hconfig₁ ?_
    rw [legStsIndex, hstate₁]
    exact hindex₁
  case answerKeys =>
    refine rangedUnder_of_run hto₂ (by rw [hstate₂]; rfl) hconfig₂ ?_
    rw [legStsIndex, hstate₂, hconfig₂.nodeConfig]
    exact congrArg (· + 1 + answer.pre.1.session.nodeConfig.responderIndex.toUInt32) hindex₂
  case finalKeys =>
    refine rangedUnder_of_run hto₃ (by rw [hstate₃]; rfl) hconfig₃ ?_
    rw [legStsIndex, hstate₃, hconfig₃.params]
    exact congrArg (· + 1 + final.pre.1.session.params.responderCount.toUInt32) hindex₃
  case answerTime =>
    obtain ⟨tr, hrun, hgood⟩ := hto₂
    have hprogrammed := (onDuty_run hrun fun e he => (hgood e he).1).programmed
    rw [Programmed, hstate₂] at hprogrammed
    have htime : responseTime s = responseTime answer.pre.1.session := by
      have hpollTime := hx.pollTime
      dsimp only at hpollTime
      rw [responseTime, responseTime, hconfig₂.nodeConfig, hconfig₂.params, hpollTime]
    rw [htime]
    exact hprogrammed.2.2.1

/-- **Every range is traced back to the registers.**  In every orderly run from the
construction on, a result that is delivered after a successful `start`, and before the
session is configured anew, has a distance whose time stamps are those of a Poll, a
Response and a Final that follow each other on the device, each while the STS registers
hold the slot keys of the session for the STS index of its leg; the last of which is the
one that an authentic FinalData names. -/
theorem range_provenance {filter : RangeConsensusFilter} {l tr : List DeviceEvent}
    {e₀ d : DeviceEvent} {t : System × Controller}
    (h : (deviceMachine P cperr).Run (deviceInitial filter) (l ++ e₀ :: (tr ++ [d])) t)
    (hgood : ∀ e ∈ l ++ e₀ :: tr, Orderly e ∧ AnchorsSafely e)
    (hstart : e₀.input.calls Action.isStart = true) (hok : Output.returned (.ok ()) ∈ e₀.output)
    (hno : ∀ e ∈ tr, e.input.calls Action.configures = false) {callback : ℕ}
    {result : RangingResult} (hr : .range callback result ∈ d.output) :
    ∃ poll answer final pollReport finalReport txEnv frame mhr finalData report,
      [poll, answer, final].Sublist tr ∧
      Provenance P cperr d.pre.1.session poll answer final pollReport finalReport txEnv ∧
      receivedFrame d.input.env = some frame ∧
      AuthenticFinalData P d.pre.1.session frame mhr finalData ∧
      finalData.finalStsIndex = d.pre.1.session.armedPollStsIndex + 1 +
        d.pre.1.session.params.responderCount.toUInt32 ∧
      report ∈ finalData.responderReports ∧
      calculateDistance {
        round1Dtu := report.pollToResponseDeltaDtu
        reply1Dtu :=
          (txEnv.txTimestampDtu - readRxTimestampDtu pollReport.rxTimestamp).toUInt32
        round2Dtu :=
          (readRxTimestampDtu finalReport.rxTimestamp - txEnv.txTimestampDtu).toUInt32
        reply2Dtu := finalData.pollToFinalTxDeltaDtu - report.pollToResponseDeltaDtu }
        d.pre.1.session.nodeConfig.antennaDelayBias = .ok result.distance := by
  obtain ⟨-, he₀, hrest⟩ := h.at_step
  rw [← List.cons_append, ← List.append_assoc] at h
  obtain ⟨hrun, hd, -⟩ := h.at_step
  have hat {e : DeviceEvent} (he : e ∈ tr) :
      (deviceMachine P cperr).Steps e ∧ OrderlyTo P cperr filter e.pre := by
    obtain ⟨l, hl, hrun, hsteps⟩ :=
      hrun.at_mem (List.mem_append_right l (List.mem_cons_of_mem e₀ he))
    exact ⟨hsteps, l, hrun, fun e' he' => hgood e' (hl.subset he')⟩
  -- the run of the session since `start`
  obtain ⟨b₀, hb₀⟩ := exists_sessionEvent he₀ hok
  obtain ⟨d', hd'⟩ := exists_sessionEvent hd hr
  have hsession := session_run
    (show (deviceMachine P cperr).Run e₀.pre (e₀ :: (tr ++ [d])) t from ⟨rfl, he₀, hrest⟩)
  rw [List.filterMap_cons_some hb₀, List.filterMap_append, List.filterMap_cons_some hd',
    List.filterMap_nil] at hsession
  obtain ⟨i₀, configured, _, _, hserves₀, rfl⟩ := serves_of_sessionEvent he₀ hb₀
  have hent : enters ⟨e₀.pre.1, i₀, e₀.output, e₀.post.1⟩ = true := by
    have haction := (hserves₀.starts configured).symm.trans hstart
    cases ha : i₀.action with
    | start => exact enters_of_start hserves₀.steps ha (decide_eq_true hok)
    | _ => rw [ha] at haction; cases haction
  have hno' : ∀ b ∈ tr.filterMap (sessionEvent cperr), b.input.action.configures = false := by
    intro b hb
    obtain ⟨e, he, hf⟩ := List.mem_filterMap.1 hb
    obtain ⟨i, _, _, _, hserves, rfl⟩ := serves_of_sessionEvent (hat he).1 hf
    exact (hserves.calls fun a => Action.configures_of_isRadioEvent).symm.trans (hno e he)
  obtain ⟨_, _, _, _, hservesD, rfl⟩ := serves_of_sessionEvent hd hd'
  obtain ⟨m, mid, hmid, -, hrunMid, hbacked⟩ := exchange_of_range hsession hent hno' hr
  obtain ⟨_, pollB, answerB, finalB, _, pollEvent, finalEvent, frame, mhr, finalData, report, hl,
    haction, hstate, harmed, hpolled, hanswered, hfinished, hframe, hauth, hindex, hreport,
    hdistance⟩ := hbacked
  -- its legs, on the device
  obtain ⟨-, -, hlegs⟩ := legs_of_run hrunMid hl
  have hexchange := exchangeOf_of_run hlegs hpolled hanswered hfinished
  have hsub : [pollB, answerB, finalB].Sublist (tr.filterMap (sessionEvent cperr)) :=
    (List.sublist_cons_self _ _).trans (hl ▸ List.filter_sublist.trans hmid.sublist)
  obtain ⟨k, hk, hmap⟩ := Machine.exists_sublist_of_filterMap hsub
  obtain ⟨poll, k₁, rfl, hpoll, hmap⟩ := List.map_eq_cons_iff.1 hmap
  obtain ⟨answer, k₂, rfl, hanswer, hmap⟩ := List.map_eq_cons_iff.1 hmap
  obtain ⟨final, k₃, rfl, hfinal, hmap⟩ := List.map_eq_cons_iff.1 hmap
  obtain rfl := List.map_eq_nil_iff.1 hmap
  obtain ⟨pollReport, finalReport, txEnv, hprovenance, hpollTime, hsent, hfinalTime⟩ :=
    provenance_of_exchange (fun e he => hat (hk.subset he)) hpoll hanswer hfinal hexchange
  obtain ⟨_, env, hinput, -, henv⟩ := told_of_sessionEvent hd hd' (by rw [haction]; rfl)
  refine ⟨poll, answer, final, pollReport, finalReport, txEnv, frame, mhr, finalData, report, hk,
    hprovenance, ?_, hauth, ?_, hreport, ?_⟩
  · dsimp only at henv hframe
    rw [hinput]
    rw [henv] at hframe
    exact hframe
  · rw [hindex, harmed.stsIndex]
  · rw [← hpollTime, ← hsent, ← hfinalTime]
    exact hdistance

/-- The rest of the first exchange, on the device. -/
def sampleDelivery : List DeviceInput :=
  [.event (.rxSuccess {}) {}, .event .txDone { txTimestampDtu := 1000000 },
    .event (.rxSuccess { rxTimestamp := ⟨[0x80, 0x84, 0x1E, 0, 0], rfl⟩ }) {},
    .event (.rxSuccess {}) (sampleFinalData 1 {
      finalStsIndex := 3
      pollToFinalTxDeltaDtu := 2000000
      responderReports := [{ pollToResponseDeltaDtu := 1000000 }] }).env]

/-- The hypotheses of `range_provenance` are satisfiable: the exchange that begins with
`sampleDevice` is completed. -/
theorem range_provenance_sample : ∃ (e₁ e₀ d : DeviceEvent) (tr : List DeviceEvent)
    (t : System × Controller) (callback : ℕ) (result : RangingResult),
    (deviceMachine .sample 1).Run (deviceInitial {}) (e₁ :: e₀ :: (tr ++ [d])) t ∧
      (e₁ :: e₀ :: (tr ++ [d])).map (·.input) = sampleDevice ++ sampleDelivery ∧
      .range callback result ∈ d.output ∧
      ∃ poll answer final pollReport finalReport txEnv, [poll, answer, final].Sublist tr ∧
        Provenance .sample 1 d.pre.1.session poll answer final pollReport finalReport txEnv := by
  obtain ⟨l, t, hrun, hin, h⟩ := Machine.exists_run_of_exec (M := deviceMachine .sample 1)
    (s := deviceInitial {}) (l := sampleDevice ++ sampleDelivery)
    (p := fun l _ => l.dropLast.all (fun e => decide (Orderly e ∧ AnchorsSafely e)) &&
      decide (Output.returned (.ok ()) ∈ (l.tail.head?.map (·.output)).getD []) &&
      (l.drop 2).dropLast.all (fun e => !e.input.calls Action.configures) &&
      (l.drop 2).getLast?.any fun d => d.output.any Output.isRange) (by decide +kernel)
  simp only [Bool.and_eq_true] at h
  obtain ⟨⟨⟨hgood, hok⟩, hno⟩, hlast⟩ := h
  obtain ⟨e₁, l₁, rfl, -, hl₁⟩ := List.map_eq_cons_iff.1 hin
  obtain ⟨e₀, l₂, rfl, hstart, -⟩ := List.map_eq_cons_iff.1 hl₁
  obtain ⟨d, hd, hrange⟩ := (Option.any_eq_true _ _).1 hlast
  obtain ⟨tr, rfl⟩ := List.getLast?_eq_some_iff.1 hd
  obtain ⟨o, ho, hisRange⟩ := List.any_eq_true.1 hrange
  cases o with
  | range callback result =>
    have hdrop : (e₁ :: e₀ :: (tr ++ [d])).dropLast = e₁ :: e₀ :: tr := by
      rw [← List.cons_append, ← List.cons_append, List.dropLast_concat]
    rw [hdrop, List.all_eq_true] at hgood
    rw [List.drop_succ_cons, List.drop_succ_cons, List.drop_zero, List.dropLast_concat,
      List.all_eq_true] at hno
    obtain ⟨poll, answer, final, pollReport, finalReport, txEnv, _, _, _, _, hsub, hprovenance,
      -⟩ := range_provenance (l := [e₁]) hrun (fun e he => of_decide_eq_true (hgood e he))
        (by rw [hstart]; rfl) (of_decide_eq_true hok)
        (fun e he => by simpa using hno e he) ho
    exact ⟨e₁, e₀, d, tr, t, callback, result, hrun, hin, ho, poll, answer, final, pollReport,
      finalReport, txEnv, hsub, hprovenance⟩
  | _ => cases hisRange

end Session
end AliroUwb
