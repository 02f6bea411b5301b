/-
# Every result has its exchange

A result is computed from members that four different handlers have written: the
armed keys, and the time stamps of Poll, Response and Final.  `Progress` ties
each of them to the step that wrote it, for as long as the session is in the
exchange; `progress_step` shows that no order of events breaks the tie.

The record of a run since its last entry into `PrePollListening` is the `Window`
in which this is said.  When a result is delivered, exactly four steps of the
window have changed the session, and they are the four legs of the exchange
(`delivery_is_backed`).
-/

import AliroUwb.Session.Frames
import AliroUwb.Session.Steps

namespace AliroUwb
namespace Session

open Stepwise Crypto Protocol Ranging Transceiver

variable {P : Platform}

/-- The step has entered `PrePollListening`. -/
def enters (e : Event) : Bool := e.output.any Output.isListening

/-- The step has delivered a result. -/
def delivers (e : Event) : Bool := e.output.any Output.isRange

/-- The step was not ignored. -/
def changes (e : Event) : Bool := decide (e.post ≠ e.pre)

/-! ### The legs of an exchange -/

/-- `e` is the reception of a PrePoll that has armed the exchange of `s`. -/
structure ArmedBy (s : SessionMembers) (e : Event) : Prop where
  action : ∃ event, e.input.action = .rxSuccess event
  pre : e.pre.session.state = .prePollListening
  post : e.post.session.state = .awaitingPoll
  stsIndex : s.armedPollStsIndex = e.post.session.armed.pollStsIndex

/-- `e` is the reception of the Poll of the exchange of `s`, with `event`. -/
structure PolledBy (s : SessionMembers) (e : Event) (event : RxSuccessEvent) : Prop where
  action : e.input.action = .rxSuccess event
  sts : event.stsPassed = true
  pre : e.pre.session.state = .awaitingPoll
  post : e.post.session.state = .transmittingResponse
  timestamp : s.measurement.pollRxTimestampDtu = event.rxTimestampDtu

/-- `e` is the end of the transmission of the Response. -/
structure AnsweredBy (s : SessionMembers) (e : Event) : Prop where
  action : e.input.action = .txComplete
  pre : e.pre.session.state = .transmittingResponse
  post : e.post.session.state = .awaitingFinal
  timestamp : s.measurement.respTxTimestampDtu = e.input.env.txTimestampDtu

/-- `e` is the reception of the Final of the exchange of `s`, with `event`. -/
structure FinishedBy (s : SessionMembers) (e : Event) (event : RxSuccessEvent) : Prop where
  action : e.input.action = .rxSuccess event
  pre : e.pre.session.state = .awaitingFinal
  post : e.post.session.state = .awaitingFinalData
  timestamp : s.measurement.finalRxTimestampDtu = event.rxTimestampDtu

/-- The steps that have brought an active session where it is. -/
inductive Progress (s : SessionMembers) : List Event → Prop
  | listening (hstate : s.state = .prePollListening) : Progress s []
  | armed {a : Event} (hstate : s.state = .awaitingPoll) (ha : ArmedBy s a) : Progress s [a]
  | polled {a b : Event} {poll : RxSuccessEvent} (hstate : s.state = .transmittingResponse)
      (ha : ArmedBy s a) (hb : PolledBy s b poll) : Progress s [a, b]
  | answered {a b c : Event} {poll : RxSuccessEvent} (hstate : s.state = .awaitingFinal)
      (ha : ArmedBy s a) (hb : PolledBy s b poll) (hc : AnsweredBy s c) : Progress s [a, b, c]
  | finished {a b c d : Event} {poll final : RxSuccessEvent}
      (hstate : s.state = .awaitingFinalData) (ha : ArmedBy s a) (hb : PolledBy s b poll)
      (hc : AnsweredBy s c) (hd : FinishedBy s d final) : Progress s [a, b, c, d]

/-- A step that changes the state is not ignored. -/
theorem changes_of_state {e : Event} (h : e.post.session.state ≠ e.pre.session.state) :
    changes e = true := by
  refine decide_eq_true fun heq => h ?_
  rw [heq]

/-- **A step that does not enter `PrePollListening` adds its leg**, or leaves an
active session as it is. -/
theorem progress_step {e : Event} (he : (machine P).Steps e)
    (hno : e.input.action.configures = false) (hcb : e.post.inCallback = false)
    (hent : enters e = false) (hactive : e.post.session.state.active = true) {l : List Event}
    (hpre : e.pre.session.state.active = true → Progress e.pre.session l) :
    Progress e.post.session (l ++ [e].filter changes) := by
  obtain ⟨-, c, hc, hpost, hout⟩ := served_of_steps he
  have hlisten {c₁ : Ctx} (h : Unstashed P (c₁.listen e.input.env) c) : False := by
    have hl := (listens_unstashed h).2
    rw [← hout] at hl
    exact Bool.false_ne_true (hent.symm.trans hl)
  have hsame (h : c.session = e.pre.session) (hcb' : c.inCallback = e.pre.inCallback)
      (hactive : e.pre.session.state.active = true) :
      Progress e.post.session (l ++ [e].filter changes) := by
    have heq : e.post = e.pre := by rw [hpost, h, hcb']
    have hf : [e].filter changes = [] := by simp [changes, heq]
    rw [hf, List.append_nil, heq]
    exact hpre hactive
  have hleg (hne : e.post.session.state ≠ e.pre.session.state) : [e].filter changes = [e] := by
    rw [List.filter_cons, changes_of_state hne]
    rfl
  have harm {event : RxSuccessEvent} (haction : e.input.action = .rxSuccess event)
      (hst : e.pre.session.state = .prePollListening)
      (hst' : e.post.session.state = .awaitingPoll)
      (hindex : e.post.session.armedPollStsIndex = e.post.session.armed.pollStsIndex) :
      Progress e.post.session (l ++ [e].filter changes) := by
    rw [hleg (by rw [hst, hst']; decide)]
    cases hpre (by rw [hst]; rfl) with
    | listening => exact .armed hst' ⟨⟨_, haction⟩, hst, hst', hindex⟩
    | armed h | polled h | answered h | finished h => rw [hst] at h; cases h
  cases hc with
  | abandoned _ _ _ h | ineligible _ _ _ _ _ _ _ h | unkeyed _ _ _ _ _ _ _ h | late _ _ _ _ _ h
  | undelivered _ _ _ _ _ h | callbackReturned _ h => exact (hlisten h).elim
  | resumed _ _ h =>
    have hl := ((listens_unstashed h).returned (.ok ())).2
    rw [← hout] at hl
    exact absurd (hent.symm.trans hl) Bool.false_ne_true
  | anchorFailed haction | anchored haction | startFailed haction | unconfigured haction
  | started haction => rw [haction] at hno; cases hno
  | stopped | suspended =>
    rw [hpost] at hactive
    cases hactive
  | ignored | refused =>
    rw [hpost] at hactive
    exact hsame rfl rfl hactive
  | rearmed _ hstate => exact hsame rfl rfl (by rw [show e.pre.session.state = _ from hstate]; rfl)
  | bootstrapped haction hstate hwarm hframe hcheck hparity hkeys hfaults h =>
    obtain ⟨_, _, _, rfl, -⟩ := h.frame
    exact harm haction hstate (by rw [hpost]; rfl) (by rw [hpost]; rfl)
  | warmed haction hstate => exact harm haction hstate (by rw [hpost]; rfl) (by rw [hpost]; rfl)
  | @responded event haction hstate hsts =>
    have hst : e.pre.session.state = .awaitingPoll := hstate
    have hst' : e.post.session.state = .transmittingResponse := by rw [hpost]
    rw [hleg (by rw [hst, hst']; decide)]
    cases hpre (by rw [hst]; rfl) with
    | armed h ha =>
      have hb : PolledBy e.post.session e event := ⟨haction, hsts, hst, hst', by rw [hpost]⟩
      rw [hpost] at hb hst' ⊢
      exact .polled hst' ⟨ha.1, ha.2, ha.3, ha.4⟩ hb
    | listening h | polled h | answered h | finished h => rw [hst] at h; cases h
  | transmitted haction hstate =>
    have hst : e.pre.session.state = .transmittingResponse := hstate
    have hst' : e.post.session.state = .awaitingFinal := by rw [hpost]
    rw [hleg (by rw [hst, hst']; decide)]
    cases hpre (by rw [hst]; rfl) with
    | polled h ha hb =>
      have hc : AnsweredBy e.post.session e := ⟨haction, hst, hst', by rw [hpost]⟩
      rw [hpost] at hc hst' ⊢
      exact .answered hst' ⟨ha.1, ha.2, ha.3, ha.4⟩ ⟨hb.1, hb.2, hb.3, hb.4, hb.5⟩ hc
    | listening h | armed h | answered h | finished h => rw [hst] at h; cases h
  | @finalReceived event _ haction hstate h =>
    obtain ⟨_, _, _, _, _, _, _, rfl, -, -⟩ := h.frame
    have hst : e.pre.session.state = .awaitingFinal := hstate
    have hst' : e.post.session.state = .awaitingFinalData := by rw [hpost]
    rw [hleg (by rw [hst, hst']; decide)]
    cases hpre (by rw [hst]; rfl) with
    | answered h ha hb hc =>
      have hd : FinishedBy e.post.session e event := ⟨haction, hst, hst', by rw [hpost]; rfl⟩
      rw [hpost] at hd hst' ⊢
      exact .finished hst' ⟨ha.1, ha.2, ha.3, ha.4⟩ ⟨hb.1, hb.2, hb.3, hb.4, hb.5⟩
        ⟨hc.1, hc.2, hc.3, hc.4⟩ hd
    | listening h | armed h | polled h | finished h => rw [hst] at h; cases h
  | delivered h =>
    cases h with
    | mk => rw [hpost] at hcb; cases hcb

/-! ### The window since the last entry -/

/-- `w` is the record since the last entry into `PrePollListening`: nothing has
been delivered in it, and it has brought the session where it is. -/
structure Window (w : List Event) (x : System) : Prop where
  entry : ∃ entry mid, w = entry :: mid ∧ enters entry = true ∧ (∀ e ∈ mid, enters e = false) ∧
    (x.session.state.active = true → Progress x.session (mid.filter changes))
  undelivered : ∀ e ∈ w, delivers e = false

/-- A step after which no callback runs has not delivered. -/
theorem delivers_eq_false {e : Event} (he : (machine P).Steps e)
    (hcb : e.post.inCallback = false) : delivers e = false := by
  refine Bool.eq_false_iff.2 fun h => ?_
  obtain ⟨o, ho, hr⟩ := List.any_eq_true.1 h
  cases o with
  | range callback result =>
    obtain ⟨c, hd, hpost, -⟩ := delivered_of_range he ho
    cases hd with
    | mk => rw [hpost] at hcb; cases hcb
  | _ => cases hr

/-- An entry into `PrePollListening` begins a window. -/
theorem window_of_enters {e : Event} (he : (machine P).Steps e) (hent : enters e = true)
    (hcb : e.post.inCallback = false) : Window [e] e.post := by
  obtain ⟨-, c, hc, hpost, hout⟩ := served_of_steps he
  refine ⟨⟨e, [], rfl, hent, by simp, fun _ => ?_⟩, fun e' h => ?_⟩
  · rcases hc.listens_or with hl | honly
    · rw [hpost]
      exact .listening hl.1
    · obtain ⟨o, ho, hlisten⟩ := List.any_eq_true.1 hent
      rw [hout] at ho
      have hother := honly.of_mem ho
      rw [Output.other, hlisten] at hother
      cases hother
  · rw [List.mem_singleton.1 h]
    exact delivers_eq_false he hcb

/-- A callback runs on until it returns. -/
theorem inCallback_before {e : Event} (he : (machine P).Steps e) (hent : enters e = false)
    (hcb : e.post.inCallback = false) : e.pre.inCallback = false := by
  obtain ⟨-, c, hc, hpost, hout⟩ := served_of_steps he
  by_contra hin
  have hin : e.pre.inCallback = true := by simpa using hin
  have hkeep {c₁ : Ctx} (h : Unstashed P c₁ c) (h₁ : c₁.inCallback = e.pre.inCallback) : False := by
    obtain ⟨_, _, _, _, _, _, _, hc, -, -⟩ := h.frame
    rw [hpost, hc] at hcb
    exact Bool.false_ne_true (hcb.symm.trans (h₁.trans hin))
  cases hc with
  | callbackReturned _ h =>
    have hl := (listens_unstashed h).2
    rw [← hout] at hl
    exact Bool.false_ne_true (hent.symm.trans hl)
  | abandoned _ _ _ h | ineligible _ _ _ _ _ _ _ h | unkeyed _ _ _ _ _ _ _ h | late _ _ _ _ _ h
  | undelivered _ _ _ _ _ h | finalReceived _ _ h => exact hkeep h rfl
  | bootstrapped _ _ _ _ _ _ _ _ h =>
    obtain ⟨_, _, _, rfl, -⟩ := h.frame
    rw [hpost] at hcb
    exact Bool.false_ne_true (hcb.symm.trans hin)
  | resumed _ _ h | anchored _ _ _ _ h | started _ _ _ _ h =>
    obtain ⟨_, _, _, _, _, _, _, rfl, -, -⟩ := h.frame
    rw [hpost] at hcb
    exact Bool.false_ne_true (hcb.symm.trans hin)
  | delivered h =>
    cases h with
    | mk => rw [hpost] at hcb; cases hcb
  | _ =>
    rw [hpost] at hcb
    exact Bool.false_ne_true (hcb.symm.trans hin)

/-- **The window goes on with every step.** -/
theorem window_step {w : List Event} {e : Event} (he : (machine P).Steps e)
    (hno : e.input.action.configures = false)
    (hpre : e.pre.inCallback = false → Window w e.pre) (hcb : e.post.inCallback = false) :
    Window (Machine.since enters w e) e.post := by
  unfold Machine.since
  by_cases hent : enters e = true
  · rw [if_pos hent]
    exact window_of_enters he hent hcb
  rw [if_neg hent]
  have hent : enters e = false := Bool.eq_false_iff.2 hent
  obtain ⟨⟨entry, mid, rfl, hentry, hmid, hprogress⟩, hundelivered⟩ :=
    hpre (inCallback_before he hent hcb)
  refine ⟨⟨entry, mid ++ [e], rfl, hentry, fun e' h => ?_, fun hactive => ?_⟩, fun e' h => ?_⟩
  · rcases List.mem_append.1 h with h | h
    · exact hmid e' h
    · rw [List.mem_singleton.1 h]
      exact hent
  · rw [List.filter_append]
    exact progress_step he hno hcb hent hactive hprogress
  · rcases List.mem_append.1 h with h | h
    · exact hundelivered e' h
    · rw [List.mem_singleton.1 h]
      exact delivers_eq_false he hcb

/-! ### Deliveries -/

/-- The result that `d` hands over is computed from one exchange, whose legs are
the only steps of `mid` that have changed the session. -/
def Backed (P : Platform) (mid : List Event) (d : Event) (result : RangingResult) : Prop :=
  ∃ prePoll poll answer final finalDataEvent pollEvent finalEvent frame mhr finalData report,
    mid.filter changes = [prePoll, poll, answer, final] ∧
    d.input.action = .rxSuccess finalDataEvent ∧ d.pre.session.state = .awaitingFinalData ∧
    ArmedBy d.pre.session prePoll ∧ PolledBy d.pre.session poll pollEvent ∧
    AnsweredBy d.pre.session answer ∧ FinishedBy d.pre.session final finalEvent ∧
    -- the FinalData is authentic under the key of the armed STS index
    receivedFrame d.input.env = some frame ∧
    AuthenticFinalData P d.pre.session frame mhr finalData ∧
    finalData.finalStsIndex = prePoll.post.session.armed.pollStsIndex + 1 +
      d.pre.session.params.responderCount.toUInt32 ∧
    report ∈ finalData.responderReports ∧
    -- and the intervals are those between the legs
    calculateDistance {
      round1Dtu := report.pollToResponseDeltaDtu
      reply1Dtu := (answer.input.env.txTimestampDtu - pollEvent.rxTimestampDtu).toUInt32
      round2Dtu := (finalEvent.rxTimestampDtu - answer.input.env.txTimestampDtu).toUInt32
      reply2Dtu := finalData.pollToFinalTxDeltaDtu - report.pollToResponseDeltaDtu }
      d.pre.session.nodeConfig.antennaDelayBias = .ok result.distance

/-- A delivery is backed by the exchange that has progressed to it. -/
theorem backed_of_progress {mid : List Event} {d : Event} {callback : ℕ}
    {result : RangingResult} (he : (machine P).Steps d) (hr : .range callback result ∈ d.output)
    (hprogress : d.pre.session.state.active = true →
      Progress d.pre.session (mid.filter changes)) : Backed P mid d result := by
  obtain ⟨c, hd, -, hout⟩ := delivered_of_range he hr
  rw [hout] at hr
  cases hd with
  | mk haction hstate hframe hcheck hsts hreport hdistance hcallback hfaults =>
    have hst : d.pre.session.state = .awaitingFinalData := hstate
    obtain ⟨-, rfl⟩ : callback = _ ∧ result = _ := by simpa [System.enter] using hr
    generalize hl : mid.filter changes = l at hprogress
    cases hprogress (by rw [hst]; rfl) with
    | finished h ha hb hc hd =>
      refine ⟨_, _, _, _, _, _, _, _, _, _, _, hl, haction, hst, ha, hb, hc, hd, hframe,
        (acceptable_checkFinalDataFrame hcheck).toAuthenticFinalData, ?_,
        List.mem_of_find?_eq_some hreport, ?_⟩
      · rw [← ha.stsIndex]
        exact hsts
      · rw [← hb.timestamp, ← hc.timestamp, ← hd.timestamp]
        exact hdistance
    | listening h | armed h | polled h | answered h => rw [hst] at h; cases h

/-- A successful `start` enters `PrePollListening`. -/
theorem enters_of_start {e : Event} (he : (machine P).Steps e) {ursk : Bytes 32}
    {params : RangingSessionParameters} {nodeConfig : SessionNodeConfig} {callback : Option ℕ}
    (haction : e.input.action = .start ursk params nodeConfig callback)
    (hok : succeeded e = true) : enters e = true := by
  obtain ⟨_, _, _, _, -, -, -, h, -, hout⟩ := started_of_succeeded he haction hok
  rw [enters, hout]
  exact ((listens_unstashed h).returned _).2

/-- A delivery finds no callback running. -/
theorem inCallback_of_delivered {e : Event} (he : (machine P).Steps e) {callback : ℕ}
    {result : RangingResult} (hr : .range callback result ∈ e.output) :
    e.pre.inCallback = false := by
  obtain ⟨c, hd, -, -⟩ := delivered_of_range he hr
  exact inCallback_of_isRadioEvent he hd.isRadioEvent

/-- The end of a record without deliveries lies after every delivery. -/
theorem suffix_of_undelivered {w a b : List Event} {d : Event} (hw : w <:+ a ++ d :: b)
    (hno : ∀ e ∈ w, delivers e = false) (hd : delivers d = true) : w <:+ b := by
  have hb : d :: b <:+ a ++ d :: b := List.suffix_append a (d :: b)
  have hmem (h : d ∈ w) : False := Bool.false_ne_true ((hno d h).symm.trans hd)
  rcases List.suffix_or_suffix_of_suffix hw hb with h | h
  · rcases List.suffix_cons_iff.1 h with rfl | h
    · exact (hmem List.mem_cons_self).elim
    · exact h
  · exact (hmem (h.subset List.mem_cons_self)).elim

/-- **Every delivered result is backed by one complete exchange.**  After a
successful `start`, and until the session is configured anew, each delivery is
preceded, since the last entry into `PrePollListening`, by exactly one exchange;
and since this window begins after every earlier delivery, no two deliveries
share an event. -/
theorem delivery_is_backed {x t : System} {e₀ : Event} {tr : List Event}
    (h : (machine P).Run x (e₀ :: tr) t)
    (hstart : ∃ ursk params nodeConfig callback,
      e₀.input.action = .start ursk params nodeConfig callback)
    (hok : succeeded e₀ = true) (hno : ∀ e ∈ tr, e.input.action.configures = false)
    {tr₁ tr₂ : List Event} {d : Event} (htr : tr = tr₁ ++ d :: tr₂) {callback : ℕ}
    {result : RangingResult} (hr : .range callback result ∈ d.output) :
    ∃ before entry mid, e₀ :: tr₁ = before ++ entry :: mid ∧ enters entry = true ∧
      (∀ e ∈ mid, enters e = false) ∧ Backed P mid d result ∧
      ∀ a d' b, tr₁ = a ++ d' :: b → delivers d' = true → entry :: mid <:+ b := by
  obtain ⟨rfl, he₀, hrun⟩ := h
  obtain ⟨ursk, params, nodeConfig, cb, haction⟩ := hstart
  have hent₀ := enters_of_start he₀ haction hok
  have hobserve := hrun.observe (G := fun _ e => e.input.action.configures = false)
    (J := fun w y => y.inCallback = false → Window w y)
    (Q := fun w e => ∀ callback result, .range callback result ∈ e.output → Window w e.pre)
    (Machine.since enters) (g := [e₀]) (fun tr₁ e tr₂ htr => hno e (by rw [htr]; simp))
    (window_of_enters he₀ hent₀) (fun w e he hgood hJ => window_step he hgood hJ)
    (fun w e he _ hJ callback result hr => hJ (inCallback_of_delivered he hr))
  have hsuffix : tr₁.foldl (Machine.since enters) [e₀] <:+ e₀ :: tr₁ :=
    Machine.foldl_since enters [e₀] tr₁
  have hwindow := hobserve tr₁ d tr₂ htr callback result hr
  obtain ⟨entry, mid, hw, hentry, hmid, hprogress⟩ := hwindow.entry
  have hno := hwindow.undelivered
  rw [hw] at hsuffix hno
  have hd := (Machine.Run.at_step (htr ▸ hrun)).2.1
  obtain ⟨before, hbefore⟩ := hsuffix
  refine ⟨before, entry, mid, hbefore.symm, hentry, hmid, backed_of_progress hd hr hprogress, ?_⟩
  intro a d' b htr₁ hdelivers
  refine suffix_of_undelivered (a := e₀ :: a) ⟨before, ?_⟩ hno hdelivers
  rw [hbefore, htr₁]
  rfl

/-- The hypotheses of `delivery_is_backed` are satisfiable: the session is started
and takes part in one exchange. -/
theorem delivery_is_backed_sample : ∃ tr d t mid callback result,
    (machine .sample).Run (System.initial {}) (tr ++ [d]) t ∧
      (tr ++ [d]).map (·.input) = sampleStart sampleParams {} :: sampleExchange ∧
      .range callback result ∈ d.output ∧ mid <:+ tr ∧ Backed .sample mid d result := by
  obtain ⟨e₀, tr, t, hrun, hstart, hin, hok, h⟩ := Machine.exists_run_cons_of_exec
    (M := machine .sample) (s := System.initial {}) (i := sampleStart sampleParams {})
    (l := sampleExchange) (q := succeeded)
    (p := fun tr _ => tr.all (fun e => !e.input.action.configures) && tr.getLast?.any delivers)
    (by decide +kernel)
  simp only [Bool.and_eq_true, List.all_eq_true, Bool.not_eq_true', Option.any_eq_true] at h
  obtain ⟨hno, d, hlast, hd⟩ := h
  obtain ⟨tr₁, rfl⟩ := List.getLast?_eq_some_iff.1 hlast
  obtain ⟨o, ho, hrange⟩ := List.any_eq_true.1 hd
  cases o with
  | range callback result =>
    obtain ⟨before, entry, mid, hw, -, -, hbacked, -⟩ :=
      delivery_is_backed hrun ⟨_, _, _, _, congrArg Input.action hstart⟩ hok hno rfl ho
    exact ⟨e₀ :: tr₁, d, t, mid, callback, result, hrun,
      List.cons_eq_cons.2 ⟨hstart, hin⟩, ho, ⟨before ++ [entry], by simp [hw]⟩, hbacked⟩
  | _ => cases hrange

end Session
end AliroUwb
