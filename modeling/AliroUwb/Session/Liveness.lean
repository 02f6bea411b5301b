/-
# No exchange hangs

What safety leaves open: that a session which is in an exchange leaves it again.

A session that waits does so with a device that has something to report: a receiver whose
timeout is programmed, or a transmission that comes to an end (`awaited_possible`).  Whatever
is reported, and be it of use or not, brings the session one leg on or ends the exchange
(`closer_step`).  So after no more reports than there are legs left, and the return of the
callback, it listens for the next PrePoll (`exchange_ends`).
-/

import AliroUwb.Session.Registers

namespace AliroUwb
namespace Session

open Stepwise Crypto Protocol Ranging Transceiver

variable {P : Platform} {cperr : UInt32}

/-- The reports until a session listens again, and the return of the callback. -/
def SessionState.legsLeft : SessionState → ℕ
  | .awaitingPoll => 5
  | .transmittingResponse => 4
  | .awaitingFinal => 3
  | .awaitingFinalData => 2
  | _ => 0

/-- The legs an exchange has left; the callback is the last of them. -/
def legsLeft (x : System) : ℕ := if x.inCallback then 1 else x.session.state.legsLeft

/-- Outside the callback the legs left are those of the state. -/
theorem legsLeft_of_not_inCallback {x : System} (h : x.inCallback = false) :
    legsLeft x = x.session.state.legsLeft := if_neg (Bool.eq_false_iff.1 h)

/-- An active session with no legs left listens, and no callback runs. -/
theorem listens_of_legsLeft {x : System} (hactive : x.session.state.active = true)
    (h : legsLeft x = 0) : x.session.state = .prePollListening ∧ x.inCallback = false := by
  unfold legsLeft at h
  split_ifs at h with hcb
  refine ⟨?_, Bool.eq_false_iff.2 hcb⟩
  revert h hactive
  cases x.session.state <;> decide

/-- **What is reported brings the exchange closer to its end**, as long as it is what
the session waits for, and so does the return of the callback. -/
theorem closer_step {e : Event} (he : (machine P).Steps e)
    (hreport : e.input.action.isRadioEvent = true ∨ e.input.action = .callbackReturn)
    (hawaited : e.input.action.isRadioEvent = true →
      e.input.action.awaitedIn e.pre.session.state = true) (hne : legsLeft e.pre ≠ 0) :
    e.post.session.state.active = true ∧ legsLeft e.post < legsLeft e.pre := by
  obtain ⟨-, c, hc, hpost, -⟩ := served_of_steps he
  have hquiet := inCallback_of_isRadioEvent he
  -- one leg on
  have hleg {q r : SessionState} (hevent : e.input.action.isRadioEvent = true)
      (hstate : e.pre.session.state = q) (hafter : c.session.state = r)
      (hcb : c.inCallback = e.pre.inCallback) (hactive : r.active = true)
      (hless : r.legsLeft < q.legsLeft) :
      e.post.session.state.active = true ∧ legsLeft e.post < legsLeft e.pre := by
    rw [hpost, legsLeft_of_not_inCallback (hcb.trans (hquiet hevent)),
      legsLeft_of_not_inCallback (hquiet hevent), hstate, hafter]
    exact ⟨hactive, hless⟩
  have hlisten {c₁ : Ctx} (h : Unstashed P (c₁.listen e.input.env) c)
      (hcb : c₁.inCallback = false) :
      e.post.session.state.active = true ∧ legsLeft e.post < legsLeft e.pre := by
    obtain ⟨_, _, _, _, _, _, _, rfl, -, -⟩ := h.frame
    rw [hpost]
    exact ⟨rfl, (legsLeft_of_not_inCallback hcb).trans_lt (Nat.pos_of_ne_zero hne)⟩
  -- there is no leg left where the session listens
  have hrest (hevent : e.input.action.isRadioEvent = true)
      (hstate : e.pre.session.state = .prePollListening) : False := by
    refine hne ?_
    rw [legsLeft_of_not_inCallback (hquiet hevent), hstate]
    rfl
  cases hc with
  | ignored hevent hstate => exact absurd (hawaited hevent) (Bool.eq_false_iff.1 hstate)
  | abandoned hevent _ _ h => exact hlisten h (hquiet hevent)
  | ineligible haction _ _ _ _ _ _ h | unkeyed haction _ _ _ _ _ _ h | late haction _ _ _ _ h
  | undelivered haction _ _ _ _ h =>
    exact hlisten h (hquiet (by rw [haction]; rfl))
  | callbackReturned haction h => exact hlisten h rfl
  | rearmed haction hstate | bootstrapped haction hstate | warmed haction hstate =>
    exact (hrest (by rw [haction]; rfl) hstate).elim
  | responded haction hstate =>
    exact hleg (r := .transmittingResponse) (by rw [haction]; rfl) hstate rfl rfl rfl (by decide)
  | transmitted haction hstate =>
    exact hleg (r := .awaitingFinal) (by rw [haction]; rfl) hstate rfl rfl rfl (by decide)
  | finalReceived haction hstate h =>
    obtain ⟨_, _, _, _, _, _, _, rfl, -, -⟩ := h.frame
    exact hleg (r := .awaitingFinalData) (by rw [haction]; rfl) hstate rfl rfl rfl (by decide)
  | delivered h =>
    have hcb := hquiet h.isRadioEvent
    have hstate : e.pre.session.state = .awaitingFinalData := h.state_before
    cases h with
    | mk =>
      rw [hpost]
      refine ⟨show e.pre.session.state.active = true by rw [hstate]; rfl, ?_⟩
      rw [legsLeft, if_pos rfl, legsLeft_of_not_inCallback hcb, hstate]
      decide
  | stopped haction | suspended haction | resumed haction | anchorFailed haction
  | anchored haction | startFailed haction | unconfigured haction | started haction =>
    rw [haction] at hreport
    simp [Action.isRadioEvent] at hreport
  | refused haction =>
    rcases haction with h | ⟨n, h⟩ <;> rw [h] at hreport <;> simp [Action.isRadioEvent] at hreport

/-! ### The session with its device -/

/-- A report of the driver, or the return of the callback. -/
def DeviceInput.reports : DeviceInput → Bool
  | .event .. => true
  | i => i.calls fun a => decide (a = .callbackReturn)

/-- A report, while immediate receptions start. -/
structure Reports (e : DeviceEvent) : Prop where
  reports : e.input.reports = true
  listens : e.input.env.immediateRxStarts = true

/-- It can be seen from the step. -/
instance : DecidablePred Reports := fun e =>
  decidable_of_iff (e.input.reports = true ∧ e.input.env.immediateRxStarts = true)
    ⟨fun h => ⟨h.1, h.2⟩, fun h => ⟨h.reports, h.listens⟩⟩

/-- What an active session waits for. -/
def awaited (x : System × Controller) (env : Env) : DeviceInput :=
  if x.1.inCallback then .call ⟨.callbackReturn, env⟩ true
  else if x.2.radio = .transmitPending then .event .txDone env
  else .event .rxTimeout env

/-- A report to an active session is orderly. -/
theorem Reports.orderly {e : DeviceEvent} (h : Reports e)
    (hactive : e.pre.1.session.state.active = true) : Orderly e := by
  obtain ⟨hreports, hlistens⟩ := h
  refine ⟨fun _ => SessionState.resting_of_active hactive, fun hresets => ?_, fun hstart => ?_,
    hlistens⟩
  · cases hi : e.input with
    | initializeDevice => rw [hi] at hreports; cases hreports
    | call | event => rw [hi] at hresets; cases hresets
  · cases hi : e.input with
    | initializeDevice | event => rw [hi] at hstart; cases hstart
    | call i =>
      rw [hi] at hreports hstart
      have haction : i.action = .callbackReturn := of_decide_eq_true hreports
      have hstart : i.action.isStart = true := hstart
      rw [haction] at hstart
      cases hstart

/-- A session that is on duty can be served what it waits for. -/
theorem awaited_possible {x : System × Controller} (h : OnDuty x)
    (hactive : x.1.session.state.active = true) (env : Env) :
    ((deviceMachine P cperr).step x (awaited x env)).isSome = true := by
  have hserve (d : Controller) (i : Input) (henabled : x.1.enabled i.action = true) :
      (serveOn P x.1 d i true).isSome = true := by
    have henabled : x.1.enabled (i.on d true).action = true := henabled
    rw [serveOn, System.step, if_pos henabled]
    rfl
  have hattached : x.2.listener = true :=
    h.attached.trans (by rw [SessionState.resting_of_active hactive]; rfl)
  have hevent {v : DriverEvent} {a : Action} (hcb : x.1.inCallback = false)
      (hpossible : v.possible x.2.radio = true)
      (hreported : v.reported cperr x.2.forceReceiverOff = some a) (ha : a.isRadioEvent = true) :
      ((deviceMachine P cperr).step x (.event v env)).isSome = true := by
    change (deviceStep P cperr x (.event v env)).isSome = true
    unfold deviceStep
    dsimp only
    rw [hcb, hpossible, hreported]
    exact hserve _ ⟨a, env⟩ (by rw [System.enabled, if_pos ha, hcb]; rfl)
  unfold awaited
  split_ifs with hcb hradio
  · exact hserve _ ⟨.callbackReturn, env⟩ hcb
  · exact hevent (Bool.eq_false_iff.2 hcb) (decide_eq_true hradio) (if_pos hattached) rfl
  · refine hevent (Bool.eq_false_iff.2 hcb) (decide_eq_true ?_) (if_pos hattached) rfl
    have hagrees := h.agrees (Bool.eq_false_iff.2 hcb)
    have hon := radioFor_of_active hactive
    rw [← show x.2.radio = radioFor x.1.session.state from hagrees] at hon
    cases hr : x.2.radio with
    | receiving => rfl
    | off => exact absurd hr hon
    | transmitPending => exact absurd hr hradio

/-- **A report brings the session with its device closer to the end of the exchange.** -/
theorem reported_step {e : DeviceEvent} (he : (deviceMachine P cperr).Steps e) (h : Reports e)
    (hduty : OnDuty e.pre) (hactive : e.pre.1.session.state.active = true)
    (hne : legsLeft e.pre.1 ≠ 0) :
    (OnDuty e.post ∧ e.post.1.session.state.active = true) ∧
      legsLeft e.post.1 < legsLeft e.pre.1 := by
  have hduty' := onDuty_step he (h.orderly hactive) hduty
  rcases deviceMachine_steps he with ⟨probed, initialised, hinput, -⟩ |
    ⟨v, env, hinput, hlistener, -⟩ | ⟨i, configured, r, c, hs⟩
  · have hreports := h.reports
    rw [hinput] at hreports
    cases hreports
  · exact absurd (hlistener.symm.trans
      (listener_of_event he hduty.attached hduty.restsOff hinput)) Bool.false_ne_true
  · have hreport : i.action.isRadioEvent = true ∨ i.action = .callbackReturn := by
      cases hevent : i.action.isRadioEvent with
      | true => exact Or.inl rfl
      | false =>
        obtain ⟨env, hcall⟩ := hs.called hevent
        have hreports := h.reports
        rw [hcall] at hreports
        exact Or.inr (of_decide_eq_true hreports)
    obtain ⟨hactive', hless⟩ := closer_step hs.steps hreport (fun hevent => by
      have hradio := hs.radio
      rw [show e.pre.2.radio = _ from
        hduty.agrees (inCallback_of_isRadioEvent hs.steps hevent)] at hradio
      exact awaitedIn_of_radioEvent hradio) hne
    exact ⟨⟨hduty', hactive'⟩, hless⟩

/-- **No exchange hangs**: wherever an orderly run has brought an active session, what it
waits for can happen, and a receiver that it waits for has a timeout programmed; and as soon
as as much has been reported as the session has legs left, it listens for a PrePoll,
whatever was reported. -/
theorem exchange_ends {filter : RangeConsensusFilter} {tr : List DeviceEvent}
    {t : System × Controller} (h : (deviceMachine P cperr).Run (deviceInitial filter) tr t)
    (hgood : ∀ e ∈ tr, Orderly e) (hactive : t.1.session.state.active = true) :
    (∀ env, ((deviceMachine P cperr).step t (awaited t env)).isSome = true) ∧
    (t.1.inCallback = false → t.2.radio = .transmitPending ∨
      t.2.radio = .receiving ∧ t.2.rxwtoe = true ∧ t.2.rxFwto ≠ 0) ∧
    ∀ tail t', (deviceMachine P cperr).Run t tail t' → (∀ e ∈ tail, Reports e) →
      legsLeft t.1 ≤ tail.length →
      ∃ tail₁ tail₂ y, tail = tail₁ ++ tail₂ ∧ tail₁.length ≤ legsLeft t.1 ∧
        (deviceMachine P cperr).Run t tail₁ y ∧
        y.1.session.state = .prePollListening ∧ y.1.inCallback = false := by
  have hduty := onDuty_run h hgood
  refine ⟨awaited_possible hduty hactive, fun hcb => ?_, fun tail t' htail hreports hlong => ?_⟩
  · have hradio : t.2.radio = radioFor t.1.session.state := hduty.agrees hcb
    cases hr : t.2.radio with
    | transmitPending => exact Or.inl rfl
    | receiving => exact Or.inr ⟨rfl, hduty.timed hcb hr⟩
    | off => exact absurd (hradio.symm.trans hr) (radioFor_of_active hactive)
  · obtain ⟨tail₁, tail₂, y, rfl, hlen, hrun, ⟨-, hactive'⟩, hzero⟩ :=
      htail.arrives (P := fun x => OnDuty x ∧ x.1.session.state.active = true)
        (fun x => legsLeft x.1) hreports ⟨hduty, hactive⟩
        (fun e he hr hpre hne => reported_step he hr hpre.1 hpre.2 hne) hlong
    exact ⟨tail₁, tail₂, y, rfl, hlen, hrun, listens_of_legsLeft hactive' hzero⟩

/-- The Response is out, and then nothing more is heard. -/
def sampleSilence : List DeviceInput :=
  [.event .txDone {}, .event .rxTimeout {}, .event .rxTimeout {}, .event .rxTimeout {}]

/-- The hypotheses of `exchange_ends` are satisfiable. -/
theorem exchange_ends_sample : ∃ tr tail t t',
    (deviceMachine .sample 1).Run (deviceInitial {}) tr t ∧ tr.map (·.input) = sampleDevicePoll ∧
      t.1.session.state = .transmittingResponse ∧
      (deviceMachine .sample 1).Run t tail t' ∧ tail.map (·.input) = sampleSilence ∧
      ((deviceMachine .sample 1).step t (awaited t {})).isSome = true ∧
      ∃ tail₁ tail₂ y, tail = tail₁ ++ tail₂ ∧ (deviceMachine .sample 1).Run t tail₁ y ∧
        y.1.session.state = .prePollListening ∧ y.1.inCallback = false := by
  obtain ⟨tr, t', hrun, hin, h⟩ := Machine.exists_run_of_exec (M := deviceMachine .sample 1)
    (s := deviceInitial {}) (l := sampleDevicePoll ++ sampleSilence)
    (p := fun tr _ => (tr.take 4).all (fun e => decide (Orderly e)) &&
      ((tr.drop 4).all (fun e => decide (Reports e)) && (tr.drop 4).head?.any fun e : DeviceEvent =>
        decide (e.pre.1.session.state = .transmittingResponse ∧ e.pre.1.inCallback = false)))
    (by decide +kernel)
  rw [Bool.and_eq_true, Bool.and_eq_true, List.all_eq_true, List.all_eq_true] at h
  obtain ⟨horderly, hreports, hhead⟩ := h
  rw [← List.take_append_drop 4 tr] at hrun
  obtain ⟨t, hrun, htail⟩ := Machine.run_append.1 hrun
  have hin₁ : (tr.take 4).map (·.input) = sampleDevicePoll := by
    rw [List.map_take, hin]
    rfl
  have hin₂ : (tr.drop 4).map (·.input) = sampleSilence := by
    rw [List.map_drop, hin]
    rfl
  obtain ⟨e, hmem, hfirst⟩ := (Option.any_eq_true _ _).1 hhead
  obtain ⟨hstate, hcb⟩ := of_decide_eq_true hfirst
  obtain ⟨tail, hdrop⟩ : ∃ tail, tr.drop 4 = e :: tail := by
    cases hd : tr.drop 4 with
    | nil => rw [hd] at hmem; cases hmem
    | cons e' tail =>
      rw [hd] at hmem
      exact ⟨tail, by rw [Option.some.inj hmem]⟩
  obtain rfl : e.pre = t := by
    rw [hdrop] at htail
    exact htail.1
  have hlegs : legsLeft e.pre.1 = 4 := by
    rw [legsLeft_of_not_inCallback hcb, hstate]
    rfl
  have hlong : legsLeft e.pre.1 ≤ (tr.drop 4).length := by
    have hlen := congrArg List.length hin₂
    rw [List.length_map] at hlen
    rw [hlegs, hlen]
    decide
  obtain ⟨hpossible, -, hends⟩ := exchange_ends hrun (fun e he => of_decide_eq_true (horderly e he))
    (by rw [hstate]; rfl)
  obtain ⟨tail₁, tail₂, y, htl, -, hrun₁, hlistens⟩ :=
    hends _ _ htail (fun e he => of_decide_eq_true (hreports e he)) hlong
  exact ⟨_, _, e.pre, t', hrun, hin₁, hstate, htail, hin₂, hpossible {}, tail₁, tail₂, y, htl,
    hrun₁, hlistens⟩

end Session
end AliroUwb
