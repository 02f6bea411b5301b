/-
# The session and its radio

The session waits in a state for what its radio can still report: a reception
while it listens or awaits a frame, the end of a transmission while it
transmits, nothing while it is inactive (`Agrees`).

`radioMachine P` runs the session together with the device: a reception can only
be reported while receiving and a finished transmission while one is pending,
each leaving the device off, and the commands of a step drive it on.  Every
handler leaves the two in step (`agrees_step`), except one: `start` forces the
receiver off before it can fail, and does not leave the active state it was
called in when it does (`not_agrees_of_start`).
-/

import AliroUwb.Session.Steps

namespace AliroUwb
namespace Session

open Stepwise Crypto Protocol Ranging Transceiver

variable {P : Platform}

/-- What the device may report, and the device after it. -/
def radioEvent (r : Radio) : Action → Option Radio
  | .rxSuccess _ | .rxTimeout | .rxError => if r = .receiving then some .off else none
  | .txComplete => if r = .transmitPending then some .off else none
  | _ => some r

/-- The session and the device, one step. -/
def radioStep (P : Platform) (x : System × Radio) (i : Input) :
    Option ((System × Radio) × List Output) :=
  match radioEvent x.2 i.action, System.step P x.1 i with
  | some r, some (y, outputs) => some ((y, radioAfter r outputs), outputs)
  | _, _ => none

/-- The session with the device. -/
def radioMachine (P : Platform) : Machine (System × Radio) Input (List Output) := ⟨radioStep P⟩

/-- What the device has to be doing in a state of the session. -/
def radioFor : SessionState → Radio
  | .prePollListening | .awaitingPoll | .awaitingFinal | .awaitingFinalData => .receiving
  | .transmittingResponse => .transmitPending
  | .uninitialized | .idle | .suspended => .off

/-- Between two handlers the device is doing what the session waits for. -/
def Agrees (x : System × Radio) : Prop := x.1.inCallback = false → x.2 = radioFor x.1.session.state

/-! ### The invariant -/

/-- `start` is safe where it is called: the session waits for nothing, or the
new session comes about. -/
def StartSafe (P : Platform) (e : Occurrence (System × Radio) Input (List Output)) : Prop :=
  ∀ ursk params nodeConfig callback, e.input.action = .start ursk params nodeConfig callback →
    e.pre.1.inCallback = false → e.pre.1.session.state.active = true →
    e.input.env.configurePhyError = none ∧ (e.pre.1.session.materialValid = true ∨
      ∃ keys, (deriveKeyMaterial P.crypto ursk params e.input.env.faults).1 = .ok keys)

/-- What a step of the two together is. -/
theorem radioMachine_steps {e : Occurrence (System × Radio) Input (List Output)}
    (h : (radioMachine P).Steps e) :
    ∃ r c, radioEvent e.pre.2 e.input.action = some r ∧ e.pre.1.enabled e.input.action = true ∧
      Served P e.input (e.pre.1.enter e.input) c ∧
      e.post = (⟨c.session, c.inCallback⟩, radioAfter r c.outputs) ∧ e.output = c.outputs := by
  have h : radioStep P e.pre e.input = some (e.post, e.output) := h
  unfold radioStep at h
  cases hr : radioEvent e.pre.2 e.input.action with
  | none => rw [hr] at h; cases h
  | some r =>
    rw [hr] at h
    cases hs : System.step P e.pre.1 e.input with
    | none => rw [hs] at h; cases h
    | some y =>
      rw [hs] at h
      obtain ⟨hpost, hout⟩ := Prod.mk.inj (Option.some.inj h)
      obtain ⟨henabled, c, hc, hy, ho⟩ := served_of_steps (P := P)
        (e := ⟨e.pre.1, e.input, y.2, y.1⟩) hs
      dsimp only at hy ho hc
      exact ⟨r, c, rfl, henabled, hc, by rw [← hpost, hy, ho], by rw [← hout, ho]⟩

/-- An event that the device can report is awaited. -/
theorem awaitedIn_of_radioEvent {state : SessionState} {a : Action} {r : Radio}
    (h : radioEvent (radioFor state) a = some r) : a.awaitedIn state = true := by
  cases a <;> cases state <;> first | rfl | (simp [radioEvent, radioFor] at h)

/-- An action of the user leaves the device alone. -/
theorem radioEvent_of_not_isRadioEvent {a : Action} (h : a.isRadioEvent = false) (r : Radio) :
    radioEvent r a = some r := by
  cases a <;> first | rfl | (simp [Action.isRadioEvent] at h)

/-- The radio of an inactive session is off. -/
theorem radioFor_of_inactive {state : SessionState} (h : state.active = false) :
    radioFor state = .off := by
  cases state <;> first | rfl | (simp [SessionState.active] at h)

/-- The radio of an active session is not off. -/
theorem radioFor_of_active {state : SessionState} (h : state.active = true) :
    radioFor state ≠ .off := by
  cases state <;> simp [SessionState.active, radioFor] at h ⊢

/-- **Every step but a failing `start` keeps the device in step with the
session.** -/
theorem agrees_step {e : Occurrence (System × Radio) Input (List Output)}
    (h : (radioMachine P).Steps e) (himm : e.input.env.immediateRxStarts = true)
    (hsafe : StartSafe P e) (hpre : Agrees e.pre) : Agrees e.post := by
  obtain ⟨r, c, hr, henabled, hc, hpost, -⟩ := radioMachine_steps h
  rw [hpost]
  intro hcb
  dsimp only at hcb ⊢
  have harm {c₁ c' : Ctx} (h : Unstashed P (c₁.listen e.input.env) c') :
      radioAfter r c'.outputs = radioFor c'.session.state := by
    obtain ⟨hrx, hst, -⟩ := after_unstashed h himm r
    rw [hrx, hst]
    rfl
  have hret {c₁ c' : Ctx} (h : Unstashed P (c₁.listen e.input.env) c')
      (res : Except StatusCode Unit) :
      radioAfter r (c'.outputs ++ [.returned res]) = radioFor c'.session.state := by
    rw [after_append, after_returned, after_nil, harm h]
  -- an action that is not an event finds the device as the session left it
  have hquiet (hno : e.input.action.isRadioEvent = false)
      (hcb : e.pre.1.inCallback = false) : r = radioFor e.pre.1.session.state := by
    rw [radioEvent_of_not_isRadioEvent hno] at hr
    exact (Option.some.inj hr).symm.trans (hpre hcb)
  cases hc with
  | ignored hevent hstate =>
    have hcb' : e.pre.1.inCallback = false := hcb
    rw [hpre hcb'] at hr
    exact absurd (awaitedIn_of_radioEvent hr) (Bool.eq_false_iff.1 hstate)
  | abandoned hevent hstate hfaults h => exact harm h
  | rearmed haction hstate =>
    have hrx : e.pre.1.session.state = .prePollListening := hstate
    simp [System.enter, Radio.command, himm, hrx, radioFor]
  | ineligible haction hstate hwarm hframe hcheck hparity hfaults h => exact harm h
  | unkeyed haction hstate hwarm hframe hcheck hparity hfaults h => exact harm h
  | bootstrapped haction hstate hwarm hframe hcheck hparity hkeys hfaults h =>
    obtain ⟨_, _, _, rfl, -⟩ := h.frame
    simp [armCommands, after_rxCommands _ himm, SessionMembers.armedFor, radioFor]
  | warmed haction hstate hwarm hframe hstash hvalid =>
    simp [armCommands, after_rxCommands _ himm, SessionMembers.armedFor, radioFor]
  | responded haction hstate hsts hkeys htx => simp [Radio.command, radioFor]
  | late haction hstate hsts hkeys htx h => exact harm h
  | transmitted haction hstate hkeys => simp [after_rxCommands _ himm, radioFor]
  | finalReceived haction hstate h =>
    obtain ⟨_, _, _, _, _, _, os, rfl, -, hos⟩ := h.frame
    simp [after_rxCommands _ himm, after_accepted _ hos, radioFor]
  | undelivered haction hstate hframe hcheck hfaults h => exact harm h
  | delivered h =>
    cases h with
    | mk => simp at hcb
  | callbackReturned haction h => exact harm h
  | stopped haction => simp [System.enter, Radio.command, radioFor]
  | suspended haction => simp [System.enter, Radio.command, radioFor]
  | refused haction hstate =>
    have hno : e.input.action.isRadioEvent = false := by
      rcases haction with h | ⟨n, h⟩ <;> rw [h] <;> rfl
    simpa [System.enter] using hquiet hno hcb
  | resumed haction hstate h => exact hret h _
  | anchorFailed haction hstate hkeys =>
    simpa [System.enter] using hquiet (by rw [haction]; rfl) hcb
  | anchored haction hstate hkeys hfaults h => exact hret h _
  | startFailed haction hvalid hkeys =>
    have hinactive : e.pre.1.session.state.active = false := by
      by_contra hactive
      rcases (hsafe _ _ _ _ haction hcb (Bool.not_eq_false _ ▸ hactive)).2 with h | ⟨k, h⟩
      · exact absurd (hvalid.symm.trans h) (by simp)
      · exact absurd (hkeys.symm.trans h) (by simp)
    simpa [System.enter, Radio.command] using (radioFor_of_inactive hinactive).symm
  | unconfigured haction hkeys hphy =>
    have hinactive : e.pre.1.session.state.active = false := by
      by_contra hactive
      have h := (hsafe _ _ _ _ haction hcb (Bool.not_eq_false _ ▸ hactive)).1
      exact absurd (hphy.symm.trans h) (by simp)
    simpa [System.enter, Radio.command, SessionMembers.prepared, clearTracking] using
      (radioFor_of_inactive hinactive).symm
  | started haction hkeys hfaults hphy h => exact hret h _

/-- **A `start` that fails in an active state leaves it waiting for nothing**: the
device is off, and the state unchanged. -/
theorem not_agrees_of_start {e : Occurrence (System × Radio) Input (List Output)}
    (h : (radioMachine P).Steps e) (hviolates : ¬ StartSafe P e) : ¬ Agrees e.post := by
  unfold StartSafe at hviolates
  push Not at hviolates
  obtain ⟨ursk, params, nodeConfig, callback, haction, hcb, hactive, hfail⟩ := hviolates
  obtain ⟨r, c, hr, henabled, hc, hpost, -⟩ := radioMachine_steps h
  rw [hpost]
  have hoff {os : List Output} {x : System} (hx : x.inCallback = false)
      (hst : x.session.state = e.pre.1.session.state) (hr : radioAfter r os = .off) :
      ¬ Agrees (x, radioAfter r os) := by
    intro h
    have h := h hx
    rw [hr, hst] at h
    exact radioFor_of_active hactive h.symm
  cases hc with
  | startFailed haction' hvalid hkeys => exact hoff hcb rfl rfl
  | unconfigured haction' hkeys hphy => exact hoff hcb rfl rfl
  | started haction' hkeys hfaults hphy h =>
    obtain ⟨rfl, rfl, rfl, rfl⟩ := Action.start.inj (haction.symm.trans haction')
    rcases hkeys with hkeys | ⟨hvalid, -⟩
    · exact absurd hkeys ((hfail hphy).2 _)
    · exact absurd hvalid (hfail hphy).1
  | delivered h =>
    have hevent := h.isRadioEvent
    rw [haction] at hevent
    cases hevent
  | _ => simp_all [Action.isRadioEvent]

/-- **The session and its radio agree** in every state that a run reaches whose
`start` calls are safe; and a `start` that is not breaks the agreement. -/
theorem session_agrees_with_radio (filter : RangeConsensusFilter) :
    (∀ tr t, (radioMachine P).Run (System.initial filter, .off) tr t →
      (∀ e ∈ tr, e.input.env.immediateRxStarts = true) → (∀ e ∈ tr, StartSafe P e) → Agrees t) ∧
    ∀ e, (radioMachine P).Steps e → ¬ StartSafe P e → ¬ Agrees e.post := by
  refine ⟨fun tr t h himm hsafe => ?_, fun e => not_agrees_of_start⟩
  refine h.invariant (G := fun e => e.input.env.immediateRxStarts = true ∧ StartSafe P e)
    (fun e he => ⟨himm e he, hsafe e he⟩) (fun _ => rfl) ?_
  exact fun e he hgood => agrees_step he hgood.1 hgood.2

/-- A session is started, and started again with a PHY that refuses. -/
def failedRestart : List Input :=
  [⟨.start (Bytes.zero 32) sampleParams {} none, {}⟩,
    ⟨.start (Bytes.zero 32) sampleParams {} none,
      { configurePhyError := some .transceiverError }⟩]

/-- The hypotheses of `session_agrees_with_radio` are satisfiable: a session that
is started and then receives a PrePoll, and a listening session whose restart
fails. -/
theorem session_agrees_with_radio_sample :
    (∃ tr t, (radioMachine .sample).Run (System.initial {}, .off) tr t ∧
      tr.map (·.input) = [⟨.start (Bytes.zero 32) sampleParams {} none, {}⟩,
        samplePrePoll 1 { pollStsIndex := 1 }] ∧ Agrees t) ∧
    ∃ e, (radioMachine .sample).Steps e ∧ e.pre.1.session.state = .prePollListening ∧
      ¬ Agrees e.post := by
  constructor
  · obtain ⟨tr, t, hrun, hin, h⟩ := Machine.exists_run_of_exec (M := radioMachine .sample)
      (s := (System.initial {}, .off))
      (l := [⟨.start (Bytes.zero 32) sampleParams {} none, {}⟩,
        samplePrePoll 1 { pollStsIndex := 1 }])
      (p := fun tr _ => tr.all fun e =>
        e.input.env.immediateRxStarts &&
          (!e.pre.1.session.state.active || e.pre.1.session.materialValid)
        && e.input.env.configurePhyError.isNone)
      (by decide +kernel)
    simp only [List.all_eq_true, Bool.and_eq_true, Bool.or_eq_true, Bool.not_eq_true',
      Option.isNone_iff_eq_none] at h
    refine ⟨tr, t, hrun, hin, (session_agrees_with_radio {}).1 tr t hrun (fun e he => (h e he).1.1)
      fun e he _ _ _ _ _ _ hactive => ⟨(h e he).2, ?_⟩⟩
    rcases (h e he).1.2 with hin | hvalid
    · exact absurd hactive (Bool.eq_false_iff.1 hin)
    · exact Or.inl hvalid
  · obtain ⟨e, hs, hpre, hi⟩ := Machine.exists_steps (M := radioMachine .sample)
      (s := (⟨{ state := .prePollListening }, false⟩, .receiving))
      (i := ⟨.start (Bytes.zero 32) sampleParams {} none,
        { configurePhyError := some .transceiverError }⟩) (by decide +kernel)
    refine ⟨e, hs, by rw [hpre], (session_agrees_with_radio {}).2 _ hs fun hsafe => ?_⟩
    have h := (hsafe _ _ _ _ (by rw [hi]) (by rw [hpre]) (by rw [hpre]; rfl)).1
    rw [hi] at h
    cases h

/-- **Without that condition they need not**: after `failedRestart` the session
listens with the device off. -/
theorem failedRestart_not_agrees : ∃ tr t,
    (radioMachine .sample).Run (System.initial {}, .off) tr t ∧ tr.map (·.input) = failedRestart ∧
      (∀ e ∈ tr, e.input.env.immediateRxStarts = true) ∧ ¬ Agrees t := by
  obtain ⟨tr, t, hrun, hin, h⟩ := Machine.exists_run_of_exec (M := radioMachine .sample)
    (s := (System.initial {}, .off)) (l := failedRestart)
    (p := fun tr t => tr.all (·.input.env.immediateRxStarts) && !t.1.inCallback &&
      decide (t.2 ≠ radioFor t.1.session.state)) (by decide +kernel)
  simp only [Bool.and_eq_true, List.all_eq_true, Bool.not_eq_true', decide_eq_true_eq] at h
  exact ⟨tr, t, hrun, hin, h.1.1, fun hag => h.2 (hag h.1.2)⟩

end Session
end AliroUwb
