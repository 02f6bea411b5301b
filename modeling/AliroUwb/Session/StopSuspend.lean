/-
# Stopping and suspending

Once the owner has called `stop` the session is meant to stay idle until the
next `start`, and once it has called `suspend` to stay suspended until it is
resumed.  `watch` follows the record of a run and remembers which of the two is
in force (`Hold`) and what the device has been told to do; `Kept` says that a
step leaves the session where the hold wants it, the device off and the outside
undisturbed.

`stop_and_suspend_last` says exactly when every step of a run keeps the hold: a
callback must not return under one, and a stopped session must not be suspended.
The first is the tail of `handleFinalDataReception`, which listens again
whatever the callback has done; the second is `suspend`, which has no guard.
-/

import AliroUwb.Session.Steps

namespace AliroUwb
namespace Session

open Stepwise Crypto Protocol Ranging Transceiver

variable {P : Platform}

/-- What the owner has asked for last. -/
inductive Hold
  | stopped
  | suspended
  deriving DecidableEq, Repr

/-- The state a hold asks for. -/
def Hold.state : Hold → SessionState
  | .stopped => .idle
  | .suspended => .suspended

/-- The hold after an action: a stop lasts until the next start, a suspension
also ends with a resumption or a stop. -/
def Hold.next : Option Hold → Action → Option Hold
  | _, .start .. => none
  | _, .stop => some .stopped
  | some .stopped, .suspend => some .stopped
  | _, .suspend => some .suspended
  | some .suspended, .resume => none
  | some .suspended, .resumeWithAnchor _ => none
  | h, _ => h

/-- What is watched along a run. -/
structure Watch where
  hold : Option Hold := none
  radio : Radio := .off

/-- What is watched after a step. -/
def Watch.next (w : Watch) (e : Event) : Watch :=
  ⟨Hold.next w.hold e.input.action, radioAfter w.radio e.output⟩

/-- What has been watched after a record. -/
def watch (tr : List Event) : Watch := tr.foldl Watch.next {}

/-- The session arms the radio, transmits, or calls back. -/
def Output.disturbs : Output → Bool
  | .command (.startDelayedTx ..) | .command (.startDelayedRx ..)
  | .command (.startImmediateRx ..) | .range .. => true
  | _ => false

/-- If a hold is in force after the step, the session is in its state, the
device off, and the step has disturbed nobody. -/
def Kept (w : Watch) (e : Event) : Prop :=
  ∀ h, Hold.next w.hold e.input.action = some h →
    e.post.session.state = h.state ∧ radioAfter w.radio e.output = .off ∧
      ∀ o ∈ e.output, o.disturbs = false

/-- The calls that would lose a hold are not made. -/
def HoldSafe (w : Watch) (e : Event) : Prop :=
  (e.input.action = .callbackReturn → w.hold = none) ∧
    (e.input.action = .suspend → w.hold ≠ some .stopped)

/-- A session under a hold. -/
def Holds (w : Watch) (x : System) : Prop :=
  ∀ h, w.hold = some h → x.session.state = h.state ∧ w.radio = .off

/-- A session on hold is inactive. -/
theorem Hold.state_inactive (h : Hold) : h.state.active = false := by cases h <;> rfl

/-- An event leaves the hold as it is. -/
theorem Hold.next_of_isRadioEvent {a : Action} (ha : a.isRadioEvent = true) (h : Option Hold) :
    Hold.next h a = h := by
  rcases h with _ | _ | _ <;> cases a <;> first | rfl | cases ha

/-- **A step keeps the hold**, unless it is one of the two that lose it. -/
theorem kept_of_steps {w : Watch} {e : Event} (he : (machine P).Steps e) (hsafe : HoldSafe w e)
    (hpre : Holds w e.pre) : Kept w e := by
  intro h hnext
  obtain ⟨henabled, c, hc, hpost, hout⟩ := served_of_steps he
  rw [hpost, hout]
  by_cases hevent : e.input.action.isRadioEvent = true
  · rw [Hold.next_of_isRadioEvent hevent] at hnext
    obtain ⟨hst, hr⟩ := hpre h hnext
    rcases hc.of_isRadioEvent hevent with rfl | hactive
    · exact ⟨hst, hr, by simp [System.enter]⟩
    · have hst' : (e.pre.enter e.input).session.state = h.state := hst
      rw [hst', h.state_inactive] at hactive
      cases hactive
  cases hc with
  | ignored hev | abandoned hev => exact absurd hev hevent
  | rearmed haction | ineligible haction | unkeyed haction | bootstrapped haction | warmed haction
  | responded haction | late haction | transmitted haction | finalReceived haction
  | undelivered haction => exact absurd (by rw [haction]; rfl) hevent
  | delivered h => exact absurd h.isRadioEvent hevent
  | callbackReturned haction =>
    rw [haction, hsafe.1 haction] at hnext
    cases hnext
  | startFailed haction | unconfigured haction | started haction =>
    rw [haction] at hnext
    cases hnext
  | stopped haction =>
    rw [haction] at hnext
    obtain rfl : Hold.stopped = h := by rcases w with ⟨_ | _ | _, _⟩ <;> exact Option.some.inj hnext
    simp [System.enter, Radio.command, Output.disturbs, Hold.state]
  | suspended haction =>
    have hne := hsafe.2 haction
    rw [haction] at hnext
    obtain rfl : Hold.suspended = h := by
      rcases w with ⟨_ | _ | _, _⟩
      · exact Option.some.inj hnext
      · exact absurd rfl hne
      · exact Option.some.inj hnext
    simp [System.enter, Radio.command, Output.disturbs, Hold.state]
  | refused haction hstate =>
    -- only a stopped session is still under its hold, and stays as it is
    have hw : w.hold = some h := by
      rcases w with ⟨_ | _ | _, _⟩ <;> rcases haction with ha | ⟨n, ha⟩ <;> rw [ha] at hnext <;>
        first | exact hnext | cases hnext
    obtain ⟨hst, hr⟩ := hpre h hw
    exact ⟨hst, by simpa [System.enter] using hr, by simp [System.enter, Output.disturbs]⟩
  | resumed haction hstate | anchorFailed haction hstate | anchored haction hstate =>
    -- a suspended session is under no hold any more, a stopped one not suspended
    exfalso
    rw [haction] at hnext
    have hst : e.pre.session.state = .suspended := hstate
    rcases hw : w.hold with _ | _ | _
    · rw [hw] at hnext; cases hnext
    · have := (hpre _ hw).1
      rw [hst] at this
      cases this
    · rw [hw] at hnext; cases hnext

/-- A kept hold is in force afterwards. -/
theorem Kept.holds {w : Watch} {e : Event} (h : Kept w e) : Holds (w.next e) e.post :=
  fun hold hn => ⟨(h hold hn).1, (h hold hn).2.1⟩

/-- **A step that keeps the hold is not one of the two that lose it.** -/
theorem holdSafe_of_kept {w : Watch} {e : Event} (he : (machine P).Steps e) (h : Kept w e) :
    HoldSafe w e := by
  constructor
  · intro haction
    by_contra hne
    obtain ⟨hold, hw⟩ := Option.ne_none_iff_exists'.1 hne
    have hst := (h hold (by rw [haction, hw]; cases hold <;> rfl)).1
    obtain ⟨c, hu, hpost, -⟩ := unstashed_of_callbackReturn he haction
    obtain ⟨_, _, _, _, _, _, _, rfl, -, -⟩ := hu.frame
    rw [hpost] at hst
    cases hold <;> cases hst
  · intro haction hw
    have hst := (h .stopped (by rw [haction, hw]; rfl)).1
    have hpost := (steps_iff.1 he).2.1
    unfold serve at hpost
    rw [haction] at hpost
    rw [hpost] at hst
    cases hst

/-- **Stops and suspensions last exactly as long as no callback returns under
one and no stopped session is suspended.** -/
theorem stop_and_suspend_last (filter : RangeConsensusFilter) {tr : List Event} {t : System}
    (h : (machine P).Run (System.initial filter) tr t) :
    (∀ tr₁ e tr₂, tr = tr₁ ++ e :: tr₂ → Kept (watch tr₁) e) ↔
      ∀ tr₁ e tr₂, tr = tr₁ ++ e :: tr₂ → HoldSafe (watch tr₁) e := by
  constructor
  · intro hkept tr₁ e tr₂ htr
    have he := (Machine.Run.at_step (htr ▸ h)).2.1
    exact holdSafe_of_kept he (hkept tr₁ e tr₂ htr)
  · intro hsafe
    refine h.observe (J := Holds) Watch.next hsafe (fun hold hn => by cases hn) ?_ ?_
    · exact fun w e he hgood hJ => (kept_of_steps he hgood hJ).holds
    · exact fun w e he hgood hJ => kept_of_steps he hgood hJ

/-- The hypothesis of `stop_and_suspend_last` is satisfiable: a session that is
started and stopped, and ignores a late event. -/
theorem stop_and_suspend_last_sample : ∃ tr t,
    (machine .sample).Run (System.initial {}) tr t ∧
      tr.map (·.input) = [sampleStart sampleParams {}, ⟨.stop, {}⟩, ⟨.rxTimeout, {}⟩] ∧
      ∀ tr₁ e tr₂, tr = tr₁ ++ e :: tr₂ → Kept (watch tr₁) e := by
  obtain ⟨tr, t, hrun, hin, -⟩ := Machine.exists_run_of_exec (M := machine .sample)
    (s := System.initial {}) (l := [sampleStart sampleParams {}, ⟨.stop, {}⟩, ⟨.rxTimeout, {}⟩])
    (p := fun _ _ => true) (by decide +kernel)
  refine ⟨tr, t, hrun, hin, (stop_and_suspend_last {} hrun).2 fun tr₁ e tr₂ htr => ?_⟩
  have hmem : e.input ∈ tr.map (·.input) := by simp [htr]
  rw [hin] at hmem
  simp only [List.mem_cons, List.not_mem_nil, or_false] at hmem
  rcases hmem with h | h | h <;> exact ⟨by simp [h, sampleStart], by simp [h, sampleStart]⟩

/-- **A stop from the callback is lost**: after the exchange has been delivered
and its callback has stopped the session, the session listens again. -/
theorem stop_in_callback_lost : ∃ tr t,
    (machine .sample).Run (System.initial {}) tr t ∧
      tr.map (·.input) = sampleStart sampleParams {} :: sampleExchange ++
        [⟨.stop, {}⟩, ⟨.callbackReturn, {}⟩] ∧
      (watch tr).hold = some .stopped ∧ t.inCallback = false ∧
      t.session.state = .prePollListening ∧ (watch tr).radio = .receiving := by
  obtain ⟨tr, t, hrun, hin, h⟩ := Machine.exists_run_of_exec (M := machine .sample)
    (s := System.initial {}) (l := sampleStart sampleParams {} :: sampleExchange ++
      [⟨.stop, {}⟩, ⟨.callbackReturn, {}⟩])
    (p := fun tr t => decide ((watch tr).hold = some .stopped) && !t.inCallback &&
      decide (t.session.state = .prePollListening) && decide ((watch tr).radio = .receiving))
    (by decide +kernel)
  simp only [Bool.and_eq_true, Bool.not_eq_true', decide_eq_true_eq] at h
  exact ⟨tr, t, hrun, hin, h.1.1.1, h.1.1.2, h.1.2, h.2⟩

end Session
end AliroUwb
