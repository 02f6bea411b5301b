/-
# One key set

`deriveSessionMaterial` fills the key material member by member and can fail at
each of them, so a session must not run on what a failed derivation has left.
`Consistent` says that the material is what the engine derives from the current
`m_ursk` and `m_params`; the flag `m_materialValid` is meant to vouch for it.

It does where a failed derivation is noticed (`MaterialSafe`): `start` does not
clear the flag, so it misses a failure after an earlier success, and neither
`resume` nor the return of a callback asks for the flag.
`active_session_is_consistent` proves the invariant for the runs in which this
does not happen.
-/

import AliroUwb.Session.Steps

namespace AliroUwb
namespace Session

open Stepwise Crypto Protocol Ranging Transceiver

variable {P : Platform}

/-- The key material is the one derived from the session's own URSK and
parameters. -/
def Consistent (P : Platform) (s : SessionMembers) : Prop :=
  value (deriveKeyMaterial P.crypto s.ursk s.params) = .ok s.keys

/-- Consistency can be computed. -/
instance (P : Platform) (s : SessionMembers) : Decidable (Consistent P s) :=
  inferInstanceAs (Decidable (_ = _))

/-- The steps in which a missing key material is noticed: `start` derives all of
it, or none was valid before; a session is only resumed, and a callback only
returns, with valid material. -/
structure MaterialSafe (P : Platform) (e : Event) : Prop where
  start : ∀ ursk params nodeConfig callback,
    e.input.action = .start ursk params nodeConfig callback →
      e.pre.session.materialValid = false ∨
        ∃ keys, (deriveKeyMaterial P.crypto ursk params e.input.env.faults).1 = .ok keys
  resume : e.input.action = .resume → e.pre.session.state = .suspended →
    e.pre.session.materialValid = true
  callbackReturn : e.input.action = .callbackReturn → e.pre.session.materialValid = true

/-- What `m_materialValid` vouches for. -/
structure Vouched (P : Platform) (s : SessionMembers) : Prop where
  consistent : s.materialValid = true → Consistent P s
  active : s.state.active = true → s.materialValid = true

/-- Members that have been derived are consistent. -/
theorem consistent_of_derived {s : SessionMembers} {faults : Faults}
    (h : (deriveKeyMaterial P.crypto s.ursk s.params faults).1 = .ok s.keys) : Consistent P s :=
  (steady_deriveKeyMaterial ..).value_of_ok h

/-- Consistency depends on the configuration only. -/
theorem SameConfig.consistent {s t : SessionMembers} (h : SameConfig s t) (hs : Consistent P s) :
    Consistent P t := by
  unfold Consistent at hs ⊢
  rw [h.ursk, h.params, h.keys]
  exact hs

/-- The material `start` goes on with is derived, if the failure is noticed. -/
theorem StartsWith.derived {s : SessionMembers} {ursk : Bytes 32}
    {params : RangingSessionParameters} {faults : Faults} {keys : KeyMaterial}
    (h : StartsWith P s ursk params faults keys)
    (hsafe : s.materialValid = false ∨
      ∃ keys, (deriveKeyMaterial P.crypto ursk params faults).1 = .ok keys) :
    (deriveKeyMaterial P.crypto ursk params faults).1 = .ok keys := by
  rcases h with h | ⟨hvalid, e, h⟩
  · exact h
  · rcases hsafe with hf | ⟨k, hk⟩
    · exact absurd (hf.symm.trans hvalid) (by simp)
    · exact absurd (h.symm.trans hk) (by simp)

/-- **A step in which a missing material is noticed keeps the flag honest.** -/
theorem vouched_step {e : Event} (he : (machine P).Steps e) (hsafe : MaterialSafe P e)
    (hpre : Vouched P e.pre.session) : Vouched P e.post.session := by
  obtain ⟨henabled, c, hc, hpost, -⟩ := served_of_steps he
  rw [hpost]
  dsimp only
  by_cases hno : e.input.action.configures = false
  · have hsame := hc.sameConfig hno
    have hvalid : c.session.materialValid = e.pre.session.materialValid := hsame.materialValid
    refine ⟨fun h => hsame.consistent (hpre.consistent (hvalid ▸ h)), fun hactive => ?_⟩
    rw [hvalid]
    rcases hc.active_before hno hactive with h | ⟨ha, hst⟩ | ha
    · exact hpre.active h
    · exact hsafe.resume ha hst
    · exact hsafe.callbackReturn ha
  cases hc with
  | ignored hev | abandoned hev => exact absurd (Action.configures_of_isRadioEvent hev) hno
  | rearmed haction | ineligible haction | unkeyed haction | bootstrapped haction | warmed haction
  | responded haction | late haction | transmitted haction | finalReceived haction
  | undelivered haction | callbackReturned haction | stopped haction | suspended haction
  | resumed haction => exact absurd (by rw [haction]; rfl) hno
  | delivered h => exact absurd (Action.configures_of_isRadioEvent h.isRadioEvent) hno
  | refused haction hstate => exact hpre
  | anchorFailed haction hstate hkeys =>
    refine ⟨fun h => by simp at h, fun h => ?_⟩
    have hst : e.pre.session.state = .suspended := hstate
    simp [System.enter, hst, SessionState.active] at h
  | anchored haction hstate hkeys hfaults hu =>
    have hsame := sameConfig_of_unstashed hu
    refine ⟨fun _ => hsame.consistent ?_, fun _ => hsame.materialValid⟩
    exact consistent_of_derived hkeys
  | startFailed haction hvalid hkeys =>
    have hv : e.pre.session.materialValid = false := hvalid
    refine ⟨fun h => absurd (hv.symm.trans h) (by simp), fun h => ?_⟩
    exact absurd (hv.symm.trans (hpre.active h)) (by simp)
  | unconfigured haction hkeys hphy =>
    refine ⟨fun _ => ?_, fun _ => rfl⟩
    exact consistent_of_derived (hkeys.derived (hsafe.start _ _ _ _ haction))
  | started haction hkeys hfaults hphy hu =>
    have hsame := sameConfig_of_unstashed hu
    refine ⟨fun _ => hsame.consistent ?_, fun _ => hsame.materialValid⟩
    exact consistent_of_derived (hkeys.derived (hsafe.start _ _ _ _ haction))

/-- **A `start` that succeeds runs on its own arguments**, if a failure is
noticed. -/
theorem started_with_own_keys {e : Event} (he : (machine P).Steps e) (hsafe : MaterialSafe P e)
    {ursk : Bytes 32} {params : RangingSessionParameters} {nodeConfig : SessionNodeConfig}
    {callback : Option ℕ} (haction : e.input.action = .start ursk params nodeConfig callback)
    (hok : succeeded e = true) :
    value (deriveKeyMaterial P.crypto ursk params) = .ok e.post.session.keys := by
  obtain ⟨keys, lastDeriveError, c, c', hkeys, -, hprepared, hu, hpost, -⟩ :=
    started_of_succeeded he haction hok
  have hk := (steady_deriveKeyMaterial ..).value_of_ok
    (hkeys.derived (hsafe.start _ _ _ _ haction))
  have hsame : c'.session.keys = c.session.keys := (sameConfig_of_unstashed hu).keys
  rw [hpost, hsame, hprepared]
  exact hk

/-- **An active session runs on the key set of its own URSK and parameters**, in
every state of a run in which a missing material is noticed; and a `start` that
succeeds there has derived all of it from its arguments. -/
theorem active_session_is_consistent (filter : RangeConsensusFilter) {tr : List Event} {t : System}
    (h : (machine P).Run (System.initial filter) tr t) (hsafe : ∀ e ∈ tr, MaterialSafe P e) :
    (t.session.state.active = true → Consistent P t.session) ∧
    ∀ e ∈ tr, ∀ ursk params nodeConfig callback,
      e.input.action = .start ursk params nodeConfig callback → succeeded e = true →
        value (deriveKeyMaterial P.crypto ursk params) = .ok e.post.session.keys := by
  have hinit : Vouched P (System.initial filter).session := ⟨(nomatch ·), (nomatch ·)⟩
  have hv := h.invariant (P := fun x => Vouched P x.session) hsafe hinit
    fun e he hgood hJ => vouched_step he hgood hJ
  refine ⟨fun hactive => hv.consistent (hv.active hactive), ?_⟩
  intro e he ursk params nodeConfig callback haction hok
  obtain ⟨tr₁, tr₂, rfl⟩ := List.append_of_mem he
  exact started_with_own_keys h.at_step.2.1 (hsafe e he) haction hok

/-- The hypotheses of `active_session_is_consistent` are satisfiable: a session
that is started, suspended and resumed. -/
theorem active_session_is_consistent_sample : ∃ tr t,
    (machine .sample).Run (System.initial {}) tr t ∧
      tr.map (·.input) = [sampleStart sampleParams {}, ⟨.suspend, {}⟩, ⟨.resume, {}⟩] ∧
      t.session.state.active = true ∧ Consistent .sample t.session := by
  obtain ⟨tr, t, hrun, hin, h⟩ := Machine.exists_run_of_exec (M := machine .sample)
    (s := System.initial {}) (l := [sampleStart sampleParams {}, ⟨.suspend, {}⟩, ⟨.resume, {}⟩])
    (p := fun tr t => t.session.state.active && tr.all fun e =>
      (decide (e.input.action ≠ .resume) || e.pre.session.materialValid) &&
      decide (e.input.action ≠ .callbackReturn) &&
      (!e.pre.session.materialValid ||
        decide (e.input.action = .suspend ∨ e.input.action = .resume)))
    (by decide +kernel)
  simp only [Bool.and_eq_true, List.all_eq_true, Bool.or_eq_true, Bool.not_eq_true',
    decide_eq_true_eq] at h
  refine ⟨tr, t, hrun, hin, h.1, (active_session_is_consistent {} hrun fun e he => ?_).1 h.1⟩
  obtain ⟨⟨hresume, hreturn⟩, hstart⟩ := h.2 e he
  refine ⟨fun _ _ _ _ ha => Or.inl ?_, fun ha _ => ?_, fun ha => absurd ha hreturn⟩
  · rcases hstart with h | h | h
    · exact h
    · rw [ha] at h; cases h
    · rw [ha] at h; cases h
  · rcases hresume with h | h
    · exact absurd ha h
    · exact h

/-- **A restart can succeed with the keys of the session before**: every provider
call of the second `start` fails, and it returns success. -/
theorem restart_with_stale_keys : ∃ tr t,
    (machine .sample).Run (System.initial {}) tr t ∧
      tr.map (·.input) = [sampleStart sampleParams {},
        ⟨.start (Bytes.ofList 32 [1]) sampleParams {} none,
          { faults := Stream'.const (some .cryptoOperationFailed) }⟩] ∧
      (∃ e ∈ tr.getLast?, succeeded e = true) ∧
      t.session.state.active = true ∧ ¬ Consistent .sample t.session := by
  obtain ⟨tr, t, hrun, hin, h⟩ := Machine.exists_run_of_exec (M := machine .sample)
    (s := System.initial {}) (l := [sampleStart sampleParams {},
      ⟨.start (Bytes.ofList 32 [1]) sampleParams {} none,
        { faults := Stream'.const (some .cryptoOperationFailed) }⟩])
    (p := fun tr t => tr.getLast?.any succeeded &&
      t.session.state.active && !decide (Consistent .sample t.session)) (by decide +kernel)
  simp only [Bool.and_eq_true, Option.any_eq_true, Bool.not_eq_true', decide_eq_false_iff_not] at h
  exact ⟨tr, t, hrun, hin, h.1.1, h.1.2, h.2⟩

end Session
end AliroUwb
