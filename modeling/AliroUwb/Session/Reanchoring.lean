/-
# A re-anchored session is a new one

`resumeWithAnchor` keeps what `start` was given, but for the first STS index, derives
the key material again and clears the tracking.  Nothing else of the suspended session
matters: what follows a successful `resumeWithAnchor` is what follows a `start` with the
same key, parameters, node configuration and callback, and with the new STS index,
input for input and output for output (`reanchored_is_fresh`).

As for `start`, the stash must hold no PrePoll that the new session accepts
(`Session.CleanSlate`).  The detector of unstable angles is reset by the one and newly
constructed by the other, which is the same because its configuration never changes.
-/

import AliroUwb.Session.CleanSlate

namespace AliroUwb
namespace Session

open Stepwise Crypto Protocol Ranging Transceiver

variable {P : Platform}

/-! ### The configuration of the angle detector -/

/-- The configuration of the detector stays as it is. -/
theorem config_nextStability (s : SessionMembers) :
    (nextStability P s).2.config = s.aoaStability.config := by
  unfold nextStability
  split_ifs <;> rfl

/-- The evaluation keeps the configuration of the detector. -/
theorem detectorConfig_evaluateFinalData (env : Env) (finalData : FinalDataPayload) (c : Ctx) :
    (evaluateFinalData P env finalData c).session.aoaStability.config =
      c.session.aoaStability.config := by
  have harm (c : Ctx) := congrArg AoaStabilityDetector.config
    (aoaStability_armPrePollListening (P := P) env c)
  unfold evaluateFinalData
  split_ifs
  · exact harm c
  cases ownReport c.session finalData with
  | none => exact harm c
  | some report =>
    dsimp only
    cases calculateDistance (dsTwrTimestamps c.session.measurement finalData report)
        c.session.nodeConfig.antennaDelayBias with
    | error => exact harm c
    | ok distance =>
      dsimp only
      rw [evaluateDistance_eq]
      cases c.session.callback with
      | none => exact (harm _).trans (config_nextStability c.session)
      | some => exact config_nextStability c.session

/-- The reception of a FinalData keeps the configuration of the detector. -/
theorem detectorConfig_handleFinalDataReception (env : Env) (c : Ctx) :
    (handleFinalDataReception P env c).session.aoaStability.config =
      c.session.aoaStability.config := by
  have harm (c : Ctx) := congrArg AoaStabilityDetector.config
    (aoaStability_armPrePollListening (P := P) env c)
  rw [handleFinalDataReception_eq]
  cases receivedFrame env with
  | none => exact harm _
  | some frame =>
    dsimp only
    unfold handleFinalDataFrame
    dsimp only [Ctx.run]
    rcases checkFinalDataFrame P (c.readRx env).session frame (c.readRx env).faults with
      ⟨e | ⟨mhr, finalData⟩, f⟩
    · exact harm _
    · exact detectorConfig_evaluateFinalData ..

/-- **No step changes the configuration of the detector**, which is the default one. -/
theorem detectorConfig_step {e : Event} (he : (machine P).Steps e)
    (hpre : e.pre.session.aoaStability.config = {}) :
    e.post.session.aoaStability.config = {} := by
  by_cases hfinal : (∃ event, e.input.action = .rxSuccess event) ∧
      e.pre.session.state = .awaitingFinalData
  · obtain ⟨⟨event, haction⟩, hstate⟩ := hfinal
    rw [(handled_of_steps he haction hstate).1, detectorConfig_handleFinalDataReception]
    exact hpre
  obtain ⟨-, c, hc, hpost, -⟩ := served_of_steps he
  rw [hpost]
  have hunstashed {c₁ : Ctx} (h : Unstashed P c₁ c) :
      c.session.aoaStability = c₁.session.aoaStability := by
    obtain ⟨_, _, _, _, _, _, _, rfl, -, -⟩ := h.frame
    rfl
  cases hc with
  | abandoned _ _ _ h | ineligible _ _ _ _ _ _ _ h | unkeyed _ _ _ _ _ _ _ h | late _ _ _ _ _ h
  | finalReceived _ _ h | callbackReturned _ h =>
    exact (congrArg AoaStabilityDetector.config (hunstashed h)).trans hpre
  | resumed _ _ h | anchored _ _ _ _ h =>
    obtain ⟨_, _, _, _, _, _, _, rfl, -, -⟩ := h.frame
    exact hpre
  | started _ _ _ _ h =>
    obtain ⟨_, _, _, _, _, _, _, rfl, -, -⟩ := h.frame
    rfl
  | bootstrapped _ _ _ _ _ _ _ _ h =>
    obtain ⟨_, _, _, rfl, -⟩ := h.frame
    exact hpre
  | undelivered haction hstate => exact absurd ⟨⟨_, haction⟩, hstate⟩ hfinal
  | delivered h => exact absurd ⟨h.action, h.state_before⟩ hfinal
  | unconfigured => rfl
  | _ => exact hpre

/-- **The detector is the one that a new session has**, up to its readings. -/
theorem detectorConfig_of_run {filter : RangeConsensusFilter} {t : System} {tr : List Event}
    (h : (machine P).Run (System.initial filter) tr t) : t.session.aoaStability.config = {} :=
  h.invariant (P := fun x => x.session.aoaStability.config = {}) (G := fun _ => True)
    (fun _ _ => trivial) rfl fun _ he _ hpre => detectorConfig_step he hpre

/-! ### Re-anchoring -/

/-- A `resumeWithAnchor` that derives its key material, in a session with nothing of use in
its stash, leaves the session that a clean start leaves. -/
theorem resumeWithAnchor_eq (env : Env) {newStsIndex0 : StsIndex} {c : Ctx} {keys : KeyMaterial}
    {faults : Faults} (hstate : c.session.state = .suspended)
    (hdetector : c.session.aoaStability.config = {})
    (hkeys : deriveKeyMaterial P.crypto c.session.ursk
      { c.session.params with stsIndex0 := newStsIndex0 } c.faults = (.ok keys, faults))
    (hstash : c.session.stashLen = 0 ∨ ∃ e, (checkPrePollFrame P
      { params := { c.session.params with stsIndex0 := newStsIndex0 }, keys }
      c.session.stashedFrame faults).1 = .error e) :
    (resumeWithAnchor P env newStsIndex0 c).session =
        c.session.startedClean c.session.ursk
          { c.session.params with stsIndex0 := newStsIndex0 } c.session.nodeConfig
          c.session.callback keys ∧
      (resumeWithAnchor P env newStsIndex0 c).inCallback = c.inCallback := by
  let c₁ : Ctx := c.modify fun s =>
    { s with params := { s.params with stsIndex0 := newStsIndex0 }, materialValid := false }
  let c₂ : Ctx := Ctx.listen env
    { c₁ with session := c.session.reanchored newStsIndex0 keys, faults }
  have hresumed : resumeWithAnchor P env newStsIndex0 c =
      return' (.ok ()) (processStashedPrePoll P c₂) := by
    have h : resumeWithAnchor P env newStsIndex0 c =
        if c.session.state ≠ .suspended then return' (.error .invalidState) c
        else if !(deriveSessionMaterial P c₁).session.materialValid then
          return' (.error (deriveSessionMaterial P c₁).session.lastDeriveError)
            (deriveSessionMaterial P c₁)
        else return' (.ok ()) (armPrePollListening P env ((deriveSessionMaterial P c₁).modify
          fun s => { clearTracking s with aoaStability := s.aoaStability.reset })) := rfl
    rw [h, if_neg (not_not.2 hstate), deriveSessionMaterial_of_ok (c := c₁) hkeys,
      if_neg (by simp), armPrePollListening_eq]
    rfl
  have hcheck : checkPrePollFrame P { c₂.session with stashLen := 0 } c₂.session.stashedFrame =
      checkPrePollFrame P { params := { c.session.params with stsIndex0 := newStsIndex0 }, keys }
        c.session.stashedFrame :=
    checkPrePollFrame_fresh _ rfl rfl ⟨rfl, rfl⟩ ⟨rfl, rfl⟩
  rw [← hcheck] at hstash
  obtain ⟨faults', hunstashed⟩ := processStashedPrePoll_of_useless (P := P) (c := c₂) rfl hstash
  have hreset : c.session.aoaStability.reset = .new {} := by
    rw [AoaStabilityDetector.reset_eq, hdetector]
  rw [hresumed, hunstashed]
  refine ⟨?_, rfl⟩
  simp only [SessionMembers.startedClean, SessionMembers.prepared, ← hreset]
  rfl

/-- What a successful clean re-anchoring has done. -/
theorem post_of_cleanAnchor {e : Event} {newStsIndex0 : StsIndex} (he : (machine P).Steps e)
    (hanchor : e.input.action = .resumeWithAnchor newStsIndex0) (hok : succeeded e = true)
    (hdetector : e.pre.session.aoaStability.config = {})
    (hclean : CleanStart P e.pre.session e.input.env e.pre.session.ursk
      { e.pre.session.params with stsIndex0 := newStsIndex0 }) : ∃ keys faults,
    deriveKeyMaterial P.crypto e.pre.session.ursk
      { e.pre.session.params with stsIndex0 := newStsIndex0 } e.input.env.faults =
        (.ok keys, faults) ∧
      e.post = ⟨e.pre.session.startedClean e.pre.session.ursk
        { e.pre.session.params with stsIndex0 := newStsIndex0 } e.pre.session.nodeConfig
        e.pre.session.callback keys, e.pre.inCallback⟩ := by
  obtain ⟨keys, faults, hkeys, hstash⟩ := hclean
  obtain ⟨-, hpost, hout⟩ := steps_iff.1 he
  have hserve : serve P e.input (e.pre.enter e.input) =
      resumeWithAnchor P e.input.env newStsIndex0 (e.pre.enter e.input) := by
    unfold serve
    rw [hanchor]
  rw [hserve] at hpost hout
  -- only a suspended session is re-anchored
  have hstate : e.pre.session.state = .suspended := by
    by_contra hstate
    have hr := of_decide_eq_true hok
    rw [hout, resumeWithAnchor, if_pos (show (e.pre.enter e.input).session.state ≠ .suspended
      from hstate)] at hr
    simp [return', Ctx.emit, System.enter] at hr
  obtain ⟨hsession, hin⟩ := resumeWithAnchor_eq e.input.env (c := e.pre.enter e.input)
    hstate hdetector hkeys hstash
  refine ⟨keys, faults, hkeys, ?_⟩
  rw [hpost, hsession, hin]
  rfl

/-- **A re-anchored session is a new one.**  Take a session that has been re-anchored with
success, and any session over the same filter that has been started with the key, node
configuration and callback of the first, and its parameters with the new STS index, both
outside or both inside of their callbacks and without a stashed PrePoll that the new
session accepts.  Whatever has gone before in either, every run that follows in the one
is matched by a run that follows in the other, with the same inputs and outputs. -/
theorem reanchored_is_fresh {filter : RangeConsensusFilter} {tr₁ tr₂ : List Event}
    {e₁ e₂ : Event} {t₁ t₂ : System}
    (h₁ : (machine P).Run (System.initial filter) (tr₁ ++ [e₁]) t₁)
    (h₂ : (machine P).Run (System.initial filter) (tr₂ ++ [e₂]) t₂)
    {newStsIndex0 : StsIndex} (hanchor : e₁.input.action = .resumeWithAnchor newStsIndex0)
    (hstart : e₂.input.action = .start e₁.pre.session.ursk
      { e₁.pre.session.params with stsIndex0 := newStsIndex0 } e₁.pre.session.nodeConfig
      e₁.pre.session.callback)
    (hok₁ : succeeded e₁ = true) (hok₂ : succeeded e₂ = true)
    (hcallback : e₂.pre.inCallback = e₁.pre.inCallback)
    (hclean₁ : CleanStart P e₁.pre.session e₁.input.env e₁.pre.session.ursk
      { e₁.pre.session.params with stsIndex0 := newStsIndex0 })
    (hclean₂ : CleanStart P e₂.pre.session e₂.input.env e₁.pre.session.ursk
      { e₁.pre.session.params with stsIndex0 := newStsIndex0 }) :
    (∀ tr t, (machine P).Run t₁ tr t → ∃ tr' t', (machine P).Run t₂ tr' t' ∧
      tr'.map (·.input) = tr.map (·.input) ∧ tr'.map (·.output) = tr.map (·.output)) ∧
    ∀ tr t, (machine P).Run t₂ tr t → ∃ tr' t', (machine P).Run t₁ tr' t' ∧
      tr'.map (·.input) = tr.map (·.input) ∧ tr'.map (·.output) = tr.map (·.output) := by
  obtain ⟨hrun₁, he₁, rfl⟩ := h₁.at_step
  obtain ⟨hrun₂, he₂, rfl⟩ := h₂.at_step
  obtain ⟨keys, faults₁, hkeys₁, hpost₁⟩ :=
    post_of_cleanAnchor he₁ hanchor hok₁ (detectorConfig_of_run hrun₁) hclean₁
  obtain ⟨keys', faults₂, hkeys₂, hpost₂, -⟩ := post_of_cleanStart he₂ hstart hok₂ hclean₂
  -- the engine derives the same keys, whatever calls fail
  have hsteady := steady_deriveKeyMaterial P.crypto e₁.pre.session.ursk
    { e₁.pre.session.params with stsIndex0 := newStsIndex0 }
  obtain rfl : keys' = keys := Except.ok.inj
    ((hsteady.value_of_ok (congrArg Prod.fst hkeys₂)).symm.trans
      (hsteady.value_of_ok (congrArg Prod.fst hkeys₁)))
  have hfilter : e₂.pre.session.filter.config = e₁.pre.session.filter.config :=
    (filterConfig_of_run hrun₂).trans (filterConfig_of_run hrun₁).symm
  rw [hpost₁, hpost₂, hcallback]
  exact ⟨fun _ _ hrun => (alikeSystems_startedClean hfilter).run hrun,
    fun _ _ hrun => (alikeSystems_startedClean hfilter.symm).run hrun⟩

/-- A session that is suspended in an exchange and re-anchored. -/
def anchoredSession : List Input :=
  [sampleStart sampleParams {}, samplePrePoll 1 { pollStsIndex := 1 }, ⟨.suspend, {}⟩,
    ⟨.resumeWithAnchor 7, {}⟩]

/-- The hypotheses of `reanchored_is_fresh` are satisfiable. -/
theorem reanchored_is_fresh_sample : ∃ tr₁ t₁ tr₂ t₂,
    (machine .sample).Run (System.initial {}) tr₁ t₁ ∧ tr₁.map (·.input) = anchoredSession ∧
      (machine .sample).Run (System.initial {}) tr₂ t₂ ∧
      tr₂.map (·.input) = [sampleStart { sampleParams with stsIndex0 := 7 } {}] ∧
      ∀ tr t, (machine .sample).Run t₁ tr t → ∃ tr' t', (machine .sample).Run t₂ tr' t' ∧
        tr'.map (·.input) = tr.map (·.input) ∧ tr'.map (·.output) = tr.map (·.output) := by
  obtain ⟨tr₁, t₁, hrun₁, hin₁, h₁⟩ := Machine.exists_run_of_exec (M := machine .sample)
    (s := System.initial {}) (l := anchoredSession) (p := fun tr _ => tr.getLast?.any fun e =>
      startsAfresh e && decide ((e.pre.session.ursk, e.pre.session.params,
        e.pre.session.nodeConfig, e.pre.session.callback) =
          (Bytes.zero 32, sampleParams, {}, some 0))) (by decide +kernel)
  obtain ⟨tr₂, t₂, hrun₂, hin₂, h₂⟩ := Machine.exists_run_of_exec (M := machine .sample)
    (s := System.initial {}) (l := [sampleStart { sampleParams with stsIndex0 := 7 } {}])
    (p := fun tr _ => tr.getLast?.any startsAfresh) (by decide +kernel)
  obtain ⟨e₁, hlast₁, hafresh₁⟩ := (Option.any_eq_true _ _).1 h₁
  obtain ⟨tr₁, rfl⟩ := List.getLast?_eq_some_iff.1 hlast₁
  obtain ⟨e₂, hlast₂, hafresh₂⟩ := (Option.any_eq_true _ _).1 h₂
  obtain ⟨tr₂, rfl⟩ := List.getLast?_eq_some_iff.1 hlast₂
  have hinput₁ : e₁.input = ⟨.resumeWithAnchor 7, {}⟩ := by
    have hlast := congrArg List.getLast? hin₁
    rw [List.map_append, List.map_singleton, List.getLast?_concat] at hlast
    exact Option.some.inj hlast
  have hinput₂ : e₂.input = sampleStart { sampleParams with stsIndex0 := 7 } {} := by
    have hlast := congrArg List.getLast? hin₂
    rw [List.map_append, List.map_singleton, List.getLast?_concat] at hlast
    exact Option.some.inj hlast
  simp only [startsAfresh, Bool.and_eq_true, decide_eq_true_eq, Bool.not_eq_true',
    Prod.mk.injEq] at hafresh₁ hafresh₂
  obtain ⟨⟨⟨hok₁, hstash₁⟩, hcb₁⟩, hursk, hparams, hnode, hcallback⟩ := hafresh₁
  obtain ⟨⟨hok₂, hstash₂⟩, hcb₂⟩ := hafresh₂
  obtain ⟨keys, hkeys⟩ := deriveKeyMaterial_noFaults Platform.sample.crypto (Bytes.zero 32)
    { sampleParams with stsIndex0 := 7 }
  have hfresh := reanchored_is_fresh hrun₁ hrun₂ (by rw [hinput₁])
    (by rw [hinput₂, hursk, hparams, hnode, hcallback]; rfl) hok₁ hok₂ (hcb₂.trans hcb₁.symm)
    (by rw [hursk, hparams, hinput₁]; exact ⟨keys, noFaults, hkeys, Or.inl hstash₁⟩)
    (by rw [hursk, hparams, hinput₂]; exact ⟨keys, noFaults, hkeys, Or.inl hstash₂⟩)
  exact ⟨tr₁ ++ [e₁], t₁, tr₂ ++ [e₂], t₂, hrun₁, hin₁, hrun₂, hin₂, hfresh.1⟩

end Session
end AliroUwb
