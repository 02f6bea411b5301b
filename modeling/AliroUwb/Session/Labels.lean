/-
# The labels of a result

A result carries the block it was measured in and whether it belongs to the
second round of that block.  The session takes both from `m_currentBlock` and
`m_currentRound`, which a PrePoll sets when it is decoded; the measurement
belongs to the exchange whose STS index is armed.  On the warm path the PrePoll
is decoded after the exchange has been armed, from the stash, and this can fail.

A `Plan` is what an initiator runs, and `Honest` says that its frames announce
it.  `results_are_labelled` proves the labels right where a stashed PrePoll turns
out to be that of the armed exchange and the plan is one that `scheduledRoundFor`
knows; `labels_drift` shows what happens where not.
-/

import AliroUwb.Session.Steps

namespace AliroUwb
namespace Session

open Stepwise Crypto Protocol Ranging Transceiver

variable {P : Platform}

/-- The exchanges an initiator runs, by their Poll STS index. -/
structure Plan where
  exchange : StsIndex → BlockIndex × SlotIndex
  /-- The exchange is in the second active round of its block. -/
  second : StsIndex → Bool

/-- A frame the session has accepted announces the exchange it belongs to. -/
def HonestOutput (plan : Plan) (s : SessionMembers) : Output → Prop
  | .acceptedPrePoll _ prePoll =>
    plan.exchange prePoll.pollStsIndex = (prePoll.rangingBlock, prePoll.roundIndex)
  | .acceptedFinalData _ finalData => finalData.finalStsIndex = expectedFinalSts s →
    plan.exchange s.armedPollStsIndex = (finalData.rangingBlock, finalData.roundIndex)
  | _ => True

/-- Whether an output is honest can be computed. -/
instance (plan : Plan) (s : SessionMembers) : DecidablePred (HonestOutput plan s)
  | .acceptedPrePoll .. => inferInstanceAs (Decidable (_ = _))
  | .acceptedFinalData .. => inferInstanceAs (Decidable (_ → _))
  | .command _ | .transition _ | .range .. | .returned _ => inferInstanceAs (Decidable True)

/-- All frames accepted in the step come from an initiator that follows the plan. -/
def Honest (plan : Plan) (e : Event) : Prop := ∀ o ∈ e.output, HonestOutput plan e.pre.session o

/-- Whether a step is honest can be computed. -/
instance (plan : Plan) (e : Event) : Decidable (Honest plan e) :=
  inferInstanceAs (Decidable (∀ o ∈ e.output, _))

/-- The steps in which the labels follow the measurement: a stashed PrePoll that
is due is that of the armed exchange, and the exchange measured runs in the
scheduled round of its block unless it is the second of two. -/
structure LabelSafe (P : Platform) (plan : Plan) (e : Event) : Prop where
  stash : (∃ event, e.input.action = .rxSuccess event) →
    e.pre.session.state = .awaitingFinal → e.pre.session.stashLen ≠ 0 →
    ∃ prePoll, (decodePrePollFrame P e.pre.session.stashedFrame (e.pre.enter e.input)).1 =
        .ok prePoll ∧
      prePoll.pollStsIndex = e.pre.session.armedPollStsIndex
  round : (∃ event, e.input.action = .rxSuccess event) →
    e.pre.session.state = .awaitingFinalData →
    (plan.exchange e.pre.session.armedPollStsIndex).2 = scheduledRoundFor e.pre.session.params
        (plan.exchange e.pre.session.armedPollStsIndex).1 ∨
      (twoRounds e.pre.session.params = true ∧ plan.second e.pre.session.armedPollStsIndex = true)

/-! ### The invariant -/

/-- The session's position is that of the armed exchange. -/
def OnPlan (plan : Plan) (s : SessionMembers) : Prop :=
  plan.exchange s.armedPollStsIndex = (s.currentBlock, s.currentRound)

/-- Where the position and the armed exchange belong together. -/
structure Labels (plan : Plan) (s : SessionMembers) : Prop where
  listening : s.state = .prePollListening → s.stashLen = 0
  armed : s.state = .awaitingPoll ∨ s.state = .transmittingResponse ∨ s.state = .awaitingFinal →
    s.stashLen = 0 → OnPlan plan s
  measured : s.state = .awaitingFinalData → OnPlan plan s

/-- A session that listens has an empty stash. -/
theorem labels_of_listening {plan : Plan} {env : Env} {c c' : Ctx}
    (h : Unstashed P (c.listen env) c') : Labels plan c'.session := by
  obtain ⟨_, _, _, _, _, _, _, rfl, -, -⟩ := h.frame
  refine ⟨fun _ => rfl, fun h => ?_, (nomatch ·)⟩
  rcases h with h | h | h <;> cases h

/-- The members that `Labels` speaks of are the same. -/
theorem Labels.same {plan : Plan} {s t : SessionMembers} (h : Labels plan s)
    (hstate : t.state = s.state) (hlen : t.stashLen = s.stashLen)
    (hindex : t.armedPollStsIndex = s.armedPollStsIndex) (hblock : t.currentBlock = s.currentBlock)
    (hround : t.currentRound = s.currentRound) : Labels plan t := by
  have hplan : OnPlan plan s → OnPlan plan t := by
    unfold OnPlan
    rw [hindex, hblock, hround]
    exact id
  refine ⟨fun hst => ?_, fun hst hl => ?_, fun hst => ?_⟩
  · exact hlen.trans (h.listening (hstate.symm.trans hst))
  · rw [hstate] at hst
    exact hplan (h.armed hst (hlen.symm.trans hl))
  · exact hplan (h.measured (hstate.symm.trans hst))

/-- A stashed PrePoll that is that of the armed exchange, and honest, brings the
session to the position of this exchange. -/
theorem onPlan_of_unstashed {plan : Plan} {c c' : Ctx} {prePoll : PrePollPayload}
    (h : Unstashed P c c') (hlen : c.session.stashLen ≠ 0)
    (hdecode : (checkPrePollFrame P c.session c.session.stashedFrame c.faults).1.map Prod.snd =
      .ok prePoll)
    (hindex : prePoll.pollStsIndex = c.session.armedPollStsIndex)
    (hhonest : ∀ mhr prePoll', .acceptedPrePoll mhr prePoll' ∈ c'.outputs →
      plan.exchange prePoll'.pollStsIndex = (prePoll'.rangingBlock, prePoll'.roundIndex)) :
    OnPlan plan c'.session := by
  have hplan {mhr : MacHeader} {prePoll' : PrePollPayload}
      (hcheck : (checkPrePollFrame P c.session c.session.stashedFrame c.faults).1 =
        .ok (mhr, prePoll')) (hmem : .acceptedPrePoll mhr prePoll' ∈ c'.outputs) :
      plan.exchange c.session.armedPollStsIndex =
        (prePoll'.rangingBlock, prePoll'.roundIndex) := by
    have heq : prePoll' = prePoll := by
      have h := congrArg (Except.map Prod.snd) hcheck
      exact Except.ok.inj (h.symm.trans hdecode)
    rw [← hindex, ← heq]
    exact hhonest mhr prePoll' hmem
  cases h with
  | empty h0 => exact absurd h0 hlen
  | rejected _ hcheck =>
    have hc := congrArg (Except.map Prod.snd) hcheck
    exact absurd (hc.symm.trans hdecode) (by simp [Except.map])
  | ineligible _ hcheck => exact hplan hcheck (by simp)
  | eligible _ hcheck _ _ hwarm =>
    obtain ⟨_, _, _, rfl, -⟩ := hwarm.frame
    exact hplan hcheck (by simp)

/-- **A step that is safe keeps position and armed exchange together.** -/
theorem labels_step {plan : Plan} {e : Event} (he : (machine P).Steps e) (hhonest : Honest plan e)
    (hsafe : LabelSafe P plan e) (hpre : Labels plan e.pre.session) :
    Labels plan e.post.session := by
  obtain ⟨-, c, hc, hpost, hout⟩ := served_of_steps he
  unfold Honest at hhonest
  rw [hout] at hhonest
  rw [hpost]
  dsimp only at hhonest ⊢
  have hstate {state : SessionState} (h : (e.pre.enter e.input).session.state = state) :
      e.pre.session.state = state := h
  cases hc with
  | ignored | rearmed | refused => exact hpre
  | abandoned _ _ _ h | ineligible _ _ _ _ _ _ _ h | unkeyed _ _ _ _ _ _ _ h | late _ _ _ _ _ h
  | undelivered _ _ _ _ _ h | callbackReturned _ h => exact labels_of_listening h
  | resumed _ _ h | anchored _ _ _ _ h | started _ _ _ _ h =>
    have hlabels : Labels plan _ := labels_of_listening h
    exact hlabels
  | @bootstrapped event _ frame mhr prePoll armed _ _ haction hst hwarm hframe hcheck hparity
      hkeys hfaults h =>
    obtain ⟨_, _, _, rfl, -⟩ := h.frame
    have hann : plan.exchange prePoll.pollStsIndex = (prePoll.rangingBlock, prePoll.roundIndex) :=
      hhonest (.acceptedPrePoll mhr prePoll) (by simp)
    refine ⟨(nomatch ·), fun _ _ => ?_, (nomatch ·)⟩
    exact (congrArg plan.exchange hkeys.pollStsIndex).trans hann
  | @warmed event _ frame _ _ haction hst hwarm hframe hstash hvalid =>
    have hlen := length_of_receivedFrame hframe
    have hne : UInt16.ofNat (min frame.length 128) ≠ 0 := fun h0 => by
      have h0 := congrArg UInt16.toNat h0
      rw [UInt16.toNat_ofNat_of_lt' (by have : UInt16.size = 65536 := rfl; omega)] at h0
      have hpos : 0 < macHeaderLength := by decide
      have hzero : (0 : UInt16).toNat = 0 := rfl
      omega
    exact ⟨(nomatch ·), fun _ h0 => absurd h0 hne, (nomatch ·)⟩
  | responded haction hst =>
    have hst := hstate hst
    refine ⟨(nomatch ·), fun _ hl => ?_, (nomatch ·)⟩
    exact hpre.armed (Or.inl hst) hl
  | transmitted haction hst =>
    have hst := hstate hst
    refine ⟨(nomatch ·), fun _ hl => ?_, (nomatch ·)⟩
    exact hpre.armed (Or.inr (Or.inl hst)) hl
  | @finalReceived event _ haction hst h =>
    have hst := hstate hst
    refine ⟨fun hl => ?_, fun hl => ?_, fun _ => ?_⟩
    · obtain ⟨_, _, _, _, _, _, _, rfl, -, -⟩ := h.frame
      cases hl
    · obtain ⟨_, _, _, _, _, _, _, rfl, -, -⟩ := h.frame
      rcases hl with hl | hl | hl <;> cases hl
    · by_cases hlen : e.pre.session.stashLen = 0
      · have hplan := hpre.armed (Or.inr (Or.inr hst)) hlen
        cases h with
        | empty => exact hplan
        | rejected hne | ineligible hne | eligible hne => exact absurd hlen hne
      · -- the stash is due: the checks pass, and the PrePoll is the one armed
        obtain ⟨prePoll, hdecode, hindex⟩ := hsafe.stash ⟨event, haction⟩ hst hlen
        rw [fst_decodePrePollFrame] at hdecode
        refine onPlan_of_unstashed h hlen hdecode hindex fun mhr prePoll' hmem => ?_
        exact hhonest (.acceptedPrePoll mhr prePoll') hmem
  | delivered h =>
    cases h with
    | mk haction hst =>
      have hst := hstate hst
      refine ⟨fun h => absurd (hst.symm.trans h) (by decide), fun h => ?_, fun _ => ?_⟩
      · rcases h with h | h | h <;> exact absurd (hst.symm.trans h) (by decide)
      · exact hpre.measured hst
  | stopped | suspended =>
    refine ⟨(nomatch ·), fun h => ?_, (nomatch ·)⟩
    rcases h with h | h | h <;> cases h
  | anchorFailed | startFailed | unconfigured => exact hpre.same rfl rfl rfl rfl rfl

/-! ### Results -/

/-- The labels of a result that the step delivers: the block is that of the
FinalData the result was computed from, and only the second round of a two-round
block is labelled 1. -/
def Labelled (plan : Plan) (e : Event) : Prop :=
  ∀ callback result, .range callback result ∈ e.output → ∃ mhr finalData,
    e.output = [.acceptedFinalData mhr finalData, .range callback result] ∧
    result.blockIndex = finalData.rangingBlock ∧
    (result.roundInBlock = 1 → twoRounds e.pre.session.params = true ∧
      plan.second e.pre.session.armedPollStsIndex = true)

/-- **The step lemma.** -/
theorem labelled_step {plan : Plan} {e : Event} (he : (machine P).Steps e)
    (hhonest : Honest plan e) (hsafe : LabelSafe P plan e) (hpre : Labels plan e.pre.session) :
    Labelled plan e := by
  intro callback result hr
  obtain ⟨c, hd, -, hout⟩ := delivered_of_range he hr
  unfold Honest at hhonest
  rw [hout] at hr hhonest ⊢
  cases hd with
  | @mk event _ frame mhr finalData _ distance _ _ haction hst _ _ hsts =>
    have hst : e.pre.session.state = .awaitingFinalData := hst
    obtain ⟨rfl, rfl⟩ : callback = _ ∧ result = _ := by simpa [System.enter] using hr
    have hplan : plan.exchange e.pre.session.armedPollStsIndex =
      (e.pre.session.currentBlock, e.pre.session.currentRound) := hpre.measured hst
    have hann : plan.exchange e.pre.session.armedPollStsIndex =
        (finalData.rangingBlock, finalData.roundIndex) :=
      hhonest (.acceptedFinalData mhr finalData) (by simp) hsts
    refine ⟨mhr, finalData, rfl, ?_, fun hsecond => ?_⟩
    · exact (Prod.mk.inj (hplan.symm.trans hann)).1
    · rcases hsafe.round ⟨event, haction⟩ hst with hscheduled | htwo
      · rw [hplan] at hscheduled
        have hzero : (rangingResult P e.input.env e.pre.session distance).roundInBlock = 0 :=
          if_pos hscheduled
        exact absurd (hzero.symm.trans hsecond) (by decide)
      · exact htwo

/-- **Results are labelled with the exchange they measured**, in every run with an
honest initiator whose steps are safe. -/
theorem results_are_labelled (plan : Plan) (filter : RangeConsensusFilter) {tr : List Event}
    {t : System} (h : (machine P).Run (System.initial filter) tr t)
    (hhonest : ∀ e ∈ tr, Honest plan e) (hsafe : ∀ e ∈ tr, LabelSafe P plan e) :
    ∀ e ∈ tr, Labelled plan e := by
  refine h.forall_step (G := fun e => Honest plan e ∧ LabelSafe P plan e)
    (P := fun x => Labels plan x.session) (fun e he => ⟨hhonest e he, hsafe e he⟩) ?_ ?_ ?_
  · refine ⟨(nomatch ·), fun h => ?_, (nomatch ·)⟩
    rcases h with h | h | h <;> cases h
  · exact fun e he hgood hJ => labels_step he hgood.1 hgood.2 hJ
  · exact fun e he hgood hJ => labelled_step he hgood.1 hgood.2 hJ

/-- One exchange to a block, in its first round. -/
def firstRounds : Plan := ⟨fun i => if i = 97 then (1, 0) else (0, 0), fun _ => false⟩

/-- The hypotheses of `results_are_labelled` are satisfiable: the first exchange of
a session. -/
theorem results_are_labelled_sample : ∃ tr t,
    (machine .sample).Run (System.initial {}) tr t ∧
      tr.map (·.input) = sampleStart sampleParams {} :: sampleExchange ∧
      ∃ e ∈ tr, e.output.any Output.isRange = true ∧ Labelled firstRounds e := by
  obtain ⟨tr, t, hrun, hin, h⟩ := Machine.exists_run_of_exec (M := machine .sample)
    (s := System.initial {}) (l := sampleStart sampleParams {} :: sampleExchange)
    (p := fun tr _ => tr.all (fun e => decide (Honest firstRounds e) &&
        (decide (e.pre.session.state ≠ .awaitingFinal) || decide (e.pre.session.stashLen = 0)) &&
        decide ((firstRounds.exchange e.pre.session.armedPollStsIndex).2 =
          scheduledRoundFor e.pre.session.params
            (firstRounds.exchange e.pre.session.armedPollStsIndex).1)) &&
      tr.any fun e => e.output.any Output.isRange) (by decide +kernel)
  simp only [Bool.and_eq_true, List.all_eq_true, Bool.or_eq_true, decide_eq_true_eq] at h
  obtain ⟨hchecks, hrange⟩ := h
  obtain ⟨e, he, hrange⟩ := List.any_eq_true.1 hrange
  have hlabelled := results_are_labelled firstRounds {} hrun (fun e he => (hchecks e he).1.1)
    fun e he => ⟨fun _ hst hlen => ?_, fun _ _ => Or.inl (hchecks e he).2⟩
  · exact ⟨tr, t, hrun, hin, e, he, hrange, hlabelled e he⟩
  · rcases (hchecks e he).1.2 with h | h
    · exact absurd hst h
    · exact absurd h hlen

/-- A session hears the PrePoll of block 0, and then takes part in the exchange of
block 1, whose PrePoll it has not received intact. -/
def brokenPrePoll : List Input :=
  [sampleStart sampleParams {}, samplePrePoll 1 { pollStsIndex := 1 }, ⟨.rxTimeout, {}⟩,
    ⟨.rxSuccess {}, .received ((sampleFrame .prePoll 2
      (encodePrePoll { pollStsIndex := 97, rangingBlock := 1 })).dropLast ++ [1])⟩] ++
  sampleRanging ++ [sampleFinalData 1 {
    rangingBlock := 1
    finalStsIndex := 99
    pollToFinalTxDeltaDtu := 2000000
    responderReports := [{ pollToResponseDeltaDtu := 1000000 }] }]

/-- Without hopping in the schedule, an initiator that hops by itself. -/
def adaptiveParams : RangingSessionParameters :=
  { sampleParams with hoppingMode := .adaptiveDefault }

/-- Block 0 runs in round 3. -/
def thirdRound : Plan := ⟨fun _ => (0, 3), fun _ => false⟩

/-- An exchange in round 3 of block 0. -/
def adaptiveExchange : List Input :=
  [sampleStart adaptiveParams {}, samplePrePoll 1 { pollStsIndex := 37, roundIndex := 3 }] ++
  sampleRanging ++ [sampleFinalData 1 {
    roundIndex := 3
    finalStsIndex := 39
    pollToFinalTxDeltaDtu := 2000000
    responderReports := [{ pollToResponseDeltaDtu := 1000000 }] }]

/-- The step delivers a result with a wrong label. -/
def mislabels (plan : Plan) (e : Event) : Bool :=
  match e.output with
  | [.acceptedFinalData _ finalData, .range _ result] =>
    decide (result.blockIndex ≠ finalData.rangingBlock) ||
      decide (result.roundInBlock = 1) &&
        !(twoRounds e.pre.session.params && plan.second e.pre.session.armedPollStsIndex)
  | _ => false

/-- A result with another block or round is not labelled. -/
theorem not_labelled_of_mislabels {plan : Plan} {e : Event} (h : mislabels plan e = true) :
    ¬ Labelled plan e := by
  intro hlabelled
  unfold mislabels at h
  split at h
  · rename_i mhr finalData callback result hout
    obtain ⟨mhr', finalData', hout', hblock, hround⟩ :=
      hlabelled callback result (by rw [hout]; simp)
    rw [hout] at hout'
    obtain ⟨-, rfl⟩ := Output.acceptedFinalData.inj (List.cons.inj hout').1
    simp only [Bool.or_eq_true, Bool.and_eq_true, decide_eq_true_eq, Bool.not_eq_true',
      Bool.and_eq_false_iff] at h
    rcases h with hne | ⟨hone, hno⟩
    · exact hne hblock
    · obtain ⟨htwo, hsecond⟩ := hround hone
      rcases hno with hno | hno
      · exact absurd (hno.symm.trans htwo) (by simp)
      · exact absurd (hno.symm.trans hsecond) (by simp)
  · cases h

/-- **Without these conditions the labels drift**, honest as the initiator may be:
after `brokenPrePoll` the exchange of block 1 is reported for block 0, and after
`adaptiveExchange` the only round of a block is reported as its second. -/
theorem labels_drift :
    (∃ tr t, (machine .sample).Run (System.initial {}) tr t ∧ tr.map (·.input) = brokenPrePoll ∧
      (∀ e ∈ tr, Honest firstRounds e) ∧ ∃ e ∈ tr, ¬ Labelled firstRounds e) ∧
    ∃ tr t, (machine .sample).Run (System.initial {}) tr t ∧ tr.map (·.input) = adaptiveExchange ∧
      (∀ e ∈ tr, Honest thirdRound e) ∧ ∃ e ∈ tr, ¬ Labelled thirdRound e := by
  have hdrift {plan : Plan} {l : List Input}
      (h : ((machine .sample).exec (System.initial {}) l).any (fun r =>
        r.1.all (fun e => decide (Honest plan e)) && r.1.any (mislabels plan)) = true) :
      ∃ tr t, (machine .sample).Run (System.initial {}) tr t ∧ tr.map (·.input) = l ∧
        (∀ e ∈ tr, Honest plan e) ∧ ∃ e ∈ tr, ¬ Labelled plan e := by
    obtain ⟨tr, t, hrun, hin, hp⟩ := Machine.exists_run_of_exec
      (p := fun tr _ => tr.all (fun e => decide (Honest plan e)) && tr.any (mislabels plan)) h
    simp only [Bool.and_eq_true, List.all_eq_true, decide_eq_true_eq] at hp
    obtain ⟨e, he, hwrong⟩ := List.any_eq_true.1 hp.2
    exact ⟨tr, t, hrun, hin, hp.1, e, he, not_labelled_of_mislabels hwrong⟩
  constructor
  · exact hdrift (by decide +kernel)
  · exact hdrift (by decide +kernel)

end Session
end AliroUwb
