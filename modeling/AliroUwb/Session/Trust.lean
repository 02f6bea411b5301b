/-
# Which receptions a trusted result rests on

The session feeds its consensus filter one sample for each FinalData that yields
a distance: that distance, and the STS readings of the latest Final.  So the
samples of the filter are read off the record of a run (`measured`), and what
`Ranging.ConsensusLaws` says of the filter becomes a statement about receptions:
`trusted_range_consensus`.

The filter is also fed where there is no callback to deliver to, and it survives
whatever does not reset it; therefore the record is taken from the construction
of the session on.
-/

import AliroUwb.Ranging.ConsensusLaws
import AliroUwb.Session.Steps

namespace AliroUwb
namespace Session

open Stepwise Crypto Protocol Ranging Transceiver

variable {P : Platform}

/-! ### The samples of a record -/

/-- The Final that a step receives. -/
def finalReception (e : Event) : Option RxSuccessEvent :=
  match e.input.action, e.pre.session.state with
  | .rxSuccess event, .awaitingFinal => some event
  | _, _ => none

/-- The latest Final of a record, whose newest step comes first. -/
def lastFinal : List Event → Option RxSuccessEvent
  | [] => none
  | e :: past =>
    match finalReception e with
    | some event => some event
    | none => lastFinal past

/-- The distance that an accepted FinalData yields, if it has the expected STS
index and a report for this responder. -/
def yields (s : SessionMembers) (finalData : FinalDataPayload) : Option DistanceMm :=
  if finalData.finalStsIndex ≠ expectedFinalSts s then none
  else
    match ownReport s finalData with
    | none => none
    | some report =>
      match calculateDistance (dsTwrTimestamps s.measurement finalData report)
        s.nodeConfig.antennaDelayBias with
      | .error _ => none
      | .ok distance => some distance

/-- The distance that a received frame yields, if it passes the checks of a
FinalData. -/
def evaluatedDistance (P : Platform) (s : SessionMembers) (env : Env) : Option DistanceMm :=
  match receivedFrame env with
  | none => none
  | some frame =>
    match (checkFinalDataFrame P s frame env.faults).1 with
    | .error _ => none
    | .ok (_, finalData) => yields s finalData

/-- The distance that a step evaluates. -/
def evaluates (P : Platform) (e : Event) : Option DistanceMm :=
  match e.input.action, e.pre.session.state with
  | .rxSuccess _, .awaitingFinalData => evaluatedDistance P e.pre.session e.input.env
  | _, _ => none

/-- The evaluated distances of a record, each with the Final that it belongs to,
the newest first. -/
def measured (P : Platform) : List Event → List (DistanceMm × RxSuccessEvent)
  | [] => []
  | e :: past =>
    match evaluates P e, lastFinal past with
    | some distance, some final => (distance, final) :: measured P past
    | _, _ => measured P past

/-- What the filter is fed for a distance and its Final. -/
def sampleOf (m : DistanceMm × RxSuccessEvent) : Sample where
  distance := m.1
  driverVerdict := if m.2.stsPassed then 0 else -1
  stsQualityMetric := m.2.stsQualityIndex

/-! ### The filter along a run -/

/-- Going back to listening keeps the filter. -/
theorem filter_armPrePollListening (env : Env) (c : Ctx) :
    (armPrePollListening P env c).session.filter = c.session.filter := by
  obtain ⟨_, _, _, _, _, _, _, h, -, -⟩ := (unstashed_armPrePollListening (P := P) env c).frame
  rw [h]
  rfl

/-- The evaluation feeds the filter with the distance, if there is one. -/
theorem filter_evaluateFinalData (env : Env) (finalData : FinalDataPayload) (c : Ctx) :
    (evaluateFinalData P env finalData c).session.filter =
      match yields c.session finalData with
      | none => c.session.filter
      | some distance => (nextFilter c.session distance).2 := by
  unfold evaluateFinalData yields
  by_cases hsts : finalData.finalStsIndex = expectedFinalSts c.session
  swap
  · rw [if_pos hsts, if_pos hsts]
    exact filter_armPrePollListening env c
  rw [if_neg (not_not.2 hsts), if_neg (not_not.2 hsts)]
  cases ownReport c.session finalData with
  | none => exact filter_armPrePollListening env c
  | some report =>
    dsimp only
    cases calculateDistance (dsTwrTimestamps c.session.measurement finalData report)
        c.session.nodeConfig.antennaDelayBias with
    | error e => exact filter_armPrePollListening env c
    | ok distance =>
      dsimp only
      rcases Option.eq_none_or_eq_some c.session.callback with hnone | ⟨callback, hsome⟩
      · rw [evaluateDistance_none hnone]
        exact filter_armPrePollListening env _
      · rw [evaluateDistance_some hsome]
        rfl

/-- **A FinalData feeds the filter the distance it yields**, and nothing else. -/
theorem filter_handleFinalDataReception (env : Env) {c : Ctx} (hfaults : c.faults = env.faults) :
    (handleFinalDataReception P env c).session.filter =
      match evaluatedDistance P c.session env with
      | none => c.session.filter
      | some distance => (nextFilter c.session distance).2 := by
  rw [handleFinalDataReception_eq]
  unfold evaluatedDistance
  cases receivedFrame env with
  | none => exact filter_armPrePollListening env _
  | some frame =>
    -- the checks do not look at the receive buffer
    have hcheck : checkFinalDataFrame P (c.readRx env).session frame (c.readRx env).faults =
        checkFinalDataFrame P c.session frame c.faults := rfl
    dsimp only
    unfold handleFinalDataFrame
    dsimp only [Ctx.run]
    rw [hcheck, ← hfaults]
    rcases checkFinalDataFrame P c.session frame c.faults with ⟨e | ⟨mhr, finalData⟩, f⟩
    · exact filter_armPrePollListening env _
    · exact filter_evaluateFinalData env finalData _

/-- The filter after a step: fed with the distance that the step evaluates, or as
it was, or reset. -/
theorem filter_of_steps {e : Event} (he : (machine P).Steps e) :
    (∃ distance, evaluates P e = some distance ∧
      e.post.session.filter = (nextFilter e.pre.session distance).2) ∨
    evaluates P e = none ∧ (e.post.session.filter = e.pre.session.filter ∨
      e.post.session.filter = e.pre.session.filter.reset) := by
  by_cases hfinal : (∃ event, e.input.action = .rxSuccess event) ∧
      e.pre.session.state = .awaitingFinalData
  · obtain ⟨⟨event, haction⟩, hstate⟩ := hfinal
    obtain ⟨-, hpost, -⟩ := steps_iff.1 he
    have hfilter : (handleFinalDataReception P e.input.env (e.pre.enter e.input)).session.filter =
        match evaluatedDistance P e.pre.session e.input.env with
        | none => e.pre.session.filter
        | some distance => (nextFilter e.pre.session distance).2 :=
      filter_handleFinalDataReception e.input.env rfl
    have hserve : serve P e.input (e.pre.enter e.input) =
        handleFinalDataReception P e.input.env (e.pre.enter e.input) := by
      simp only [serve, haction, onRxSuccess, System.enter, hstate]
    have heval : evaluates P e = evaluatedDistance P e.pre.session e.input.env := by
      simp only [evaluates, haction, hstate]
    rw [hpost, hserve, heval, hfilter]
    cases evaluatedDistance P e.pre.session e.input.env with
    | none => exact Or.inr ⟨rfl, Or.inl rfl⟩
    | some distance => exact Or.inl ⟨distance, rfl, rfl⟩
  · have heval : evaluates P e = none := by
      unfold evaluates
      split
      · rename_i event haction hstate
        exact absurd ⟨⟨event, haction⟩, hstate⟩ hfinal
      · rfl
    refine Or.inr ⟨heval, ?_⟩
    obtain ⟨-, c, hc, hpost, -⟩ := served_of_steps he
    rw [hpost]
    have hunstashed {c₁ c₂ : Ctx} (h : Unstashed P c₁ c₂) :
        c₂.session.filter = c₁.session.filter := by
      obtain ⟨_, _, _, _, _, _, _, rfl, -, -⟩ := h.frame
      rfl
    cases hc with
    | abandoned _ _ _ h | ineligible _ _ _ _ _ _ _ h | unkeyed _ _ _ _ _ _ _ h | late _ _ _ _ _ h
    | finalReceived _ _ h | callbackReturned _ h | resumed _ _ h => exact Or.inl (hunstashed h)
    | bootstrapped _ _ _ _ _ _ _ _ h =>
      obtain ⟨_, _, _, rfl, -⟩ := h.frame
      exact Or.inl rfl
    | anchored _ _ _ _ h | started _ _ _ _ h => exact Or.inr (hunstashed h)
    | unconfigured => exact Or.inr rfl
    | undelivered haction hstate => exact absurd ⟨⟨_, haction⟩, hstate⟩ hfinal
    | delivered h =>
      cases h with
      | mk haction hstate => exact absurd ⟨⟨_, haction⟩, hstate⟩ hfinal
    | _ => exact Or.inl rfl

/-- The measurement holds the STS readings of a Final. -/
structure Measurement.ReadsFinal (m : Measurement) (event : RxSuccessEvent) : Prop where
  passed : m.finalStsPassed = event.stsPassed
  quality : m.finalStsQuality = event.stsQualityIndex

/-- A session that awaits a FinalData has just received a Final, or has done so
before and kept its readings. -/
theorem readings_of_steps {e : Event} (he : (machine P).Steps e)
    (hpost : e.post.session.state = .awaitingFinalData) :
    (∃ event, finalReception e = some event ∧
      e.post.session.measurement.ReadsFinal event) ∨
    finalReception e = none ∧ e.pre.session.state = .awaitingFinalData ∧
      e.post.session.measurement = e.pre.session.measurement := by
  obtain ⟨-, c, hc, hc', -⟩ := served_of_steps he
  have hlisten {c₁ c₂ : Ctx} (h : Unstashed P (c₁.listen e.input.env) c₂)
      (hstate : c₂.session.state = .awaitingFinalData) : False := by
    have hl := (listens_unstashed h).1
    rw [hl] at hstate
    cases hstate
  have hnone (hstate : e.pre.session.state = .awaitingFinalData) : finalReception e = none := by
    unfold finalReception
    rw [hstate]
    split
    · rename_i h
      cases h
    · rfl
  have hkept (hs : c.session.state = e.pre.session.state)
      (hm : c.session.measurement = e.pre.session.measurement) :
      finalReception e = none ∧ e.pre.session.state = .awaitingFinalData ∧
        e.post.session.measurement = e.pre.session.measurement := by
    rw [hc'] at hpost ⊢
    have hstate := hs.symm.trans hpost
    exact ⟨hnone hstate, hstate, hm⟩
  have hpost' : c.session.state = .awaitingFinalData := by
    rw [hc'] at hpost
    exact hpost
  cases hc with
  | abandoned _ _ _ h | ineligible _ _ _ _ _ _ _ h | unkeyed _ _ _ _ _ _ _ h | late _ _ _ _ _ h
  | undelivered _ _ _ _ _ h | callbackReturned _ h | resumed _ _ h | anchored _ _ _ _ h
  | started _ _ _ _ h => exact (hlisten h hpost').elim
  | bootstrapped _ _ _ _ _ _ _ _ h =>
    obtain ⟨_, _, _, rfl, -⟩ := h.frame
    cases hpost'
  | warmed | responded | transmitted | stopped | suspended => cases hpost'
  | @finalReceived event _ haction hstate h =>
    obtain ⟨_, _, _, _, _, _, _, rfl, -, -⟩ := h.frame
    have hst : e.pre.session.state = .awaitingFinal := hstate
    refine Or.inl ⟨event, ?_, ?_⟩
    · unfold finalReception
      rw [haction, hst]
    · rw [hc']
      exact ⟨rfl, rfl⟩
  | delivered h =>
    cases h with
    | mk => exact Or.inr (hkept rfl rfl)
  | _ => exact Or.inr (hkept rfl rfl)

/-! ### The record accounts for the filter -/

/-- The sample of a call. -/
def sampleIn : FilterCall → Option Sample
  | .ingest sample => some sample
  | .reset => none

/-- **The filter is the one that the samples of the record make**, with some
resets in between; and a session that awaits a FinalData holds the readings of
the latest Final. -/
structure Tracks (P : Platform) (config : RangeConsensusConfig) (past : List Event)
    (x : System) : Prop where
  filter : ∃ history, x.session.filter = RangeConsensusFilter.after config history ∧
    history.filterMap sampleIn = (measured P past).map sampleOf
  readings : x.session.state = .awaitingFinalData →
    ∃ event, lastFinal past = some event ∧ x.session.measurement.ReadsFinal event

/-- Every step keeps the account. -/
theorem tracks_step {config : RangeConsensusConfig} {past : List Event} {e : Event}
    (he : (machine P).Steps e) (h : Tracks P config past e.pre) :
    Tracks P config (e :: past) e.post := by
  obtain ⟨history, hfilter, hsamples⟩ := h.filter
  constructor
  · rcases filter_of_steps he with ⟨distance, heval, hpost⟩ | ⟨heval, hsame | hreset⟩
    · have hstate : e.pre.session.state = .awaitingFinalData := by
        unfold evaluates at heval
        split at heval
        · assumption
        · cases heval
      obtain ⟨event, hlast, hreads⟩ := h.readings hstate
      refine ⟨.ingest (sampleOf (distance, event)) :: history, ?_, ?_⟩
      · rw [hpost, nextFilter, hreads.passed, hreads.quality, hfilter]
        rfl
      · rw [measured, heval, hlast, List.map_cons, ← hsamples]
        rfl
    · refine ⟨history, hsame.trans hfilter, ?_⟩
      rw [measured, heval, hsamples]
    · refine ⟨.reset :: history, hreset.trans (congrArg _ hfilter), ?_⟩
      rw [measured, heval, ← hsamples]
      rfl
  · intro hstate
    rcases readings_of_steps he hstate with ⟨event, hfinal, hreads⟩ | ⟨hfinal, hpre, hsame⟩
    · exact ⟨event, by rw [lastFinal, hfinal], hreads⟩
    · obtain ⟨event, hlast, hreads⟩ := h.readings hpre
      exact ⟨event, by rw [lastFinal, hfinal, hlast], hsame ▸ hreads⟩

/-- **Every run keeps the account.** -/
theorem tracks_run {config : RangeConsensusConfig} {tr : List Event} {t : System}
    (h : (machine P).Run (System.initial { config := config }) tr t) :
    ∀ tr₁ e tr₂, tr = tr₁ ++ e :: tr₂ → Tracks P config (e :: tr₁.reverse) e.post := by
  have hobserve := h.observe (G := fun _ _ => True) (J := Tracks P config)
    (Q := fun past e => Tracks P config (e :: past) e.post) (fun past e => e :: past) (g := [])
    (fun _ _ _ _ => trivial) ⟨⟨[], rfl, rfl⟩, nofun⟩
    (fun _ _ he _ hJ => tracks_step he hJ) (fun _ _ he _ hJ => tracks_step he hJ)
  intro tr₁ e tr₂ htr
  have hfold : tr₁.foldl (fun past e => e :: past) [] = tr₁.reverse := by
    rw [List.foldl_flip_cons_eq_append', List.append_nil]
  exact hfold ▸ hobserve tr₁ e tr₂ htr

/-! ### Trusted results -/

/-- A delivered report says what the filter holds after the step. -/
theorem integrity_of_range {e : Event} (he : (machine P).Steps e) {callback : ℕ}
    {result : RangingResult} (hr : .range callback result ∈ e.output) :
    result.integrity.isTrusted = e.post.session.filter.trusted ∧
      result.integrity.stsValidStreak = e.post.session.filter.stsPassedStreak := by
  obtain ⟨c, hd, hpost, hout⟩ := delivered_of_range he hr
  rw [hout] at hr
  cases hd with
  | @mk _ _ _ _ _ _ distance =>
    obtain ⟨-, rfl⟩ : callback = _ ∧ result = _ := by simpa [System.enter] using hr
    obtain ⟨htrusted, hstreak, -⟩ := report_ingest e.pre.session.filter
      ⟨distance, if e.pre.session.measurement.finalStsPassed then 0 else -1,
        e.pre.session.measurement.finalStsQuality⟩
    rw [hpost]
    change (integrityReport P e.pre.session distance).isTrusted = _ ∧
      (integrityReport P e.pre.session distance).stsValidStreak = _
    unfold integrityReport
    dsimp only
    split_ifs <;> exact ⟨htrusted, hstreak⟩

/-- The samples of the newest calls are the newest samples. -/
theorem prefix_filterMap_sampleIn {samples : List Sample} {history : List FilterCall}
    (h : samples.map FilterCall.ingest <+: history) :
    samples <+: history.filterMap sampleIn := by
  have hid : (samples.map FilterCall.ingest).filterMap sampleIn = samples := by
    rw [List.filterMap_map]
    exact List.filterMap_some
  exact hid ▸ h.filterMap sampleIn

/-- **A trusted range has a consensus behind it.**  Whatever is called of the
filter, a trusted range rests on the newest samples, which are plausible and agree;
whether they also passed the STS check is what the STS streak says.  And a
delivered result that is trusted rests so on the latest measured distances and
their Finals. -/
theorem trusted_range_consensus (P : Platform) (config : RangeConsensusConfig)
    (hK : 1 ≤ config.requiredConsensusCount) :
    (∀ history, let f := RangeConsensusFilter.after config history
      f.latestTrustedDistance.isSome = f.trusted ∧
      (f.trusted = true → ∃ samples, samples.map FilterCall.ingest <+: history ∧
        ConsensusOf config samples f.stsPassedStreak)) ∧
    (∀ (f : RangeConsensusFilter) (sample : Sample),
      let r := f.ingest sample.distance sample.driverVerdict sample.stsQualityMetric
      r.1.isTrusted = r.2.trusted ∧ r.1.stsValidStreak = r.2.stsPassedStreak) ∧
    ∀ tr e t callback result,
      (machine P).Run (System.initial { config := config }) (tr ++ [e]) t →
      .range callback result ∈ e.output → result.integrity.isTrusted = true →
      ∃ supporting, supporting <+: measured P (e :: tr.reverse) ∧
        ConsensusOf config (supporting.map sampleOf) result.integrity.stsValidStreak ∧
        (result.integrity.stsValidStreak = config.requiredConsensusCount →
          ∀ m ∈ supporting, m.2.stsPassed = true) := by
  have hpos : 0 < config.requiredConsensusCount.toNat := UInt8.le_iff_toNat_le.1 hK
  refine ⟨fun history => ⟨isSome_latestTrustedDistance hpos history,
    fun h => trusted_consensus hpos history h⟩, fun f sample => ?_, ?_⟩
  · obtain ⟨htrusted, hstreak, -⟩ := report_ingest f sample
    exact ⟨htrusted, hstreak⟩
  intro tr e t callback result hrun hr htrusted
  obtain ⟨history, hfilter, hsamples⟩ := (tracks_run hrun tr e [] rfl).filter
  obtain ⟨htrust, hstreak⟩ := integrity_of_range hrun.at_step.2.1 hr
  rw [htrust, hfilter] at htrusted
  obtain ⟨samples, hnewest, hconsensus⟩ := trusted_consensus hpos history htrusted
  -- the samples of the filter are an initial piece of the measured ones
  have hmeasured := prefix_filterMap_sampleIn hnewest
  rw [hsamples] at hmeasured
  obtain ⟨supporting, hsupporting, rfl⟩ := List.prefix_map_iff.1 hmeasured
  rw [hstreak, hfilter]
  refine ⟨supporting, hsupporting, hconsensus, fun hsecure m hm => ?_⟩
  have hpassed := hconsensus.secure.1 hsecure (sampleOf m) (List.mem_map_of_mem hm)
  -- a driver verdict of -1 fails the check
  rw [Sample.stsPassed, Bool.and_eq_true, sampleOf] at hpassed
  by_contra hfailed
  rw [if_neg hfailed] at hpassed
  have hverdict : (0 : Int32) ≤ -1 := of_decide_eq_true hpassed.1
  exact absurd hverdict (by decide)

/-- A trusted result. -/
def Output.isTrustedRange : Output → Bool
  | .range _ result => result.integrity.isTrusted
  | _ => false

/-- An exchange whose Final fails the STS check. -/
def insecureExchange : List Input :=
  [samplePrePoll 1 { pollStsIndex := 1 },
    ⟨.rxSuccess { rxTimestampDtu := 1000000, stsPassed := true }, {}⟩,
    ⟨.txComplete, { txTimestampDtu := 2000000 }⟩,
    ⟨.rxSuccess { rxTimestampDtu := 3000000 }, {}⟩,
    sampleFinalData 1 {
      finalStsIndex := 3
      pollToFinalTxDeltaDtu := 2000000
      responderReports := [{ pollToResponseDeltaDtu := 1000000 }] }]

/-- A filter that requires one sample. -/
def oneSample : RangeConsensusConfig := { requiredConsensusCount := 1 }

/-- Three samples at one meter that fail the STS check. -/
def insecureSamples : List FilterCall := List.replicate 3 (.ingest ⟨1000, -1, 0⟩)

/-- **Trust does not need the STS check.**  Three samples that fail it make a
filter of the default configuration trust their distance; and a session delivers a
trusted result whose only Final has failed it. -/
theorem trusted_without_sts :
    ((RangeConsensusFilter.after {} insecureSamples).trusted = true ∧
      (RangeConsensusFilter.after {} insecureSamples).latestTrustedDistance = some 1000 ∧
      Sample.stsPassed {} ⟨1000, -1, 0⟩ = false) ∧
    ∃ tr e t, (machine .sample).Run (System.initial { config := oneSample }) (tr ++ [e]) t ∧
      (tr ++ [e]).map (·.input) = sampleStart sampleParams {} :: insecureExchange ∧
      (∃ callback result, .range callback result ∈ e.output ∧ result.integrity.isTrusted = true) ∧
      measured .sample (e :: tr.reverse) = [(0, { rxTimestampDtu := 3000000 })] := by
  refine ⟨by decide +kernel, ?_⟩
  obtain ⟨tr, t, hrun, hin, h⟩ := Machine.exists_run_of_exec (M := machine .sample)
    (s := System.initial { config := oneSample })
    (l := sampleStart sampleParams {} :: insecureExchange)
    (p := fun tr _ => tr.getLast?.any (fun e => e.output.any Output.isTrustedRange) &&
      decide (measured .sample tr.reverse = [(0, { rxTimestampDtu := 3000000 })]))
    (by decide +kernel)
  obtain ⟨hlast, hmeasured⟩ := Bool.and_eq_true_iff.1 h
  obtain ⟨e, he, htrusted⟩ := (Option.any_eq_true _ _).1 hlast
  obtain ⟨tr', rfl⟩ := List.getLast?_eq_some_iff.1 he
  obtain ⟨o, ho, hrange⟩ := List.any_eq_true.1 htrusted
  refine ⟨tr', e, t, hrun, hin, ?_, ?_⟩
  · cases o with
    | range callback result => exact ⟨callback, result, ho, hrange⟩
    | _ => cases hrange
  · rw [List.reverse_append] at hmeasured
    exact of_decide_eq_true hmeasured

/-- The hypothesis of `trusted_range_consensus` is satisfiable. -/
theorem trusted_range_consensus_sample :
    ∃ samples, samples.map FilterCall.ingest <+:
        List.replicate 3 (.ingest ⟨1000, 0, 60⟩) ∧ ConsensusOf {} samples 3 := by
  have h := (trusted_range_consensus .sample {} (by decide)).1
    (List.replicate 3 (.ingest ⟨1000, 0, 60⟩))
  exact h.2 (by decide +kernel)

end Session
end AliroUwb
