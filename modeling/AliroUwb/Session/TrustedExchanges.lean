/-
# The exchanges that a trusted result rests on

A result is marked trusted when as many of the newest samples as the filter requires
agree (`Session.Trust`), and each delivered result comes of an exchange of its own
(`Session.Exchange`).  Here the two meet: a trusted result rests on that many
deliveries, all of them since the session was last configured, whose exchanges come one
after the other and share no step (`trusted_result_exchanges`).  Trust is not carried
over from an earlier session, and no exchange counts twice.
-/

import AliroUwb.Session.Provenance
import AliroUwb.Session.Trust
import Mathlib.Data.List.Infix

namespace AliroUwb
namespace Session

open Stepwise Crypto Protocol Ranging Transceiver

variable {P : Platform}

/-! ### What a delivery feeds -/

/-- From `c` to `c'` nothing is delivered, and filter and detector are as they were. -/
structure Unfed (c c' : Ctx) : Prop where
  routine : Only Output.routine c c'
  filter : c'.session.filter = c.session.filter
  detector : c'.session.aoaStability = c.session.aoaStability

/-- Going back to listening feeds nothing. -/
theorem unfed_armPrePollListening (env : Env) {c c₁ : Ctx} (h : Unfed c c₁) :
    Unfed c (armPrePollListening P env c₁) :=
  ⟨routine_listen (unstashed_armPrePollListening env c₁) h.routine,
    (filter_armPrePollListening env c₁).trans h.filter,
    (aoaStability_armPrePollListening env c₁).trans h.detector⟩

/-- The detector `d` is fed with the angle of a result, if that is valid, and the result says
what it made of it. -/
structure Gauged (d : AoaStabilityDetector) (result : RangingResult) (d' : AoaStabilityDetector) :
    Prop where
  detector : d' = if result.aoaValid then (d.ingest result.aoaCentiDegrees).2 else d
  unstable : result.integrity.aoaUnstable =
    (result.aoaValid && (d.ingest result.aoaCentiDegrees).1.jump)
  nlos : result.integrity.nlosDetected =
    ((evaluateNlos result.integrity.firstPathPowerDbQ8 result.integrity.rssiDbQ8).nlos ||
      result.aoaValid && (d.ingest result.aoaCentiDegrees).1.gated)

/-- The filter is fed with a result that is delivered, and the detector too. -/
structure Measured (callback : ℕ) (s : SessionMembers) (result : RangingResult) (c' : Ctx) :
    Prop where
  delivered : .range callback result ∈ c'.outputs
  filter : c'.session.filter = (nextFilter s result.distance).2
  detector : Gauged s.aoaStability result c'.session.aoaStability

/-- A report is silent about the angle, unless there is one. -/
theorem aoaUnstable_ingest (f : RangeConsensusFilter) (distance : DistanceMm) (verdict : Int32)
    (quality : Int16) : (f.ingest distance verdict quality).1.aoaUnstable = false := by
  unfold RangeConsensusFilter.ingest
  split_ifs <;> rfl

/-- **What a result says of its angle.** -/
theorem gauged_rangingResult (env : Env) (s : SessionMembers) (distance : DistanceMm) :
    Gauged s.aoaStability (rangingResult P env s distance) (nextStability P s).2 := by
  have hnone := aoaUnstable_ingest s.filter distance
    (if s.measurement.finalStsPassed then 0 else -1) s.measurement.finalStsQuality
  cases hvalid : (measuredAoa P s).valid with
  | false =>
    constructor
    case detector => simp [nextStability, rangingResult, hvalid]
    case unstable => simpa [rangingResult, integrityReport, hvalid, nextFilter] using hnone
    case nlos => simp [rangingResult, integrityReport, hvalid]
  | true => constructor <;> simp [nextStability, rangingResult, integrityReport, hvalid]

/-- The evaluation feeds nothing, or both the filter and the detector. -/
theorem measured_evaluateFinalData (env : Env) (finalData : FinalDataPayload) {c c₁ : Ctx}
    {callback : ℕ} (hcallback : c₁.session.callback = some callback) (hunfed : Unfed c c₁)
    (hmeasurement : c₁.session.measurement = c.session.measurement) :
    Unfed c (evaluateFinalData P env finalData c₁) ∨
      ∃ result, Measured callback c.session result (evaluateFinalData P env finalData c₁) := by
  have harm := unfed_armPrePollListening (P := P) env hunfed
  unfold evaluateFinalData
  split_ifs with hsts
  · exact Or.inl harm
  cases ownReport c₁.session finalData with
  | none => exact Or.inl harm
  | some report =>
    dsimp only
    cases calculateDistance (dsTwrTimestamps c₁.session.measurement finalData report)
        c₁.session.nodeConfig.antennaDelayBias with
    | error => exact Or.inl harm
    | ok distance =>
      dsimp only
      rw [evaluateDistance_some hcallback]
      refine Or.inr ⟨rangingResult P env c₁.session distance, by simp, ?_, ?_⟩
      · change (nextFilter c₁.session distance).2 = (nextFilter c.session distance).2
        rw [nextFilter, nextFilter, hunfed.filter, hmeasurement]
      · rw [← hunfed.detector]
        exact gauged_rangingResult env c₁.session distance

/-- A FinalData feeds filter and detector the result that it delivers, and nothing if it
delivers none. -/
theorem measured_handleFinalDataReception (env : Env) {c : Ctx} {callback : ℕ}
    (hcallback : c.session.callback = some callback) :
    Unfed c (handleFinalDataReception P env c) ∨
      ∃ result, Measured callback c.session result (handleFinalDataReception P env c) := by
  have hread : Unfed c (c.readRx env) := ⟨⟨[], (List.append_nil _).symm, rfl⟩, rfl, rfl⟩
  rw [handleFinalDataReception_eq]
  cases receivedFrame env with
  | none => exact Or.inl (unfed_armPrePollListening env hread)
  | some frame =>
    dsimp only
    unfold handleFinalDataFrame
    dsimp only [Ctx.run]
    rcases checkFinalDataFrame P (c.readRx env).session frame (c.readRx env).faults with
      ⟨e | ⟨mhr, finalData⟩, f⟩
    · exact Or.inl (unfed_armPrePollListening env ⟨hread.routine, hread.filter, hread.detector⟩)
    · exact measured_evaluateFinalData env finalData hcallback
        ⟨⟨[.acceptedFinalData mhr finalData], rfl, rfl⟩, rfl, rfl⟩ rfl

/-- **Each step feeds filter and detector what it delivers**, if it does not configure. -/
theorem measured_of_steps {e : Event} (he : (machine P).Steps e)
    (hno : e.input.action.configures = false) {callback : ℕ}
    (hcallback : e.pre.session.callback = some callback) :
    delivers e = false ∧ e.post.session.filter = e.pre.session.filter ∧
      e.post.session.aoaStability = e.pre.session.aoaStability ∨
    ∃ result, .range callback result ∈ e.output ∧
      e.post.session.filter = (nextFilter e.pre.session result.distance).2 ∧
      Gauged e.pre.session.aoaStability result e.post.session.aoaStability := by
  by_cases hfinal : (∃ event, e.input.action = .rxSuccess event) ∧
      e.pre.session.state = .awaitingFinalData
  · obtain ⟨⟨event, haction⟩, hstate⟩ := hfinal
    obtain ⟨hpost, hout⟩ := handled_of_steps he haction hstate
    rcases measured_handleFinalDataReception (P := P) e.input.env
      (c := e.pre.enter e.input) hcallback with ⟨⟨os, hos, hroutine⟩, hfilter, hdetector⟩ |
        ⟨result, hr, hfilter, hdetector⟩
    · refine Or.inl ⟨?_, by rw [hpost]; exact hfilter, by rw [hpost]; exact hdetector⟩
      rw [delivers, hout, hos]
      refine List.any_eq_false.2 fun o ho => ?_
      simpa using isRange_of_routine (List.all_eq_true.1 hroutine o ho)
    · rw [hpost, hout]
      exact Or.inr ⟨result, hr, hfilter, hdetector⟩
  · have hnone : delivers e = false := by
      refine Bool.eq_false_iff.2 fun h => ?_
      obtain ⟨o, ho, hr⟩ := List.any_eq_true.1 h
      cases o with
      | range callback result =>
        obtain ⟨c, hd, -, -⟩ := delivered_of_range he ho
        exact hfinal ⟨hd.action, hd.state_before⟩
      | _ => cases hr
    refine Or.inl ⟨hnone, ?_⟩
    obtain ⟨-, c, hc, hpost, -⟩ := served_of_steps he
    rw [hpost]
    have hunstashed {c₁ : Ctx} (h : Unstashed P c₁ c) : c.session.filter = c₁.session.filter ∧
        c.session.aoaStability = c₁.session.aoaStability := by
      obtain ⟨_, _, _, _, _, _, _, rfl, -, -⟩ := h.frame
      exact ⟨rfl, rfl⟩
    cases hc with
    | abandoned _ _ _ h | ineligible _ _ _ _ _ _ _ h | unkeyed _ _ _ _ _ _ _ h | late _ _ _ _ _ h
    | finalReceived _ _ h | callbackReturned _ h => exact hunstashed h
    | resumed _ _ h =>
      obtain ⟨_, _, _, _, _, _, _, rfl, -, -⟩ := h.frame
      exact ⟨rfl, rfl⟩
    | bootstrapped _ _ _ _ _ _ _ _ h =>
      obtain ⟨_, _, _, rfl, -⟩ := h.frame
      exact ⟨rfl, rfl⟩
    | undelivered haction hstate => exact absurd ⟨⟨_, haction⟩, hstate⟩ hfinal
    | delivered h => exact absurd ⟨h.action, h.state_before⟩ hfinal
    | anchorFailed haction | anchored haction | startFailed haction | unconfigured haction
    | started haction =>
      rw [haction] at hno
      cases hno
    | _ => exact ⟨rfl, rfl⟩

/-- **A successful call that configures begins anew**: the session listens, and the filter
has seen nothing. -/
theorem entered_of_configured {e : Event} (he : (machine P).Steps e)
    (hconf : e.input.action.configures = true) (hok : succeeded e = true) :
    enters e = true ∧ e.post.session.filter = { config := e.pre.session.filter.config } := by
  obtain ⟨c, c', h, hpost, hout, -, -, hfilter, -⟩ := configured_of_succeeded he hconf hok
  refine ⟨?_, ?_⟩
  · rw [enters, hout]
    exact ((listens_unstashed h).returned _).2
  · obtain ⟨_, _, _, _, _, _, _, rfl, -, -⟩ := h.frame
    rw [hpost]
    exact hfilter

/-! ### Deliveries -/

/-- A delivery: the steps before it that belong to it, the step that delivers, its
result, and the reading of its Final. -/
structure Delivery where
  mid : List Event
  step : Event
  result : RangingResult
  reading : RxSuccessEvent

namespace Delivery

/-- All its steps. -/
def steps (x : Delivery) : List Event := x.mid ++ [x.step]

/-- What the filter was fed. -/
def sample (x : Delivery) : Sample := sampleOf (x.result.distance, x.reading)

/-- The result is delivered, and comes of the exchange whose Final was read so. -/
structure Genuine (P : Platform) (x : Delivery) : Prop where
  delivered : ∃ callback, .range callback x.result ∈ x.step.output
  backed : Backed P x.mid x.step x.result
  finished : ∃ final ∈ x.mid, FinishedBy x.step.pre.session final x.reading

end Delivery

/-- The session at the end of an exchange holds the readings of its Final. -/
theorem readsFinal_of_run {m : System} {mid : List Event} {d prePoll poll answer final : Event}
    {finalEvent : RxSuccessEvent} (h : (machine P).Run m mid d.pre)
    (hl : mid.filter changes = [prePoll, poll, answer, final])
    (hfinal : FinishedBy d.pre.session final finalEvent) :
    d.pre.session.measurement.ReadsFinal finalEvent := by
  obtain ⟨-, -, -, -, -, -, -, hs, hend⟩ := legs_of_run h hl
  rcases readings_of_steps hs hfinal.post with ⟨event, hreception, hreads⟩ | ⟨-, hpre, -⟩
  · have heq : finalReception final = some finalEvent := by
      unfold finalReception
      rw [hfinal.action, hfinal.pre]
    obtain rfl := Option.some.inj (heq.symm.trans hreception)
    exact hend ▸ hreads
  · rw [hfinal.pre] at hpre
    cases hpre

/-- A step delivers one result. -/
theorem range_unique {e : Event} (he : (machine P).Steps e) {n m : ℕ} {r s : RangingResult}
    (hr : .range n r ∈ e.output) (hs : .range m s ∈ e.output) : s = r := by
  obtain ⟨c, hd, -, hout⟩ := delivered_of_range he hr
  rw [hout] at hr hs
  cases hd with
  | mk =>
    obtain ⟨-, rfl⟩ : n = _ ∧ r = _ := by simpa [System.enter] using hr
    obtain ⟨-, rfl⟩ : m = _ ∧ s = _ := by simpa [System.enter] using hs
    rfl

/-- **The record accounts for the filter**: it has been fed with the deliveries, whose
exchanges lie one after the other, and none has been made since the last of them. -/
structure Accounts (P : Platform) (config : RangeConsensusConfig) (callback : ℕ)
    (tr : List Event) (ds : List Delivery) (x : System) : Prop where
  callback : x.session.callback = some callback
  genuine : ∀ y ∈ ds, y.Genuine P
  filter : x.session.filter =
    RangeConsensusFilter.after config (ds.reverse.map fun y => .ingest y.sample)
  apart : ∃ a b, tr = a ++ b ∧ (ds.flatMap Delivery.steps).Sublist a ∧
    (∀ e ∈ b, delivers e = false) ∧ ∀ e ∈ a.getLast?, delivers e = true

variable {config : RangeConsensusConfig} {callback : ℕ}

/-- What is behind the last delivery lies in the record after it. -/
theorem suffix_of_apart {a b mid : List Event} (hmid : mid <:+ a ++ b)
    (hno : ∀ e ∈ mid, delivers e = false) (ha : ∀ e ∈ a.getLast?, delivers e = true) :
    mid <:+ b := by
  rcases List.eq_nil_or_concat a with rfl | ⟨a, d, rfl⟩
  · exact hmid
  · rw [List.concat_eq_append, List.getLast?_concat] at ha
    rw [List.concat_eq_append, List.append_assoc] at hmid
    exact suffix_of_undelivered hmid hno (ha d rfl)

/-- **Each step is accounted for**: it delivers nothing, or it is a delivery. -/
theorem accounts_step {x t : System} {e₀ d : Event} {tr : List Event} {ds : List Delivery}
    (h : (machine P).Run x (e₀ :: (tr ++ [d])) t) (hent : enters e₀ = true)
    (hno : ∀ e ∈ tr ++ [d], e.input.action.configures = false)
    (hacc : Accounts P config callback tr ds d.pre) :
    delivers d = false ∧ Accounts P config callback (tr ++ [d]) ds t ∨
      ∃ y : Delivery, y.step = d ∧ Accounts P config callback (tr ++ [d]) (ds ++ [y]) t := by
  obtain ⟨hnoTr, hnoD⟩ := List.forall_mem_append.1 hno
  have hnoD := hnoD d List.mem_cons_self
  have hrun : (machine P).Run x ((e₀ :: tr) ++ [d]) t := h
  obtain ⟨-, hs, rfl⟩ := hrun.at_step
  obtain ⟨a, b, rfl, hsub, hb, ha⟩ := hacc.apart
  have hcallback : d.post.session.callback = some callback := by
    obtain ⟨-, c, hc, hpost, -⟩ := served_of_steps hs
    rw [hpost]
    exact (hc.sameConfig hnoD).callback.trans hacc.callback
  rcases measured_of_steps hs hnoD hacc.callback with ⟨hnone, hfilter, -⟩ | ⟨result, hr, hfilter, -⟩
  · refine Or.inl ⟨hnone, hcallback, hacc.genuine, hfilter.trans hacc.filter, a, b ++ [d],
      List.append_assoc .., hsub, ?_, ha⟩
    exact List.forall_mem_append.2 ⟨hb, fun e he => List.mem_singleton.1 he ▸ hnone⟩
  · obtain ⟨m, mid, hmid, hundelivered, hmidRun, hbacked⟩ := exchange_of_range h hent hnoTr hr
    have hafter := suffix_of_apart hmid hundelivered ha
    have hbacked' := hbacked
    obtain ⟨_, _, _, final, _, _, finalEvent, _, _, _, _, hl, -, -, -, -, -, hfinal, -⟩ := hbacked'
    have hreads := readsFinal_of_run hmidRun hl hfinal
    have hmem : final ∈ mid := (List.filter_sublist (p := changes)).subset (hl ▸ by simp)
    refine Or.inr ⟨⟨mid, d, result, finalEvent⟩, rfl, hcallback, ?_, ?_, a ++ b ++ [d], [],
      (List.append_nil _).symm, ?_, by simp, ?_⟩
    · exact List.forall_mem_append.2 ⟨hacc.genuine, fun y hy => List.mem_singleton.1 hy ▸
        ⟨⟨callback, hr⟩, hbacked, final, hmem, hfinal⟩⟩
    · rw [hfilter, nextFilter, hreads.passed, hreads.quality, hacc.filter, List.reverse_append]
      rfl
    · rw [List.flatMap_append, List.append_assoc]
      refine hsub.append ?_
      rw [List.flatMap_cons, List.flatMap_nil, List.append_nil]
      exact hafter.sublist.append (List.Sublist.refl [d])
    · rw [List.getLast?_concat]
      intro e he
      obtain rfl := Option.mem_some_iff.1 he
      exact List.any_eq_true.2 ⟨_, hr, rfl⟩

/-- **Every run accounts for its filter.** -/
theorem accounts_run {x t : System} {e₀ : Event} {tr : List Event}
    (h : (machine P).Run x (e₀ :: tr) t) (hent : enters e₀ = true)
    (hfilter : e₀.post.session.filter = { config := config })
    (hcallback : e₀.post.session.callback = some callback)
    (hno : ∀ e ∈ tr, e.input.action.configures = false) :
    ∃ ds, Accounts P config callback tr ds t := by
  induction tr using List.reverseRecOn generalizing t with
  | nil =>
    obtain ⟨-, -, rfl⟩ := h
    exact ⟨[], hcallback, by simp, hfilter, [], [], rfl, by simp, by simp, by simp⟩
  | append_singleton tr d ih =>
    have hrun : (machine P).Run x ((e₀ :: tr) ++ [d]) t := h
    obtain ⟨hbefore, -, -⟩ := hrun.at_step
    obtain ⟨ds, hacc⟩ := ih hbefore fun e he => hno e (List.mem_append_left _ he)
    rcases accounts_step h hent hno hacc with ⟨-, hnext⟩ | ⟨y, -, hnext⟩
    · exact ⟨ds, hnext⟩
    · exact ⟨ds ++ [y], hnext⟩

/-! ### Trusted results -/

/-- A callback that is called has been set when the session was configured. -/
theorem callback_of_range {x : System} {d : Event} {tr : List Event}
    (h : (machine P).Run x tr d.pre) (hd : (machine P).Steps d)
    (hno : ∀ e ∈ tr, e.input.action.configures = false) {result : RangingResult}
    (hr : .range callback result ∈ d.output) : x.session.callback = some callback := by
  have hsame : d.pre.session.callback = x.session.callback := by
    refine h.invariant (P := fun y => y.session.callback = x.session.callback) hno rfl
      fun e he hno hpre => ?_
    obtain ⟨-, c, hc, hpost, -⟩ := served_of_steps he
    rw [hpost]
    exact (hc.sameConfig hno).callback.trans hpre
  obtain ⟨c, hdelivered, -, hout⟩ := delivered_of_range hd hr
  rw [hout] at hr
  cases hdelivered with
  | mk _ _ _ _ _ _ _ hcallback =>
    obtain ⟨rfl, -⟩ : callback = _ ∧ result = _ := by simpa [System.enter] using hr
    exact hsame.symm.trans hcallback

/-- A sample passes the STS check only with a Final that has passed it. -/
theorem stsPassed_of_sampleOf {m : DistanceMm × RxSuccessEvent}
    (h : (sampleOf m).stsPassed config = true) : m.2.stsPassed = true := by
  rw [Sample.stsPassed, Bool.and_eq_true, sampleOf] at h
  by_contra hfailed
  rw [if_neg hfailed] at h
  have hverdict : (0 : Int32) ≤ -1 := of_decide_eq_true h.1
  exact absurd hverdict (by decide)

/-- **A trusted result rests on whole exchanges of its own session.**  In every run from
a successful `start` or `resumeWithAnchor` on, as long as the session is not configured
anew, a trusted result is the last of as many deliveries as the filter requires, which
all come after that call, each backed by a complete exchange, one exchange after the
other; their distances are plausible and agree, and if the STS streak says so, all their
Finals have passed the STS check. -/
theorem trusted_result_exchanges {t : System} {e₀ d : Event} {tr : List Event}
    (h : (machine P).Run e₀.pre (e₀ :: (tr ++ [d])) t)
    (hconf : e₀.input.action.configures = true) (hok : succeeded e₀ = true)
    (hno : ∀ e ∈ tr, e.input.action.configures = false)
    (hK : 1 ≤ e₀.pre.session.filter.config.requiredConsensusCount) {result : RangingResult}
    (hr : .range callback result ∈ d.output) (htrusted : result.integrity.isTrusted = true) :
    ∃ ds : List Delivery, (∀ y ∈ ds, y.Genuine P) ∧
      (ds.flatMap Delivery.steps).Sublist (tr ++ [d]) ∧
      (∃ y, ds.getLast? = some y ∧ y.step = d ∧ y.result = result) ∧
      ConsensusOf e₀.pre.session.filter.config (ds.reverse.map Delivery.sample)
        result.integrity.stsValidStreak ∧
      (result.integrity.stsValidStreak = e₀.pre.session.filter.config.requiredConsensusCount →
        ∀ y ∈ ds, y.reading.stsPassed = true) := by
  have hpos : 0 < e₀.pre.session.filter.config.requiredConsensusCount.toNat :=
    UInt8.le_iff_toNat_le.1 hK
  obtain ⟨-, he₀, hrun⟩ := h
  obtain ⟨hbefore, hd, hend⟩ := hrun.at_step
  obtain ⟨hent, hfilter⟩ := entered_of_configured he₀ hconf hok
  obtain ⟨_, hdelivered, -, -⟩ := delivered_of_range hd hr
  have hnoAll : ∀ e ∈ tr ++ [d], e.input.action.configures = false :=
    List.forall_mem_append.2 ⟨hno, fun e he => List.mem_singleton.1 he ▸
      Action.configures_of_isRadioEvent hdelivered.isRadioEvent⟩
  -- the deliveries of the whole record, the last of which is this one
  obtain ⟨ds, hacc⟩ := accounts_run (⟨rfl, he₀, hbefore⟩ : (machine P).Run e₀.pre (e₀ :: tr) d.pre)
    hent hfilter (callback_of_range hbefore hd hno hr) hno
  have hdel : delivers d = true := List.any_eq_true.2 ⟨_, hr, rfl⟩
  rcases accounts_step ⟨rfl, he₀, hrun⟩ hent hnoAll hacc with ⟨hnone, -⟩ | ⟨y, hy, hnext⟩
  · exact absurd (hnone.symm.trans hdel) Bool.false_ne_true
  obtain ⟨htrust, hstreak⟩ := integrity_of_range hd hr
  rw [show d.post = t from hend] at htrust hstreak
  rw [htrust, hnext.filter] at htrusted
  obtain ⟨samples, hnewest, hconsensus⟩ := trusted_consensus hpos _ htrusted
  rw [← hnext.filter, ← hstreak] at hconsensus
  -- the samples are those of the newest of them
  have hsamples := prefix_filterMap_sampleIn hnewest
  rw [List.filterMap_map, show sampleIn ∘ (fun y : Delivery => FilterCall.ingest y.sample) =
    fun y => some y.sample from rfl, List.filterMap_eq_map'] at hsamples
  obtain ⟨k, hk, rfl⟩ := List.prefix_map_iff.1 hsamples
  have hnewestDs : k.reverse <:+ ds ++ [y] := by
    rw [← List.reverse_reverse (ds ++ [y])]
    exact List.reverse_suffix.2 hk
  obtain ⟨z, hz⟩ : ∃ z, k.head? = some z := by
    refine Option.isSome_iff_exists.1 (List.isSome_head?.2 fun hnil => ?_)
    have hlen := hconsensus.length
    rw [hnil, List.map_nil, List.length_nil] at hlen
    omega
  have hlast : z = y := by
    obtain ⟨k', rfl⟩ := List.head?_eq_some_iff.1 hz
    rw [List.reverse_append] at hk
    exact (List.cons_prefix_cons.1 hk).1
  have hgenuine := fun x (hx : x ∈ k.reverse) => hnext.genuine x (hnewestDs.subset hx)
  obtain ⟨a, b, hab, hsub, -⟩ := hnext.apart
  refine ⟨k.reverse, hgenuine, ?_, ⟨y, ?_, hy, ?_⟩, by rwa [List.reverse_reverse], ?_⟩
  · rw [hab]
    exact ((hnewestDs.flatMap Delivery.steps).sublist.trans hsub).trans
      (List.sublist_append_left a b)
  · rw [List.getLast?_reverse, hz, hlast]
  · obtain ⟨n, hn⟩ := (hnext.genuine y (List.mem_append_right _ List.mem_cons_self)).delivered
    rw [hy] at hn
    exact range_unique hd hr hn
  · intro hsecure x hx
    have hpassed := hconsensus.secure.1 hsecure x.sample
      (List.mem_map_of_mem (List.mem_reverse.1 hx))
    exact stsPassed_of_sampleOf hpassed

/-- The first exchange of a block of the sample session, with a good STS. -/
def exchangeOfBlock (block : BlockIndex) : List Input :=
  [samplePrePoll (block.toUInt32 + 1)
      { pollStsIndex := 96 * block.toUInt32 + 1, rangingBlock := block },
    ⟨.rxSuccess { rxTimestampDtu := 1000000, stsPassed := true }, {}⟩,
    ⟨.txComplete, { txTimestampDtu := 2000000 }⟩,
    ⟨.rxSuccess { rxTimestampDtu := 3000000, stsPassed := true, stsQualityIndex := 60 }, {}⟩,
    sampleFinalData (block.toUInt32 + 1) {
      rangingBlock := block
      finalStsIndex := 96 * block.toUInt32 + 3
      pollToFinalTxDeltaDtu := 2000000
      responderReports := [{ pollToResponseDeltaDtu := 1000000 }] }]

/-- The exchanges of three blocks. -/
def threeExchanges : List Input :=
  exchangeOfBlock 0 ++ ⟨.callbackReturn, {}⟩ :: exchangeOfBlock 1 ++
    ⟨.callbackReturn, {}⟩ :: exchangeOfBlock 2

/-- A trusted result at the end of an STS streak of `n`. -/
def Output.isSecureRange (n : UInt8) : Output → Bool
  | .range _ result => result.integrity.isTrusted && decide (result.integrity.stsValidStreak = n)
  | _ => false

/-- The hypotheses of `trusted_result_exchanges` are satisfiable: with the filter as it is
by default, the third exchange gives a trusted result. -/
theorem trusted_result_exchanges_sample : ∃ (e₀ d : Event) (tr : List Event) (t : System)
    (callback : ℕ) (result : RangingResult),
    (machine .sample).Run (System.initial {}) (e₀ :: (tr ++ [d])) t ∧
      (e₀ :: (tr ++ [d])).map (·.input) = sampleStart sampleParams {} :: threeExchanges ∧
      .range callback result ∈ d.output ∧ result.integrity.isTrusted = true ∧
      ∃ ds : List Delivery, ds.length = 3 ∧ (∀ y ∈ ds, y.Genuine .sample) ∧
        (ds.flatMap Delivery.steps).Sublist (tr ++ [d]) ∧
        ∀ y ∈ ds, y.reading.stsPassed = true := by
  obtain ⟨e₀, tr, t, hrun, hstart, hin, hok, h⟩ := Machine.exists_run_cons_of_exec
    (M := machine .sample) (s := System.initial {}) (i := sampleStart sampleParams {})
    (l := threeExchanges) (q := succeeded)
    (p := fun tr _ => tr.all (fun e => !e.input.action.configures) &&
      tr.getLast?.any fun e => e.output.any (Output.isSecureRange 3)) (by decide +kernel)
  simp only [Bool.and_eq_true, List.all_eq_true, Bool.not_eq_true', Option.any_eq_true] at h
  obtain ⟨hno, d, hlast, hd⟩ := h
  obtain ⟨tr₁, rfl⟩ := List.getLast?_eq_some_iff.1 hlast
  obtain ⟨o, ho, h⟩ := List.any_eq_true.1 hd
  have hpre : e₀.pre = System.initial {} := hrun.1
  cases o with
  | range callback result =>
    obtain ⟨htrusted, hsecure⟩ := Bool.and_eq_true_iff.1 h
    obtain ⟨ds, hgenuine, hsub, -, hconsensus, hpassed⟩ := trusted_result_exchanges (hpre ▸ hrun)
      (by rw [hstart]; rfl) hok (fun e he => hno e (List.mem_append_left _ he))
      (by rw [hpre]; decide) ho htrusted
    refine ⟨e₀, d, tr₁, t, callback, result, hrun, List.cons_eq_cons.2 ⟨hstart, hin⟩, ho, htrusted,
      ds, ?_, hgenuine, hsub, hpassed ?_⟩
    · have hlen := hconsensus.length
      rw [List.length_map, List.length_reverse, hpre] at hlen
      exact hlen
    · rw [hpre]
      exact of_decide_eq_true hsecure
  | _ => cases h

end Session
end AliroUwb
