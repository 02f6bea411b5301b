/-
# A session that hears its initiator ranges with it

What the code is for, over whole runs: an initiator that has the session's keys and
keeps to its schedule gets a result for every cycle it completes.

An `Attempt` is a cycle whose PrePoll is heard; it is completed, or breaks off at
one of its legs.  A session that is ready for a cycle delivers its result if it is
completed, and has the cycle behind it in either case (`ready_run`).  Where blocks have
been lost, the warm keys are those of another exchange and the Poll is lost too; but the
PrePoll is decoded from the stash when its cycle has failed, and brings the session back
in step (`attempt_run`).  So a sequence of attempts delivers the results of those
completed, in order, with the estimates built up on the way (`attempts_run`), whatever
has happened before (`resynchronises`).
-/

import AliroUwb.Session.Cycles

namespace AliroUwb
namespace Session

open Stepwise Crypto Protocol Ranging Transceiver

variable {P : Platform} {s t : SessionMembers} {x y : Cycle}

/-- What becomes of a cycle whose PrePoll is heard: it is completed, or a failure is
reported after the first `legs` of it. -/
inductive Attempt
  | completed (x : Cycle)
  | brokenOff (x : Cycle) (legs : ℕ) (failure : Input)

namespace Attempt

/-- The cycle that is attempted. -/
def cycle : Attempt → Cycle
  | completed x => x
  | brokenOff x _ _ => x

/-- What happens to the session. -/
def inputs : Attempt → List Input
  | completed x => x.legs
  | brokenOff x legs failure => x.legs.take legs ++ [failure]

/-- A cycle can break off at any leg up to the FinalData. -/
def Possible : Attempt → Prop
  | completed _ => True
  | brokenOff _ legs failure =>
    1 ≤ legs ∧ legs ≤ 4 ∧ failure.isFailure ∧ failure.env.faults = noFaults

/-- The attempt is completed. -/
def isCompleted : Attempt → Bool
  | completed _ => true
  | brokenOff .. => false

/-- The attempt breaks off at its Poll. -/
def LosesPoll (a : Attempt) : Prop := ∃ x failure, a = brokenOff x 1 failure

/-- The results of the attempt in a session with the estimates of `s`. -/
def results (P : Platform) (s : SessionMembers) : Attempt → List RangingResult
  | completed x => ((x.distance s).map (x.result P s)).toList
  | brokenOff .. => []

/-- A session with the estimates after the attempt. -/
def estimates (P : Platform) (s : SessionMembers) : Attempt → SessionMembers
  | completed x => ((x.distance s).map ((x.closing s).evaluated P)).getD s
  | brokenOff .. => s

end Attempt

/-- The results of a sequence of attempts. -/
def resultsOf (P : Platform) : SessionMembers → List Attempt → List RangingResult
  | _, [] => []
  | s, a :: l => a.results P s ++ resultsOf P (a.estimates P s) l

/-- The cycle `y` comes after `x`: its counters and its Poll are ahead. -/
structure Later (x y : Cycle) : Prop where
  prePollCounter : x.prePollHeader.frameCounter < y.prePollHeader.frameCounter
  finalDataCounter : x.finalDataHeader.frameCounter < y.finalDataHeader.frameCounter
  ahead : 0 < (y.prePoll.pollStsIndex - x.prePoll.pollStsIndex).toInt32

/-- If an exchange is scheduled after that of the cycle `x`, it is that of `y`. -/
def Scheduled (params : RangingSessionParameters) (x y : Cycle) : Prop :=
  ∀ next, nextScheduledExchange params x.prePoll.rangingBlock x.prePoll.roundIndex = some next →
    next = (y.prePoll.rangingBlock, y.prePoll.roundIndex)

/-- The attempt `b` comes after `a`.  Where exchanges between them have been lost, it breaks
off at its Poll. -/
structure Follows (params : RangingSessionParameters) (a b : Attempt) : Prop where
  later : Later a.cycle b.cycle
  scheduled : Scheduled params a.cycle b.cycle ∨ b.LosesPoll

/-- The session is ready for the cycle: valid warm keys are its keys. -/
structure Ready (P : Platform) (s : SessionMembers) (x : Cycle) : Prop extends Fresh s x where
  warm : s.warmValid = true → CycleKeysFor P s x.prePoll.pollStsIndex s.warm

/-! ### One cycle -/

/-- The results put out. -/
abbrev ranges (os : List Output) : List Output := os.filter Output.isRange

/-- What an enabled input does. -/
theorem step_of_enabled {z : System} {i : Input} (h : z.enabled i.action = true) :
    (machine P).step z i = some (⟨(serve P i (z.enter i)).session,
      (serve P i (z.enter i)).inCallback⟩, (serve P i (z.enter i)).outputs) := if_pos h

/-- Nothing but the FinalData of a cycle delivers. -/
theorem drives_leg {z : System} {i : Input} (henabled : z.enabled i.action = true)
    (hstate : z.session.state ≠ .awaitingFinalData) :
    (machine P).Drives ranges z [i] []
      ⟨(serve P i (z.enter i)).session, (serve P i (z.enter i)).inCallback⟩ := by
  have hstep := step_of_enabled (P := P) henabled
  have hnone : ranges (serve P i (z.enter i)).outputs = [] := by
    refine List.filter_eq_nil_iff.2 fun o ho hrange => ?_
    cases o with
    | range callback result =>
      obtain ⟨c, hd, -, -⟩ := delivered_of_range (P := P) (e := ⟨z, i, _, _⟩) hstep ho
      exact hstate hd.state_before
    | _ => cases hrange
  exact hnone ▸ Machine.Drives.single hstep

/-- While no callback runs, events can be reported. -/
theorem enabled_event {i : Input} (h : i.action.isRadioEvent = true) :
    System.enabled ⟨t, false⟩ i.action = true := by
  unfold System.enabled
  rw [if_pos h]
  rfl

/-- One event more, after which `Q` holds. -/
theorem drives_on {z : System} {l : List Input} {i : Input} {Q : System → Prop}
    (hd : (machine P).Drives ranges z l [] ⟨t, false⟩) (hevent : i.action.isRadioEvent = true)
    (hstate : t.state ≠ .awaitingFinalData) (hQ : ∀ y, Q y → y.inCallback = false)
    (h : Q ⟨(serve P i ⟨t, false, i.env.faults, []⟩).session,
      (serve P i ⟨t, false, i.env.faults, []⟩).inCallback⟩) :
    ∃ t', (machine P).Drives ranges z (l ++ [i]) [] ⟨t', false⟩ ∧ Q ⟨t', false⟩ := by
  have hleg := hd.append (drives_leg (P := P) (enabled_event hevent) hstate)
  have hcb := hQ _ h
  dsimp only at hcb
  simp only [System.enter, hcb, List.append_nil] at hleg
  rw [hcb] at h
  exact ⟨_, hleg, h⟩

/-- **The legs up to the Final** of a cycle that the session is ready for. -/
theorem legs_run (hx : x.Genuine P s) (hr : Ready P s x)
    (hfilter : s.nodeConfig.blockParityFilter = -1) (hslots : s.params.slotsPerRound ≠ 0) :
    ∃ t₁ t₂ t₃ t₄ : SessionMembers,
      ((machine P).Drives ranges ⟨s, false⟩ (x.legs.take 1) [] ⟨t₁, false⟩ ∧
        Leads P s x .awaitingPoll ⟨t₁, false⟩) ∧
      ((machine P).Drives ranges ⟨s, false⟩ (x.legs.take 2) [] ⟨t₂, false⟩ ∧
        Leads P s x .transmittingResponse ⟨t₂, false⟩) ∧
      ((machine P).Drives ranges ⟨s, false⟩ (x.legs.take 3) [] ⟨t₃, false⟩ ∧
        Leads P s x .awaitingFinal ⟨t₃, false⟩) ∧
      (machine P).Drives ranges ⟨s, false⟩ (x.legs.take 4) [] ⟨t₄, false⟩ ∧
        Leads P s x .awaitingFinalData ⟨t₄, false⟩ ∧ Accepted P s x t₄ := by
  obtain ⟨-, -, -, -, hleads⟩ := prePoll_leg hx hr.toFresh hfilter hslots rfl
  obtain ⟨t₁, hd₁, h₁⟩ := drives_on (P := P) (z := ⟨s, false⟩) .nil rfl
    (by rw [hr.state]; decide) (fun _ h => h.inCallback) (hleads hr.warm)
  obtain ⟨t₂, hd₂, h₂⟩ := drives_on hd₁ rfl (by rw [h₁.state]; decide)
    (fun _ h => h.inCallback) (poll_leg hx h₁ rfl)
  obtain ⟨t₃, hd₃, h₃⟩ := drives_on hd₂ rfl (by rw [h₂.state]; decide)
    (fun _ h => h.inCallback) (response_leg h₂ rfl)
  obtain ⟨t₄, hd₄, h₄, hacc⟩ := drives_on
    (Q := fun y => Leads P s x .awaitingFinalData y ∧ Accepted P s x y.session) hd₃ rfl
    (by rw [h₃.state]; decide) (fun _ h => h.1.inCallback) (final_leg hx hr.toFresh hfilter h₃ rfl)
  exact ⟨t₁, t₂, t₃, t₄, ⟨hd₁, h₁⟩, ⟨hd₂, h₂⟩, ⟨hd₃, h₃⟩, hd₄, h₄, hacc⟩

/-- A failure after some legs. -/
theorem broken_run {l : List Input} {failure : Input} (hx : x.Genuine P s) (hf : Fresh s x)
    (hfilter : s.nodeConfig.blockParityFilter = -1)
    (hd : (machine P).Drives ranges ⟨s, false⟩ l [] ⟨t, false⟩) (hun : Unmeasured s t)
    (hknown : Known P s x t) (hstate : t.state.inExchange = true) (hi : failure.isFailure)
    (hquiet : failure.env.faults = noFaults) :
    ∃ t', (machine P).Drives ranges ⟨s, false⟩ (l ++ [failure]) [] ⟨t', false⟩ ∧
      Ended P s x s ⟨t', false⟩ := by
  have hevent : failure.action.isRadioEvent = true := by rcases hi with h | h <;> rw [h] <;> rfl
  have hend := failure_leg hx hf hfilter hun hknown hstate hi hquiet rfl
  have hcb := hend.inCallback
  have hstep := step_of_enabled (P := P) (enabled_event (t := t) hevent)
  have hnone : ranges (serve P failure (System.enter ⟨t, false⟩ failure)).outputs = [] := by
    rw [serve_of_isFailure hi hstate]
    obtain ⟨os, hos, hroutine⟩ := routine_listen
      (unstashed_armPrePollListening (P := P) failure.env (System.enter ⟨t, false⟩ failure))
      ⟨[], (List.append_nil _).symm, rfl⟩
    rw [hos]
    exact filter_isRange_of_routine hroutine
  have hleg := hd.append (Machine.Drives.single (f := ranges) hstep)
  rw [hnone] at hleg
  simp only [System.enter] at hleg
  dsimp only at hcb
  rw [hcb] at hleg hend
  exact ⟨_, hleg, hend⟩

/-- **An attempt at a cycle that the session is ready for** delivers its result if it
is completed, and the session has the cycle behind it. -/
theorem ready_run {a : Attempt} (hx : a.cycle.Genuine P s) (hr : Ready P s a.cycle)
    (hfilter : s.nodeConfig.blockParityFilter = -1) (hslots : s.params.slotsPerRound ≠ 0)
    {callback : ℕ} (hcallback : s.callback = some callback) (hp : a.Possible) :
    ∃ t, (machine P).Drives ranges ⟨s, false⟩ a.inputs
        ((a.results P s).map (.range callback)) ⟨t, false⟩ ∧
      Ended P s a.cycle (a.estimates P s) ⟨t, false⟩ := by
  obtain ⟨t₁, t₂, t₃, t₄, ⟨hd₁, h₁⟩, ⟨hd₂, h₂⟩, ⟨hd₃, h₃⟩, hd₄, h₄, hacc⟩ :=
    legs_run hx hr hfilter hslots
  cases a with
  | completed x =>
    obtain ⟨distance, hdistance⟩ := Option.isSome_iff_exists.1 hx.measures
    have hdistance : x.distance s = some distance := hdistance
    obtain ⟨c, hc⟩ : ∃ c, c = serve P ⟨.rxSuccess x.finalDataRx, x.finalDataEnv⟩
      ⟨t₄, false, x.finalDataEnv.faults, []⟩ := ⟨_, rfl⟩
    have hstep : (machine P).step ⟨t₄, false⟩ ⟨.rxSuccess x.finalDataRx, x.finalDataEnv⟩ =
        some (⟨c.session, c.inCallback⟩, c.outputs) := by
      rw [hc]
      exact step_of_enabled (enabled_event rfl)
    obtain ⟨hin, hsettled, hrange, hfil, haoa⟩ :=
      finalData_leg hx hr.toFresh h₄ hacc hdistance hcallback hc
    obtain ⟨c', hc'⟩ : ∃ c', c' = serve P ⟨.callbackReturn, x.returnEnv⟩
      ⟨c.session, true, x.returnEnv.faults, []⟩ := ⟨_, rfl⟩
    have hreturn : (machine P).step ⟨c.session, true⟩ ⟨.callbackReturn, x.returnEnv⟩ =
        some (⟨c'.session, c'.inCallback⟩, c'.outputs) := by
      rw [hc']
      exact step_of_enabled rfl
    have hend := return_leg hsettled hc'
    have hcb := hend.inCallback
    have hnone := (listens_of_callbackReturn (P := P) (e := ⟨_, _, _, _⟩) hreturn rfl).2
    rw [hin] at hstep
    have hd₆ := (hd₄.append (Machine.Drives.single (f := ranges) hstep)).append
      (Machine.Drives.single (f := ranges) hreturn)
    dsimp only at hnone hcb
    rw [ranges, hrange, ranges, hnone, List.append_nil, hcb] at hd₆
    rw [hcb] at hend
    refine ⟨_, ?_, ⟨hend.toSettled, rfl, hend.state, ?_, ?_⟩⟩
    · rw [Attempt.results, hdistance]
      exact hd₆
    · rw [Attempt.estimates, hdistance]
      exact hend.filter.trans hfil
    · rw [Attempt.estimates, hdistance]
      exact hend.aoaStability.trans haoa
  | brokenOff x legs failure =>
    obtain ⟨hlow, hhigh, hfail, hquiet⟩ := hp
    have hbroken {q : SessionState} {n : ℕ} {t : SessionMembers}
        (hd : (machine P).Drives ranges ⟨s, false⟩ (x.legs.take n) [] ⟨t, false⟩)
        (h : Leads P s x q ⟨t, false⟩) (hq : q.inExchange = true) :=
      broken_run hx hr.toFresh hfilter hd h.toUnmeasured h.known
        ((congrArg SessionState.inExchange h.state).trans hq) hfail hquiet
    obtain rfl | rfl | rfl | rfl : legs = 1 ∨ legs = 2 ∨ legs = 3 ∨ legs = 4 := by omega
    · exact hbroken hd₁ h₁ rfl
    · exact hbroken hd₂ h₂ rfl
    · exact hbroken hd₃ h₃ rfl
    · exact hbroken hd₄ h₄ rfl

/-- **An attempt at a cycle that is new to the session** goes the same way, if the warm keys
are not those of another exchange or the Poll is lost. -/
theorem attempt_run {a : Attempt} (hx : a.cycle.Genuine P s) (hf : Fresh s a.cycle)
    (hkeys : (s.warmValid = true → CycleKeysFor P s a.cycle.prePoll.pollStsIndex s.warm) ∨
      a.LosesPoll) (hfilter : s.nodeConfig.blockParityFilter = -1)
    (hslots : s.params.slotsPerRound ≠ 0) {callback : ℕ} (hcallback : s.callback = some callback)
    (hp : a.Possible) :
    ∃ t, (machine P).Drives ranges ⟨s, false⟩ a.inputs
        ((a.results P s).map (.range callback)) ⟨t, false⟩ ∧
      Ended P s a.cycle (a.estimates P s) ⟨t, false⟩ := by
  rcases hkeys with hwarm | ⟨x, failure, rfl⟩
  · exact ready_run hx ⟨hf, hwarm⟩ hfilter hslots hcallback hp
  · -- whatever keys are armed
    obtain ⟨hcb, hawait, hun, hknown, -⟩ := prePoll_leg (P := P) hx hf hfilter hslots rfl
    obtain ⟨t₁, hd₁, -, hawait, hun, hknown⟩ := drives_on (P := P) (z := ⟨s, false⟩)
      (Q := fun y => y.inCallback = false ∧ y.session.state = .awaitingPoll ∧
        Unmeasured s y.session ∧ Known P s x y.session) .nil rfl (by rw [hf.state]; decide)
      (fun _ h => h.1) ⟨hcb, hawait, hun, hknown⟩
    exact broken_run hx hf hfilter hd₁ hun hknown (congrArg SessionState.inExchange hawait)
      hp.2.2.1 hp.2.2.2

/-! ### Sequences of attempts -/

/-- What a cycle yields is the same in a session of the same configuration. -/
theorem distance_congr (hst : SameConfig s t) (x : Cycle) : x.distance t = x.distance s :=
  yields_congr (s := x.closing s) (t := x.closing t) hst.params hst.nodeConfig rfl rfl _

/-- What makes a cycle genuine is the same in a session of the same configuration. -/
theorem Cycle.Genuine.congr (h : x.Genuine P s) (hst : SameConfig s t) : x.Genuine P t where
  quiet := h.quiet
  prePoll := by
    obtain ⟨frame, hframe, hsec⟩ := h.prePoll
    refine ⟨frame, hframe, hsec.1, hsec.2, ?_, ?_, ?_, hsec.6⟩
    · rw [hst.keys]
      exact hsec.destination
    · rw [hst.keys]
      exact hsec.keySource
    · rw [hst.keys]
      exact hsec.secured
  sessionId := hst.params ▸ h.sessionId
  scheduled := hst.params ▸ h.scheduled
  stsPassed := h.stsPassed
  inTime := h.inTime
  finalData := by
    obtain ⟨keys, frame, hkeys, hframe, hgen⟩ := h.finalData
    refine ⟨keys, frame, hkeys.congr hst.params hst.nodeConfig hst.keys, hframe, hgen.1, hgen.2,
      ?_, hgen.4, ?_, ?_, hgen.7⟩
    · rw [Cycle.closing, hst.keys]
      exact hgen.secured
    · rw [Cycle.closing, hst.params]
      exact hgen.sessionId
    · rw [Cycle.closing, hst.params]
      exact hgen.finalStsIndex
  measures := distance_congr hst x ▸ h.measures

/-- The closing states of sessions with the same estimates evaluate alike. -/
theorem Unmeasured.closing (h : Unmeasured s t) (x : Cycle) :
    SameEvaluation (x.closing s) (x.closing t) :=
  ⟨⟨⟨h.config.1, h.config.2, h.config.3, h.config.4, h.config.5, h.config.6⟩, h.filter,
    h.aoaStability⟩, rfl, rfl, rfl, rfl⟩

/-- Results depend on the configuration and the estimates only. -/
theorem resultsOf_congr (l : List Attempt) (h : Unmeasured s t) :
    resultsOf P t l = resultsOf P s l := by
  induction l generalizing s t with
  | nil => rfl
  | cons a l ih =>
    rw [resultsOf, resultsOf]
    cases a with
    | brokenOff x legs failure => exact ih h
    | completed x =>
      have hsame := h.closing x
      have hd : x.distance t = x.distance s := hsame.yields x.finalData
      rw [Attempt.results, Attempt.results, Attempt.estimates, Attempt.estimates, hd]
      cases x.distance s with
      | none => exact ih h
      | some distance =>
        have hnext : Unmeasured ((x.closing s).evaluated P distance)
            ((x.closing t).evaluated P distance) := by
          have hconfig := h.config
          refine ⟨⟨hconfig.1, hconfig.2, hconfig.3, hconfig.4, hconfig.5, hconfig.6⟩, ?_, ?_⟩
          · exact congrArg Prod.snd (hsame.nextFilter distance)
          · exact congrArg Prod.snd hsame.nextStability
        have hresult : x.result P t distance = x.result P s distance := hsame.rangingResult _ _
        simp only [Option.map_some, Option.getD_some, Option.toList_some, hresult]
        rw [ih hnext]

/-- After a cycle a later one is new to the session. -/
theorem fresh_of_ended {r : SessionMembers} (h : Ended P s x r ⟨t, false⟩) (hlater : Later x y) :
    Fresh t y where
  state := h.state
  stash := h.stash
  prePollCounter _ := h.prePollCounter ▸ hlater.prePollCounter
  ahead _ := h.index ▸ hlater.ahead
  finalDataCounter hhas := UInt32.lt_of_le_of_lt (h.finalDataCounter hhas) hlater.finalDataCounter

/-- And the warm keys are those of the one that is scheduled. -/
theorem warm_of_ended {r : SessionMembers} (h : Ended P s x r ⟨t, false⟩)
    (hscheduled : Scheduled s.params x y) (hy : y.Genuine P s) (hwarm : t.warmValid = true) :
    CycleKeysFor P t y.prePoll.pollStsIndex t.warm := by
  obtain ⟨block, round, hnext, hkeys⟩ := h.warm hwarm
  obtain ⟨rfl, rfl⟩ := Prod.mk.inj (hscheduled _ hnext)
  rw [hy.scheduled]
  exact hkeys.congr h.config.params h.config.nodeConfig h.config.keys

/-- The estimates of an attempt belong to the same configuration. -/
theorem Attempt.sameConfig_estimates (a : Attempt) (s : SessionMembers) :
    SameConfig s (a.estimates P s) := by
  cases a with
  | brokenOff => exact .refl s
  | completed x =>
    rw [Attempt.estimates]
    cases x.distance s with
    | none => exact .refl s
    | some distance => exact ⟨rfl, rfl, rfl, rfl, rfl, rfl⟩

/-- **A completed cycle has one result**, if it yields a distance. -/
theorem length_resultsOf {l : List Attempt}
    (h : ∀ b ∈ l, (b.cycle.distance s).isSome = true) :
    (resultsOf P s l).length = l.countP Attempt.isCompleted := by
  induction l generalizing s with
  | nil => rfl
  | cons a l ih =>
    have hrest := ih (s := a.estimates P s) fun b hb => by
      rw [distance_congr (a.sameConfig_estimates s)]
      exact h b (List.mem_cons_of_mem _ hb)
    rw [resultsOf, List.length_append, hrest]
    cases a with
    | brokenOff =>
      rw [List.countP_cons_of_neg Bool.false_ne_true]
      exact Nat.zero_add _
    | completed x =>
      obtain ⟨distance, hdistance⟩ := Option.isSome_iff_exists.1 (h _ List.mem_cons_self)
      have hdistance : x.distance s = some distance := hdistance
      rw [List.countP_cons_of_pos rfl, Attempt.results, hdistance]
      exact Nat.add_comm _ _

/-- **A sequence of attempts delivers the results of those that are completed**, and
nothing else: here the attempts that follow another. -/
theorem attempts_run {r : SessionMembers} {a₀ : Attempt} {l : List Attempt}
    (hend : Ended P s a₀.cycle r ⟨t, false⟩) (hsame : SameConfig s r)
    (hx : ∀ b ∈ l, b.cycle.Genuine P s ∧ b.Possible)
    (hchain : (a₀ :: l).IsChain (Follows s.params))
    (hfilter : s.nodeConfig.blockParityFilter = -1) (hslots : s.params.slotsPerRound ≠ 0)
    {callback : ℕ} (hcallback : s.callback = some callback) :
    ∃ u, (machine P).Drives ranges ⟨t, false⟩ (l.flatMap Attempt.inputs)
        ((resultsOf P r l).map (.range callback)) ⟨u, false⟩ ∧ u.state = .prePollListening := by
  induction l generalizing s a₀ r t with
  | nil => exact ⟨t, .nil, hend.state⟩
  | cons a l ih =>
    obtain ⟨hgen, hp⟩ := hx a List.mem_cons_self
    rw [List.isChain_cons_cons] at hchain
    have hconfig := hend.config
    have hfresh := fresh_of_ended hend hchain.1.later
    have hkeys := hchain.1.scheduled.imp_left fun h => warm_of_ended hend h hgen
    rw [← hconfig.params] at hchain hslots
    rw [← hconfig.nodeConfig] at hfilter
    rw [← hconfig.callback] at hcallback
    obtain ⟨t', hd, hend'⟩ :=
      attempt_run (hgen.congr hconfig) hfresh hkeys hfilter hslots hcallback hp
    obtain ⟨u, hdrest, hstate⟩ := ih hend' (a.sameConfig_estimates t)
      (fun b hb => ⟨(hx b (List.mem_cons_of_mem _ hb)).1.congr hconfig,
        (hx b (List.mem_cons_of_mem _ hb)).2⟩) hchain.2 hfilter hslots hcallback
    have hest : Unmeasured r t :=
      ⟨⟨hconfig.1.trans hsame.1.symm, hconfig.2.trans hsame.2.symm, hconfig.3.trans hsame.3.symm,
        hconfig.4.trans hsame.4.symm, hconfig.5.trans hsame.5.symm, hconfig.6.trans hsame.6.symm⟩,
        hend.filter, hend.aoaStability⟩
    refine ⟨u, ?_, hstate⟩
    rw [List.flatMap_cons, ← resultsOf_congr (P := P) (a :: l) hest, resultsOf, List.map_append]
    exact hd.append hdrest

/-! ### Any history -/

/-- **Whatever has happened before, the session ranges with its initiator.**  Take
any run from a successful `start` on in which no `start` or `resumeWithAnchor` has
failed, with lost, forged and replayed frames, provider failures, suspends, resumes
and stops as they come, that has left the session listening.  From there on every
sequence of attempts at the cycles of an initiator, each after the one before and the
first after all that the session has accepted, delivers the results of the completed ones,
and nothing else; but an attempt whose exchange is not the one that the session has warm
keys for, at the start or where exchanges in between have been lost, has lost its Poll. -/
theorem resynchronises {z : System} {e₀ : Event} {tr : List Event}
    (h : (machine P).Run z (e₀ :: tr) ⟨t, false⟩) {ursk : Bytes 32}
    {params : RangingSessionParameters} {nodeConfig : SessionNodeConfig} {callback₀ : Option ℕ}
    (haction : e₀.input.action = .start ursk params nodeConfig callback₀)
    (hok : succeeded e₀ = true)
    (hsucceed : ∀ e ∈ tr, e.input.action.configures = true → succeeded e = true)
    (hstate : t.state = .prePollListening) (hfilter : t.nodeConfig.blockParityFilter = -1)
    (hslots : t.params.slotsPerRound ≠ 0) {callback : ℕ} (hcallback : t.callback = some callback)
    {a : Attempt} {l : List Attempt} (hunseen : Unseen t a.cycle)
    (hx : ∀ b ∈ a :: l, b.cycle.Genuine P t ∧ b.Possible)
    (hchain : (a :: l).IsChain (Follows t.params))
    (hfirst : (t.warmValid = true → t.warm.pollStsIndex = a.cycle.prePoll.pollStsIndex) ∨
      a.LosesPoll) :
    (resultsOf P t (a :: l)).length = (a :: l).countP Attempt.isCompleted ∧
      ∃ u, (machine P).Drives ranges ⟨t, false⟩ ((a :: l).flatMap Attempt.inputs)
          ((resultsOf P t (a :: l)).map (.range callback)) ⟨u, false⟩ ∧
        u.state = .prePollListening := by
  obtain ⟨rfl, he₀, hrun⟩ := h
  refine ⟨length_resultsOf fun b hb => (hx b hb).1.measures, ?_⟩
  have hstarted : StashRead e₀.post.session := by
    obtain ⟨_, _, _, c', -, -, -, hu, hpost, -⟩ := started_of_succeeded he₀ haction hok
    rw [hpost]
    exact fun _ => stashLen_unstashed hu
  have hkeyed : KeyedNow P t :=
    hrun.invariant (G := fun e => e.input.action.configures = true → succeeded e = true)
      (P := fun y => KeyedNow P y.session) hsucceed (keyed_started he₀ haction hok fun _ h => h)
      fun e he hgood hpre => keyedNow_step he hgood hpre
  have hfresh : Fresh t a.cycle := ⟨hunseen, hstate, stashRead_run hrun hstarted hstate⟩
  obtain ⟨hgen, hp⟩ := hx a List.mem_cons_self
  have hrest (b) (hb : b ∈ l) := hx b (List.mem_cons_of_mem _ hb)
  have hkeys : (t.warmValid = true → CycleKeysFor P t a.cycle.prePoll.pollStsIndex t.warm) ∨
      a.LosesPoll := by
    refine hfirst.imp_left fun hwarm hvalid => ?_
    rw [← hwarm hvalid]
    exact hkeyed.warm hvalid
  obtain ⟨t', hd, hend⟩ := attempt_run hgen hfresh hkeys hfilter hslots hcallback hp
  obtain ⟨u, hdrest, hlistens⟩ := attempts_run hend (a.sameConfig_estimates t) hrest hchain hfilter
    hslots hcallback
  refine ⟨u, ?_, hlistens⟩
  rw [List.flatMap_cons, resultsOf, List.map_append]
  exact hd.append hdrest

/-! ### Lost blocks -/

/-- The first round of a block of the sample session, as its initiator conducts it. -/
def sampleCycle (block : BlockIndex) (frameCounter : FrameCounter) : Cycle :=
  let prePoll : PrePollPayload :=
    { pollStsIndex := pollStsIndexFor sampleParams block 0, rangingBlock := block }
  let finalData : FinalDataPayload :=
    { finalStsIndex := prePoll.pollStsIndex + 2, pollToFinalTxDeltaDtu := 2000000
      responderReports := [{ pollToResponseDeltaDtu := 1000000 }] }
  { prePollHeader := { destinationShortAddress := 0, frameCounter, messageId := .prePoll
                       payloadLength := 13 }
    prePoll
    finalDataHeader := { destinationShortAddress := 0, frameCounter, messageId := .finalData
                         payloadLength := 25 }
    finalData
    pollRx := { rxTimestampDtu := 1000000, stsPassed := true }
    finalRx := { rxTimestampDtu := 3000000, stsPassed := true }
    prePollEnv := .received (sampleFrame .prePoll frameCounter (encodePrePoll prePoll))
    responseEnv := { txTimestampDtu := 2000000 }
    finalDataEnv := .received (sampleFrame .finalData frameCounter (encodeFinalData finalData)) }

/-- The configuration of the sample session. -/
def sampleConfig : SessionMembers where
  params := sampleParams
  callback := some 0
  keys := { addresses := { destinationShort := 0 } }
  materialValid := true

/-- The blocks whose cycles are attempted. -/
def sampleBlocks : List (BlockIndex × FrameCounter) := [(2, 2), (3, 3), (5, 5), (6, 6)]

/-- The slot keys of the sample provider. -/
theorem dudskKey_sampleConfig (i : StsIndex) (hi : i ∈ [193, 289, 481, 577]) {keys : CycleKeys}
    (h : CycleKeysFor .sample sampleConfig i keys) : keys.poll.dudskKey = Bytes.zero 16 := by
  have hval : (value (slotKeysAt .sample sampleConfig i)).toOption.map (·.dudskKey) =
      some (Bytes.zero 16) := by
    simp only [List.mem_cons, List.not_mem_nil, or_false] at hi
    rcases hi with rfl | rfl | rfl | rfl <;> decide +kernel
  rw [h.poll] at hval
  exact Option.some.inj hval

/-- The frames of the cycle are those of the sample session: each is received, has the length
that its header says, and is secured under a key of zeros. -/
structure SampleFrames (frameCounter : FrameCounter) (x : Cycle) : Prop where
  index : x.prePoll.pollStsIndex ∈ [193, 289, 481, 577]
  prePollReceived : receivedFrame x.prePollEnv =
    some (sampleFrame .prePoll frameCounter (encodePrePoll x.prePoll))
  prePollLength : x.prePollHeader.payloadLength.toNat = (encodePrePoll x.prePoll).length
  prePollSecured : securedPayload Platform.sample.crypto (Bytes.zero 16) (Bytes.zero 8)
    x.prePollHeader.frameCounter (encodeHeader x.prePollHeader) (encodePrePoll x.prePoll) =
      encodePrePoll x.prePoll ++ List.replicate micLength 0
  finalDataReceived : receivedFrame x.finalDataEnv =
    some (sampleFrame .finalData frameCounter (encodeFinalData x.finalData))
  finalDataLength : x.finalDataHeader.payloadLength =
    UInt8.ofNat (encodeFinalData x.finalData).length
  finalDataSecured : securedPayload Platform.sample.crypto (Bytes.zero 16) (Bytes.zero 8)
    x.finalDataHeader.frameCounter (encodeHeader x.finalDataHeader)
      (encodeFinalData x.finalData) =
        encodeFinalData x.finalData ++ List.replicate micLength 0
  measures : (x.distance sampleConfig).isSome = true

/-- The cycles of these blocks have such frames. -/
theorem sampleFrames_sampleCycle {block : BlockIndex} {frameCounter : FrameCounter}
    (h : (block, frameCounter) ∈ sampleBlocks) :
    SampleFrames frameCounter (sampleCycle block frameCounter) := by
  simp only [sampleBlocks, List.mem_cons, List.not_mem_nil, or_false, Prod.mk.injEq] at h
  rcases h with ⟨rfl, rfl⟩ | ⟨rfl, rfl⟩ | ⟨rfl, rfl⟩ | ⟨rfl, rfl⟩ <;>
    constructor <;> decide +kernel

/-- Their cycles are genuine. -/
theorem genuine_sampleCycle {block : BlockIndex} {frameCounter : FrameCounter}
    (h : (block, frameCounter) ∈ sampleBlocks) :
    (sampleCycle block frameCounter).Genuine .sample sampleConfig := by
  have hframes := sampleFrames_sampleCycle h
  obtain ⟨keys, -, -, hkeys, -⟩ : ∃ keys f, deriveCycleKeys .sample sampleConfig
      (sampleCycle block frameCounter).prePoll.pollStsIndex {} noFaults = ((.ok (), keys), f) ∧
      CycleKeysFor .sample sampleConfig (sampleCycle block frameCounter).prePoll.pollStsIndex keys ∧
      StaysQuiet noFaults f := by
    rcases deriveCycleKeys_cases (P := .sample) sampleConfig
      (sampleCycle block frameCounter).prePoll.pollStsIndex {} noFaults with hok | ⟨_, _, _, _, hno⟩
    · exact hok
    · exact absurd (hno rfl).1 (by decide)
  have hdudsk := dudskKey_sampleConfig _ hframes.index hkeys
  have hprefix (header payload mic : List UInt8) : header ++ (payload ++ mic) <+:
      header ++ payload ++ mic := by
    rw [List.append_assoc]
  constructor
  case quiet =>
    intro i hi
    simp only [Cycle.legs, List.mem_cons, List.not_mem_nil, or_false] at hi
    rcases hi with rfl | rfl | rfl | rfl | rfl | rfl <;> rfl
  case prePoll =>
    exact ⟨_, hframes.prePollReceived, rfl, hframes.prePollLength, rfl, rfl,
      ⟨_, encryptsTo_iff.2 hframes.prePollSecured, hprefix _ _ _⟩,
      fun hhas => absurd hhas Bool.false_ne_true⟩
  case finalData =>
    refine ⟨keys, _, hkeys, hframes.finalDataReceived, rfl, hframes.finalDataLength,
      ⟨_, ?_, hprefix _ _ _⟩, Nat.le_of_ble_eq_true rfl, rfl, (UInt32.add_assoc _ 1 1).symm,
      fun hhas => absurd hhas Bool.false_ne_true⟩
    rw [Cycle.closing, hdudsk]
    exact encryptsTo_iff.2 hframes.finalDataSecured
  case measures => exact hframes.measures
  case sessionId | scheduled | stsPassed | inTime => rfl

/-- The attempts at their cycles: block 1 has been lost, and so will block 4 be. -/
def sampleAttempts : List Attempt :=
  [.brokenOff (sampleCycle 2 2) 1 ⟨.rxTimeout, {}⟩, .completed (sampleCycle 3 3),
    .brokenOff (sampleCycle 5 5) 1 ⟨.rxTimeout, {}⟩, .completed (sampleCycle 6 6)]

/-- The hypotheses of `resynchronises` are satisfiable: after the cycle of block 0
the session has the keys of block 1, which is lost.  The Poll of block 2 fails, the
cycle of block 3 delivers; and the same with the blocks 4, 5 and 6. -/
theorem resynchronises_sample : ∃ (tr : List Event) (t u : SessionMembers)
    (results : List RangingResult),
    (machine .sample).Run (System.initial {}) tr ⟨t, false⟩ ∧
      tr.map (·.input) = sampleStart sampleParams {} :: (sampleCycle 0 1).legs ∧
      t.warmValid = true ∧ t.warm.pollStsIndex = 97 ∧
      (machine .sample).Drives ranges ⟨t, false⟩
        ((sampleCycle 2 2).legs.take 1 ++ ⟨.rxTimeout, {}⟩ :: ((sampleCycle 3 3).legs ++
          ((sampleCycle 5 5).legs.take 1 ++ ⟨.rxTimeout, {}⟩ :: (sampleCycle 6 6).legs)))
        (results.map (.range 0)) ⟨u, false⟩ ∧
      results.length = 2 := by
  obtain ⟨e₀, tr, ⟨t, inCallback⟩, hrun, hstart, hin, hok, h⟩ := Machine.exists_run_cons_of_exec
    (M := machine .sample) (s := System.initial {}) (i := sampleStart sampleParams {})
    (l := (sampleCycle 0 1).legs) (q := succeeded)
    (p := fun tr y => tr.all (fun e => !e.input.action.configures) && decide (
      (y.inCallback = false ∧ y.session.state = .prePollListening ∧
        y.session.nodeConfig.blockParityFilter = -1 ∧ y.session.warmValid = true ∧
        y.session.warm.pollStsIndex = 97) ∧
      (y.session.params = sampleConfig.params ∧ y.session.nodeConfig = sampleConfig.nodeConfig ∧
        y.session.callback = sampleConfig.callback ∧ y.session.ursk = sampleConfig.ursk ∧
        y.session.keys = sampleConfig.keys ∧ y.session.materialValid = true) ∧
      y.session.replay.lastPrePollCounter = 1 ∧ y.session.replay.lastPrePollStsIndex = 1 ∧
        y.session.replay.lastFinalDataCounter = 1)) (by decide +kernel)
  obtain ⟨hquiet, h⟩ := Bool.and_eq_true_iff.1 h
  obtain ⟨⟨rfl, hstate, hfilter, hwarm, hindex⟩,
    ⟨hparams, hnode, hcallback, hursk, hkeys, hvalid⟩, hcounter, hlast, hfinal⟩ :=
    of_decide_eq_true h
  have hconfig : SameConfig sampleConfig t :=
    ⟨hparams, hnode, hcallback, hursk, hkeys, hvalid⟩
  have hgenuine {block : BlockIndex} {frameCounter : FrameCounter}
      (h : (block, frameCounter) ∈ sampleBlocks) :
      (sampleCycle block frameCounter).Genuine .sample t :=
    (genuine_sampleCycle h).congr hconfig
  have hscheduled {x y : Cycle} (h : nextScheduledExchange sampleParams x.prePoll.rangingBlock
      x.prePoll.roundIndex = some (y.prePoll.rangingBlock, y.prePoll.roundIndex)) :
      Scheduled t.params x y := by
    rw [hparams]
    exact fun next hnext => Option.some.inj (hnext.symm.trans h)
  have hfollows : sampleAttempts.IsChain (Follows t.params) :=
    .cons_cons ⟨⟨by decide, by decide, by decide +kernel⟩, .inl (hscheduled (by decide +kernel))⟩
      (.cons_cons ⟨⟨by decide, by decide, by decide +kernel⟩, .inr ⟨_, _, rfl⟩⟩
        (.cons_cons ⟨⟨by decide, by decide, by decide +kernel⟩,
          .inl (hscheduled (by decide +kernel))⟩ (.singleton _)))
  obtain ⟨hlength, u, hd, -⟩ := resynchronises hrun (by rw [hstart]; rfl) hok
    (fun e he hconf => absurd (List.all_eq_true.1 hquiet e he) (by rw [hconf]; decide)) hstate
    hfilter (by rw [hparams]; decide) (hcallback.trans rfl : t.callback = some 0)
    (a := .brokenOff (sampleCycle 2 2) 1 ⟨.rxTimeout, {}⟩) (l := sampleAttempts.tail)
    ⟨fun _ => by rw [hcounter]; decide, fun _ => by rw [hlast]; decide +kernel,
      fun _ => by rw [hfinal]; decide⟩
    (by
      intro b hb
      simp only [sampleAttempts, List.tail_cons, List.mem_cons, List.not_mem_nil, or_false] at hb
      rcases hb with rfl | rfl | rfl | rfl
      · exact ⟨hgenuine (by decide), by decide, by decide, .inl rfl, rfl⟩
      · exact ⟨hgenuine (by decide), trivial⟩
      · exact ⟨hgenuine (by decide), by decide, by decide, .inl rfl, rfl⟩
      · exact ⟨hgenuine (by decide), trivial⟩)
    hfollows (.inr ⟨_, _, rfl⟩)
  exact ⟨e₀ :: tr, t, u, _, hrun, List.cons_eq_cons.2 ⟨hstart, hin⟩, hwarm, hindex, hd, hlength⟩

end Session
end AliroUwb
