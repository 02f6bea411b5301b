/-
# The warm path is the bootstrap path, earlier

On the bootstrap path the session decodes a PrePoll and derives the keys of the
exchange it announces; on the warm path it arms, unseen, the keys it derived
ahead of time for the exchange it expects next.

`mostRecent` follows a run and remembers the PrePoll accepted last since the
session was configured.  Where every block is ours, warm keys are those of the
exchange scheduled after it (`Foreseen`), a frame may be stashed or lost in the
meantime or not.  So a PrePoll that announces this exchange arms what the
bootstrap path would have derived for it (`warm_path_agrees`).
-/

import AliroUwb.Session.Steps

namespace AliroUwb
namespace Session

open Stepwise Crypto Protocol Ranging Transceiver

variable {P : Platform}

/-- The PrePoll accepted last. -/
def Output.lastPrePoll (x : Option PrePollPayload) : Output → Option PrePollPayload
  | .acceptedPrePoll _ prePoll => some prePoll
  | _ => x

/-- The step configures the session: `start`, or a `resumeWithAnchor` that is not
refused. -/
def reconfigures (e : Event) : Bool :=
  match e.input.action with
  | .start .. => true
  | .resumeWithAnchor _ => decide (e.pre.session.state = .suspended)
  | _ => false

/-- The PrePoll accepted last since the session was configured. -/
def mostRecent (x : Option PrePollPayload) (e : Event) : Option PrePollPayload :=
  e.output.foldl Output.lastPrePoll (if reconfigures e then none else x)

/-- After the PrePoll `x`, valid warm keys are those of the exchange that follows
its own. -/
def Foreseen (P : Platform) (x : Option PrePollPayload) (s : SessionMembers) : Prop :=
  s.nodeConfig.blockParityFilter = -1 → s.warmValid = true →
    ∃ prePoll block round, x = some prePoll ∧
      nextScheduledExchange s.params prePoll.rangingBlock prePoll.roundIndex =
        some (block, round) ∧
      CycleKeysFor P s (pollStsIndexFor s.params block round) s.warm

/-- Without warm keys nothing is foreseen. -/
theorem foreseen_of_invalid {x : Option PrePollPayload} {s : SessionMembers}
    (h : s.warmValid = false) : Foreseen P x s :=
  fun _ hw => absurd (h.symm.trans hw) (by simp)

/-- What `Foreseen` speaks of is the same, or the warm keys have become invalid. -/
structure SameForecast (s t : SessionMembers) : Prop where
  params : t.params = s.params
  nodeConfig : t.nodeConfig = s.nodeConfig
  keys : t.keys = s.keys
  warm : t.warm = s.warm
  warmValid : t.warmValid = true → s.warmValid = true

/-- What is foreseen depends on the forecast only. -/
theorem Foreseen.same {x : Option PrePollPayload} {s t : SessionMembers} (h : Foreseen P x s)
    (hst : SameForecast s t) : Foreseen P x t := by
  intro hfilter hwarm
  rw [hst.nodeConfig] at hfilter
  obtain ⟨prePoll, block, round, hx, hnext, hkeys⟩ := h hfilter (hst.warmValid hwarm)
  refine ⟨prePoll, block, round, hx, hst.params ▸ hnext, ?_⟩
  rw [hst.params, hst.warm]
  exact hkeys.congr hst.params hst.nodeConfig hst.keys

/-- `Foreseen`, with what a handler has put out so far taken into account. -/
def ForeseenAt (P : Platform) (x : Option PrePollPayload) (c : Ctx) : Prop :=
  Foreseen P (c.outputs.foldl Output.lastPrePoll x) c.session

/-! ### Pieces of a step -/

/-- Plain outputs accept no PrePoll. -/
theorem foldl_of_plain {os : List Output} (h : os.all Output.plain = true)
    (x : Option PrePollPayload) : os.foldl Output.lastPrePoll x = x := by
  induction os with
  | nil => rfl
  | cons o os ih =>
    rw [List.all_cons, Bool.and_eq_true] at h
    have hkeep : Output.lastPrePoll x o = x := by
      cases o <;> first | rfl | cases h.1
    rw [List.foldl_cons, hkeep]
    exact ih h.2

/-- Outputs without an acceptance, and a session whose warm keys stay. -/
theorem ForeseenAt.silent {x : Option PrePollPayload} {c c' : Ctx} {os : List Output}
    (h : ForeseenAt P x c) (ho : c'.outputs = c.outputs ++ os)
    (hos : ∀ y, os.foldl Output.lastPrePoll y = y)
    (hs : SameForecast c.session c'.session) : ForeseenAt P x c' := by
  unfold ForeseenAt
  rw [ho, List.foldl_append, hos]
  exact h.same hs

/-- With every block ours, every block passes the test. -/
theorem isBlockParityEligible_of_neg {nodeConfig : SessionNodeConfig}
    (h : nodeConfig.blockParityFilter = -1) (block : BlockIndex) :
    isBlockParityEligible nodeConfig block = true := by
  unfold isBlockParityEligible
  rw [h]
  rfl

/-- Refreshing foresees the exchange after the accepted one. -/
theorem foreseen_refreshed {x : Option PrePollPayload} {prePoll : PrePollPayload} {c c' : Ctx}
    (h : Refreshed P c c') (hx : c.outputs.foldl Output.lastPrePoll x = some prePoll)
    (hblock : c.session.currentBlock = prePoll.rangingBlock)
    (hround : c.session.currentRound = prePoll.roundIndex) : ForeseenAt P x c' := by
  cases h with
  | unpredicted => exact foreseen_of_invalid rfl
  | failed => exact foreseen_of_invalid rfl
  | predicted hnext hkeys =>
    intro _ _
    rw [hblock, hround] at hnext
    exact ⟨prePoll, _, _, hx, hnext, ⟨hkeys.1, hkeys.2, hkeys.3, hkeys.4⟩⟩

/-- **The stash keeps the warm keys foreseen.** -/
theorem foreseen_unstashed {x : Option PrePollPayload} {c c' : Ctx} (h : Unstashed P c c')
    (hc : ForeseenAt P x c) : ForeseenAt P x c' := by
  cases h with
  | empty => exact hc
  | rejected => exact foreseen_of_invalid rfl
  | ineligible _ _ hparity =>
    intro hfilter
    rw [isBlockParityEligible_of_neg hfilter] at hparity
    cases hparity
  | eligible _ _ _ _ hwarm =>
    refine foreseen_refreshed hwarm ?_ rfl rfl
    rw [List.foldl_append]
    rfl

/-- The way back to listening. -/
theorem foreseen_listen {x : Option PrePollPayload} {env : Env} {c c' : Ctx}
    (h : Unstashed P (c.listen env) c') (hc : ForeseenAt P x c) : ForeseenAt P x c' :=
  foreseen_unstashed h (hc.silent rfl (fun _ => rfl) ⟨rfl, rfl, rfl, rfl, id⟩)

/-! ### Steps -/

/-- No derivation fails without a fault. -/
theorem deriveKeyMaterial_ne_error {ursk : Bytes 32} {params : RangingSessionParameters}
    {e : StatusCode} (h : (deriveKeyMaterial P.crypto ursk params noFaults).1 = .error e) :
    False := by
  obtain ⟨keys, hk⟩ := deriveKeyMaterial_noFaults P.crypto ursk params
  rw [hk] at h
  cases h

/-- **Without faults, warm keys stay foreseen.** -/
theorem foreseen_served {i : Input} {c c' : Ctx} {x : Option PrePollPayload}
    (h : Served P i c c') (hquiet : c.faults = noFaults)
    (hc : (∀ ursk params nodeConfig callback, i.action ≠ .start ursk params nodeConfig callback) →
      (∀ n, i.action = .resumeWithAnchor n → c.session.state ≠ .suspended) → ForeseenAt P x c) :
    ForeseenAt P x c' := by
  have hother {a : Action} (ha : i.action = a) (hno : a.configures = false) : ForeseenAt P x c := by
    refine hc (fun _ _ _ _ h => ?_) fun _ h => ?_
    · rw [← ha, h] at hno
      cases hno
    · rw [← ha, h] at hno
      cases hno
  have hevent (h : i.action.isRadioEvent = true) : ForeseenAt P x c :=
    hother rfl (Action.configures_of_isRadioEvent h)
  cases h with
  | ignored ha => exact hevent ha
  | abandoned ha _ _ h =>
    exact foreseen_listen h ((hevent ha).silent (List.append_nil _).symm (fun _ => rfl)
      ⟨rfl, rfl, rfl, rfl, id⟩)
  | rearmed ha => exact (hother ha rfl).silent rfl (fun _ => rfl) ⟨rfl, rfl, rfl, rfl, id⟩
  | ineligible ha _ hwarm _ _ _ _ h | unkeyed ha _ hwarm _ _ _ _ h =>
    exact foreseen_listen h (foreseen_of_invalid hwarm)
  | @bootstrapped event _ _ _ _ armed _ _ _ _ _ _ _ _ _ _ h =>
    refine foreseen_refreshed h ?_ rfl rfl
    rw [List.foldl_append, List.foldl_append, List.foldl_cons,
      foldl_of_plain (plain_armCommands ..)]
    rfl
  | warmed ha _ hwarm =>
    exact (hother ha rfl).silent rfl (foldl_of_plain (plain_armCommands ..))
      ⟨rfl, rfl, rfl, rfl, fun _ => hwarm⟩
  | responded ha => exact (hother ha rfl).silent rfl (fun _ => rfl) ⟨rfl, rfl, rfl, rfl, id⟩
  | late ha _ _ _ _ h =>
    refine foreseen_listen h ((hother ha rfl).silent rfl (fun _ => rfl) ⟨rfl, rfl, rfl, rfl, id⟩)
  | transmitted ha =>
    exact (hother ha rfl).silent rfl
      (foldl_of_plain (all_window rfl rfl (fun _ => rfl) fun _ => rfl)) ⟨rfl, rfl, rfl, rfl, id⟩
  | finalReceived ha _ h =>
    exact foreseen_unstashed h ((hother ha rfl).silent rfl
      (foldl_of_plain (all_window rfl rfl (fun _ => rfl) fun _ => rfl)) ⟨rfl, rfl, rfl, rfl, id⟩)
  | undelivered ha _ _ _ _ h =>
    refine foreseen_listen h ((hother ha rfl).silent rfl (fun _ => rfl) ⟨rfl, rfl, rfl, rfl, id⟩)
  | delivered h =>
    cases h with
    | mk ha => exact (hother ha rfl).silent rfl (fun _ => rfl) ⟨rfl, rfl, rfl, rfl, id⟩
  | callbackReturned ha h =>
    refine foreseen_listen h ((hother ha rfl).silent (List.append_nil _).symm (fun _ => rfl)
      ⟨rfl, rfl, rfl, rfl, id⟩)
  | stopped ha | suspended ha =>
    exact (hother ha rfl).silent rfl (fun _ => rfl) ⟨rfl, rfl, rfl, rfl, id⟩
  | refused ha hstate =>
    have hfor := hc (fun _ _ _ _ h => by rcases ha with h' | ⟨_, h'⟩ <;> rw [h] at h' <;> cases h')
      fun _ _ => hstate
    exact hfor.silent rfl (fun _ => rfl) ⟨rfl, rfl, rfl, rfl, id⟩
  | resumed ha _ h =>
    exact (foreseen_listen h (hother ha rfl)).silent rfl (fun _ => rfl) ⟨rfl, rfl, rfl, rfl, id⟩
  | anchored ha _ _ _ h =>
    exact (foreseen_listen h (foreseen_of_invalid rfl)).silent rfl (fun _ => rfl)
      ⟨rfl, rfl, rfl, rfl, id⟩
  | started ha _ _ _ h =>
    exact (foreseen_listen h (foreseen_of_invalid rfl)).silent rfl (fun _ => rfl)
      ⟨rfl, rfl, rfl, rfl, id⟩
  | unconfigured => exact foreseen_of_invalid rfl
  | anchorFailed _ _ hkeys | startFailed _ _ hkeys =>
    rw [hquiet] at hkeys
    exact (deriveKeyMaterial_ne_error hkeys).elim

/-- **The step lemma.** -/
theorem foreseen_step {e : Event} {x : Option PrePollPayload} (he : (machine P).Steps e)
    (hquiet : e.input.env.faults = noFaults) (hpre : Foreseen P x e.pre.session) :
    Foreseen P (mostRecent x e) e.post.session := by
  obtain ⟨-, c, hc, hpost, hout⟩ := served_of_steps he
  have hstep := foreseen_served (x := if reconfigures e then none else x) hc hquiet ?_
  · rw [mostRecent, hout, hpost]
    exact hstep
  · intro hstart hanchor
    have hno : reconfigures e = false := by
      unfold reconfigures
      cases ha : e.input.action with
      | start => exact absurd ha (hstart _ _ _ _)
      | resumeWithAnchor n => exact decide_eq_false (hanchor n ha)
      | _ => rfl
    rw [hno]
    exact hpre

/-! ### The reception of a PrePoll -/

/-- The warm path arms the warm keys. -/
theorem armed_armWarm (env : Env) (event : RxSuccessEvent) (frame : List UInt8) (c : Ctx) :
    (armWarm env event frame c).session.armed = c.session.warm ∧
      (armWarm env event frame c).session.armedKeysValid = true ∧
      (armWarm env event frame c).session.armedPollStsIndex = c.session.warm.pollStsIndex := by
  unfold armWarm
  simp only [startRx_eq, transitionTo, Ctx.command, Ctx.emit, Ctx.modify]
  split <;> exact ⟨rfl, rfl, rfl⟩

/-- Without faults the bootstrap path arms the keys of the exchange announced. -/
theorem armed_armBootstrap (env : Env) (event : RxSuccessEvent) {frame : List UInt8} {c : Ctx}
    {prePoll : PrePollPayload} (hquiet : c.faults = noFaults)
    (hslots : c.session.params.slotsPerRound ≠ 0)
    (hfilter : c.session.nodeConfig.blockParityFilter = -1)
    (haccept : (decodePrePollFrame P frame c).1 = .ok prePoll) :
    CycleKeysFor P c.session prePoll.pollStsIndex (armBootstrap P env event frame c).session.armed ∧
      (armBootstrap P env event frame c).session.armedKeysValid = true ∧
      (armBootstrap P env event frame c).session.armedPollStsIndex = prePoll.pollStsIndex := by
  unfold armBootstrap
  rcases decodePrePollFrame_cases (P := P) frame c with
    ⟨e, f, hcheck, hf, h⟩ | ⟨mhr, prePoll', f, hcheck, hf, h⟩
  · rw [h] at haccept
    cases haccept
  rw [h] at haccept ⊢
  obtain rfl := Except.ok.inj haccept
  dsimp only [Ctx.modify]
  rw [isBlockParityEligible_of_neg hfilter, if_neg (by simp)]
  rcases armExchange_cases (P := P) env event prePoll' { c with
      session := c.session.prePollAccepted mhr prePoll', faults := f
      outputs := c.outputs ++ [.acceptedPrePoll mhr prePoll'] } with
    ⟨armed, f', hkeys, hf', harm⟩ | ⟨armed, f', hf', harm⟩
  · rw [SessionMembers.prePollAccepted] at harm
    rw [harm]
    obtain ⟨_, _, _, hc', -⟩ := (refreshed_refreshWarmKeys (P := P) _).frame
    rw [hc']
    exact ⟨hkeys.congr rfl rfl rfl, rfl, hkeys.pollStsIndex⟩
  · exact absurd (hf' (hf hquiet)).1 hslots

/-- Without faults `deriveCycleKeys` computes the keys of the exchange. -/
theorem deriveCycleKeys_of_cycleKeysFor {s : SessionMembers} {i : StsIndex} {keys : CycleKeys}
    (hslots : s.params.slotsPerRound ≠ 0) (hkeys : CycleKeysFor P s i keys) (out : CycleKeys) :
    deriveCycleKeys P s i out noFaults = ((.ok (), keys), noFaults) := by
  rcases deriveCycleKeys_cases (P := P) s i out noFaults with
    ⟨keys', f, h, hkeys', hf⟩ | ⟨e, keys', f, h, hf⟩
  · rw [h, hkeys'.unique hkeys, hf rfl]
  · exact absurd (hf rfl).1 hslots

/-- **A PrePoll that announces the exchange foreseen arms the keys of this
exchange**, on either path. -/
theorem armed_of_reception {env : Env} (event : RxSuccessEvent) {frame : List UInt8} {c : Ctx}
    {prePoll : PrePollPayload} {x : Option PrePollPayload} (hquiet : c.faults = noFaults)
    (hslots : c.session.params.slotsPerRound ≠ 0)
    (hfilter : c.session.nodeConfig.blockParityFilter = -1) (hforeseen : Foreseen P x c.session)
    (hframe : receivedFrame env = some frame)
    (haccept : (decodePrePollFrame P frame c).1 = .ok prePoll)
    (hindex : prePoll.pollStsIndex =
      pollStsIndexFor c.session.params prePoll.rangingBlock prePoll.roundIndex)
    (hnext : ∀ last, x = some last → ∀ next,
      nextScheduledExchange c.session.params last.rangingBlock last.roundIndex = some next →
        next = (prePoll.rangingBlock, prePoll.roundIndex)) :
    CycleKeysFor P c.session prePoll.pollStsIndex
        (handlePrePollReception P env event c).session.armed ∧
      (handlePrePollReception P env event c).session.armedKeysValid = true ∧
      (handlePrePollReception P env event c).session.armedPollStsIndex = prePoll.pollStsIndex := by
  rw [handlePrePollReception_eq, hframe]
  dsimp only
  split_ifs with hwarm
  · have hpath := armed_armWarm env event frame (c.readRx env)
    dsimp only [Ctx.readRx] at hpath ⊢
    obtain ⟨harmed, hvalid, hsts⟩ := hpath
    obtain ⟨last, block, round, hlast, hsched, hkeys⟩ := hforeseen hfilter hwarm
    have hexchange := hnext last hlast _ hsched
    obtain ⟨rfl, rfl⟩ := Prod.mk.inj hexchange
    rw [← hindex] at hkeys
    rw [harmed, hvalid, hsts]
    exact ⟨hkeys, rfl, hkeys.pollStsIndex⟩
  · have haccept' : (decodePrePollFrame P frame (c.readRx env)).1 = .ok prePoll := by
      rw [fst_decodePrePollFrame] at haccept ⊢
      exact haccept
    have hpath := armed_armBootstrap env event (c := c.readRx env) hquiet hslots hfilter haccept'
    dsimp only [Ctx.readRx] at hpath ⊢
    exact ⟨hpath.1.congr rfl rfl rfl, hpath.2⟩

/-- **The warm path agrees with the bootstrap path.**  Without faults and with
every block ours, a PrePoll that the session would accept, that announces its own
exchange and, if an exchange is scheduled after the PrePoll accepted last, this
one, arms what `deriveCycleKeys` computes for it, whether warm keys are valid or
not. -/
theorem warm_path_agrees (filter : RangeConsensusFilter) {tr : List Event} {e : Event} {t : System}
    (h : (machine P).Run (System.initial filter) (tr ++ [e]) t)
    (hquiet : ∀ e' ∈ tr ++ [e], e'.input.env.faults = noFaults)
    (hslots : e.pre.session.params.slotsPerRound ≠ 0)
    (hfilter : e.pre.session.nodeConfig.blockParityFilter = -1)
    (hstate : e.pre.session.state = .prePollListening) {event : RxSuccessEvent}
    (haction : e.input.action = .rxSuccess event) {frame : List UInt8}
    (hframe : receivedFrame e.input.env = some frame) {prePoll : PrePollPayload}
    (haccept : (decodePrePollFrame P frame (e.pre.enter e.input)).1 = .ok prePoll)
    (hindex : prePoll.pollStsIndex =
      pollStsIndexFor e.pre.session.params prePoll.rangingBlock prePoll.roundIndex)
    (hnext : ∀ last, tr.foldl mostRecent none = some last → ∀ next,
      nextScheduledExchange e.pre.session.params last.rangingBlock last.roundIndex = some next →
        next = (prePoll.rangingBlock, prePoll.roundIndex))
    (out : CycleKeys) :
    deriveCycleKeys P e.pre.session prePoll.pollStsIndex out noFaults =
        ((.ok (), e.post.session.armed), noFaults) ∧
      e.post.session.armedKeysValid = true ∧
      e.post.session.armedPollStsIndex = prePoll.pollStsIndex := by
  have hforeseen := h.observe (G := fun _ e => e.input.env.faults = noFaults)
    (J := fun x y => Foreseen P x y.session) (Q := fun x e => Foreseen P x e.pre.session) mostRecent
    (g := none) (fun tr₁ e' tr₂ htr => hquiet e' (by rw [htr]; simp)) (foreseen_of_invalid rfl)
    (fun x e he hgood hJ => foreseen_step he hgood hJ) (fun _ _ _ _ hJ => hJ) tr e [] rfl
  obtain ⟨-, hpost, -⟩ := steps_iff.1 h.at_step.2.1
  have hserve : serve P e.input (e.pre.enter e.input) =
      handlePrePollReception P e.input.env event (e.pre.enter e.input) := by
    rw [serve, haction]
    dsimp only [onRxSuccess]
    rw [show (e.pre.enter e.input).session.state = .prePollListening from hstate]
  obtain ⟨hkeys, hvalid, hsts⟩ := armed_of_reception event (c := e.pre.enter e.input)
    (hquiet e (by simp)) hslots hfilter hforeseen hframe haccept hindex hnext
  rw [hpost, hserve]
  exact ⟨deriveCycleKeys_of_cycleKeysFor hslots hkeys out, hvalid, hsts⟩

/-- The second PrePoll of a session. -/
def secondPrePoll : PrePollPayload := { pollStsIndex := 97, rangingBlock := 1 }

/-- The record `tr` brings the session to `e`, in which it hears `secondPrePoll` with
warm keys. -/
def hearsSecond (tr : List Event) (e : Event) : Bool :=
  e.pre.session.warmValid &&
    decide (e.pre.session.params = sampleParams ∧ e.pre.session.nodeConfig = {} ∧
      e.pre.session.state = .prePollListening ∧
      tr.foldl mostRecent none = some { pollStsIndex := 1 }) &&
    match receivedFrame e.input.env with
    | some frame =>
      match (decodePrePollFrame .sample frame (e.pre.enter e.input)).1 with
      | .ok prePoll => decide (prePoll = secondPrePoll)
      | .error _ => false
    | none => false

/-- The hypotheses of `warm_path_agrees` are satisfiable, with warm keys: the second
PrePoll of a session is that of the next block. -/
theorem warm_path_agrees_sample : ∃ tr e t,
    (machine .sample).Run (System.initial {}) (tr ++ [e]) t ∧
      (tr ++ [e]).map (·.input) = [sampleStart sampleParams {},
        samplePrePoll 1 { pollStsIndex := 1 }, ⟨.rxTimeout, {}⟩, samplePrePoll 2 secondPrePoll] ∧
      e.pre.session.warmValid = true ∧
      deriveCycleKeys .sample e.pre.session 97 {} noFaults =
        ((.ok (), e.post.session.armed), noFaults) := by
  obtain ⟨tr, t, hrun, hin, h⟩ := Machine.exists_run_of_exec (M := machine .sample)
    (s := System.initial {}) (l := [sampleStart sampleParams {},
      samplePrePoll 1 { pollStsIndex := 1 }, ⟨.rxTimeout, {}⟩, samplePrePoll 2 secondPrePoll])
    (p := fun tr _ => tr.getLast?.any (hearsSecond tr.dropLast)) (by decide +kernel)
  obtain ⟨e, hlast, h⟩ := (Option.any_eq_true _ _).1 h
  obtain ⟨tr, rfl⟩ := List.getLast?_eq_some_iff.1 hlast
  rw [List.dropLast_concat, hearsSecond] at h
  simp only [Bool.and_eq_true, decide_eq_true_eq] at h
  obtain ⟨⟨hwarm, hparams, hnode, hstate, hrecent⟩, haccept⟩ := h
  have hquiet (e' : Event) (he' : e' ∈ tr ++ [e]) : e'.input.env.faults = noFaults := by
    have hmem : e'.input ∈ (tr ++ [e]).map (·.input) := List.mem_map_of_mem he'
    rw [hin] at hmem
    simp only [List.mem_cons, List.not_mem_nil, or_false] at hmem
    rcases hmem with h | h | h | h <;> rw [h] <;> rfl
  have hinput : e.input = samplePrePoll 2 secondPrePoll := by
    have hl := congrArg List.getLast? hin
    simpa using hl
  have haction : e.input.action = .rxSuccess {} := by rw [hinput, samplePrePoll]
  cases hframe : receivedFrame e.input.env with
  | none => rw [hframe] at haccept; cases haccept
  | some frame =>
    rw [hframe] at haccept
    dsimp only at haccept
    cases hdecode : (decodePrePollFrame .sample frame (e.pre.enter e.input)).1 with
    | error _ => rw [hdecode] at haccept; cases haccept
    | ok prePoll =>
      rw [hdecode] at haccept
      obtain rfl := of_decide_eq_true haccept
      have hagrees := warm_path_agrees {} hrun hquiet (by rw [hparams]; decide) (by rw [hnode])
        hstate haction hframe hdecode (by rw [hparams]; decide +kernel)
        (fun last hlast next hnext => ?_) {}
      · exact ⟨tr, e, t, hrun, hin, hwarm, hagrees.1⟩
      · obtain rfl := Option.some.inj (hrecent.symm.trans hlast)
        rw [hparams] at hnext
        have hsched : nextScheduledExchange sampleParams 0 0 = some (1, 0) := by decide +kernel
        exact Option.some.inj (hnext.symm.trans hsched)

end Session
end AliroUwb
