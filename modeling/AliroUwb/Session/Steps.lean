/-
# What steps have in common

Consequences of `Served` that several invariants share: an inactive session
ignores events (`Served.of_isRadioEvent`), only `start` and `resumeWithAnchor`
configure (`Served.sameConfig`), a session becomes active only in a few ways
(`Served.active_before`), and what the commands of a step leave the device doing
(`radioAfter`).
-/

import AliroUwb.Session.Served

namespace AliroUwb
namespace Session

open Stepwise Crypto Protocol Ranging Transceiver

variable {P : Platform}

/-- A result is delivered at a reception. -/
theorem Delivered.action {i : Input} {c c' : Ctx} (h : Delivered P i c c') :
    ∃ event, i.action = .rxSuccess event := by
  cases h with
  | mk haction => exact ⟨_, haction⟩

/-- A delivery serves a radio event. -/
theorem Delivered.isRadioEvent {i : Input} {c c' : Ctx} (h : Delivered P i c c') :
    i.action.isRadioEvent = true := by
  obtain ⟨event, haction⟩ := h.action
  rw [haction]
  rfl

/-- A session that delivers a result has been waiting for a FinalData. -/
theorem Delivered.state_before {i : Input} {c c' : Ctx} (h : Delivered P i c c') :
    c.session.state = .awaitingFinalData := by
  cases h with
  | mk _ hstate => exact hstate

/-- **An inactive session ignores every event.** -/
theorem Served.of_isRadioEvent {i : Input} {c c' : Ctx} (h : Served P i c c')
    (hevent : i.action.isRadioEvent = true) : c' = c ∨ c.session.state.active = true := by
  cases h with
  | ignored => exact Or.inl rfl
  | abandoned _ hstate => exact Or.inr hstate
  | rearmed _ hstate | ineligible _ hstate | unkeyed _ hstate | bootstrapped _ hstate
  | warmed _ hstate | responded _ hstate | late _ hstate | transmitted _ hstate
  | finalReceived _ hstate | undelivered _ hstate =>
    exact Or.inr (by rw [hstate]; rfl)
  | delivered h => exact Or.inr (by rw [h.state_before]; rfl)
  | refused haction => rcases haction with h | ⟨n, h⟩ <;> rw [h] at hevent <;> cases hevent
  | callbackReturned haction | stopped haction | suspended haction | resumed haction
  | anchorFailed haction | anchored haction | startFailed haction | unconfigured haction
  | started haction => rw [haction] at hevent; cases hevent

/-- The actions that change what the session is configured with. -/
def Action.configures : Action → Bool
  | .start .. | .resumeWithAnchor _ => true
  | _ => false

/-- A radio event does not configure the session. -/
theorem Action.configures_of_isRadioEvent {a : Action} (h : a.isRadioEvent = true) :
    a.configures = false := by
  cases a <;> first | rfl | cases h

/-- The configuration and the key material are the same. -/
structure SameConfig (s t : SessionMembers) : Prop where
  params : t.params = s.params
  nodeConfig : t.nodeConfig = s.nodeConfig
  callback : t.callback = s.callback
  ursk : t.ursk = s.ursk
  keys : t.keys = s.keys
  materialValid : t.materialValid = s.materialValid

/-- A session is configured as itself. -/
theorem SameConfig.refl (s : SessionMembers) : SameConfig s s := ⟨rfl, rfl, rfl, rfl, rfl, rfl⟩

/-- Being configured alike is transitive. -/
theorem SameConfig.trans {s t r : SessionMembers} (h : SameConfig s t) (h' : SameConfig t r) :
    SameConfig s r :=
  ⟨h'.1.trans h.1, h'.2.trans h.2, h'.3.trans h.3, h'.4.trans h.4, h'.5.trans h.5, h'.6.trans h.6⟩

/-- The same configuration gives the same slot keys. -/
theorem SameConfig.slotKeysAt {s t : SessionMembers} (h : SameConfig s t) (i : StsIndex) :
    slotKeysAt P t i = slotKeysAt P s i := by
  unfold Session.slotKeysAt
  rw [h.params, h.keys]

/-- Listening and unstashing keep the configuration. -/
theorem sameConfig_of_unstashed {c c' : Ctx} (h : Unstashed P c c') :
    SameConfig c.session c'.session := by
  obtain ⟨_, _, _, _, _, _, _, rfl, -, -⟩ := h.frame
  exact ⟨rfl, rfl, rfl, rfl, rfl, rfl⟩

/-- **Only `start` and `resumeWithAnchor` configure.** -/
theorem Served.sameConfig {i : Input} {c c' : Ctx} (h : Served P i c c')
    (hno : i.action.configures = false) : SameConfig c.session c'.session := by
  cases h with
  | abandoned _ _ _ h | ineligible _ _ _ _ _ _ _ h | unkeyed _ _ _ _ _ _ _ h | late _ _ _ _ _ h
  | finalReceived _ _ h | undelivered _ _ _ _ _ h | callbackReturned _ h | resumed _ _ h =>
    have hu := sameConfig_of_unstashed h
    exact ⟨hu.1, hu.2, hu.3, hu.4, hu.5, hu.6⟩
  | bootstrapped _ _ _ _ _ _ _ _ h =>
    obtain ⟨_, _, _, rfl, -⟩ := h.frame
    exact ⟨rfl, rfl, rfl, rfl, rfl, rfl⟩
  | delivered h =>
    cases h with
    | mk => exact ⟨rfl, rfl, rfl, rfl, rfl, rfl⟩
  | anchorFailed haction | anchored haction | startFailed haction | unconfigured haction
  | started haction => rw [haction] at hno; cases hno
  | _ => exact ⟨rfl, rfl, rfl, rfl, rfl, rfl⟩

/-- A session becomes active only by being resumed, or when its callback
returns. -/
theorem Served.active_before {i : Input} {c c' : Ctx} (h : Served P i c c')
    (hno : i.action.configures = false) (hactive : c'.session.state.active = true) :
    c.session.state.active = true ∨ (i.action = .resume ∧ c.session.state = .suspended) ∨
      i.action = .callbackReturn := by
  cases h with
  | ignored | refused => exact Or.inl hactive
  | abandoned _ hstate => exact Or.inl hstate
  | rearmed _ hstate | ineligible _ hstate | unkeyed _ hstate | bootstrapped _ hstate
  | warmed _ hstate | responded _ hstate | late _ hstate | transmitted _ hstate
  | finalReceived _ hstate | undelivered _ hstate =>
    exact Or.inl (by rw [hstate]; rfl)
  | delivered h => exact Or.inl (by rw [h.state_before]; rfl)
  | callbackReturned haction => exact Or.inr (Or.inr haction)
  | resumed haction hstate => exact Or.inr (Or.inl ⟨haction, hstate⟩)
  | stopped | suspended => cases hactive
  | anchorFailed haction | anchored haction | startFailed haction | unconfigured haction
  | started haction => rw [haction] at hno; cases hno

/-! ### Steps of one action -/

/-- **What a successful `start` has done**: it has key material and a PHY, has
cleared the tracking state and listens. -/
theorem started_of_succeeded {e : Event} (he : (machine P).Steps e) {ursk : Bytes 32}
    {params : RangingSessionParameters} {nodeConfig : SessionNodeConfig} {callback : Option ℕ}
    (haction : e.input.action = .start ursk params nodeConfig callback)
    (hok : succeeded e = true) : ∃ keys lastDeriveError, ∃ c c' : Ctx,
      StartsWith P e.pre.session ursk params e.input.env.faults keys ∧
      e.input.env.configurePhyError = none ∧
      c.session = e.pre.session.prepared ursk params nodeConfig callback keys lastDeriveError ∧
      Unstashed P (c.listen e.input.env) c' ∧ e.post = ⟨c'.session, c'.inCallback⟩ ∧
      e.output = c'.outputs ++ [.returned (.ok ())] := by
  obtain ⟨-, c, hc, hpost, hout⟩ := served_of_steps he
  have hr := of_decide_eq_true hok
  rw [hout] at hr
  cases hc with
  | startFailed | unconfigured => simp [System.enter] at hr
  | @started _ _ _ _ _ _ _ c' haction' hkeys hfaults hphy h =>
    obtain ⟨rfl, rfl, rfl, rfl⟩ := Action.start.inj (haction.symm.trans haction')
    exact ⟨_, _, _, c', hkeys, hphy, rfl, h, hpost, hout⟩
  | delivered h => exact absurd h.isRadioEvent (by rw [haction]; exact Bool.false_ne_true)
  | _ => simp_all [Action.isRadioEvent]

/-- A reception in `AwaitingFinalData` is handled as such. -/
theorem handled_of_steps {e : Event} (he : (machine P).Steps e) {event : RxSuccessEvent}
    (haction : e.input.action = .rxSuccess event)
    (hstate : e.pre.session.state = .awaitingFinalData) :
    e.post.session =
        (handleFinalDataReception P e.input.env (e.pre.enter e.input)).session ∧
      e.output = (handleFinalDataReception P e.input.env (e.pre.enter e.input)).outputs := by
  obtain ⟨-, hpost, hout⟩ := steps_iff.1 he
  have hserve : serve P e.input (e.pre.enter e.input) =
      handleFinalDataReception P e.input.env (e.pre.enter e.input) := by
    simp only [serve, haction, onRxSuccess, System.enter, hstate]
  rw [hserve] at hpost hout
  exact ⟨by rw [hpost], hout⟩

/-- The driver reports nothing while the callback runs. -/
theorem inCallback_of_isRadioEvent {e : Event} (he : (machine P).Steps e)
    (h : e.input.action.isRadioEvent = true) : e.pre.inCallback = false := by
  have henabled := (steps_iff.1 he).1
  unfold System.enabled at henabled
  rw [if_pos h] at henabled
  simpa using henabled

/-- When the callback returns, the session listens. -/
theorem unstashed_of_callbackReturn {e : Event} (he : (machine P).Steps e)
    (haction : e.input.action = .callbackReturn) : ∃ c,
      Unstashed P (Ctx.listen e.input.env { e.pre.enter e.input with inCallback := false }) c ∧
      e.post = ⟨c.session, c.inCallback⟩ ∧ e.output = c.outputs := by
  obtain ⟨-, hpost, hout⟩ := steps_iff.1 he
  have hserve : serve P e.input (e.pre.enter e.input) =
      afterCallback P e.input.env (e.pre.enter e.input) := by
    unfold serve
    rw [haction]
  rw [hserve] at hpost hout
  exact ⟨_, unstashed_armPrePollListening _ _, hpost, hout⟩

/-! ### The stash -/

/-- Whether the stash has been looked at when the session listens. -/
def StashRead (s : SessionMembers) : Prop := s.state = .prePollListening → s.stashLen = 0

/-- Once the stash has been read, nothing is left in it. -/
theorem stashLen_unstashed {c c' : Ctx} (h : Unstashed P c c') : c'.session.stashLen = 0 := by
  obtain ⟨_, _, _, _, _, _, _, rfl, -, -⟩ := h.frame
  rfl

/-- **Nothing is left in the stash when the session listens.** -/
theorem stashRead_step {e : Event} (he : (machine P).Steps e) (hpre : StashRead e.pre.session) :
    StashRead e.post.session := by
  obtain ⟨-, c, hc, hpost, -⟩ := served_of_steps he
  rw [hpost]
  dsimp only
  cases hc with
  | abandoned _ _ _ h | ineligible _ _ _ _ _ _ _ h | unkeyed _ _ _ _ _ _ _ h | late _ _ _ _ _ h
  | finalReceived _ _ h | undelivered _ _ _ _ _ h | callbackReturned _ h =>
    exact fun _ => stashLen_unstashed h
  | resumed _ _ h | anchored _ _ _ _ h | started _ _ _ _ h =>
    have hread := stashLen_unstashed h
    exact fun _ => hread
  | bootstrapped _ _ _ _ _ _ _ _ h =>
    obtain ⟨_, _, _, rfl, -⟩ := h.frame
    exact fun hstate => by cases hstate
  | delivered h =>
    cases h with
    | mk => exact hpre
  | warmed | responded | transmitted | stopped | suspended => exact fun hstate => by cases hstate
  | ignored | rearmed | refused | anchorFailed | startFailed | unconfigured => exact hpre

/-- **The run lemma**: a session that has read its stash whenever it listens goes on doing so. -/
theorem stashRead_run {x y : System} {tr : List Event} (h : (machine P).Run x tr y)
    (hx : StashRead x.session) : StashRead y.session :=
  h.invariant (G := fun _ => True) (P := fun y => StashRead y.session) (fun _ _ => trivial) hx
    fun _ he _ hpre => stashRead_step he hpre

/-! ### What is put out -/

/-- The output hands over a result. -/
def Output.isRange : Output → Bool
  | .range .. => true
  | _ => false

/-- Neither an acceptance nor a result. -/
def Output.plain : Output → Bool
  | .acceptedPrePoll .. | .acceptedFinalData .. | .range .. => false
  | _ => true

/-- Neither a transmission nor a result. -/
def Output.routine : Output → Bool
  | .command (.startDelayedTx ..) => false
  | o => !o.isRange

/-- The way back to listening leaves the angle detector alone. -/
theorem aoaStability_armPrePollListening (env : Env) (c : Ctx) :
    (armPrePollListening P env c).session.aoaStability = c.session.aoaStability := by
  obtain ⟨_, _, _, _, _, _, _, h, -, -⟩ := (unstashed_armPrePollListening (P := P) env c).frame
  rw [h]
  rfl

/-- **What a successful call that configures has done**: it has forgotten the warm keys, the
samples of the filter and the angles, accepted nothing so far, and listens. -/
theorem configured_of_succeeded {e : Event} (he : (machine P).Steps e)
    (hconf : e.input.action.configures = true) (hok : succeeded e = true) :
    ∃ c c' : Ctx, Unstashed P (c.listen e.input.env) c' ∧ e.post = ⟨c'.session, c'.inCallback⟩ ∧
      e.output = c'.outputs ++ [.returned (.ok ())] ∧ c.outputs.all Output.plain = true ∧
      c.session.warmValid = false ∧
      c.session.filter = { config := e.pre.session.filter.config } ∧
      (c.session.aoaStability = .new {} ∨
        c.session.aoaStability = e.pre.session.aoaStability.reset) := by
  obtain ⟨-, c, hc, hpost, hout⟩ := served_of_steps he
  have hno (h : e.input.action.configures = false) : False :=
    Bool.false_ne_true (h.symm.trans hconf)
  have hr := of_decide_eq_true hok
  rw [hout] at hr
  cases hc with
  | anchored _ _ _ _ h => exact ⟨_, _, h, hpost, hout, rfl, rfl, rfl, Or.inr rfl⟩
  | started _ _ _ _ h => exact ⟨_, _, h, hpost, hout, rfl, rfl, rfl, Or.inl rfl⟩
  | refused | anchorFailed | startFailed | unconfigured => simp [System.enter] at hr
  | ignored h | abandoned h => exact (hno (Action.configures_of_isRadioEvent h)).elim
  | delivered h => exact (hno (Action.configures_of_isRadioEvent h.isRadioEvent)).elim
  | rearmed ha | ineligible ha | unkeyed ha | bootstrapped ha | warmed ha | responded ha
  | late ha | transmitted ha | finalReceived ha | undelivered ha | callbackReturned ha
  | stopped ha | suspended ha | resumed ha => exact (hno (by rw [ha]; rfl)).elim

/-- From `c` to `c'` only outputs that satisfy `p` have been added. -/
def Only (p : Output → Bool) (c c' : Ctx) : Prop :=
  ∃ os, c'.outputs = c.outputs ++ os ∧ os.all p = true

/-- Two stretches of a handler, one after the other. -/
theorem Only.trans {p : Output → Bool} {c₁ c₂ c₃ : Ctx} (h₁ : Only p c₁ c₂) (h₂ : Only p c₂ c₃) :
    Only p c₁ c₃ := by
  obtain ⟨os₁, ho₁, hr₁⟩ := h₁
  obtain ⟨os₂, ho₂, hr₂⟩ := h₂
  exact ⟨os₁ ++ os₂, by rw [ho₂, ho₁, List.append_assoc], by simp [hr₁, hr₂]⟩

/-- If all outputs are of one kind, they are of every wider one. -/
theorem Only.mono {p q : Output → Bool} {c c' : Ctx} (h : Only p c c')
    (hpq : ∀ o, p o = true → q o = true) : Only q c c' := by
  obtain ⟨os, ho, hp⟩ := h
  exact ⟨os, ho, List.all_eq_true.2 fun o hmem => hpq o (List.all_eq_true.1 hp o hmem)⟩

/-- What an enabled step puts out, it adds to nothing. -/
theorem Only.of_mem {p : Output → Bool} {x : System} {i : Input} {c : Ctx}
    (h : Only p (x.enter i) c) {o : Output} (ho : o ∈ c.outputs) : p o = true := by
  obtain ⟨os, hos, hp⟩ := h
  rw [hos] at ho
  exact List.all_eq_true.1 hp o ho

/-- What is put out around the commands of a window, and the commands. -/
theorem all_window {p : Output → Bool} {env : Env} {t : UInt32} {timeout immediate : UInt16}
    {os₁ os₂ : List Output} (h₁ : os₁.all p = true) (h₂ : os₂.all p = true)
    (hdelayed : ∀ started, p (.command (.startDelayedRx t timeout started)) = true)
    (himmediate : ∀ started, p (.command (.startImmediateRx immediate started)) = true) :
    (os₁ ++ rxCommands env t timeout immediate ++ os₂).all p = true := by
  have hrx : (rxCommands env t timeout immediate).all p = true := by
    unfold rxCommands
    split_ifs
    · simp [hdelayed]
    · simp [hdelayed, himmediate]
  rw [List.all_append, List.all_append, h₁, hrx, h₂]
  rfl

/-- Arming an exchange accepts and delivers nothing. -/
theorem plain_armCommands (s : SessionMembers) (env : Env) (event : RxSuccessEvent)
    (keys : CycleKeys) : (armCommands s env event keys).all Output.plain = true :=
  all_window rfl rfl (fun _ => rfl) fun _ => rfl

/-- A result is no routine output. -/
theorem isRange_of_routine {o : Output} (h : o.routine = true) : (!o.isRange) = true := by
  rcases o with ⟨⟨⟩⟩ | _ | _ | _ | _ | _ <;> first | exact h | rfl

/-- Refreshing the warm keys puts nothing out. -/
theorem only_refreshed {p : Output → Bool} {c c' : Ctx} (h : Refreshed P c c') : Only p c c' := by
  obtain ⟨_, _, _, rfl, -⟩ := h.frame
  exact ⟨[], (List.append_nil _).symm, rfl⟩

/-- Unstashing puts out nothing but the acceptance. -/
theorem only_unstashed {p : Output → Bool}
    (hp : ∀ mhr prePoll, p (.acceptedPrePoll mhr prePoll) = true) {c c' : Ctx}
    (h : Unstashed P c c') : Only p c c' := by
  obtain ⟨_, _, _, _, _, _, os, rfl, -, hos⟩ := h.frame
  refine ⟨os, rfl, List.all_eq_true.2 fun o ho => ?_⟩
  obtain ⟨mhr, prePoll, rfl⟩ := hos o ho
  exact hp mhr prePoll

/-- Listening, whatever was put out before. -/
theorem routine_listen {env : Env} {c c₁ c' : Ctx} (h : Unstashed P (c₁.listen env) c')
    (hc : Only Output.routine c c₁) : Only Output.routine c c' :=
  (hc.trans ⟨_, rfl, rfl⟩).trans (only_unstashed (fun _ _ => rfl) h)

/-- A Poll has come in time and its exchange is armed. -/
structure Answers (i : Input) (c : Ctx) (event : RxSuccessEvent) : Prop where
  action : i.action = .rxSuccess event
  state : c.session.state = .awaitingPoll
  sts : event.stsPassed = true
  keys : c.session.armedKeysValid = true

/-- **Only the answer to a Poll transmits, and only a delivery calls back.** -/
theorem Served.routine_or {i : Input} {c c' : Ctx} (h : Served P i c c') :
    Only Output.routine c c' ∨
    (∃ event, Answers i c event ∧ Only (fun o => !o.isRange) c c') ∨ Delivered P i c c' := by
  have hsame {c₁ : Ctx} (h : c₁.outputs = c.outputs) : Only Output.routine c c₁ :=
    ⟨[], h.trans (List.append_nil _).symm, rfl⟩
  cases h with
  | ignored => exact Or.inl (hsame rfl)
  | abandoned _ _ _ h | callbackReturned _ h => exact Or.inl (routine_listen h (hsame rfl))
  | rearmed | stopped | suspended | refused | anchorFailed | startFailed | unconfigured =>
    exact Or.inl ⟨_, rfl, rfl⟩
  | ineligible _ _ _ _ _ _ _ h | undelivered _ _ _ _ _ h =>
    exact Or.inl (routine_listen h ⟨_, rfl, rfl⟩)
  | unkeyed _ _ _ _ _ _ _ h => exact Or.inl (routine_listen h ⟨_, List.append_assoc .., rfl⟩)
  | @bootstrapped event _ _ _ _ armed _ _ _ _ _ _ _ _ _ _ h =>
    have harm : (armCommands c.session i.env event armed).all Output.routine = true :=
      all_window rfl rfl (fun _ => rfl) fun _ => rfl
    refine Or.inl (Only.trans ⟨_, List.append_assoc .., ?_⟩ (only_refreshed h))
    exact harm
  | warmed => exact Or.inl ⟨_, rfl, all_window rfl rfl (fun _ => rfl) fun _ => rfl⟩
  | responded haction hstate hsts hkeys =>
    exact Or.inr (Or.inl ⟨_, ⟨haction, hstate, hsts, hkeys⟩, _, rfl, rfl⟩)
  | late haction hstate hsts hkeys _ h =>
    refine Or.inr (Or.inl ⟨_, ⟨haction, hstate, hsts, hkeys⟩, ?_⟩)
    have hlisten := (routine_listen h ⟨[], (List.append_nil _).symm, rfl⟩).mono
      fun _ => isRange_of_routine
    refine Only.trans ?_ hlisten
    exact ⟨_, rfl, rfl⟩
  | transmitted =>
    exact Or.inl ⟨_, rfl, all_window rfl rfl (fun _ => rfl) fun _ => rfl⟩
  | finalReceived _ _ h =>
    exact Or.inl (Only.trans ⟨_, rfl, all_window rfl rfl (fun _ => rfl) fun _ => rfl⟩
      (only_unstashed (fun _ _ => rfl) h))
  | delivered h => exact Or.inr (Or.inr h)
  | resumed _ _ h => exact Or.inl (Only.trans (routine_listen h (hsame rfl)) ⟨_, rfl, rfl⟩)
  | anchored _ _ _ _ h => exact Or.inl (Only.trans (routine_listen h (hsame rfl)) ⟨_, rfl, rfl⟩)
  | started _ _ _ _ h =>
    exact Or.inl (Only.trans (routine_listen h ⟨_, rfl, rfl⟩) ⟨_, rfl, rfl⟩)

/-- **A result is put out by a delivery only.** -/
theorem delivered_of_range {e : Event} (he : (machine P).Steps e) {callback : ℕ}
    {result : RangingResult} (hr : .range callback result ∈ e.output) :
    ∃ c, Delivered P e.input (e.pre.enter e.input) c ∧ e.post = ⟨c.session, c.inCallback⟩ ∧
      e.output = c.outputs := by
  obtain ⟨-, c, hc, hpost, hout⟩ := served_of_steps he
  rw [hout] at hr
  rcases hc.routine_or with hroutine | ⟨event, -, hrange⟩ | hd
  · cases hroutine.of_mem hr
  · cases hrange.of_mem hr
  · exact ⟨c, hd, hpost, hout⟩

/-- **A Response is transmitted only in answer to a Poll.** -/
theorem answers_of_startDelayedTx {e : Event} (he : (machine P).Steps e) {t : UInt32}
    {ranging started : Bool} (hr : .command (.startDelayedTx t ranging started) ∈ e.output) :
    ∃ event, Answers e.input (e.pre.enter e.input) event := by
  obtain ⟨-, c, hc, -, hout⟩ := served_of_steps he
  rw [hout] at hr
  rcases hc.routine_or with hroutine | ⟨event, hanswers, -⟩ | hd
  · cases hroutine.of_mem hr
  · exact ⟨event, hanswers⟩
  · cases hd with
    | mk => simp [System.enter] at hr

/-- The output is the entry into `PrePollListening`. -/
def Output.isListening : Output → Bool
  | .transition .prePollListening => true
  | _ => false

/-- Outputs other than the entry into `PrePollListening`. -/
def Output.other (o : Output) : Bool := !o.isListening

/-- The session has entered `PrePollListening` and is there. -/
def Listens (c : Ctx) : Prop :=
  c.session.state = .prePollListening ∧ c.outputs.any Output.isListening = true

/-- After the stash has been read, the session listens. -/
theorem listens_unstashed {env : Env} {c c' : Ctx} (h : Unstashed P (c.listen env) c') :
    Listens c' := by
  obtain ⟨_, _, _, _, _, _, os, rfl, -, -⟩ := h.frame
  refine ⟨rfl, ?_⟩
  rw [List.any_append, List.any_eq_true.2 ⟨.transition .prePollListening, ?_, rfl⟩, Bool.true_or]
  simp [Ctx.listen]

/-- It listens when the call returns. -/
theorem Listens.returned {c : Ctx} (h : Listens c) (res : Except StatusCode Unit) :
    Listens { c with outputs := c.outputs ++ [.returned res] } :=
  ⟨h.1, by rw [List.any_append, h.2, Bool.true_or]⟩

/-- **A step enters `PrePollListening` and stays there, or does not enter it.** -/
theorem Served.listens_or {i : Input} {c c' : Ctx} (h : Served P i c c') :
    Listens c' ∨ Only Output.other c c' := by
  cases h with
  | abandoned _ _ _ h | ineligible _ _ _ _ _ _ _ h | unkeyed _ _ _ _ _ _ _ h | late _ _ _ _ _ h
  | undelivered _ _ _ _ _ h | callbackReturned _ h => exact Or.inl (listens_unstashed h)
  | resumed _ _ h | anchored _ _ _ _ h | started _ _ _ _ h =>
    exact Or.inl ((listens_unstashed h).returned _)
  | ignored => exact Or.inr ⟨[], (List.append_nil _).symm, rfl⟩
  | rearmed | responded | stopped | suspended | refused | anchorFailed | startFailed
  | unconfigured => exact Or.inr ⟨_, rfl, rfl⟩
  | @bootstrapped event _ _ _ _ armed _ _ _ _ _ _ _ _ _ _ h =>
    have harm : (armCommands c.session i.env event armed).all Output.other = true :=
      all_window rfl rfl (fun _ => rfl) fun _ => rfl
    refine Or.inr (Only.trans ⟨_, List.append_assoc .., ?_⟩ (only_refreshed h))
    exact harm
  | warmed => exact Or.inr ⟨_, rfl, all_window rfl rfl (fun _ => rfl) fun _ => rfl⟩
  | transmitted =>
    exact Or.inr ⟨_, rfl, all_window rfl rfl (fun _ => rfl) fun _ => rfl⟩
  | finalReceived _ _ h =>
    exact Or.inr (Only.trans ⟨_, rfl, all_window rfl rfl (fun _ => rfl) fun _ => rfl⟩
      (only_unstashed (fun _ _ => rfl) h))
  | delivered h =>
    cases h with
    | mk => exact Or.inr ⟨_, rfl, rfl⟩

/-! ### The device after the commands -/

/-- The device after what a handler put out. -/
def radioAfter (r : Radio) (outputs : List Output) : Radio :=
  outputs.foldl (fun r o => match o with
    | .command c => r.command c
    | _ => r) r

/-- Without outputs the radio does nothing. -/
@[simp] theorem after_nil (r : Radio) : radioAfter r [] = r := rfl

/-- Outputs act on the radio one after the other. -/
@[simp] theorem after_append (r : Radio) (a b : List Output) :
    radioAfter r (a ++ b) = radioAfter (radioAfter r a) b := List.foldl_append

/-- A command acts on the radio. -/
@[simp] theorem after_command (r : Radio) (c : Command) (os : List Output) :
    radioAfter r (.command c :: os) = radioAfter (r.command c) os := rfl

/-- A transition does nothing to the radio. -/
@[simp] theorem after_transition (r : Radio) (q : SessionState) (os : List Output) :
    radioAfter r (.transition q :: os) = radioAfter r os := rfl

/-- The acceptance of a PrePoll does nothing to the radio. -/
@[simp] theorem after_acceptedPrePoll (r : Radio) (mhr : MacHeader) (prePoll : PrePollPayload)
    (os : List Output) :
    radioAfter r (.acceptedPrePoll mhr prePoll :: os) = radioAfter r os := rfl

/-- The return of a call does nothing to the radio. -/
@[simp] theorem after_returned (r : Radio) (res : Except StatusCode Unit) (os : List Output) :
    radioAfter r (.returned res :: os) = radioAfter r os := rfl

/-- Acceptances in a row do nothing to the radio. -/
theorem after_accepted (r : Radio) {os : List Output}
    (h : ∀ o ∈ os, ∃ mhr prePoll, o = .acceptedPrePoll mhr prePoll) : radioAfter r os = r := by
  induction os with
  | nil => rfl
  | cons o os ih =>
    obtain ⟨mhr, prePoll, rfl⟩ := h o List.mem_cons_self
    exact ih fun o ho => h o (List.mem_cons_of_mem _ ho)

/-- A window opens, if only late. -/
theorem after_rxCommands (r : Radio) {env : Env} (himm : env.immediateRxStarts = true) (t : UInt32)
    (timeout immediate : UInt16) :
    radioAfter r (rxCommands env t timeout immediate) = .receiving := by
  unfold rxCommands
  cases hrx : env.delayedRxStarts <;> simp [Radio.command, himm]

/-- **Listening leaves the device receiving**, whatever went before. -/
theorem after_unstashed {env : Env} {c c' : Ctx} (h : Unstashed P (c.listen env) c')
    (himm : env.immediateRxStarts = true) (r : Radio) :
    radioAfter r c'.outputs = .receiving ∧ c'.session.state = .prePollListening ∧
      c'.inCallback = c.inCallback := by
  obtain ⟨_, _, _, _, _, _, os, rfl, -, hos⟩ := h.frame
  refine ⟨?_, rfl, rfl⟩
  simp [Ctx.listen, Radio.command, himm, after_accepted _ hos]

end Session
end AliroUwb
