/-
# The slots of an exchange

The Response, the Final and the FinalData have their slots at fixed offsets from
the Poll.  The offsets are computed in four places: `deriveCycleKeys` adds them
to the STS index of the Poll, and the three handlers multiply them by the length
of a slot.  Both agree on every leg of every exchange (`slotTiming_of_steps`).

That the slots are in order, and inside the round, is not a property of the code.
`start` takes any responder index, responder count, slot length and round length,
and checks none against another; `slots_of_session` says which of them give what.
-/

import AliroUwb.Session.ArmedKeys

namespace AliroUwb
namespace Session

open Stepwise Crypto Protocol Ranging Transceiver

variable {P : Platform}

/-! ### The legs -/

/-- The key and the IV that an output loads. -/
def Output.loadedKey : Output → Option (Bytes 16 × Bytes 16)
  | .command (.loadStsKeyIv key iv) => some (key, iv)
  | _ => none

/-- The time that an output starts the radio at. -/
def Output.startTime : Output → Option UInt32
  | .command (.startDelayedTx t _ _) | .command (.startDelayedRx t _ _) => some t
  | _ => none

/-- The keys that a step loads. -/
def loaded (e : Event) : List (Bytes 16 × Bytes 16) := e.output.filterMap Output.loadedKey

/-- The times that a step starts the radio at. -/
def startTimes (e : Event) : List UInt32 := e.output.filterMap Output.startTime

/-- Neither loads keys nor starts the radio at a time. -/
def Output.untimed (o : Output) : Bool := o.loadedKey.isNone && o.startTime.isNone

/-- Slot keys, as they are loaded. -/
def stsKeyIv (k : SlotCryptoMaterial) : Bytes 16 × Bytes 16 := (k.durskKey, k.stsIv)

/-- The same exchange is under way. -/
structure SameExchange (s t : SessionMembers) : Prop where
  state : t.state = s.state
  armedPollStsIndex : t.armedPollStsIndex = s.armedPollStsIndex
  pollRxTimestampDtu : t.measurement.pollRxTimestampDtu = s.measurement.pollRxTimestampDtu

/-- What a step does about the legs of an exchange. -/
inductive Leg (e : Event) : Prop
  | poll (hpre : e.pre.session.state = .prePollListening)
      (hpost : e.post.session.state = .awaitingPoll)
      (hloaded : loaded e = [stsKeyIv e.post.session.armed.poll])
  | response {event : RxSuccessEvent} (haction : e.input.action = .rxSuccess event)
      (hpre : e.pre.session.state = .awaitingPoll)
      (hpost : e.post.session.state = .transmittingResponse ∨
        e.post.session.state = .prePollListening)
      (hindex : e.post.session.armedPollStsIndex = e.pre.session.armedPollStsIndex)
      (hmeasured : e.post.session.measurement.pollRxTimestampDtu = event.rxTimestampDtu)
      (hloaded : loaded e = [stsKeyIv e.pre.session.armed.response])
      (htimes : startTimes e = [respTxTime e.pre.session event])
  | final (hpre : e.pre.session.state = .transmittingResponse)
      (hpost : e.post.session.state = .awaitingFinal)
      (hsame : SameExchange { e.pre.session with state := .awaitingFinal } e.post.session)
      (hloaded : loaded e = [stsKeyIv e.pre.session.armed.final])
      (htimes : startTimes e =
        [slotRxTime e.pre.session (1 + e.pre.session.params.responderCount.toUInt32)])
  | finalData (hpre : e.pre.session.state = .awaitingFinal)
      (hpost : e.post.session.state = .awaitingFinalData)
      (hsame : SameExchange { e.pre.session with state := .awaitingFinalData } e.post.session)
      (hloaded : loaded e = []) (hoff : .command (.configureStsMode .off) ∈ e.output)
      (htimes : startTimes e =
        [slotRxTime e.pre.session (2 + e.pre.session.params.responderCount.toUInt32)])
  | other (huntimed : e.output.all Output.untimed = true)
      (hsame : e.post.session.state.inExchange = true → SameExchange e.pre.session e.post.session)

/-- Opening a window loads no key. -/
theorem filterMap_loadedKey_rxCommands (env : Env) (t : UInt32) (timeout immediate : UInt16) :
    (rxCommands env t timeout immediate).filterMap Output.loadedKey = [] := by
  unfold rxCommands
  split_ifs <;> rfl

/-- Opening a window starts at its time. -/
theorem filterMap_startTime_rxCommands (env : Env) (t : UInt32) (timeout immediate : UInt16) :
    (rxCommands env t timeout immediate).filterMap Output.startTime = [t] := by
  unfold rxCommands
  split_ifs <;> rfl

/-- Outputs that load nothing and start nothing at a time. -/
theorem filterMap_of_untimed {os : List Output} (h : os.all Output.untimed = true) :
    os.filterMap Output.loadedKey = [] ∧ os.filterMap Output.startTime = [] := by
  have hnone (o : Output) (ho : o ∈ os) : o.loadedKey = none ∧ o.startTime = none := by
    have huntimed := List.all_eq_true.1 h o ho
    rw [Output.untimed, Bool.and_eq_true, Option.isNone_iff_eq_none,
      Option.isNone_iff_eq_none] at huntimed
    exact huntimed
  exact ⟨List.filterMap_eq_nil_iff.2 fun o ho => (hnone o ho).1,
    List.filterMap_eq_nil_iff.2 fun o ho => (hnone o ho).2⟩

/-- What an arm loads. -/
theorem filterMap_loadedKey_armCommands (s : SessionMembers) (env : Env) (event : RxSuccessEvent)
    (keys : CycleKeys) :
    (armCommands s env event keys).filterMap Output.loadedKey = [stsKeyIv keys.poll] := by
  simp only [armCommands, List.filterMap_append, filterMap_loadedKey_rxCommands]
  rfl

/-- **Every step is a leg of an exchange or has nothing to do with one.** -/
theorem leg_of_steps {e : Event} (he : (machine P).Steps e) : Leg e := by
  obtain ⟨-, c, hc, hpost, hout⟩ := served_of_steps he
  have huntimed (h : Only Output.untimed (e.pre.enter e.input) c) :
      e.output.all Output.untimed = true :=
    List.all_eq_true.2 fun o ho => h.of_mem (hout ▸ ho)
  -- a step whose outputs are listed, which is no leg
  have hplain {os : List Output} (ho : c.outputs = (e.pre.enter e.input).outputs ++ os)
      (hos : os.all Output.untimed = true)
      (hsame : c.session.state.inExchange = true → SameExchange e.pre.session c.session) :
      Leg e :=
    .other (huntimed ⟨os, ho, hos⟩) (by rw [hpost]; exact hsame)
  -- a step that goes back to listening
  have hreturn {c₁ c₂ : Ctx} (h : Unstashed P (c₁.listen e.input.env) c₂)
      (h₁ : Only Output.untimed (e.pre.enter e.input) c₁) (h₂ : Only Output.untimed c₂ c)
      (hsession : c.session = c₂.session) : Leg e := by
    refine .other (huntimed (((h₁.trans ⟨_, rfl, rfl⟩).trans
      (only_unstashed (fun _ _ => rfl) h)).trans h₂)) fun hst => ?_
    rw [hpost, hsession, (listens_unstashed h).1] at hst
    cases hst
  have hsilent {c₁ c₂ : Ctx} (h : c₂.outputs = c₁.outputs) : Only Output.untimed c₁ c₂ :=
    ⟨[], h.trans (List.append_nil _).symm, rfl⟩
  have hlisten {c₁ : Ctx} (h : Unstashed P (c₁.listen e.input.env) c)
      (h₁ : Only Output.untimed (e.pre.enter e.input) c₁) : Leg e :=
    hreturn h h₁ (hsilent rfl) rfl
  have haccepted {os : List Output}
      (h : ∀ o ∈ os, ∃ mhr prePoll, o = .acceptedPrePoll mhr prePoll) :
      os.all Output.untimed = true := by
    refine List.all_eq_true.2 fun o ho => ?_
    obtain ⟨_, _, rfl⟩ := h o ho
    rfl
  cases hc with
  | ignored => exact hplain (List.append_nil _).symm rfl fun _ => ⟨rfl, rfl, rfl⟩
  | rearmed | refused => exact hplain rfl rfl fun _ => ⟨rfl, rfl, rfl⟩
  | abandoned _ _ _ h | callbackReturned _ h => exact hlisten h (hsilent rfl)
  | ineligible _ _ _ _ _ _ _ h | undelivered _ _ _ _ _ h => exact hlisten h ⟨_, rfl, rfl⟩
  | unkeyed _ _ _ _ _ _ _ h => exact hlisten h ⟨_, List.append_assoc .., rfl⟩
  | @bootstrapped event _ _ _ _ armed _ _ _ hstate _ _ _ _ _ _ h =>
    obtain ⟨_, _, _, rfl, -⟩ := h.frame
    refine .poll hstate (by rw [hpost]; rfl) ?_
    rw [loaded, hout, hpost]
    exact filterMap_loadedKey_armCommands ..
  | warmed _ hstate =>
    refine .poll hstate (by rw [hpost]; rfl) ?_
    rw [loaded, hout, hpost]
    exact filterMap_loadedKey_armCommands ..
  | responded haction hstate =>
    refine .response haction hstate (Or.inl (by rw [hpost])) (by rw [hpost]; rfl) (by rw [hpost])
      ?_ ?_
    · rw [loaded, hout]
      rfl
    · rw [startTimes, hout]
      rfl
  | late haction hstate _ _ _ h =>
    obtain ⟨_, _, _, _, _, _, os, rfl, -, hos⟩ := h.frame
    obtain ⟨hload, hstart⟩ := filterMap_of_untimed (haccepted hos)
    refine .response haction hstate (Or.inr (by rw [hpost]; rfl)) (by rw [hpost]; rfl)
      (by rw [hpost]; rfl) ?_ ?_
    · rw [loaded, hout, List.filterMap_append, hload]
      rfl
    · rw [startTimes, hout, List.filterMap_append, hstart]
      rfl
  | transmitted _ hstate =>
    refine .final hstate (by rw [hpost]) (by rw [hpost]; exact ⟨rfl, rfl, rfl⟩) ?_ ?_
    · simp only [loaded, hout, List.filterMap_append, filterMap_loadedKey_rxCommands]
      rfl
    · simp only [startTimes, hout, List.filterMap_append, filterMap_startTime_rxCommands]
      rfl
  | finalReceived _ hstate h =>
    obtain ⟨_, _, _, _, _, _, os, rfl, -, hos⟩ := h.frame
    obtain ⟨hload, hstart⟩ := filterMap_of_untimed (haccepted hos)
    refine .finalData hstate (by rw [hpost]) (by rw [hpost]; exact ⟨rfl, rfl, rfl⟩) ?_ ?_ ?_
    · simp only [loaded, hout, List.filterMap_append, filterMap_loadedKey_rxCommands, hload]
      rfl
    · simp [hout]
    · simp only [startTimes, hout, List.filterMap_append, filterMap_startTime_rxCommands, hstart]
      rfl
  | delivered h =>
    cases h with
    | mk => exact hplain rfl rfl fun _ => ⟨rfl, rfl, rfl⟩
  | stopped | suspended => exact hplain rfl rfl nofun
  | anchorFailed _ hstate => exact hplain rfl rfl fun _ => ⟨rfl, rfl, rfl⟩
  | startFailed | unconfigured => exact hplain rfl rfl fun _ => ⟨rfl, rfl, rfl⟩
  | resumed _ _ h | anchored _ _ _ _ h => exact hreturn h (hsilent rfl) ⟨_, rfl, rfl⟩ rfl
  | started _ _ _ _ h => exact hreturn h ⟨_, rfl, rfl⟩ ⟨_, rfl, rfl⟩ rfl

/-! ### The slots -/

/-- The slot of the Response, counted from the Poll. -/
def responseSlot (nodeConfig : SessionNodeConfig) : UInt32 := 1 + nodeConfig.responderIndex.toUInt32

/-- The slot of the Final. -/
def finalSlot (params : RangingSessionParameters) : UInt32 := 1 + params.responderCount.toUInt32

/-- The slot of the FinalData. -/
def finalDataSlot (params : RangingSessionParameters) : UInt32 :=
  2 + params.responderCount.toUInt32

/-- How long after the Poll a slot is, less a lead, in ticks. -/
def slotOffset (params : RangingSessionParameters) (slot lead : UInt32) : UInt32 :=
  slot * slotTicksHi32 params - lead

/-- The session is configured with these, but for its anchor. -/
structure Configured (params : RangingSessionParameters) (nodeConfig : SessionNodeConfig)
    (s : SessionMembers) : Prop where
  params : ∃ stsIndex0, s.params = { params with stsIndex0 }
  nodeConfig : s.nodeConfig = nodeConfig

/-- The step loads the keys of the STS index `i`, by the key material that the
session has had since a step of `past`. -/
def LoadsKeysOf (P : Platform) (params : RangingSessionParameters)
    (nodeConfig : SessionNodeConfig) (past : List Event) (e : Event) (i : StsIndex) : Prop :=
  ∃ e' ∈ past, Configured params nodeConfig e'.post.session ∧
    ∃ keys, value (slotKeysAt P e'.post.session i) = .ok keys ∧ loaded e = [stsKeyIv keys]

/-- The slots that a step times, and the STS indices of the keys that it loads. -/
structure SlotTiming (P : Platform) (params : RangingSessionParameters)
    (nodeConfig : SessionNodeConfig) (past : List Event) (e : Event) : Prop where
  poll : e.pre.session.state ≠ .awaitingPoll → e.post.session.state = .awaitingPoll →
    LoadsKeysOf P params nodeConfig past e e.post.session.armedPollStsIndex
  response : ∀ t ranging started, .command (.startDelayedTx t ranging started) ∈ e.output →
    LoadsKeysOf P params nodeConfig past e
        (e.pre.session.armedPollStsIndex + responseSlot nodeConfig) ∧
      ∃ event, e.input.action = .rxSuccess event ∧ e.pre.session.state = .awaitingPoll ∧
        e.post.session.measurement.pollRxTimestampDtu = event.rxTimestampDtu ∧
        startTimes e = [hi32 event.rxTimestampDtu +
          slotOffset params (responseSlot nodeConfig) respAntDelayHi32]
  final : e.pre.session.state ≠ .awaitingFinal → e.post.session.state = .awaitingFinal →
    LoadsKeysOf P params nodeConfig past e (e.pre.session.armedPollStsIndex + finalSlot params) ∧
      startTimes e = [hi32 e.pre.session.measurement.pollRxTimestampDtu +
        slotOffset params (finalSlot params) leadTimeHi32]
  /-- The FinalData comes without an STS. -/
  finalData : e.pre.session.state ≠ .awaitingFinalData →
    e.post.session.state = .awaitingFinalData →
      (loaded e = [] ∧ .command (.configureStsMode .off) ∈ e.output) ∧
      startTimes e = [hi32 e.pre.session.measurement.pollRxTimestampDtu +
        slotOffset params (finalDataSlot params) leadTimeHi32]
  /-- From the arm to the end of an exchange its Poll stays the same. -/
  index : e.pre.session.state ≠ .prePollListening → e.post.session.state.inExchange = true →
    e.post.session.armedPollStsIndex = e.pre.session.armedPollStsIndex
  timestamp : e.pre.session.state ≠ .prePollListening → e.pre.session.state ≠ .awaitingPoll →
    e.post.session.state.inExchange = true →
      e.post.session.measurement.pollRxTimestampDtu = e.pre.session.measurement.pollRxTimestampDtu

/-- Where keys come from that were derived since a step of `past`. -/
def DerivedSince (P : Platform) (params : RangingSessionParameters)
    (nodeConfig : SessionNodeConfig) (past : List Event) (keys : CycleKeys) : Prop :=
  ∃ e' ∈ past, Configured params nodeConfig e'.post.session ∧
    CycleKeysFor P e'.post.session keys.pollStsIndex keys

/-- A time is a slot after the Poll, less a lead. -/
theorem add_slotOffset {s : SessionMembers} {params : RangingSessionParameters}
    {nodeConfig : SessionNodeConfig} (h : Configured params nodeConfig s) (t slot lead : UInt32) :
    t + slot * slotTicksHi32 s.params - lead = t + slotOffset params slot lead := by
  obtain ⟨stsIndex0, hparams⟩ := h.params
  have hticks : slotTicksHi32 s.params = slotTicksHi32 params := by
    rw [hparams]
    rfl
  rw [hticks, slotOffset, UInt32.sub_eq_add_neg, UInt32.sub_eq_add_neg, UInt32.add_assoc]

/-- **Each leg is timed by the slot whose keys it loads.** -/
theorem slotTiming_of_steps {e : Event} (he : (machine P).Steps e)
    {params : RangingSessionParameters} {nodeConfig : SessionNodeConfig} {past : List Event}
    (hpre : Configured params nodeConfig e.pre.session)
    (hkeyed : Keyed (DerivedSince P params nodeConfig past) e.pre.session)
    (hkeyed' : Keyed (DerivedSince P params nodeConfig past) e.post.session) :
    SlotTiming P params nodeConfig past e := by
  -- in an exchange there are armed keys, those of the armed Poll
  have harmed (hst : e.pre.session.state.inExchange = true) :=
    (hkeyed.armed hst).2
  have hrx (slot : UInt32) : slotRxTime e.pre.session slot =
      hi32 e.pre.session.measurement.pollRxTimestampDtu + slotOffset params slot leadTimeHi32 :=
    add_slotOffset hpre ..
  have hcount : e.pre.session.params.responderCount = params.responderCount := by
    obtain ⟨_, hparams⟩ := hpre.params
    rw [hparams]
  have hother {q r : SessionState} {p : Prop} (h : e.post.session.state = q)
      (h' : e.post.session.state = r) (hne : q ≠ r) : p := absurd (h.symm.trans h') hne
  have htx {p : Prop} (hst : e.pre.session.state ≠ .awaitingPoll) {t : UInt32}
      {ranging started : Bool} (h : .command (.startDelayedTx t ranging started) ∈ e.output) : p :=
    absurd (answers_of_startDelayedTx he h).choose_spec.state hst
  cases leg_of_steps he with
  | poll hst hpost hloaded =>
    obtain ⟨-, hindex, e', he', hconf, hkeys⟩ := hkeyed'.armed (by rw [hpost]; rfl)
    refine ⟨fun _ _ => ⟨e', he', hconf, _, hindex ▸ hkeys.poll, hloaded⟩,
      fun _ _ _ h => htx (by rw [hst]; decide) h, fun _ h => hother hpost h (by decide),
      fun _ h => hother hpost h (by decide), fun h => absurd hst h, fun h => absurd hst h⟩
  | @response event haction hst hpost hindex hmeasured hloaded htimes =>
    obtain ⟨hsts, e', he', hconf, hkeys⟩ := harmed (by rw [hst]; rfl)
    have hresponse := hkeys.response
    rw [hsts, hconf.nodeConfig, UInt32.add_assoc] at hresponse
    refine ⟨fun h => absurd hst h, fun _ _ _ _ => ⟨⟨e', he', hconf, _, hresponse, hloaded⟩,
      event, haction, hst, hmeasured, ?_⟩, fun _ h => ?_, fun _ h => ?_, fun _ _ => hindex,
      fun _ h => absurd hst h⟩
    · rw [htimes, respTxTime, add_slotOffset hpre, hpre.nodeConfig]
      rfl
    · rcases hpost with hpost | hpost <;> exact hother hpost h (by decide)
    · rcases hpost with hpost | hpost <;> exact hother hpost h (by decide)
  | final hst hpost hsame hloaded htimes =>
    obtain ⟨hsts, e', he', hconf, hkeys⟩ := harmed (by rw [hst]; rfl)
    have hfinal := hkeys.final
    obtain ⟨_, hparams⟩ := hconf.params
    rw [hsts, UInt32.add_assoc, show e'.post.session.params.responderCount =
      params.responderCount from by rw [hparams]] at hfinal
    refine ⟨fun _ h => hother hpost h (by decide), fun _ _ _ h => htx (by rw [hst]; decide) h,
      fun _ _ => ⟨⟨e', he', hconf, _, hfinal, hloaded⟩, ?_⟩, fun _ h => hother hpost h (by decide),
      fun _ _ => hsame.armedPollStsIndex, fun _ _ _ => hsame.pollRxTimestampDtu⟩
    rw [htimes, hrx, hcount]
    rfl
  | finalData hst hpost hsame hloaded hoff htimes =>
    refine ⟨fun _ h => hother hpost h (by decide), fun _ _ _ h => htx (by rw [hst]; decide) h,
      fun _ h => hother hpost h (by decide), fun _ _ => ⟨⟨hloaded, hoff⟩, ?_⟩,
      fun _ _ => hsame.armedPollStsIndex, fun _ _ _ => hsame.pollRxTimestampDtu⟩
    rw [htimes, hrx, hcount]
    rfl
  | other huntimed hsame =>
    have hstays {q : SessionState} {p : Prop} (hq : q.inExchange = true)
        (hne : e.pre.session.state ≠ q) (h : e.post.session.state = q) : p :=
      absurd ((hsame (by rw [h]; exact hq)).state.symm.trans h) hne
    refine ⟨hstays rfl, fun _ _ _ h => ?_, hstays rfl, hstays rfl,
      fun _ h => (hsame h).armedPollStsIndex, fun _ _ h => (hsame h).pollRxTimestampDtu⟩
    exact absurd (List.all_eq_true.1 huntimed _ h) Bool.false_ne_true

/-! ### The order of the slots -/

/-- The ticks from the Poll to a slot, less a lead, are computed without a wrap. -/
def FitsTicks (params : RangingSessionParameters) (slot lead : UInt32) : Prop :=
  (slotOffset params slot lead).toNat + lead.toNat =
    slot.toNat * params.slotDurationRstu.toNat * 208

/-- What the parameters of a session say about the slots of its exchanges. -/
structure SlotOrder (params : RangingSessionParameters) (nodeConfig : SessionNodeConfig) :
    Prop where
  before : responseSlot nodeConfig < finalSlot params ↔
    nodeConfig.responderIndex < params.responderCount
  shared : ∀ i : StsIndex, i + responseSlot nodeConfig = i + finalSlot params ↔
    nodeConfig.responderIndex = params.responderCount
  after : finalSlot params < finalDataSlot params
  /-- For a Poll in slot 1 of its round, and STS indices that do not wrap. -/
  inside : ∀ i stsIndex0 : StsIndex, params.slotsPerRound ≠ 0 →
    (i - stsIndex0).toNat % params.slotsPerRound.toNat = 1 →
    (i - stsIndex0).toNat + (finalDataSlot params).toNat < 2 ^ 32 →
      ((i + finalDataSlot params - stsIndex0).toNat / params.slotsPerRound.toNat =
          (i - stsIndex0).toNat / params.slotsPerRound.toNat ↔
        params.responderCount.toNat + 3 < params.slotsPerRound.toNat)
  product : ∀ slot ∈ [responseSlot nodeConfig, finalSlot params, finalDataSlot params],
    (slot * slotTicksHi32 params).toNat = slot.toNat * params.slotDurationRstu.toNat * 208
  response : FitsTicks params (responseSlot nodeConfig) respAntDelayHi32 ↔
    params.slotDurationRstu ≠ 0
  final : FitsTicks params (finalSlot params) leadTimeHi32 ↔
    40000 ≤ (1 + params.responderCount.toNat) * params.slotDurationRstu.toNat * 208
  finalData : FitsTicks params (finalDataSlot params) leadTimeHi32 ↔
    40000 ≤ (2 + params.responderCount.toNat) * params.slotDurationRstu.toNat * 208

/-- The number of the Response slot does not wrap. -/
theorem toNat_responseSlot (nodeConfig : SessionNodeConfig) :
    (responseSlot nodeConfig).toNat = 1 + nodeConfig.responderIndex.toNat := by
  have h := nodeConfig.responderIndex.toNat_lt
  rw [responseSlot, UInt32.toNat_add, UInt8.toNat_toUInt32]
  exact Nat.mod_eq_of_lt (by change 1 + _ < _; omega)

/-- The number of the slot of the Final does not wrap. -/
theorem toNat_finalSlot (params : RangingSessionParameters) :
    (finalSlot params).toNat = 1 + params.responderCount.toNat := by
  have h := params.responderCount.toNat_lt
  rw [finalSlot, UInt32.toNat_add, UInt8.toNat_toUInt32]
  exact Nat.mod_eq_of_lt (by change 1 + _ < _; omega)

/-- The number of the slot of the FinalData does not wrap. -/
theorem toNat_finalDataSlot (params : RangingSessionParameters) :
    (finalDataSlot params).toNat = 2 + params.responderCount.toNat := by
  have h := params.responderCount.toNat_lt
  rw [finalDataSlot, UInt32.toNat_add, UInt8.toNat_toUInt32]
  exact Nat.mod_eq_of_lt (by change 2 + _ < _; omega)

/-- A slot is at most 257 slots after the Poll, and 32 bits hold as many of the
longest slots. -/
theorem toNat_mul_slotTicksHi32 {params : RangingSessionParameters} {slot : UInt32}
    (h : slot.toNat ≤ 257) : (slot * slotTicksHi32 params).toNat =
      slot.toNat * params.slotDurationRstu.toNat * 208 := by
  have hd := params.slotDurationRstu.toNat_lt
  have hle : slot.toNat * params.slotDurationRstu.toNat ≤ 257 * 65535 :=
    Nat.mul_le_mul h (by omega)
  have hticks : (slotTicksHi32 params).toNat = params.slotDurationRstu.toNat * 208 := by
    rw [slotTicksHi32, UInt32.toNat_mul, UInt16.toNat_toUInt32]
    exact Nat.mod_eq_of_lt (by change _ * 208 < _; omega)
  rw [UInt32.toNat_mul, hticks, ← Nat.mul_assoc]
  exact Nat.mod_eq_of_lt (by omega)

/-- The ticks of up to 257 slots do not wrap; only the lead can be too long. -/
theorem fitsTicks_iff {params : RangingSessionParameters} {slot lead : UInt32}
    (h : slot.toNat ≤ 257) : FitsTicks params slot lead ↔
      lead.toNat ≤ slot.toNat * params.slotDurationRstu.toNat * 208 := by
  have hprod : (slot * slotTicksHi32 params).toNat = _ := toNat_mul_slotTicksHi32 h
  have hlead := lead.toNat_lt
  have hlt := (slot * slotTicksHi32 params).toNat_lt
  rw [FitsTicks, slotOffset, UInt32.toNat_sub, ← hprod]
  omega

/-- **What order the slots of a session are in.** -/
theorem slotOrder (params : RangingSessionParameters) (nodeConfig : SessionNodeConfig) :
    SlotOrder params nodeConfig := by
  have hresponse := toNat_responseSlot nodeConfig
  have hfinal := toNat_finalSlot params
  have hdata := toNat_finalDataSlot params
  have hindex := nodeConfig.responderIndex.toNat_lt
  have hcount := params.responderCount.toNat_lt
  refine ⟨?_, fun i => ?_, ?_, fun i stsIndex0 hslots hfirst hwrap => ?_, fun slot hslot => ?_, ?_,
    ?_, ?_⟩
  · rw [UInt32.lt_iff_toNat_lt, UInt8.lt_iff_toNat_lt, hresponse, hfinal]
    omega
  · rw [UInt32.add_right_inj, ← UInt32.toNat_inj, ← UInt8.toNat_inj, hresponse, hfinal]
    omega
  · rw [UInt32.lt_iff_toNat_lt, hfinal, hdata]
    omega
  · -- the FinalData is `3 + responderCount` slots into the round of the Poll
    have hsub : i + finalDataSlot params - stsIndex0 = (i - stsIndex0) + finalDataSlot params := by
      grind
    have hpos : 0 < params.slotsPerRound.toNat :=
      Nat.pos_of_ne_zero fun h0 => hslots (UInt8.toNat_inj.1 h0)
    have hdiv := Nat.div_add_mod (i - stsIndex0).toNat params.slotsPerRound.toNat
    have hrest : (i - stsIndex0).toNat + (2 + params.responderCount.toNat) =
        (3 + params.responderCount.toNat) +
          params.slotsPerRound.toNat * ((i - stsIndex0).toNat / params.slotsPerRound.toNat) := by
      omega
    rw [hsub, UInt32.toNat_add, Nat.mod_eq_of_lt hwrap, hdata, hrest,
      Nat.add_mul_div_left _ _ hpos, Nat.add_eq_right, Nat.div_eq_zero_iff]
    omega
  · refine toNat_mul_slotTicksHi32 ?_
    simp only [List.mem_cons, List.not_mem_nil, or_false] at hslot
    rcases hslot with rfl | rfl | rfl <;> omega
  · rw [fitsTicks_iff (by omega), hresponse]
    constructor
    · rintro hle hzero
      rw [hzero] at hle
      exact absurd hle (by simp [respAntDelayHi32])
    · intro hne
      -- one slot of one RSTU is enough for the antenna delay
      have hpos : 0 < params.slotDurationRstu.toNat :=
        Nat.pos_of_ne_zero fun h0 => hne (UInt16.toNat_inj.1 h0)
      have hslot : 0 < (1 + nodeConfig.responderIndex.toNat) * params.slotDurationRstu.toNat :=
        Nat.mul_pos (by omega) hpos
      change 62 ≤ _
      omega
  · rw [fitsTicks_iff (by omega), hfinal]
    rfl
  · rw [fitsTicks_iff (by omega), hdata]
    rfl

/-! ### Runs -/

/-- Only a `start` replaces more than the anchor. -/
theorem configured_step {e : Event} (he : (machine P).Steps e) {params : RangingSessionParameters}
    {nodeConfig : SessionNodeConfig}
    (hno : ∀ ursk params nodeConfig callback,
      e.input.action ≠ .start ursk params nodeConfig callback)
    (h : Configured params nodeConfig e.pre.session) :
    Configured params nodeConfig e.post.session := by
  obtain ⟨-, c, hc, hpost, -⟩ := served_of_steps he
  obtain ⟨⟨stsIndex0, hparams⟩, hnode⟩ := h
  have hanchor (n : StsIndex) :
      { e.pre.session.params with stsIndex0 := n } = { params with stsIndex0 := n } := by
    rw [hparams]
  rw [hpost]
  by_cases hconf : e.input.action.configures = false
  · have hsame := hc.sameConfig hconf
    exact ⟨⟨stsIndex0, hsame.params.trans hparams⟩, hsame.nodeConfig.trans hnode⟩
  cases hc with
  | refused => exact ⟨⟨stsIndex0, hparams⟩, hnode⟩
  | @anchorFailed newStsIndex0 => exact ⟨⟨newStsIndex0, hanchor newStsIndex0⟩, hnode⟩
  | @anchored newStsIndex0 _ _ _ _ _ _ _ hu =>
    have hsame := sameConfig_of_unstashed hu
    exact ⟨⟨newStsIndex0, hsame.params.trans (hanchor newStsIndex0)⟩, hsame.nodeConfig.trans hnode⟩
  | startFailed haction | unconfigured haction | started haction =>
    exact absurd haction (hno _ _ _ _)
  | ignored hev | abandoned hev => exact absurd (Action.configures_of_isRadioEvent hev) hconf
  | delivered h => exact absurd (Action.configures_of_isRadioEvent h.isRadioEvent) hconf
  | rearmed haction | ineligible haction | unkeyed haction | bootstrapped haction | warmed haction
  | responded haction | late haction | transmitted haction | finalReceived haction
  | undelivered haction | callbackReturned haction | stopped haction | suspended haction
  | resumed haction => exact absurd (by rw [haction]; rfl) hconf

/-- **The slots of a session.**  From a successful `start` on, and until the next
one, every leg is timed by the slot, counted from the Poll, whose keys it loads.
The Response is before the Final if and only if the responder index is below the
responder count, and has its STS index if and only if they are equal; the
FinalData is in the round of the Poll if and only if the round is long enough;
and no number of ticks wraps but by a lead that is longer than the slots it is
taken from. -/
theorem slots_of_session {x t : System} {e₀ : Event} {tr : List Event}
    (h : (machine P).Run x (e₀ :: tr) t) {ursk : Bytes 32} {params : RangingSessionParameters}
    {nodeConfig : SessionNodeConfig} {callback : Option ℕ}
    (haction : e₀.input.action = .start ursk params nodeConfig callback)
    (hok : succeeded e₀ = true)
    (hno : ∀ e ∈ tr, ∀ ursk params nodeConfig callback,
      e.input.action ≠ .start ursk params nodeConfig callback) :
    (∀ tr₁ e tr₂, tr = tr₁ ++ e :: tr₂ →
      SlotTiming P params nodeConfig (e₀ :: tr₁ ++ [e]) e) ∧ SlotOrder params nodeConfig := by
  refine ⟨?_, slotOrder params nodeConfig⟩
  obtain ⟨rfl, he₀, hrun⟩ := h
  have hconf₀ : Configured params nodeConfig e₀.post.session := by
    obtain ⟨_, _, c, c', -, -, hprepared, hu, hpost, -⟩ := started_of_succeeded he₀ haction hok
    have hsame := sameConfig_of_unstashed hu
    have hparams : c'.session.params = c.session.params := hsame.params
    have hnode : c'.session.nodeConfig = c.session.nodeConfig := hsame.nodeConfig
    rw [hpost]
    exact ⟨⟨params.stsIndex0, by rw [hparams, hprepared]; rfl⟩, by rw [hnode, hprepared]; rfl⟩
  have hderives {past : List Event} {e : Event} (he : e ∈ past)
      (hconf : Configured params nodeConfig e.post.session) :
      Derives P e.post.session (DerivedSince P params nodeConfig past) :=
    fun keys hkeys => ⟨e, he, hconf, hkeys⟩
  have hnext {past : List Event} {e : Event} (he : (machine P).Steps e)
      (hnostart : ∀ ursk params nodeConfig callback,
        e.input.action ≠ .start ursk params nodeConfig callback)
      (hpre : Configured params nodeConfig e.pre.session)
      (hkeyed : Keyed (DerivedSince P params nodeConfig past) e.pre.session) :
      Keyed (DerivedSince P params nodeConfig (past ++ [e])) e.pre.session ∧
        Keyed (DerivedSince P params nodeConfig (past ++ [e])) e.post.session := by
    have hkept : Keyed (DerivedSince P params nodeConfig (past ++ [e])) e.pre.session := by
      refine hkeyed.mono ?_
      rintro keys ⟨e', he', h⟩
      exact ⟨e', List.mem_append_left _ he', h⟩
    refine ⟨hkept, keyed_step he ?_ (fun _ _ _ _ h => absurd h (hnostart _ _ _ _)) fun _ => hkept⟩
    exact hderives (by simp) (configured_step he hnostart hpre)
  have hobserve := hrun.observe
    (G := fun _ e => ∀ ursk params nodeConfig callback,
      e.input.action ≠ .start ursk params nodeConfig callback)
    (J := fun past y => Configured params nodeConfig y.session ∧
      Keyed (DerivedSince P params nodeConfig past) y.session)
    (Q := fun past e => SlotTiming P params nodeConfig (past ++ [e]) e)
    (fun past e => past ++ [e]) (g := [e₀])
    (fun tr₁ e tr₂ htr => hno e (by rw [htr]; simp))
    ⟨hconf₀, keyed_started he₀ haction hok (hderives (by simp) hconf₀)⟩
    (fun past e he hgood hJ => ⟨configured_step he hgood hJ.1, (hnext he hgood hJ.1 hJ.2).2⟩)
    (fun past e he hgood hJ =>
      slotTiming_of_steps he hJ.1 (hnext he hgood hJ.1 hJ.2).1 (hnext he hgood hJ.1 hJ.2).2)
  intro tr₁ e tr₂ htr
  have hpast : tr₁.foldl (fun past e => past ++ [e]) [e₀] = e₀ :: tr₁ := by
    rw [List.foldl_append_eq_append (f := fun e => [e]), ← List.flatMap_def,
      List.flatMap_singleton', List.singleton_append]
  exact hpast ▸ hobserve tr₁ e tr₂ htr

/-- A session is started and takes part in an exchange up to its Final. -/
def sampleLegs (params : RangingSessionParameters) (nodeConfig : SessionNodeConfig) : List Input :=
  sampleStart params nodeConfig :: samplePrePoll 1 { pollStsIndex := 1 } :: sampleRanging

/-- What `Platform.sample` has loaded for an STS index. -/
def sampleStsKeyIv (stsIndex : StsIndex) : Bytes 16 × Bytes 16 :=
  (Bytes.zero 16, deriveStsIv (Bytes.zero 16) stsIndex)

/-- Ten responders, in rounds of twelve slots. -/
def crowdedParams : RangingSessionParameters := { sampleParams with responderCount := 10 }

/-- Slots without a length. -/
def slotlessParams : RangingSessionParameters := { sampleParams with slotDurationRstu := 0 }

/-- **`start` lets the slots come in any order.**  A secondary responder of a
session with one responder answers under the STS of the Final; with ten
responders the window of the FinalData is in the next round; and with slots of no
length the Response is due before the Poll has been received. -/
theorem slots_not_ordered :
    (∃ tr t, (machine .sample).Run (System.initial {}) tr t ∧
      tr.map (·.input) = sampleLegs sampleParams { responderIndex := 1 } ∧
      tr.head?.any succeeded = true ∧
      tr.map loaded =
        [[], [sampleStsKeyIv 1], [sampleStsKeyIv 3], [sampleStsKeyIv 3], []]) ∧
    (∃ tr t, (machine .sample).Run (System.initial {}) tr t ∧
      tr.map (·.input) = sampleLegs crowdedParams {} ∧ tr.head?.any succeeded = true ∧
      tr.getLast?.map startTimes =
        some [hi32 1000000 + slotOffset crowdedParams (finalDataSlot crowdedParams) leadTimeHi32] ∧
      ¬ crowdedParams.responderCount.toNat + 3 < crowdedParams.slotsPerRound.toNat) ∧
    ∃ tr t, (machine .sample).Run (System.initial {}) tr t ∧
      tr.map (·.input) = sampleLegs slotlessParams {} ∧ tr.head?.any succeeded = true ∧
      (tr.map startTimes)[2]? =
        some [hi32 1000000 + slotOffset slotlessParams (responseSlot {}) respAntDelayHi32] ∧
      ¬ FitsTicks slotlessParams (responseSlot {}) respAntDelayHi32 := by
  refine ⟨?_, ?_, ?_⟩
  · obtain ⟨tr, t, hrun, hin, h⟩ := Machine.exists_run_of_exec (M := machine .sample)
      (s := System.initial {}) (l := sampleLegs sampleParams { responderIndex := 1 })
      (p := fun tr _ => tr.head?.any succeeded && decide (tr.map loaded =
        [[], [sampleStsKeyIv 1], [sampleStsKeyIv 3], [sampleStsKeyIv 3], []])) (by decide +kernel)
    obtain ⟨hok, hloaded⟩ := Bool.and_eq_true_iff.1 h
    exact ⟨tr, t, hrun, hin, hok, of_decide_eq_true hloaded⟩
  · obtain ⟨tr, t, hrun, hin, h⟩ := Machine.exists_run_of_exec (M := machine .sample)
      (s := System.initial {}) (l := sampleLegs crowdedParams {})
      (p := fun tr _ => tr.head?.any succeeded && decide (tr.getLast?.map startTimes =
        some [hi32 1000000 + slotOffset crowdedParams (finalDataSlot crowdedParams) leadTimeHi32]))
      (by decide +kernel)
    obtain ⟨hok, htimes⟩ := Bool.and_eq_true_iff.1 h
    exact ⟨tr, t, hrun, hin, hok, of_decide_eq_true htimes, by decide⟩
  · obtain ⟨tr, t, hrun, hin, h⟩ := Machine.exists_run_of_exec (M := machine .sample)
      (s := System.initial {}) (l := sampleLegs slotlessParams {})
      (p := fun tr _ => tr.head?.any succeeded && decide ((tr.map startTimes)[2]? =
        some [hi32 1000000 + slotOffset slotlessParams (responseSlot {}) respAntDelayHi32]))
      (by decide +kernel)
    obtain ⟨hok, htimes⟩ := Bool.and_eq_true_iff.1 h
    refine ⟨tr, t, hrun, hin, hok, of_decide_eq_true htimes, ?_⟩
    unfold FitsTicks
    decide

/-- The hypotheses of `slots_of_session` are satisfiable: the first exchange of a
session, whose Final comes last. -/
theorem slots_of_session_sample : ∃ tr e t,
    (machine .sample).Run (System.initial {}) (tr ++ [e]) t ∧
      (tr ++ [e]).map (·.input) = sampleLegs sampleParams {} ∧
      SlotTiming .sample sampleParams {} (tr ++ [e]) e ∧ SlotOrder sampleParams {} := by
  obtain ⟨e₀, tr, t, hrun, hfirst, hin, hok, hno⟩ := Machine.exists_run_cons_of_exec
    (M := machine .sample) (s := System.initial {}) (i := sampleStart sampleParams {})
    (l := (sampleLegs sampleParams {}).tail) (q := succeeded)
    (p := fun tr _ => tr.all fun e => !e.input.action.configures) (by decide +kernel)
  simp only [List.all_eq_true, Bool.not_eq_true'] at hno
  have hstart : e₀.input.action = (sampleStart sampleParams {}).action :=
    congrArg Input.action hfirst
  rcases List.eq_nil_or_concat tr with rfl | ⟨tr', e, rfl⟩
  · cases hin
  rw [List.concat_eq_append] at hrun hin hno
  have hslots := slots_of_session hrun hstart hok fun e he _ _ _ _ ha => by
    have hconf := hno e he
    rw [ha] at hconf
    cases hconf
  exact ⟨e₀ :: tr', e, t, hrun, List.cons_eq_cons.2 ⟨hfirst, hin⟩,
    hslots.1 tr' e [] rfl, hslots.2⟩

end Session
end AliroUwb
