/-
# Only authentic frames move the protocol state

What the session has learned from frames is in two groups of members: the PrePoll
counter, STS index and position in the schedule (`PrePollState`), and the
FinalData counter, the consensus filter and the angle detector
(`FinalDataState`).  Received bytes reach the handlers on three routes, one of
which acts on a frame before looking at it and decodes it in a later step.

On every route, `Guarded` says what a stretch of a handler may do: the frames it
accepts are authentic, the first group is what these acceptances make of it, one
after the other, and the second group changes and the callback is called only
with an accepted FinalData.  `protocol_state_is_authenticated` is the statement
for the steps of a run.
-/

import AliroUwb.Session.Steps

namespace AliroUwb
namespace Session

open Stepwise Crypto Protocol Ranging Transceiver

variable {P : Platform}

/-- What a PrePoll tells the session. -/
structure PrePollState where
  lastPrePollCounter : FrameCounter
  hasReceivedPrePollCounter : Bool
  lastPrePollStsIndex : StsIndex
  hasPrePollStsIndex : Bool
  currentBlock : BlockIndex
  currentRound : SlotIndex
  deriving DecidableEq

/-- What a FinalData tells the session. -/
structure FinalDataState where
  lastFinalDataCounter : FrameCounter
  hasReceivedFinalDataCounter : Bool
  filter : RangeConsensusFilter
  aoaStability : AoaStabilityDetector
  deriving DecidableEq

/-- What the session has learned from PrePolls. -/
def SessionMembers.prePollState (s : SessionMembers) : PrePollState where
  lastPrePollCounter := s.replay.lastPrePollCounter
  hasReceivedPrePollCounter := s.replay.hasReceivedPrePollCounter
  lastPrePollStsIndex := s.replay.lastPrePollStsIndex
  hasPrePollStsIndex := s.replay.hasPrePollStsIndex
  currentBlock := s.currentBlock
  currentRound := s.currentRound

/-- What it has learned from FinalData frames. -/
def SessionMembers.finalDataState (s : SessionMembers) : FinalDataState where
  lastFinalDataCounter := s.replay.lastFinalDataCounter
  hasReceivedFinalDataCounter := s.replay.hasReceivedFinalDataCounter
  filter := s.filter
  aoaStability := s.aoaStability

/-- The acceptance of a PrePoll sets the whole of `PrePollState`; nothing else
that is put out goes with a change of it. -/
def PrePollState.after (p : PrePollState) : Output → PrePollState
  | .acceptedPrePoll mhr prePoll =>
    ⟨mhr.frameCounter, true, prePoll.pollStsIndex, true, prePoll.rangingBlock, prePoll.roundIndex⟩
  | _ => p

/-- The bytes a step may decode: what it receives, and what an earlier one has
stashed. -/
def OnHand (i : Input) (s : SessionMembers) (frame : List UInt8) : Prop :=
  receivedFrame i.env = some frame ∨ (s.stashLen ≠ 0 ∧ frame = s.stashedFrame)

/-- A reported acceptance is of a frame on hand, and that frame is authentic. -/
def Justified (P : Platform) (i : Input) (s : SessionMembers) : Output → Prop
  | .acceptedPrePoll mhr prePoll =>
    ∃ frame, OnHand i s frame ∧ AuthenticPrePoll P s frame mhr prePoll
  | .acceptedFinalData mhr finalData =>
    ∃ frame, receivedFrame i.env = some frame ∧ AuthenticFinalData P s frame mhr finalData
  | _ => True

/-- From `c` to `c'` only authentic frames have had an effect; `s` is the session
in which the step began. -/
def Guarded (P : Platform) (i : Input) (s : SessionMembers) (c c' : Ctx) : Prop :=
  ∃ os, c'.outputs = c.outputs ++ os ∧ (∀ o ∈ os, Justified P i s o) ∧
    c'.session.prePollState = os.foldl PrePollState.after c.session.prePollState ∧
    ((∃ mhr finalData, .acceptedFinalData mhr finalData ∈ os) ∨
      (c'.session.finalDataState = c.session.finalDataState ∧ ∀ o ∈ os, o.isRange = false))

/-- Two stretches of a handler, one after the other. -/
theorem Guarded.trans {i : Input} {s : SessionMembers} {c₁ c₂ c₃ : Ctx}
    (h₁ : Guarded P i s c₁ c₂) (h₂ : Guarded P i s c₂ c₃) : Guarded P i s c₁ c₃ := by
  obtain ⟨os₁, ho₁, hj₁, hp₁, hf₁⟩ := h₁
  obtain ⟨os₂, ho₂, hj₂, hp₂, hf₂⟩ := h₂
  refine ⟨os₁ ++ os₂, by rw [ho₂, ho₁, List.append_assoc], ?_, ?_, ?_⟩
  · intro o ho
    rcases List.mem_append.1 ho with h | h
    · exact hj₁ o h
    · exact hj₂ o h
  · rw [List.foldl_append, ← hp₁, hp₂]
  · rcases hf₁ with ⟨mhr, finalData, h⟩ | ⟨hs₁, hr₁⟩
    · exact Or.inl ⟨mhr, finalData, List.mem_append_left _ h⟩
    rcases hf₂ with ⟨mhr, finalData, h⟩ | ⟨hs₂, hr₂⟩
    · exact Or.inl ⟨mhr, finalData, List.mem_append_right _ h⟩
    refine Or.inr ⟨hs₂.trans hs₁, fun o ho => ?_⟩
    rcases List.mem_append.1 ho with h | h
    · exact hr₁ o h
    · exact hr₂ o h

/-- Plain outputs leave everything as it is. -/
theorem Guarded.plain {i : Input} {s : SessionMembers} {c c' : Ctx} {os : List Output}
    (ho : c'.outputs = c.outputs ++ os) (hos : os.all Output.plain = true)
    (hp : c'.session.prePollState = c.session.prePollState)
    (hf : c'.session.finalDataState = c.session.finalDataState) : Guarded P i s c c' := by
  have hplain := List.all_eq_true.1 hos
  have hafter (p : PrePollState) : os.foldl PrePollState.after p = p := by
    clear ho hos
    induction os with
    | nil => rfl
    | cons o os ih =>
      have ho := hplain o List.mem_cons_self
      have hos := ih fun o' h' => hplain o' (List.mem_cons_of_mem _ h')
      cases o <;> first | exact hos | cases ho
  refine ⟨os, ho, fun o hmem => ?_, by rw [hafter, hp], Or.inr ⟨hf, fun o hmem => ?_⟩⟩
  · have h := hplain o hmem
    cases o <;> first | exact True.intro | cases h
  · have h := hplain o hmem
    cases o <;> first | rfl | cases h

/-- An accepted PrePoll, if it is authentic. -/
theorem Guarded.prePoll {i : Input} {s : SessionMembers} {c d : Ctx} {frame : List UInt8}
    {mhr : MacHeader} {prePoll : PrePollPayload}
    (ho : d.outputs = c.outputs ++ [.acceptedPrePoll mhr prePoll]) (hframe : OnHand i s frame)
    (hauth : AuthenticPrePoll P s frame mhr prePoll)
    (hp : d.session.prePollState =
      c.session.prePollState.after (.acceptedPrePoll mhr prePoll))
    (hf : d.session.finalDataState = c.session.finalDataState) : Guarded P i s c d := by
  refine ⟨_, ho, fun o hmem => ?_, hp, Or.inr ⟨hf, fun o hmem => ?_⟩⟩
  · rw [List.mem_singleton.1 hmem]
    exact ⟨frame, hframe, hauth⟩
  · rw [List.mem_singleton.1 hmem]
    rfl

/-- Refreshing the warm keys learns nothing. -/
theorem guarded_refreshed {i : Input} {s : SessionMembers} {c c' : Ctx} (h : Refreshed P c c') :
    Guarded P i s c c' := by
  obtain ⟨_, _, _, rfl, -⟩ := h.frame
  exact .plain (List.append_nil _).symm rfl rfl rfl

/-- **A stashed frame has an effect only if it is authentic**, whatever it was
stashed for. -/
theorem guarded_unstashed {i : Input} {s : SessionMembers} {c c' : Ctx} (h : Unstashed P c c')
    (hkeys : c.session.keys = s.keys) (hparams : c.session.params = s.params)
    (hlen : c.session.stashLen = s.stashLen) (hframe : c.session.stashedFrame = s.stashedFrame) :
    Guarded P i s c c' := by
  have hauth {mhr : MacHeader} {prePoll : PrePollPayload}
      (h : (checkPrePollFrame P c.session c.session.stashedFrame c.faults).1 = .ok (mhr, prePoll)) :
      AuthenticPrePoll P s s.stashedFrame mhr prePoll := by
    have ha := (acceptable_checkPrePollFrame h).toAuthenticPrePoll
    refine ⟨hframe ▸ ha.header, ?_, hparams ▸ ha.sessionId⟩
    rw [← hkeys, ← hframe]
    exact ha.decrypts
  cases h with
  | empty => exact .plain (List.append_nil _).symm rfl rfl rfl
  | rejected => exact .plain (List.append_nil _).symm rfl rfl rfl
  | ineligible hne hcheck =>
    exact .prePoll rfl (Or.inr ⟨hlen ▸ hne, rfl⟩) (hauth hcheck) rfl rfl
  | eligible hne hcheck hparity hfaults hwarm =>
    refine Guarded.trans ?_ (guarded_refreshed hwarm)
    exact .prePoll rfl (Or.inr ⟨hlen ▸ hne, rfl⟩) (hauth hcheck) rfl rfl

/-- The way back to listening. -/
theorem guarded_listen {i : Input} {s : SessionMembers} {c c₁ c' : Ctx}
    (h : Unstashed P (c₁.listen i.env) c') (hc : Guarded P i s c c₁)
    (hkeys : c₁.session.keys = s.keys) (hparams : c₁.session.params = s.params)
    (hlen : c₁.session.stashLen = s.stashLen)
    (hframe : c₁.session.stashedFrame = s.stashedFrame) : Guarded P i s c c' := by
  have hlisten : Guarded P i s c₁ (c₁.listen i.env) := .plain rfl rfl rfl rfl
  exact (hc.trans hlisten).trans (guarded_unstashed h hkeys hparams hlen hframe)

/-- **Whatever a step does short of configuring, only authentic frames have an
effect.** -/
theorem guarded_served {i : Input} {c c' : Ctx} (h : Served P i c c')
    (hno : i.action.configures = false) : Guarded P i c.session c c' := by
  have hsame {c₁ : Ctx} (ho : c₁.outputs = c.outputs)
      (hp : c₁.session.prePollState = c.session.prePollState)
      (hf : c₁.session.finalDataState = c.session.finalDataState) : Guarded P i c.session c c₁ :=
    .plain (ho.trans (List.append_nil _).symm) rfl hp hf
  have hauth {frame : List UInt8} {mhr : MacHeader} {prePoll : PrePollPayload}
      (h : (checkPrePollFrame P c.session frame c.faults).1 = .ok (mhr, prePoll)) :
      AuthenticPrePoll P c.session frame mhr prePoll :=
    (acceptable_checkPrePollFrame h).toAuthenticPrePoll
  cases h with
  | ignored => exact hsame rfl rfl rfl
  | abandoned _ _ _ h | callbackReturned _ h =>
    exact guarded_listen h (hsame rfl rfl rfl) rfl rfl rfl rfl
  | rearmed | responded | stopped | suspended | refused => exact .plain rfl rfl rfl rfl
  | ineligible _ _ _ hframe hcheck _ _ h =>
    refine guarded_listen h ?_ rfl rfl rfl rfl
    exact .prePoll rfl (Or.inl hframe) (hauth hcheck) rfl rfl
  | unkeyed _ _ _ hframe hcheck _ _ h =>
    refine guarded_listen h ?_ rfl rfl rfl rfl
    have haccept := Guarded.prePoll (c := c) (d := { c with
      session := c.session.prePollAccepted _ _
      outputs := c.outputs ++ [.acceptedPrePoll _ _] }) rfl (Or.inl hframe) (hauth hcheck) rfl rfl
    exact haccept.trans (.plain rfl rfl rfl rfl)
  | @bootstrapped event _ _ _ _ armed _ _ _ _ _ hframe hcheck _ _ _ h =>
    refine Guarded.trans ?_ (guarded_refreshed h)
    have haccept := Guarded.prePoll (c := c) (d := { c with
      session := c.session.prePollAccepted _ _
      outputs := c.outputs ++ [.acceptedPrePoll _ _] }) rfl (Or.inl hframe) (hauth hcheck) rfl rfl
    refine haccept.trans (.plain rfl ?_ rfl rfl)
    exact plain_armCommands c.session i.env event armed
  | warmed => exact .plain rfl (plain_armCommands ..) rfl rfl
  | late _ _ _ _ _ h =>
    refine guarded_listen h ?_ rfl rfl rfl rfl
    exact .plain rfl rfl rfl rfl
  | transmitted =>
    exact .plain rfl (all_window rfl rfl (fun _ => rfl) fun _ => rfl) rfl rfl
  | finalReceived _ _ h =>
    refine Guarded.trans ?_ (guarded_unstashed h rfl rfl rfl rfl)
    exact .plain rfl (all_window rfl rfl (fun _ => rfl) fun _ => rfl) rfl rfl
  | undelivered _ _ hframe hcheck _ h =>
    refine guarded_listen h ⟨_, rfl, fun o ho => ?_, rfl, Or.inl ⟨_, _, List.mem_singleton_self _⟩⟩
      rfl rfl rfl rfl
    rw [List.mem_singleton.1 ho]
    exact ⟨_, hframe, (acceptable_checkFinalDataFrame hcheck).toAuthenticFinalData⟩
  | delivered h =>
    cases h with
    | mk _ _ hframe hcheck =>
      refine ⟨_, rfl, fun o ho => ?_, rfl, Or.inl ⟨_, _, List.mem_cons_self⟩⟩
      rcases List.mem_cons.1 ho with rfl | ho
      · exact ⟨_, hframe, (acceptable_checkFinalDataFrame hcheck).toAuthenticFinalData⟩
      · rw [List.mem_singleton.1 ho]
        exact True.intro
  | resumed _ _ h =>
    refine (guarded_listen h (hsame rfl rfl rfl) rfl rfl rfl rfl).trans ?_
    exact .plain rfl rfl rfl rfl
  | anchorFailed haction | anchored haction | startFailed haction | unconfigured haction
  | started haction => rw [haction] at hno; cases hno

/-- Without an acceptance nothing is learned. -/
theorem foldl_after (os : List Output) (p : PrePollState) :
    os.foldl PrePollState.after p = p ∨ ∃ mhr prePoll, .acceptedPrePoll mhr prePoll ∈ os := by
  induction os generalizing p with
  | nil => exact Or.inl rfl
  | cons o os ih =>
    rcases ih (p.after o) with h | ⟨mhr, prePoll, h⟩
    · cases o with
      | acceptedPrePoll mhr prePoll => exact Or.inr ⟨mhr, prePoll, List.mem_cons_self⟩
      | _ => exact Or.inl h
    · exact Or.inr ⟨mhr, prePoll, List.mem_cons_of_mem _ h⟩

/-- No frame on hand is authentic. -/
def Forged (P : Platform) (e : Event) : Prop :=
  (∀ frame mhr prePoll, OnHand e.input e.pre.session frame →
    ¬ AuthenticPrePoll P e.pre.session frame mhr prePoll) ∧
  ∀ frame mhr finalData, receivedFrame e.input.env = some frame →
    ¬ AuthenticFinalData P e.pre.session frame mhr finalData

/-- What a step can change, and through which frames. -/
structure Accounted (P : Platform) (e : Event) : Prop where
  /-- Every acceptance is of an authentic frame. -/
  justified : ∀ o ∈ e.output, Justified P e.input e.pre.session o
  /-- `PrePollState` is what the acceptances make of it, as if no other frame had
  been decoded. -/
  prePollState : e.post.session.prePollState =
    e.output.foldl PrePollState.after e.pre.session.prePollState
  /-- It changes with an authentic PrePoll only. -/
  prePoll : e.post.session.prePollState ≠ e.pre.session.prePollState →
    ∃ frame mhr prePoll, OnHand e.input e.pre.session frame ∧
      AuthenticPrePoll P e.pre.session frame mhr prePoll
  /-- `FinalDataState` changes with an authentic FinalData only. -/
  finalData : e.post.session.finalDataState ≠ e.pre.session.finalDataState →
    ∃ frame mhr finalData, receivedFrame e.input.env = some frame ∧
      AuthenticFinalData P e.pre.session frame mhr finalData

/-- A step that does not configure is accounted for by authentic frames. -/
theorem accounted_step {e : Event} (he : (machine P).Steps e)
    (hno : e.input.action.configures = false) : Accounted P e := by
  obtain ⟨-, c, hc, hpost, hout⟩ := served_of_steps he
  obtain ⟨os, ho, hj, hp, hf⟩ := guarded_served hc hno
  have hos : e.output = os := by rw [hout, ho]; rfl
  have hp : e.post.session.prePollState =
      e.output.foldl PrePollState.after e.pre.session.prePollState := by
    rw [hpost, hos]
    exact hp
  rw [← hos] at hj hf
  refine ⟨hj, hp, fun hne => ?_, fun hne => ?_⟩
  · rcases foldl_after e.output e.pre.session.prePollState with h | ⟨mhr, prePoll, h⟩
    · exact absurd (hp.trans h) hne
    · obtain ⟨frame, hframe, hauth⟩ := hj _ h
      exact ⟨frame, mhr, prePoll, hframe, hauth⟩
  · rcases hf with ⟨mhr, finalData, h⟩ | ⟨hsame, -⟩
    · obtain ⟨frame, hframe, hauth⟩ := hj _ h
      exact ⟨frame, mhr, finalData, hframe, hauth⟩
    · rw [hpost] at hne
      exact absurd hsame hne

/-- The callback is called for an authentic FinalData. -/
theorem authentic_of_range {e : Event} (he : (machine P).Steps e) {callback : ℕ}
    {result : RangingResult} (hr : .range callback result ∈ e.output) :
    ∃ frame mhr finalData, receivedFrame e.input.env = some frame ∧
      AuthenticFinalData P e.pre.session frame mhr finalData := by
  obtain ⟨c, hd, -, -⟩ := delivered_of_range he hr
  cases hd with
  | mk _ _ hframe hcheck =>
    exact ⟨_, _, _, hframe, (acceptable_checkFinalDataFrame hcheck).toAuthenticFinalData⟩

/-- **Only authentic frames move the protocol state.**  In every step of a run
the callback is called only for an authentic FinalData, and, short of
configuring, the step is accounted for by the authentic frames it accepts.  So a
run in which all frames are forged leaves the protocol state as it was, and
calls nobody back. -/
theorem protocol_state_is_authenticated {x t : System} {tr : List Event}
    (h : (machine P).Run x tr t) :
    (∀ e ∈ tr, (∀ callback result, .range callback result ∈ e.output →
        ∃ frame mhr finalData, receivedFrame e.input.env = some frame ∧
          AuthenticFinalData P e.pre.session frame mhr finalData) ∧
      (e.input.action.configures = false → Accounted P e)) ∧
    ((∀ e ∈ tr, e.input.action.configures = false ∧ Forged P e) →
      t.session.prePollState = x.session.prePollState ∧
      t.session.finalDataState = x.session.finalDataState ∧
      ∀ e ∈ tr, ∀ callback result, .range callback result ∉ e.output) := by
  have hsteps (e : Event) (he : e ∈ tr) : (machine P).Steps e := by
    obtain ⟨tr₁, tr₂, rfl⟩ := List.append_of_mem he
    exact h.at_step.2.1
  refine ⟨fun e he => ⟨fun _ _ => authentic_of_range (hsteps e he), accounted_step (hsteps e he)⟩,
    fun hforged => ?_⟩
  have hkeep := h.invariant (P := fun y => y.session.prePollState = x.session.prePollState ∧
      y.session.finalDataState = x.session.finalDataState) hforged ⟨rfl, rfl⟩ ?_
  · refine ⟨hkeep.1, hkeep.2, fun e he callback result hr => ?_⟩
    obtain ⟨frame, mhr, finalData, hframe, hauth⟩ := authentic_of_range (hsteps e he) hr
    exact (hforged e he).2.2 frame mhr finalData hframe hauth
  · rintro e he ⟨hno, hprePoll, hfinalData⟩ ⟨hp, hf⟩
    have hacc := accounted_step he hno
    constructor
    · by_contra hne
      obtain ⟨frame, mhr, prePoll, hframe, hauth⟩ := hacc.prePoll fun h => hne (h.trans hp)
      exact hprePoll frame mhr prePoll hframe hauth
    · by_contra hne
      obtain ⟨frame, mhr, finalData, hframe, hauth⟩ := hacc.finalData fun h => hne (h.trans hf)
      exact hfinalData frame mhr finalData hframe hauth

/-! ### A session that hears forged frames -/

/-- The frame decrypts under the key, in a buffer of `n` bytes, if no provider call fails. -/
def opens (C : CryptoProvider) (key : Bytes 16) (address : Bytes 8) (n : ℕ)
    (frame : List UInt8) : Bool :=
  match decodeHeader frame with
  | .error _ => false
  | .ok mhr => (decryptPayload C key address mhr.frameCounter (frame.take macHeaderLength)
      (securedPart mhr frame) (List.replicate n 0) noFaults).1.1.isOk

/-- What decrypts at all decrypts if no provider call fails. -/
theorem opens_of_decrypts {C : CryptoProvider} {key : Bytes 16} {address : Bytes 8} {n len : ℕ}
    {mhr : MacHeader} {frame plaintext : List UInt8} (hheader : decodeHeader frame = .ok mhr)
    (h : Decrypts C key address mhr frame n len plaintext) :
    opens C key address n frame = true := by
  rw [opens, hheader]
  dsimp only
  rw [h.of_noFaults]
  rfl

/-- No frame on hand decrypts under the keys of the session. -/
def nothingOpens (P : Platform) (e : Event) : Bool :=
  let s := e.pre.session
  let received := (receivedFrame e.input.env).toList
  let stashed := if s.stashLen = 0 then [] else [s.stashedFrame]
  (received ++ stashed).all (fun frame =>
    !opens P.crypto s.keys.mupsk1 s.keys.addresses.sourceLong prePollPayloadLength frame) &&
  received.all fun frame =>
    match value (deriveSlotKeys P.crypto s.keys.mursk s.keys.saltedHash s.armedPollStsIndex
      s.params.slotsPerRound.toUInt16 s.params.stsIndex0) with
    | .error _ => true
    | .ok slotKeys => !opens P.crypto slotKeys.dudskKey s.keys.addresses.sourceLong 128 frame

/-- A frame that does not decrypt is forged. -/
theorem forged_of_nothingOpens {e : Event} (h : nothingOpens P e = true) : Forged P e := by
  obtain ⟨hprePoll, hfinalData⟩ := Bool.and_eq_true_iff.1 h
  rw [List.all_eq_true] at hprePoll hfinalData
  constructor
  · intro frame mhr prePoll hframe hauth
    obtain ⟨len, plaintext, hdecrypts, -⟩ := hauth.decrypts
    have hopens := opens_of_decrypts hauth.header hdecrypts
    have hmem : frame ∈ (receivedFrame e.input.env).toList ++
        if e.pre.session.stashLen = 0 then [] else [e.pre.session.stashedFrame] := by
      rcases hframe with hreceived | ⟨hne, rfl⟩
      · exact List.mem_append_left _ (Option.mem_toList.2 hreceived)
      · rw [if_neg hne]
        exact List.mem_append_right _ (List.mem_singleton_self _)
    have hcloses := hprePoll frame hmem
    rw [hopens] at hcloses
    cases hcloses
  · intro frame mhr finalData hframe hauth
    obtain ⟨slotKeys, len, plaintext, hkeys, hdecrypts, -⟩ := hauth.decrypts
    have hcloses := hfinalData frame (Option.mem_toList.2 hframe)
    rw [hkeys] at hcloses
    dsimp only at hcloses
    rw [opens_of_decrypts hauth.header hdecrypts] at hcloses
    cases hcloses

/-- A frame whose MIC is not that of its bytes. -/
def forgedFrame (frame : List UInt8) : Input :=
  ⟨.rxSuccess {}, .received (frame.dropLast ++ [1])⟩

/-- A forged PrePoll. -/
def forgedPrePoll : Input := forgedFrame (sampleFrame .prePoll 1 (encodePrePoll {}))

/-- The session has heard a PrePoll, and knows the keys of the next exchange. -/
def sampleWarmed : List Input :=
  [sampleStart sampleParams {}, samplePrePoll 1 { pollStsIndex := 1 }, ⟨.rxTimeout, {}⟩]

/-- An exchange whose PrePoll and FinalData are forged. -/
def sampleForgery : List Input :=
  forgedPrePoll :: sampleRanging ++ [forgedFrame (sampleFrame .finalData 1 (encodeFinalData {}))]

/-- The hypotheses of `protocol_state_is_authenticated` are satisfiable: a session that has
accepted a PrePoll goes through an exchange whose frames are forged, the PrePoll being
decoded from the stash. -/
theorem protocol_state_is_authenticated_sample : ∃ tr₁ x tr₂ t,
    (machine .sample).Run (System.initial {}) tr₁ x ∧ tr₁.map (·.input) = sampleWarmed ∧
      (machine .sample).Run x tr₂ t ∧ tr₂.map (·.input) = sampleForgery ∧
      (∀ e ∈ tr₁ ++ tr₂, e.input.action.configures = false → Accounted .sample e) ∧
      x.session.prePollState.hasReceivedPrePollCounter = true ∧
      (∃ e ∈ tr₂, e.pre.session.stashLen ≠ 0 ∧ e.post.session.stashLen = 0) ∧
      t.session.prePollState = x.session.prePollState ∧
      t.session.finalDataState = x.session.finalDataState ∧
      ∀ e ∈ tr₂, ∀ callback result, .range callback result ∉ e.output := by
  obtain ⟨tr₁, x, hrun₁, hin₁, h₁⟩ := Machine.exists_run_of_exec (M := machine .sample)
    (s := System.initial {}) (l := sampleWarmed)
    (p := fun _ x => ((machine .sample).exec x sampleForgery).any (fun r =>
      r.1.all (fun e => !e.input.action.configures && nothingOpens .sample e) &&
        r.1.any fun e => decide (e.pre.session.stashLen ≠ 0 ∧ e.post.session.stashLen = 0)) &&
      x.session.prePollState.hasReceivedPrePollCounter) (by decide +kernel)
  obtain ⟨h₂, hcounter⟩ := Bool.and_eq_true_iff.1 h₁
  obtain ⟨tr₂, t, hrun₂, hin₂, h⟩ := Machine.exists_run_of_exec (p := fun tr _ =>
    tr.all (fun e => !e.input.action.configures && nothingOpens .sample e) &&
      tr.any fun e => decide (e.pre.session.stashLen ≠ 0 ∧ e.post.session.stashLen = 0)) h₂
  obtain ⟨hall, hstash⟩ := Bool.and_eq_true_iff.1 h
  rw [List.all_eq_true] at hall
  obtain ⟨e, he, hdecoded⟩ := List.any_eq_true.1 hstash
  obtain ⟨hprePoll, hfinalData, hrange⟩ :=
    (protocol_state_is_authenticated hrun₂).2 fun e he => by
      obtain ⟨hno, hopens⟩ := Bool.and_eq_true_iff.1 (hall e he)
      exact ⟨by simpa using hno, forged_of_nothingOpens hopens⟩
  have haccounted := (protocol_state_is_authenticated (Machine.run_append.2 ⟨x, hrun₁, hrun₂⟩)).1
  exact ⟨tr₁, x, tr₂, t, hrun₁, hin₁, hrun₂, hin₂, fun e he => (haccounted e he).2, hcounter,
    ⟨e, he, of_decide_eq_true hdecoded⟩, hprePoll, hfinalData, hrange⟩

end Session
end AliroUwb
