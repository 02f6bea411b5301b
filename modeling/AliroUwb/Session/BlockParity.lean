/-
# Which blocks are answered

`blockParityFilter` splits the blocks between two anchors: one answers the even
ones, the other the odd ones.  The session tests the parity where it decodes a
PrePoll, but the warm path arms before it decodes, with the keys predicted from
an earlier exchange.

`Own` says that an STS index is that of an exchange of an own block.  Everything
armed is `Own` in the runs in which no frame arrives while the predicted keys are
those of another anchor's block (`ParitySafe`), and then the session answers in
its own blocks only (`responds_in_own_blocks`).  With one round per block and no
hopping the predicted block is never an own one, and the second PrePoll a session
hears is answered in a block of the other anchor (`other_block_answered`).
-/

import AliroUwb.Session.Frames
import AliroUwb.Session.Steps

namespace AliroUwb
namespace Session

open Stepwise Crypto Protocol Ranging Transceiver

variable {P : Platform}

/-- The exchange in round `round` of block `block` has the Poll STS index `i`. -/
def ExchangeAt (params : RangingSessionParameters) (i : StsIndex) (block : BlockIndex)
    (round : SlotIndex) : Prop :=
  round.toUInt32 < roundsPerBlock params ∧ pollStsIndexFor params block round = i

/-- Whether an index is that of an exchange can be computed. -/
instance (params : RangingSessionParameters) (i : StsIndex) (block : BlockIndex)
    (round : SlotIndex) : Decidable (ExchangeAt params i block round) :=
  inferInstanceAs (Decidable (_ ∧ _))

/-- `i` is the Poll STS index of an exchange in a block that is ours. -/
def Own (s : SessionMembers) (i : StsIndex) : Prop :=
  ∃ block round, ExchangeAt s.params i block round ∧
    isBlockParityEligible s.nodeConfig block = true

/-- `i` is the Poll STS index of the exchange after the current one. -/
def Predicted (s : SessionMembers) (i : StsIndex) : Prop :=
  ∃ block round,
    nextScheduledExchange s.params s.currentBlock s.currentRound = some (block, round) ∧
    pollStsIndexFor s.params block round = i

/-! ### The warm keys -/

/-- What the warm keys are of: an own exchange, or the one after the current;
while a frame is stashed they are the ones that were armed. -/
structure WarmParity (s : SessionMembers) : Prop where
  warm : s.warmValid = true → Own s s.warm.pollStsIndex ∨ Predicted s s.warm.pollStsIndex
  stashed : s.warmValid = true → s.stashLen ≠ 0 → Own s s.warm.pollStsIndex

/-- Without warm keys there is nothing to ask. -/
theorem warmParity_of_invalid {s : SessionMembers} (h : s.warmValid = false) : WarmParity s :=
  ⟨fun hw => absurd (h.symm.trans hw) (by simp), fun hw => absurd (h.symm.trans hw) (by simp)⟩

/-- The refreshed keys are those of the next exchange. -/
theorem warmParity_of_refreshed {c c' : Ctx} (h : Refreshed P c c')
    (hlen : c.session.stashLen = 0) : WarmParity c'.session := by
  cases h with
  | unpredicted => exact warmParity_of_invalid rfl
  | failed => exact warmParity_of_invalid rfl
  | predicted hnext hkeys =>
    refine ⟨fun _ => Or.inr ⟨_, _, hnext, ?_⟩, fun _ hne => absurd hlen hne⟩
    exact hkeys.pollStsIndex.symm

/-- **The stash keeps the warm keys accounted for**: a PrePoll of another block
moves the session on and leaves them, but then they were armed before. -/
theorem warmParity_of_unstashed {c c' : Ctx} (h : Unstashed P c c')
    (hc : WarmParity c.session) : WarmParity c'.session := by
  cases h with
  | empty => exact hc
  | rejected => exact warmParity_of_invalid rfl
  | ineligible hlen =>
    exact ⟨fun hw => Or.inl (hc.stashed hw hlen), fun hw _ => hc.stashed hw hlen⟩
  | eligible _ _ _ _ hwarm => exact warmParity_of_refreshed hwarm rfl

/-! ### The invariant -/

/-- Everything armed is ours. -/
structure Parity (s : SessionMembers) : Prop extends WarmParity s where
  armed : s.state = .awaitingPoll → s.armedKeysValid = true → Own s s.armed.pollStsIndex
  listening : s.state = .prePollListening → s.stashLen = 0

/-- A session that listens has no exchange to ask about. -/
theorem parity_of_listening {env : Env} {c c' : Ctx} (h : Unstashed P (c.listen env) c')
    (hc : WarmParity c.session) : Parity c'.session := by
  have hwarm := warmParity_of_unstashed h ⟨hc.warm, hc.stashed⟩
  obtain ⟨_, _, _, _, _, _, _, rfl, -, -⟩ := h.frame
  exact ⟨hwarm, (nomatch ·), fun _ => rfl⟩

/-- The steps in which the session does not arm, unseen, the keys of a block that
is not ours, and in which it is not run on without key material.  The accepted
PrePolls announce their own exchange. -/
structure ParitySafe (e : Event) : Prop where
  genuine : ∀ mhr prePoll, .acceptedPrePoll mhr prePoll ∈ e.output →
    ExchangeAt e.post.session.params prePoll.pollStsIndex prePoll.rangingBlock prePoll.roundIndex
  warm : (∃ event, e.input.action = .rxSuccess event) →
    e.pre.session.state = .prePollListening → e.pre.session.warmValid = true →
    ∀ block round, nextScheduledExchange e.pre.session.params e.pre.session.currentBlock
        e.pre.session.currentRound = some (block, round) →
      pollStsIndexFor e.pre.session.params block round = e.pre.session.warm.pollStsIndex →
      isBlockParityEligible e.pre.session.nodeConfig block = true
  resume : e.input.action = .resume → e.pre.session.state = .suspended →
    e.pre.session.materialValid = true
  callbackReturn : e.input.action = .callbackReturn → e.pre.session.materialValid = true

/-- What holds between the steps. -/
structure ParityInvariant (s : SessionMembers) : Prop where
  parity : s.materialValid = true → Parity s
  active : s.state.active = true → s.materialValid = true

/-- Warm keys that are safe to arm are of an own exchange. -/
theorem own_of_parity {e : Event} (hsafe : ParitySafe e) (hpre : Parity e.pre.session)
    {event : RxSuccessEvent} (haction : e.input.action = .rxSuccess event)
    (hstate : e.pre.session.state = .prePollListening) (hwarm : e.pre.session.warmValid = true) :
    Own e.pre.session e.pre.session.warm.pollStsIndex := by
  rcases hpre.warm hwarm with h | ⟨block, round, hnext, hindex⟩
  · exact h
  · have helig := hsafe.warm ⟨event, haction⟩ hstate hwarm block round hnext hindex
    exact ⟨block, round, ⟨nextScheduledExchange_lt hnext, hindex⟩, helig⟩

/-- **A safe step keeps everything armed ours.** -/
theorem parity_step {e : Event} (he : (machine P).Steps e) (hsafe : ParitySafe e)
    (hpre : ParityInvariant e.pre.session) : ParityInvariant e.post.session := by
  obtain ⟨-, c, hc, hpost, hout⟩ := served_of_steps he
  have hgenuine := hsafe.genuine
  rw [hpost, hout] at hgenuine
  rw [hpost]
  dsimp only at hgenuine ⊢
  have hlisten {c₁ c₂ : Ctx} (h : Unstashed P (c₁.listen e.input.env) c₂)
      (hvalid : c₁.session.materialValid = true) (hwarm : WarmParity c₁.session) :
      ParityInvariant c₂.session := by
    refine ⟨fun _ => parity_of_listening h hwarm, fun _ => ?_⟩
    exact (sameConfig_of_unstashed h).materialValid.trans hvalid
  have hactive {state : SessionState} (h : (e.pre.enter e.input).session.state = state)
      (hs : state.active = true) : e.pre.session.materialValid = true :=
    hpre.active ((congrArg SessionState.active h).trans hs)
  have hwarm (hvalid : e.pre.session.materialValid = true) : WarmParity e.pre.session :=
    (hpre.parity hvalid).toWarmParity
  cases hc with
  | ignored | refused | rearmed => exact hpre
  | abandoned hevent hstate hfaults h =>
    have hvalid := hpre.active hstate
    have hw := hwarm hvalid
    exact hlisten h hvalid ⟨hw.warm, hw.stashed⟩
  | ineligible haction hstate hcold hframe hcheck hparity hfaults h
  | unkeyed haction hstate hcold hframe hcheck hparity hfaults h =>
    exact hlisten h (hactive hstate rfl) (warmParity_of_invalid hcold)
  | @bootstrapped event _ frame mhr prePoll armed _ _ haction hstate hcold hframe hcheck hparity
      hkeys hfaults h =>
    have hvalid := hactive hstate rfl
    have hlen := (hpre.parity hvalid).listening hstate
    have hw := warmParity_of_refreshed h hlen
    obtain ⟨_, _, _, rfl, -⟩ := h.frame
    refine ⟨fun _ => ⟨hw, fun _ _ => ?_, (nomatch ·)⟩, fun _ => hvalid⟩
    have hexchange := hgenuine mhr prePoll (by simp)
    rw [← hkeys.pollStsIndex] at hexchange
    exact ⟨_, _, hexchange, hparity⟩
  | warmed haction hstate hvalidKeys hframe hstash hvalid' =>
    have hvalid := hactive hstate rfl
    have hown := own_of_parity hsafe (hpre.parity hvalid) haction hstate hvalidKeys
    refine ⟨fun _ => ⟨⟨fun _ => Or.inl hown, fun _ _ => hown⟩, fun _ _ => hown, (nomatch ·)⟩,
      fun _ => hvalid⟩
  | responded haction hstate | transmitted haction hstate =>
    have hvalid := hactive hstate rfl
    have hw := hwarm hvalid
    exact ⟨fun _ => ⟨⟨hw.warm, hw.stashed⟩, (nomatch ·), (nomatch ·)⟩, fun _ => hvalid⟩
  | finalReceived haction hstate h =>
    have hvalid := hactive hstate rfl
    have hw := warmParity_of_unstashed h ⟨(hwarm hvalid).warm, (hwarm hvalid).stashed⟩
    obtain ⟨_, _, _, _, _, _, _, rfl, -, -⟩ := h.frame
    exact ⟨fun _ => ⟨hw, (nomatch ·), (nomatch ·)⟩, fun _ => hvalid⟩
  | late haction hstate _ _ _ h | undelivered haction hstate _ _ _ h =>
    have hvalid := hactive hstate rfl
    have hw := hwarm hvalid
    exact hlisten h hvalid ⟨hw.warm, hw.stashed⟩
  | delivered h =>
    cases h with
    | mk haction hstate =>
      have hvalid := hactive hstate rfl
      have hw := hwarm hvalid
      have hst : e.pre.session.state = .awaitingFinalData := hstate
      refine ⟨fun _ => ⟨⟨hw.warm, hw.stashed⟩, fun h => ?_, fun h => ?_⟩, fun _ => hvalid⟩
      · exact absurd (hst.symm.trans h) (by decide)
      · exact absurd (hst.symm.trans h) (by decide)
  | callbackReturned haction h =>
    have hvalid := hsafe.callbackReturn haction
    have hw := hwarm hvalid
    exact hlisten h hvalid ⟨hw.warm, hw.stashed⟩
  | stopped | suspended =>
    refine ⟨fun hvalid => ?_, (nomatch ·)⟩
    have hw := hwarm hvalid
    exact ⟨⟨hw.warm, hw.stashed⟩, (nomatch ·), (nomatch ·)⟩
  | resumed haction hstate h =>
    have hvalid := hsafe.resume haction hstate
    have hw := hwarm hvalid
    have hkeep := hlisten h hvalid ⟨hw.warm, hw.stashed⟩
    exact hkeep
  | anchorFailed haction hstate hkeys =>
    have hst : e.pre.session.state = .suspended := hstate
    refine ⟨(nomatch ·), fun h => ?_⟩
    rw [show (e.pre.enter e.input).session.state = .suspended from hst] at h
    cases h
  | startFailed haction hvalid hkeys =>
    have hv : e.pre.session.materialValid = false := hvalid
    refine ⟨fun h => absurd (hv.symm.trans h) (by simp), fun h => ?_⟩
    exact absurd (hv.symm.trans (hpre.active h)) (by simp)
  | unconfigured haction hkeys hphy =>
    refine ⟨fun _ => ⟨warmParity_of_invalid rfl, fun _ h => ?_, fun hstate => ?_⟩, fun _ => rfl⟩
    · cases h
    have hst : e.pre.session.state = .prePollListening := hstate
    exact (hpre.parity (hactive hst rfl)).listening hst
  | anchored _ _ _ _ h | started _ _ _ _ h =>
    have hkeep := hlisten h rfl (warmParity_of_invalid rfl)
    exact hkeep

/-! ### Runs -/

/-- A successful `start` begins with nothing armed. -/
theorem parity_of_start {e : Event} (he : (machine P).Steps e) {ursk : Bytes 32}
    {params : RangingSessionParameters} {nodeConfig : SessionNodeConfig} {callback : Option ℕ}
    (haction : e.input.action = .start ursk params nodeConfig callback)
    (hok : succeeded e = true) : ParityInvariant e.post.session := by
  obtain ⟨keys, lastDeriveError, c, c', -, -, hprepared, h, hpost, -⟩ :=
    started_of_succeeded he haction hok
  have hinvalid : c.session.warmValid = false := by rw [hprepared]; rfl
  have hmaterial : c.session.materialValid = true := by rw [hprepared]; rfl
  have hparity := parity_of_listening h (warmParity_of_invalid hinvalid)
  rw [hpost]
  exact ⟨fun _ => hparity, fun _ => (sameConfig_of_unstashed h).materialValid.trans hmaterial⟩

/-- Two anchors with the filters 0 and 1 have no block in common. -/
theorem not_eligible_of_parities {even odd : SessionNodeConfig} (heven : even.blockParityFilter = 0)
    (hodd : odd.blockParityFilter = 1) {block : BlockIndex}
    (h : isBlockParityEligible even block = true) : isBlockParityEligible odd block = false := by
  have hzero : (0 : Int8).toInt = 0 := rfl
  have hone : (1 : Int8).toInt = 1 := rfl
  unfold isBlockParityEligible at h ⊢
  rw [heven, if_neg (by decide), hzero, beq_iff_eq] at h
  rw [hodd, if_neg (by decide), hone, beq_eq_false_iff_ne]
  omega

/-- **A session answers in its own blocks only**, in every run after a successful
`start` whose steps are safe: the exchange whose Poll it answers is in a block
that passes its filter.  So two anchors with the filters 0 and 1 never answer in
the same block. -/
theorem responds_in_own_blocks {x t : System} {e₀ : Event} {tr : List Event}
    (h : (machine P).Run x (e₀ :: tr) t)
    (hstart : ∃ ursk params nodeConfig callback,
      e₀.input.action = .start ursk params nodeConfig callback)
    (hok : succeeded e₀ = true) (hsafe : ∀ e ∈ tr, ParitySafe e) :
    (∀ e ∈ tr, ∀ time ranging inTime, .command (.startDelayedTx time ranging inTime) ∈ e.output →
      Own e.pre.session e.pre.session.armed.pollStsIndex) ∧
    ∀ even odd : SessionNodeConfig, even.blockParityFilter = 0 → odd.blockParityFilter = 1 →
      ∀ block block', isBlockParityEligible even block = true →
        isBlockParityEligible odd block' = true → block ≠ block' := by
  constructor
  · obtain ⟨rfl, he₀, hrun⟩ := h
    obtain ⟨ursk, params, nodeConfig, callback, haction⟩ := hstart
    refine hrun.forall_step (P := fun y => ParityInvariant y.session) hsafe
      (parity_of_start he₀ haction hok) (fun e he hgood hJ => parity_step he hgood hJ) ?_
    intro e he _ hJ time ranging inTime htx
    obtain ⟨event, hanswers⟩ := answers_of_startDelayedTx he htx
    have hst : e.pre.session.state = .awaitingPoll := hanswers.state
    have hvalid := hJ.active (by rw [hst]; rfl)
    exact (hJ.parity hvalid).armed hst hanswers.keys
  · rintro even odd heven hodd block block' h h' rfl
    rw [not_eligible_of_parities heven hodd h] at h'
    cases h'

/-- An anchor of the even blocks. -/
def evenAnchor : SessionNodeConfig := { blockParityFilter := 0 }

/-- The acceptances of a step are of PrePolls that announce their own exchange. -/
def announcesOwn (e : Event) : Bool := e.output.all fun
  | .acceptedPrePoll _ prePoll => decide (ExchangeAt e.post.session.params prePoll.pollStsIndex
      prePoll.rangingBlock prePoll.roundIndex)
  | _ => true

/-- The step is safe because it arms nothing unseen and resumes nothing. -/
def Cold (e : Event) : Bool :=
  announcesOwn e &&
    !(decide (e.pre.session.state = .prePollListening) && e.pre.session.warmValid) &&
    decide (e.input.action ≠ .resume) && decide (e.input.action ≠ .callbackReturn)

/-- A step that passes the test accepts PrePolls of their own exchange only. -/
theorem genuine_of_announcesOwn {e : Event} (h : announcesOwn e = true) (mhr : MacHeader)
    (prePoll : PrePollPayload) (hmem : .acceptedPrePoll mhr prePoll ∈ e.output) :
    ExchangeAt e.post.session.params prePoll.pollStsIndex prePoll.rangingBlock
      prePoll.roundIndex := by
  have ho := List.all_eq_true.1 h _ hmem
  exact of_decide_eq_true ho

/-- A session without warm keys is safe. -/
theorem paritySafe_of_cold {e : Event} (h : Cold e = true) : ParitySafe e := by
  unfold Cold at h
  simp only [Bool.and_eq_true, Bool.not_eq_true', Bool.and_eq_false_iff, decide_eq_false_iff_not,
    decide_eq_true_eq] at h
  obtain ⟨⟨⟨hgenuine, hcold⟩, hresume⟩, hreturn⟩ := h
  refine ⟨genuine_of_announcesOwn hgenuine, fun _ hstate hwarm => ?_, fun ha => absurd ha hresume,
    fun ha => absurd ha hreturn⟩
  rcases hcold with hstate' | hwarm'
  · exact absurd hstate hstate'
  · exact absurd (hwarm'.symm.trans hwarm) (by simp)

/-- A Poll that is heard. -/
def samplePoll : Input := ⟨.rxSuccess { rxTimestampDtu := 1000000, stsPassed := true }, {}⟩

/-- The output starts a transmission. -/
def Output.isTransmission : Output → Bool
  | .command (.startDelayedTx ..) => true
  | _ => false

/-- The hypotheses of `responds_in_own_blocks` are satisfiable: the session answers
the Poll of the first exchange of block 0. -/
theorem responds_in_own_blocks_sample : ∃ e₀ tr t,
    (machine .sample).Run (System.initial {}) (e₀ :: tr) t ∧
      (e₀ :: tr).map (·.input) = [sampleStart sampleParams evenAnchor,
        samplePrePoll 1 { pollStsIndex := 1 }, samplePoll] ∧
      ∃ e ∈ tr, e.output.any Output.isTransmission = true ∧
        Own e.pre.session e.pre.session.armed.pollStsIndex := by
  obtain ⟨e₀, tr, t, hrun, hfirst, hin, hok, h⟩ := Machine.exists_run_cons_of_exec
    (M := machine .sample) (s := System.initial {}) (i := sampleStart sampleParams evenAnchor)
    (l := [samplePrePoll 1 { pollStsIndex := 1 }, samplePoll]) (q := succeeded)
    (p := fun tr _ => tr.all Cold && tr.any fun e => e.output.any Output.isTransmission)
    (by decide +kernel)
  obtain ⟨hcold, htx⟩ := Bool.and_eq_true_iff.1 h
  obtain ⟨e, he, htx⟩ := List.any_eq_true.1 htx
  have hresponds := (responds_in_own_blocks hrun ⟨_, _, _, _, congrArg Input.action hfirst⟩ hok
    fun e he => paritySafe_of_cold (List.all_eq_true.1 hcold e he)).1 e he
  refine ⟨e₀, tr, t, hrun, List.cons_eq_cons.2 ⟨hfirst, hin⟩, e, he, htx, ?_⟩
  obtain ⟨o, ho, hotx⟩ := List.any_eq_true.1 htx
  rcases o with ⟨⟨⟩⟩ | _ | _ | _ | _ | _ <;> first | exact hresponds _ _ _ ho | cases hotx

/-- The STS index 97 is that of block 1 only. -/
theorem not_own_sample {s : SessionMembers} (hparams : s.params = sampleParams)
    (hnode : s.nodeConfig = evenAnchor) : ¬ Own s 97 := by
  rintro ⟨block, round, ⟨hlt, hindex⟩, helig⟩
  rw [hparams] at hlt hindex
  rw [hnode] at helig
  have hrounds : roundsPerBlock sampleParams = 8 := by decide
  have hstride : blockStsStride sampleParams = 96 := by decide
  have hslots : sampleParams.slotsPerRound = 12 := rfl
  have horigin : sampleParams.stsIndex0 = 0 := rfl
  rw [hrounds, UInt32.lt_iff_toNat_lt, UInt16.toNat_toUInt32] at hlt
  have hindex := congrArg UInt32.toNat hindex
  rw [pollStsIndexFor, hstride, hslots, horigin, UInt32.toNat_ofNat'] at hindex
  have heven : block.toNat % 2 = 0 := by
    unfold isBlockParityEligible at helig
    have hzero : evenAnchor.blockParityFilter.toInt = 0 := rfl
    rw [if_neg (by decide), hzero, beq_iff_eq] at helig
    omega
  have hblock : block.toNat < 2 ^ 16 := block.toNat_lt
  have h8 : (8 : UInt32).toNat = 8 := rfl
  have h96 : (96 : UInt32).toNat = 96 := rfl
  have h12 : (12 : UInt8).toNat = 12 := rfl
  have h0 : (0 : UInt32).toNat = 0 := rfl
  have h97 : (97 : UInt32).toNat = 97 := rfl
  rw [h8] at hlt
  have hsmall : 0 + (block.toNat * 96 + round.toNat * 12) + 1 < 2 ^ 32 := by omega
  rw [h0, h96, h12, h97, Nat.mod_eq_of_lt hsmall] at hindex
  omega

/-- **Without that condition a session answers in a block of the other anchor**: after
the exchange of block 0 the keys of block 1 are warm, its PrePoll arms them, and
its Poll is answered. -/
theorem other_block_answered : ∃ e₀ tr t,
    (machine .sample).Run (System.initial {}) (e₀ :: tr) t ∧
      (e₀ :: tr).map (·.input) = [sampleStart sampleParams evenAnchor,
        samplePrePoll 1 { pollStsIndex := 1 }, ⟨.rxTimeout, {}⟩,
        samplePrePoll 2 { pollStsIndex := 97, rangingBlock := 1 }, samplePoll] ∧
      succeeded e₀ = true ∧ (∀ e ∈ tr, announcesOwn e = true) ∧
      ∃ e ∈ tr, e.output.any Output.isTransmission = true ∧
        ¬ Own e.pre.session e.pre.session.armed.pollStsIndex := by
  obtain ⟨e₀, tr, t, hrun, hfirst, hin, hok, h⟩ := Machine.exists_run_cons_of_exec
    (M := machine .sample) (s := System.initial {}) (i := sampleStart sampleParams evenAnchor)
    (l := [samplePrePoll 1 { pollStsIndex := 1 }, ⟨.rxTimeout, {}⟩,
      samplePrePoll 2 { pollStsIndex := 97, rangingBlock := 1 }, samplePoll]) (q := succeeded)
    (p := fun tr _ => tr.all announcesOwn &&
      tr.any fun e => e.output.any Output.isTransmission &&
        decide (e.pre.session.params = sampleParams ∧ e.pre.session.nodeConfig = evenAnchor ∧
          e.pre.session.armed.pollStsIndex = 97)) (by decide +kernel)
  simp only [Bool.and_eq_true, List.all_eq_true] at h
  obtain ⟨hgenuine, hviolation⟩ := h
  obtain ⟨e, he, hv⟩ := List.any_eq_true.1 hviolation
  rw [Bool.and_eq_true, decide_eq_true_eq] at hv
  obtain ⟨htx, hparams, hnode, hindex⟩ := hv
  refine ⟨e₀, tr, t, hrun, List.cons_eq_cons.2 ⟨hfirst, hin⟩, hok, hgenuine, e, he, htx, ?_⟩
  rw [hindex]
  exact not_own_sample hparams hnode

end Session
end AliroUwb
