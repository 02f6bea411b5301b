/-
# What makes the session transmit

On the warm path the session arms for a frame that it has not decoded, and answers the
Poll that follows: a Response can go out although nothing authentic has been received for
it.  How far this goes is said here in two ways.

`responses_are_invited` says which exchange is answered: one that a PrePoll accepted since
the session was configured has announced, or the one scheduled after it.  And
`responses_are_paid` counts: in every run whatsoever, at most two Responses are begun for
each accepted PrePoll.  Frames that are lost, forged or played back, and calls of whatever
kind, do not add to this.  For the count, what the session may still transmit is a credit
(`credit`): an accepted PrePoll raises it by no more than two, arming on the warm path
moves it from the warm keys to the armed ones, and a Response uses it up.
-/

import AliroUwb.Session.Authenticity
import AliroUwb.Session.BlockParity
import AliroUwb.Session.Replay
import Mathlib.Algebra.BigOperators.Ring.List
import Mathlib.Algebra.Ring.Nat

namespace AliroUwb
namespace Session

open Stepwise Crypto Protocol Ranging Transceiver

variable {P : Platform}

/-- The output reports an accepted PrePoll. -/
def Output.isAcceptance (o : Output) : Bool := o.prePoll?.isSome

/-! ### The credit -/

/-- How many Responses the session may still begin without a further PrePoll: one when it
awaits the Poll of an armed exchange, and one for warm keys that no stashed frame is about
to put to the test. -/
def credit (s : SessionMembers) : ℕ :=
  (if s.state = .awaitingPoll then 1 else 0) +
    if s.warmValid = true ∧ s.stashLen = 0 then 1 else 0

/-- The warm keys are worth one Response at most. -/
theorem credit_le_succ {s t : SessionMembers} (h : t.state = s.state) :
    credit t ≤ credit s + 1 := by
  unfold credit
  rw [h]
  split_ifs <;> omega

/-- The credit is two at most. -/
theorem credit_le_two (s : SessionMembers) : credit s ≤ 2 := by
  unfold credit
  split_ifs <;> omega

/-- Before the stash has been looked at, the warm keys are worth nothing. -/
theorem credit_of_stashed {s : SessionMembers} (h : s.stashLen ≠ 0) : credit s ≤ 1 := by
  have hnone : ¬(s.warmValid = true ∧ s.stashLen = 0) := fun hwarm => h hwarm.2
  unfold credit
  rw [if_neg hnone]
  split_ifs <;> omega

/-- Warm keys are worth an answer. -/
theorem one_le_credit {s : SessionMembers} (hwarm : s.warmValid = true) (hstash : s.stashLen = 0) :
    1 ≤ credit s := by
  unfold credit
  rw [if_pos (And.intro hwarm hstash)]
  exact Nat.le_add_left _ _

/-- Nothing that the credit speaks of is worth more. -/
theorem credit_mono {s t : SessionMembers}
    (hstate : t.state = .awaitingPoll → s.state = .awaitingPoll)
    (hwarm : t.warmValid = true → s.warmValid = true) (hstash : t.stashLen = s.stashLen) :
    credit t ≤ credit s := by
  unfold credit
  rw [hstash]
  refine Nat.add_le_add ?_ ?_
  · split_ifs with h h'
    · exact Nat.le_refl 1
    · exact absurd (hstate h) h'
    · exact Nat.zero_le _
    · exact Nat.le_refl 0
  · split_ifs with h h'
    · exact Nat.le_refl 1
    · exact absurd ⟨hwarm h.1, h.2⟩ h'
    · exact Nat.zero_le _
    · exact Nat.le_refl 0

/-- From `c` to `c'` the Responses are paid for. -/
def Paid (c c' : Ctx) : Prop :=
  ∃ os, c'.outputs = c.outputs ++ os ∧
    os.countP Output.isTransmission + credit c'.session ≤
      2 * os.countP Output.isAcceptance + credit c.session

/-- Two stretches of a handler, one after the other. -/
theorem Paid.trans {c₁ c₂ c₃ : Ctx} (h₁ : Paid c₁ c₂) (h₂ : Paid c₂ c₃) : Paid c₁ c₃ := by
  obtain ⟨os₁, ho₁, hp₁⟩ := h₁
  obtain ⟨os₂, ho₂, hp₂⟩ := h₂
  refine ⟨os₁ ++ os₂, by rw [ho₂, ho₁, List.append_assoc], ?_⟩
  rw [List.countP_append, List.countP_append]
  omega

/-- Outputs that begin no Response are paid for, if the credit does not rise. -/
theorem Paid.silent {c c' : Ctx} {os : List Output} (ho : c'.outputs = c.outputs ++ os)
    (hos : os.all (fun o => !o.isTransmission) = true)
    (hcredit : credit c'.session ≤ credit c.session) : Paid c c' := by
  refine ⟨os, ho, ?_⟩
  have hnone : os.countP Output.isTransmission = 0 :=
    List.countP_eq_zero.2 fun o h => by simpa using List.all_eq_true.1 hos o h
  omega

/-- A Response is paid for by the exchange that was armed for it. -/
theorem Paid.answer {c c' : Ctx} {os : List Output} (ho : c'.outputs = c.outputs ++ os)
    (hos : os.countP Output.isTransmission = 1) (hpre : c.session.state = .awaitingPoll)
    (hpost : c'.session.state ≠ .awaitingPoll)
    (hwarm : c'.session.warmValid = c.session.warmValid)
    (hstash : c'.session.stashLen = c.session.stashLen) : Paid c c' := by
  refine ⟨os, ho, ?_⟩
  unfold credit
  rw [hos, if_pos hpre, if_neg hpost, hwarm, hstash]
  omega

/-- An accepted PrePoll pays for two Responses. -/
theorem Paid.accepted {c c' : Ctx} {mhr : MacHeader} {prePoll : PrePollPayload}
    {os : List Output} (ho : c'.outputs = c.outputs ++ .acceptedPrePoll mhr prePoll :: os)
    (hos : os.all (fun o => !o.isTransmission) = true)
    (hcredit : credit c'.session ≤ credit c.session + 2) : Paid c c' := by
  refine ⟨_, ho, ?_⟩
  have hnone : os.countP Output.isTransmission = 0 :=
    List.countP_eq_zero.2 fun o h => by simpa using List.all_eq_true.1 hos o h
  rw [List.countP_cons_of_neg (by simp [Output.isTransmission]), hnone,
    List.countP_cons_of_pos rfl]
  omega

/-- **The stash is paid for** by the PrePoll that it gives up, if it gives up one. -/
theorem paid_unstashed {c c' : Ctx} (h : Unstashed P c c') : Paid c c' := by
  cases h with
  | empty => exact .silent (List.append_nil _).symm rfl (Nat.le_refl _)
  | rejected =>
    exact .silent (List.append_nil _).symm rfl (Nat.add_le_add_left (Nat.zero_le _) _)
  | ineligible => exact .accepted rfl rfl (Nat.le_succ_of_le (credit_le_succ rfl))
  | eligible _ _ _ _ hwarm =>
    obtain ⟨_, _, _, rfl, -⟩ := hwarm.frame
    exact .accepted rfl rfl (Nat.le_succ_of_le (credit_le_succ rfl))

/-- The way back to listening gives up the armed exchange. -/
theorem paid_listen {env : Env} {c c₁ c' : Ctx} (h : Unstashed P (c₁.listen env) c')
    (hc : Paid c c₁) : Paid c c' := by
  refine (hc.trans (.silent rfl rfl ?_)).trans (paid_unstashed h)
  exact credit_mono (fun h => by cases h) id rfl

/-! ### Steps -/

/-- A frame leaves something in the stash. -/
theorem stashLen_ne_zero {frame : List UInt8} (h : macHeaderLength ≤ frame.length) :
    UInt16.ofNat (min frame.length 128) ≠ 0 := by
  intro heq
  have hmod := congrArg UInt16.toNat heq
  rw [UInt16.toNat_ofNat', UInt16.toNat_zero, Nat.mod_eq_of_lt (by omega)] at hmod
  unfold macHeaderLength at h
  omega

/-- **Every step pays for its Responses.** -/
theorem Served.paid {i : Input} {c c' : Ctx} (h : Served P i c c') (hc : StashRead c.session) :
    Paid c c' := by
  have hrx {env : Env} {t : UInt32} {timeout immediate : UInt16} {os₁ os₂ : List Output}
      (h₁ : os₁.all (fun o => !o.isTransmission) = true)
      (h₂ : os₂.all (fun o => !o.isTransmission) = true) :
      (os₁ ++ rxCommands env t timeout immediate ++ os₂).all (fun o => !o.isTransmission) = true :=
    all_window h₁ h₂ (fun _ => rfl) fun _ => rfl
  have hsame {c₁ : Ctx} (ho : c₁.outputs = c.outputs)
      (hcredit : credit c₁.session ≤ credit c.session) : Paid c c₁ :=
    .silent (ho.trans (List.append_nil _).symm) rfl hcredit
  cases h with
  | ignored => exact hsame rfl (Nat.le_refl _)
  | abandoned _ _ _ h | callbackReturned _ h => exact paid_listen h (hsame rfl (Nat.le_refl _))
  | rearmed | refused | anchorFailed | startFailed =>
    exact .silent rfl rfl (Nat.le_refl _)
  | ineligible _ _ _ _ _ _ _ h => exact paid_listen h (.accepted rfl rfl (Nat.le_add_right _ _))
  | unkeyed _ _ _ _ _ _ _ h =>
    exact paid_listen h (.accepted (List.append_assoc ..) rfl (Nat.le_add_right _ _))
  | @bootstrapped event _ _ _ _ armed _ _ _ _ _ _ _ _ _ _ h =>
    obtain ⟨_, _, _, rfl, -⟩ := h.frame
    refine .accepted (List.append_assoc ..) ?_
      ((credit_le_two _).trans (Nat.le_add_left _ _))
    exact @hrx _ _ _ _ (.command .forceReceiverOff :: _) _ rfl rfl
  | warmed _ hstate hwarm hframe =>
    refine .silent rfl (hrx rfl rfl) ?_
    exact (credit_of_stashed (stashLen_ne_zero (length_of_receivedFrame hframe))).trans
      (one_le_credit hwarm (hc hstate))
  | responded _ hstate => exact .answer rfl rfl hstate (fun h => by cases h) rfl rfl
  | late _ hstate _ _ _ h =>
    refine Paid.trans ?_ (paid_unstashed h)
    exact .answer (List.append_assoc ..) rfl hstate (fun h => by cases h) rfl rfl
  | transmitted => exact .silent rfl (hrx rfl rfl) (credit_mono (fun h => by cases h) id rfl)
  | finalReceived _ _ h =>
    refine Paid.trans ?_ (paid_unstashed h)
    exact .silent rfl (hrx rfl rfl) (credit_mono (fun h => by cases h) id rfl)
  | undelivered _ _ _ _ _ h =>
    exact paid_listen h (.silent rfl rfl (Nat.le_refl _))
  | delivered h =>
    cases h with
    | mk => exact .silent rfl rfl (Nat.le_refl _)
  | stopped | suspended => exact .silent rfl rfl (credit_mono (fun h => by cases h) id rfl)
  | resumed _ _ h =>
    exact (paid_listen h (hsame rfl (Nat.le_refl _))).trans (.silent rfl rfl (Nat.le_refl _))
  | anchored _ _ _ _ h =>
    refine (paid_listen h (hsame rfl ?_)).trans (.silent rfl rfl (Nat.le_refl _))
    exact credit_mono id (fun h => by cases h) rfl
  | unconfigured => exact .silent rfl rfl (credit_mono id (fun h => by cases h) rfl)
  | started _ _ _ _ h =>
    refine (paid_listen h (.silent rfl rfl ?_)).trans (.silent rfl rfl (Nat.le_refl _))
    exact credit_mono id (fun h => by cases h) rfl

/-- The Responses that are begun in a run. -/
def responsesBegun (tr : List Event) : ℕ :=
  (tr.map fun e => e.output.countP Output.isTransmission).sum

/-- The accepted PrePolls, counted step by step. -/
theorem length_acceptedPrePolls (tr : List Event) :
    (acceptedPrePolls tr).length = (tr.map fun e => e.output.countP Output.isAcceptance).sum := by
  simp only [acceptedPrePolls, List.length_flatMap, List.length_filterMap_eq_countP]
  rfl

/-- **Two Responses for a PrePoll.**  In every run, whatever is called and whatever is
received, lost, forged or played back, the session begins at most two Responses for each
PrePoll that it accepts. -/
theorem responses_are_paid {filter : RangeConsensusFilter} {t : System} {tr : List Event}
    (h : (machine P).Run (System.initial filter) tr t) :
    responsesBegun tr ≤ 2 * (acceptedPrePolls tr).length := by
  have hcredit := h.credit (G := fun _ => True) (P := fun x => StashRead x.session)
    (fun x => credit x.session) (fun e => e.output.countP Output.isTransmission)
    (fun e => 2 * e.output.countP Output.isAcceptance) (fun _ _ => trivial)
    (fun hstate => by cases hstate) (fun _ he _ hread => stashRead_step he hread) ?_
  · have hincome : (tr.map fun e => 2 * e.output.countP Output.isAcceptance).sum =
        2 * (acceptedPrePolls tr).length := by
      rw [length_acceptedPrePolls]
      exact List.sum_map_mul_left ..
    rw [hincome] at hcredit
    exact (Nat.le_add_right _ _).trans hcredit
  · intro e he _ hread
    obtain ⟨-, c, hc, hpost, hout⟩ := served_of_steps he
    obtain ⟨os, hos, hpaid⟩ := hc.paid hread
    rw [hout, hos, hpost]
    exact hpaid

/-- A PrePoll and its Poll, and then a forged frame and the next Poll. -/
def answeredTwice : List Input :=
  [samplePrePoll 1 { pollStsIndex := 1 }, samplePoll, ⟨.rxTimeout, {}⟩, forgedPrePoll, samplePoll]

/-- The bound of `responses_are_paid` is attained: the forged frame arms the exchange that
was foreseen, and the session answers its Poll too. -/
theorem responses_are_paid_sample : ∃ tr t,
    (machine .sample).Run (System.initial {}) tr t ∧
      tr.map (·.input) = sampleStart sampleParams {} :: answeredTwice ∧
      responsesBegun tr = 2 * (acceptedPrePolls tr).length ∧
      responsesBegun tr ≤ 2 * (acceptedPrePolls tr).length ∧ responsesBegun tr = 2 := by
  obtain ⟨tr, t, hrun, hin, h⟩ := Machine.exists_run_of_exec (M := machine .sample)
    (s := System.initial {}) (l := sampleStart sampleParams {} :: answeredTwice)
    (p := fun tr _ => decide (responsesBegun tr = 2 ∧ (acceptedPrePolls tr).length = 1))
    (by decide +kernel)
  obtain ⟨htwo, hone⟩ := of_decide_eq_true h
  exact ⟨tr, t, hrun, hin, by rw [htwo, hone], responses_are_paid hrun, htwo⟩

/-! ### The exchange that is answered -/

/-- The exchange that a PrePoll announces, or the one scheduled after it. -/
def Invites (params : RangingSessionParameters) (prePoll : PrePollPayload) (i : StsIndex) : Prop :=
  i = prePoll.pollStsIndex ∨ ∃ block round,
    nextScheduledExchange params prePoll.rangingBlock prePoll.roundIndex = some (block, round) ∧
      i = pollStsIndexFor params block round

/-- The keys are those of an exchange that an accepted PrePoll of `l`, which is authentic,
invites to. -/
def InvitedBy (P : Platform) (s : SessionMembers) (l : List (MacHeader × PrePollPayload))
    (keys : CycleKeys) : Prop :=
  ∃ mhr prePoll frame, (mhr, prePoll) ∈ l ∧ AuthenticPrePoll P s frame mhr prePoll ∧
    Invites s.params prePoll keys.pollStsIndex ∧ CycleKeysFor P s keys.pollStsIndex keys

/-- Valid warm keys, and the armed ones while the Poll is awaited, have been invited. -/
structure Invited (P : Platform) (l : List (MacHeader × PrePollPayload)) (s : SessionMembers) :
    Prop where
  warm : s.warmValid = true → InvitedBy P s l s.warm
  armed : s.state = .awaitingPoll → InvitedBy P s l s.armed

/-- Authenticity depends on the configuration only. -/
theorem AuthenticPrePoll.congr {s t : SessionMembers} {frame : List UInt8} {mhr : MacHeader}
    {prePoll : PrePollPayload} (h : AuthenticPrePoll P s frame mhr prePoll)
    (hst : SameConfig s t) : AuthenticPrePoll P t frame mhr prePoll := by
  refine ⟨h.header, ?_, h.sessionId.trans (congrArg _ hst.params.symm)⟩
  rw [hst.keys]
  exact h.decrypts

/-- An invitation lasts as long as the configuration. -/
theorem InvitedBy.congr {s t : SessionMembers} {l l' : List (MacHeader × PrePollPayload)}
    {keys : CycleKeys} (h : InvitedBy P s l keys) (hst : SameConfig s t) (hl : l ⊆ l') :
    InvitedBy P t l' keys := by
  obtain ⟨mhr, prePoll, frame, hmem, hauthentic, hinvites, hkeys⟩ := h
  refine ⟨mhr, prePoll, frame, hl hmem, hauthentic.congr hst, ?_,
    hkeys.congr hst.params hst.nodeConfig hst.keys⟩
  rw [hst.params]
  exact hinvites

/-- `Invited`, with what a handler has put out so far taken into account. -/
def InvitedAt (P : Platform) (l : List (MacHeader × PrePollPayload)) (c : Ctx) : Prop :=
  Invited P (l ++ c.outputs.filterMap Output.prePoll?) c.session

variable {l : List (MacHeader × PrePollPayload)}

/-- What has been accepted stays accepted. -/
theorem subset_of_outputs {c c' : Ctx} {os : List Output} (ho : c'.outputs = c.outputs ++ os) :
    l ++ c.outputs.filterMap Output.prePoll? ⊆ l ++ c'.outputs.filterMap Output.prePoll? := by
  rw [ho, List.filterMap_append, ← List.append_assoc]
  exact List.subset_append_left _ _

/-- The keys that are left are those that there were. -/
theorem InvitedAt.same {c c' : Ctx} {os : List Output} (h : InvitedAt P l c)
    (ho : c'.outputs = c.outputs ++ os) (hst : SameConfig c.session c'.session)
    (hwarm : c'.session.warmValid = true →
      c.session.warmValid = true ∧ c'.session.warm = c.session.warm)
    (harmed : c'.session.state = .awaitingPoll →
      c.session.state = .awaitingPoll ∧ c'.session.armed = c.session.armed) :
    InvitedAt P l c' := by
  refine ⟨fun hv => ?_, fun hs => ?_⟩
  · obtain ⟨hv, heq⟩ := hwarm hv
    rw [heq]
    exact (h.warm hv).congr hst (subset_of_outputs ho)
  · obtain ⟨hs, heq⟩ := harmed hs
    rw [heq]
    exact (h.armed hs).congr hst (subset_of_outputs ho)

/-- Refreshing follows the PrePoll that has set the position. -/
theorem invited_refreshed {c c' : Ctx} {mhr : MacHeader} {prePoll : PrePollPayload}
    {frame : List UInt8} (h : Refreshed P c c')
    (hmem : (mhr, prePoll) ∈ l ++ c.outputs.filterMap Output.prePoll?)
    (hauthentic : AuthenticPrePoll P c.session frame mhr prePoll)
    (hblock : c.session.currentBlock = prePoll.rangingBlock)
    (hround : c.session.currentRound = prePoll.roundIndex)
    (harmed : c.session.state = .awaitingPoll →
      InvitedBy P c.session (l ++ c.outputs.filterMap Output.prePoll?) c.session.armed) :
    InvitedAt P l c' := by
  cases h with
  | unpredicted | failed =>
    refine ⟨(fun hwarm => by cases hwarm), fun hs => ?_⟩
    exact (harmed hs).congr ⟨rfl, rfl, rfl, rfl, rfl, rfl⟩ (List.Subset.refl _)
  | predicted hnext hkeys =>
    refine ⟨fun _ => ⟨mhr, prePoll, frame, hmem, hauthentic.congr ⟨rfl, rfl, rfl, rfl, rfl, rfl⟩,
      Or.inr ⟨_, _, ?_, hkeys.pollStsIndex⟩, ?_⟩, fun hs => ?_⟩
    · rw [← hblock, ← hround]
      exact hnext
    · exact hkeys.pollStsIndex.symm ▸ hkeys.congr rfl rfl rfl
    · exact (harmed hs).congr ⟨rfl, rfl, rfl, rfl, rfl, rfl⟩ (List.Subset.refl _)

/-- **The stash invites** to the exchange after the PrePoll that it gives up. -/
theorem invited_unstashed {c c' : Ctx} (h : Unstashed P c c') (hc : InvitedAt P l c) :
    InvitedAt P l c' := by
  cases h with
  | empty => exact hc
  | rejected =>
    exact hc.same (List.append_nil _).symm ⟨rfl, rfl, rfl, rfl, rfl, rfl⟩
      (fun hwarm => by cases hwarm) fun hs => ⟨hs, rfl⟩
  | ineligible =>
    exact hc.same rfl ⟨rfl, rfl, rfl, rfl, rfl, rfl⟩ (fun hwarm => ⟨hwarm, rfl⟩)
      fun hs => ⟨hs, rfl⟩
  | eligible _ hcheck _ _ hwarm =>
    have hauthentic := (acceptable_checkPrePollFrame hcheck).toAuthenticPrePoll
    refine invited_refreshed hwarm (by simp [Output.prePoll?])
      (hauthentic.congr ⟨rfl, rfl, rfl, rfl, rfl, rfl⟩) rfl rfl fun hs => ?_
    exact (hc.armed hs).congr ⟨rfl, rfl, rfl, rfl, rfl, rfl⟩ (subset_of_outputs rfl)

/-- The way back to listening asks for the warm keys only. -/
theorem invited_listen {env : Env} {c c₁ c' : Ctx} {os : List Output}
    (h : Unstashed P (c₁.listen env) c') (hc : InvitedAt P l c)
    (ho : c₁.outputs = c.outputs ++ os) (hst : SameConfig c.session c₁.session)
    (hwarm : c₁.session.warmValid = true →
      c.session.warmValid = true ∧ c₁.session.warm = c.session.warm) : InvitedAt P l c' := by
  obtain ⟨os', ho'⟩ : ∃ os', (c₁.listen env).outputs = c₁.outputs ++ os' := ⟨_, rfl⟩
  have hall : (c₁.listen env).outputs = c.outputs ++ (os ++ os') := by
    rw [ho', ho, List.append_assoc]
  exact invited_unstashed h (hc.same hall ⟨hst.1, hst.2, hst.3, hst.4, hst.5, hst.6⟩ hwarm
    fun hs => by cases hs)

/-- **No step short of configuring arms what has not been invited.** -/
theorem invited_served {i : Input} {c c' : Ctx} (h : Served P i c c')
    (hno : i.action.configures = false) (hc : InvitedAt P l c) : InvitedAt P l c' := by
  have hsame (s : SessionMembers) : SameConfig s s := .refl s
  cases h with
  | ignored => exact hc
  | abandoned _ _ _ h | callbackReturned _ h =>
    exact invited_listen h hc (List.append_nil _).symm ⟨rfl, rfl, rfl, rfl, rfl, rfl⟩
      fun hwarm => ⟨hwarm, rfl⟩
  | rearmed | refused => exact hc.same rfl (hsame _) (fun hwarm => ⟨hwarm, rfl⟩) fun hs => ⟨hs, rfl⟩
  | ineligible _ _ _ _ _ _ _ h | undelivered _ _ _ _ _ h =>
    exact invited_listen h hc rfl ⟨rfl, rfl, rfl, rfl, rfl, rfl⟩ fun hwarm => ⟨hwarm, rfl⟩
  | unkeyed _ _ _ _ _ _ _ h =>
    exact invited_listen h hc (List.append_assoc ..) ⟨rfl, rfl, rfl, rfl, rfl, rfl⟩
      fun hwarm => ⟨hwarm, rfl⟩
  | @bootstrapped event _ frame mhr prePoll armed _ _ _ _ _ _ hcheck _ hkeys _ h =>
    have hauthentic := (acceptable_checkPrePollFrame hcheck).toAuthenticPrePoll.congr
      (t := (c.session.prePollAccepted mhr prePoll).armedFor armed) ⟨rfl, rfl, rfl, rfl, rfl, rfl⟩
    have hmem : (mhr, prePoll) ∈ l ++ (c.outputs ++ [Output.acceptedPrePoll mhr prePoll] ++
        Output.command .forceReceiverOff :: armCommands c.session i.env event armed).filterMap
          Output.prePoll? := by
      simp [Output.prePoll?]
    refine invited_refreshed h hmem (hauthentic.congr ⟨rfl, rfl, rfl, rfl, rfl, rfl⟩) rfl rfl
      fun _ => ⟨mhr, prePoll, frame, hmem, hauthentic.congr ⟨rfl, rfl, rfl, rfl, rfl, rfl⟩,
        Or.inl hkeys.pollStsIndex, ?_⟩
    exact hkeys.pollStsIndex.symm ▸ hkeys.congr rfl rfl rfl
  | warmed _ _ hwarm =>
    have hinvited := (hc.warm hwarm).congr (hsame _) (List.Subset.refl _)
    exact ⟨fun _ => hinvited.congr ⟨rfl, rfl, rfl, rfl, rfl, rfl⟩ (subset_of_outputs rfl),
      fun _ => hinvited.congr ⟨rfl, rfl, rfl, rfl, rfl, rfl⟩ (subset_of_outputs rfl)⟩
  | responded | transmitted | stopped | suspended =>
    exact hc.same rfl ⟨rfl, rfl, rfl, rfl, rfl, rfl⟩ (fun hwarm => ⟨hwarm, rfl⟩)
      fun hs => by cases hs
  | late _ _ _ _ _ h =>
    exact invited_listen h hc rfl ⟨rfl, rfl, rfl, rfl, rfl, rfl⟩ fun hwarm => ⟨hwarm, rfl⟩
  | finalReceived _ _ h =>
    refine invited_unstashed h (hc.same rfl ⟨rfl, rfl, rfl, rfl, rfl, rfl⟩
      (fun hwarm => ⟨hwarm, rfl⟩) fun hs => by cases hs)
  | delivered h =>
    cases h with
    | mk =>
      exact hc.same rfl ⟨rfl, rfl, rfl, rfl, rfl, rfl⟩ (fun hwarm => ⟨hwarm, rfl⟩)
        fun hs => ⟨hs, rfl⟩
  | resumed _ _ h =>
    exact (invited_listen h hc (List.append_nil _).symm (hsame _) fun hwarm => ⟨hwarm, rfl⟩).same
      rfl (hsame _) (fun hwarm => ⟨hwarm, rfl⟩) fun hs => ⟨hs, rfl⟩
  | anchorFailed haction | anchored haction | startFailed haction | unconfigured haction
  | started haction => rw [haction] at hno; cases hno

/-! ### Runs -/

/-- A successful call that configures leaves nothing armed. -/
theorem invited_of_configured {e : Event} (he : (machine P).Steps e)
    (hconf : e.input.action.configures = true) (hok : succeeded e = true) :
    Invited P (e.output.filterMap Output.prePoll?) e.post.session := by
  obtain ⟨c, c', h, hpost, hout, -, hwarm, -⟩ := configured_of_succeeded he hconf hok
  have hlistens : InvitedAt P [] (c.listen e.input.env) :=
    ⟨fun h => absurd (hwarm.symm.trans h) Bool.false_ne_true, fun hs => by cases hs⟩
  have hinvited := invited_unstashed h hlistens
  have hnone : [Output.returned (.ok ())].filterMap Output.prePoll? = [] := rfl
  rw [hpost, hout, List.filterMap_append, hnone, List.append_nil]
  exact hinvited

/-- **The step lemma.** -/
theorem invited_step {e : Event} (he : (machine P).Steps e)
    (hno : e.input.action.configures = false) (hpre : Invited P l e.pre.session) :
    Invited P (l ++ e.output.filterMap Output.prePoll?) e.post.session := by
  obtain ⟨-, c, hc, hpost, hout⟩ := served_of_steps he
  have hentered : InvitedAt P l (e.pre.enter e.input) := by
    unfold InvitedAt
    rw [System.enter, List.filterMap_nil, List.append_nil]
    exact hpre
  rw [hpost, hout]
  exact invited_served hc hno hentered

/-- **The run lemma**: the exchange that is armed or warm has been announced by a PrePoll of the
run. -/
theorem invited_run {x t : System} {tr : List Event} (h : (machine P).Run x tr t)
    (hno : ∀ e ∈ tr, e.input.action.configures = false) (hpre : Invited P l x.session) :
    Invited P (l ++ acceptedPrePolls tr) t.session :=
  h.invariant_emitted (J := fun l y => Invited P l y.session) _ hno hpre
    fun _ _ he hno hpre => invited_step he hno hpre

/-- A transmission begins with its command. -/
theorem exists_startDelayedTx {os : List Output} (h : os.any Output.isTransmission = true) :
    ∃ t ranging started, .command (.startDelayedTx t ranging started) ∈ os := by
  obtain ⟨o, ho, hbegins⟩ := List.any_eq_true.1 h
  rcases o with ⟨⟨⟩⟩ | _ | _ | _ | _ | _ <;> first | exact ⟨_, _, _, ho⟩ | cases hbegins

/-- The Response keys of the armed exchange are loaded for an answer. -/
theorem loads_of_answers {e : Event} (he : (machine P).Steps e) {event : RxSuccessEvent}
    (h : Answers e.input (e.pre.enter e.input) event) :
    .command (.loadStsKeyIv e.pre.session.armed.response.durskKey
      e.pre.session.armed.response.stsIv) ∈ e.output := by
  obtain ⟨-, -, hout⟩ := steps_iff.1 he
  have hstate : e.pre.session.state = .awaitingPoll := h.state
  have hkeys : e.pre.session.armedKeysValid = true := h.keys
  have hserve : serve P e.input (e.pre.enter e.input) =
      handlePollReception P e.input.env event (e.pre.enter e.input) := by
    simp only [serve, h.action, onRxSuccess, System.enter, hstate]
  rw [hout, hserve, handlePollReception, if_neg (by simp [h.sts])]
  simp only [Ctx.modify, System.enter, hkeys, Bool.not_true, Bool.false_eq_true, if_false]
  split_ifs with htx
  · simp [transitionTo, Ctx.command, Ctx.emit, Ctx.modify]
  · obtain ⟨_, _, _, _, _, _, _, hc, -, -⟩ := (unstashed_armPrePollListening (P := P) e.input.env
      (((Ctx.mk _ _ _ _).command _).command _ |>.command _)).frame
    rw [hc]
    simp [Ctx.listen, Ctx.command, Ctx.emit]

/-- **A Response is sent only where it has been invited.**  After a successful `start` or
`resumeWithAnchor`, until the session is configured anew, a Response is begun only in
answer to a Poll that has passed the STS check, and with the Response keys of an exchange
that an authentic PrePoll, accepted since then, has announced, or of the exchange
scheduled after it. -/
theorem responses_are_invited {t : System} {e₀ e : Event} {tr : List Event}
    (h : (machine P).Run e₀.pre (e₀ :: (tr ++ [e])) t)
    (hconf : e₀.input.action.configures = true) (hok : succeeded e₀ = true)
    (hno : ∀ e ∈ tr, e.input.action.configures = false)
    (htx : e.output.any Output.isTransmission = true) :
    (∃ event, Answers e.input (e.pre.enter e.input) event) ∧
      ∃ mhr prePoll frame i key, (mhr, prePoll) ∈ acceptedPrePolls (e₀ :: tr) ∧
        AuthenticPrePoll P e.pre.session frame mhr prePoll ∧
        Invites e.pre.session.params prePoll i ∧
        value (slotKeysAt P e.pre.session
          (i + 1 + e.pre.session.nodeConfig.responderIndex.toUInt32)) = .ok key ∧
        .command (.loadStsKeyIv key.durskKey key.stsIv) ∈ e.output := by
  obtain ⟨-, he₀, hrun⟩ := h
  obtain ⟨hbefore, he, -⟩ := hrun.at_step
  obtain ⟨_, _, _, hbegins⟩ := exists_startDelayedTx htx
  obtain ⟨event, hanswers⟩ := answers_of_startDelayedTx he hbegins
  have hinvited := invited_run hbefore hno (invited_of_configured he₀ hconf hok)
  obtain ⟨mhr, prePoll, frame, hmem, hauthentic, hinvites, hkeys⟩ := hinvited.armed hanswers.state
  exact ⟨⟨event, hanswers⟩, mhr, prePoll, frame, _, _, hmem, hauthentic, hinvites, hkeys.response,
    loads_of_answers he hanswers⟩

/-- The hypotheses of `responses_are_invited` are satisfiable, also where a forged frame
has armed the exchange. -/
theorem responses_are_invited_sample : ∃ (e₀ e : Event) (tr : List Event) (t : System),
    (machine .sample).Run (System.initial {}) (e₀ :: (tr ++ [e])) t ∧
      (e₀ :: (tr ++ [e])).map (·.input) = sampleStart sampleParams {} :: answeredTwice ∧
      ∃ mhr prePoll i, ∃ key : SlotCryptoMaterial, (mhr, prePoll) ∈ acceptedPrePolls (e₀ :: tr) ∧
        Invites e.pre.session.params prePoll i ∧
        .command (.loadStsKeyIv key.durskKey key.stsIv) ∈ e.output ∧
        e.output.any Output.isTransmission = true := by
  obtain ⟨e₀, tr, t, hrun, hstart, hin, hok, h⟩ := Machine.exists_run_cons_of_exec
    (M := machine .sample) (s := System.initial {}) (i := sampleStart sampleParams {})
    (l := answeredTwice) (q := succeeded)
    (p := fun tr _ => tr.all (fun e => !e.input.action.configures) &&
      tr.getLast?.any fun e => e.output.any Output.isTransmission) (by decide +kernel)
  simp only [Bool.and_eq_true, List.all_eq_true, Bool.not_eq_true', Option.any_eq_true] at h
  obtain ⟨hno, e, hlast, htx⟩ := h
  obtain ⟨tr₁, rfl⟩ := List.getLast?_eq_some_iff.1 hlast
  have hpre : e₀.pre = System.initial {} := hrun.1
  obtain ⟨-, mhr, prePoll, frame, i, key, hmem, -, hinvites, -, hload⟩ :=
    responses_are_invited (hpre ▸ hrun) (by rw [hstart]; rfl) hok
      (fun e he => hno e (List.mem_append_left _ he)) htx
  exact ⟨e₀, e, tr₁, t, hrun, List.cons_eq_cons.2 ⟨hstart, hin⟩, mhr, prePoll, i, key, hmem,
    hinvites, hload, htx⟩

end Session
end AliroUwb
