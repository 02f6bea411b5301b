/-
# Several responders

The initiator's Poll is answered by several responders, each of them a session of its own
with its own `responderIndex`.  They are not in touch with each other: each reckons from
the Poll as it has received it, and loads the keys that it has derived itself.

Two sessions of one ranging session that begin a Response to the same Poll take turns all
the same, whatever either of them has gone through before: a slot is over before the next
one begins, and no two Responses have the same STS (`responders_take_turns`).
-/

import AliroUwb.Session.Invitations
import AliroUwb.Session.RoundKeys
import AliroUwb.Session.SlotOrder

namespace AliroUwb
namespace Session

open Stepwise Crypto Protocol Ranging Transceiver

variable {P : Platform}

/-- A step that begins a Response, after a successful `start` or `resumeWithAnchor`. -/
structure Responds (P : Platform) (e : Event) : Prop where
  run : ∃ e₀ tr t, (machine P).Run e₀.pre (e₀ :: (tr ++ [e])) t ∧
    e₀.input.action.configures = true ∧ succeeded e₀ = true ∧
    ∀ e ∈ tr, e.input.action.configures = false
  begins : e.output.any Output.isTransmission = true

/-- The step answers a Poll so long after it, with an STS of this IV. -/
def AnswersAfter (e : Event) (after : UInt32) (iv : Bytes 16) : Prop :=
  ∃ event key, e.input.action = .rxSuccess event ∧
    startTimes e = [hi32 event.rxTimestampDtu + after] ∧ loaded e = [(key, iv)]

/-- What is loaded for an STS index has its IV. -/
theorem stsIv_of_slotKeysAt {s : SessionMembers} {i : StsIndex} {key : SlotCryptoMaterial}
    (h : value (slotKeysAt P s i) = .ok key) : key.stsIv = deriveStsIv s.keys.saltedHash i := by
  by_cases hslots : s.params.slotsPerRound.toUInt16 = 0
  · rw [slotKeysAt, deriveSlotKeys, if_pos hslots] at h
    cases h
  · obtain ⟨_, _, -, -, hkey⟩ := value_slotKeysAt (P := P) hslots i
    obtain rfl := Except.ok.inj (h.symm.trans hkey)
    rfl

/-- **A Response has its slot and its STS index**, whatever went before. -/
theorem Responds.answersAfter {e : Event} (h : Responds P e) :
    AnswersAfter e
      (slotOffset e.pre.session.params (responseSlot e.pre.session.nodeConfig) respAntDelayHi32)
      (deriveStsIv e.pre.session.keys.saltedHash
        (e.pre.session.armed.pollStsIndex + responseSlot e.pre.session.nodeConfig)) := by
  obtain ⟨⟨e₀, tr, t, hrun, hconf, hok, hno⟩, hbegins⟩ := h
  obtain ⟨-, he₀, hrun⟩ := hrun
  obtain ⟨hbefore, he, -⟩ := hrun.at_step
  obtain ⟨_, _, _, hbegins⟩ := exists_startDelayedTx hbegins
  obtain ⟨event, hanswers⟩ := answers_of_startDelayedTx he hbegins
  have hstate : e.pre.session.state = .awaitingPoll := hanswers.state
  obtain ⟨_, _, _, -, -, -, hkeys⟩ :=
    (invited_run hbefore hno (invited_of_configured he₀ hconf hok)).armed hstate
  have hresponse := stsIv_of_slotKeysAt hkeys.response
  rw [UInt32.add_assoc] at hresponse
  cases leg_of_steps he with
  | @response event haction _ _ _ _ hloaded htimes =>
    refine ⟨event, e.pre.session.armed.response.durskKey, haction, ?_, ?_⟩
    · rw [htimes, respTxTime, add_slotOffset ⟨⟨_, rfl⟩, rfl⟩]
      rfl
    · rw [hloaded, stsKeyIv, hresponse]
      rfl
  | poll hpre | final hpre | finalData hpre =>
    rw [hstate] at hpre
    cases hpre
  | other huntimed =>
    exact absurd (List.all_eq_true.1 huntimed _ hbegins) Bool.false_ne_true

/-- The ticks up to a Response, with the antenna delay, are those of its slots. -/
theorem toNat_slotOffset_response {params : RangingSessionParameters}
    (h : params.slotDurationRstu ≠ 0) (n : SessionNodeConfig) :
    (slotOffset params (responseSlot n) respAntDelayHi32).toNat + respAntDelayHi32.toNat =
      (1 + n.responderIndex.toNat) * (params.slotDurationRstu.toNat * 208) := by
  have hfits : _ = _ := (slotOrder params n).response.2 h
  rw [hfits, toNat_responseSlot, Nat.mul_assoc]

/-- **The slots of responders are as far apart as their indices.** -/
theorem slotOffset_add {params : RangingSessionParameters} {m n : SessionNodeConfig}
    (h : m.responderIndex < n.responderIndex) :
    (slotOffset params (responseSlot m) respAntDelayHi32).toNat +
        (n.responderIndex.toNat - m.responderIndex.toNat) *
          (params.slotDurationRstu.toNat * 208) =
      (slotOffset params (responseSlot n) respAntDelayHi32).toNat := by
  by_cases hzero : params.slotDurationRstu = 0
  · -- slots of no length are all due at once
    have hticks (slot : UInt32) :
        slotOffset params slot respAntDelayHi32 = 0 - respAntDelayHi32 := by
      rw [slotOffset, slotTicksHi32, hzero]
      exact congrArg (· - respAntDelayHi32) UInt32.mul_zero
    rw [hticks, hticks, hzero]
    exact Nat.add_zero _
  · have hm := toNat_slotOffset_response hzero m
    have hn := toNat_slotOffset_response hzero n
    obtain ⟨k, hk⟩ := Nat.exists_eq_add_of_lt (UInt8.lt_iff_toNat_lt.1 h)
    have hslots : 1 + n.responderIndex.toNat = 1 + m.responderIndex.toNat + (k + 1) := by omega
    have hdiff : n.responderIndex.toNat - m.responderIndex.toNat = k + 1 := by omega
    rw [hslots, Nat.add_mul] at hn
    rw [hdiff]
    omega

/-- **Responders take turns.**  Where two sessions of one ranging session begin a Response
to the same Poll, the later one begins as many slots after the earlier one as their indices
say, and under another STS; and a responder that is counted is through before the slot of
the Final, which is yet under another STS. -/
theorem responders_take_turns {a b : Event} (ha : Responds P a) (hb : Responds P b)
    (hparams : b.pre.session.params = a.pre.session.params)
    (hkeys : b.pre.session.keys.saltedHash = a.pre.session.keys.saltedHash)
    (hpoll : b.pre.session.armed.pollStsIndex = a.pre.session.armed.pollStsIndex)
    (hturn : a.pre.session.nodeConfig.responderIndex < b.pre.session.nodeConfig.responderIndex) :
    ∃ u v iv iv', AnswersAfter a u iv ∧ AnswersAfter b v iv' ∧ iv ≠ iv' ∧
      u.toNat + (b.pre.session.nodeConfig.responderIndex.toNat -
        a.pre.session.nodeConfig.responderIndex.toNat) *
          (a.pre.session.params.slotDurationRstu.toNat * 208) = v.toNat ∧
      (a.pre.session.params.slotDurationRstu ≠ 0 →
        b.pre.session.nodeConfig.responderIndex < a.pre.session.params.responderCount →
          v.toNat + respAntDelayHi32.toNat + a.pre.session.params.slotDurationRstu.toNat * 208 ≤
              (finalSlot a.pre.session.params * slotTicksHi32 a.pre.session.params).toNat ∧
            iv' ≠ deriveStsIv a.pre.session.keys.saltedHash
              (a.pre.session.armed.pollStsIndex + finalSlot a.pre.session.params)) := by
  have hb' := hb.answersAfter
  rw [hparams, hkeys, hpoll] at hb'
  have hless := UInt8.lt_iff_toNat_lt.1 hturn
  refine ⟨_, _, _, _, ha.answersAfter, hb', fun heq => ?_, slotOffset_add hturn,
    fun hlong hcounted => ⟨?_, fun heq => ?_⟩⟩
  · have hslots := congrArg UInt32.toNat ((UInt32.add_right_inj _).1 (deriveStsIv_inj.1 heq))
    rw [toNat_responseSlot, toNat_responseSlot] at hslots
    omega
  · have hoffset := toNat_slotOffset_response hlong b.pre.session.nodeConfig
    have hproduct := (slotOrder a.pre.session.params b.pre.session.nodeConfig).product
      (finalSlot a.pre.session.params) (by simp)
    have hslots := Nat.mul_le_mul_right (a.pre.session.params.slotDurationRstu.toNat * 208)
      (show 1 + b.pre.session.nodeConfig.responderIndex.toNat + 1 ≤
        1 + a.pre.session.params.responderCount.toNat by
          have hlt := UInt8.lt_iff_toNat_lt.1 hcounted
          omega)
    rw [Nat.add_mul, Nat.one_mul] at hslots
    rw [hproduct, toNat_finalSlot, Nat.mul_assoc, hoffset]
    exact hslots
  · have hshared := (slotOrder _ b.pre.session.nodeConfig).shared _ |>.1 (deriveStsIv_inj.1 heq)
    rw [hshared] at hcounted
    exact absurd hcounted (UInt8.lt_irrefl _)

/-- A ranging session with two responders. -/
def pairParams : RangingSessionParameters := { sampleParams with responderCount := 2 }

/-- The step begins the first Response of the responder with the index. -/
def FirstResponse (index : UInt8) (e : Event) : Prop :=
  e.output.any Output.isTransmission = true ∧ e.pre.session.params = pairParams ∧
    e.pre.session.keys.saltedHash = Bytes.zero 16 ∧ e.pre.session.armed.pollStsIndex = 1 ∧
    e.pre.session.nodeConfig.responderIndex = index

/-- It can be seen from the step. -/
instance (index : UInt8) : DecidablePred (FirstResponse index) :=
  fun _ => inferInstanceAs (Decidable (_ ∧ _))

/-- A responder is started and answers the first Poll. -/
def samplePair (index : UInt8) : List Input :=
  [sampleStart pairParams { responderIndex := index }, samplePrePoll 1 { pollStsIndex := 1 },
    samplePoll]

/-- A run that passes the test responds. -/
theorem responds_of_samplePair {index : UInt8}
    (h : ((machine .sample).exec (System.initial {}) (samplePair index)).any (fun r =>
      r.1.head?.any succeeded && (r.1.tail.all (fun e => !e.input.action.configures) &&
        r.1.tail.getLast?.any fun e => decide (FirstResponse index e))) = true) :
    ∃ e, Responds .sample e ∧ FirstResponse index e := by
  obtain ⟨e₀, tr, t, hrun, hstart, -, hok, h⟩ := Machine.exists_run_cons_of_exec
    (q := succeeded) (p := fun tr _ => tr.all (fun e => !e.input.action.configures) &&
      tr.getLast?.any fun e => decide (FirstResponse index e)) h
  simp only [Bool.and_eq_true, List.all_eq_true, Bool.not_eq_true', Option.any_eq_true] at h
  obtain ⟨hno, e, hlast, hfirst⟩ := h
  have hfirst := of_decide_eq_true hfirst
  obtain ⟨tr₁, rfl⟩ := List.getLast?_eq_some_iff.1 hlast
  have hpre : e₀.pre = System.initial {} := hrun.1
  exact ⟨e, ⟨⟨e₀, tr₁, t, hpre ▸ hrun, by rw [hstart]; rfl, hok,
    fun e he => hno e (List.mem_append_left _ he)⟩, hfirst.1⟩, hfirst⟩

/-- The hypotheses of `responders_take_turns` are satisfiable. -/
theorem responders_take_turns_sample : ∃ (a b : Event) (u v : UInt32) (iv iv' : Bytes 16),
    FirstResponse 0 a ∧ FirstResponse 1 b ∧ AnswersAfter a u iv ∧ AnswersAfter b v iv' ∧
      iv ≠ iv' ∧ u.toNat + 2400 * 208 = v.toNat := by
  obtain ⟨a, ha, hfirst⟩ : ∃ e, Responds .sample e ∧ FirstResponse 0 e :=
    responds_of_samplePair (by decide +kernel)
  obtain ⟨b, hb, hfirst'⟩ : ∃ e, Responds .sample e ∧ FirstResponse 1 e :=
    responds_of_samplePair (by decide +kernel)
  obtain ⟨-, hparams, hhash, hpoll, hindex⟩ := id hfirst
  obtain ⟨-, hparams', hhash', hpoll', hindex'⟩ := id hfirst'
  obtain ⟨u, v, iv, iv', hu, hv, hne, happart, -⟩ := responders_take_turns ha hb
    (hparams'.trans hparams.symm) (hhash'.trans hhash.symm) (hpoll'.trans hpoll.symm)
    (by rw [hindex, hindex']; decide)
  rw [hindex, hindex', hparams] at happart
  exact ⟨a, b, u, v, iv, iv', hfirst, hfirst', hu, hv, hne, happart⟩

end Session
end AliroUwb
