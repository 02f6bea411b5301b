/-
# What each handler can do

The handlers read as relations: `Refreshed`, `Unstashed` and `MaterialDerived`
list everything that `refreshWarmKeys`, `processStashedPrePoll` and
`deriveSessionMaterial` can do to a session, each with the checks that led
there.  `refreshed_refreshWarmKeys`, `unstashed_processStashedPrePoll` and
`materialDerived_deriveSessionMaterial` say that nothing else happens.

Every outcome records what it leaves of the provider's faults: none, if there
were none to begin with.
-/

import AliroUwb.Session.Control
import AliroUwb.Session.Frames

namespace AliroUwb
namespace Session

open Crypto Protocol Ranging Transceiver

variable {P : Platform}

/-! ### Slot keys -/

/-- The slot keys the session's material gives for an STS index. -/
def slotKeysAt (P : Platform) (s : SessionMembers) (stsIndex : StsIndex) :
    CryptoM SlotCryptoMaterial :=
  deriveSlotKeys P.crypto s.keys.mursk s.keys.saltedHash stsIndex s.params.slotsPerRound.toUInt16
    s.params.stsIndex0

/-- `keys` are the Poll, Response and Final keys of the exchange whose Poll has
STS index `i`. -/
structure CycleKeysFor (P : Platform) (s : SessionMembers) (i : StsIndex) (keys : CycleKeys) :
    Prop where
  pollStsIndex : keys.pollStsIndex = i
  poll : value (slotKeysAt P s i) = .ok keys.poll
  response : value (slotKeysAt P s (i + 1 + s.nodeConfig.responderIndex.toUInt32)) =
    .ok keys.response
  final : value (slotKeysAt P s (i + 1 + s.params.responderCount.toUInt32)) = .ok keys.final

/-- The slot keys are those of the configuration and the key material. -/
theorem CycleKeysFor.congr {s t : SessionMembers} {i : StsIndex} {keys : CycleKeys}
    (h : CycleKeysFor P s i keys) (hparams : t.params = s.params)
    (hnode : t.nodeConfig = s.nodeConfig) (hkeys : t.keys = s.keys) : CycleKeysFor P t i keys := by
  have hslot (j : StsIndex) : slotKeysAt P t j = slotKeysAt P s j := by
    unfold slotKeysAt
    rw [hparams, hkeys]
  refine ⟨h.pollStsIndex, ?_, ?_, ?_⟩
  · rw [hslot]
    exact h.poll
  · rw [hslot, hnode]
    exact h.response
  · rw [hslot, hparams]
    exact h.final

/-- An exchange has one set of keys. -/
theorem CycleKeysFor.unique {s : SessionMembers} {i : StsIndex} {a b : CycleKeys}
    (ha : CycleKeysFor P s i a) (hb : CycleKeysFor P s i b) : a = b := by
  have hpoll := Except.ok.inj (ha.poll.symm.trans hb.poll)
  have hresponse := Except.ok.inj (ha.response.symm.trans hb.response)
  have hfinal := Except.ok.inj (ha.final.symm.trans hb.final)
  cases a
  cases b
  obtain rfl := ha.pollStsIndex
  obtain rfl := hb.pollStsIndex
  simp_all

/-- The slot keys are lost to a fault or right. -/
theorem steady_slotKeysAt (s : SessionMembers) (i : StsIndex) : Steady (slotKeysAt P s i) :=
  steady_deriveSlotKeys ..

/-- Without faults the engine fails on no STS index, given at least one slot
per round. -/
theorem slotKeysAt_noFaults {s : SessionMembers} (h : s.params.slotsPerRound ≠ 0) (i : StsIndex) :
    ∃ keys, slotKeysAt P s i noFaults = (.ok keys, noFaults) := by
  have hne : s.params.slotsPerRound.toUInt16 ≠ 0 := fun h0 => h (by
    have := congrArg UInt16.toNat h0
    rw [UInt8.toNat_toUInt16] at this
    exact UInt8.toNat_inj.1 this)
  unfold slotKeysAt deriveSlotKeys
  rw [if_neg hne]
  exact ⟨_, rfl⟩

/-- A failure of the engine has a reason. -/
theorem slotKeysAt_error {s : SessionMembers} {i : StsIndex} {faults faults' : Faults}
    {e : StatusCode} (h : slotKeysAt P s i faults = (.error e, faults')) :
    faults = noFaults → s.params.slotsPerRound = 0 ∧ faults' = noFaults := by
  rintro rfl
  have hrest : (slotKeysAt P s i noFaults).2 = noFaults := (steady_slotKeysAt s i).rest
  rw [h] at hrest
  refine ⟨by_contra fun hne => ?_, hrest⟩
  obtain ⟨keys, hk⟩ := slotKeysAt_noFaults (P := P) hne i
  rw [hk] at h
  cases h

/-- `deriveCycleKeys` with its slot keys named. -/
theorem deriveCycleKeys_eq (s : SessionMembers) (i : StsIndex) (out : CycleKeys) :
    deriveCycleKeys P s i out = (do
      match ← (slotKeysAt P s i).run with
      | .error e => pure (.error e, { out with pollStsIndex := i })
      | .ok poll =>
        match ← (slotKeysAt P s (i + 1 + s.nodeConfig.responderIndex.toUInt32)).run with
        | .error e => pure (.error e, { out with pollStsIndex := i, poll })
        | .ok response =>
          match ← (slotKeysAt P s (i + 1 + s.params.responderCount.toUInt32)).run with
          | .error e => pure (.error e, { out with pollStsIndex := i, poll, response })
          | .ok final => pure (.ok (), { pollStsIndex := i, poll, response, final })) := rfl

/-- **`deriveCycleKeys` computes the keys of its exchange or fails**, and it
fails for a reason. -/
theorem deriveCycleKeys_cases (s : SessionMembers) (i : StsIndex) (out : CycleKeys)
    (faults : Faults) :
    (∃ keys faults', deriveCycleKeys P s i out faults = ((.ok (), keys), faults') ∧
      CycleKeysFor P s i keys ∧ StaysQuiet faults faults') ∨
    (∃ e keys faults', deriveCycleKeys P s i out faults = ((.error e, keys), faults') ∧
      (faults = noFaults → s.params.slotsPerRound = 0 ∧ faults' = noFaults)) := by
  have hstay {j : StsIndex} {f f' : Faults} {r} (h : slotKeysAt P s j f = (r, f')) :
      StaysQuiet f f' := by
    have := (steady_slotKeysAt (P := P) s j).rest.staysQuiet f
    rwa [h] at this
  rw [deriveCycleKeys_eq, bind_faults, ExceptT.run]
  rcases h₁ : slotKeysAt P s i faults with ⟨e | poll, f₁⟩
  · exact Or.inr ⟨e, _, f₁, rfl, slotKeysAt_error h₁⟩
  dsimp only
  rw [bind_faults, ExceptT.run]
  rcases h₂ : slotKeysAt P s (i + 1 + s.nodeConfig.responderIndex.toUInt32) f₁ with
    ⟨e | response, f₂⟩
  · exact Or.inr ⟨e, _, f₂, rfl, fun h => slotKeysAt_error h₂ (hstay h₁ h)⟩
  dsimp only
  rw [bind_faults, ExceptT.run]
  rcases h₃ : slotKeysAt P s (i + 1 + s.params.responderCount.toUInt32) f₂ with ⟨e | final, f₃⟩
  · exact Or.inr ⟨e, _, f₃, rfl, fun h => slotKeysAt_error h₃ (hstay h₂ (hstay h₁ h))⟩
  have hval {j : StsIndex} {f f' : Faults} {k} (h : slotKeysAt P s j f = (.ok k, f')) :
      value (slotKeysAt P s j) = .ok k :=
    (steady_slotKeysAt s j).value_of_ok (congrArg Prod.fst h)
  exact Or.inl ⟨_, f₃, rfl, ⟨rfl, hval h₁, hval h₂, hval h₃⟩,
    ((hstay h₁).trans (hstay h₂)).trans (hstay h₃)⟩

/-! ### `refreshWarmKeys` -/

/-- What `refreshWarmKeys` can do. -/
inductive Refreshed (P : Platform) (c : Ctx) : Ctx → Prop
  /-- The next exchange is not scheduled. -/
  | unpredicted (hnext : nextScheduledExchange c.session.params c.session.currentBlock
      c.session.currentRound = none) :
      Refreshed P c { c with session := { c.session with warmValid := false } }
  /-- Its keys could not be derived. -/
  | failed {next : BlockIndex × SlotIndex} {warm : CycleKeys} {faults : Faults}
      (hnext : nextScheduledExchange c.session.params c.session.currentBlock
        c.session.currentRound = some next)
      (hfaults : c.faults = noFaults → c.session.params.slotsPerRound = 0 ∧ faults = noFaults) :
      Refreshed P c { c with session := { c.session with warm, warmValid := false }, faults }
  /-- Its keys are ready. -/
  | predicted {block : BlockIndex} {round : SlotIndex} {warm : CycleKeys} {faults : Faults}
      (hnext : nextScheduledExchange c.session.params c.session.currentBlock
        c.session.currentRound = some (block, round))
      (hkeys : CycleKeysFor P c.session (pollStsIndexFor c.session.params block round) warm)
      (hfaults : StaysQuiet c.faults faults) :
      Refreshed P c { c with session := { c.session with warm, warmValid := true }, faults }

/-- This is what `refreshWarmKeys` does. -/
theorem refreshed_refreshWarmKeys (c : Ctx) : Refreshed P c (refreshWarmKeys P c) := by
  unfold refreshWarmKeys
  dsimp only
  cases hnext : nextScheduledExchange c.session.params c.session.currentBlock
    c.session.currentRound with
  | none => exact .unpredicted hnext
  | some next =>
    dsimp only [Ctx.run]
    rcases deriveCycleKeys_cases (P := P) c.session
      (pollStsIndexFor c.session.params next.1 next.2) c.session.warm c.faults with
      ⟨keys, f, h, hkeys, hf⟩ | ⟨e, keys, f, h, hf⟩
    · rw [h]
      exact .predicted hnext hkeys hf
    · rw [h]
      exact .failed hnext hf

/-- `refreshWarmKeys` touches the warm keys only. -/
theorem Refreshed.frame {c c' : Ctx} (h : Refreshed P c c') :
    ∃ warm warmValid faults,
      c' = { c with session := { c.session with warm, warmValid }, faults } ∧
      StaysQuiet c.faults faults := by
  cases h with
  | unpredicted hnext => exact ⟨_, _, _, rfl, .refl _⟩
  | failed hnext hfaults => exact ⟨_, _, _, rfl, fun h => (hfaults h).2⟩
  | predicted hnext hkeys hfaults => exact ⟨_, _, _, rfl, hfaults⟩

/-! ### `processStashedPrePoll` -/

/-- The stashed frame. -/
def SessionMembers.stashedFrame (s : SessionMembers) : List UInt8 :=
  s.stashFrame.1.take s.stashLen.toNat

/-- What `processStashedPrePoll` can do. -/
inductive Unstashed (P : Platform) (c : Ctx) : Ctx → Prop
  | empty (hlen : c.session.stashLen = 0) : Unstashed P c c
  | rejected {e : StatusCode} {faults : Faults} (hlen : c.session.stashLen ≠ 0)
      (hcheck : (checkPrePollFrame P c.session c.session.stashedFrame c.faults).1 = .error e)
      (hfaults : StaysQuiet c.faults faults) :
      Unstashed P c { c with
        session := { c.session with stashLen := 0, warmValid := false }, faults }
  /-- Accepted, in a block that is not ours. -/
  | ineligible {mhr : MacHeader} {prePoll : PrePollPayload} {faults : Faults}
      (hlen : c.session.stashLen ≠ 0)
      (hcheck : (checkPrePollFrame P c.session c.session.stashedFrame c.faults).1 =
        .ok (mhr, prePoll))
      (hparity : isBlockParityEligible c.session.nodeConfig prePoll.rangingBlock = false)
      (hfaults : StaysQuiet c.faults faults) :
      Unstashed P c { c with
        session := { c.session with
          stashLen := 0, replay := c.session.replay.acceptPrePoll mhr prePoll
          currentBlock := prePoll.rangingBlock, currentRound := prePoll.roundIndex }
        faults
        outputs := c.outputs ++ [.acceptedPrePoll mhr prePoll] }
  /-- Accepted, and the next exchange predicted. -/
  | eligible {mhr : MacHeader} {prePoll : PrePollPayload} {faults : Faults} {c' : Ctx}
      (hlen : c.session.stashLen ≠ 0)
      (hcheck : (checkPrePollFrame P c.session c.session.stashedFrame c.faults).1 =
        .ok (mhr, prePoll))
      (hparity : isBlockParityEligible c.session.nodeConfig prePoll.rangingBlock = true)
      (hfaults : StaysQuiet c.faults faults)
      (hwarm : Refreshed P { c with
        session := { c.session with
          stashLen := 0, replay := c.session.replay.acceptPrePoll mhr prePoll
          currentBlock := prePoll.rangingBlock, currentRound := prePoll.roundIndex }
        faults
        outputs := c.outputs ++ [.acceptedPrePoll mhr prePoll] } c') :
      Unstashed P c c'

/-- `decodePrePollFrame` as one function of what the checks say. -/
theorem decodePrePollFrame_eq (frame : List UInt8) (c : Ctx) :
    decodePrePollFrame P frame c = match checkPrePollFrame P c.session frame c.faults with
      | (.error e, faults) => (.error e, { c with faults })
      | (.ok (mhr, prePoll), faults) => (.ok prePoll, { c with
          session := { c.session with replay := c.session.replay.acceptPrePoll mhr prePoll }, faults
          outputs := c.outputs ++ [.acceptedPrePoll mhr prePoll] }) := by
  unfold decodePrePollFrame
  dsimp only [Ctx.run]
  rcases checkPrePollFrame P c.session frame c.faults with ⟨e | ⟨mhr, prePoll⟩, f⟩ <;> rfl

/-- What `decodePrePollFrame` can do. -/
theorem decodePrePollFrame_cases (frame : List UInt8) (c : Ctx) :
    (∃ e faults, (checkPrePollFrame P c.session frame c.faults).1 = .error e ∧
      StaysQuiet c.faults faults ∧
      decodePrePollFrame P frame c = (.error e, { c with faults })) ∨
    (∃ mhr prePoll faults, (checkPrePollFrame P c.session frame c.faults).1 = .ok (mhr, prePoll) ∧
      StaysQuiet c.faults faults ∧
      decodePrePollFrame P frame c = (.ok prePoll, { c with
        session := { c.session with replay := c.session.replay.acceptPrePoll mhr prePoll }
        faults, outputs := c.outputs ++ [.acceptedPrePoll mhr prePoll] })) := by
  have hquiet := (keepsQuiet_checkPrePollFrame (P := P) c.session frame).staysQuiet c.faults
  rw [decodePrePollFrame_eq]
  rcases hres : checkPrePollFrame P c.session frame c.faults with ⟨e | ⟨mhr, prePoll⟩, f⟩
  · rw [hres] at hquiet
    exact Or.inl ⟨e, f, rfl, hquiet, rfl⟩
  · rw [hres] at hquiet
    exact Or.inr ⟨mhr, prePoll, f, rfl, hquiet, rfl⟩

/-- What `decodePrePollFrame` returns is what its checks say. -/
theorem fst_decodePrePollFrame (frame : List UInt8) (c : Ctx) :
    (decodePrePollFrame P frame c).1 =
      (checkPrePollFrame P c.session frame c.faults).1.map Prod.snd := by
  rw [decodePrePollFrame_eq]
  rcases checkPrePollFrame P c.session frame c.faults with ⟨e | ⟨mhr, prePoll⟩, f⟩ <;> rfl

/-- This is what `processStashedPrePoll` does. -/
theorem unstashed_processStashedPrePoll (c : Ctx) :
    Unstashed P c (processStashedPrePoll P c) := by
  unfold processStashedPrePoll
  by_cases hlen : c.session.stashLen = 0
  · rw [if_pos hlen]
    exact .empty hlen
  rw [if_neg hlen]
  dsimp only
  rcases decodePrePollFrame_cases (P := P) c.session.stashedFrame
      (c.modify fun s => { s with stashLen := 0 }) with
    ⟨e, f, hcheck, hf, h⟩ | ⟨mhr, prePoll, f, hcheck, hf, h⟩
  · rw [← SessionMembers.stashedFrame, h]
    exact .rejected hlen hcheck hf
  · rw [← SessionMembers.stashedFrame, h]
    dsimp only
    split_ifs with hparity
    · exact .eligible hlen hcheck hparity hf (refreshed_refreshWarmKeys _)
    · exact .ineligible hlen hcheck (Bool.eq_false_iff.2 hparity) hf

/-- `processStashedPrePoll` touches the warm keys, the stash and what an
accepted PrePoll sets, and puts out nothing but the acceptance. -/
theorem Unstashed.frame {c c' : Ctx} (h : Unstashed P c c') :
    ∃ warm warmValid replay currentBlock currentRound faults outputs,
      c' = { c with
        session := { c.session with
          warm, warmValid, replay, currentBlock, currentRound, stashLen := 0 }
        faults, outputs := c.outputs ++ outputs } ∧
      StaysQuiet c.faults faults ∧
      ∀ o ∈ outputs, ∃ mhr prePoll, o = .acceptedPrePoll mhr prePoll := by
  cases h with
  | empty hlen =>
    refine ⟨c.session.warm, c.session.warmValid, c.session.replay, c.session.currentBlock,
      c.session.currentRound, c.faults, [], ?_, .refl _, by simp⟩
    rw [List.append_nil, ← hlen]
  | rejected hlen hcheck hfaults =>
    refine ⟨c.session.warm, false, c.session.replay, c.session.currentBlock,
      c.session.currentRound, _, [], ?_, hfaults, by simp⟩
    rw [List.append_nil]
  | ineligible hlen hcheck hparity hfaults =>
    exact ⟨_, _, _, _, _, _, _, rfl, hfaults, by simp⟩
  | eligible hlen hcheck hparity hfaults hwarm =>
    obtain ⟨warm, warmValid, f, rfl, hf⟩ := hwarm.frame
    exact ⟨_, _, _, _, _, _, _, rfl, hfaults.trans hf, by simp⟩

/-! ### `armPrePollListening` -/

/-- The session listens, before it looks at the stash. -/
def Ctx.listen (env : Env) (c : Ctx) : Ctx :=
  { c with
    session := { c.session with state := .prePollListening }
    outputs := c.outputs ++ [.command .forceReceiverOff, .command (.configureStsMode .off),
      .command (.startImmediateRx 0 env.immediateRxStarts), .transition .prePollListening] }

/-- `armPrePollListening` listens and then looks at the stash. -/
theorem armPrePollListening_eq (env : Env) (c : Ctx) :
    armPrePollListening P env c = processStashedPrePoll P (c.listen env) := by
  simp [armPrePollListening, transitionTo, Ctx.listen, Ctx.command, Ctx.emit, Ctx.modify]

/-- `armPrePollListening` listens and looks at the stash. -/
theorem unstashed_armPrePollListening (env : Env) (c : Ctx) :
    Unstashed P (c.listen env) (armPrePollListening P env c) := by
  rw [armPrePollListening_eq]
  exact unstashed_processStashedPrePoll _

/-! ### `deriveSessionMaterial` -/

/-- The key material that the engine derives from `ursk` and `params`. -/
def deriveKeyMaterial (P : CryptoProvider) (ursk : Bytes 32) (params : RangingSessionParameters) :
    CryptoM KeyMaterial := do
  let mupsk1 ← deriveMupsk1 P ursk
  let mupsk2 ← deriveMupsk2 P ursk
  let mursk ← deriveMursk P ursk
  let saltedHash ← deriveSaltedHash P ursk (rangingConfig params)
  let addresses ← deriveAddresses P mupsk2 params.stsIndex0
  return { mupsk1, mupsk2, mursk, saltedHash, addresses }

/-- The key material is lost to a fault or right. -/
theorem steady_deriveKeyMaterial (P : CryptoProvider) (ursk : Bytes 32)
    (params : RangingSessionParameters) : Steady (deriveKeyMaterial P ursk params) :=
  (steady_deriveMupsk1 ..).bind fun _ => (steady_deriveMupsk2 ..).bind fun _ =>
    (steady_deriveMursk ..).bind fun _ => (steady_deriveSaltedHash ..).bind fun _ =>
      (steady_deriveAddresses ..).bind fun _ => .pure _

/-- Without faults the derivation succeeds. -/
theorem deriveKeyMaterial_noFaults (P : CryptoProvider) (ursk : Bytes 32)
    (params : RangingSessionParameters) :
    ∃ keys, deriveKeyMaterial P ursk params noFaults = (.ok keys, noFaults) := ⟨_, rfl⟩

/-- What `deriveSessionMaterial` can do, `material` being the derivations that
are still to come. -/
inductive MaterialDerived (material : CryptoM KeyMaterial) (c : Ctx) : Ctx → Prop
  /-- A provider call failed; the members filled so far are new. -/
  | failed {keys : KeyMaterial} {e : StatusCode} {faults : Faults}
      (hkeys : (material c.faults).1 = .error e) :
      MaterialDerived material c { c with
        session := { c.session with keys, lastDeriveError := e }, faults }
  | derived {keys : KeyMaterial} {faults : Faults}
      (hkeys : material c.faults = (.ok keys, faults)) :
      MaterialDerived material c { c with
        session := { c.session with keys, materialValid := true }, faults }

/-- One derivation more. -/
theorem MaterialDerived.derive {α : Type} {x : CryptoM α} {material : α → CryptoM KeyMaterial}
    {store : α → KeyMaterial → KeyMaterial} {next : Ctx → Ctx} {c : Ctx}
    (h : ∀ a faults, MaterialDerived (material a)
      { c with session := { c.session with keys := store a c.session.keys }, faults }
      (next { c with session := { c.session with keys := store a c.session.keys }, faults })) :
    MaterialDerived (x >>= material) c (derive x store next c) := by
  rcases hx : x c.faults with ⟨e | a, faults⟩
  · have hd : Session.derive x store next c =
        { c with session := { c.session with lastDeriveError := e }, faults } := by
      simp only [Session.derive, Ctx.run, hx]
      rfl
    rw [hd]
    exact .failed (congrArg Prod.fst (bind_of_error hx material))
  · have hd : Session.derive x store next c =
        next { c with session := { c.session with keys := store a c.session.keys }, faults } := by
      simp only [Session.derive, Ctx.run, hx]
      rfl
    have hm := h a faults
    rw [hd]
    generalize next _ = c' at hm ⊢
    cases hm with
    | failed hkeys => exact .failed ((congrArg Prod.fst (bind_of_ok hx material)).trans hkeys)
    | derived hkeys => exact .derived ((bind_of_ok hx material).trans hkeys)

/-- **`deriveSessionMaterial` fills in what the engine derives from `m_ursk` and
`m_params`, or fails.** -/
theorem materialDerived_deriveSessionMaterial (c : Ctx) :
    MaterialDerived (deriveKeyMaterial P.crypto c.session.ursk c.session.params) c
      (deriveSessionMaterial P c) := by
  unfold deriveSessionMaterial deriveKeyMaterial
  dsimp only
  refine MaterialDerived.derive fun mupsk1 f₁ => ?_
  refine MaterialDerived.derive fun mupsk2 f₂ => ?_
  refine MaterialDerived.derive fun mursk f₃ => ?_
  refine MaterialDerived.derive fun saltedHash f₄ => ?_
  refine MaterialDerived.derive fun addresses f₅ => ?_
  exact MaterialDerived.derived rfl

/-- A derivation that succeeds fills in what it derives. -/
theorem deriveSessionMaterial_of_ok {c : Ctx} {keys : KeyMaterial} {faults : Faults}
    (h : deriveKeyMaterial P.crypto c.session.ursk c.session.params c.faults = (.ok keys, faults)) :
    deriveSessionMaterial P c =
      { c with session := { c.session with keys, materialValid := true }, faults } := by
  have hderived := materialDerived_deriveSessionMaterial (P := P) c
  generalize deriveSessionMaterial P c = c' at hderived ⊢
  cases hderived with
  | failed herr =>
    rw [h] at herr
    cases herr
  | derived hok =>
    obtain ⟨hk, rfl⟩ := Prod.mk.inj (h.symm.trans hok)
    obtain rfl := Except.ok.inj hk
    rfl

end Session
end AliroUwb
