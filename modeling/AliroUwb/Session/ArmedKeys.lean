/-
# The keys of an exchange under way

The keys that an exchange runs on are derived before it, on the bootstrap path
when its PrePoll comes and on the warm path an exchange ahead.  `Keyed` says
that they are all there once the exchange is armed, and where they come from; it
is an invariant of every step but a `start` that fails, which returns the moment
it has replaced the configuration and leaves the state as it was.
-/

import AliroUwb.Session.Steps

namespace AliroUwb
namespace Session

open Stepwise Crypto Protocol Ranging Transceiver

variable {P : Platform} {derived : CycleKeys → Prop}

/-- The warm keys, if valid, are `derived`; in an exchange the armed keys are
valid, `derived`, and those of the armed Poll. -/
structure Keyed (derived : CycleKeys → Prop) (s : SessionMembers) : Prop where
  warm : s.warmValid = true → derived s.warm
  armed : s.state.inExchange = true →
    s.armedKeysValid = true ∧ s.armed.pollStsIndex = s.armedPollStsIndex ∧ derived s.armed

/-- What the session derives is `derived`. -/
def Derives (P : Platform) (s : SessionMembers) (derived : CycleKeys → Prop) : Prop :=
  ∀ keys, CycleKeysFor P s keys.pollStsIndex keys → derived keys

/-- What is derived depends on the configuration only. -/
theorem Derives.congr {s t : SessionMembers} (h : Derives P s derived)
    (hst : SameConfig t s) : Derives P t derived :=
  fun keys hkeys => h keys (hkeys.congr hst.params hst.nodeConfig hst.keys)

/-- Nothing is asked of invalid warm keys. -/
theorem warm_of_invalid {s : SessionMembers} (h : s.warmValid = false) :
    s.warmValid = true → derived s.warm :=
  fun hwarm => absurd (h.symm.trans hwarm) Bool.false_ne_true

/-- Outside of an exchange nothing is asked of the armed keys. -/
theorem keyed_of_state {s : SessionMembers} (hwarm : s.warmValid = true → derived s.warm)
    (hstate : s.state.inExchange = false) : Keyed derived s :=
  ⟨hwarm, fun h => absurd (hstate.symm.trans h) Bool.false_ne_true⟩

/-- Nothing that `Keyed` speaks of has changed. -/
theorem Keyed.same {s t : SessionMembers} (h : Keyed derived s)
    (hst : (t.state, t.warmValid, t.warm, t.armedKeysValid, t.armed, t.armedPollStsIndex) =
      (s.state, s.warmValid, s.warm, s.armedKeysValid, s.armed, s.armedPollStsIndex)) :
    Keyed derived t := by
  simp only [Prod.mk.injEq] at hst
  obtain ⟨hstate, hvalid, hwarm, harmed, hkeys, hindex⟩ := hst
  constructor
  · rw [hvalid, hwarm]
    exact h.warm
  · rw [hstate, harmed, hkeys, hindex]
    exact h.armed

/-- The keys have every property that follows from theirs. -/
theorem Keyed.mono {derived' : CycleKeys → Prop} {s : SessionMembers} (h : Keyed derived s)
    (hd : ∀ keys, derived keys → derived' keys) : Keyed derived' s := by
  refine ⟨fun hwarm => hd _ (h.warm hwarm), fun hstate => ?_⟩
  obtain ⟨hvalid, hindex, hkeys⟩ := h.armed hstate
  exact ⟨hvalid, hindex, hd _ hkeys⟩

/-! ### Pieces of a step -/

/-- Refreshed warm keys are derived keys. -/
theorem keyed_refreshed {c c' : Ctx} (h : Refreshed P c c') (hderives : Derives P c.session derived)
    (harmed : c.session.state.inExchange = true → c.session.armedKeysValid = true ∧
      c.session.armed.pollStsIndex = c.session.armedPollStsIndex ∧ derived c.session.armed) :
    Keyed derived c'.session := by
  cases h with
  | unpredicted => exact ⟨nofun, harmed⟩
  | failed => exact ⟨nofun, harmed⟩
  | predicted _ hkeys => exact ⟨fun _ => hderives _ (hkeys.pollStsIndex ▸ hkeys), harmed⟩

/-- **The stash keeps the keys.** -/
theorem keyed_unstashed {c c' : Ctx} (h : Unstashed P c c') (hderives : Derives P c.session derived)
    (hc : Keyed derived c.session) : Keyed derived c'.session := by
  cases h with
  | empty => exact hc
  | rejected => exact ⟨nofun, hc.armed⟩
  | ineligible => exact ⟨hc.warm, hc.armed⟩
  | eligible _ _ _ _ hwarm =>
    exact keyed_refreshed hwarm (hderives.congr ⟨rfl, rfl, rfl, rfl, rfl, rfl⟩) hc.armed

/-- The way back to listening asks for the warm keys only. -/
theorem keyed_listen {env : Env} {c c' : Ctx} (h : Unstashed P (c.listen env) c')
    (hderives : Derives P c'.session derived)
    (hwarm : c.session.warmValid = true → derived c.session.warm) : Keyed derived c'.session :=
  keyed_unstashed h (hderives.congr (sameConfig_of_unstashed h)) (keyed_of_state hwarm rfl)

/-! ### Steps -/

/-- After a successful `start` there are no keys of an earlier session. -/
theorem keyed_started {e : Event} (he : (machine P).Steps e) {ursk : Bytes 32}
    {params : RangingSessionParameters} {nodeConfig : SessionNodeConfig} {callback : Option ℕ}
    (haction : e.input.action = .start ursk params nodeConfig callback)
    (hok : succeeded e = true) (hderives : Derives P e.post.session derived) :
    Keyed derived e.post.session := by
  obtain ⟨keys, err, c, c', -, -, hprepared, h, hpost, -⟩ := started_of_succeeded he haction hok
  rw [hpost] at hderives ⊢
  refine keyed_listen h hderives ?_
  rw [hprepared]
  exact warm_of_invalid rfl

/-- **Every step keeps the keys**, provided that a `start` succeeds.  A call that
has configured the session need not find them kept. -/
theorem keyed_step {e : Event} (he : (machine P).Steps e)
    (hderives : Derives P e.post.session derived)
    (hstart : ∀ ursk params nodeConfig callback,
      e.input.action = .start ursk params nodeConfig callback → succeeded e = true)
    (hpre : (e.input.action.configures = true → succeeded e = false) →
      Keyed derived e.pre.session) : Keyed derived e.post.session := by
  obtain ⟨-, c, hc, hpost, hout⟩ := served_of_steps he
  have hother {a : Action} (ha : e.input.action = a) (hno : a.configures = false) :
      Keyed derived e.pre.session :=
    hpre fun h => absurd (hno.symm.trans (ha ▸ h)) Bool.false_ne_true
  have hevent (h : e.input.action.isRadioEvent = true) : Keyed derived e.pre.session :=
    hother rfl (Action.configures_of_isRadioEvent h)
  -- a call that has returned nothing but an error
  have hfailed (h : Output.returned (.ok ()) ∉ c.outputs) : succeeded e = false :=
    decide_eq_false (hout ▸ h)
  rw [hpost] at hderives ⊢
  dsimp only at hderives ⊢
  cases hc with
  | ignored ha => exact hevent ha
  | abandoned ha _ _ h => exact keyed_listen h hderives (hevent ha).warm
  | rearmed ha => exact hother ha rfl
  | ineligible ha _ _ _ _ _ _ h | unkeyed ha _ _ _ _ _ _ h | late ha _ _ _ _ h
  | undelivered ha _ _ _ _ h | callbackReturned ha h =>
    exact keyed_listen h hderives (hother ha rfl).warm
  | resumed ha _ h =>
    have hlisten := keyed_listen h hderives (hother ha rfl).warm
    exact hlisten
  | bootstrapped ha _ _ _ _ _ hkeys _ h =>
    have hsame := h.frame
    obtain ⟨_, _, _, rfl, -⟩ := hsame
    refine keyed_refreshed h (hderives.congr ⟨rfl, rfl, rfl, rfl, rfl, rfl⟩) fun _ => ⟨rfl, rfl, ?_⟩
    exact hderives _ (hkeys.pollStsIndex.symm ▸ hkeys.congr rfl rfl rfl)
  | warmed ha _ hwarm =>
    have hkeyed := hother ha rfl
    exact ⟨fun _ => hkeyed.warm hwarm, fun _ => ⟨rfl, rfl, hkeyed.warm hwarm⟩⟩
  | responded ha hstate | transmitted ha hstate =>
    have hkeyed := hother ha rfl
    exact ⟨hkeyed.warm, fun _ => hkeyed.armed (congrArg SessionState.inExchange hstate)⟩
  | finalReceived ha hstate h =>
    have hkeyed := hother ha rfl
    refine keyed_unstashed h (hderives.congr (sameConfig_of_unstashed h)) ⟨hkeyed.warm, fun _ => ?_⟩
    exact hkeyed.armed (congrArg SessionState.inExchange hstate)
  | delivered h =>
    cases h with
    | mk ha => exact (hother ha rfl).same rfl
  | stopped ha | suspended ha => exact keyed_of_state (hother ha rfl).warm rfl
  | refused =>
    refine hpre fun _ => hfailed ?_
    simp [System.enter]
  | anchorFailed _ hstate =>
    have hst : e.pre.session.state.inExchange = false := congrArg SessionState.inExchange hstate
    refine keyed_of_state (hpre fun _ => hfailed ?_).warm hst
    simp [System.enter]
  | anchored _ _ _ _ h | started _ _ _ _ h =>
    have hlisten := keyed_listen h hderives (warm_of_invalid rfl)
    exact hlisten
  | startFailed ha | unconfigured ha =>
    have hok := of_decide_eq_true (hstart _ _ _ _ ha)
    rw [hout] at hok
    simp [System.enter] at hok

end Session
end AliroUwb
