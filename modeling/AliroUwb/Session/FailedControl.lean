/-
# Control calls that fail

`start` and `resumeWithAnchor` store their arguments first and derive the key
material member by member after that.  A failure returns from where it happens:
what has been stored stays, and the state is left as it is.  So a session that
is refused a new anchor has the new index and no valid material, and a session
that was active before a failed `start` is active after it, on the new
parameters; one that was suspended is resumed with them, and one whose callback is
running listens with them when the callback returns.

`failed_calls_atomic_iff` says when a failed call has left everything as it was,
or a session that no handler acts on until it is started anew.
-/

import AliroUwb.Session.Steps

namespace AliroUwb
namespace Session

open Stepwise Crypto Protocol Ranging Transceiver

variable {P : Platform}

/-! ### What a failed derivation has stored -/

/-- If the computation succeeds, it yields `a`, and `rest` holds of what follows. -/
def Yields {α : Type} (x : CryptoM α) (a : α) (rest : Faults → Prop) (faults : Faults) : Prop :=
  match x faults with
  | (.error _, _) => True
  | (.ok b, faults) => b = a ∧ rest faults

/-- Up to the first failure, the engine derives the members that are there. -/
def Rederives (P : CryptoProvider) (ursk : Bytes 32) (params : RangingSessionParameters)
    (keys : KeyMaterial) : Faults → Prop :=
  Yields (deriveMupsk1 P ursk) keys.mupsk1 <|
  Yields (deriveMupsk2 P ursk) keys.mupsk2 <|
  Yields (deriveMursk P ursk) keys.mursk <|
  Yields (deriveSaltedHash P ursk (rangingConfig params)) keys.saltedHash <|
  Yields (deriveAddresses P keys.mupsk2 params.stsIndex0) keys.addresses fun _ => True

/-- **The material is unchanged when the same is derived again.** -/
theorem keys_deriveSessionMaterial_iff {c : Ctx} :
    (deriveSessionMaterial P c).session.keys = c.session.keys ↔
      Rederives P.crypto c.session.ursk c.session.params c.session.keys c.faults := by
  obtain ⟨s, inCallback, faults, outputs⟩ := c
  unfold deriveSessionMaterial Rederives derive Yields
  dsimp only [Ctx.run, Ctx.modify]
  rcases deriveMupsk1 P.crypto s.ursk faults with ⟨e | mupsk1, f₁⟩
  · simp
  dsimp only
  rcases deriveMupsk2 P.crypto s.ursk f₁ with ⟨e | mupsk2, f₂⟩
  · cases hk : s.keys
    simp
  dsimp only
  rcases deriveMursk P.crypto s.ursk f₂ with ⟨e | mursk, f₃⟩
  · cases hk : s.keys
    simp
  dsimp only
  rcases deriveSaltedHash P.crypto s.ursk (rangingConfig s.params) f₃ with ⟨e | saltedHash, f₄⟩
  · cases hk : s.keys
    simp
  dsimp only
  by_cases hmupsk2 : mupsk2 = s.keys.mupsk2
  · subst hmupsk2
    rcases deriveAddresses P.crypto s.keys.mupsk2 s.params.stsIndex0 f₄ with ⟨e | addresses, f₅⟩
    · cases hk : s.keys
      simp
    · cases hk : s.keys
      simp
  · -- the addresses come of another key, which is stored
    have hstored (keys : KeyMaterial) (h : keys.mupsk2 = mupsk2) : keys ≠ s.keys :=
      fun hk => hmupsk2 (by rw [← h, hk])
    simp only [hmupsk2, false_and, and_false, iff_false]
    rcases deriveAddresses P.crypto mupsk2 s.params.stsIndex0 f₄ with ⟨e | addresses, f₅⟩
    · exact hstored _ rfl
    · exact hstored _ rfl

/-! ### What a failed call leaves -/

/-- A control call has returned an error. -/
def Output.isFailure : Output → Bool
  | .returned (.error _) => true
  | _ => false

/-- The control call that a step serves has failed. -/
def failed (e : Event) : Bool := e.output.any Output.isFailure

/-- Listening and the return of success are no failure. -/
theorem not_failed_of_armed {env : Env} {c : Ctx}
    (h : c.outputs.any Output.isFailure = false) :
    (return' (.ok ()) (armPrePollListening P env c)).outputs.any Output.isFailure = false := by
  obtain ⟨_, _, _, _, _, _, os, hframe, -, hos⟩ :=
    (unstashed_armPrePollListening (P := P) env c).frame
  have hos' : os.any Output.isFailure = false := by
    rw [List.any_eq_false]
    intro o ho
    obtain ⟨mhr, prePoll, rfl⟩ := hos o ho
    simp [Output.isFailure]
  rw [hframe]
  simp [return', Ctx.emit, Ctx.listen, h, hos', Output.isFailure]

/-- The parameters, the key material, the replay state and the state are those of
before. -/
structure Untouched (s t : SessionMembers) : Prop where
  params : t.params = s.params
  keys : t.keys = s.keys
  materialValid : t.materialValid = s.materialValid
  replay : t.replay = s.replay
  state : t.state = s.state

/-- The step can bring an inactive session back: a `start` that succeeds, or a `suspend`,
which has no guard, so that a `resume` may follow. -/
def revives (e : Event) : Bool :=
  match e.input.action with
  | .start .. => succeeded e
  | .suspend => true
  | _ => false

/-- **No longer active**: whatever is called and reported, and in whatever order, no handler
acts on the session until it is revived. -/
def StaysInactive (P : Platform) (x : System) : Prop :=
  ∀ tr t, (machine P).Run x tr t → (∀ e ∈ tr, revives e = false) →
    t.session.state.active = false

/-- What the failure of a call must not have changed; after a `start` that has changed
something, the session is no longer active. -/
def FailsAtomically (P : Platform) (e : Event) : Prop :=
  match e.input.action with
  | .start .. => e.post.session = e.pre.session ∨ StaysInactive P e.post
  | .resumeWithAnchor _ => Untouched e.pre.session e.post.session
  | _ => True

/-! ### Sessions that are no longer active -/

/-- Neither active nor suspended, and without a callback at whose end it would listen. -/
structure AtRest (x : System) : Prop where
  inactive : x.session.state.active = false
  notSuspended : x.session.state ≠ .suspended
  inCallback : x.inCallback = false

/-- It can be seen from the state. -/
instance : DecidablePred AtRest := fun x =>
  decidable_of_iff (x.session.state.active = false ∧ x.session.state ≠ .suspended ∧
    x.inCallback = false) ⟨fun h => ⟨h.1, h.2.1, h.2.2⟩, fun h => ⟨h.1, h.2, h.3⟩⟩

/-- Being at rest is a matter of the state and of the callback. -/
theorem AtRest.congr {x y : System} (h : AtRest x) (hstate : y.session.state = x.session.state)
    (hcb : y.inCallback = x.inCallback) : AtRest y :=
  ⟨hstate ▸ h.inactive, hstate ▸ h.notSuspended, hcb.trans h.inCallback⟩

/-- A session at rest stays there, unless it is revived. -/
theorem atRest_step {e : Event} (he : (machine P).Steps e) (hno : revives e = false)
    (h : AtRest e.pre) : AtRest e.post := by
  obtain ⟨henabled, c, hc, hpost, hout⟩ := served_of_steps he
  have hkeep (hstate : c.session.state = e.pre.session.state)
      (hc : c.inCallback = e.pre.inCallback) : AtRest e.post := by
    rw [hpost]
    exact h.congr hstate hc
  by_cases hevent : e.input.action.isRadioEvent = true
  · rcases hc.of_isRadioEvent hevent with rfl | hactive
    · exact hkeep rfl rfl
    · exact absurd (h.inactive.symm.trans hactive) Bool.false_ne_true
  cases hc with
  | ignored hev | abandoned hev => exact absurd hev hevent
  | rearmed ha | ineligible ha | unkeyed ha | bootstrapped ha | warmed ha | responded ha
  | late ha | transmitted ha | finalReceived ha | undelivered ha =>
    exact absurd (by rw [ha]; rfl) hevent
  | delivered h => exact absurd h.isRadioEvent hevent
  | callbackReturned ha =>
    rw [System.enabled, if_neg hevent, if_pos ha, h.inCallback] at henabled
    cases henabled
  | stopped =>
    rw [hpost]
    exact ⟨rfl, fun h => (by cases h), h.inCallback⟩
  | suspended ha => rw [revives, ha] at hno; cases hno
  | refused | startFailed | unconfigured => exact hkeep rfl rfl
  | resumed _ hstate | anchorFailed _ hstate | anchored _ hstate =>
    exact absurd hstate h.notSuspended
  | started ha =>
    have hok : succeeded e = true := decide_eq_true (by rw [hout]; simp)
    rw [revives, ha] at hno
    exact absurd (hno.symm.trans hok) Bool.false_ne_true

/-- A session that goes back to listening when it is not revived has not become inactive. -/
theorem not_staysInactive {x : System} {i : Input} (henabled : x.enabled i.action)
    (hno : ∀ e : Event, e.input = i → revives e = false)
    (hlistens : (serve P i (x.enter i)).session.state = .prePollListening) :
    ¬ StaysInactive P x := by
  intro h
  let e : Event := ⟨x, i, (serve P i (x.enter i)).outputs,
    ⟨(serve P i (x.enter i)).session, (serve P i (x.enter i)).inCallback⟩⟩
  have hinactive := h [e] e.post ⟨rfl, steps_iff.2 ⟨henabled, rfl, rfl⟩, rfl⟩
    fun e' he' => hno e' (by rw [List.mem_singleton.1 he'])
  rw [show e.post.session.state = _ from hlistens] at hinactive
  cases hinactive

/-- **The sessions that are no longer active are those at rest.** -/
theorem staysInactive_iff {x : System} : StaysInactive P x ↔ AtRest x := by
  constructor
  · intro h
    refine ⟨h [] x rfl (List.forall_mem_nil _), fun hstate => ?_, ?_⟩
    · refine not_staysInactive (i := ⟨.resume, {}⟩) rfl (fun e he => by rw [revives, he]) ?_ h
      have hlistens := unstashed_armPrePollListening (P := P) {} (x.enter ⟨.resume, {}⟩)
      have hnot : ¬ (x.enter ⟨.resume, {}⟩).session.state ≠ .suspended := not_not.2 hstate
      simp only [serve, resume, if_neg hnot]
      exact (listens_unstashed hlistens).1
    · by_contra hcb
      have hcb : x.inCallback = true := by simpa using hcb
      refine not_staysInactive (i := ⟨.callbackReturn, {}⟩) hcb (fun e he => by rw [revives, he])
        ?_ h
      exact (listens_unstashed (unstashed_armPrePollListening _ _)).1
  · intro h tr t hrun hno
    exact (hrun.invariant hno h fun e he hno hpre => atRest_step he hno hpre).inactive

/-! ### `resumeWithAnchor` -/

/-- The new anchor is the one there is, the material counts as missing already,
and up to the failure the same is derived again. -/
structure AnchorRepeats (P : Platform) (s : SessionMembers) (newStsIndex0 : StsIndex)
    (faults : Faults) : Prop where
  anchor : newStsIndex0 = s.params.stsIndex0
  materialValid : s.materialValid = false
  material : Rederives P.crypto s.ursk s.params s.keys faults

/-- A failed `resumeWithAnchor` is refused, or leaves the new anchor with what it
could derive. -/
theorem anchorFailure_cases {e : Event} (he : (machine P).Steps e) {newStsIndex0 : StsIndex}
    (haction : e.input.action = .resumeWithAnchor newStsIndex0) (hfailed : failed e = true) :
    e.pre.session.state ≠ .suspended ∧ e.post.session = e.pre.session ∨
      e.pre.session.state = .suspended ∧ ∃ keys err,
        (keys = e.pre.session.keys ↔ Rederives P.crypto e.pre.session.ursk
          { e.pre.session.params with stsIndex0 := newStsIndex0 } e.pre.session.keys
          e.input.env.faults) ∧
        e.post.session = { e.pre.session with
          params := { e.pre.session.params with stsIndex0 := newStsIndex0 }
          materialValid := false, keys, lastDeriveError := err } := by
  obtain ⟨-, hpost, hout⟩ := steps_iff.1 he
  let c := e.pre.enter e.input
  have hserve : serve P e.input c = resumeWithAnchor P e.input.env newStsIndex0 c := by
    unfold serve
    rw [haction]
  rw [hserve] at hpost hout
  unfold resumeWithAnchor at hpost hout
  by_cases hstate : c.session.state = .suspended
  swap
  · rw [if_pos hstate] at hpost
    exact Or.inl ⟨hstate, congrArg System.session hpost⟩
  refine Or.inr ⟨hstate, ?_⟩
  rw [if_neg (not_not.2 hstate)] at hpost hout
  let c₁ : Ctx := c.modify fun s =>
    { s with params := { s.params with stsIndex0 := newStsIndex0 }, materialValid := false }
  have hkeys := keys_deriveSessionMaterial_iff (P := P) (c := c₁)
  have hderived := materialDerived_deriveSessionMaterial (P := P) c₁
  have hc₁ : (c.modify fun s =>
    { s with params := { s.params with stsIndex0 := newStsIndex0 }, materialValid := false }) =
      c₁ := rfl
  dsimp only at hpost hout
  rw [hc₁] at hpost hout
  generalize deriveSessionMaterial P c₁ = d at hkeys hderived hpost hout
  cases hderived with
  | @failed keys err =>
    exact ⟨keys, err, hkeys, congrArg System.session hpost⟩
  | derived =>
    rw [if_neg (by simp)] at hout
    have hnot : e.output.any Output.isFailure = false := by
      rw [hout]
      exact not_failed_of_armed rfl
    exact absurd (hfailed.symm.trans hnot) (by decide)

/-- **A failed `resumeWithAnchor` leaves the session untouched when it is refused or repeats what
there is.** -/
theorem untouched_iff_of_anchorFailure {e : Event} (he : (machine P).Steps e)
    {newStsIndex0 : StsIndex} (haction : e.input.action = .resumeWithAnchor newStsIndex0)
    (hfailed : failed e = true) : Untouched e.pre.session e.post.session ↔
      e.pre.session.state ≠ .suspended ∨
        AnchorRepeats P e.pre.session newStsIndex0 e.input.env.faults := by
  rcases anchorFailure_cases he haction hfailed with
    ⟨hstate, hpost⟩ | ⟨hstate, keys, err, hkeys, hpost⟩
  · rw [hpost]
    exact iff_of_true ⟨rfl, rfl, rfl, rfl, rfl⟩ (Or.inl hstate)
  rw [hpost]
  constructor
  · rintro ⟨hparams, hsame, hvalid, -, -⟩
    have hanchor : newStsIndex0 = e.pre.session.params.stsIndex0 := congrArg (·.stsIndex0) hparams
    have hrederives := hkeys.1 hsame
    subst hanchor
    exact Or.inr ⟨rfl, hvalid.symm, hrederives⟩
  · rintro (hnot | ⟨rfl, hvalid, hrederives⟩)
    · exact absurd hstate hnot
    · exact ⟨rfl, hkeys.2 hrederives, hvalid.symm, rfl, rfl⟩

/-! ### `start` -/

/-- A session that has tracked nothing. -/
def Cleared (s : SessionMembers) : Prop := { clearTracking s with aoaStability := .new {} } = s

/-- The arguments are those there are, the same is derived again, up to the same
failure; and if the hardware is reached, the material counts as valid already and
nothing has been tracked. -/
structure StartRepeats (P : Platform) (s : SessionMembers) (ursk : Bytes 32)
    (params : RangingSessionParameters) (nodeConfig : SessionNodeConfig) (callback : Option ℕ)
    (faults : Faults) : Prop where
  arguments : (ursk, params, nodeConfig, callback) = (s.ursk, s.params, s.nodeConfig, s.callback)
  material : Rederives P.crypto ursk params s.keys faults
  error : ∀ err, (deriveKeyMaterial P.crypto ursk params faults).1 = .error err →
    err = s.lastDeriveError
  cleared : s.materialValid = true ∨
    (∃ keys, (deriveKeyMaterial P.crypto ursk params faults).1 = .ok keys) →
      s.materialValid = true ∧ Cleared s

/-- Where the hardware refuses, the session stays as it has been prepared. -/
theorem session_configureAndListen {env : Env} {c : Ctx}
    (hc : c.outputs.any Output.isFailure = false)
    (hfailed : (configureAndListen P env c).outputs.any Output.isFailure = true) :
    (configureAndListen P env c).session = c.session := by
  unfold configureAndListen at hfailed ⊢
  cases hphy : env.configurePhyError with
  | some err => rfl
  | none =>
    rw [hphy] at hfailed
    have hnot : (return' (.ok ()) (armPrePollListening P env ((c.command
        (.configurePhy (hwConfig c.session))).command (.setListener true)))).outputs.any
          Output.isFailure = false :=
      not_failed_of_armed (by simp [hc, Output.isFailure])
    exact absurd (hfailed.symm.trans hnot) (by decide)

/-- A failed `start` leaves its arguments and what it could derive, and if it has
reached the hardware, a session that has tracked nothing. -/
theorem startFailure_cases {e : Event} (he : (machine P).Steps e) {ursk : Bytes 32}
    {params : RangingSessionParameters} {nodeConfig : SessionNodeConfig} {callback : Option ℕ}
    (haction : e.input.action = .start ursk params nodeConfig callback)
    (hfailed : failed e = true) : ∃ keys err,
      (keys = e.pre.session.keys ↔
        Rederives P.crypto ursk params e.pre.session.keys e.input.env.faults) ∧
      (err = e.pre.session.lastDeriveError ↔
        ∀ err', (deriveKeyMaterial P.crypto ursk params e.input.env.faults).1 = .error err' →
          err' = e.pre.session.lastDeriveError) ∧
      ((e.pre.session.materialValid = false ∧
        (∃ err', (deriveKeyMaterial P.crypto ursk params e.input.env.faults).1 = .error err') ∧
        e.post.session = { e.pre.session with
          params, nodeConfig, callback, ursk, keys, lastDeriveError := err }) ∨
      ((e.pre.session.materialValid = true ∨
        ∃ keys', (deriveKeyMaterial P.crypto ursk params e.input.env.faults).1 = .ok keys') ∧
        e.post.session = e.pre.session.prepared ursk params nodeConfig callback keys err)) := by
  obtain ⟨-, hpost, hout⟩ := steps_iff.1 he
  let c := e.pre.enter e.input
  have hserve : serve P e.input c = start P e.input.env ursk params nodeConfig callback c := by
    unfold serve
    rw [haction]
  rw [hserve] at hpost hout
  unfold start at hpost hout
  let c₁ : Ctx := (c.command .forceReceiverOff).modify fun s =>
    { s with params, nodeConfig, callback, ursk }
  have hkeys := keys_deriveSessionMaterial_iff (P := P) (c := c₁)
  have hderived := materialDerived_deriveSessionMaterial (P := P) c₁
  have hc₁ : ((c.command .forceReceiverOff).modify fun s =>
    { s with params, nodeConfig, callback, ursk }) = c₁ := rfl
  dsimp only at hpost hout
  rw [hc₁] at hpost hout
  generalize deriveSessionMaterial P c₁ = d at hkeys hderived hpost hout
  have hreached (hvalid : d.session.materialValid = true) : e.post.session =
      ({ clearTracking d.session with aoaStability := .new {} } : SessionMembers) := by
    rw [if_neg (by simp [hvalid])] at hpost hout
    rw [failed, hout] at hfailed
    rw [hpost]
    have hquiet : d.outputs.any Output.isFailure = false := by
      cases hderived <;> rfl
    exact session_configureAndListen hquiet hfailed
  cases hderived with
  | @failed keys err _ herr =>
    refine ⟨keys, err, hkeys, ⟨fun h err' herr' => ?_, fun h => h err herr⟩, ?_⟩
    · exact (Except.error.inj (herr'.symm.trans herr)).trans h
    · cases hvalid : e.pre.session.materialValid with
      | false =>
        have hnot : c₁.session.materialValid = false := hvalid
        rw [if_pos (by simp [hnot])] at hpost
        exact Or.inl ⟨rfl, ⟨err, herr⟩, congrArg System.session hpost⟩
      | true =>
        refine Or.inr ⟨Or.inl rfl, (hreached hvalid).trans ?_⟩
        have hpre : c₁.session.materialValid = true := hvalid
        simp only [SessionMembers.prepared]
        rw [← hpre]
        rfl
  | @derived keys _ hok =>
    refine ⟨keys, e.pre.session.lastDeriveError, hkeys, iff_of_true rfl fun err' herr => ?_, ?_⟩
    · cases (congrArg Prod.fst hok).symm.trans herr
    · exact Or.inr ⟨Or.inr ⟨keys, congrArg Prod.fst hok⟩, hreached rfl⟩

/-- A session that has been prepared has tracked nothing. -/
theorem cleared_of_prepared {s : SessionMembers} {ursk : Bytes 32}
    {params : RangingSessionParameters} {nodeConfig : SessionNodeConfig} {callback : Option ℕ}
    {keys : KeyMaterial} {err : StatusCode} :
    Cleared (s.prepared ursk params nodeConfig callback keys err) := rfl

/-- **A failed `start` changes nothing when it repeats what there is.** -/
theorem unchanged_iff_of_startFailure {e : Event} (he : (machine P).Steps e) {ursk : Bytes 32}
    {params : RangingSessionParameters} {nodeConfig : SessionNodeConfig} {callback : Option ℕ}
    (haction : e.input.action = .start ursk params nodeConfig callback)
    (hfailed : failed e = true) : e.post.session = e.pre.session ↔
      StartRepeats P e.pre.session ursk params nodeConfig callback e.input.env.faults := by
  obtain ⟨keys, err, hkeys, herr, hpost⟩ := startFailure_cases he haction hfailed
  constructor
  · intro hsame
    rcases hpost with ⟨hvalid, ⟨err', herror⟩, hpost⟩ | ⟨-, hpost⟩
    · have h := hpost.symm.trans hsame
      refine ⟨?_, hkeys.1 (congrArg (·.keys) h), herr.1 (congrArg (·.lastDeriveError) h), ?_⟩
      · exact congrArg (fun s => (s.ursk, s.params, s.nodeConfig, s.callback)) h
      · rintro (hv | ⟨keys', hok⟩)
        · exact absurd (hvalid.symm.trans hv) (by decide)
        · cases herror.symm.trans hok
    · have h := hpost.symm.trans hsame
      refine ⟨?_, hkeys.1 (congrArg (·.keys) h), herr.1 (congrArg (·.lastDeriveError) h), ?_⟩
      · exact congrArg (fun s => (s.ursk, s.params, s.nodeConfig, s.callback)) h
      · intro _
        have hcleared : Cleared e.pre.session := h ▸ cleared_of_prepared
        exact ⟨(congrArg (·.materialValid) h).symm, hcleared⟩
  · rintro ⟨harguments, hmaterial, herror, hcleared⟩
    simp only [Prod.mk.injEq] at harguments
    obtain ⟨rfl, rfl, rfl, rfl⟩ := harguments
    obtain rfl := hkeys.2 hmaterial
    obtain rfl := herr.2 herror
    rcases hpost with ⟨-, -, hpost⟩ | ⟨hready, hpost⟩
    · exact hpost
    · obtain ⟨hvalid, htracked⟩ := hcleared hready
      refine (hpost.trans ?_).trans htracked
      simp only [SessionMembers.prepared]
      rw [← hvalid]

/-! ### Every failed call -/

/-- When a failed call is atomic: `start` of a session that is at rest, or with
nothing new; `resumeWithAnchor` of a session that is not suspended, or with
nothing new. -/
def AtomicWhen (P : Platform) (e : Event) : Prop :=
  match e.input.action with
  | .start ursk params nodeConfig callback => AtRest e.pre ∨
    StartRepeats P e.pre.session ursk params nodeConfig callback e.input.env.faults
  | .resumeWithAnchor newStsIndex0 => e.pre.session.state ≠ .suspended ∨
    AnchorRepeats P e.pre.session newStsIndex0 e.input.env.faults
  | _ => True

/-- A failed `start` is at rest after it just when it was before. -/
theorem atRest_iff_of_startFailure {e : Event} (he : (machine P).Steps e) {ursk : Bytes 32}
    {params : RangingSessionParameters} {nodeConfig : SessionNodeConfig} {callback : Option ℕ}
    (haction : e.input.action = .start ursk params nodeConfig callback)
    (hfailed : failed e = true) : AtRest e.post ↔ AtRest e.pre := by
  have hstate : e.post.session.state = e.pre.session.state := by
    obtain ⟨_, _, -, -, ⟨-, -, hpost⟩ | ⟨-, hpost⟩⟩ := startFailure_cases he haction hfailed
    · rw [hpost]
    · rw [hpost]
      rfl
  have hcb : e.post.inCallback = e.pre.inCallback := by
    obtain ⟨-, c, hc, hpost, -⟩ := served_of_steps he
    rw [hpost]
    cases hc with
    | startFailed | unconfigured => rfl
    | started _ _ _ _ h =>
      obtain ⟨_, _, _, _, _, _, _, rfl, -, -⟩ := h.frame
      rfl
    | delivered h => exact absurd h.isRadioEvent (by rw [haction]; exact Bool.false_ne_true)
    | _ => simp_all [Action.isRadioEvent]
  exact ⟨fun h => h.congr hstate.symm hcb.symm, fun h => h.congr hstate hcb⟩

/-- **When a failed call is atomic**, for one step. -/
theorem atomic_iff_of_steps {e : Event} (he : (machine P).Steps e) (hfailed : failed e = true) :
    FailsAtomically P e ↔ AtomicWhen P e := by
  unfold FailsAtomically AtomicWhen
  cases haction : e.input.action with
  | start ursk params nodeConfig callback =>
    dsimp only
    rw [unchanged_iff_of_startFailure he haction hfailed, staysInactive_iff,
      atRest_iff_of_startFailure he haction hfailed, or_comm]
  | resumeWithAnchor newStsIndex0 => exact untouched_iff_of_anchorFailure he haction hfailed
  | _ => exact Iff.rfl

/-- **When failed control calls are atomic.**  In every run, a failed `start` or
`resumeWithAnchor` is atomic just when `AtomicWhen` says so. -/
theorem failed_calls_atomic_iff {filter : RangeConsensusFilter} {tr : List Event} {t : System}
    (hrun : (machine P).Run (System.initial filter) tr t) :
    ∀ e ∈ tr, failed e = true → (FailsAtomically P e ↔ AtomicWhen P e) := by
  intro e he hfailed
  obtain ⟨tr₁, tr₂, rfl⟩ := List.append_of_mem he
  exact atomic_iff_of_steps hrun.at_step.2.1 hfailed

/-- No provider call succeeds. -/
def allFail : Env := { faults := Stream'.const (some .cryptoOperationFailed) }

/-- A new anchor, which the crypto provider refuses. -/
def sampleReanchor : Input := ⟨.resumeWithAnchor 5, allFail⟩

/-- A start with other parameters, which the PHY refuses. -/
def sampleFailedStart : Input :=
  ⟨.start (Bytes.zero 32) { sampleParams with sessionId := 7 } {} none,
    { configurePhyError := some .transceiverError }⟩

/-- The hypotheses of `failed_calls_atomic_iff` are satisfiable: a suspended session is
refused a new anchor twice, the second time with nothing new, and after a stop its owner
cannot start it anew. -/
theorem failed_calls_atomic_iff_sample : ∃ tr t reanchor restart,
    (machine .sample).Run (System.initial {}) tr t ∧
      tr.map (·.input) = [sampleStart sampleParams {}, ⟨.suspend, {}⟩, sampleReanchor,
        sampleReanchor, ⟨.stop, {}⟩, sampleFailedStart] ∧
      reanchor ∈ tr ∧ reanchor.input.action = .resumeWithAnchor 5 ∧
      reanchor.pre.session.state = .suspended ∧ failed reanchor = true ∧
      FailsAtomically .sample reanchor ∧
      restart ∈ tr ∧ restart.input.action = sampleFailedStart.action ∧
      restart.post.session ≠ restart.pre.session ∧ failed restart = true ∧
      FailsAtomically .sample restart := by
  obtain ⟨tr, t, hrun, hin, h⟩ := Machine.exists_run_of_exec (M := machine .sample)
    (s := System.initial {}) (l := [sampleStart sampleParams {}, ⟨.suspend, {}⟩, sampleReanchor,
      sampleReanchor, ⟨.stop, {}⟩, sampleFailedStart])
    (p := fun tr _ => tr.any (fun e => failed e && decide
        (e.input.action = .resumeWithAnchor 5 ∧ e.pre.session.state = .suspended ∧
          e.pre.session.params.stsIndex0 = 5 ∧ e.pre.session.materialValid = false)) &&
      tr.any fun e => failed e && decide (e.input.action = sampleFailedStart.action ∧
        e.post.session ≠ e.pre.session ∧ AtRest e.pre)) (by decide +kernel)
  obtain ⟨hreanchor, hrestart⟩ := Bool.and_eq_true_iff.1 h
  obtain ⟨a, ha, h⟩ := List.any_eq_true.1 hreanchor
  obtain ⟨hfailed, h⟩ := Bool.and_eq_true_iff.1 h
  obtain ⟨haction, hstate, hanchor, hvalid⟩ := of_decide_eq_true h
  obtain ⟨b, hb, h⟩ := List.any_eq_true.1 hrestart
  obtain ⟨hfailed', h⟩ := Bool.and_eq_true_iff.1 h
  obtain ⟨haction', hchanged, hrest⟩ := of_decide_eq_true h
  refine ⟨tr, t, a, b, hrun, hin, ha, haction, hstate, hfailed, ?_,
    hb, haction', hchanged, hfailed', ?_⟩
  · refine (failed_calls_atomic_iff hrun a ha hfailed).2 ?_
    have hinput : a.input = sampleReanchor := by
      have hmem := List.mem_map_of_mem (f := (·.input)) ha
      rw [hin] at hmem
      simp only [List.mem_cons, List.not_mem_nil, or_false] at hmem
      rcases hmem with h | h | h | h | h | h <;>
        first | exact h | (rw [h] at haction; cases haction)
    unfold AtomicWhen
    rw [haction, hinput]
    -- the first derivation fails, and nothing has been stored
    exact Or.inr ⟨hanchor.symm, hvalid, trivial⟩
  · refine (failed_calls_atomic_iff hrun b hb hfailed').2 ?_
    unfold AtomicWhen
    rw [haction']
    exact Or.inl hrest

/-- A failed `start` with other parameters that leaves the session active, suspended or with
its callback running is not atomic. -/
theorem not_failsAtomically_of_start {e : Event} {ursk : Bytes 32}
    {params : RangingSessionParameters} {nodeConfig : SessionNodeConfig} {callback : Option ℕ}
    (haction : e.input.action = .start ursk params nodeConfig callback)
    (hparams : e.post.session.params ≠ e.pre.session.params) (hrest : ¬ AtRest e.post) :
    ¬ FailsAtomically P e := by
  unfold FailsAtomically
  rw [haction]
  rintro (hsame | hinactive)
  · exact hparams (congrArg (·.params) hsame)
  · exact hrest (staysInactive_iff.1 hinactive)

/-- **Failed calls that are not atomic.**  A suspended session is refused a new
anchor by the crypto provider, keeps it, and is resumed with it.  And a session that listens,
one that is suspended, or one that its callback has stopped, is started anew with a PHY that
cannot be configured, and in the end listens with the parameters of the failed call. -/
theorem failed_calls_not_atomic :
    (∃ tr t e, (machine .sample).Run (System.initial {}) tr t ∧
      tr.map (·.input) = [sampleStart sampleParams {}, ⟨.suspend, {}⟩, sampleReanchor,
        ⟨.resume, {}⟩] ∧
      e ∈ tr ∧ e.input.action = .resumeWithAnchor 5 ∧ failed e = true ∧
      ¬ FailsAtomically .sample e ∧
      t.session.state = .prePollListening ∧ t.session.params.stsIndex0 = 5) ∧
    ∀ l ∈ [[sampleStart sampleParams {}, sampleFailedStart],
        [sampleStart sampleParams {}, ⟨.suspend, {}⟩, sampleFailedStart, ⟨.resume, {}⟩],
        sampleStart sampleParams {} :: sampleExchange ++
          [⟨.stop, {}⟩, sampleFailedStart, ⟨.callbackReturn, {}⟩]],
      ∃ tr t e, (machine .sample).Run (System.initial {}) tr t ∧ tr.map (·.input) = l ∧
        e ∈ tr ∧ e.input.action = sampleFailedStart.action ∧ failed e = true ∧
        ¬ FailsAtomically .sample e ∧
        t.session.state = .prePollListening ∧ t.session.params.sessionId = 7 := by
  constructor
  · obtain ⟨tr, t, hrun, hin, h⟩ := Machine.exists_run_of_exec (M := machine .sample)
      (s := System.initial {}) (l := [sampleStart sampleParams {}, ⟨.suspend, {}⟩, sampleReanchor,
        ⟨.resume, {}⟩])
      (p := fun tr t => (tr.any fun e => failed e && decide
        (e.input.action = .resumeWithAnchor 5 ∧ e.post.session.params ≠ e.pre.session.params)) &&
        decide (t.session.state = .prePollListening ∧ t.session.params.stsIndex0 = 5))
      (by decide +kernel)
    obtain ⟨h, hend⟩ := Bool.and_eq_true_iff.1 h
    obtain ⟨e, he, h⟩ := List.any_eq_true.1 h
    obtain ⟨hfailed, h⟩ := Bool.and_eq_true_iff.1 h
    obtain ⟨haction, hparams⟩ := of_decide_eq_true h
    refine ⟨tr, t, e, hrun, hin, he, haction, hfailed, fun hatomic => ?_, of_decide_eq_true hend⟩
    unfold FailsAtomically at hatomic
    rw [haction] at hatomic
    exact hparams hatomic.params
  · intro l hl
    have hexec : ((machine .sample).exec (System.initial {}) l).any (fun r =>
        r.1.any (fun e => failed e && decide (e.input.action = sampleFailedStart.action ∧
          e.post.session.params ≠ e.pre.session.params ∧ ¬ AtRest e.post)) &&
        decide (r.2.session.state = .prePollListening ∧ r.2.session.params.sessionId = 7)) =
          true := by
      simp only [List.mem_cons, List.not_mem_nil, or_false] at hl
      rcases hl with rfl | rfl | rfl <;> decide +kernel
    obtain ⟨tr, t, hrun, hin, h⟩ := Machine.exists_run_of_exec (p := fun tr t =>
      tr.any (fun e => failed e && decide (e.input.action = sampleFailedStart.action ∧
          e.post.session.params ≠ e.pre.session.params ∧ ¬ AtRest e.post)) &&
        decide (t.session.state = .prePollListening ∧ t.session.params.sessionId = 7)) hexec
    obtain ⟨h, hend⟩ := Bool.and_eq_true_iff.1 h
    obtain ⟨e, he, h⟩ := List.any_eq_true.1 h
    obtain ⟨hfailed, h⟩ := Bool.and_eq_true_iff.1 h
    obtain ⟨haction, hparams, hrest⟩ := of_decide_eq_true h
    exact ⟨tr, t, e, hrun, hin, he, haction, hfailed,
      not_failsAtomically_of_start haction hparams hrest, of_decide_eq_true hend⟩

end Session
end AliroUwb
