/-
# Is `start` a clean slate?

`start` clears the filter, the counters and the validity of the keys, but not
`m_stashLen`: what a former session has stashed is processed by the
`armPrePollListening` at its end.  `start_is_clean_slate` proves that nothing
else of a former session matters: two sessions that are started alike, with no
stashed PrePoll that the new session accepts and with key material that could be
derived, have the same runs.  `stash_survives_start` is a session for which the
stash decides which commands the radio gets.
-/

import AliroUwb.Session.Residue

namespace AliroUwb
namespace Session

open Stepwise Crypto Protocol Ranging Transceiver

variable {P : Platform}

/-! ### The configuration of the filter -/

/-- No step changes the configuration of the filter. -/
theorem Served.filterConfig {i : Input} {c c' : Ctx} (h : Served P i c c') :
    c'.session.filter.config = c.session.filter.config := by
  have hunstashed {c₁ c₂ : Ctx} (h : Unstashed P c₁ c₂) :
      c₂.session.filter.config = c₁.session.filter.config := by
    obtain ⟨_, _, _, _, _, _, _, rfl, -, -⟩ := h.frame
    rfl
  cases h with
  | abandoned _ _ _ h | ineligible _ _ _ _ _ _ _ h | unkeyed _ _ _ _ _ _ _ h | late _ _ _ _ _ h
  | finalReceived _ _ h | callbackReturned _ h | resumed _ _ h | anchored _ _ _ _ h
  | started _ _ _ _ h =>
    have hkeep := hunstashed h
    exact hkeep
  | undelivered _ _ _ _ _ h hfilter => exact (hunstashed h).trans hfilter
  | bootstrapped _ _ _ _ _ _ _ _ h =>
    obtain ⟨_, _, _, rfl, -⟩ := h.frame
    rfl
  | delivered h =>
    cases h with
    | mk => exact RangeConsensusFilter.config_ingest ..
  | _ => rfl

/-- **A session keeps the filter it was constructed with**, up to its samples. -/
theorem filterConfig_of_run {filter : RangeConsensusFilter} {t : System} {tr : List Event}
    (h : (machine P).Run (System.initial filter) tr t) :
    t.session.filter.config = filter.config := by
  refine h.invariant (P := fun x => x.session.filter.config = filter.config)
    (G := fun _ => True) (fun _ _ => trivial) rfl fun e he _ hpre => ?_
  obtain ⟨-, c, hc, hpost, -⟩ := served_of_steps he
  rw [hpost]
  exact hc.filterConfig.trans hpre

/-! ### A clean start -/

/-- A start that derives its key material, in a session that has no PrePoll
stashed or one that a new session with this key material rejects. -/
def CleanStart (P : Platform) (s : SessionMembers) (env : Env) (ursk : Bytes 32)
    (params : RangingSessionParameters) : Prop :=
  ∃ keys faults, deriveKeyMaterial P.crypto ursk params env.faults = (.ok keys, faults) ∧
    (s.stashLen = 0 ∨
      ∃ e, (checkPrePollFrame P { params, keys } s.stashedFrame faults).1 = .error e)

/-- The session after a clean start. -/
def SessionMembers.startedClean (s : SessionMembers) (ursk : Bytes 32)
    (params : RangingSessionParameters) (nodeConfig : SessionNodeConfig) (callback : Option ℕ)
    (keys : KeyMaterial) : SessionMembers :=
  { s.prepared ursk params nodeConfig callback keys s.lastDeriveError with
    state := .prePollListening, stashLen := 0 }

/-- What a clean start puts out. -/
def startOutputs (env : Env) (config : TransceiverConfig) : List Output :=
  [.command .forceReceiverOff, .command (.configurePhy config), .command (.setListener true),
    .command .forceReceiverOff, .command (.configureStsMode .off),
    .command (.startImmediateRx 0 env.immediateRxStarts), .transition .prePollListening,
    .returned (.ok ())]

/-- Sessions that have received nothing yet check a PrePoll by their parameters
and keys. -/
theorem checkPrePollFrame_fresh {s t : SessionMembers} (frame : List UInt8)
    (hparams : t.params = s.params) (hkeys : t.keys = s.keys)
    (hs : s.replay.hasReceivedPrePollCounter = false ∧ s.replay.hasPrePollStsIndex = false)
    (ht : t.replay.hasReceivedPrePollCounter = false ∧ t.replay.hasPrePollStsIndex = false) :
    checkPrePollFrame P t frame = checkPrePollFrame P s frame := by
  unfold checkPrePollFrame
  simp only [hparams, hkeys, hs.1, hs.2, ht.1, ht.2, Bool.false_eq_true, false_and, if_false]

/-- A stash without a frame of use to the session is emptied, and that is all. -/
theorem processStashedPrePoll_of_useless {c : Ctx} (hwarm : c.session.warmValid = false)
    (hstash : c.session.stashLen = 0 ∨ ∃ e,
      (checkPrePollFrame P { c.session with stashLen := 0 } c.session.stashedFrame c.faults).1 =
        .error e) :
    ∃ faults, processStashedPrePoll P c =
      { c with session := { c.session with stashLen := 0 }, faults } := by
  rw [processStashedPrePoll_eq]
  by_cases hempty : c.session.stashLen = 0
  · rw [if_pos hempty, ← hempty]
    exact ⟨c.faults, rfl⟩
  · obtain ⟨e, hrejected⟩ := hstash.resolve_left hempty
    rw [if_neg hempty, ← hwarm]
    rcases hres : checkPrePollFrame P { c.session with stashLen := 0 } c.session.stashedFrame
      c.faults with ⟨_ | accepted, faults⟩
    · exact ⟨faults, rfl⟩
    · rw [hres] at hrejected
      cases hrejected

/-- **A clean start**, in one equation. -/
theorem start_eq {env : Env} {ursk : Bytes 32} {params : RangingSessionParameters}
    (nodeConfig : SessionNodeConfig) (callback : Option ℕ) {c : Ctx} {keys : KeyMaterial}
    {faults : Faults} (hphy : env.configurePhyError = none)
    (hkeys : deriveKeyMaterial P.crypto ursk params c.faults = (.ok keys, faults))
    (hstash : c.session.stashLen = 0 ∨
      ∃ e, (checkPrePollFrame P { params, keys } c.session.stashedFrame faults).1 = .error e) :
    ∃ faults', start P env ursk params nodeConfig callback c =
      { session := c.session.startedClean ursk params nodeConfig callback keys
        inCallback := c.inCallback, faults := faults'
        outputs := c.outputs ++
          startOutputs env (hwConfig { params := params, nodeConfig := nodeConfig }) } := by
  let c₁ : Ctx := (c.command .forceReceiverOff).modify fun s =>
    { s with params, nodeConfig, callback, ursk }
  let c₂ : Ctx := ({ c₁ with
      session := c.session.prepared ursk params nodeConfig callback keys c.session.lastDeriveError
      faults
      outputs := c.outputs ++ [.command .forceReceiverOff,
        .command (.configurePhy (hwConfig { params := params, nodeConfig := nodeConfig })),
        .command (.setListener true)] } : Ctx).listen env
  have hstart : start P env ursk params nodeConfig callback c =
      return' (.ok ()) (processStashedPrePoll P c₂) := by
    have h : start P env ursk params nodeConfig callback c =
        if !(deriveSessionMaterial P c₁).session.materialValid then
          return' (.error (deriveSessionMaterial P c₁).session.lastDeriveError)
            (deriveSessionMaterial P c₁)
        else configureAndListen P env ((deriveSessionMaterial P c₁).modify fun s =>
          { clearTracking s with aoaStability := .new {} }) := rfl
    rw [h, deriveSessionMaterial_of_ok (c := c₁) hkeys, if_neg (by simp)]
    unfold configureAndListen
    rw [hphy]
    dsimp only
    rw [armPrePollListening_eq]
    refine congrArg (fun c => return' (.ok ()) (processStashedPrePoll P (Ctx.listen env c))) ?_
    refine congrArg (Ctx.mk _ _ _) ?_
    simp only [Ctx.command, Ctx.emit, Ctx.modify, c₁, List.append_assoc, List.cons_append,
      List.nil_append]
    rfl
  have hcheck : checkPrePollFrame P { c₂.session with stashLen := 0 } c₂.session.stashedFrame =
      checkPrePollFrame P { params, keys } c.session.stashedFrame :=
    checkPrePollFrame_fresh _ rfl rfl ⟨rfl, rfl⟩ ⟨rfl, rfl⟩
  have houtputs : c₂.outputs ++ [.returned (.ok ())] = c.outputs ++
      startOutputs env (hwConfig { params := params, nodeConfig := nodeConfig }) := by
    simp only [c₂, Ctx.listen, startOutputs, List.append_assoc, List.cons_append, List.nil_append]
  rw [← hcheck] at hstash
  obtain ⟨faults', hunstashed⟩ := processStashedPrePoll_of_useless (P := P) (c := c₂) rfl hstash
  rw [hstart, hunstashed, ← houtputs]
  exact ⟨faults', rfl⟩

/-- The same start brings two sessions with filters of one configuration to
states alike. -/
theorem alikeSystems_startedClean {s₁ s₂ : SessionMembers} {inCallback : Bool} {ursk : Bytes 32}
    {params : RangingSessionParameters} {nodeConfig : SessionNodeConfig} {callback : Option ℕ}
    {keys : KeyMaterial} (hfilter : s₂.filter.config = s₁.filter.config) :
    AlikeSystems ⟨s₁.startedClean ursk params nodeConfig callback keys, inCallback⟩
      ⟨s₂.startedClean ursk params nodeConfig callback keys, inCallback⟩ := by
  refine ⟨(s₂.startedClean ursk params nodeConfig callback keys).residue, ?_,
    Hidden.permitted ⟨(nomatch ·), rfl, (nomatch ·), (nomatch ·), (nomatch ·)⟩ rfl⟩
  have hreset : s₂.filter.reset = s₁.filter.reset := by
    rw [RangeConsensusFilter.reset_eq, RangeConsensusFilter.reset_eq, hfilter]
  simp only [SessionMembers.startedClean, SessionMembers.prepared, clearTracking, hreset]
  rfl

/-- What a successful clean start has done. -/
theorem post_of_cleanStart {e : Event} {ursk : Bytes 32} {params : RangingSessionParameters}
    {nodeConfig : SessionNodeConfig} {callback : Option ℕ} (he : (machine P).Steps e)
    (hstart : e.input.action = .start ursk params nodeConfig callback) (hok : succeeded e)
    (hclean : CleanStart P e.pre.session e.input.env ursk params) : ∃ keys faults,
    deriveKeyMaterial P.crypto ursk params e.input.env.faults = (.ok keys, faults) ∧
      e.post = ⟨e.pre.session.startedClean ursk params nodeConfig callback keys,
        e.pre.inCallback⟩ ∧
      e.output = startOutputs e.input.env
        (hwConfig { params := params, nodeConfig := nodeConfig }) := by
  obtain ⟨-, -, -, -, -, hphy, -⟩ := started_of_succeeded he hstart hok
  obtain ⟨keys, faults, hkeys, hstash⟩ := hclean
  obtain ⟨-, hpost, hout⟩ := steps_iff.1 he
  have hserve : serve P e.input (e.pre.enter e.input) =
      start P e.input.env ursk params nodeConfig callback (e.pre.enter e.input) := by
    unfold serve
    rw [hstart]
  obtain ⟨faults', hstarted⟩ := start_eq (P := P) (c := e.pre.enter e.input) nodeConfig callback
    hphy hkeys hstash
  rw [hserve, hstarted] at hpost hout
  exact ⟨keys, faults, hkeys, hpost, hout⟩

/-- **`start` is a clean slate**, if it derives its key material and finds no
stashed PrePoll that the new session accepts.  Whatever two sessions over the
same filter have gone through, if the same `start` succeeds on both, both outside
or both inside of their callbacks, it puts out the same; and every run that
follows on the one is matched by a run that follows on the other, with the same
inputs and the same outputs. -/
theorem start_is_clean_slate {filter : RangeConsensusFilter} {tr₁ tr₂ tr : List Event}
    {e₁ e₂ : Event} {t t₂ : System}
    (h₁ : (machine P).Run (System.initial filter) (tr₁ ++ e₁ :: tr) t)
    (h₂ : (machine P).Run (System.initial filter) (tr₂ ++ [e₂]) t₂)
    {ursk : Bytes 32} {params : RangingSessionParameters} {nodeConfig : SessionNodeConfig}
    {callback : Option ℕ} (hstart : e₁.input.action = .start ursk params nodeConfig callback)
    (hinput : e₂.input = e₁.input) (hok₁ : succeeded e₁ = true) (hok₂ : succeeded e₂ = true)
    (hcallback : e₂.pre.inCallback = e₁.pre.inCallback)
    (hclean₁ : CleanStart P e₁.pre.session e₁.input.env ursk params)
    (hclean₂ : CleanStart P e₂.pre.session e₁.input.env ursk params) :
    e₂.output = e₁.output ∧
      ∃ tr' t', (machine P).Run (System.initial filter) (tr₂ ++ e₂ :: tr') t' ∧
        tr'.map (·.input) = tr.map (·.input) ∧ tr'.map (·.output) = tr.map (·.output) := by
  obtain ⟨hrun₁, he₁, hrest⟩ := h₁.at_step
  obtain ⟨hrun₂, he₂, -⟩ := h₂.at_step
  obtain ⟨keys, faults, hkeys, hpost₁, hout₁⟩ := post_of_cleanStart he₁ hstart hok₁ hclean₁
  obtain ⟨keys', faults', hkeys', hpost₂, hout₂⟩ := post_of_cleanStart he₂
    (by rw [hinput]; exact hstart) hok₂ (by rw [hinput]; exact hclean₂)
  rw [hinput] at hkeys' hout₂
  obtain ⟨hk, -⟩ := Prod.mk.inj (hkeys.symm.trans hkeys')
  obtain rfl := Except.ok.inj hk
  have hfilter : e₂.pre.session.filter.config = e₁.pre.session.filter.config :=
    (filterConfig_of_run hrun₂).trans (filterConfig_of_run hrun₁).symm
  have halike : AlikeSystems e₁.post e₂.post := by
    rw [hpost₁, hpost₂, hcallback]
    exact alikeSystems_startedClean hfilter
  obtain ⟨tr', t', hrun', hin, hout⟩ := halike.run hrest
  refine ⟨hout₂.trans hout₁.symm, tr', t', ?_, hin, hout⟩
  exact Machine.run_append.2 ⟨e₂.pre, hrun₂, rfl, he₂, hrun'⟩

/-- The start of the session that is looked at. -/
def sampleRestart : Input := sampleStart sampleParams {}

/-- A session that has run and is stopped. -/
def stoppedSession : List Input :=
  [sampleStart sampleParams {}, samplePrePoll 1 { pollStsIndex := 1 }, ⟨.stop, {}⟩]

/-- The key material and the stash of `e` make it a clean start. -/
def startsAfresh (e : Event) : Bool := succeeded e && decide (e.pre.session.stashLen = 0) &&
  !e.pre.inCallback

/-- A start that passes the test is a clean one. -/
theorem cleanStart_of_startsAfresh {e : Event} (h : startsAfresh e = true) :
    succeeded e = true ∧ e.pre.inCallback = false ∧
      CleanStart .sample e.pre.session sampleRestart.env (Bytes.zero 32) sampleParams := by
  simp only [startsAfresh, Bool.and_eq_true, decide_eq_true_eq, Bool.not_eq_true'] at h
  obtain ⟨⟨hok, hstash⟩, hcallback⟩ := h
  obtain ⟨keys, hkeys⟩ := deriveKeyMaterial_noFaults Platform.sample.crypto (Bytes.zero 32)
    sampleParams
  exact ⟨hok, hcallback, keys, noFaults, hkeys, Or.inl hstash⟩

/-- A new session and one that is started again after a stop. -/
theorem start_is_clean_slate_sample : ∃ tr t,
    (machine .sample).Run (System.initial {}) tr t ∧
      tr.map (·.input) =
        stoppedSession ++ [sampleRestart, samplePrePoll 1 { pollStsIndex := 1 }] := by
  obtain ⟨tr₁, t, hrun₁, hin₁, h₁⟩ := Machine.exists_run_of_exec (M := machine .sample)
    (s := System.initial {}) (l := [sampleRestart, samplePrePoll 1 { pollStsIndex := 1 }])
    (p := fun tr _ => tr.head?.any startsAfresh) (by decide +kernel)
  obtain ⟨tr₂, t₂, hrun₂, hin₂, h₂⟩ := Machine.exists_run_of_exec (M := machine .sample)
    (s := System.initial {}) (l := stoppedSession ++ [sampleRestart])
    (p := fun tr _ => tr.getLast?.any startsAfresh) (by decide +kernel)
  obtain ⟨e₁, tr, rfl, hi₁, hi⟩ := List.map_eq_cons_iff.1 hin₁
  obtain ⟨tr₂, _, rfl, hstopped, hrestart⟩ := List.map_eq_append_iff.1 hin₂
  obtain ⟨e₂, _, rfl, hi₂, hnil⟩ := List.map_eq_cons_iff.1 hrestart
  obtain rfl := List.map_eq_nil_iff.1 hnil
  obtain ⟨hok₁, hcb₁, hclean₁⟩ := cleanStart_of_startsAfresh (e := e₁) h₁
  obtain ⟨hok₂, hcb₂, hclean₂⟩ := cleanStart_of_startsAfresh (e := e₂)
    (by simpa using h₂)
  have hrun₁ : (machine .sample).Run (System.initial {}) ([] ++ e₁ :: tr) t := hrun₁
  obtain ⟨-, tr', t', hrun, hin, -⟩ := start_is_clean_slate hrun₁ hrun₂
    (by rw [hi₁]; rfl) (hi₂.trans hi₁.symm) hok₁ hok₂ (hcb₂.trans hcb₁.symm)
    (by rw [hi₁]; exact hclean₁) (by rw [hi₁]; exact hclean₂)
  refine ⟨_, t', hrun, ?_⟩
  rw [List.map_append, List.map_cons, hstopped, hi₂, hin, hi]

/-- A session that is suspended with the PrePoll of block 1 in its stash. -/
def stashingSession : List Input :=
  [sampleStart sampleParams {}, samplePrePoll 1 { pollStsIndex := 1 }, ⟨.rxTimeout, {}⟩,
    samplePrePoll 2 { pollStsIndex := 97, rangingBlock := 1 }, ⟨.suspend, {}⟩]

/-- The step turns the receiver off. -/
def turnsReceiverOff (e : Event) : Bool := decide (.command .forceReceiverOff ∈ e.output)

/-- **The stash survives `start`.**  In a new session the first PrePoll is decoded,
and the receiver turned off for it; where the former session was suspended with a
PrePoll in its stash, this PrePoll is accepted by the new one, which then arms the
keys it predicts from it, unseen and with the receiver left as it is. -/
theorem stash_survives_start : ∃ (tr₂ : List Event) (e₁ e₁' e₂ e₂' : Event) (t₁ t₂ : System),
    (machine .sample).Run (System.initial {}) [e₁, e₁'] t₁ ∧
      (machine .sample).Run (System.initial {}) (tr₂ ++ [e₂, e₂']) t₂ ∧
      tr₂.map (·.input) = stashingSession ∧
      e₁.input = sampleRestart ∧ e₂.input = sampleRestart ∧
      (succeeded e₁ = true ∧ e₁.pre.inCallback = false) ∧
      (succeeded e₂ = true ∧ e₂.pre.inCallback = false) ∧
      e₁'.input = samplePrePoll 1 { pollStsIndex := 1 } ∧
      e₂'.input = samplePrePoll 1 { pollStsIndex := 1 } ∧
      turnsReceiverOff e₁' = true ∧ turnsReceiverOff e₂' = false := by
  obtain ⟨tr₁, t₁, hrun₁, hin₁, h₁⟩ := Machine.exists_run_of_exec (M := machine .sample)
    (s := System.initial {}) (l := [sampleRestart, samplePrePoll 1 { pollStsIndex := 1 }])
    (p := fun tr _ => tr.head?.any (fun e => succeeded e && !e.pre.inCallback) &&
      tr.getLast?.any turnsReceiverOff) (by decide +kernel)
  obtain ⟨tr₂, t₂, hrun₂, hin₂, h₂⟩ := Machine.exists_run_of_exec (M := machine .sample)
    (s := System.initial {})
    (l := stashingSession ++ [sampleRestart, samplePrePoll 1 { pollStsIndex := 1 }])
    (p := fun tr _ => tr.dropLast.getLast?.any (fun e => succeeded e && !e.pre.inCallback) &&
      tr.getLast?.any (!turnsReceiverOff ·)) (by decide +kernel)
  obtain ⟨e₁, _, rfl, hi₁, hi⟩ := List.map_eq_cons_iff.1 hin₁
  obtain ⟨e₁', _, rfl, hi₁', hnil⟩ := List.map_eq_cons_iff.1 hi
  obtain rfl := List.map_eq_nil_iff.1 hnil
  obtain ⟨tr₂, _, rfl, hstash, hi⟩ := List.map_eq_append_iff.1 hin₂
  obtain ⟨e₂, _, rfl, hi₂, hi⟩ := List.map_eq_cons_iff.1 hi
  obtain ⟨e₂', _, rfl, hi₂', hnil⟩ := List.map_eq_cons_iff.1 hi
  obtain rfl := List.map_eq_nil_iff.1 hnil
  simp only [List.head?_cons, List.getLast?_cons_cons, List.getLast?_singleton,
    List.getLast?_append_cons, List.dropLast_append_cons, List.dropLast_cons_cons,
    List.dropLast_singleton, Option.any_some, Bool.and_eq_true, Bool.not_eq_true'] at h₁ h₂
  exact ⟨tr₂, e₁, e₁', e₂, e₂', t₁, t₂, hrun₁, hrun₂, hstash, hi₁, hi₂, h₁.1, h₂.1, hi₁', hi₂',
    h₁.2, h₂.2⟩

end Session
end AliroUwb
