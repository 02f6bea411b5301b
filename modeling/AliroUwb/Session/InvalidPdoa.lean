/-
# Invalid phase readings

The driver says of each phase difference whether it is valid; it is garbage unless
the STS correlation has locked.  A Final stores both, the reading and its validity,
and the evaluation of the FinalData takes the reading only.

Two runs are compared here whose inputs differ in invalid readings.  As long as no
distance is evaluated, with angles enabled, after a Final whose reading was
invalid, they cannot be told apart (`outputs_eq_of_invalid_pdoa`): a session with
another reading in its measurement (`withPdoaRaw`) does what the session does.
-/

import AliroUwb.Session.Residue
import AliroUwb.Session.Trust

namespace AliroUwb
namespace Session

open Stepwise Crypto Protocol Ranging Transceiver

variable {P : Platform} {env : Env} {c c' : Ctx} {raw : Int16}

/-- The session with another phase reading of its Final. -/
def SessionMembers.withPdoaRaw (s : SessionMembers) (raw : Int16) : SessionMembers :=
  { s with measurement := { s.measurement with finalPdoaRaw := raw } }

/-- The contexts are one but for the phase reading, which is `raw` in the second. -/
def Reread (raw : Int16) (c c' : Ctx) : Prop :=
  c' = { c with session := c.session.withPdoaRaw raw }

/-! ### Where the reading is not looked at -/

/-- Both contexts take the same branch. -/
theorem reread_ite {p q : Prop} [Decidable p] [Decidable q] {a b a' b' : Ctx} (hpq : q ↔ p)
    (ha : p → Reread raw a a') (hb : ¬p → Reread raw b b') :
    Reread raw (if p then a else b) (if q then a' else b') := by
  by_cases h : p
  · rw [if_pos h, if_pos (hpq.2 h)]
    exact ha h
  · rw [if_neg h, if_neg (mt hpq.1 h)]
    exact hb h

/-- The warm keys are refreshed alike. -/
theorem reread_refreshWarmKeys (h : Reread raw c c') :
    Reread raw (refreshWarmKeys P c) (refreshWarmKeys P c') := by
  obtain rfl := h
  have hkeys : deriveCycleKeys P (c.session.withPdoaRaw raw) = deriveCycleKeys P c.session := rfl
  unfold refreshWarmKeys
  dsimp only [Ctx.run]
  rw [hkeys]
  dsimp only [SessionMembers.withPdoaRaw]
  cases nextScheduledExchange c.session.params c.session.currentBlock c.session.currentRound with
  | none => rfl
  | some next =>
    dsimp only
    rcases deriveCycleKeys P c.session (pollStsIndexFor c.session.params next.1 next.2)
      c.session.warm c.faults with ⟨⟨e | ⟨⟩, warm⟩, f⟩ <;> rfl

/-- A stashed PrePoll is decoded alike. -/
theorem reread_processStashedPrePoll (h : Reread raw c c') :
    Reread raw (processStashedPrePoll P c) (processStashedPrePoll P c') := by
  obtain rfl := h
  have hcheck : checkPrePollFrame P { c.session.withPdoaRaw raw with stashLen := 0 } =
      checkPrePollFrame P { c.session with stashLen := 0 } := rfl
  have hframe : (c.session.withPdoaRaw raw).stashedFrame = c.session.stashedFrame := rfl
  rw [processStashedPrePoll_eq, processStashedPrePoll_eq]
  refine reread_ite Iff.rfl (fun _ => rfl) fun _ => ?_
  dsimp only
  rw [hcheck, hframe]
  rcases checkPrePollFrame P { c.session with stashLen := 0 } c.session.stashedFrame c.faults with
    ⟨e | ⟨mhr, prePoll⟩, f⟩
  · rfl
  · exact reread_ite Iff.rfl (fun _ => reread_refreshWarmKeys rfl) fun _ => rfl

/-- The session goes back to listening alike. -/
theorem reread_armPrePollListening (h : Reread raw c c') :
    Reread raw (armPrePollListening P env c) (armPrePollListening P env c') := by
  obtain rfl := h
  rw [armPrePollListening_eq, armPrePollListening_eq]
  exact reread_processStashedPrePoll rfl

/-! ### The exchange -/

/-- The warm path arms the same exchange. -/
theorem reread_armWarm {event : RxSuccessEvent} {frame : List UInt8} (h : Reread raw c c') :
    Reread raw (armWarm env event frame c) (armWarm env event frame c') := by
  obtain rfl := h
  unfold armWarm
  simp only [startRx_eq]
  exact reread_ite Iff.rfl (fun _ => rfl) fun _ => rfl

/-- For an accepted PrePoll the same exchange is armed. -/
theorem reread_armExchange {event : RxSuccessEvent} {prePoll : PrePollPayload}
    (h : Reread raw c c') :
    Reread raw (armExchange P env event prePoll c) (armExchange P env event prePoll c') := by
  obtain rfl := h
  have hkeys : deriveCycleKeys P (c.session.withPdoaRaw raw) prePoll.pollStsIndex
      (c.session.withPdoaRaw raw).armed =
      deriveCycleKeys P c.session prePoll.pollStsIndex c.session.armed := rfl
  unfold armExchange
  dsimp only [Ctx.run, Ctx.session_command, Ctx.faults_command]
  rw [hkeys]
  rcases deriveCycleKeys P c.session prePoll.pollStsIndex c.session.armed c.faults with
    ⟨⟨e | ⟨⟩, armed⟩, f⟩
  · exact reread_armPrePollListening rfl
  · simp only [startRx_eq]
    exact reread_refreshWarmKeys rfl

/-- The bootstrap path accepts the same PrePoll, and arms the same exchange. -/
theorem reread_armBootstrap {event : RxSuccessEvent} {frame : List UInt8} (h : Reread raw c c') :
    Reread raw (armBootstrap P env event frame c) (armBootstrap P env event frame c') := by
  obtain rfl := h
  have hcheck : checkPrePollFrame P (c.session.withPdoaRaw raw) = checkPrePollFrame P c.session :=
    rfl
  unfold armBootstrap
  rw [decodePrePollFrame_eq, decodePrePollFrame_eq]
  dsimp only
  rw [hcheck]
  rcases checkPrePollFrame P c.session frame c.faults with ⟨e | ⟨mhr, prePoll⟩, f⟩
  · exact reread_armPrePollListening rfl
  · exact reread_ite Iff.rfl (fun _ => reread_armPrePollListening rfl)
      fun _ => reread_armExchange rfl

/-- The reception of a PrePoll does not look at the reading. -/
theorem reread_handlePrePollReception {event : RxSuccessEvent} (h : Reread raw c c') :
    Reread raw (handlePrePollReception P env event c) (handlePrePollReception P env event c') := by
  obtain rfl := h
  rw [handlePrePollReception_eq, handlePrePollReception_eq]
  cases receivedFrame env with
  | none => exact reread_armPrePollListening rfl
  | some frame =>
    exact reread_ite Iff.rfl (fun _ => reread_armWarm rfl) fun _ => reread_armBootstrap rfl

/-- The reception of a Poll does not look at the reading. -/
theorem reread_handlePollReception {event : RxSuccessEvent} (h : Reread raw c c') :
    Reread raw (handlePollReception P env event c) (handlePollReception P env event c') := by
  obtain rfl := h
  unfold handlePollReception
  refine reread_ite Iff.rfl (fun _ => reread_armPrePollListening rfl) fun _ => ?_
  refine reread_ite Iff.rfl (fun _ => reread_armPrePollListening rfl) fun _ => ?_
  exact reread_ite Iff.rfl (fun _ => rfl) fun _ => reread_armPrePollListening rfl

/-- The end of the transmission does not look at the reading. -/
theorem reread_onTxComplete (h : Reread raw c c') :
    Reread raw (onTxComplete P env c) (onTxComplete P env c') := by
  obtain rfl := h
  unfold onTxComplete
  simp only [startRx_eq]
  refine reread_ite Iff.rfl (fun _ => ?_) fun _ => rfl
  exact reread_ite Iff.rfl (fun _ => reread_armPrePollListening rfl) fun _ => rfl

/-- **A Final stores the reading of its event**, whatever was there before. -/
theorem reread_handleFinalReception {event : RxSuccessEvent} {raw' : Int16}
    (h : Reread raw c c') : Reread raw' (handleFinalReception P env event c)
      (handleFinalReception P env { event with pdoaRaw := raw' } c') := by
  obtain rfl := h
  unfold handleFinalReception
  simp only [startRx_eq]
  exact reread_processStashedPrePoll rfl

/-! ### The FinalData -/

/-- Without angles a distance is evaluated without the reading. -/
theorem reread_evaluateDistance {distance : DistanceMm} (h : Reread raw c c')
    (hangle : c.session.nodeConfig.enableAoA = false) :
    Reread raw (evaluateDistance P env distance c) (evaluateDistance P env distance c') := by
  obtain rfl := h
  have haoa : measuredAoa P (c.session.withPdoaRaw raw) = measuredAoa P c.session := by
    have hangle' : (c.session.withPdoaRaw raw).nodeConfig.enableAoA = false := hangle
    rw [measuredAoa, measuredAoa, hangle, hangle']
    rfl
  have hstability : nextStability P (c.session.withPdoaRaw raw) = nextStability P c.session := by
    rw [nextStability, nextStability, haoa]
    rfl
  have hevaluated : (c.session.withPdoaRaw raw).evaluated P distance =
      (c.session.evaluated P distance).withPdoaRaw raw := by
    rw [SessionMembers.evaluated, SessionMembers.evaluated, hstability]
    rfl
  have hresult : rangingResult P env (c.session.withPdoaRaw raw) distance =
      rangingResult P env c.session distance := by
    rw [rangingResult, rangingResult, integrityReport, integrityReport, haoa, hstability]
    rfl
  have hcallback : (c.session.withPdoaRaw raw).callback = c.session.callback := rfl
  rw [evaluateDistance_eq, evaluateDistance_eq, hevaluated, hresult]
  dsimp only
  rw [hcallback]
  cases c.session.callback with
  | none => exact reread_armPrePollListening rfl
  | some callback => rfl

/-- The evaluation looks at the reading only where there is a distance and angles are enabled. -/
theorem reread_evaluateFinalData {finalData : FinalDataPayload} (h : Reread raw c c')
    (hangle : yields c.session finalData ≠ none → c.session.nodeConfig.enableAoA = false) :
    Reread raw (evaluateFinalData P env finalData c) (evaluateFinalData P env finalData c') := by
  obtain rfl := h
  unfold evaluateFinalData
  unfold yields at hangle
  by_cases hsts : finalData.finalStsIndex = expectedFinalSts c.session
  swap
  · rw [if_pos hsts, if_pos (show finalData.finalStsIndex ≠
      expectedFinalSts (c.session.withPdoaRaw raw) from hsts)]
    exact reread_armPrePollListening rfl
  rw [if_neg (not_not.2 hsts), if_neg (show ¬ finalData.finalStsIndex ≠
      expectedFinalSts (c.session.withPdoaRaw raw) from not_not.2 hsts)]
  rw [if_neg (not_not.2 hsts)] at hangle
  have hown : ownReport (c.session.withPdoaRaw raw) finalData = ownReport c.session finalData := rfl
  dsimp only
  rw [hown]
  cases hreport : ownReport c.session finalData with
  | none => exact reread_armPrePollListening rfl
  | some report =>
    have hcalculate : calculateDistance
        (dsTwrTimestamps (c.session.withPdoaRaw raw).measurement finalData report)
        (c.session.withPdoaRaw raw).nodeConfig.antennaDelayBias =
      calculateDistance (dsTwrTimestamps c.session.measurement finalData report)
        c.session.nodeConfig.antennaDelayBias := rfl
    rw [hreport] at hangle
    dsimp only at hangle ⊢
    rw [hcalculate]
    cases hdistance : calculateDistance (dsTwrTimestamps c.session.measurement finalData report)
      c.session.nodeConfig.antennaDelayBias with
    | error e => exact reread_armPrePollListening rfl
    | ok distance =>
      rw [hdistance] at hangle
      exact reread_evaluateDistance rfl (hangle (by simp))

/-- The reception of a FinalData looks at the reading only where a distance is evaluated and
angles are enabled. -/
theorem reread_handleFinalDataReception (h : Reread raw c c') (hfaults : c.faults = env.faults)
    (hangle : evaluatedDistance P c.session env ≠ none → c.session.nodeConfig.enableAoA = false) :
    Reread raw (handleFinalDataReception P env c) (handleFinalDataReception P env c') := by
  obtain rfl := h
  rw [handleFinalDataReception_eq, handleFinalDataReception_eq]
  unfold evaluatedDistance at hangle
  cases hframe : receivedFrame env with
  | none => exact reread_armPrePollListening rfl
  | some frame =>
    rw [hframe] at hangle
    let c' : Ctx := { c with session := c.session.withPdoaRaw raw }
    have hcheck : checkFinalDataFrame P (c.readRx env).session frame (c.readRx env).faults =
        checkFinalDataFrame P c.session frame c.faults := rfl
    have hcheck' : checkFinalDataFrame P (c'.readRx env).session frame (c'.readRx env).faults =
        checkFinalDataFrame P c.session frame c.faults := rfl
    dsimp only at hangle ⊢
    unfold handleFinalDataFrame
    dsimp only [Ctx.run]
    rw [hcheck, hcheck', hfaults]
    rcases hres : checkFinalDataFrame P c.session frame env.faults with ⟨e | ⟨mhr, finalData⟩, f⟩
    · exact reread_armPrePollListening rfl
    · rw [hres] at hangle
      exact reread_evaluateFinalData rfl hangle

/-! ### Radio events and control calls -/

/-- A timeout is served alike. -/
theorem reread_onRxTimeout (h : Reread raw c c') :
    Reread raw (onRxTimeout P env c) (onRxTimeout P env c') := by
  obtain rfl := h
  have hstate : (c.session.withPdoaRaw raw).state = c.session.state := rfl
  unfold onRxTimeout
  dsimp only
  rw [hstate]
  cases c.session.state with
  | idle | uninitialized | suspended | prePollListening => rfl
  | _ => exact reread_armPrePollListening rfl

/-- An error is served alike. -/
theorem reread_onRxError (h : Reread raw c c') :
    Reread raw (onRxError P env c) (onRxError P env c') := by
  obtain rfl := h
  have hstate : (c.session.withPdoaRaw raw).state = c.session.state := rfl
  unfold onRxError
  dsimp only
  rw [hstate]
  cases c.session.state with
  | idle | uninitialized | suspended => rfl
  | _ => exact reread_armPrePollListening rfl

/-- The call returns the same. -/
theorem reread_return' (h : Reread raw c c') (res : Except StatusCode Unit) :
    Reread raw (return' res c) (return' res c') := by
  obtain rfl := h
  rfl

/-- One step of the derivation stores the same. -/
theorem reread_derive {α : Type} {x : CryptoM α} {store : α → KeyMaterial → KeyMaterial}
    {next : Ctx → Ctx} (hnext : ∀ {c c'}, Reread raw c c' → Reread raw (next c) (next c'))
    (h : Reread raw c c') : Reread raw (derive x store next c) (derive x store next c') := by
  obtain rfl := h
  unfold derive
  dsimp only [Ctx.run]
  rcases x c.faults with ⟨e | a, faults⟩
  · rfl
  · exact hnext rfl

/-- The same key material is derived. -/
theorem reread_deriveSessionMaterial (h : Reread raw c c') :
    Reread raw (deriveSessionMaterial P c) (deriveSessionMaterial P c') := by
  obtain rfl := h
  unfold deriveSessionMaterial
  refine reread_derive (fun h => ?_) rfl
  refine reread_derive (fun h => ?_) h
  refine reread_derive (fun h => ?_) h
  refine reread_derive (fun h => ?_) h
  obtain rfl := h
  refine reread_derive (fun h => ?_) rfl
  obtain rfl := h
  rfl

/-- What a control call does after its derivation. -/
theorem reread_derived {f : Ctx → Ctx}
    (hf : ∀ {c c'}, Reread raw c c' → Reread raw (f c) (f c')) (h : Reread raw c c') :
    Reread raw (if !c.session.materialValid then return' (.error c.session.lastDeriveError) c
        else f c)
      (if !c'.session.materialValid then return' (.error c'.session.lastDeriveError) c'
        else f c') := by
  obtain rfl := h
  exact reread_ite Iff.rfl (fun _ => rfl) fun _ => hf rfl

/-- `start` does not look at the reading. -/
theorem reread_start {ursk : Bytes 32} {params : RangingSessionParameters}
    {nodeConfig : SessionNodeConfig} {callback : Option ℕ} (h : Reread raw c c') :
    Reread raw (start P env ursk params nodeConfig callback c)
      (start P env ursk params nodeConfig callback c') := by
  obtain rfl := h
  unfold start
  refine reread_derived (f := fun c => configureAndListen P env
    (c.modify fun s => { clearTracking s with aoaStability := .new {} })) (fun h => ?_)
    (reread_deriveSessionMaterial rfl)
  obtain rfl := h
  unfold configureAndListen
  cases env.configurePhyError with
  | some e => rfl
  | none => exact reread_return' (reread_armPrePollListening rfl) _

/-- `resumeWithAnchor` does not look at the reading. -/
theorem reread_resumeWithAnchor {newStsIndex0 : StsIndex} (h : Reread raw c c') :
    Reread raw (resumeWithAnchor P env newStsIndex0 c)
      (resumeWithAnchor P env newStsIndex0 c') := by
  obtain rfl := h
  unfold resumeWithAnchor
  refine reread_ite Iff.rfl (fun _ => rfl) fun _ => ?_
  refine reread_derived (f := fun c => return' (.ok ()) (armPrePollListening P env
    (c.modify fun s => { clearTracking s with aoaStability := s.aoaStability.reset })))
    (fun h => ?_) (reread_deriveSessionMaterial rfl)
  obtain rfl := h
  exact reread_return' (reread_armPrePollListening rfl) _

/-! ### Two runs -/

/-- The inputs are the same but for the reading of a reception for which it is not
valid. -/
inductive SameButInvalidPdoa : Input → Input → Prop
  | same (i : Input) : SameButInvalidPdoa i i
  | reread (event : RxSuccessEvent) (env : Env) (raw : Int16) (h : event.pdoaValid = false) :
    SameButInvalidPdoa ⟨.rxSuccess event, env⟩ ⟨.rxSuccess { event with pdoaRaw := raw }, env⟩

/-- The environment is the same. -/
theorem SameButInvalidPdoa.env_eq {i j : Input} (h : SameButInvalidPdoa i j) : j.env = i.env := by
  cases h <;> rfl

/-- The counterpart of a reception is one with some reading, and the same if it is valid. -/
theorem SameButInvalidPdoa.of_rxSuccess {i j : Input} (h : SameButInvalidPdoa i j)
    {event : RxSuccessEvent} (hi : i.action = .rxSuccess event) :
    ∃ raw, j = ⟨.rxSuccess { event with pdoaRaw := raw }, i.env⟩ ∧
      (event.pdoaValid = true → raw = event.pdoaRaw) := by
  cases h with
  | same =>
    obtain ⟨action, env⟩ := i
    obtain rfl : action = _ := hi
    exact ⟨event.pdoaRaw, rfl, fun _ => rfl⟩
  | reread event' env raw hinvalid =>
    obtain rfl : event' = event := Action.rxSuccess.inj hi
    exact ⟨raw, rfl, fun hvalid => absurd (hinvalid.symm.trans hvalid) (by decide)⟩

/-- Only a Final is told apart by its reading. -/
theorem onRxSuccess_pdoaRaw (env : Env) (event : RxSuccessEvent) (raw : Int16)
    (h : c.session.state ≠ .awaitingFinal) :
    onRxSuccess P env { event with pdoaRaw := raw } c = onRxSuccess P env event c := by
  unfold onRxSuccess
  cases hstate : c.session.state with
  | awaitingFinal => exact absurd hstate h
  | _ => rfl

/-- **The step lemma** for all but a Final. -/
theorem reread_serve {i j : Input} (hinput : SameButInvalidPdoa i j) (h : Reread raw c c')
    (hfaults : c.faults = i.env.faults)
    (hfinal : ∀ event, i.action = .rxSuccess event → c.session.state ≠ .awaitingFinal)
    (hangle : ∀ event, i.action = .rxSuccess event → c.session.state = .awaitingFinalData →
      evaluatedDistance P c.session i.env ≠ none → c.session.nodeConfig.enableAoA = false) :
    Reread raw (serve P i c) (serve P j c') := by
  obtain rfl := h
  let c' : Ctx := { c with session := c.session.withPdoaRaw raw }
  have hrx (event : RxSuccessEvent) (hi : i.action = .rxSuccess event) :
      Reread raw (onRxSuccess P i.env event c) (onRxSuccess P i.env event c') := by
    have hstate : c'.session.state = c.session.state := rfl
    unfold onRxSuccess
    rw [hstate]
    cases hst : c.session.state with
    | prePollListening => exact reread_handlePrePollReception rfl
    | awaitingPoll => exact reread_handlePollReception rfl
    | awaitingFinal => exact absurd hst (hfinal event hi)
    | awaitingFinalData =>
      exact reread_handleFinalDataReception rfl hfaults (hangle event hi hst)
    | _ => rfl
  cases hinput with
  | same =>
    unfold serve
    cases haction : i.action with
    | start => exact reread_start rfl
    | stop => rfl
    | suspend => rfl
    | resume =>
      exact reread_ite Iff.rfl (fun _ => rfl)
        fun _ => reread_return' (reread_armPrePollListening rfl) _
    | resumeWithAnchor => exact reread_resumeWithAnchor rfl
    | rxSuccess event => exact hrx event haction
    | rxTimeout => exact reread_onRxTimeout rfl
    | rxError => exact reread_onRxError rfl
    | txComplete => exact reread_onTxComplete rfl
    | callbackReturn => exact reread_armPrePollListening rfl
  | reread event env raw' hinvalid =>
    have hsame := onRxSuccess_pdoaRaw (P := P) (c := c') env event raw' (hfinal event rfl)
    change Reread raw _ (onRxSuccess P env { event with pdoaRaw := raw' } c')
    rw [hsame]
    exact hrx event rfl

/-- The step evaluates a distance with its angle after a Final whose reading was
not valid. -/
def UsesInvalidPdoa (P : Platform) (e : Event) : Prop :=
  evaluates P e ≠ none ∧ e.pre.session.nodeConfig.enableAoA = true ∧
    e.pre.session.measurement.finalPdoaValid = false

/-- It can be seen from the step. -/
instance (e : Event) : Decidable (UsesInvalidPdoa P e) := inferInstanceAs (Decidable (_ ∧ _ ∧ _))

/-- What a Final leaves in the measurement. -/
theorem measurement_of_finalReception {e : Event} (he : (machine P).Steps e)
    {event : RxSuccessEvent} (hfinal : finalReception e = some event) :
    e.post.session.measurement = e.pre.session.measurement.takeFinal event e.input.env := by
  obtain ⟨-, hpost, -⟩ := steps_iff.1 he
  unfold finalReception at hfinal
  split at hfinal
  · rename_i event' haction hstate
    obtain rfl := Option.some.inj hfinal
    have hserve : serve P e.input (e.pre.enter e.input) =
        handleFinalReception P e.input.env event' (e.pre.enter e.input) := by
      simp only [serve, haction, onRxSuccess, System.enter, hstate]
    rw [hpost, hserve]
    unfold handleFinalReception
    simp only [startRx_eq]
    obtain ⟨_, _, _, _, _, _, _, hframe, -, -⟩ := (unstashed_processStashedPrePoll _).frame
    rw [hframe]
    rfl
  · cases hfinal

/-- The systems are one but for the phase reading; and where a valid one is about
to be evaluated, they are one. -/
def SameUpToPdoa (x y : System) : Prop :=
  ∃ raw, y = ⟨x.session.withPdoaRaw raw, x.inCallback⟩ ∧
    (x.session.state = .awaitingFinalData → x.session.measurement.finalPdoaValid = true →
      raw = x.session.measurement.finalPdoaRaw)

/-- A state is the same as itself. -/
theorem SameUpToPdoa.refl (x : System) : SameUpToPdoa x x :=
  ⟨x.session.measurement.finalPdoaRaw, rfl, fun _ _ => rfl⟩

/-- Serving leads to such systems. -/
theorem sameUpToPdoa_of_reread {e₁ e₂ : Event} (he₁ : (machine P).Steps e₁)
    (he₂ : (machine P).Steps e₂)
    (h : Reread raw (serve P e₁.input (e₁.pre.enter e₁.input))
      (serve P e₂.input (e₂.pre.enter e₂.input)))
    (hraw : e₁.post.session.state = .awaitingFinalData →
      e₁.post.session.measurement.finalPdoaValid = true →
        raw = e₁.post.session.measurement.finalPdoaRaw) :
    e₂.output = e₁.output ∧ SameUpToPdoa e₁.post e₂.post := by
  obtain ⟨-, hpost₁, hout₁⟩ := steps_iff.1 he₁
  obtain ⟨-, hpost₂, hout₂⟩ := steps_iff.1 he₂
  rw [h] at hpost₂ hout₂
  refine ⟨hout₂.trans hout₁.symm, raw, ?_, hraw⟩
  rw [hpost₁, hpost₂]

/-- **Steps that use no invalid reading cannot be told apart.** -/
theorem sameUpToPdoa_step {e₁ e₂ : Event} (he₁ : (machine P).Steps e₁)
    (he₂ : (machine P).Steps e₂) (huses : ¬ UsesInvalidPdoa P e₁)
    (hinput : SameButInvalidPdoa e₁.input e₂.input) (h : SameUpToPdoa e₁.pre e₂.pre) :
    e₂.output = e₁.output ∧ SameUpToPdoa e₁.post e₂.post := by
  obtain ⟨raw, hpre, hraw⟩ := h
  have henter : Reread raw (e₁.pre.enter e₁.input) (e₂.pre.enter e₂.input) := by
    rw [Reread, System.enter, System.enter, hpre, hinput.env_eq]
  by_cases hfinal : ∃ event, e₁.input.action = .rxSuccess event ∧
      e₁.pre.session.state = .awaitingFinal
  · -- a Final brings its own reading
    obtain ⟨event, haction, hstate⟩ := hfinal
    obtain ⟨raw', hinput₂, hvalid⟩ := hinput.of_rxSuccess haction
    have hreception : finalReception e₁ = some event := by
      unfold finalReception
      rw [haction, hstate]
    have hserve₁ : serve P e₁.input (e₁.pre.enter e₁.input) =
        handleFinalReception P e₁.input.env event (e₁.pre.enter e₁.input) := by
      simp only [serve, haction, onRxSuccess, System.enter, hstate]
    have hserve₂ : serve P e₂.input (e₂.pre.enter e₂.input) = handleFinalReception P e₁.input.env
        { event with pdoaRaw := raw' } (e₂.pre.enter e₂.input) := by
      have hstate₂ : e₂.pre.session.state = .awaitingFinal := by
        rw [hpre]
        exact hstate
      simp only [serve, hinput₂, onRxSuccess, System.enter, hstate₂]
    have hserved : Reread raw' (serve P e₁.input (e₁.pre.enter e₁.input))
        (serve P e₂.input (e₂.pre.enter e₂.input)) := by
      rw [hserve₁, hserve₂]
      exact reread_handleFinalReception henter
    refine sameUpToPdoa_of_reread he₁ he₂ hserved fun _ => ?_
    rw [measurement_of_finalReception he₁ hreception]
    exact hvalid
  have hkept : e₁.post.session.state = .awaitingFinalData →
      e₁.post.session.measurement.finalPdoaValid = true →
        raw = e₁.post.session.measurement.finalPdoaRaw := by
    intro hstate
    obtain ⟨event, hsome, -⟩ | ⟨-, hst, hmeasurement⟩ := readings_of_steps he₁ hstate
    · unfold finalReception at hsome
      split at hsome
      · rename_i event' haction hst
        exact absurd ⟨event', haction, hst⟩ hfinal
      · cases hsome
    · rw [hmeasurement]
      exact hraw hst
  by_cases hangle : ∀ event, e₁.input.action = .rxSuccess event →
      e₁.pre.session.state = .awaitingFinalData →
      evaluatedDistance P e₁.pre.session e₁.input.env ≠ none →
        e₁.pre.session.nodeConfig.enableAoA = false
  · refine sameUpToPdoa_of_reread he₁ he₂ (reread_serve hinput henter rfl ?_ hangle) hkept
    exact fun event haction hstate => hfinal ⟨event, haction, hstate⟩
  · -- an angle is evaluated from a valid reading, which is the same
    push Not at hangle
    obtain ⟨event, haction, hstate, heval, henabled⟩ := hangle
    have hevaluates : evaluates P e₁ ≠ none := by
      unfold evaluates
      rw [haction, hstate]
      exact heval
    have hvalid : e₁.pre.session.measurement.finalPdoaValid = true := by
      by_contra hinvalid
      exact huses ⟨hevaluates, by simpa using henabled, by simpa using hinvalid⟩
    obtain rfl := hraw hstate hvalid
    obtain ⟨raw', hinput₂, -⟩ := hinput.of_rxSuccess haction
    have hsame : serve P e₂.input (e₂.pre.enter e₂.input) =
        serve P e₁.input (e₁.pre.enter e₁.input) := by
      rw [hpre, hinput₂]
      have hstate' : e₁.pre.session.state ≠ .awaitingFinal := by
        rw [hstate]
        decide
      have hrx := onRxSuccess_pdoaRaw (P := P) (c := e₁.pre.enter e₁.input) e₁.input.env event raw'
        hstate'
      simp only [serve, haction]
      exact hrx
    obtain ⟨-, hpost₁, hout₁⟩ := steps_iff.1 he₁
    obtain ⟨-, hpost₂, hout₂⟩ := steps_iff.1 he₂
    rw [hsame] at hpost₂ hout₂
    exact ⟨hout₂.trans hout₁.symm, hpost₂.trans hpost₁.symm ▸ SameUpToPdoa.refl _⟩

/-! ### Valid angles -/

/-- A session that awaits a FinalData holds the validity of the latest Final. -/
def HoldsPdoaValid (past : List Event) (x : System) : Prop :=
  x.session.state = .awaitingFinalData → ∃ final, lastFinal past = some final ∧
    x.session.measurement.finalPdoaValid = final.pdoaValid

/-- **The step lemma**: a Final stores its validity, and nothing else changes it while a FinalData
is awaited. -/
theorem holdsPdoaValid_step {past : List Event} {e : Event} (he : (machine P).Steps e)
    (h : HoldsPdoaValid past e.pre) : HoldsPdoaValid (e :: past) e.post := by
  intro hstate
  rcases readings_of_steps he hstate with ⟨event, hfinal, -⟩ | ⟨hfinal, hpre, hsame⟩
  · refine ⟨event, by rw [lastFinal, hfinal], ?_⟩
    rw [measurement_of_finalReception he hfinal]
    rfl
  · obtain ⟨final, hlast, hvalid⟩ := h hpre
    exact ⟨final, by rw [lastFinal, hfinal, hlast], hsame ▸ hvalid⟩

/-- A valid angle is delivered after a Final whose reading was valid, unless an
invalid one is used. -/
theorem pdoaValid_of_range {past : List Event} {e : Event} (he : (machine P).Steps e)
    (huses : ¬ UsesInvalidPdoa P e) (h : HoldsPdoaValid past e.pre) {callback : ℕ}
    {result : RangingResult} (hr : .range callback result ∈ e.output)
    (hvalid : result.aoaValid = true) :
    ∃ final, lastFinal past = some final ∧ final.pdoaValid = true := by
  obtain ⟨c, hd, -, hout⟩ := delivered_of_range he hr
  rw [hout] at hr
  cases hd with
  | @mk event _ frame mhr finalData report distance _ _ haction hstate hframe hcheck hsts hreport
      hdistance =>
    obtain ⟨-, rfl⟩ : callback = _ ∧ result = _ := by simpa [System.enter] using hr
    have hst : e.pre.session.state = .awaitingFinalData := hstate
    have hyields : yields e.pre.session finalData = some distance := by
      have hsts' : finalData.finalStsIndex = expectedFinalSts e.pre.session := hsts
      have hreport' : ownReport e.pre.session finalData = some report := hreport
      unfold yields
      rw [if_neg (not_not.2 hsts'), hreport']
      dsimp only
      rw [show calculateDistance (dsTwrTimestamps e.pre.session.measurement finalData report)
        e.pre.session.nodeConfig.antennaDelayBias = .ok distance from hdistance]
    have hevaluates : evaluates P e = some distance := by
      have hcheck' : (checkFinalDataFrame P e.pre.session frame e.input.env.faults).1 =
        .ok (mhr, finalData) := hcheck
      simp only [evaluates, haction, hst, evaluatedDistance, hframe, hcheck', hyields]
    have henabled : e.pre.session.nodeConfig.enableAoA = true := by
      by_contra hdisabled
      have hnone : measuredAoa P e.pre.session = {} := by
        rw [measuredAoa, if_neg hdisabled]
      have hangle : (measuredAoa P e.pre.session).valid = true := hvalid
      rw [hnone] at hangle
      cases hangle
    obtain ⟨final, hlast, hfinal⟩ := h hst
    refine ⟨final, hlast, ?_⟩
    rw [← hfinal]
    by_contra hinvalid
    exact huses ⟨by rw [hevaluates]; simp, henabled, by simpa using hinvalid⟩

/-- **Invalid phase readings do not influence results**, as long as none is used.
Two runs whose inputs are the same but for invalid readings put out the same, and
a valid angle is delivered only after a Final whose reading was valid. -/
theorem outputs_eq_of_invalid_pdoa {filter : RangeConsensusFilter} {tr tr' : List Event}
    {t t' : System} (hrun : (machine P).Run (System.initial filter) tr t)
    (hrun' : (machine P).Run (System.initial filter) tr' t')
    (hinput : List.Forall₂ SameButInvalidPdoa (tr.map (·.input)) (tr'.map (·.input)))
    (huses : ∀ e ∈ tr, ¬ UsesInvalidPdoa P e) :
    tr'.map (·.output) = tr.map (·.output) ∧
      ∀ tr₁ e tr₂ callback result, tr = tr₁ ++ e :: tr₂ → .range callback result ∈ e.output →
        result.aoaValid = true →
          ∃ final, lastFinal tr₁.reverse = some final ∧ final.pdoaValid = true := by
  constructor
  · exact (hrun.relate hrun' (SameUpToPdoa.refl _) hinput huses
      fun _ _ he₁ he₂ hgood hin hpre => sameUpToPdoa_step he₁ he₂ hgood hin hpre).1
  · intro tr₁ e tr₂ callback result htr hr hvalid
    have hobserve := hrun.observe (G := fun _ e => ¬ UsesInvalidPdoa P e) (J := HoldsPdoaValid)
      (Q := fun past e => ∀ callback result, .range callback result ∈ e.output →
        result.aoaValid = true → ∃ final, lastFinal past = some final ∧ final.pdoaValid = true)
      (fun past e => e :: past) (g := [])
      (fun _ e _ h => huses e (h ▸ List.mem_append_right _ List.mem_cons_self)) nofun
      (fun _ _ he _ hJ => holdsPdoaValid_step he hJ)
      (fun _ _ he hG hJ _ _ hr hvalid => pdoaValid_of_range he hG hJ hr hvalid)
    have hfold : tr₁.foldl (fun past e => e :: past) [] = tr₁.reverse := by
      rw [List.foldl_flip_cons_eq_append', List.append_nil]
    exact hfold ▸ hobserve tr₁ e tr₂ htr callback result hr hvalid

/-- A platform whose angle is the reading, always valid. -/
def readingPlatform : Platform :=
  { Platform.sample with fromPdoa := fun raw _ _ => ⟨raw.toInt32, true⟩ }

/-- An exchange of a session with angles: the readings of its PrePoll, which carries no STS,
and of its Final, on whose STS the radio has locked or not. -/
def pdoaExchange (prePoll final : Int16) (locked : Bool) : List Input :=
  [sampleStart sampleParams { enableAoA := true },
    ⟨.rxSuccess { pdoaRaw := prePoll }, (samplePrePoll 1 { pollStsIndex := 1 }).env⟩,
    ⟨.rxSuccess { rxTimestampDtu := 1000000, stsPassed := true, pdoaValid := true }, {}⟩,
    ⟨.txComplete, { txTimestampDtu := 2000000 }⟩,
    ⟨.rxSuccess { rxTimestampDtu := 3000000, stsPassed := locked, pdoaRaw := final
                  pdoaValid := locked }, {}⟩,
    sampleFinalData 1 {
      finalStsIndex := 3
      pollToFinalTxDeltaDtu := 2000000
      responderReports := [{ pollToResponseDeltaDtu := 1000000 }] }]

/-- The angle of a delivered result, if it is valid. -/
def Output.validAngle : Output → Option Int32
  | .range _ result => if result.aoaValid then some result.aoaCentiDegrees else none
  | _ => none

/-- The valid angles that a record delivers. -/
def validAngles (tr : List Event) : List Int32 :=
  (tr.map (·.output)).flatten.filterMap Output.validAngle

/-- Readings on which the radio has not locked can be others. -/
theorem sameButInvalidPdoa_exchange (prePoll prePoll' : Int16) {final final' : Int16}
    {locked : Bool} (h : locked = true → final' = final) :
    List.Forall₂ SameButInvalidPdoa (pdoaExchange prePoll final locked)
      (pdoaExchange prePoll' final' locked) := by
  refine .cons (.same _) (.cons (.reread _ _ _ rfl) (.cons (.same _) (.cons (.same _)
    (.cons ?_ (.cons (.same _) .nil)))))
  cases locked with
  | true =>
    obtain rfl := h rfl
    exact .same _
  | false => exact .reread _ _ _ rfl

/-- The hypotheses of `outputs_eq_of_invalid_pdoa` are satisfiable: the readings of
the PrePoll differ, the Final has a valid one, and the angle is delivered. -/
theorem outputs_eq_of_invalid_pdoa_sample : ∃ tr tr' t t',
    (machine readingPlatform).Run (System.initial {}) tr t ∧
      (machine readingPlatform).Run (System.initial {}) tr' t' ∧
      tr.map (·.input) = pdoaExchange 0 5 true ∧ tr'.map (·.input) = pdoaExchange 7 5 true ∧
      validAngles tr = [5] ∧ tr'.map (·.output) = tr.map (·.output) := by
  obtain ⟨tr, t, hrun, hin, h⟩ := Machine.exists_run_of_exec (M := machine readingPlatform)
    (s := System.initial {}) (l := pdoaExchange 0 5 true)
    (p := fun tr _ => decide (validAngles tr = [5] ∧
      ∀ e ∈ tr, ¬ UsesInvalidPdoa readingPlatform e)) (by decide +kernel)
  obtain ⟨tr', t', hrun', hin', -⟩ := Machine.exists_run_of_exec (M := machine readingPlatform)
    (s := System.initial {}) (l := pdoaExchange 7 5 true) (p := fun _ _ => true)
    (by decide +kernel)
  obtain ⟨hangles, huses⟩ := of_decide_eq_true h
  refine ⟨tr, tr', t, t', hrun, hrun', hin, hin', hangles, ?_⟩
  refine (outputs_eq_of_invalid_pdoa hrun hrun' ?_ huses).1
  rw [hin, hin']
  exact sameButInvalidPdoa_exchange 0 7 fun _ => rfl

/-- **An invalid reading is delivered as a valid angle.**  Two runs differ in the
reading of a Final on whose STS the radio has not locked, and their results in the angle. -/
theorem invalid_pdoa_delivered : ∃ tr tr' t t',
    (machine readingPlatform).Run (System.initial {}) tr t ∧
      (machine readingPlatform).Run (System.initial {}) tr' t' ∧
      tr.map (·.input) = pdoaExchange 0 5 false ∧ tr'.map (·.input) = pdoaExchange 0 9 false ∧
      List.Forall₂ SameButInvalidPdoa (tr.map (·.input)) (tr'.map (·.input)) ∧
      validAngles tr = [5] ∧ validAngles tr' = [9] := by
  obtain ⟨tr, t, hrun, hin, h⟩ := Machine.exists_run_of_exec (M := machine readingPlatform)
    (s := System.initial {}) (l := pdoaExchange 0 5 false)
    (p := fun tr _ => decide (validAngles tr = [5])) (by decide +kernel)
  obtain ⟨tr', t', hrun', hin', h'⟩ := Machine.exists_run_of_exec (M := machine readingPlatform)
    (s := System.initial {}) (l := pdoaExchange 0 9 false)
    (p := fun tr _ => decide (validAngles tr = [9])) (by decide +kernel)
  refine ⟨tr, tr', t, t', hrun, hrun', hin, hin', ?_, of_decide_eq_true h, of_decide_eq_true h'⟩
  rw [hin, hin']
  exact sameButInvalidPdoa_exchange 0 0 fun h => absurd h Bool.false_ne_true

end Session
end AliroUwb
