/-
# A ranging cycle, leg by leg

A `Cycle` is one double-sided exchange as its initiator conducts it: PrePoll, Poll,
Response, Final and FinalData, with what the platform of this responder reports of
each.  `Genuine` says that the initiator has the session's keys and follows its
schedule, and that the readings yield a distance.

A session that listens and has seen nothing newer (`Fresh`) goes through the cycle
leg by leg.  On the bootstrap path it knows the PrePoll from the first leg on, on
the warm path only once the Final is in (`Known`); what it has armed is the same
(`Under`).  However the cycle ends, the session then knows the PrePoll and is ready
for the exchange that is scheduled next (`Accepted`).
-/

import AliroUwb.Session.GenuineFinalData
import AliroUwb.Session.PrePollAcceptance
import AliroUwb.Session.Stash
import AliroUwb.Session.Trust
import AliroUwb.Session.WarmPath

namespace AliroUwb
namespace Session

open Stepwise Crypto Protocol Ranging Transceiver

variable {P : Platform} {s t : SessionMembers}

/-- A ranging cycle: the two frames of the initiator, and for each leg what the
radio reports and what the platform answers. -/
structure Cycle where
  prePollHeader : MacHeader
  prePoll : PrePollPayload
  finalDataHeader : MacHeader
  finalData : FinalDataPayload
  prePollRx : RxSuccessEvent := {}
  pollRx : RxSuccessEvent
  finalRx : RxSuccessEvent
  finalDataRx : RxSuccessEvent := {}
  prePollEnv : Env
  pollEnv : Env := {}
  responseEnv : Env := {}
  finalEnv : Env := {}
  finalDataEnv : Env
  returnEnv : Env := {}

namespace Cycle

/-- The legs, the last one being the return of the callback. -/
def legs (x : Cycle) : List Input :=
  [⟨.rxSuccess x.prePollRx, x.prePollEnv⟩, ⟨.rxSuccess x.pollRx, x.pollEnv⟩,
    ⟨.txComplete, x.responseEnv⟩, ⟨.rxSuccess x.finalRx, x.finalEnv⟩,
    ⟨.rxSuccess x.finalDataRx, x.finalDataEnv⟩, ⟨.callbackReturn, x.returnEnv⟩]

/-- The time stamps and readings of the cycle. -/
def measurement (x : Cycle) : Measurement :=
  Measurement.takeFinal
    { pollRxTimestampDtu := x.pollRx.rxTimestampDtu
      respTxTimestampDtu := x.responseEnv.txTimestampDtu } x.finalRx x.finalEnv

/-- The session `s` at the end of the cycle, as far as a result depends on it. -/
def closing (x : Cycle) (s : SessionMembers) : SessionMembers :=
  { s with
    armedPollStsIndex := x.prePoll.pollStsIndex
    currentBlock := x.prePoll.rangingBlock, currentRound := x.prePoll.roundIndex
    measurement := x.measurement }

/-- The distance that the cycle measures. -/
def distance (x : Cycle) (s : SessionMembers) : Option DistanceMm :=
  yields (x.closing s) x.finalData

/-- The result of the cycle in a session with the filter and the stability detector
of `s`. -/
def result (P : Platform) (x : Cycle) (s : SessionMembers) (distance : DistanceMm) :
    RangingResult :=
  rangingResult P x.finalDataEnv (x.closing s) distance

/-- The initiator of the cycle has the keys of the session `s` and keeps to its
schedule; the provider does not fail, the Response goes out in time, and the
readings yield a distance. -/
structure Genuine (P : Platform) (s : SessionMembers) (x : Cycle) : Prop where
  quiet : ∀ i ∈ x.legs, i.env.faults = noFaults
  prePoll : ∃ frame, receivedFrame x.prePollEnv = some frame ∧
    SecuredPrePoll P { s with replay := {} } frame x.prePollHeader (encodePrePoll x.prePoll)
  sessionId : x.prePoll.sessionId = s.params.sessionId
  scheduled : x.prePoll.pollStsIndex =
    pollStsIndexFor s.params x.prePoll.rangingBlock x.prePoll.roundIndex
  stsPassed : x.pollRx.stsPassed = true
  inTime : x.pollEnv.delayedTxStarts = true
  finalData : ∃ keys frame, CycleKeysFor P s x.prePoll.pollStsIndex keys ∧
    receivedFrame x.finalDataEnv = some frame ∧
    GenuineFinalData P { x.closing s with armed := keys, replay := {} } frame x.finalDataHeader
      x.finalData
  measures : (x.distance s).isSome = true

end Cycle

/-- The session has accepted nothing that the cycle would be a replay of. -/
structure Unseen (s : SessionMembers) (x : Cycle) : Prop where
  prePollCounter : s.replay.hasReceivedPrePollCounter = true →
    s.replay.lastPrePollCounter < x.prePollHeader.frameCounter
  ahead : s.replay.hasPrePollStsIndex = true →
    0 < (x.prePoll.pollStsIndex - s.replay.lastPrePollStsIndex).toInt32
  finalDataCounter : s.replay.hasReceivedFinalDataCounter = true →
    s.replay.lastFinalDataCounter < x.finalDataHeader.frameCounter

/-- And it listens, with nothing stashed. -/
structure Fresh (s : SessionMembers) (x : Cycle) : Prop extends Unseen s x where
  state : s.state = .prePollListening
  stash : s.stashLen = 0

/-- Coming from `s`, the session has accepted the PrePoll of the cycle; its warm
keys, if valid, are those of the exchange scheduled next. -/
structure Accepted (P : Platform) (s : SessionMembers) (x : Cycle) (t : SessionMembers) :
    Prop where
  stash : t.stashLen = 0
  replay : t.replay = s.replay.acceptPrePoll x.prePollHeader x.prePoll
  block : t.currentBlock = x.prePoll.rangingBlock
  round : t.currentRound = x.prePoll.roundIndex
  warm : t.warmValid = true → ∃ block round,
    nextScheduledExchange s.params x.prePoll.rangingBlock x.prePoll.roundIndex =
      some (block, round) ∧ CycleKeysFor P s (pollStsIndexFor s.params block round) t.warm

/-- It has accepted the PrePoll, or stashed it. -/
def Known (P : Platform) (s : SessionMembers) (x : Cycle) (t : SessionMembers) : Prop :=
  Accepted P s x t ∨ t.replay = s.replay ∧
    ∃ frame, receivedFrame x.prePollEnv = some frame ∧ Stashes frame t

/-- What the cycle leaves alone until it ends. -/
structure Unmeasured (s t : SessionMembers) : Prop where
  config : SameConfig s t
  filter : t.filter = s.filter
  aoaStability : t.aoaStability = s.aoaStability

/-- Coming from `s`, the session is under way in the cycle `x`. -/
structure Under (P : Platform) (s : SessionMembers) (x : Cycle) (t : SessionMembers) : Prop
    extends Unmeasured s t where
  valid : t.armedKeysValid = true
  index : t.armedPollStsIndex = x.prePoll.pollStsIndex
  keys : CycleKeysFor P s x.prePoll.pollStsIndex t.armed
  known : Known P s x t

/-! ### The PrePoll becomes known -/

/-- Two sessions with the same parameters, keys and replay state accept the same
PrePolls. -/
theorem checkPrePollFrame_congr (hparams : t.params = s.params) (hkeys : t.keys = s.keys)
    (hreplay : t.replay = s.replay) (frame : List UInt8) :
    checkPrePollFrame P t frame = checkPrePollFrame P s frame := by
  unfold checkPrePollFrame
  rw [hparams, hkeys, hreplay]

/-- **A fresh session accepts the PrePoll of a genuine cycle.** -/
theorem Cycle.Genuine.check {x : Cycle} (hx : x.Genuine P s) (hf : Fresh s x) :
    ∃ frame, receivedFrame x.prePollEnv = some frame ∧
      checkPrePollFrame P s frame noFaults =
        (.ok (x.prePollHeader, x.prePoll), noFaults) := by
  obtain ⟨frame, hframe, hsec⟩ := hx.prePoll
  have hlen := length_encodePrePoll x.prePoll
  refine ⟨frame, hframe, Prod.ext ?_ (keepsQuiet_checkPrePollFrame (P := P) s frame)⟩
  refine checkPrePollFrame_ok_iff.2 ⟨_, Nat.le_of_eq hlen,
    ⟨hsec.1, hsec.2, hsec.3, hsec.4, hsec.5, hf.prePollCounter⟩, ⟨hx.sessionId, hf.ahead⟩, ?_⟩
  rw [hlen, Nat.sub_self, List.replicate_zero, List.append_nil]

/-- Refreshing predicts the exchange after the accepted one. -/
theorem accepted_of_refreshed {c c' : Ctx} {x : Cycle} (h : Refreshed P c c')
    (hc : SameConfig s c.session) (hstash : c.session.stashLen = 0)
    (hreplay : c.session.replay = s.replay.acceptPrePoll x.prePollHeader x.prePoll)
    (hblock : c.session.currentBlock = x.prePoll.rangingBlock)
    (hround : c.session.currentRound = x.prePoll.roundIndex) : Accepted P s x c'.session := by
  cases h with
  | unpredicted => exact ⟨hstash, hreplay, hblock, hround, fun h => absurd h Bool.false_ne_true⟩
  | failed => exact ⟨hstash, hreplay, hblock, hround, fun h => absurd h Bool.false_ne_true⟩
  | predicted hnext hkeys =>
    rw [hblock, hround, hc.params] at hnext
    rw [hc.params] at hkeys
    exact ⟨hstash, hreplay, hblock, hround, fun _ => ⟨_, _, hnext,
      hkeys.congr hc.params.symm hc.nodeConfig.symm hc.keys.symm⟩⟩

/-- **Whatever ends the listening, the stash gives up the PrePoll**: once it has
been looked at, the PrePoll is accepted. -/
theorem accepted_of_unstashed {c c' : Ctx} {x : Cycle} (h : Unstashed P c c')
    (hx : x.Genuine P s) (hf : Fresh s x) (hc : SameConfig s c.session)
    (hquiet : c.faults = noFaults) (hfilter : s.nodeConfig.blockParityFilter = -1)
    (hknown : Known P s x c.session) : Accepted P s x c'.session := by
  have hempty (hlen : c.session.stashLen = 0) : Accepted P s x c.session :=
    hknown.resolve_right fun ⟨_, _, _, hstash, _⟩ => hstash hlen
  -- what the checks say of the stash
  have hcheck (hlen : c.session.stashLen ≠ 0) :
      checkPrePollFrame P c.session c.session.stashedFrame c.faults =
        (.ok (x.prePollHeader, x.prePoll), noFaults) ∧ c.session.replay = s.replay := by
    obtain ⟨hreplay, frame, hframe, -, hstash⟩ :=
      hknown.resolve_left fun hacc => hlen hacc.stash
    obtain ⟨frame', hframe', hok⟩ := hx.check hf
    obtain rfl := Option.some.inj (hframe.symm.trans hframe')
    rw [hquiet, hstash, checkPrePollFrame_stash,
      checkPrePollFrame_congr hc.params hc.keys hreplay]
    exact ⟨hok, hreplay⟩
  cases h with
  | empty hlen => exact hempty hlen
  | rejected hlen herr =>
    rw [(hcheck hlen).1] at herr
    cases herr
  | ineligible _ _ hparity =>
    rw [isBlockParityEligible_of_neg (hc.nodeConfig ▸ hfilter)] at hparity
    cases hparity
  | eligible hlen hok _ _ hwarm =>
    rw [(hcheck hlen).1] at hok
    obtain ⟨rfl, rfl⟩ := Prod.mk.inj (Except.ok.inj hok)
    refine accepted_of_refreshed hwarm ⟨hc.1, hc.2, hc.3, hc.4, hc.5, hc.6⟩ rfl ?_ rfl rfl
    dsimp only
    rw [(hcheck hlen).2]

/-- Looking at the stash leaves the measurements alone. -/
theorem Unmeasured.unstashed {c c' : Ctx} (h : Unmeasured s c.session) (hu : Unstashed P c c') :
    Unmeasured s c'.session := by
  obtain ⟨_, _, _, _, _, _, _, rfl, -, -⟩ := hu.frame
  exact ⟨h.config.trans ⟨rfl, rfl, rfl, rfl, rfl, rfl⟩, h.filter, h.aoaStability⟩

/-! ### The PrePoll leg -/

/-- The bootstrap path arms the exchange and predicts the next one. -/
theorem armBootstrap_of_ok (env : Env) (event : RxSuccessEvent) {frame : List UInt8} {c : Ctx}
    {mhr : MacHeader} {prePoll : PrePollPayload} (hquiet : c.faults = noFaults)
    (hslots : c.session.params.slotsPerRound ≠ 0)
    (hfilter : c.session.nodeConfig.blockParityFilter = -1)
    (hcheck : checkPrePollFrame P c.session frame noFaults = (.ok (mhr, prePoll), noFaults)) :
    ∃ armed outputs, CycleKeysFor P c.session prePoll.pollStsIndex armed ∧
      Refreshed P ⟨(c.session.prePollAccepted mhr prePoll).armedFor armed, c.inCallback, noFaults,
        outputs⟩ (armBootstrap P env event frame c) := by
  unfold armBootstrap
  rw [decodePrePollFrame_eq, hquiet, hcheck]
  dsimp only [Ctx.modify]
  rw [isBlockParityEligible_of_neg hfilter, if_neg (by simp)]
  rcases armExchange_cases (P := P) env event prePoll { c with
      session := c.session.prePollAccepted mhr prePoll, faults := noFaults
      outputs := c.outputs ++ [.acceptedPrePoll mhr prePoll] } with
    ⟨armed, f, hkeys, hf, harm⟩ | ⟨armed, f, hf, harm⟩
  · obtain rfl := hf rfl
    refine ⟨armed, _, hkeys.congr rfl rfl rfl, harm ▸ refreshed_refreshWarmKeys _⟩
  · exact absurd (hf rfl).1 hslots

/-- The warm path arms the warm keys. -/
theorem session_armWarm (env : Env) (event : RxSuccessEvent) (frame : List UInt8) (c : Ctx) :
    ∃ stashFrame stashLen warmValid, (armWarm env event frame c).session =
        { c.session.armedFor c.session.warm with stashFrame, stashLen, warmValid } ∧
      (armWarm env event frame c).inCallback = c.inCallback := by
  unfold armWarm
  simp only [startRx_eq, transitionTo, Ctx.command, Ctx.emit, Ctx.modify]
  split
  · exact ⟨_, _, c.session.warmValid, rfl, rfl⟩
  · exact ⟨_, _, false, rfl, rfl⟩

/-- What has been read of the cycle when the session is in the state `q`. -/
def Cycle.Reads (x : Cycle) (q : SessionState) (m : Measurement) : Prop :=
  match q with
  | .transmittingResponse => m.pollRxTimestampDtu = x.pollRx.rxTimestampDtu
  | .awaitingFinal => m.pollRxTimestampDtu = x.pollRx.rxTimestampDtu ∧
      m.respTxTimestampDtu = x.responseEnv.txTimestampDtu
  | .awaitingFinalData => m = x.measurement
  | _ => True

/-- Coming from `s`, the legs of the cycle have led to the state `q`. -/
structure Leads (P : Platform) (s : SessionMembers) (x : Cycle) (q : SessionState) (y : System) :
    Prop extends Under P s x y.session where
  inCallback : y.inCallback = false
  state : y.session.state = q
  reads : x.Reads q y.session.measurement

/-- **The PrePoll leg.**  The session awaits the Poll and knows the PrePoll; with
warm keys of this exchange, or none, it is under way in the cycle. -/
theorem prePoll_leg {x : Cycle} (hx : x.Genuine P s) (hf : Fresh s x)
    (hfilter : s.nodeConfig.blockParityFilter = -1) (hslots : s.params.slotsPerRound ≠ 0)
    {c : Ctx} (hc : c = serve P ⟨.rxSuccess x.prePollRx, x.prePollEnv⟩
      ⟨s, false, x.prePollEnv.faults, []⟩) :
    c.inCallback = false ∧ c.session.state = .awaitingPoll ∧ Unmeasured s c.session ∧
      Known P s x c.session ∧
      ((s.warmValid = true → CycleKeysFor P s x.prePoll.pollStsIndex s.warm) →
        Leads P s x .awaitingPoll ⟨c.session, c.inCallback⟩) := by
  obtain ⟨frame, hframe, hcheck⟩ := hx.check hf
  have hquiet : x.prePollEnv.faults = noFaults := hx.quiet _ List.mem_cons_self
  have hserve : c = handlePrePollReception P x.prePollEnv x.prePollRx
      ⟨s, false, x.prePollEnv.faults, []⟩ := by
    rw [hc]
    simp only [serve, onRxSuccess, hf.state]
  by_cases hwarm : s.warmValid = true
  · -- armed unseen, the frame stashed
    have hstashes : Stashes frame c.session := by
      rw [hserve]
      exact stashes_of_warm hwarm hframe
    rw [handlePrePollReception_eq, hframe] at hserve
    dsimp only at hserve
    rw [if_pos hwarm] at hserve
    obtain ⟨stashFrame, stashLen, warmValid, hsession, hcb⟩ :=
      session_armWarm x.prePollEnv x.prePollRx frame
        (Ctx.readRx x.prePollEnv ⟨s, false, x.prePollEnv.faults, []⟩)
    rw [← hserve] at hsession hcb
    have hun : Unmeasured s c.session := by
      rw [hsession]
      exact ⟨⟨rfl, rfl, rfl, rfl, rfl, rfl⟩, rfl, rfl⟩
    have hknown : Known P s x c.session :=
      Or.inr ⟨by rw [hsession]; rfl, frame, hframe, hstashes⟩
    have hstate : c.session.state = .awaitingPoll := by rw [hsession]; rfl
    refine ⟨hcb, hstate, hun, hknown,
      fun hkeys => ⟨⟨hun, ?_, ?_, ?_, hknown⟩, hcb, hstate, trivial⟩⟩
    · rw [hsession]
      rfl
    · rw [hsession]
      exact (hkeys hwarm).pollStsIndex
    · rw [hsession]
      exact hkeys hwarm
  · -- decoded, and armed with the keys derived for it
    rw [handlePrePollReception_eq, hframe] at hserve
    dsimp only at hserve
    rw [if_neg hwarm] at hserve
    have hread : checkPrePollFrame P (Ctx.readRx x.prePollEnv ⟨s, false, x.prePollEnv.faults,
        []⟩).session frame noFaults = (.ok (x.prePollHeader, x.prePoll), noFaults) :=
      (congrFun (checkPrePollFrame_congr rfl rfl rfl frame) noFaults).trans hcheck
    obtain ⟨armed, outputs, hkeys, hrefreshed⟩ :=
      armBootstrap_of_ok x.prePollEnv x.prePollRx hquiet hslots hfilter hread
    rw [← hserve] at hrefreshed
    have hacc : Accepted P s x c.session :=
      accepted_of_refreshed hrefreshed ⟨rfl, rfl, rfl, rfl, rfl, rfl⟩ hf.stash rfl rfl rfl
    obtain ⟨warm, warmValid, faults, hframe', -⟩ := hrefreshed.frame
    have hun : Unmeasured s c.session := by
      rw [hframe']
      exact ⟨⟨rfl, rfl, rfl, rfl, rfl, rfl⟩, rfl, rfl⟩
    have hcb : c.inCallback = false := by rw [hframe']; rfl
    have hstate : c.session.state = .awaitingPoll := by rw [hframe']; rfl
    refine ⟨hcb, hstate, hun, Or.inl hacc,
      fun _ => ⟨⟨hun, ?_, ?_, ?_, Or.inl hacc⟩, hcb, hstate, trivial⟩⟩
    · rw [hframe']
      rfl
    · rw [hframe']
      exact hkeys.pollStsIndex
    · rw [hframe']
      exact hkeys.congr rfl rfl rfl

/-! ### The legs up to the Final -/

/-- Neither a reading nor a change of state takes the session out of the cycle. -/
theorem Under.advance {x : Cycle} (h : Under P s x t) (measurement : Measurement)
    (state : SessionState) : Under P s x { t with measurement, state } where
  config := ⟨h.config.1, h.config.2, h.config.3, h.config.4, h.config.5, h.config.6⟩
  filter := h.filter
  aoaStability := h.aoaStability
  valid := h.valid
  index := h.index
  keys := h.keys
  known := h.known.imp (fun hacc => ⟨hacc.1, hacc.2, hacc.3, hacc.4, hacc.5⟩) id

/-- A Poll that is answered in time. -/
theorem handlePollReception_of_answered {env : Env} {event : RxSuccessEvent} {c : Ctx}
    (hsts : event.stsPassed = true) (hkeys : c.session.armedKeysValid = true)
    (htx : env.delayedTxStarts = true) : ∃ outputs, handlePollReception P env event c = { c with
      session := { c.session with
        measurement := { c.session.measurement with pollRxTimestampDtu := event.rxTimestampDtu }
        state := .transmittingResponse }
      outputs } := by
  unfold handlePollReception
  rw [hsts, if_neg (by simp)]
  dsimp only [Ctx.modify]
  rw [hkeys, if_neg (by simp), if_pos htx]
  exact ⟨_, rfl⟩

/-- A Response that is out. -/
theorem onTxComplete_of_keys (env : Env) {c : Ctx}
    (hstate : c.session.state = .transmittingResponse)
    (hkeys : c.session.armedKeysValid = true) : ∃ outputs, onTxComplete P env c = { c with
      session := { c.session with
        measurement := { c.session.measurement with respTxTimestampDtu := env.txTimestampDtu }
        state := .awaitingFinal }
      outputs } := by
  unfold onTxComplete
  rw [if_pos hstate]
  dsimp only [Ctx.modify]
  rw [hkeys, if_neg (by simp), startRx_eq]
  exact ⟨_, rfl⟩

/-- A Final, before the stash is looked at. -/
theorem unstashed_handleFinalReception (env : Env) (event : RxSuccessEvent) (c : Ctx) :
    ∃ outputs, Unstashed P { c with
      session := { c.session with
        measurement := c.session.measurement.takeFinal event env
        state := .awaitingFinalData }
      outputs } (handleFinalReception P env event c) := by
  unfold handleFinalReception
  simp only [startRx_eq, transitionTo, Ctx.command, Ctx.emit, Ctx.modify]
  exact ⟨_, unstashed_processStashedPrePoll _⟩

variable {x : Cycle}

/-- **The Poll leg.** -/
theorem poll_leg (hx : x.Genuine P s) (h : Leads P s x .awaitingPoll ⟨t, false⟩) {c : Ctx}
    (hc : c = serve P ⟨.rxSuccess x.pollRx, x.pollEnv⟩ ⟨t, false, x.pollEnv.faults, []⟩) :
    Leads P s x .transmittingResponse ⟨c.session, c.inCallback⟩ := by
  obtain ⟨outputs, hp⟩ := handlePollReception_of_answered (P := P)
    (c := ⟨t, false, x.pollEnv.faults, []⟩) hx.stsPassed h.valid hx.inTime
  have hstate : t.state = .awaitingPoll := h.state
  simp only [serve, onRxSuccess, hstate, hp] at hc
  subst hc
  exact ⟨h.toUnder.advance _ _, rfl, rfl, rfl⟩

/-- **The Response leg.** -/
theorem response_leg (h : Leads P s x .transmittingResponse ⟨t, false⟩) {c : Ctx}
    (hc : c = serve P ⟨.txComplete, x.responseEnv⟩ ⟨t, false, x.responseEnv.faults, []⟩) :
    Leads P s x .awaitingFinal ⟨c.session, c.inCallback⟩ := by
  obtain ⟨outputs, hp⟩ := onTxComplete_of_keys (P := P) x.responseEnv
    (c := ⟨t, false, x.responseEnv.faults, []⟩) h.state h.valid
  simp only [serve, hp] at hc
  subst hc
  exact ⟨h.toUnder.advance _ _, rfl, rfl, h.reads, rfl⟩

/-- **The Final leg**, after which the PrePoll is accepted on either path. -/
theorem final_leg (hx : x.Genuine P s) (hf : Fresh s x)
    (hfilter : s.nodeConfig.blockParityFilter = -1) (h : Leads P s x .awaitingFinal ⟨t, false⟩)
    {c : Ctx} (hc : c = serve P ⟨.rxSuccess x.finalRx, x.finalEnv⟩
      ⟨t, false, x.finalEnv.faults, []⟩) :
    Leads P s x .awaitingFinalData ⟨c.session, c.inCallback⟩ ∧ Accepted P s x c.session := by
  have hquiet : x.finalEnv.faults = noFaults :=
    hx.quiet ⟨.rxSuccess x.finalRx, x.finalEnv⟩ (by simp [Cycle.legs])
  obtain ⟨outputs, hu⟩ := unstashed_handleFinalReception (P := P) x.finalEnv x.finalRx
    ⟨t, false, x.finalEnv.faults, []⟩
  have hstate : t.state = .awaitingFinal := h.state
  have hserve : c = handleFinalReception P x.finalEnv x.finalRx
      ⟨t, false, x.finalEnv.faults, []⟩ := by
    rw [hc]
    simp only [serve, onRxSuccess, hstate]
  rw [← hserve] at hu
  have hunder := h.toUnder.advance (t.measurement.takeFinal x.finalRx x.finalEnv) .awaitingFinalData
  have hacc := accepted_of_unstashed hu hx hf hunder.config hquiet hfilter hunder.known
  have hun := hunder.toUnmeasured.unstashed hu
  have hreads : t.measurement.takeFinal x.finalRx x.finalEnv = x.measurement := by
    rw [Cycle.measurement, Measurement.takeFinal, Measurement.takeFinal, h.reads.1, h.reads.2]
  obtain ⟨_, _, _, _, _, _, _, hframe, -, -⟩ := hu.frame
  refine ⟨⟨⟨hun, ?_, ?_, ?_, Or.inl hacc⟩, ?_, ?_, ?_⟩, hacc⟩
  · rw [hframe]
    exact h.valid
  · rw [hframe]
    exact h.index
  · rw [hframe]
    exact h.keys
  · rw [hframe]
  · rw [hframe]
  · rw [hframe]
    exact hreads

/-! ### The FinalData leg -/

/-- A FinalData that yields a distance is evaluated to a result. -/
theorem evaluateFinalData_of_yields (env : Env) {c : Ctx} {finalData : FinalDataPayload}
    {distance : DistanceMm} {callback : ℕ} (h : yields c.session finalData = some distance)
    (hcallback : c.session.callback = some callback) :
    evaluateFinalData P env finalData c = { c with
      session := c.session.evaluated P distance
      inCallback := true
      outputs := c.outputs ++ [.range callback (rangingResult P env c.session distance)] } := by
  unfold yields at h
  unfold evaluateFinalData
  split_ifs at h with hsts
  rw [if_neg hsts]
  cases hreport : ownReport c.session finalData with
  | none => rw [hreport] at h; cases h
  | some report =>
    rw [hreport] at h
    dsimp only at h ⊢
    cases hdistance : calculateDistance (dsTwrTimestamps c.session.measurement finalData report)
        c.session.nodeConfig.antennaDelayBias with
    | error e => rw [hdistance] at h; cases h
    | ok d =>
      rw [hdistance] at h
      obtain rfl := Option.some.inj h
      exact evaluateDistance_some hcallback

/-- What the evaluation of a FinalData depends on. -/
structure SameEvaluation (s t : SessionMembers) : Prop extends Unmeasured s t where
  index : t.armedPollStsIndex = s.armedPollStsIndex
  block : t.currentBlock = s.currentBlock
  round : t.currentRound = s.currentRound
  measurement : t.measurement = s.measurement

/-- The distance does not depend on the estimates. -/
theorem yields_congr (hparams : t.params = s.params) (hnode : t.nodeConfig = s.nodeConfig)
    (hindex : t.armedPollStsIndex = s.armedPollStsIndex) (hm : t.measurement = s.measurement)
    (finalData : FinalDataPayload) : yields t finalData = yields s finalData := by
  unfold yields expectedFinalSts ownReport
  rw [hindex, hparams, hnode, hm]

/-- The same distance is measured. -/
theorem SameEvaluation.yields (h : SameEvaluation s t) (finalData : FinalDataPayload) :
    yields t finalData = yields s finalData :=
  yields_congr h.config.params h.config.nodeConfig h.index h.measurement finalData

/-- The same angle is measured. -/
theorem SameEvaluation.measuredAoa (h : SameEvaluation s t) :
    measuredAoa P t = measuredAoa P s := by
  unfold Session.measuredAoa
  rw [h.config.params, h.config.nodeConfig, h.measurement]

/-- The filter comes to the same. -/
theorem SameEvaluation.nextFilter (h : SameEvaluation s t) (distance : DistanceMm) :
    nextFilter t distance = nextFilter s distance := by
  unfold Session.nextFilter
  rw [h.filter, h.measurement]

/-- The detector comes to the same. -/
theorem SameEvaluation.nextStability (h : SameEvaluation s t) :
    nextStability P t = nextStability P s := by
  unfold Session.nextStability
  rw [h.measuredAoa, h.aoaStability]

/-- **The same result.** -/
theorem SameEvaluation.rangingResult (h : SameEvaluation s t) (env : Env) (distance : DistanceMm) :
    rangingResult P env t distance = rangingResult P env s distance := by
  unfold Session.rangingResult integrityReport
  rw [h.measuredAoa, h.nextFilter, h.nextStability, h.config.params, h.block, h.round,
    h.measurement]

/-- The session has the cycle behind it: it listens again, or will when its callback
has returned, and is ready for the exchange that is scheduled next. -/
structure Settled (P : Platform) (s : SessionMembers) (x : Cycle) (t : SessionMembers) : Prop where
  config : SameConfig s t
  stash : t.stashLen = 0
  prePollCounter : t.replay.lastPrePollCounter = x.prePollHeader.frameCounter
  index : t.replay.lastPrePollStsIndex = x.prePoll.pollStsIndex
  finalDataCounter : t.replay.hasReceivedFinalDataCounter = true →
    t.replay.lastFinalDataCounter ≤ x.finalDataHeader.frameCounter
  warm : t.warmValid = true → ∃ block round,
    nextScheduledExchange s.params x.prePoll.rangingBlock x.prePoll.roundIndex =
      some (block, round) ∧ CycleKeysFor P s (pollStsIndexFor s.params block round) t.warm

/-- A cycle whose PrePoll has been accepted is settled. -/
theorem Accepted.settled (h : Accepted P s x t) (hf : Fresh s x) (hc : SameConfig s t) :
    Settled P s x t := by
  refine ⟨hc, h.stash, by rw [h.replay]; rfl, by rw [h.replay]; rfl, fun hhas => ?_, h.warm⟩
  rw [h.replay] at hhas ⊢
  exact UInt32.le_of_lt (hf.finalDataCounter hhas)

/-- **The FinalData leg**: the result of the cycle is handed over, and the session
has the cycle behind it. -/
theorem finalData_leg (hx : x.Genuine P s) (hf : Fresh s x)
    (h : Leads P s x .awaitingFinalData ⟨t, false⟩) (hacc : Accepted P s x t)
    {distance : DistanceMm} (hd : x.distance s = some distance) {callback : ℕ}
    (hcallback : s.callback = some callback) {c : Ctx}
    (hc : c = serve P ⟨.rxSuccess x.finalDataRx, x.finalDataEnv⟩
      ⟨t, false, x.finalDataEnv.faults, []⟩) :
    c.inCallback = true ∧ Settled P s x c.session ∧
      c.outputs.filter Output.isRange = [.range callback (x.result P s distance)] ∧
      c.session.filter = ((x.closing s).evaluated P distance).filter ∧
      c.session.aoaStability = ((x.closing s).evaluated P distance).aoaStability := by
  obtain ⟨keys, frame, hkeys, hframe, hgenuine⟩ := hx.finalData
  have hquiet : x.finalDataEnv.faults = noFaults :=
    hx.quiet ⟨.rxSuccess x.finalDataRx, x.finalDataEnv⟩ (by simp [Cycle.legs])
  have harmed : t.armed = keys := h.keys.unique hkeys
  have hindex : t.armedPollStsIndex = x.prePoll.pollStsIndex := h.index
  have hreplay : t.replay = s.replay.acceptPrePoll x.prePollHeader x.prePoll := hacc.replay
  -- the FinalData is genuine for the session as it is now
  have hnow : GenuineFinalData P t frame x.finalDataHeader x.finalData := by
    refine ⟨hgenuine.messageId, hgenuine.payloadLength, ?_, hgenuine.reports, ?_, ?_, ?_⟩
    · rw [harmed, h.config.keys]
      exact hgenuine.secured
    · rw [h.config.params]
      exact hgenuine.sessionId
    · rw [h.config.params, hindex]
      exact hgenuine.finalStsIndex
    · rw [hreplay]
      exact hf.finalDataCounter
  have hpoll : value (slotKeysAt P t t.armedPollStsIndex) = .ok t.armed.poll := by
    rw [hindex]
    exact (h.keys.congr h.config.params h.config.nodeConfig h.config.keys).poll
  have hcheck := checkFinalDataFrame_genuine hnow hpoll
  rw [← hquiet] at hcheck
  have hstate : t.state = .awaitingFinalData := h.state
  have hhandle := handleFinalDataReception_of_ok
    (c := ⟨t, false, x.finalDataEnv.faults, []⟩) hframe hcheck
  have hsame : SameEvaluation (x.closing s) { t with
      rxFrameBuffer := (readReceivedData x.finalDataEnv t.rxFrameBuffer).2
      replay := t.replay.acceptFinalData x.finalDataHeader } :=
    ⟨⟨⟨h.config.1, h.config.2, h.config.3, h.config.4, h.config.5, h.config.6⟩, h.filter,
      h.aoaStability⟩, h.index, hacc.block, hacc.round, h.reads⟩
  have heval := evaluateFinalData_of_yields (P := P) x.finalDataEnv (c := ⟨{ t with
      rxFrameBuffer := (readReceivedData x.finalDataEnv t.rxFrameBuffer).2
      replay := t.replay.acceptFinalData x.finalDataHeader }, false, x.finalDataEnv.faults,
      [] ++ [.acceptedFinalData x.finalDataHeader x.finalData]⟩)
    ((hsame.yields x.finalData).trans hd) (h.config.callback.trans hcallback)
  simp only [serve, onRxSuccess, hstate] at hc
  rw [hc, hhandle, heval]
  refine ⟨rfl, ⟨⟨h.config.1, h.config.2, h.config.3, h.config.4, h.config.5, h.config.6⟩,
    hacc.stash, by rw [hacc.replay]; rfl, by rw [hacc.replay]; rfl, fun _ => ?_,
    hacc.warm⟩, ?_, ?_, ?_⟩
  · exact UInt32.le_refl _
  · rw [hsame.rangingResult]
    rfl
  · dsimp only [SessionMembers.evaluated]
    rw [hsame.nextFilter]
  · dsimp only [SessionMembers.evaluated]
    rw [hsame.nextStability]

/-! ### The ends of a cycle -/

/-- The session listens again, with the cycle behind it and the estimates of `r`. -/
structure Ended (P : Platform) (s : SessionMembers) (x : Cycle) (r : SessionMembers)
    (y : System) : Prop extends Settled P s x y.session where
  inCallback : y.inCallback = false
  state : y.session.state = .prePollListening
  filter : y.session.filter = r.filter
  aoaStability : y.session.aoaStability = r.aoaStability

/-- **The return of the callback.** -/
theorem return_leg (h : Settled P s x t) {c : Ctx} (hc : c = serve P ⟨.callbackReturn, x.returnEnv⟩
    ⟨t, true, x.returnEnv.faults, []⟩) : Ended P s x t ⟨c.session, c.inCallback⟩ := by
  have hu := unstashed_armPrePollListening (P := P) x.returnEnv
    ⟨t, false, x.returnEnv.faults, []⟩
  have hserve : c = armPrePollListening P x.returnEnv ⟨t, false, x.returnEnv.faults, []⟩ := hc
  rw [← hserve] at hu
  cases hu with
  | empty =>
    exact ⟨⟨⟨h.config.1, h.config.2, h.config.3, h.config.4, h.config.5, h.config.6⟩, h.stash,
      h.prePollCounter, h.index, h.finalDataCounter, h.warm⟩, rfl, rfl, rfl, rfl⟩
  | rejected hlen | ineligible hlen | eligible hlen => exact absurd h.stash hlen

/-- A time-out or an error of the receiver. -/
def Input.isFailure (i : Input) : Prop := i.action = .rxTimeout ∨ i.action = .rxError

/-- In an exchange a failure leads back to listening. -/
theorem serve_of_isFailure {i : Input} (hi : i.isFailure) {c : Ctx}
    (hstate : c.session.state.inExchange = true) :
    serve P i c = armPrePollListening P i.env c := by
  rcases hi with ha | ha
  · simp only [serve, ha, onRxTimeout]
    cases hq : c.session.state <;> first | rfl | (rw [hq] at hstate; cases hstate)
  · simp only [serve, ha, onRxError]
    cases hq : c.session.state <;> first | rfl | (rw [hq] at hstate; cases hstate)

/-- **A cycle that breaks off**, at any of its legs, whatever has been armed. -/
theorem failure_leg (hx : x.Genuine P s) (hf : Fresh s x)
    (hfilter : s.nodeConfig.blockParityFilter = -1) (hun : Unmeasured s t)
    (hknown : Known P s x t) (hstate : t.state.inExchange = true) {i : Input}
    (hi : i.isFailure) (hquiet : i.env.faults = noFaults) {c : Ctx}
    (hc : c = serve P i ⟨t, false, i.env.faults, []⟩) :
    Ended P s x s ⟨c.session, c.inCallback⟩ := by
  have hu := unstashed_armPrePollListening (P := P) i.env ⟨t, false, i.env.faults, []⟩
  rw [serve_of_isFailure hi hstate] at hc
  rw [← hc] at hu
  have hlisten : Unmeasured s (Ctx.listen i.env ⟨t, false, i.env.faults, []⟩).session :=
    ⟨⟨hun.config.1, hun.config.2, hun.config.3, hun.config.4, hun.config.5, hun.config.6⟩,
      hun.filter, hun.aoaStability⟩
  have hacc := accepted_of_unstashed hu hx hf hlisten.config hquiet hfilter
    (hknown.imp (fun hacc => ⟨hacc.1, hacc.2, hacc.3, hacc.4, hacc.5⟩) id)
  have hend := hlisten.unstashed hu
  obtain ⟨_, _, _, _, _, _, _, hframe, -, -⟩ := hu.frame
  refine ⟨hacc.settled hf hend.config, ?_, ?_, hend.filter, hend.aoaStability⟩
  · rw [hframe]
    rfl
  · rw [hframe]
    rfl

end Session
end AliroUwb
