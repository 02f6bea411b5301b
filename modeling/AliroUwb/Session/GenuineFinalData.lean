/-
# Every genuine FinalData is accepted

The initiator encodes a FinalData, encrypts it under the dUDSK of the round and
puts a header in front; the session derives the dUDSK again from the armed Poll,
checks the lengths against two buffers, decrypts, and decodes.  For up to ten
reports of any content the two sides fit: `checkFinalDataFrame_genuine`.

That the keys of the sender are those of the receiver is a property of runs.  The
keys of an exchange under way are the ones that the present material gives
(`KeyedNow`), which every step keeps unless a `start` or a `resumeWithAnchor`
fails.
-/

import AliroUwb.Crypto.Sp0Ccm
import AliroUwb.Protocol.FrameCodecLaws
import AliroUwb.Ranging.DistanceExact
import AliroUwb.Session.ArmedKeys

namespace AliroUwb
namespace Session

open Stepwise Crypto Protocol Ranging Transceiver

variable {P : Platform} {s : SessionMembers} {frame : List UInt8} {mhr : MacHeader}
  {finalData : FinalDataPayload}

/-- A FinalData of at most ten reports, for the armed round of the session,
encrypted under the round's key and with a counter above the last accepted one;
whatever follows it in the frame. -/
structure GenuineFinalData (P : Platform) (s : SessionMembers) (frame : List UInt8)
    (mhr : MacHeader) (finalData : FinalDataPayload) : Prop where
  messageId : mhr.messageId = .finalData
  payloadLength : mhr.payloadLength = UInt8.ofNat (encodeFinalData finalData).length
  secured : ∃ c, EncryptsTo P.crypto s.armed.poll.dudskKey s.keys.addresses.sourceLong
    mhr.frameCounter (encodeHeader mhr) (encodeFinalData finalData) c ∧
    encodeHeader mhr ++ c <+: frame
  reports : finalData.responderReports.length ≤ 10
  sessionId : finalData.sessionId = s.params.sessionId
  finalStsIndex : finalData.finalStsIndex =
    s.armedPollStsIndex + 1 + s.params.responderCount.toUInt32
  counter : s.replay.hasReceivedFinalDataCounter = true →
    s.replay.lastFinalDataCounter < mhr.frameCounter

/-! ### The checks -/

/-- Ten reports fit the decryption buffer, and their length its byte. -/
theorem GenuineFinalData.length_le (h : GenuineFinalData P s frame mhr finalData) :
    (encodeFinalData finalData).length ≤ 88 := by
  have hreports := h.reports
  rw [length_encodeFinalData, finalDataLength, finalDataHeaderLength, responderRecordLength]
  omega

/-- What the session cuts out of the frame is what was encrypted. -/
theorem GenuineFinalData.unsecured (h : GenuineFinalData P s frame mhr finalData) :
    decodeHeader frame = .ok mhr ∧
      macHeaderLength + (mhr.payloadLength.toNat + micLength) ≤ frame.length ∧
      (securedPart mhr frame).length = (encodeFinalData finalData).length + micLength ∧
      unsecuredPayload P.crypto s.armed.poll.dudskKey s.keys.addresses.sourceLong mhr.frameCounter
        (frame.take macHeaderLength) (securedPart mhr frame) =
          some (encodeFinalData finalData) := by
  obtain ⟨c, henc, rest, rfl⟩ := h.secured
  have hc := encryptsTo_iff.1 henc
  have hlen : mhr.payloadLength.toNat = (encodeFinalData finalData).length := by
    rw [h.payloadLength]
    exact UInt8.toNat_ofNat_of_lt' (Nat.lt_of_le_of_lt h.length_le (by decide))
  have hclen : c.length = mhr.payloadLength.toNat + micLength := by
    rw [← hc, length_securedPayload, hlen]
  have hhdr := length_encodeHeader mhr
  have hpart : securedPart mhr (encodeHeader mhr ++ c ++ rest) = c := by
    rw [List.append_assoc, securedPart, List.drop_left' hhdr, List.take_left' hclen]
  refine ⟨?_, ?_, ?_, ?_⟩
  · rw [List.append_assoc]
    exact decodeHeader_encodeHeader mhr _
  · rw [List.length_append, List.length_append, hhdr, hclen]
    omega
  · rw [hpart, hclen, hlen]
  · rw [hpart, List.append_assoc, List.take_left' hhdr, unsecuredPayload_eq_some_iff]
    exact hc

/-- **A genuine FinalData passes every check**, given that the armed keys are
those of the armed Poll. -/
theorem checkFinalDataFrame_genuine (h : GenuineFinalData P s frame mhr finalData)
    (hkeys : value (slotKeysAt P s s.armedPollStsIndex) = .ok s.armed.poll) :
    checkFinalDataFrame P s frame noFaults = (.ok (mhr, finalData), noFaults) := by
  obtain ⟨hdecode, hcomplete, hlen, hunsecured⟩ := h.unsecured
  have hslot : (deriveSlotKeys P.crypto s.keys.mursk s.keys.saltedHash s.armedPollStsIndex
      s.params.slotsPerRound.toUInt16 s.params.stsIndex0).run noFaults =
        (.ok s.armed.poll, noFaults) :=
    Prod.ext hkeys (steady_slotKeysAt s s.armedPollStsIndex).rest
  have hle := h.length_le
  have hcounter : ¬(s.replay.hasReceivedFinalDataCounter = true ∧
      mhr.frameCounter ≤ s.replay.lastFinalDataCounter) :=
    fun hc => UInt32.not_le.2 (h.counter hc.1) hc.2
  have hdecrypt : decryptPayload P.crypto s.armed.poll.dudskKey s.keys.addresses.sourceLong
      mhr.frameCounter (frame.take macHeaderLength) (securedPart mhr frame)
      (List.replicate 128 0) noFaults = _ :=
    decryptPayload_noFaults _ _ _ (by omega) (by rw [hlen, List.length_replicate]; omega)
  have hpayload : decodeFinalData (encodeFinalData finalData ++ []) = .ok finalData :=
    decodeFinalData_encodeFinalData h.reports []
  rw [hunsecured, securedPart] at hdecrypt
  rw [List.append_nil] at hpayload
  unfold checkFinalDataFrame
  rw [hdecode]
  dsimp only
  rw [if_neg (not_not.2 h.messageId), if_neg hcounter, if_neg (Nat.not_lt.2 hcomplete),
    bind_faults, hslot]
  dsimp only
  rw [bind_faults, hdecrypt]
  dsimp only
  rw [List.take_left, hpayload]
  dsimp only
  rw [if_neg (not_not.2 h.sessionId)]
  rfl

/-! ### The handler -/

/-- Unstashing accepts PrePolls only. -/
theorem finalDataCounter_unstashed {c c' : Ctx} (h : Unstashed P c c') :
    c'.session.replay.hasReceivedFinalDataCounter =
        c.session.replay.hasReceivedFinalDataCounter ∧
      c'.session.replay.lastFinalDataCounter = c.session.replay.lastFinalDataCounter := by
  cases h with
  | eligible _ _ _ _ hwarm =>
    obtain ⟨_, _, _, rfl, -⟩ := hwarm.frame
    exact ⟨rfl, rfl⟩
  | _ => exact ⟨rfl, rfl⟩

/-- The intervals are not all zero if and only if a distance is calculated. -/
theorem calculateDistance_ok_iff {ts : DoubleSidedTwrTimestamps} {bias : DistanceMm} :
    (∃ distance, calculateDistance ts bias = .ok distance) ↔ ts ≠ ⟨0, 0, 0, 0⟩ := by
  obtain ⟨r₁, p₁, r₂, p₂⟩ := ts
  have hzero : exactInterval ⟨r₁, p₁, r₂, p₂⟩ = 0 ↔ r₁ = 0 ∧ p₁ = 0 ∧ r₂ = 0 ∧ p₂ = 0 := by
    simp only [exactInterval, ← UInt32.toNat_inj, UInt32.toNat_zero]
    omega
  simp only [ne_eq, DoubleSidedTwrTimestamps.mk.injEq, ← hzero, ← interval_eq_zero_iff]
  unfold calculateDistance
  dsimp only
  split_ifs with h
  · simp [h]
  · simp [h]

/-- What the handler makes of a genuine FinalData: it calls back, or it is back
listening. -/
structure Handled (s : SessionMembers) (mhr : MacHeader) (finalData : FinalDataPayload)
    (callback : ℕ) (x : System) (output : List Output) : Prop where
  accepted : .acceptedFinalData mhr finalData ∈ output
  counter : x.session.replay.hasReceivedFinalDataCounter = true ∧
    x.session.replay.lastFinalDataCounter = mhr.frameCounter
  called : ∀ report, ownReport s finalData = some report →
    dsTwrTimestamps s.measurement finalData report ≠ ⟨0, 0, 0, 0⟩ →
      x.inCallback = true ∧ ∃ result, output.filter Output.isRange = [.range callback result] ∧
        calculateDistance (dsTwrTimestamps s.measurement finalData report)
          s.nodeConfig.antennaDelayBias = .ok result.distance
  uncalled : (∀ report, ownReport s finalData = some report →
    dsTwrTimestamps s.measurement finalData report = ⟨0, 0, 0, 0⟩) →
      output.filter Output.isRange = [] ∧ x.inCallback = false ∧
        x.session.state = .prePollListening

/-- Routine outputs hand over no result. -/
theorem filter_isRange_of_routine {os : List Output} (h : os.all Output.routine = true) :
    os.filter Output.isRange = [] := by
  refine List.filter_eq_nil_iff.2 fun o ho hrange => ?_
  have hno := isRange_of_routine (List.all_eq_true.1 h o ho)
  rw [hrange] at hno
  cases hno

/-- A frame that passes the checks is evaluated. -/
theorem handleFinalDataReception_of_ok {env : Env} {c : Ctx} {faults : Faults}
    (hframe : receivedFrame env = some frame)
    (hcheck : checkFinalDataFrame P c.session frame c.faults = (.ok (mhr, finalData), faults)) :
    handleFinalDataReception P env c = evaluateFinalData P env finalData { c with
      session := { c.session with
        rxFrameBuffer := (readReceivedData env c.session.rxFrameBuffer).2
        replay := c.session.replay.acceptFinalData mhr }
      faults
      outputs := c.outputs ++ [.acceptedFinalData mhr finalData] } := by
  -- the checks do not look at the receive buffer
  have hread : checkFinalDataFrame P (c.readRx env).session frame (c.readRx env).faults =
      (.ok (mhr, finalData), faults) := hcheck
  rw [handleFinalDataReception_eq, hframe]
  dsimp only
  unfold handleFinalDataFrame Ctx.run
  rw [hread]
  rfl

/-- A FinalData for the armed round is evaluated to a result, or yields none. -/
theorem evaluateFinalData_of_expected (env : Env) {c : Ctx} {callback : ℕ}
    (hsts : finalData.finalStsIndex = expectedFinalSts c.session)
    (hcallback : c.session.callback = some callback) :
    (∃ report distance, ownReport c.session finalData = some report ∧
      calculateDistance (dsTwrTimestamps c.session.measurement finalData report)
        c.session.nodeConfig.antennaDelayBias = .ok distance ∧
      evaluateFinalData P env finalData c = { c with
        session := c.session.evaluated P distance
        inCallback := true
        outputs := c.outputs ++ [.range callback (rangingResult P env c.session distance)] }) ∨
    (∀ report, ownReport c.session finalData = some report →
      dsTwrTimestamps c.session.measurement finalData report = ⟨0, 0, 0, 0⟩) ∧
      evaluateFinalData P env finalData c = armPrePollListening P env c := by
  unfold evaluateFinalData
  rw [if_neg (not_not.2 hsts)]
  cases hreport : ownReport c.session finalData with
  | none => exact Or.inr ⟨nofun, rfl⟩
  | some report =>
    dsimp only
    cases hdistance : calculateDistance (dsTwrTimestamps c.session.measurement finalData report)
        c.session.nodeConfig.antennaDelayBias with
    | ok distance =>
      exact Or.inl ⟨report, distance, rfl, hdistance, evaluateDistance_some hcallback⟩
    | error e =>
      refine Or.inr ⟨fun report' h => ?_, rfl⟩
      obtain rfl := Option.some.inj h
      by_contra hne
      obtain ⟨distance, hok⟩ := calculateDistance_ok_iff.2 hne
      rw [hdistance] at hok
      cases hok

/-- An accepted FinalData for the armed round is handled. -/
theorem handled_evaluateFinalData (env : Env) {c : Ctx} {callback : ℕ}
    (hsts : finalData.finalStsIndex = expectedFinalSts c.session)
    (hcallback : c.session.callback = some callback) (hin : c.inCallback = false)
    (hout : c.outputs = [.acceptedFinalData mhr finalData])
    (hreplay : c.session.replay.hasReceivedFinalDataCounter = true ∧
      c.session.replay.lastFinalDataCounter = mhr.frameCounter) :
    Handled c.session mhr finalData callback
      ⟨(evaluateFinalData P env finalData c).session,
        (evaluateFinalData P env finalData c).inCallback⟩
      (evaluateFinalData P env finalData c).outputs := by
  rcases evaluateFinalData_of_expected (P := P) env hsts hcallback with
    ⟨report, distance, hreport, hdistance, heval⟩ | ⟨hzero, heval⟩
  · rw [heval, hout]
    have hne := calculateDistance_ok_iff.1 ⟨distance, hdistance⟩
    refine ⟨by simp, hreplay, fun report' hreport' _ => ⟨rfl, _, rfl, ?_⟩, fun hnone => ?_⟩
    · obtain rfl := Option.some.inj (hreport.symm.trans hreport')
      exact hdistance
    · exact absurd (hnone report hreport) hne
  · have hu := unstashed_armPrePollListening (P := P) env c
    obtain ⟨hhas, hlast⟩ := finalDataCounter_unstashed hu
    obtain ⟨os, hos, hroutine⟩ := routine_listen hu ⟨[], (List.append_nil _).symm, rfl⟩
    obtain ⟨_, _, _, _, _, _, _, hframe, -, -⟩ := hu.frame
    rw [heval]
    refine ⟨by simp [hos, hout], ⟨hhas.trans hreplay.1, hlast.trans hreplay.2⟩,
      fun report hreport hne => absurd (hzero report hreport) hne, fun _ => ⟨?_, ?_, ?_⟩⟩
    · rw [hos, hout, List.filter_append, filter_isRange_of_routine hroutine]
      rfl
    · rw [hframe]
      exact hin
    · exact (listens_unstashed hu).1

/-- **The handler accepts a genuine FinalData** and calls back if there is a
distance to report. -/
theorem handled_of_genuine {env : Env} {c : Ctx} {callback : ℕ}
    (h : GenuineFinalData P c.session frame mhr finalData)
    (hkeys : value (slotKeysAt P c.session c.session.armedPollStsIndex) =
      .ok c.session.armed.poll)
    (hframe : receivedFrame env = some frame) (hquiet : c.faults = noFaults)
    (hin : c.inCallback = false) (hout : c.outputs = [])
    (hcallback : c.session.callback = some callback) :
    Handled c.session mhr finalData callback
      ⟨(handleFinalDataReception P env c).session, (handleFinalDataReception P env c).inCallback⟩
      (handleFinalDataReception P env c).outputs := by
  have hcheck := checkFinalDataFrame_genuine h hkeys
  rw [← hquiet] at hcheck
  have hhandle := handleFinalDataReception_of_ok hframe hcheck
  rw [hout] at hhandle
  rw [hhandle]
  have hhandled : Handled _ mhr finalData callback _ _ :=
    handled_evaluateFinalData (P := P) env (c := { c with
      session := { c.session with
        rxFrameBuffer := (readReceivedData env c.session.rxFrameBuffer).2
        replay := c.session.replay.acceptFinalData mhr }
      outputs := [.acceptedFinalData mhr finalData] }) h.finalStsIndex hcallback hin rfl ⟨rfl, rfl⟩
  exact ⟨hhandled.1, hhandled.2, hhandled.3, hhandled.4⟩

/-! ### Runs -/

/-- The keys of the session are those that its present material gives. -/
def KeyedNow (P : Platform) (s : SessionMembers) : Prop :=
  Keyed (fun keys => CycleKeysFor P s keys.pollStsIndex keys) s

/-- **Unless a call that configures fails, the keys stay those of the material.** -/
theorem keyedNow_step {e : Event} (he : (machine P).Steps e)
    (hok : e.input.action.configures = true → succeeded e = true)
    (hpre : KeyedNow P e.pre.session) : KeyedNow P e.post.session := by
  refine keyed_step he (fun _ h => h) (fun _ _ _ _ h => hok (by rw [h]; rfl)) fun hfailed => ?_
  have hno : e.input.action.configures = false := by
    by_contra hconf
    have hconf : e.input.action.configures = true := by simpa using hconf
    exact Bool.false_ne_true ((hfailed hconf).symm.trans (hok hconf))
  obtain ⟨-, c, hc, hpost, -⟩ := served_of_steps he
  have hsame := hc.sameConfig hno
  rw [hpost]
  exact hpre.mono fun keys hkeys => hkeys.congr hsame.params hsame.nodeConfig hsame.keys

/-- While the callback runs, it runs on and no result is handed over. -/
theorem inCallback_step {e : Event} (he : (machine P).Steps e) (hin : e.pre.inCallback = true)
    (hno : e.input.action ≠ .callbackReturn) :
    e.post.inCallback = true ∧ e.output.filter Output.isRange = [] := by
  obtain ⟨-, c, hc, hpost, hout⟩ := served_of_steps he
  have hnone {p : Prop} (h : e.input.action.isRadioEvent = true) : p :=
    absurd ((inCallback_of_isRadioEvent he h).symm.trans hin) Bool.false_ne_true
  constructor
  · rw [hpost]
    have hlisten {c₁ c₂ : Ctx} (h : Unstashed P (c₁.listen e.input.env) c₂)
        (h₁ : c₁.inCallback = e.pre.inCallback) : c₂.inCallback = true := by
      obtain ⟨_, _, _, _, _, _, _, rfl, -, -⟩ := h.frame
      exact h₁.trans hin
    cases hc with
    | ignored h | abandoned h => exact hnone h
    | delivered h => exact hnone h.isRadioEvent
    | callbackReturned haction => exact absurd haction hno
    | rearmed haction | ineligible haction | unkeyed haction | bootstrapped haction
    | warmed haction | responded haction | late haction | transmitted haction
    | finalReceived haction | undelivered haction => exact hnone (by rw [haction]; rfl)
    | resumed _ _ h | anchored _ _ _ _ h | started _ _ _ _ h => exact hlisten h rfl
    | _ => exact hin
  · rw [hout]
    rcases hc.routine_or with ⟨os, hos, hroutine⟩ | ⟨event, hanswers, -⟩ | hd
    · rw [hos]
      exact filter_isRange_of_routine hroutine
    · exact hnone (by rw [hanswers.action]; rfl)
    · exact hnone hd.isRadioEvent

/-- When the callback has returned, the session listens. -/
theorem listens_of_callbackReturn {e : Event} (he : (machine P).Steps e)
    (haction : e.input.action = .callbackReturn) :
    e.post.session.state = .prePollListening ∧ e.output.filter Output.isRange = [] := by
  obtain ⟨c, hu, hpost, hout⟩ := unstashed_of_callbackReturn he haction
  obtain ⟨os, hos, hroutine⟩ := routine_listen hu ⟨[], (List.append_nil _).symm, rfl⟩
  rw [hpost, hout, hos]
  exact ⟨(listens_unstashed hu).1, filter_isRange_of_routine hroutine⟩

/-- **Every genuine FinalData is accepted.**  In every run from a successful
`start` on, in which no `start` and no `resumeWithAnchor` fails, a session that
awaits a FinalData and receives a genuine one records its counter; it calls back,
exactly once, if there is a report for this responder, of which it takes the
first, and the intervals are not all zero; and it is back in `PrePollListening`
at once, or, whatever the callback does, as soon as it returns. -/
theorem genuine_finalData_accepted {x t : System} {e₀ d : Event} {tr : List Event}
    (h : (machine P).Run x (e₀ :: (tr ++ [d])) t) {ursk : Bytes 32}
    {params : RangingSessionParameters} {nodeConfig : SessionNodeConfig} {callback₀ : Option ℕ}
    (haction : e₀.input.action = .start ursk params nodeConfig callback₀)
    (hok : succeeded e₀ = true)
    (hsucceed : ∀ e ∈ tr, e.input.action.configures = true → succeeded e = true)
    {event : RxSuccessEvent} (hevent : d.input.action = .rxSuccess event)
    (hstate : d.pre.session.state = .awaitingFinalData) (hquiet : d.input.env.faults = noFaults)
    {callback : ℕ} (hcallback : d.pre.session.callback = some callback)
    (hframe : receivedFrame d.input.env = some frame)
    (hgenuine : GenuineFinalData P d.pre.session frame mhr finalData) :
    Handled d.pre.session mhr finalData callback d.post d.output ∧
      (d.post.inCallback = true → ∀ mid e y, (machine P).Run d.post (mid ++ [e]) y →
        (∀ e' ∈ mid, e'.input.action ≠ .callbackReturn) → e.input.action = .callbackReturn →
          y.session.state = .prePollListening ∧
            ∀ e' ∈ mid ++ [e], e'.output.filter Output.isRange = []) := by
  obtain ⟨rfl, he₀, hrun⟩ := h
  obtain ⟨htr, hd, -⟩ := hrun.at_step
  have hkeyed : KeyedNow P d.pre.session :=
    htr.invariant (G := fun e => e.input.action.configures = true → succeeded e = true)
      (P := fun y => KeyedNow P y.session) hsucceed (keyed_started he₀ haction hok fun _ h => h)
      fun e he hgood hpre => keyedNow_step he hgood hpre
  constructor
  · obtain ⟨-, hindex, hkeys⟩ := hkeyed.armed (by rw [hstate]; rfl)
    have hpoll := hkeys.poll
    rw [hindex] at hpoll
    obtain ⟨-, hpost, hout⟩ := steps_iff.1 hd
    have hin := inCallback_of_isRadioEvent hd (by rw [hevent]; rfl)
    have hserve : serve P d.input (d.pre.enter d.input) =
        handleFinalDataReception P d.input.env (d.pre.enter d.input) := by
      simp only [serve, hevent, onRxSuccess, System.enter, hstate]
    rw [hpost, hout, hserve]
    exact handled_of_genuine (c := d.pre.enter d.input) hgenuine hpoll hframe hquiet hin rfl
      hcallback
  · intro hin mid e y hcontinue hno hreturn
    obtain ⟨hmid, he, rfl⟩ := hcontinue.at_step
    have hquietMid := hmid.forall_step (G := fun e => e.input.action ≠ .callbackReturn)
      (P := fun y => y.inCallback = true) (Q := fun e => e.output.filter Output.isRange = [])
      hno hin
      (fun e he hgood hpre => (inCallback_step he hpre hgood).1)
      (fun e he hgood hpre => (inCallback_step he hpre hgood).2)
    have hlast := listens_of_callbackReturn he hreturn
    refine ⟨hlast.1, fun e' he' => ?_⟩
    rcases List.mem_append.1 he' with hmem | hmem
    · exact hquietMid e' hmem
    · rw [List.mem_singleton.1 hmem]
      exact hlast.2

/-- The FinalData of `sampleExchange`. -/
def exchangedFinalData : FinalDataPayload where
  finalStsIndex := 3
  pollToFinalTxDeltaDtu := 2000000
  responderReports := [{ pollToResponseDeltaDtu := 1000000 }]

/-- The header of `exchangedFinalData`. -/
def exchangedHeader : MacHeader where
  destinationShortAddress := 0
  frameCounter := 1
  messageId := .finalData
  payloadLength := UInt8.ofNat (encodeFinalData exchangedFinalData).length

/-- `exchangedFinalData` is genuine for a session that has the keys of the sample
provider and has armed the first exchange. -/
theorem genuine_exchangedFinalData {s : SessionMembers}
    (h : (s.params, s.armedPollStsIndex, s.armed.poll.dudskKey, s.keys.addresses.sourceLong,
      s.replay.hasReceivedFinalDataCounter) =
        (sampleParams, 1, Bytes.zero 16, Bytes.zero 8, false)) :
    GenuineFinalData .sample s (sampleFrame .finalData 1 (encodeFinalData exchangedFinalData))
      exchangedHeader exchangedFinalData := by
  simp only [Prod.mk.injEq] at h
  obtain ⟨hparams, hindex, hkey, haddress, hcounter⟩ := h
  refine ⟨rfl, rfl, ⟨encodeFinalData exchangedFinalData ++ List.replicate micLength 0, ?_, ?_⟩,
    by decide, ?_, ?_, fun hhas => ?_⟩
  · rw [hkey, haddress]
    exact encryptsTo_iff.2 (by decide +kernel)
  · exact ⟨[], (List.append_nil _).trans (List.append_assoc ..).symm⟩
  · rw [hparams]
    rfl
  · rw [hparams, hindex]
    rfl
  · rw [hcounter] at hhas
    cases hhas

/-- The hypotheses of `genuine_finalData_accepted` are satisfiable: the FinalData of the
first exchange is genuine, and its result is delivered. -/
theorem genuine_finalData_accepted_sample : ∃ tr d t result,
    (machine .sample).Run (System.initial {}) (tr ++ [d]) t ∧
      (tr ++ [d]).map (·.input) = sampleStart sampleParams {} :: sampleExchange ∧
      d.output.filter Output.isRange = [.range 0 result] := by
  obtain ⟨e₀, tr, t, hrun, hfirst, hin, hok, h⟩ := Machine.exists_run_cons_of_exec
    (M := machine .sample) (s := System.initial {}) (i := sampleStart sampleParams {})
    (l := sampleExchange) (q := succeeded)
    (p := fun tr _ => tr.all (fun e => !e.input.action.configures) &&
      tr.getLast?.any fun d : Event => decide (
        (d.pre.session.state = .awaitingFinalData ∧ d.pre.session.callback = some 0) ∧
        ((d.pre.session.params, d.pre.session.armedPollStsIndex,
          d.pre.session.armed.poll.dudskKey, d.pre.session.keys.addresses.sourceLong,
          d.pre.session.replay.hasReceivedFinalDataCounter) =
            (sampleParams, 1, Bytes.zero 16, Bytes.zero 8, false)) ∧
        ownReport d.pre.session exchangedFinalData = some { pollToResponseDeltaDtu := 1000000 } ∧
        dsTwrTimestamps d.pre.session.measurement exchangedFinalData
          { pollToResponseDeltaDtu := 1000000 } ≠ ⟨0, 0, 0, 0⟩)) (by decide +kernel)
  simp only [Bool.and_eq_true, List.all_eq_true, Bool.not_eq_true', Option.any_eq_true] at h
  obtain ⟨hno, d, hlast, hd⟩ := h
  obtain ⟨tr₁, rfl⟩ := List.getLast?_eq_some_iff.1 hlast
  obtain ⟨⟨hstate, hcallback⟩, hsession, hreport, hne⟩ := of_decide_eq_true hd
  have hstart : e₀.input.action = (sampleStart sampleParams {}).action :=
    congrArg Input.action hfirst
  have hinput : d.input = sampleFinalData 1 exchangedFinalData := by
    have hinputs := congrArg List.getLast? hin
    rw [List.map_append, List.map_singleton, List.getLast?_concat] at hinputs
    exact Option.some.inj hinputs
  have haccepted := genuine_finalData_accepted hrun hstart hok
    (fun e he hconf => absurd ((hno e (List.mem_append_left _ he)).symm.trans hconf)
      Bool.false_ne_true)
    (by rw [hinput]; rfl) hstate (by rw [hinput]; rfl) hcallback
    (by rw [hinput]; decide +kernel) (genuine_exchangedFinalData hsession)
  obtain ⟨-, result, hrange, -⟩ := haccepted.1.called _ hreport hne
  exact ⟨e₀ :: tr₁, d, t, result, hrun, List.cons_eq_cons.2 ⟨hfirst, hin⟩, hrange⟩

end Session
end AliroUwb
