/-
# A pause is a timeout

`suspend` turns the receiver off and `resume` listens again; what is between them is not heard.
Nothing else is lost by this: in every run, a pause can be replaced by one timeout, with
the environment of the `resume`, and the rest of the run stays what it is
(`pause_is_timeout`).  A session that was listening goes on as if there had been no
pause, and one in an exchange loses that exchange only.
-/

import AliroUwb.Session.Device
import AliroUwb.Session.Invitations
import AliroUwb.Session.Residue

namespace AliroUwb
namespace Session

open Stepwise Crypto Protocol Ranging Transceiver

variable {P : Platform}

/-! ### What has been put out does not matter -/

/-- Refreshing the warm keys does not look at the outputs. -/
theorem refreshWarmKeys_outputs (c : Ctx) (os : List Output) :
    refreshWarmKeys P { c with outputs := os } = { refreshWarmKeys P c with outputs := os } := by
  unfold refreshWarmKeys
  dsimp only
  split
  · rfl
  · dsimp only [Ctx.run, Ctx.modify]
    split <;> rfl

/-- What the stash gives up, and what becomes of it, does not depend on the outputs so far. -/
theorem processStashedPrePoll_outputs (c : Ctx) : ∃ s f added, ∀ os,
    processStashedPrePoll P { c with outputs := os } = ⟨s, c.inCallback, f, os ++ added⟩ := by
  simp only [processStashedPrePoll_eq]
  split_ifs with hstash
  · exact ⟨c.session, c.faults, [], fun os => by rw [List.append_nil]⟩
  rcases checkPrePollFrame P { c.session with stashLen := 0 } c.session.stashedFrame c.faults with
    ⟨e | ⟨mhr, prePoll⟩, f⟩
  · exact ⟨_, f, [], fun os => by rw [List.append_nil]⟩
  · dsimp only
    split_ifs
    · let a : Ctx := { c with
        session := SessionMembers.prePollAccepted { c.session with stashLen := 0 } mhr prePoll
        faults := f }
      obtain ⟨_, _, _, hframe, -⟩ := (refreshed_refreshWarmKeys (P := P) a).frame
      refine ⟨(refreshWarmKeys P a).session, (refreshWarmKeys P a).faults,
        [.acceptedPrePoll mhr prePoll], fun os => ?_⟩
      refine (refreshWarmKeys_outputs a (os ++ [.acceptedPrePoll mhr prePoll])).trans ?_
      rw [hframe]
    · exact ⟨_, f, [.acceptedPrePoll mhr prePoll], fun os => rfl⟩

/-- **The way back to listening is the same from every state**, whatever has been put out. -/
theorem armPrePollListening_outputs (env : Env) (s : SessionMembers) (faults : Faults) :
    ∃ s' f added, ∀ state os, armPrePollListening P env ⟨{ s with state }, false, faults, os⟩ =
      ⟨s', false, f, os ++ listenOutputs env ++ added⟩ := by
  obtain ⟨s', f, added, h⟩ := processStashedPrePoll_outputs (P := P)
    ⟨{ s with state := .prePollListening }, false, faults, []⟩
  refine ⟨s', f, added, fun state os => ?_⟩
  rw [armPrePollListening_eq]
  exact h (os ++ listenOutputs env)

/-! ### A suspended session -/

/-- What a record tells of frames that have been accepted, and of results. -/
def news (tr : List Event) : List Output := tr.flatMap fun e => e.output.filter fun o => !o.plain

/-- The news of two stretches, one after the other. -/
theorem news_append (tr tr' : List Event) : news (tr ++ tr') = news tr ++ news tr' :=
  List.flatMap_append

/-- The news of the first step come first. -/
theorem news_cons (e : Event) (tr : List Event) : news (e :: tr) = news [e] ++ news tr :=
  news_append [e] tr

/-- A step of a pause: the session is suspended again, or hears nothing. -/
def pauses (e : Event) : Bool := e.input.action.isRadioEvent || e.input.action == .suspend

/-- Plain outputs are no news. -/
theorem filter_news_of_plain {os : List Output} (h : os.all Output.plain = true) :
    os.filter (fun o => !o.plain) = [] :=
  List.filter_eq_nil_iff.2 fun o ho => by simpa using List.all_eq_true.1 h o ho

/-- Suspending. -/
theorem post_of_suspend {e : Event} (he : (machine P).Steps e) (hs : e.input.action = .suspend) :
    e.post = ⟨{ e.pre.session with state := .suspended }, e.pre.inCallback⟩ ∧ news [e] = [] := by
  obtain ⟨-, hpost, hout⟩ := steps_iff.1 he
  have hserve : serve P e.input (e.pre.enter e.input) = suspend (e.pre.enter e.input) := by
    simp only [serve, hs]
  rw [hserve] at hpost hout
  refine ⟨hpost, ?_⟩
  rw [news, List.flatMap_singleton, hout]
  exact filter_news_of_plain rfl

/-- **A suspended session hears nothing.** -/
theorem suspended_step {e : Event} (he : (machine P).Steps e) (hpause : pauses e = true)
    (hpre : e.pre.session.state = .suspended) : e.post = e.pre ∧ news [e] = [] := by
  rcases Bool.or_eq_true_iff.1 hpause with hevent | hsuspend
  · obtain ⟨-, hpost, hout⟩ := steps_iff.1 he
    have hserve : serve P e.input (e.pre.enter e.input) = e.pre.enter e.input := by
      cases haction : e.input.action with
      | rxSuccess | rxTimeout | rxError | txComplete =>
        simp [serve, haction, onRxSuccess, onRxTimeout, onRxError, onTxComplete, System.enter, hpre]
      | _ => rw [haction] at hevent; cases hevent
    rw [hserve] at hpost hout
    exact ⟨hpost, by rw [news, List.flatMap_singleton, hout]; rfl⟩
  · obtain ⟨hpost, hnews⟩ := post_of_suspend he (beq_iff_eq.1 hsuspend)
    refine ⟨?_, hnews⟩
    rw [hpost, ← hpre]

/-- A suspended session stays as it is, and there are no news. -/
theorem suspended_run {x y : System} {mid : List Event} (h : (machine P).Run x mid y)
    (hpause : ∀ e ∈ mid, pauses e = true) (hpre : x.session.state = .suspended) :
    y = x ∧ news mid = [] := by
  induction mid generalizing x with
  | nil => exact ⟨h.symm, rfl⟩
  | cons e mid ih =>
    obtain ⟨rfl, he, h⟩ := h
    obtain ⟨hpost, hnews⟩ := suspended_step he (hpause e List.mem_cons_self) hpre
    obtain ⟨hy, hrest⟩ := ih h (fun e' h' => hpause e' (List.mem_cons_of_mem _ h'))
      (hpost.symm ▸ hpre)
    exact ⟨hy.trans hpost, by rw [news_cons, hnews, hrest, List.append_nil]⟩

/-! ### A pause -/

/-- Two handlers that leave the same session and tell the same news. -/
structure SameNews (c c' : Ctx) : Prop where
  session : c.session = c'.session
  inCallback : c.inCallback = c'.inCallback
  news : c.outputs.filter (fun o => !o.plain) = c'.outputs.filter fun o => !o.plain

/-- **Resuming is timing out**, for a session that has been suspended when it was active. -/
theorem sameNews_timeout_resume (env : Env) {s : SessionMembers} (hactive : s.state.active = true)
    (hread : StashRead s) :
    SameNews (serve P ⟨.rxTimeout, env⟩ ⟨s, false, env.faults, []⟩)
      (serve P ⟨.resume, env⟩ ⟨{ s with state := .suspended }, false, env.faults, []⟩) := by
  by_cases hlistens : s.state = .prePollListening
  · -- the stash is empty, so that listening again changes nothing
    have harm : armPrePollListening P env ⟨{ s with state := .suspended }, false, env.faults, []⟩ =
        Ctx.listen env ⟨{ s with state := .suspended }, false, env.faults, []⟩ :=
      (armPrePollListening_eq _ _).trans (if_pos (hread hlistens))
    have hresume : serve P ⟨.resume, env⟩
        ⟨{ s with state := .suspended }, false, env.faults, []⟩ =
        return' (.ok ()) (Ctx.listen env ⟨{ s with state := .suspended }, false, env.faults, []⟩) :=
      congrArg (return' (.ok ())) harm
    have htimeout : serve P ⟨.rxTimeout, env⟩ ⟨s, false, env.faults, []⟩ =
        ⟨s, false, env.faults, [.command (.startImmediateRx 0 env.immediateRxStarts)]⟩ := by
      simp [serve, onRxTimeout, hlistens, Ctx.command, Ctx.emit]
    rw [hresume, htimeout]
    refine ⟨?_, rfl, rfl⟩
    change s = { s with state := .prePollListening }
    rw [← hlistens]
  · obtain ⟨s', f, added, harm⟩ := armPrePollListening_outputs (P := P) env s env.faults
    have hresume : serve P ⟨.resume, env⟩ ⟨{ s with state := .suspended }, false, env.faults, []⟩ =
        return' (.ok ()) ⟨s', false, f, [] ++ listenOutputs env ++ added⟩ :=
      congrArg (return' (.ok ())) (harm .suspended [])
    have htimeout : serve P ⟨.rxTimeout, env⟩ ⟨s, false, env.faults, []⟩ =
        ⟨s', false, f, [] ++ listenOutputs env ++ added⟩ := by
      refine Eq.trans ?_ (harm s.state [])
      cases hstate : s.state <;> simp_all [serve, onRxTimeout, SessionState.active]
    rw [hresume, htimeout]
    refine ⟨rfl, rfl, ?_⟩
    change _ = (([] ++ listenOutputs env ++ added) ++ [Output.returned (.ok ())]).filter _
    rw [List.filter_append ([] ++ listenOutputs env ++ added)]
    exact (List.append_nil _).symm

/-- **A pause is a timeout.**  In every run from the construction on, what begins with the
suspension of an active session outside its callback and ends with its resumption, with
nothing but events of the radio and further suspensions in between, can be replaced by one
timeout in the environment of the resumption: the rest of the run stays as it is, and so does
everything that the run tells of accepted frames and of results. -/
theorem pause_is_timeout {filter : RangeConsensusFilter} {l mid rest : List Event} {s r : Event}
    {t : System} (h : (machine P).Run (System.initial filter) (l ++ s :: (mid ++ r :: rest)) t)
    (hs : s.input.action = .suspend) (hactive : s.pre.session.state.active = true)
    (hcallback : s.pre.inCallback = false) (hmid : ∀ e ∈ mid, pauses e = true)
    (hr : r.input.action = .resume) :
    ∃ e, e.pre = s.pre ∧ e.input = ⟨.rxTimeout, r.input.env⟩ ∧
      (machine P).Run (System.initial filter) (l ++ e :: rest) t ∧
      news (l ++ e :: rest) = news (l ++ s :: (mid ++ r :: rest)) := by
  obtain ⟨m, hbefore, rfl, hsuspend, hpause⟩ := Machine.run_append.1 h
  obtain ⟨hmidRun, hresume, hrest⟩ := hpause.at_step
  have hread : StashRead s.pre.session :=
    stashRead_run hbefore fun hstate => SessionState.noConfusion hstate
  obtain ⟨hpost, hnews⟩ := post_of_suspend hsuspend hs
  obtain ⟨hpre, hmidNews⟩ := suspended_run hmidRun hmid (by rw [hpost])
  have hsame := sameNews_timeout_resume (P := P) r.input.env hactive hread
  obtain ⟨-, hrpost, hrout⟩ := steps_iff.1 hresume
  have hinput : r.input = ⟨.resume, r.input.env⟩ := by rw [← hr]
  have henter : r.pre.enter r.input =
      ⟨{ s.pre.session with state := .suspended }, false, r.input.env.faults, []⟩ := by
    rw [System.enter, hpre, hpost, hcallback]
  rw [henter, hinput] at hrpost hrout
  let c := serve P ⟨.rxTimeout, r.input.env⟩ ⟨s.pre.session, false, r.input.env.faults, []⟩
  have hstep : (machine P).Steps
      ⟨s.pre, ⟨.rxTimeout, r.input.env⟩, c.outputs, ⟨c.session, c.inCallback⟩⟩ := by
    refine steps_iff.2 ⟨?_, ?_, ?_⟩
    · simp [System.enabled, Action.isRadioEvent, hcallback]
    · rw [System.enter, hcallback]
    · rw [System.enter, hcallback]
  have hends : r.post = ⟨c.session, c.inCallback⟩ := by
    rw [hrpost, hsame.session, hsame.inCallback]
  rw [hends] at hrest
  have hrnews : news [r] = c.outputs.filter fun o => !o.plain := by
    rw [news, List.flatMap_singleton, hrout, hsame.news]
  refine ⟨⟨s.pre, _, c.outputs, _⟩, rfl, rfl,
    Machine.run_append.2 ⟨s.pre, hbefore, rfl, hstep, hrest⟩, ?_⟩
  rw [news_append, news_append, news_cons s, news_append mid, news_cons r, hnews, hmidNews, hrnews]
  rfl

/-- An exchange up to its Poll, and the PrePoll after it. -/
def beforePause : List Input :=
  [sampleStart sampleParams {}, samplePrePoll 1 { pollStsIndex := 1 }, samplePoll]

/-- The PrePoll of the next block. -/
def afterPause : List Input := [samplePrePoll 2 { pollStsIndex := 97, rangingBlock := 1 }]

/-- The hypotheses of `pause_is_timeout` are satisfiable: the session is suspended while it
transmits, and the end of the transmission is not heard. -/
theorem pause_is_timeout_sample : ∃ (l rest : List Event) (e : Event) (t : System),
    (machine .sample).Run (System.initial {}) (l ++ e :: rest) t ∧
      (l ++ e :: rest).map (·.input) = beforePause ++ ⟨.rxTimeout, {}⟩ :: afterPause ∧
      e.pre.session.state = .transmittingResponse := by
  obtain ⟨tr, t, hrun, hin, h⟩ := Machine.exists_run_of_exec (M := machine .sample)
    (s := System.initial {})
    (l := beforePause ++ ⟨.suspend, {}⟩ :: ([⟨.txComplete, {}⟩] ++ ⟨.resume, {}⟩ :: afterPause))
    (p := fun tr _ => tr.all fun s => s.input.action != .suspend ||
      decide (s.pre.session.state = .transmittingResponse ∧ s.pre.inCallback = false))
    (by decide +kernel)
  obtain ⟨l, l₁, rfl, hl, hin⟩ := List.map_eq_append_iff.1 hin
  obtain ⟨s, l₂, rfl, hs, hin⟩ := List.map_eq_cons_iff.1 hin
  obtain ⟨mid, l₃, rfl, hmid, hin⟩ := List.map_eq_append_iff.1 hin
  obtain ⟨r, rest, rfl, hr, hrest⟩ := List.map_eq_cons_iff.1 hin
  have hsuspended := List.all_eq_true.1 h s (by simp)
  rw [hs, bne_self_eq_false, Bool.false_or, decide_eq_true_iff] at hsuspended
  have hpaused : ∀ e ∈ mid, pauses e = true := by
    intro e he
    obtain ⟨m, _, rfl, hm, hnil⟩ := List.map_eq_cons_iff.1 hmid
    obtain rfl := List.map_eq_nil_iff.1 hnil
    rw [List.mem_singleton.1 he, pauses, hm]
    rfl
  obtain ⟨e, hpre, hinput, hrun', -⟩ := pause_is_timeout hrun (by rw [hs])
    (by rw [hsuspended.1]; rfl) hsuspended.2 hpaused (by rw [hr])
  refine ⟨l, rest, e, t, hrun', ?_, by rw [hpre]; exact hsuspended.1⟩
  rw [List.map_append, List.map_cons, hl, hinput, hrest, hr]

end Session
end AliroUwb
