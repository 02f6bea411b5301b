/-
# No frame is accepted twice

PrePolls are accepted at three places, one of them deferred: on the bootstrap
path, and from the stash while listening or after a Final.  All three check and
update one replay state, so the accepted frames of a run come in the order their
counters are in.

A `Tracker` is a quantity that the replay state remembers the last value of and
an acceptance continues; `continues_served` says once that every step continues it,
wherever the acceptances happen.  `no_replay` instantiates it three times: with
the counters of the PrePolls, their STS indices in serial order, and the
counters of the FinalData frames.
-/

import AliroUwb.Session.Steps

namespace AliroUwb
namespace Session

open Stepwise Crypto Protocol Ranging Transceiver

variable {P : Platform}

/-- The PrePoll that an output reports the acceptance of. -/
def Output.prePoll? : Output → Option (MacHeader × PrePollPayload)
  | .acceptedPrePoll mhr prePoll => some (mhr, prePoll)
  | _ => none

/-- The FinalData that an output reports the acceptance of. -/
def Output.finalData? : Output → Option (MacHeader × FinalDataPayload)
  | .acceptedFinalData mhr finalData => some (mhr, finalData)
  | _ => none

/-- The PrePolls accepted in a run, in their order. -/
def acceptedPrePolls (tr : List Event) : List (MacHeader × PrePollPayload) :=
  tr.flatMap fun e => e.output.filterMap Output.prePoll?

/-- The FinalData frames accepted in a run, in their order. -/
def acceptedFinalData (tr : List Event) : List (MacHeader × FinalDataPayload) :=
  tr.flatMap fun e => e.output.filterMap Output.finalData?

/-- A quantity of the accepted frames that the replay state remembers the last
value of. -/
structure Tracker (β : Type) where
  lt : β → β → Prop
  last : ReplayState → Option β
  ofPrePoll : MacHeader → PrePollPayload → Option β
  ofFinalData : MacHeader → FinalDataPayload → Option β
  prePoll : ∀ {r mhr prePoll},
    (r.hasReceivedPrePollCounter → r.lastPrePollCounter < mhr.frameCounter) →
    (r.hasPrePollStsIndex → 0 < (prePoll.pollStsIndex - r.lastPrePollStsIndex).toInt32) →
    Machine.Chained lt (last r) (ofPrePoll mhr prePoll).toList (last (r.acceptPrePoll mhr prePoll))
  finalData : ∀ {r mhr finalData},
    (r.hasReceivedFinalDataCounter → r.lastFinalDataCounter < mhr.frameCounter) →
    Machine.Chained lt (last r) (ofFinalData mhr finalData).toList (last (r.acceptFinalData mhr))

namespace Tracker

variable {β : Type} (T : Tracker β)

/-- The values in an output. -/
def emit : Output → Option β
  | .acceptedPrePoll mhr prePoll => T.ofPrePoll mhr prePoll
  | .acceptedFinalData mhr finalData => T.ofFinalData mhr finalData
  | _ => none

/-- From `c` to `c'` the tracked quantity goes on. -/
def Continues (c c' : Ctx) : Prop :=
  ∃ os, c'.outputs = c.outputs ++ os ∧
    Machine.Chained T.lt (T.last c.session.replay) (os.filterMap T.emit) (T.last c'.session.replay)

variable {T}

/-- Two stretches of a handler, one after the other. -/
theorem Continues.trans {c₁ c₂ c₃ : Ctx} (h₁ : T.Continues c₁ c₂) (h₂ : T.Continues c₂ c₃) :
    T.Continues c₁ c₃ := by
  obtain ⟨os₁, ho₁, hc₁⟩ := h₁
  obtain ⟨os₂, ho₂, hc₂⟩ := h₂
  refine ⟨os₁ ++ os₂, by rw [ho₂, ho₁, List.append_assoc], ?_⟩
  rw [List.filterMap_append]
  exact hc₁.append hc₂

/-- Plain outputs have no values. -/
theorem filterMap_of_plain {os : List Output} (h : os.all Output.plain = true) :
    os.filterMap T.emit = [] := by
  rw [List.filterMap_eq_nil_iff]
  intro o ho
  have hplain := List.all_eq_true.1 h o ho
  cases o <;> first | rfl | cases hplain

/-- Nothing accepted, nothing changed. -/
theorem Continues.silent {c c' : Ctx} {os : List Output} (ho : c'.outputs = c.outputs ++ os)
    (hr : c'.session.replay = c.session.replay) (hs : os.all Output.plain = true) :
    T.Continues c c' := ⟨os, ho, by rw [filterMap_of_plain hs, hr]; rfl⟩

/-- The acceptance of a PrePoll goes on from the value before. -/
theorem Continues.prePoll {c c' : Ctx} {frame : List UInt8} {mhr : MacHeader}
    {prePoll : PrePollPayload} {os : List Output}
    (ho : c'.outputs = c.outputs ++ .acceptedPrePoll mhr prePoll :: os)
    (hr : c'.session.replay = c.session.replay.acceptPrePoll mhr prePoll)
    (hs : os.filterMap T.emit = []) (h : AcceptablePrePoll P c.session frame mhr prePoll) :
    T.Continues c c' := by
  refine ⟨_, ho, ?_⟩
  rw [hr]
  have hc := T.prePoll h.counter h.ahead
  cases hp : T.ofPrePoll mhr prePoll with
  | none => rw [hp] at hc; simpa [emit, hp, hs] using hc
  | some b => rw [hp] at hc; simpa [emit, hp, hs] using hc

/-- The acceptance of a FinalData goes on from the value before. -/
theorem Continues.finalData {c c' : Ctx} {frame : List UInt8} {mhr : MacHeader}
    {finalData : FinalDataPayload} {os : List Output}
    (ho : c'.outputs = c.outputs ++ .acceptedFinalData mhr finalData :: os)
    (hr : c'.session.replay = c.session.replay.acceptFinalData mhr)
    (hs : os.filterMap T.emit = []) (h : AcceptableFinalData P c.session frame mhr finalData) :
    T.Continues c c' := by
  refine ⟨_, ho, ?_⟩
  rw [hr]
  have hc := @Tracker.finalData _ T _ _ finalData h.counter
  cases hp : T.ofFinalData mhr finalData with
  | none => rw [hp] at hc; simpa [emit, hp, hs] using hc
  | some b => rw [hp] at hc; simpa [emit, hp, hs] using hc

/-- Refreshing the warm keys accepts nothing. -/
theorem continues_refreshed {c c' : Ctx} (h : Refreshed P c c') : T.Continues c c' := by
  obtain ⟨_, _, _, rfl, -⟩ := h.frame
  exact .silent (List.append_nil _).symm rfl rfl

/-- **The stash continues the sequence**, whether or not its frame is accepted. -/
theorem continues_unstashed {c c' : Ctx} (h : Unstashed P c c') : T.Continues c c' := by
  cases h with
  | empty => exact .silent (List.append_nil _).symm rfl rfl
  | rejected => exact .silent (List.append_nil _).symm rfl rfl
  | ineligible hlen hcheck =>
    exact .prePoll rfl rfl rfl (acceptable_checkPrePollFrame hcheck)
  | eligible hlen hcheck hparity hfaults hwarm =>
    refine Continues.trans ?_ (continues_refreshed hwarm)
    exact .prePoll rfl rfl rfl (acceptable_checkPrePollFrame hcheck)

/-- Going back to listening accepts nothing. -/
theorem continues_listen (env : Env) (c : Ctx) : T.Continues c (c.listen env) :=
  .silent rfl rfl rfl

/-- **Whatever a step does short of configuring, the sequence goes on.** -/
theorem continues_served {i : Input} {c c' : Ctx} (h : Served P i c c')
    (hno : i.action.configures = false) : T.Continues c c' := by
  cases h with
  | ignored => exact .silent (List.append_nil _).symm rfl rfl
  | rearmed => exact .silent rfl rfl rfl
  | abandoned _ _ _ h =>
    refine Continues.trans ?_ ((continues_listen _ _).trans (continues_unstashed h))
    exact .silent (List.append_nil _).symm rfl rfl
  | ineligible _ _ _ _ hcheck _ _ h =>
    refine Continues.trans ?_ ((continues_listen _ _).trans (continues_unstashed h))
    exact .prePoll rfl rfl rfl (acceptable_checkPrePollFrame hcheck)
  | unkeyed _ _ _ _ hcheck _ _ h =>
    refine Continues.trans ?_ ((continues_listen _ _).trans (continues_unstashed h))
    exact .prePoll (List.append_assoc ..) rfl rfl (acceptable_checkPrePollFrame hcheck)
  | @bootstrapped event _ _ _ _ armed _ _ _ _ _ _ hcheck _ _ _ h =>
    refine Continues.trans ?_ (continues_refreshed h)
    refine .prePoll (List.append_assoc ..) rfl ?_ (acceptable_checkPrePollFrame hcheck)
    exact filterMap_of_plain (plain_armCommands c.session i.env event armed)
  | warmed => exact .silent rfl rfl (plain_armCommands ..)
  | responded => exact .silent rfl rfl rfl
  | late _ _ _ _ _ h =>
    refine Continues.trans ?_ ((continues_listen _ _).trans (continues_unstashed h))
    exact .silent rfl rfl rfl
  | transmitted =>
    exact .silent rfl rfl (all_window rfl rfl (fun _ => rfl) fun _ => rfl)
  | finalReceived _ _ h =>
    refine Continues.trans ?_ (continues_unstashed h)
    exact .silent rfl rfl (all_window rfl rfl (fun _ => rfl) fun _ => rfl)
  | undelivered _ _ _ hcheck _ h =>
    refine Continues.trans ?_ ((continues_listen _ _).trans (continues_unstashed h))
    exact .finalData rfl rfl rfl (acceptable_checkFinalDataFrame hcheck)
  | delivered h =>
    cases h with
    | mk _ _ _ hcheck => exact .finalData rfl rfl rfl (acceptable_checkFinalDataFrame hcheck)
  | callbackReturned _ h =>
    refine Continues.trans ?_ ((continues_listen _ _).trans (continues_unstashed h))
    exact .silent (List.append_nil _).symm rfl rfl
  | stopped | suspended | refused => exact .silent rfl rfl rfl
  | resumed _ _ h =>
    refine ((continues_listen _ _).trans (continues_unstashed h)).trans ?_
    exact .silent rfl rfl rfl
  | anchorFailed haction | anchored haction | startFailed haction | unconfigured haction
  | started haction => rw [haction] at hno; cases hno

/-- The values of a run, in order. -/
theorem chained_run {x t : System} {tr : List Event} (h : (machine P).Run x tr t)
    (hno : ∀ e ∈ tr, e.input.action.configures = false) :
    Machine.Chained T.lt (T.last x.session.replay) (tr.flatMap fun e => e.output.filterMap T.emit)
      (T.last t.session.replay) := by
  refine h.chain (fun x => T.last x.session.replay) _ hno fun e he hgood => ?_
  obtain ⟨-, c, hc, hpost, hout⟩ := served_of_steps he
  obtain ⟨os, ho, hchain⟩ := continues_served (T := T) hc hgood
  have hos : c.outputs = os := by simpa [System.enter] using ho
  rw [hout, hpost, hos]
  exact hchain

end Tracker

/-! ### The three sequences -/

/-- The frame counters of the accepted PrePolls increase. -/
def prePollCounters : Tracker FrameCounter where
  lt := (· < ·)
  last r := if r.hasReceivedPrePollCounter then some r.lastPrePollCounter else none
  ofPrePoll mhr _ := some mhr.frameCounter
  ofFinalData _ _ := none
  prePoll {r mhr prePoll} hcounter _ := by
    refine ⟨fun y hy => ?_, rfl⟩
    by_cases h : r.hasReceivedPrePollCounter = true
    · rw [if_pos h] at hy
      exact Option.some.inj hy ▸ hcounter h
    · rw [if_neg h] at hy
      cases hy
  finalData _ := rfl

/-- The STS indices of the accepted PrePolls move ahead. -/
def prePollStsIndices : Tracker StsIndex where
  lt a b := 0 < (b - a).toInt32
  last r := if r.hasPrePollStsIndex then some r.lastPrePollStsIndex else none
  ofPrePoll _ prePoll := some prePoll.pollStsIndex
  ofFinalData _ _ := none
  prePoll {r mhr prePoll} _ hahead := by
    refine ⟨fun y hy => ?_, rfl⟩
    by_cases h : r.hasPrePollStsIndex = true
    · rw [if_pos h] at hy
      exact Option.some.inj hy ▸ hahead h
    · rw [if_neg h] at hy
      cases hy
  finalData _ := rfl

/-- The frame counters of the accepted FinalData frames increase. -/
def finalDataCounters : Tracker FrameCounter where
  lt := (· < ·)
  last r := if r.hasReceivedFinalDataCounter then some r.lastFinalDataCounter else none
  ofPrePoll _ _ := none
  ofFinalData mhr _ := some mhr.frameCounter
  prePoll _ _ := rfl
  finalData {r mhr finalData} hcounter := by
    refine ⟨fun y hy => ?_, rfl⟩
    by_cases h : r.hasReceivedFinalDataCounter = true
    · rw [if_pos h] at hy
      exact Option.some.inj hy ▸ hcounter h
    · rw [if_neg h] at hy
      cases hy

/-- A tracked sequence, read off the accepted PrePolls. -/
theorem map_acceptedPrePolls {β : Type} {T : Tracker β} {f : MacHeader × PrePollPayload → β}
    (hf : ∀ o, (Output.prePoll? o).map f = T.emit o) (tr : List Event) :
    (acceptedPrePolls tr).map f = tr.flatMap fun e => e.output.filterMap T.emit := by
  simp only [acceptedPrePolls, List.map_flatMap, List.map_filterMap, hf]

/-- What is tracked of the accepted FinalData frames is what the steps emit. -/
theorem map_acceptedFinalData {β : Type} {T : Tracker β} {f : MacHeader × FinalDataPayload → β}
    (hf : ∀ o, (Output.finalData? o).map f = T.emit o) (tr : List Event) :
    (acceptedFinalData tr).map f = tr.flatMap fun e => e.output.filterMap T.emit := by
  simp only [acceptedFinalData, List.map_flatMap, List.map_filterMap, hf]

/-- Frames with increasing counters have different headers. -/
theorem nodup_headers {α : Type} {l : List (MacHeader × α)}
    (h : (l.map fun a => a.1.frameCounter).Pairwise (· < ·)) : (l.map Prod.fst).Nodup := by
  have hne := h.imp fun hlt => UInt32.ne_of_lt hlt
  rw [List.pairwise_map] at hne
  rw [List.Nodup, List.pairwise_map]
  exact hne.imp fun hne heq => hne (congrArg MacHeader.frameCounter heq)

/-- A delivery comes with the acceptance of the FinalData it evaluates. -/
theorem Delivered.output {i : Input} {x : System} {c : Ctx} (h : Delivered P i (x.enter i) c) :
    ∃ mhr finalData callback result,
      c.outputs = [.acceptedFinalData mhr finalData, .range callback result] := by
  cases h with
  | mk => exact ⟨_, _, _, _, rfl⟩

/-- **No replay.**  As long as the session is not configured anew, the frame
counters of the accepted PrePolls increase strictly, their STS indices move
ahead, and the frame counters of the accepted FinalData frames increase
strictly.  So no two accepted frames of a kind have the same header, and since
every result is put out together with the acceptance of its FinalData, no
FinalData frame produces two. -/
theorem no_replay {x t : System} {tr : List Event} (h : (machine P).Run x tr t)
    (hno : ∀ e ∈ tr, e.input.action.configures = false) :
    ((acceptedPrePolls tr).map fun a => a.1.frameCounter).Pairwise (· < ·) ∧
    ((acceptedPrePolls tr).map fun a => a.2.pollStsIndex).IsChain
      (fun a b => 0 < (b - a).toInt32) ∧
    ((acceptedFinalData tr).map fun a => a.1.frameCounter).Pairwise (· < ·) ∧
    ((acceptedPrePolls tr).map Prod.fst).Nodup ∧ ((acceptedFinalData tr).map Prod.fst).Nodup ∧
    ∀ e ∈ tr, ∀ callback result, .range callback result ∈ e.output →
      ∃ mhr finalData, e.output = [.acceptedFinalData mhr finalData, .range callback result] := by
  have hlt : IsTrans FrameCounter (· < ·) := ⟨fun _ _ _ => UInt32.lt_trans⟩
  have hcounters := (Tracker.chained_run (T := prePollCounters) h hno).isChain
  have hindices := (Tracker.chained_run (T := prePollStsIndices) h hno).isChain
  have hfinals := (Tracker.chained_run (T := finalDataCounters) h hno).isChain
  rw [← map_acceptedPrePolls (f := fun a => a.1.frameCounter) (by rintro ⟨⟩ <;> rfl)] at hcounters
  rw [← map_acceptedPrePolls (f := fun a => a.2.pollStsIndex) (by rintro ⟨⟩ <;> rfl)] at hindices
  rw [← map_acceptedFinalData (f := fun a => a.1.frameCounter) (by rintro ⟨⟩ <;> rfl)] at hfinals
  have hpc := (List.isChain_iff_pairwise (R := (· < ·))).1 hcounters
  have hpf := (List.isChain_iff_pairwise (R := (· < ·))).1 hfinals
  refine ⟨hpc, hindices, hpf, nodup_headers hpc, nodup_headers hpf, ?_⟩
  intro e he callback result hr
  obtain ⟨tr₁, tr₂, rfl⟩ := List.append_of_mem he
  obtain ⟨c, hd, -, hout⟩ := delivered_of_range h.at_step.2.1 hr
  obtain ⟨mhr, finalData, callback', result', hos⟩ := hd.output
  rw [hout, hos] at hr
  obtain ⟨rfl, rfl⟩ : callback = callback' ∧ result = result' := by simpa using hr
  exact ⟨mhr, finalData, hout.trans hos⟩

/-- The hypotheses of `no_replay` are satisfiable: a started session takes part in
an exchange and then hears its PrePoll and its FinalData again. -/
theorem no_replay_sample : ∃ x tr t, (machine .sample).Run x tr t ∧
    tr.map (·.input) = sampleExchange ++ [⟨.callbackReturn, {}⟩] ++ sampleExchange ∧
    (acceptedPrePolls tr).length = 1 ∧ (acceptedFinalData tr).length = 1 ∧
    ((acceptedPrePolls tr).map Prod.fst).Nodup ∧ ((acceptedFinalData tr).map Prod.fst).Nodup := by
  obtain ⟨tr, t, hrun, hin, h⟩ := Machine.exists_run_of_exec (M := machine .sample)
    (s := System.initial {}) (l := sampleStart sampleParams {} :: (sampleExchange ++
      [⟨.callbackReturn, {}⟩] ++ sampleExchange))
    (p := fun tr _ => decide ((acceptedPrePolls tr.tail).length = 1) &&
      decide ((acceptedFinalData tr.tail).length = 1) &&
      tr.tail.all fun e => !e.input.action.configures) (by decide +kernel)
  cases tr with
  | nil => cases hin
  | cons e tr =>
    simp only [List.tail_cons, Bool.and_eq_true, List.all_eq_true, Bool.not_eq_true'] at h
    obtain ⟨-, -, hrun⟩ := hrun
    obtain ⟨-, -, -, hp, hf, -⟩ := no_replay hrun h.2
    exact ⟨_, tr, t, hrun, (List.cons.inj hin).2, of_decide_eq_true h.1.1,
      of_decide_eq_true h.1.2, hp, hf⟩

end Session
end AliroUwb
