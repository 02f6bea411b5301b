/-
# What the angles of a session say of its results

Each delivered result says whether its angle has jumped, and counts a gated angle as a sign
that there is no line of sight.  The detector behind it is not visible from outside, and it
lives on through suspensions; but whoever receives the results can redo what it does
(`gating_recomputed`): the angles that it has seen are those of the results delivered since
the session was configured, and which of them it gates follows from the jumps that these
results report.
-/

import AliroUwb.Ranging.AngleGating
import AliroUwb.Session.InvalidPdoa
import AliroUwb.Session.Reanchoring
import AliroUwb.Session.Resynchronisation
import AliroUwb.Session.TrustedExchanges
import Mathlib.Data.List.DropRight

namespace AliroUwb
namespace Ranging
namespace AoaStabilityDetector

/-! ### The detector and the past -/

/-- What the detector holds depends on the angles so far. -/
theorem after_congr (config : AoaStabilityConfig) {f g : ℕ → Int32} {i : ℕ}
    (h : ∀ j < i, f j = g j) : after config f i = after config g i := by
  induction i with
  | zero => rfl
  | succ i ih => rw [after, after, ih fun j hj => h j (by omega), h i (by omega)]

/-- A verdict depends on the angles up to its own. -/
theorem verdict_congr (config : AoaStabilityConfig) {f g : ℕ → Int32} {i : ℕ}
    (h : ∀ j ≤ i, f j = g j) : verdict config f i = verdict config g i := by
  rw [verdict, verdict, after_congr config fun j hj => h j (by omega), h i (Nat.le_refl i)]

end AoaStabilityDetector
end Ranging

namespace Session

open Stepwise Crypto Protocol Ranging Transceiver AoaStabilityDetector

variable {P : Platform}

/-! ### The results with an angle -/

/-- A result that is delivered with a valid angle. -/
def Output.angled? : Output → Option RangingResult
  | .range _ result => if result.aoaValid then some result else none
  | _ => none

/-- The results of a record that have a valid angle, in order. -/
def angledResults (tr : List Event) : List RangingResult :=
  tr.flatMap fun e => e.output.filterMap Output.angled?

/-- Angle number `j`. -/
def angleAt (rs : List RangingResult) (j : ℕ) : Int32 := (rs[j]?.map (·.aoaCentiDegrees)).getD 0

/-- The first path of the Final is too weak for a line of sight. -/
def weakFirstPath (result : RangingResult) : Bool :=
  (evaluateNlos result.integrity.firstPathPowerDbQ8 result.integrity.rssiDbQ8).nlos

/-- The angles of the first results are among those of more. -/
theorem angleAt_append {rs rs' : List RangingResult} {j : ℕ} (hj : j < rs.length) :
    angleAt (rs ++ rs') j = angleAt rs j := by
  rw [angleAt, angleAt, List.getElem?_append_left hj]

/-- The angle of the last result. -/
theorem angleAt_length (rs : List RangingResult) (result : RangingResult) :
    angleAt (rs ++ [result]) rs.length = result.aoaCentiDegrees := by
  rw [angleAt, List.getElem?_concat_length]
  rfl

/-- What a step delivers with an angle. -/
theorem filterMap_angled_of_range {e : Event} (he : (machine P).Steps e) {callback : ℕ}
    {result : RangingResult} (hr : .range callback result ∈ e.output) :
    e.output.filterMap Output.angled? = if result.aoaValid then [result] else [] := by
  obtain ⟨c, hd, -, hout⟩ := delivered_of_range he hr
  rw [hout] at hr ⊢
  cases hd with
  | mk =>
    obtain ⟨-, rfl⟩ : callback = _ ∧ result = _ := by simpa [System.enter] using hr
    simp only [System.enter, List.nil_append, List.filterMap_cons, Output.angled?,
      List.filterMap_nil]
    split_ifs <;> rfl

/-- A step that delivers nothing delivers no angle. -/
theorem filterMap_angled_of_undelivered {e : Event} (h : delivers e = false) :
    e.output.filterMap Output.angled? = [] := by
  refine List.filterMap_eq_nil_iff.2 fun o ho => ?_
  have hnone := List.any_eq_false.1 h o ho
  cases o with
  | range => exact absurd rfl hnone
  | _ => rfl

/-! ### Runs -/

/-- The detector of `x` has seen the angles of `rs`, and each of `rs` reports its verdict. -/
structure Gauging (config : AoaStabilityConfig) (callback : ℕ) (rs : List RangingResult)
    (x : System) : Prop where
  callback : x.session.callback = some callback
  detector : x.session.aoaStability = after config (angleAt rs) rs.length
  unstable : ∀ i r, rs[i]? = some r →
    r.integrity.aoaUnstable = (verdict config (angleAt rs) i).jump

variable {config : AoaStabilityConfig} {callback : ℕ} {rs : List RangingResult}

/-- **One more angle.** -/
theorem Gauging.snoc {x : System} {result : RangingResult} {y : System}
    (h : Gauging config callback rs x) (hcallback : y.session.callback = some callback)
    (hvalid : result.aoaValid = true)
    (hgauged : Gauged x.session.aoaStability result y.session.aoaStability) :
    Gauging config callback (rs ++ [result]) y := by
  have hbefore : after config (angleAt (rs ++ [result])) rs.length =
      after config (angleAt rs) rs.length :=
    after_congr config fun j hj => angleAt_append hj
  refine ⟨hcallback, ?_, fun i r hi => ?_⟩
  · rw [hgauged.detector, if_pos hvalid, List.length_append, List.length_singleton, after,
      hbefore, angleAt_length, h.detector]
  · rcases lt_or_ge i rs.length with hlt | hge
    · rw [List.getElem?_append_left hlt] at hi
      rw [h.unstable i r hi]
      exact congrArg _ (verdict_congr config fun j hj => (angleAt_append (by omega)).symm)
    · have hlt := (List.getElem?_eq_some_iff.1 hi).1
      rw [List.length_append, List.length_singleton] at hlt
      obtain rfl : i = rs.length := by omega
      rw [List.getElem?_concat_length] at hi
      obtain rfl := Option.some.inj hi
      rw [hgauged.unstable, hvalid, Bool.true_and, verdict, hbefore, angleAt_length, h.detector]

/-- **Each step gauges what it delivers**, if it does not configure. -/
theorem gauging_step {e : Event} (he : (machine P).Steps e)
    (hno : e.input.action.configures = false) (h : Gauging config callback rs e.pre) :
    Gauging config callback (rs ++ e.output.filterMap Output.angled?) e.post := by
  have hcallback : e.post.session.callback = some callback := by
    obtain ⟨-, c, hc, hpost, -⟩ := served_of_steps he
    rw [hpost]
    exact (hc.sameConfig hno).callback.trans h.callback
  rcases measured_of_steps he hno h.callback with ⟨hnone, -, hdetector⟩ | ⟨result, hr, -, hgauged⟩
  · rw [filterMap_angled_of_undelivered hnone, List.append_nil]
    exact ⟨hcallback, hdetector.trans h.detector, h.unstable⟩
  · rw [filterMap_angled_of_range he hr]
    split_ifs with hvalid
    · exact h.snoc hcallback hvalid hgauged
    · rw [List.append_nil]
      refine ⟨hcallback, ?_, h.unstable⟩
      rw [hgauged.detector, if_neg hvalid, h.detector]

/-- A run gauges all that it delivers. -/
theorem gauging_run {x t : System} {tr : List Event} (h : (machine P).Run x tr t)
    (hno : ∀ e ∈ tr, e.input.action.configures = false) (hpre : Gauging config callback rs x) :
    Gauging config callback (rs ++ angledResults tr) t :=
  h.invariant_emitted (J := Gauging config callback) _ hno hpre
    fun _ _ he hno hpre => gauging_step he hno hpre

/-! ### What the results say -/

/-- The reference after the angles of `rs`: the first of them, moved half-way to each other. -/
def angleReference (rs : List RangingResult) : Option Int32 :=
  rs.foldl (fun ref r => match ref with
    | none => some r.aoaCentiDegrees
    | some ref => some (ref + (r.aoaCentiDegrees - ref) / 2)) none

/-- The angle is more than 20 degrees from the reference, if there is one. -/
def jumps (rs : List RangingResult) (aoaCentiDeg : Int32) : Bool :=
  (angleReference rs).any fun ref => decide (2000 < (aoaCentiDeg - ref).abs)

/-- The reference of the results is that of the detector. -/
theorem angleReference_eq (config : AoaStabilityConfig) (rs : List RangingResult) :
    angleReference rs = if (after config (angleAt rs) rs.length).refValid
      then some (after config (angleAt rs) rs.length).refCentiDeg else none := by
  induction rs using List.reverseRecOn with
  | nil => rfl
  | append_singleton rs result ih =>
    have hbefore : after config (angleAt (rs ++ [result])) rs.length =
        after config (angleAt rs) rs.length :=
      after_congr config fun j hj => angleAt_append hj
    rw [List.length_append, List.length_singleton, after, hbefore, angleAt_length, angleReference,
      List.foldl_append, ← angleReference, ih]
    cases hvalid : (after config (angleAt rs) rs.length).refValid <;> simp [ingest, hvalid]

/-- The verdict on the next angle, by the reference. -/
theorem jump_eq_jumps (rs : List RangingResult) (result : RangingResult) :
    (verdict {} (angleAt (rs ++ [result])) rs.length).jump = jumps rs result.aoaCentiDegrees := by
  have hbefore : after {} (angleAt (rs ++ [result])) rs.length =
      after {} (angleAt rs) rs.length :=
    after_congr {} fun j hj => angleAt_append hj
  have hconfig := config_after {} (angleAt rs) rs.length
  rw [jumps, angleReference_eq {}, verdict, hbefore, angleAt_length]
  cases hvalid : (after {} (angleAt rs) rs.length).refValid <;> simp [ingest, hvalid, hconfig]

/-- An angle among the last ten. -/
theorem exists_mem_rtake_iff {n : ℕ} {p : RangingResult → Prop} :
    (∃ r ∈ rs.rtake n, p r) ↔ ∃ j r, rs[j]? = some r ∧ rs.length ≤ j + n ∧ p r := by
  constructor
  · rintro ⟨r, hr, hp⟩
    obtain ⟨k, hk⟩ := List.mem_iff_getElem?.1 hr
    rw [List.rtake.eq_def, List.getElem?_drop] at hk
    exact ⟨_, r, hk, by omega, hp⟩
  · rintro ⟨j, r, hj, hn, hp⟩
    have hlt := (List.getElem?_eq_some_iff.1 hj).1
    refine ⟨r, List.mem_iff_getElem?.2 ⟨j - (rs.length - n), ?_⟩, hp⟩
    rw [List.rtake.eq_def, List.getElem?_drop, ← hj]
    congr 1
    omega

/-- **What is gated, by the results.** -/
theorem Gauging.gated_iff {x : System} {result : RangingResult}
    (h : Gauging {} callback (rs ++ [result]) x) :
    (verdict {} (angleAt (rs ++ [result])) rs.length).gated = true ↔
      (rs ++ [result]).length ≤ 4 ∨
        ∃ r ∈ (rs ++ [result]).rtake 10, r.integrity.aoaUnstable = true := by
  rw [AoaStabilityDetector.gated_iff, exists_mem_rtake_iff, List.length_append,
    List.length_singleton]
  refine or_congr (by rfl) ?_
  constructor
  · rintro ⟨j, hj, hlt, hjump⟩
    have hj' : j < (rs ++ [result]).length := by
      rw [List.length_append, List.length_singleton]
      omega
    have hget := List.getElem?_eq_getElem hj'
    have hhold : rs.length < j + 10 := hlt
    exact ⟨j, _, hget, by omega, (h.unstable j _ hget).trans hjump⟩
  · rintro ⟨j, r, hget, hlen, hunstable⟩
    have hj := (List.getElem?_eq_some_iff.1 hget).1
    rw [List.length_append, List.length_singleton] at hj
    have hhold : rs.length < j + (10 : UInt8).toNat := hlen
    exact ⟨j, by omega, hhold, (h.unstable j r hget).symm.trans hunstable⟩

/-- **A successful call that configures has seen no angle.** -/
theorem gauging_of_configured {e : Event} (he : (machine P).Steps e)
    (hconf : e.input.action.configures = true) (hok : succeeded e = true)
    (hconfig : e.pre.session.aoaStability.config = {})
    (hcallback : e.post.session.callback = some callback) : Gauging {} callback [] e.post := by
  obtain ⟨c, c', h, hpost, -, -, -, -, hdetector⟩ := configured_of_succeeded he hconf hok
  have hnew : c.session.aoaStability = .new {} := by
    rcases hdetector with hnew | hreset
    · exact hnew
    · rw [hreset, reset_eq, hconfig]
  obtain ⟨_, _, _, _, _, _, _, rfl, -, -⟩ := h.frame
  refine ⟨hcallback, ?_, fun i r hi => by cases hi⟩
  rw [hpost]
  exact hnew

/-- **The flags of a result follow from the results.**  In every run from the construction on,
after a successful `start` or `resumeWithAnchor` and until the session is configured anew, a
result without a valid angle tells only of its first path.  One with a valid angle reports
a jump when its angle is more than 20 degrees from the reference that the angles delivered
since then make; and it tells of a missing line of sight when its first path does, when it is
one of the first four such results, or when one of the last ten, itself included, reports a
jump. -/
theorem gating_recomputed {filter : RangeConsensusFilter} {l tr : List Event} {e₀ d : Event}
    {t : System} (h : (machine P).Run (System.initial filter) (l ++ e₀ :: (tr ++ [d])) t)
    (hconf : e₀.input.action.configures = true) (hok : succeeded e₀ = true)
    (hno : ∀ e ∈ tr, e.input.action.configures = false) {result : RangingResult}
    (hr : .range callback result ∈ d.output) :
    (result.aoaValid = false → result.integrity.aoaUnstable = false ∧
      result.integrity.nlosDetected = weakFirstPath result) ∧
    (result.aoaValid = true →
      result.integrity.aoaUnstable = jumps (angledResults tr) result.aoaCentiDegrees ∧
      (result.integrity.nlosDetected = true ↔ weakFirstPath result = true ∨
        (angledResults tr ++ [result]).length ≤ 4 ∨
        ∃ r ∈ (angledResults tr ++ [result]).rtake 10, r.integrity.aoaUnstable = true)) := by
  obtain ⟨m, hbefore, hm, he₀, hrun⟩ := Machine.run_append.1 h
  obtain ⟨hmiddle, hd, -⟩ := hrun.at_step
  have hconfig : e₀.pre.session.aoaStability.config = {} := by
    rw [hm]
    exact detectorConfig_of_run hbefore
  obtain ⟨_, hdelivered, -, -⟩ := delivered_of_range hd hr
  have hnoD := Action.configures_of_isRadioEvent hdelivered.isRadioEvent
  have hgauging := gauging_run hmiddle hno
    (gauging_of_configured he₀ hconf hok hconfig (callback_of_range hmiddle hd hno hr))
  rw [List.nil_append] at hgauging
  have hgauged : Gauged d.pre.session.aoaStability result d.post.session.aoaStability := by
    rcases measured_of_steps hd hnoD hgauging.callback with ⟨hnone, -⟩ | ⟨r, hr', -, hgauged⟩
    · exact absurd (List.any_eq_true.2 ⟨_, hr, rfl⟩) (Bool.eq_false_iff.1 hnone)
    · exact range_unique hd hr' hr ▸ hgauged
  constructor
  · intro hinvalid
    refine ⟨?_, ?_⟩
    · rw [hgauged.unstable, hinvalid, Bool.false_and]
    · rw [hgauged.nlos, hinvalid, Bool.false_and, Bool.or_false, weakFirstPath]
  · intro hvalid
    have hnext := gauging_step hd hnoD hgauging
    rw [filterMap_angled_of_range hd hr, if_pos hvalid] at hnext
    have hunstable := hnext.unstable _ result List.getElem?_concat_length
    have hbefore' : after {} (angleAt (angledResults tr ++ [result])) (angledResults tr).length =
        d.pre.session.aoaStability :=
      (after_congr {} fun j hj => angleAt_append hj).trans hgauging.detector.symm
    have hverdict : (d.pre.session.aoaStability.ingest result.aoaCentiDegrees).1 =
        verdict {} (angleAt (angledResults tr ++ [result])) (angledResults tr).length := by
      rw [verdict, hbefore', angleAt_length]
    refine ⟨hunstable.trans (jump_eq_jumps _ _), ?_⟩
    rw [hgauged.nlos, hvalid, Bool.true_and, hverdict, Bool.or_eq_true, hnext.gated_iff,
      weakFirstPath]

/-- A genuine cycle whose Final has the reading `raw`. -/
def angledCycle (block : BlockIndex) (frameCounter : FrameCounter) (raw : Int16) : Cycle :=
  { sampleCycle block frameCounter with
    finalRx := { (sampleCycle block frameCounter).finalRx with pdoaRaw := raw, pdoaValid := true } }

/-- A delivered angle that jumps, after the results `rs`. -/
def Output.isJump (rs : List RangingResult) : Output → Bool
  | .range _ result => result.aoaValid && jumps rs result.aoaCentiDegrees
  | _ => false

/-- The hypotheses of `gating_recomputed` are satisfiable: of two angles the second jumps. -/
theorem gating_recomputed_sample : ∃ (e₀ d : Event) (tr : List Event) (t : System)
    (callback : ℕ) (result : RangingResult),
    (machine readingPlatform).Run (System.initial {}) (e₀ :: (tr ++ [d])) t ∧
      (e₀ :: (tr ++ [d])).map (·.input) = sampleStart sampleParams { enableAoA := true } ::
        ((angledCycle 0 1 0).legs ++ (angledCycle 1 2 3000).legs.take 5) ∧
      .range callback result ∈ d.output ∧ jumps (angledResults tr) result.aoaCentiDegrees = true ∧
      result.integrity.aoaUnstable = true ∧ result.integrity.nlosDetected = true := by
  obtain ⟨e₀, tr, t, hrun, hstart, hin, hok, h⟩ := Machine.exists_run_cons_of_exec
    (M := machine readingPlatform) (s := System.initial {})
    (i := sampleStart sampleParams { enableAoA := true })
    (l := (angledCycle 0 1 0).legs ++ (angledCycle 1 2 3000).legs.take 5) (q := succeeded)
    (p := fun tr _ => tr.all (fun e => !e.input.action.configures) &&
      tr.getLast?.any fun d => d.output.any (Output.isJump (angledResults tr.dropLast)))
    (by decide +kernel)
  simp only [Bool.and_eq_true, List.all_eq_true, Bool.not_eq_true', Option.any_eq_true] at h
  obtain ⟨hno, d, hlast, hd⟩ := h
  obtain ⟨tr₁, rfl⟩ := List.getLast?_eq_some_iff.1 hlast
  rw [List.dropLast_concat] at hd
  obtain ⟨o, ho, hjump⟩ := List.any_eq_true.1 hd
  cases o with
  | range callback result =>
    obtain ⟨hvalid, hjumps⟩ := Bool.and_eq_true_iff.1 hjump
    obtain ⟨hunstable, hnlos⟩ := (gating_recomputed (l := []) hrun (by rw [hstart]; rfl) hok
      (fun e he => hno e (List.mem_append_left _ he)) ho).2 hvalid
    refine ⟨e₀, d, tr₁, t, callback, result, hrun, List.cons_eq_cons.2 ⟨hstart, hin⟩, ho, hjumps,
      hunstable.trans hjumps, hnlos.2 (Or.inr (Or.inr ⟨result, ?_, hunstable.trans hjumps⟩))⟩
    rw [List.rtake_concat_succ]
    exact List.mem_append_right _ List.mem_cons_self
  | _ => cases hjump

end Session
end AliroUwb
