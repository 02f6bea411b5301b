/-
# What a trusted range says

The state of a `RangeConsensusFilter` after any sequence of samples and resets,
as a function of that sequence.

Only the samples since the last reset or implausible sample count (`current`).
Over these the filter keeps two streaks, each bounded by the required count: how
far back each distance agrees with the one before it, and how far back the STS
check was passed (`Represents`, `represents_after`).  Trust follows the first one
alone; the second one is reported next to it.  So a trusted range says that the
last samples are plausible and agree (`trusted_consensus`), and that they are
secure only if the reported STS streak is as long as the consensus.

`ingest_characterised` says all of it for one more sample after any calls.
-/

import AliroUwb.Library.SignedWords
import AliroUwb.Library.Streaks
import AliroUwb.Ranging.Consensus

namespace AliroUwb
namespace Ranging

open SignedWords Streaks

/-- The arguments of a call of `ingest`. -/
structure Sample where
  distance : DistanceMm
  driverVerdict : Int32
  stsQualityMetric : Int16
  deriving DecidableEq

/-- A call that changes the filter. -/
inductive FilterCall
  | ingest (sample : Sample)
  | reset
  deriving DecidableEq

namespace RangeConsensusFilter

/-- The filter after a call. -/
def call (f : RangeConsensusFilter) : FilterCall → RangeConsensusFilter
  | .ingest sample => (f.ingest sample.distance sample.driverVerdict sample.stsQualityMetric).2
  | .reset => f.reset

/-- A filter constructed with `config` after the calls of `history`, the newest
one first. -/
def after (config : RangeConsensusConfig) : List FilterCall → RangeConsensusFilter
  | [] => { config := config }
  | c :: past => (after config past).call c

end RangeConsensusFilter

/-! ### The samples that count -/

namespace Sample

/-- In the configured interval. -/
def Plausible (config : RangeConsensusConfig) (sample : Sample) : Prop :=
  config.minPlausibleDistance ≤ sample.distance ∧ sample.distance ≤ config.maxPlausibleDistance

/-- Plausibility can be computed. -/
instance (config : RangeConsensusConfig) (sample : Sample) :
    Decidable (sample.Plausible config) := inferInstanceAs (Decidable (_ ∧ _))

/-- The STS check. -/
def stsPassed (config : RangeConsensusConfig) (sample : Sample) : Bool :=
  0 ≤ sample.driverVerdict && config.minimumStsQualityThreshold ≤ sample.stsQualityMetric

/-- The distance that is kept: no less than zero. -/
def clamped (sample : Sample) : DistanceMm := if sample.distance < 0 then 0 else sample.distance

/-- Two kept distances differ by at most the configured spread. -/
def Agrees (config : RangeConsensusConfig) (a b : Sample) : Prop :=
  ((a.clamped.toInt - b.clamped.toInt).natAbs : ℤ) ≤ config.maxConsecutiveSpreadMm.toInt

/-- Agreement can be computed. -/
instance (config : RangeConsensusConfig) : DecidableRel (Agrees config) :=
  fun _ _ => inferInstanceAs (Decidable (_ ≤ _))

/-- A clamped distance is not negative. -/
theorem clamped_nonneg (sample : Sample) : 0 ≤ sample.clamped.toInt := by
  unfold clamped
  split_ifs with h
  · exact Int.le_refl _
  · exact Int.not_lt.1 fun hlt => h (Int32.lt_iff_toInt_lt.2 hlt)

end Sample

/-- The samples since the last reset or implausible sample, the newest one first. -/
def current (config : RangeConsensusConfig) : List FilterCall → List Sample
  | [] => []
  | .reset :: _ => []
  | .ingest sample :: past =>
    if sample.Plausible config then sample :: current config past else []

/-- The samples that count are the arguments of the newest calls. -/
theorem map_current_prefix (config : RangeConsensusConfig) (history : List FilterCall) :
    (current config history).map .ingest <+: history ∧
      ∀ sample ∈ current config history, sample.Plausible config := by
  induction history with
  | nil => exact ⟨List.nil_prefix, by simp [current]⟩
  | cons c past ih =>
    cases c with
    | reset => exact ⟨List.nil_prefix, by simp [current]⟩
    | ingest sample =>
      rw [current]
      split_ifs with h
      · exact ⟨List.cons_prefix_cons.2 ⟨rfl, ih.1⟩, List.forall_mem_cons.2 ⟨h, ih.2⟩⟩
      · exact ⟨List.nil_prefix, by simp⟩

/-! ### The state in terms of the samples -/

/-- **The filter holds the streaks of the samples that count.** -/
structure Represents (config : RangeConsensusConfig) (samples : List Sample)
    (f : RangeConsensusFilter) : Prop where
  config_eq : f.config = config
  last : f.lastDistance = samples.head?.map Sample.clamped
  agreeing : f.agreeingStreak.toNat =
    min config.requiredConsensusCount.toNat (chainStreak (Sample.Agrees config) samples)
  passed : f.stsPassedStreak.toNat =
    min config.requiredConsensusCount.toNat (passingStreak (Sample.stsPassed config) samples)
  trusted : f.trusted = true ↔
    config.requiredConsensusCount.toNat ≤ chainStreak (Sample.Agrees config) samples

/-- The difference of two kept distances does not overflow. -/
theorem abs_clamped_sub_le_iff {config : RangeConsensusConfig} {a b : Sample} :
    (a.clamped - b.clamped).abs ≤ config.maxConsecutiveSpreadMm ↔ a.Agrees config b := by
  have ha := a.clamped_nonneg
  have hb := b.clamped_nonneg
  have ha' := a.clamped.toInt_lt
  have hb' := b.clamped.toInt_lt
  have hsub : (a.clamped - b.clamped).toInt = a.clamped.toInt - b.clamped.toInt := by
    rw [Int32.toInt_sub, bmod_of_fits32 ⟨by omega, by omega⟩]
  rw [Int32.le_iff_toInt_le, toInt_abs_of_ne (by rw [hsub]; omega), hsub]
  rfl

/-- A counter that saturates at the required count. -/
theorem toNat_saturate {c K : UInt8} {n : ℕ} (h : c.toNat = min K.toNat n) :
    (if c < K then c + 1 else c).toNat = min K.toNat (n + 1) := by
  have hK := K.toNat_lt
  rw [← min_succ h]
  by_cases hlt : c.toNat < K.toNat
  · rw [if_pos (UInt8.lt_iff_toNat_lt.2 hlt), if_pos hlt, UInt8.toNat_add]
    exact Nat.mod_eq_of_lt (by change c.toNat + 1 < 256; omega)
  · rw [if_neg fun hc => hlt (UInt8.lt_iff_toNat_lt.1 hc), if_neg hlt]

/-- What a report says of the filter is what the filter holds. -/
theorem report_ingest (f : RangeConsensusFilter) (sample : Sample) :
    let r := f.ingest sample.distance sample.driverVerdict sample.stsQualityMetric
    r.1.isTrusted = r.2.trusted ∧ r.1.stsValidStreak = r.2.stsPassedStreak ∧
      r.1.consecutiveAgreeingCount = r.2.agreeingStreak := by
  dsimp only
  unfold RangeConsensusFilter.ingest
  split_ifs <;> exact ⟨rfl, rfl, rfl⟩

section

variable {config : RangeConsensusConfig} {samples : List Sample} {f : RangeConsensusFilter}

/-- `evaluatePlausibility` tests the plausibility of the sample. -/
theorem evaluatePlausibility_eq (hconfig : f.config = config) (sample : Sample) :
    f.evaluatePlausibility sample.distance = decide (sample.Plausible config) := by
  rw [RangeConsensusFilter.evaluatePlausibility, hconfig]
  exact (Bool.decide_and _ _).symm

/-- A constructed or reset filter has no samples. -/
theorem represents_nil (hK : 0 < config.requiredConsensusCount.toNat) :
    Represents config [] { config := config } where
  config_eq := rfl
  last := rfl
  agreeing := by simp [chainStreak]
  passed := by simp [passingStreak]
  trusted := by simp [chainStreak]; omega

/-- The agreement streak goes on or starts anew. -/
theorem toNat_nextAgreeingStreak (h : Represents config samples f)
    (hK : 0 < config.requiredConsensusCount.toNat) (sample : Sample) :
    (f.nextAgreeingStreak sample.clamped).toNat = min config.requiredConsensusCount.toNat
      (chainStreak (Sample.Agrees config) (sample :: samples)) := by
  have hone : min config.requiredConsensusCount.toNat 1 = 1 := by omega
  unfold RangeConsensusFilter.nextAgreeingStreak
  rw [h.last, h.config_eq]
  cases samples with
  | nil => exact hone.symm
  | cons b l =>
    rw [List.head?_cons, Option.map_some, chainStreak]
    dsimp only
    by_cases hagree : sample.Agrees config b
    · rw [if_pos (abs_clamped_sub_le_iff.2 hagree), if_pos hagree]
      exact toNat_saturate h.agreeing
    · rw [if_neg fun hle => hagree (abs_clamped_sub_le_iff.1 hle), if_neg hagree]
      exact hone.symm

/-- The STS streak goes on or ends. -/
theorem toNat_ingestStsQuality (h : Represents config samples f) (sample : Sample) :
    (f.ingestStsQuality (sample.stsPassed config) sample.stsQualityMetric).stsPassedStreak.toNat =
      min config.requiredConsensusCount.toNat
        (passingStreak (Sample.stsPassed config) (sample :: samples)) := by
  unfold RangeConsensusFilter.ingestStsQuality
  rw [passingStreak]
  cases hpassed : sample.stsPassed config with
  | true =>
    rw [if_pos rfl, if_pos rfl, h.config_eq]
    exact toNat_saturate h.passed
  | false => exact (Nat.min_zero _).symm

/-- **A plausible sample is added to the samples that count.** -/
theorem represents_ingest (h : Represents config samples f)
    (hK : 0 < config.requiredConsensusCount.toNat) {sample : Sample}
    (hinside : sample.Plausible config) :
    Represents config (sample :: samples) (f.call (.ingest sample)) := by
  have hstreak := toNat_nextAgreeingStreak h hK sample
  have hsts := toNat_ingestStsQuality h sample
  have hquality : f.evaluateStsQuality sample.driverVerdict sample.stsQualityMetric =
      sample.stsPassed config := by
    rw [RangeConsensusFilter.evaluateStsQuality, h.config_eq]
    rfl
  -- the STS branch touches neither the configuration nor what the agreement is read from
  have hframe (g : RangeConsensusFilter) (passed : Bool) (metric : Int16) (d : DistanceMm) :
      (g.ingestStsQuality passed metric).config = g.config ∧
        (g.ingestStsQuality passed metric).nextAgreeingStreak d = g.nextAgreeingStreak d := by
    cases passed <;> exact ⟨rfl, rfl⟩
  obtain ⟨hconfig, hnext⟩ := hframe f (sample.stsPassed config) sample.stsQualityMetric
    sample.clamped
  rw [RangeConsensusFilter.call, RangeConsensusFilter.ingest,
    evaluatePlausibility_eq h.config_eq, if_neg (by simp [hinside])]
  dsimp only
  rw [hquality]
  change Represents config (sample :: samples)
    { f.ingestStsQuality (sample.stsPassed config) sample.stsQualityMetric with
      agreeingStreak := (f.ingestStsQuality (sample.stsPassed config)
        sample.stsQualityMetric).nextAgreeingStreak sample.clamped
      lastDistance := some sample.clamped
      trusted := (f.ingestStsQuality (sample.stsPassed config)
        sample.stsQualityMetric).config.requiredConsensusCount ≤
          (f.ingestStsQuality (sample.stsPassed config)
            sample.stsQualityMetric).nextAgreeingStreak sample.clamped }
  rw [hnext, hconfig, h.config_eq]
  refine ⟨hconfig.trans h.config_eq, rfl, hstreak, hsts, ?_⟩
  rw [decide_eq_true_iff, UInt8.le_iff_toNat_le, hstreak]
  omega

/-- **The filter after any calls.** -/
theorem represents_after (hK : 0 < config.requiredConsensusCount.toNat)
    (history : List FilterCall) :
    Represents config (current config history) (RangeConsensusFilter.after config history) := by
  induction history with
  | nil => exact represents_nil hK
  | cons c past ih =>
    have hreset : (RangeConsensusFilter.after config past).reset = { config := config } := by
      rw [RangeConsensusFilter.reset_eq, ih.config_eq]
    cases c with
    | reset =>
      rw [RangeConsensusFilter.after, RangeConsensusFilter.call, hreset]
      exact represents_nil hK
    | ingest sample =>
      rw [current]
      split_ifs with h
      · exact represents_ingest ih hK h
      · rw [RangeConsensusFilter.after, RangeConsensusFilter.call, RangeConsensusFilter.ingest,
          evaluatePlausibility_eq ih.config_eq, if_pos (by simp [h]), hreset]
        exact represents_nil hK

end

/-! ### Trust -/

/-- What makes a range trusted: the newest samples, as many as are required, are
plausible and agree.  `streak` is the STS streak reported with them. -/
structure ConsensusOf (config : RangeConsensusConfig) (samples : List Sample)
    (streak : UInt8) : Prop where
  length : samples.length = config.requiredConsensusCount.toNat
  allPlausible : ∀ sample ∈ samples, sample.Plausible config
  agree : samples.IsChain (Sample.Agrees config)
  secure : streak = config.requiredConsensusCount ↔
    ∀ sample ∈ samples, sample.stsPassed config = true

/-- **A trusted filter rests on its newest calls.** -/
theorem trusted_consensus {config : RangeConsensusConfig}
    (hK : 0 < config.requiredConsensusCount.toNat) (history : List FilterCall)
    (h : (RangeConsensusFilter.after config history).trusted = true) :
    ∃ samples, samples.map FilterCall.ingest <+: history ∧
      ConsensusOf config samples (RangeConsensusFilter.after config history).stsPassedStreak := by
  have hrep := represents_after hK history
  obtain ⟨hnewest, hinside⟩ := map_current_prefix config history
  obtain ⟨hlen, hchain⟩ := le_chainStreak_iff.1 (hrep.trusted.1 h)
  refine ⟨(current config history).take config.requiredConsensusCount.toNat, ?_, ?_, ?_, hchain, ?_⟩
  · rw [List.map_take]
    exact (List.take_prefix _ _).trans hnewest
  · rw [List.length_take]
    omega
  · exact fun sample hmem => hinside sample (List.mem_of_mem_take hmem)
  · have hstreak : config.requiredConsensusCount.toNat ≤
        passingStreak (Sample.stsPassed config) (current config history) ↔ _ :=
      le_passingStreak_iff.trans (and_iff_right hlen)
    rw [← UInt8.toNat_inj, hrep.passed, ← hstreak]
    omega

/-- A trusted filter has a distance to offer, and no other has. -/
theorem isSome_latestTrustedDistance {config : RangeConsensusConfig}
    (hK : 0 < config.requiredConsensusCount.toNat) (history : List FilterCall) :
    (RangeConsensusFilter.after config history).latestTrustedDistance.isSome =
      (RangeConsensusFilter.after config history).trusted := by
  have hrep := represents_after hK history
  unfold RangeConsensusFilter.latestTrustedDistance
  cases h : (RangeConsensusFilter.after config history).trusted with
  | false => rfl
  | true =>
    rw [if_pos rfl, hrep.last, Option.isSome_map]
    cases hl : current config history with
    | nil =>
      have hle := hrep.trusted.1 h
      rw [hl, chainStreak] at hle
      omega
    | cons sample l => rfl

/-! ### One more sample -/

/-- An implausible sample leaves a filter without a past. -/
theorem after_implausible {config : RangeConsensusConfig} {sample : Sample}
    (h : ¬ sample.Plausible config) (future history : List FilterCall) :
    RangeConsensusFilter.after config (future ++ .ingest sample :: history) =
      RangeConsensusFilter.after config future := by
  have hconfig (l : List FilterCall) : (RangeConsensusFilter.after config l).config = config := by
    induction l with
    | nil => rfl
    | cons c l ih =>
      cases c with
      | ingest sample => exact (RangeConsensusFilter.config_ingest ..).trans ih
      | reset => exact ih
  induction future with
  | nil =>
    change (RangeConsensusFilter.after config history).call (.ingest sample) = { config := config }
    rw [RangeConsensusFilter.call, RangeConsensusFilter.ingest,
      evaluatePlausibility_eq (hconfig history), if_pos (by simp [h]),
      RangeConsensusFilter.reset_eq, hconfig history]
  | cons c future ih => rw [List.cons_append, RangeConsensusFilter.after, ih]; rfl

/-- A trusted filter offers its last sample. -/
theorem latestTrustedDistance_eq {config : RangeConsensusConfig} {sample : Sample}
    {samples : List Sample} {f : RangeConsensusFilter}
    (h : Represents config (sample :: samples) f) :
    f.latestTrustedDistance =
      if config.requiredConsensusCount.toNat ≤
          chainStreak (Sample.Agrees config) (sample :: samples)
      then some sample.clamped else none := by
  rw [RangeConsensusFilter.latestTrustedDistance, h.last]
  exact if_congr h.trusted rfl rfl

/-- The distances that are kept are not negative, so their difference fits. -/
theorem fits_difference {config : RangeConsensusConfig} {samples : List Sample}
    {f : RangeConsensusFilter} (h : Represents config samples f) {last : DistanceMm}
    (hlast : f.lastDistance = some last) (sample : Sample) :
    Fits 32 (sample.clamped.toInt - last.toInt) ∧
      Fits 32 (sample.clamped.toInt - last.toInt).natAbs := by
  rw [h.last, Option.map_eq_some_iff] at hlast
  obtain ⟨newest, -, rfl⟩ := hlast
  have ha := sample.clamped_nonneg
  have hb := newest.clamped_nonneg
  have ha' := sample.clamped.toInt_lt
  have hb' := newest.clamped.toInt_lt
  unfold Fits
  omega

/-- **What one more sample makes of the filter**, after any calls.  A plausible
sample is reported with the two streaks it belongs to, each up to the required
count; it is trusted if and only if enough of the newest samples agree, and is
then the distance on offer.  An implausible one leaves a filter that goes on
like a new one.  The difference that the agreement is decided by never
overflows. -/
theorem ingest_characterised (config : RangeConsensusConfig)
    (hK : 0 < config.requiredConsensusCount.toNat) (history : List FilterCall) (sample : Sample) :
    let K := config.requiredConsensusCount.toNat
    let f := RangeConsensusFilter.after config history
    let r := f.ingest sample.distance sample.driverVerdict sample.stsQualityMetric
    (sample.Plausible config → ∃ L S,
      Longest (List.IsChain (Sample.Agrees config)) (sample :: current config history) L ∧
      Longest (fun l => ∀ a ∈ l, a.stsPassed config = true)
        (sample :: current config history) S ∧
      1 ≤ L ∧ r.1.consecutiveAgreeingCount.toNat = min K L ∧ r.1.stsValidStreak.toNat = min K S ∧
      (r.1.isTrusted = true ↔ K ≤ L) ∧ (r.2.isTrusted = true ↔ K ≤ L) ∧
      r.2.trustConfidenceScore.toNat = min K L ∧
      r.2.latestTrustedDistance = if K ≤ L then some sample.clamped else none) ∧
    (¬ sample.Plausible config → ∀ future,
      RangeConsensusFilter.after config (future ++ .ingest sample :: history) =
        RangeConsensusFilter.after config future) ∧
    ∀ last, f.lastDistance = some last → Fits 32 (sample.clamped.toInt - last.toInt) ∧
      Fits 32 (sample.clamped.toInt - last.toInt).natAbs := by
  intro K f r
  have hrep := represents_after hK history
  refine ⟨fun hinside => ?_, fun h future => after_implausible h future history,
    fun last hlast => fits_difference hrep hlast sample⟩
  have hnext : Represents config (sample :: current config history) r.2 :=
    represents_ingest hrep hK hinside
  obtain ⟨htrusted, hpassed, hagreeing⟩ := report_ingest f sample
  have hL : 1 ≤ chainStreak (Sample.Agrees config) (sample :: current config history) :=
    le_chainStreak_iff.2 ⟨Nat.succ_le_succ (Nat.zero_le _), .singleton sample⟩
  refine ⟨_, _, longest_chainStreak _ _, longest_passingStreak _ _, hL, ?_, ?_, ?_, hnext.trusted,
    hnext.agreeing, latestTrustedDistance_eq hnext⟩
  · exact (congrArg UInt8.toNat hagreeing).trans hnext.agreeing
  · exact (congrArg UInt8.toNat hpassed).trans hnext.passed
  · exact (Bool.eq_iff_iff.1 htrusted).trans hnext.trusted

/-- The hypothesis of `ingest_characterised` is satisfiable: the third of three
samples that agree is trusted, and the second is on the way. -/
theorem ingest_characterised_sample :
    let sample : Sample := ⟨1000, 0, 60⟩
    let f := RangeConsensusFilter.after {} [.ingest sample]
    ((f.ingest 1000 0 60).1.isTrusted = false ∧
      (RangeConsensusFilter.after {} [.ingest sample, .ingest sample]).ingest 1000 0 60 =
        (f.ingest 1000 0 60).2.ingest 1000 0 60) ∧
    ∃ L S, Longest (List.IsChain (Sample.Agrees {})) [sample, sample, sample] L ∧
      Longest (fun l => ∀ a ∈ l, a.stsPassed {} = true) [sample, sample, sample] S ∧ 1 ≤ L := by
  refine ⟨by decide, ?_⟩
  obtain ⟨L, S, hL, hS, hpos, -⟩ := (ingest_characterised {} (by decide)
    [.ingest ⟨1000, 0, 60⟩, .ingest ⟨1000, 0, 60⟩] ⟨1000, 0, 60⟩).1 (by decide)
  exact ⟨L, S, hL, hS, hpos⟩

end Ranging
end AliroUwb
