/-
# The range consensus filter

`src/ranging/RangeConsensusFilter.cpp` and its header.  A sample is plausible
when it lies in the configured interval; plausible samples that agree with
their predecessor build up a streak, and the filter trusts the range once the
streak is long enough.
-/

import AliroUwb.Core.Types

namespace AliroUwb
namespace Ranging

/-- `ranging::RangeIntegrityReport`. -/
structure RangeIntegrityReport where
  distance : DistanceMm := 0
  isPlausible : Bool := false
  stsQualityPassed : Bool := false
  stsQualityIndex : Int16 := 0
  consecutiveAgreeingCount : UInt8 := 0
  stsValidStreak : UInt8 := 0
  isTrusted : Bool := false
  nlosValid : Bool := false
  nlosDetected : Bool := false
  firstPathPowerDbQ8 : Int16 := 0
  rssiDbQ8 : Int16 := 0
  aoaUnstable : Bool := false
  deriving DecidableEq

/-- `ranging::RangeConsensusConfig`. -/
structure RangeConsensusConfig where
  minPlausibleDistance : DistanceMm := -300
  maxPlausibleDistance : DistanceMm := 20000
  maxConsecutiveSpreadMm : DistanceMm := 500
  requiredConsensusCount : UInt8 := 3
  minimumStsQualityThreshold : Int16 := 55
  deriving DecidableEq

/-- `ranging::RangeConsensusFilter`. -/
structure RangeConsensusFilter where
  config : RangeConsensusConfig := {}
  lastDistance : Option DistanceMm := none
  agreeingStreak : UInt8 := 0
  stsPassedStreak : UInt8 := 0
  lowestQualityInStreak : Int16 := 0
  trusted : Bool := false
  deriving DecidableEq

namespace RangeConsensusFilter

/-- `RangeConsensusFilter::reset`. -/
def reset (f : RangeConsensusFilter) : RangeConsensusFilter :=
  { f with
    lastDistance := none, agreeingStreak := 0, stsPassedStreak := 0,
    lowestQualityInStreak := 0, trusted := false }

/-- `RangeConsensusFilter::evaluatePlausibility`. -/
def evaluatePlausibility (f : RangeConsensusFilter) (distance : DistanceMm) : Bool :=
  f.config.minPlausibleDistance ≤ distance && distance ≤ f.config.maxPlausibleDistance

/-- `RangeConsensusFilter::evaluateStsQuality`. -/
def evaluateStsQuality (f : RangeConsensusFilter) (driverVerdict : Int32)
    (qualityIndex : Int16) : Bool :=
  0 ≤ driverVerdict && f.config.minimumStsQualityThreshold ≤ qualityIndex

/-- The STS streak after a plausible sample. -/
def ingestStsQuality (f : RangeConsensusFilter) (passed : Bool) (stsQualityMetric : Int16) :
    RangeConsensusFilter :=
  if passed then
    { f with
      lowestQualityInStreak :=
        if f.stsPassedStreak = 0 ∨ stsQualityMetric < f.lowestQualityInStreak then stsQualityMetric
        else f.lowestQualityInStreak
      stsPassedStreak :=
        if f.stsPassedStreak < f.config.requiredConsensusCount then f.stsPassedStreak + 1
        else f.stsPassedStreak }
  else { f with stsPassedStreak := 0, lowestQualityInStreak := stsQualityMetric }

/-- The agreement streak after a plausible sample. -/
def nextAgreeingStreak (f : RangeConsensusFilter) (distance : DistanceMm) : UInt8 :=
  match f.lastDistance with
  | some last =>
    let delta := (distance - last).abs
    if delta ≤ f.config.maxConsecutiveSpreadMm then
      if f.agreeingStreak < f.config.requiredConsensusCount then f.agreeingStreak + 1
      else f.agreeingStreak
    else 1
  | none => 1

/-- `RangeConsensusFilter::ingest`. -/
def ingest (f : RangeConsensusFilter) (distance : DistanceMm) (driverVerdict : Int32)
    (stsQualityMetric : Int16) : RangeIntegrityReport × RangeConsensusFilter :=
  if !f.evaluatePlausibility distance then
    ({ distance := distance, stsQualityIndex := stsQualityMetric }, f.reset)
  else
    let distance := if distance < 0 then 0 else distance
    let passed := f.evaluateStsQuality driverVerdict stsQualityMetric
    let f := f.ingestStsQuality passed stsQualityMetric
    let streak := f.nextAgreeingStreak distance
    let f := { f with
      agreeingStreak := streak
      lastDistance := some distance
      trusted := f.config.requiredConsensusCount ≤ streak }
    ({ distance := distance
       stsQualityIndex := stsQualityMetric
       isPlausible := true
       stsQualityPassed := passed
       stsValidStreak := f.stsPassedStreak
       consecutiveAgreeingCount := streak
       isTrusted := f.trusted }, f)

/-- `RangeConsensusFilter::latestTrustedDistance`. -/
def latestTrustedDistance (f : RangeConsensusFilter) : Option DistanceMm :=
  if f.trusted then f.lastDistance else none

/-- `RangeConsensusFilter::isTrusted`. -/
def isTrusted (f : RangeConsensusFilter) : Bool := f.trusted

/-- `RangeConsensusFilter::trustConfidenceScore`. -/
def trustConfidenceScore (f : RangeConsensusFilter) : UInt8 := f.agreeingStreak

/-- A reset filter is a fresh one with the same configuration. -/
theorem reset_eq (f : RangeConsensusFilter) : f.reset = { config := f.config } := rfl

/-- No sample changes the configuration. -/
theorem config_ingest (f : RangeConsensusFilter) (distance : DistanceMm) (driverVerdict : Int32)
    (stsQualityMetric : Int16) :
    (f.ingest distance driverVerdict stsQualityMetric).2.config = f.config := by
  have hsts (g : RangeConsensusFilter) (passed : Bool) :
      (g.ingestStsQuality passed stsQualityMetric).config = g.config := by
    cases passed <;> rfl
  unfold ingest
  split
  · rfl
  · exact hsts ..

end RangeConsensusFilter
end Ranging
end AliroUwb
