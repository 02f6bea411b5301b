/-
# Double-sided two-way ranging

`src/ranging/DistanceEstimator.cpp`.  The C++ code computes in `int64_t` and
narrows to `int32_t`; `Int64` and `Int32` do the same, with the wrap-around of
two's complement where the C++ arithmetic overflows.
-/

import AliroUwb.Core.Types

namespace AliroUwb
namespace Ranging

/-- `ranging::DoubleSidedTwrTimestamps`. -/
structure DoubleSidedTwrTimestamps where
  round1Dtu : UInt32 := 0
  reply1Dtu : UInt32 := 0
  round2Dtu : UInt32 := 0
  reply2Dtu : UInt32 := 0
  deriving DecidableEq, Repr

/-- `static_cast<int64_t>` of a `uint32_t`. -/
def toInt64 (v : UInt32) : Int64 := v.toUInt64.toInt64

/-- `DistanceEstimator::calculateSignedTofTicks`. -/
def calculateSignedTofTicks (ts : DoubleSidedTwrTimestamps) : Int32 :=
  let r1 := toInt64 ts.round1Dtu
  let r2 := toInt64 ts.round2Dtu
  let rep1 := toInt64 ts.reply1Dtu
  let rep2 := toInt64 ts.reply2Dtu
  let numerator := r1 * r2 - rep1 * rep2
  let denominator := r1 + r2 + rep1 + rep2
  if denominator = 0 then 0 else (numerator / denominator).toInt32

/-- `DistanceEstimator::calculateDistance`. -/
def calculateDistance (timestamps : DoubleSidedTwrTimestamps) (antennaDelayBiasMm : DistanceMm) :
    Except StatusCode DistanceMm :=
  let totalInterval := toInt64 timestamps.round1Dtu + toInt64 timestamps.round2Dtu +
    toInt64 timestamps.reply1Dtu + toInt64 timestamps.reply2Dtu
  if totalInterval = 0 then .error .invalidParameter
  else
    let tofTicks := calculateSignedTofTicks timestamps
    let distanceCalculated := (tofTicks.toInt64 * 4692 / 1000).toInt32
    .ok (distanceCalculated + antennaDelayBiasMm)

end Ranging
end AliroUwb
