/-
# Angle of arrival and line of sight

`include/uwb/ranging/NlosDetector.hpp` and `AoAEstimator.hpp`: the first-path
power test, the angle estimate and the detector that gates angles after jumps.
The conversion of a phase difference to an angle is floating-point arithmetic
and stays an arbitrary function (`AngleFormula`); the antenna spacing it takes
is the binary32 pattern of a C++ `float`.
-/

import AliroUwb.Core.Types

namespace AliroUwb
namespace Ranging

/-- `ranging::NlosVerdict`. -/
structure NlosVerdict where
  valid : Bool := false
  nlos : Bool := false
  deriving DecidableEq

/-- The margin of `NlosConfig`, 10 dB in Q8.8. -/
def nlosMarginDbQ8 : Int16 := 10 * 256

/-- `NlosDetector::evaluate` with the session's margin: the driver's error
sentinel `INT16_MIN` and zero powers are no evidence. -/
def evaluateNlos (firstPathPowerDbQ8 rssiDbQ8 : Int16) : NlosVerdict :=
  if firstPathPowerDbQ8 = Int16.minValue ∨ rssiDbQ8 = Int16.minValue ∨
      firstPathPowerDbQ8 = 0 ∨ rssiDbQ8 = 0 then {}
  else
    let excess := rssiDbQ8.toInt32 - firstPathPowerDbQ8.toInt32
    { valid := true, nlos := nlosMarginDbQ8.toInt32 < excess }

/-- `ranging::AoAEstimate`. -/
structure AoAEstimate where
  centiDegrees : Int32 := 0
  valid : Bool := false
  deriving DecidableEq

/-- `AoAEstimator::fromPdoa`. -/
abbrev AngleFormula := Int16 → UwbChannel → UInt32 → AoAEstimate

/-- `ranging::AoaStabilityConfig`. -/
structure AoaStabilityConfig where
  jumpThresholdCentiDeg : Int32 := 2000
  holdBlocks : UInt8 := 10
  warmupBlocks : UInt8 := 4
  deriving DecidableEq

/-- `ranging::AoaStabilityVerdict`. -/
structure AoaStabilityVerdict where
  jump : Bool := false
  gated : Bool := false
  deriving DecidableEq

/-- `ranging::AoaStabilityDetector`. -/
structure AoaStabilityDetector where
  config : AoaStabilityConfig
  refCentiDeg : Int32
  refValid : Bool
  hold : UInt8
  warmup : UInt8
  deriving DecidableEq

namespace AoaStabilityDetector

/-- The constructor. -/
def new (config : AoaStabilityConfig) : AoaStabilityDetector :=
  { config := config, refCentiDeg := 0, refValid := false, hold := 0
    warmup := config.warmupBlocks }

/-- `AoaStabilityDetector::reset`. -/
def reset (d : AoaStabilityDetector) : AoaStabilityDetector :=
  { d with refValid := false, refCentiDeg := 0, hold := 0, warmup := d.config.warmupBlocks }

/-- `AoaStabilityDetector::ingest`. -/
def ingest (d : AoaStabilityDetector) (aoaCentiDeg : Int32) :
    AoaStabilityVerdict × AoaStabilityDetector :=
  let jump := d.refValid &&
    decide (d.config.jumpThresholdCentiDeg < (aoaCentiDeg - d.refCentiDeg).abs)
  let hold := if jump then d.config.holdBlocks else d.hold
  let ref := if d.refValid then d.refCentiDeg + (aoaCentiDeg - d.refCentiDeg) / 2 else aoaCentiDeg
  ({ jump := jump, gated := decide (d.warmup ≠ 0) || decide (hold ≠ 0) },
   { d with
     refValid := true
     refCentiDeg := ref
     warmup := if d.warmup ≠ 0 then d.warmup - 1 else 0
     hold := if hold ≠ 0 then hold - 1 else 0 })

/-- `AoaStabilityDetector::isGated`. -/
def isGated (d : AoaStabilityDetector) : Bool := decide (d.hold ≠ 0) || decide (d.warmup ≠ 0)

/-- A reset detector is a newly constructed one. -/
theorem reset_eq (d : AoaStabilityDetector) : d.reset = new d.config := rfl

end AoaStabilityDetector
end Ranging
end AliroUwb
