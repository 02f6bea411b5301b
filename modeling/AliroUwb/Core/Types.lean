/-
# Shared domain types

`include/uwb/core/Types.hpp`, `StrongType.hpp` and `StatusCode.hpp`.

The strong types of the C++ code (`SessionId`, `StsIndex`, …) wrap fixed-width
unsigned integers and are abbreviations of `UInt32` and `UInt16` here, so their
arithmetic wraps as the C++ arithmetic does.  `std::byte` is `UInt8`, a
`std::array<std::byte, n>` is `Bytes n`, a list that carries the proof of its
length, and a `std::span<const std::byte>` of run-time length is a plain
`List UInt8`.  `core::Result<T>` is `Except StatusCode T`.
-/

import Mathlib.Data.Nat.Notation

namespace AliroUwb

/-- `core::StatusCode`. -/
inductive StatusCode
  | success
  | invalidParameter
  | cryptoOperationFailed
  | authenticationFailed
  | bufferOverflow
  | malformedFrame
  | replayDetected
  | hardwareTimeout
  | transceiverError
  | lateTransmission
  | stsCorrelationFailed
  | sessionSuspended
  | invalidState
  | consensusNotReached
  | outOfMemory
  deriving DecidableEq, Repr

/-- `std::array<std::byte, n>`. -/
abbrev Bytes (n : ℕ) := { l : List UInt8 // l.length = n }

namespace Bytes

/-- The value-initialised array, `std::array<std::byte, n>{}`. -/
def zero (n : ℕ) : Bytes n := ⟨List.replicate n 0, List.length_replicate⟩

/-- The first `n` bytes of `l`, padded with zero bytes: a zero-initialised
array after `memcpy` of the first `min n l.size()` bytes of `l`. -/
def ofList (n : ℕ) (l : List UInt8) : Bytes n :=
  ⟨l.take n ++ List.replicate (n - l.length) 0, by
    rw [List.length_append, List.length_take, List.length_replicate]; omega⟩

/-- Two arrays, one after the other. -/
def append {m n : ℕ} (a : Bytes m) (b : Bytes n) : Bytes (m + n) :=
  ⟨a.1 ++ b.1, by rw [List.length_append, a.2, b.2]⟩

instance {n : ℕ} : Inhabited (Bytes n) := ⟨zero n⟩

end Bytes

/-- Byte `i` of a span; the code only reads below the length it has checked. -/
def byteAt (l : List UInt8) (i : ℕ) : UInt8 := l.getD i 0

/-- `core::SessionId`. -/
abbrev SessionId := UInt32

/-- `core::StsIndex`. -/
abbrev StsIndex := UInt32

/-- `core::BlockIndex`. -/
abbrev BlockIndex := UInt16

/-- `core::SlotIndex`. -/
abbrev SlotIndex := UInt16

/-- `core::FrameCounter`. -/
abbrev FrameCounter := UInt32

/-- `core::DistanceMm`. -/
abbrev DistanceMm := Int32

/-- `core::UwbChannel`. -/
inductive UwbChannel
  | channel5
  | channel9
  deriving DecidableEq, Repr

/-- `core::SfdType`. -/
inductive SfdType
  | ieee4a
  | ieee4z
  deriving DecidableEq, Repr

/-- `core::HoppingMode`. -/
inductive HoppingMode
  | disabled
  | enabled
  | continuousAes
  | continuousDefault
  | adaptiveAes
  | adaptiveDefault
  deriving DecidableEq, Repr

/-- `core::MacAddresses`. -/
structure MacAddresses where
  keySource : Bytes 4 := Bytes.zero 4
  destinationShort : UInt16 := 0xFFFF
  sourceLong : Bytes 8 := Bytes.zero 8
  deriving DecidableEq

instance : Inhabited MacAddresses := ⟨{}⟩

end AliroUwb
