/-
# The CCC key derivation engine

`src/crypto/CccKeyDerivationEngine.cpp`.  Every derivation is a chain of
AES-CMACs over `counter || label || 0x00 || context || length`
(`kdf108`, NIST SP 800-108 in counter mode).  The C++ code assembles that
message in a 64-byte buffer; the longest message the engine builds has 48
bytes (`deriveSlotKeys`: a 7-byte label and a 32-byte context).

`SlotCryptoMaterial` is what one slot needs: the STS key and IV of the ranging
segment (`durskKey`, `stsIv`) and the key of the data frames (`dudskKey`).
-/

import AliroUwb.Core.ByteOrder
import AliroUwb.Crypto.Provider

namespace AliroUwb
namespace Crypto

/-- `LabelUpsk`, "UPSK". -/
def labelUpsk : List UInt8 := [0x55, 0x50, 0x53, 0x4B]

/-- `LabelUrsk`, "URSK". -/
def labelUrsk : List UInt8 := [0x55, 0x52, 0x53, 0x4B]

/-- `LabelUdsk`, "UDSK". -/
def labelUdsk : List UInt8 := [0x55, 0x44, 0x53, 0x4B]

/-- `LabelSalt`, "SALT". -/
def labelSalt : List UInt8 := [0x53, 0x41, 0x4C, 0x54]

/-- `LabelUrskKt`, "URSK_KT". -/
def labelUrskKt : List UInt8 := [0x55, 0x52, 0x53, 0x4B, 0x5F, 0x4B, 0x54]

/-- `LabelUad`, "UAD". -/
def labelUad : List UInt8 := [0x55, 0x41, 0x44]

/-- `ZeroContext3`. -/
def zeroContext3 : List UInt8 := [0, 0, 0]

/-- `sanitizeReservedAddress`: a reserved address (`0xFFFE` or `0xFFFF` for two
bytes, all ones otherwise) loses its top bit. -/
def sanitizeReservedAddress {n : ℕ} (addr : Bytes n) : Bytes n :=
  let isReserved :=
    if n = 2 then byteAt addr.1 0 == 0xFF && byteAt addr.1 1 ≥ 0xFE
    else addr.1.all (· == 0xFF)
  if isReserved then ⟨addr.1.modifyHead (· &&& 0x7F), by rw [List.length_modifyHead]; exact addr.2⟩
  else addr

/-- The message `kdf108` hands to AES-CMAC. -/
def kdf108Message (counter : UInt32) (label context : List UInt8) (lengthBits : UInt32) :
    List UInt8 :=
  writeBe32 counter ++ label ++ [0x00] ++ context ++ writeBe32 lengthBits

variable (P : CryptoProvider)

/-- `CccKeyDerivationEngine::kdf108`. -/
def kdf108 (key : List UInt8) (counter : UInt32) (label context : List UInt8)
    (lengthBits : UInt32) : CryptoM (Bytes 16) :=
  aesCmac P key (kdf108Message counter label context lengthBits)

/-- `CccKeyDerivationEngine::deriveMupsk1`. -/
def deriveMupsk1 (ursk : Bytes 32) : CryptoM (Bytes 16) :=
  kdf108 P ursk.1 1 labelUpsk zeroContext3 384

/-- `CccKeyDerivationEngine::deriveMupsk2`. -/
def deriveMupsk2 (ursk : Bytes 32) : CryptoM (Bytes 32) := do
  let part1 ← kdf108 P ursk.1 2 labelUpsk zeroContext3 384
  let part2 ← kdf108 P ursk.1 3 labelUpsk zeroContext3 384
  return part1.append part2

/-- `CccKeyDerivationEngine::deriveMursk`. -/
def deriveMursk (ursk : Bytes 32) : CryptoM (Bytes 32) := do
  let part1 ← kdf108 P ursk.1 1 labelUrsk zeroContext3 256
  let part2 ← kdf108 P ursk.1 2 labelUrsk zeroContext3 256
  return part1.append part2

/-- `CccKeyDerivationEngine::deriveSaltedHash`. -/
def deriveSaltedHash (ursk : Bytes 32) (rangingConfig : List UInt8) : CryptoM (Bytes 16) := do
  let salt ← kdf108 P ursk.1 1 labelSalt zeroContext3 128
  let paddedSalt := (Bytes.zero 16).append salt
  aesCmac P paddedSalt.1 rangingConfig

/-- `CccKeyDerivationEngine::deriveAddresses`. -/
def deriveAddresses (mupsk2 : Bytes 32) (stsIndex0 : StsIndex) : CryptoM MacAddresses := do
  let uad ← kdf108 P mupsk2.1 1 labelUad (writeBe32 stsIndex0) 128
  let ksLow := sanitizeReservedAddress (n := 2) ⟨[byteAt uad.1 0, byteAt uad.1 1], rfl⟩
  let ksHigh := sanitizeReservedAddress (n := 2) ⟨[byteAt uad.1 2, byteAt uad.1 3], rfl⟩
  let destShort := sanitizeReservedAddress (n := 2) ⟨[byteAt uad.1 4, byteAt uad.1 5], rfl⟩
  let srcLong := sanitizeReservedAddress (Bytes.ofList 8 (uad.1.drop 6))
  return {
    keySource := ksHigh.append ksLow
    destinationShort :=
      (byteAt destShort.1 0).toUInt16 <<< 8 ||| (byteAt destShort.1 1).toUInt16
    sourceLong := srcLong }

/-- `CccKeyDerivationEngine::SlotCryptoMaterial`. -/
structure SlotCryptoMaterial where
  durskKey : Bytes 16 := Bytes.zero 16
  stsIv : Bytes 16 := Bytes.zero 16
  dudskKey : Bytes 16 := Bytes.zero 16
  deriving DecidableEq

/-- `CccKeyDerivationEngine::deriveStsIv`: the salted hash with its bytes 8 to
11 advanced by the STS index. -/
def deriveStsIv (saltedHash : Bytes 16) (stsIndex : StsIndex) : Bytes 16 :=
  let vCounter := readBe32 saltedHash.1 8 + stsIndex
  Bytes.ofList 16 (saltedHash.1.take 8 ++ writeBe32 vCounter ++ saltedHash.1.drop 12)

/-- The STS index of the first slot of the round that `stsIndex` lies in. -/
def roundBase (stsIndex : StsIndex) (slotsPerRound : UInt16) (stsIndex0 : StsIndex) : StsIndex :=
  let relative := stsIndex - stsIndex0
  stsIndex - relative % slotsPerRound.toUInt32

/-- The bits of a round base, most significant first, one to a byte. -/
def bitContext (baseStsIndex : StsIndex) : List UInt8 :=
  (List.range 32).map fun b => ((baseStsIndex >>> (31 - UInt32.ofNat b)) &&& 1).toUInt8

/-- `CccKeyDerivationEngine::deriveSlotKeys`. -/
def deriveSlotKeys (mursk : Bytes 32) (saltedHash : Bytes 16) (stsIndex : StsIndex)
    (slotsPerRound : UInt16) (stsIndex0 : StsIndex) : CryptoM SlotCryptoMaterial :=
  if slotsPerRound = 0 then throw .invalidParameter
  else do
    let context := bitContext (roundBase stsIndex slotsPerRound stsIndex0)
    let kt1 ← kdf108 P mursk.1 1 labelUrskKt context 256
    let kt2 ← kdf108 P mursk.1 2 labelUrskKt context 256
    let urskKt := kt1.append kt2
    let dkeyContext := saltedHash.1 ++ zeroContext3
    let durskKey ← kdf108 P urskKt.1 1 labelUrsk dkeyContext 128
    let dudskKey ← kdf108 P urskKt.1 1 labelUdsk dkeyContext 128
    return { durskKey, dudskKey, stsIv := deriveStsIv saltedHash stsIndex }

/-! ### What the engine returns does not depend on the faults -/

variable {P}

/-- A derived key is lost to a fault or right. -/
theorem steady_kdf108 (key : List UInt8) (counter : UInt32) (label context : List UInt8)
    (lengthBits : UInt32) : Steady (kdf108 P key counter label context lengthBits) :=
  .call _

/-- `deriveMupsk1` is steady. -/
theorem steady_deriveMupsk1 (ursk : Bytes 32) : Steady (deriveMupsk1 P ursk) :=
  steady_kdf108 ..

/-- `deriveMupsk2` is steady. -/
theorem steady_deriveMupsk2 (ursk : Bytes 32) : Steady (deriveMupsk2 P ursk) :=
  (steady_kdf108 ..).bind fun _ => (steady_kdf108 ..).bind fun _ => .pure _

/-- `deriveMursk` is steady. -/
theorem steady_deriveMursk (ursk : Bytes 32) : Steady (deriveMursk P ursk) :=
  (steady_kdf108 ..).bind fun _ => (steady_kdf108 ..).bind fun _ => .pure _

/-- `deriveSaltedHash` is steady. -/
theorem steady_deriveSaltedHash (ursk : Bytes 32) (rangingConfig : List UInt8) :
    Steady (deriveSaltedHash P ursk rangingConfig) :=
  (steady_kdf108 ..).bind fun _ => .call _

/-- `deriveAddresses` is steady. -/
theorem steady_deriveAddresses (mupsk2 : Bytes 32) (stsIndex0 : StsIndex) :
    Steady (deriveAddresses P mupsk2 stsIndex0) :=
  (steady_kdf108 ..).bind fun _ => .pure _

/-- `deriveSlotKeys` is steady. -/
theorem steady_deriveSlotKeys (mursk : Bytes 32) (saltedHash : Bytes 16) (stsIndex : StsIndex)
    (slotsPerRound : UInt16) (stsIndex0 : StsIndex) :
    Steady (deriveSlotKeys P mursk saltedHash stsIndex slotsPerRound stsIndex0) := by
  unfold deriveSlotKeys
  split_ifs
  · exact .throw _
  · exact (steady_kdf108 ..).bind fun _ => (steady_kdf108 ..).bind fun _ =>
      (steady_kdf108 ..).bind fun _ => (steady_kdf108 ..).bind fun _ => .pure _

end Crypto
end AliroUwb
