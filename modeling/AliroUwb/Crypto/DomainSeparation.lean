/-
# The derivations do not collide

`kdf108` puts a label and a context of any length into a buffer of 64 bytes,
with a zero byte between them and no length in front of either.  Which message
AES-CMAC gets is then all that tells two derivations under one key apart.

`kdf108Buffer` is the assembly of that message with every write held to the
buffer.  It makes the message of `kdf108Message` if that fits
(`kdf108Buffer_eq`); and as long as no label has a zero byte in it, the first zero
byte after the counter is the separator, so that the message determines
counter, label, context and length (`message_inj`).

`Derivation` lists what the engine derives: every call of `kdf108` in
`CccKeyDerivationEngine.cpp` is one of them (`EngineDerives`).  They all fit, and
no two of them have the same message, under the same key or not.
-/

import AliroUwb.Crypto.SlotKeys
import AliroUwb.Library.WireFormat
import Mathlib.Logic.Function.Basic

namespace AliroUwb
namespace Crypto

open WireFormat

/-! ### The buffer -/

/-- The arguments of `kdf108`, but for the key. -/
structure KdfInput where
  counter : UInt32
  label : List UInt8
  context : List UInt8
  lengthBits : UInt32
  deriving DecidableEq

/-- The message of `kdf108`. -/
def KdfInput.message (x : KdfInput) : List UInt8 :=
  kdf108Message x.counter x.label x.context x.lengthBits

/-- The size of `kdf108`'s buffer. -/
def kdfBufferSize : ℕ := 64

/-- A write into a buffer, or `none` if it runs over the end. -/
def writeChecked (buffer : List UInt8) (offset : ℕ) (bytes : List UInt8) :
    Option (List UInt8) :=
  if offset + bytes.length ≤ buffer.length then some (overwrite buffer offset bytes) else none

/-- The bytes that `kdf108` hands to AES-CMAC, or `none` if a write runs over the
end of the buffer. -/
def kdf108Buffer (x : KdfInput) : Option (List UInt8) := do
  let buffer := List.replicate kdfBufferSize 0
  let offset := 0
  let buffer ← writeChecked buffer offset (writeBe32 x.counter)
  let offset := offset + 4
  let buffer ← writeChecked buffer offset x.label
  let offset := offset + x.label.length
  let buffer ← writeChecked buffer offset [0x00]
  let offset := offset + 1
  let buffer ← (if x.context.isEmpty then some buffer else writeChecked buffer offset x.context)
  let offset := offset + x.context.length
  let buffer ← writeChecked buffer offset (writeBe32 x.lengthBits)
  let offset := offset + 4
  return buffer.take offset

/-- `kdf108` with every write held to the buffer. -/
def kdf108Checked (P : CryptoProvider) (key : List UInt8) (x : KdfInput) :
    Option (CryptoM (Bytes 16)) :=
  (kdf108Buffer x).map (aesCmac P key)

/-- One write after the others: it needs the room, and the bytes come to stand
behind those already written. -/
theorem writeChecked_filledWith {output written : List UInt8} {offset : ℕ}
    (hoff : written.length = offset) (hin : offset ≤ output.length) (bytes : List UInt8) :
    writeChecked (filledWith output written) offset bytes =
      if offset + bytes.length ≤ output.length then some (filledWith output (written ++ bytes))
      else none := by
  rw [writeChecked, length_filledWith (by omega), overwrite_filledWith _ _ hoff]

/-- An empty context is no exception. -/
theorem writeChecked_context {output written : List UInt8} {offset : ℕ}
    (hoff : written.length = offset) (hin : offset ≤ output.length) (context : List UInt8) :
    (if context.isEmpty then some (filledWith output written)
      else writeChecked (filledWith output written) offset context) =
      if offset + context.length ≤ output.length
      then some (filledWith output (written ++ context)) else none := by
  cases context with
  | nil =>
    rw [List.append_nil, List.length_nil, Nat.add_zero, if_pos hin]
    rfl
  | cons b context => exact writeChecked_filledWith hoff hin (b :: context)

/-- **`kdf108` builds its message if and only if that fits the buffer.** -/
theorem kdf108Buffer_eq (x : KdfInput) : kdf108Buffer x =
    if 9 + x.label.length + x.context.length ≤ 64 then some x.message else none := by
  obtain ⟨output, hsize, hstart⟩ : ∃ output : List UInt8, output.length = 64 ∧
      List.replicate kdfBufferSize 0 = filledWith output [] := ⟨_, List.length_replicate, rfl⟩
  have hcounter : (writeBe32 x.counter).length = 4 := length_writeBe32 _
  unfold kdf108Buffer
  simp only [hstart, Option.bind_eq_bind, Nat.zero_add]
  -- the writes, each behind the last
  rw [writeChecked_filledWith List.length_nil (by omega), if_pos (by omega), List.nil_append,
    Option.bind_some]
  by_cases hlabel : 4 + x.label.length ≤ 64
  swap
  · rw [writeChecked_filledWith hcounter (by omega), if_neg (by omega), if_neg (by omega)]
    rfl
  rw [writeChecked_filledWith hcounter (by omega), if_pos (by omega), Option.bind_some]
  by_cases hzero : 4 + x.label.length + 1 ≤ 64
  swap
  · rw [writeChecked_filledWith (by simp) (by omega), if_neg (by simp; omega), if_neg (by omega)]
    rfl
  rw [writeChecked_filledWith (by simp) (by omega), if_pos (by simp; omega), Option.bind_some]
  by_cases hcontext : 4 + x.label.length + 1 + x.context.length ≤ 64
  swap
  · rw [writeChecked_context (by simp; omega) (by omega), if_neg (by omega), if_neg (by omega)]
    rfl
  rw [writeChecked_context (by simp; omega) (by omega), if_pos (by omega), Option.bind_some]
  by_cases hbits : 9 + x.label.length + x.context.length ≤ 64
  swap
  · rw [writeChecked_filledWith (by simp; omega) (by omega), if_neg (by simp; omega),
      if_neg hbits]
    rfl
  rw [writeChecked_filledWith (by simp; omega) (by omega), if_pos (by simp; omega),
    Option.bind_some, if_pos hbits]
  refine congrArg some (List.take_left' ?_)
  simp
  omega

/-- With the writes held to the buffer, `kdf108` is what it is without. -/
theorem kdf108Checked_eq (P : CryptoProvider) (key : List UInt8) (x : KdfInput) :
    kdf108Checked P key x = if 9 + x.label.length + x.context.length ≤ 64
      then some (kdf108 P key x.counter x.label x.context x.lengthBits) else none := by
  rw [kdf108Checked, kdf108Buffer_eq]
  split_ifs <;> rfl

/-! ### What a message determines -/

/-- **The message determines counter, label, context and length.** -/
theorem message_inj {x y : KdfInput} (hx : 0 ∉ x.label) (hy : 0 ∉ y.label) :
    x.message = y.message ↔ x = y := by
  refine ⟨fun h => ?_, congrArg KdfInput.message⟩
  obtain ⟨counter, label, context, lengthBits⟩ := x
  obtain ⟨counter', label', context', lengthBits'⟩ := y
  -- four bytes at the end, four in front, and the separator in between
  obtain ⟨hfront, hbits⟩ := List.append_inj' h rfl
  simp only [List.append_assoc, List.singleton_append] at hfront
  obtain ⟨hcounter, hmiddle⟩ := List.append_inj hfront rfl
  obtain ⟨rfl, rfl⟩ := (append_separator_inj hx hy).1 hmiddle
  obtain rfl := writeBe32_inj.1 hcounter
  obtain rfl := writeBe32_inj.1 hbits
  rfl

/-- What `kdf108` builds in its buffer determines what it was called with. -/
theorem kdf108Buffer_inj {x y : KdfInput} (hx : 0 ∉ x.label) (hy : 0 ∉ y.label)
    (hfits : (kdf108Buffer x).isSome) (h : kdf108Buffer x = kdf108Buffer y) : x = y := by
  rw [kdf108Buffer_eq, kdf108Buffer_eq] at h
  rw [kdf108Buffer_eq] at hfits
  split_ifs at h hfits
  · exact (message_inj hx hy).1 (Option.some.inj h)
  all_goals cases hfits

/-! ### The derivations -/

/-- The bits of an STS index take 32 bytes. -/
theorem length_bitContext (base : StsIndex) : (bitContext base).length = 32 := by
  rw [bitContext, List.length_map, List.length_range]

/-- What the engine derives with `kdf108`. -/
inductive Derivation
  /-- MUPSK1 and the two halves of MUPSK2. -/
  | upsk (part : Fin 3)
  /-- The halves of the MURSK. -/
  | ursk (half : Fin 2)
  | salt
  | uad (stsIndex0 : StsIndex)
  /-- The halves of the URSK_KT of the round with the base `baseStsIndex`. -/
  | urskKt (half : Fin 2) (baseStsIndex : StsIndex)
  | durskKey (saltedHash : Bytes 16)
  | dudskKey (saltedHash : Bytes 16)
  deriving DecidableEq

namespace Derivation

/-- The arguments of a derivation. -/
def input : Derivation → KdfInput
  | upsk part => ⟨UInt32.ofNat (part + 1), labelUpsk, zeroContext3, 384⟩
  | ursk half => ⟨UInt32.ofNat (half + 1), labelUrsk, zeroContext3, 256⟩
  | salt => ⟨1, labelSalt, zeroContext3, 128⟩
  | uad stsIndex0 => ⟨1, labelUad, writeBe32 stsIndex0, 128⟩
  | urskKt half baseStsIndex =>
    ⟨UInt32.ofNat (half + 1), labelUrskKt, bitContext baseStsIndex, 256⟩
  | durskKey saltedHash => ⟨1, labelUrsk, saltedHash.1 ++ zeroContext3, 128⟩
  | dudskKey saltedHash => ⟨1, labelUdsk, saltedHash.1 ++ zeroContext3, 128⟩

/-- The message of a derivation. -/
def message (d : Derivation) : List UInt8 := d.input.message

/-- The value of a derivation under `key`. -/
def derive (P : CryptoProvider) (key : List UInt8) (d : Derivation) : CryptoM (Bytes 16) :=
  kdf108 P key d.input.counter d.input.label d.input.context d.input.lengthBits

/-- The labels of the engine. -/
def labels : List (List UInt8) :=
  [labelUpsk, labelUrsk, labelUdsk, labelSalt, labelUrskKt, labelUad]

/-- Every derivation uses one of the labels. -/
theorem label_mem_labels (d : Derivation) : d.input.label ∈ labels := by
  cases d <;> simp [input, labels]

/-- No label contains the separator. -/
theorem zero_notMem_label (d : Derivation) : 0 ∉ d.input.label := by
  have h : ∀ label ∈ labels, 0 ∉ label := by decide
  exact h _ d.label_mem_labels

/-- No label is longer than seven bytes. -/
theorem length_label_le (d : Derivation) : d.input.label.length ≤ 7 := by
  have h : ∀ label ∈ labels, label.length ≤ 7 := by decide
  exact h _ d.label_mem_labels

/-- No context is longer than 32 bytes. -/
theorem length_context_le (d : Derivation) : d.input.context.length ≤ 32 := by
  cases d with
  | durskKey saltedHash | dudskKey saltedHash =>
    change (saltedHash.1 ++ zeroContext3).length ≤ 32
    rw [List.length_append, saltedHash.2]
    decide
  | _ => simp [input, zeroContext3, length_bitContext]

/-- Different derivations differ in an argument: those that share a label in the
counter, the context or the length. -/
theorem input_inj {d d' : Derivation} : d.input = d'.input ↔ d = d' := by
  have hpart (i j : Fin 3) : UInt32.ofNat i = UInt32.ofNat j ↔ i = j := by decide +revert
  have hhalf (i j : Fin 2) : UInt32.ofNat i = UInt32.ofNat j ↔ i = j := by decide +revert
  cases d <;> cases d' <;>
    simp [input, labelUpsk, labelUrsk, labelUdsk, labelSalt, labelUrskKt, labelUad, hpart, hhalf,
      writeBe32_inj, bitContext_inj, Subtype.ext_iff]

/-- **No two derivations have the same message.** -/
theorem message_injective : Function.Injective message := fun d d' h =>
  input_inj.1 ((message_inj d.zero_notMem_label d'.zero_notMem_label).1 h)

/-- A label of at most 7 bytes and a context of at most 32 fit the buffer. -/
theorem input_fits (d : Derivation) : 9 + d.input.label.length + d.input.context.length ≤ 64 := by
  have hlabel := d.length_label_le
  have hcontext := d.length_context_le
  omega

end Derivation

/-- **What the engine derives, in order and under which keys.**  The salted hash
is the one value that takes a CMAC beside these: of the configuration, under the
padded salt. -/
structure EngineDerives (P : CryptoProvider) : Prop where
  deriveMupsk1 : ∀ ursk : Bytes 32, deriveMupsk1 P ursk = (Derivation.upsk 0).derive P ursk.1
  deriveMupsk2 : ∀ ursk : Bytes 32, deriveMupsk2 P ursk = do
    let part1 ← (Derivation.upsk 1).derive P ursk.1
    let part2 ← (Derivation.upsk 2).derive P ursk.1
    return part1.append part2
  deriveMursk : ∀ ursk : Bytes 32, deriveMursk P ursk = do
    let part1 ← (Derivation.ursk 0).derive P ursk.1
    let part2 ← (Derivation.ursk 1).derive P ursk.1
    return part1.append part2
  deriveSaltedHash : ∀ (ursk : Bytes 32) (rangingConfig : List UInt8),
    deriveSaltedHash P ursk rangingConfig = do
      let salt ← Derivation.salt.derive P ursk.1
      aesCmac P ((Bytes.zero 16).append salt).1 rangingConfig
  deriveAddresses : ∀ (mupsk2 : Bytes 32) (stsIndex0 : StsIndex), ∃ addressesOf,
    deriveAddresses P mupsk2 stsIndex0 =
      addressesOf <$> (Derivation.uad stsIndex0).derive P mupsk2.1
  deriveSlotKeys : ∀ (mursk : Bytes 32) (saltedHash : Bytes 16) (stsIndex : StsIndex)
    (slotsPerRound : UInt16) (stsIndex0 : StsIndex),
    deriveSlotKeys P mursk saltedHash stsIndex slotsPerRound stsIndex0 =
      if slotsPerRound = 0 then throw .invalidParameter else do
      let base := roundBase stsIndex slotsPerRound stsIndex0
      let kt1 ← (Derivation.urskKt 0 base).derive P mursk.1
      let kt2 ← (Derivation.urskKt 1 base).derive P mursk.1
      let urskKt := kt1.append kt2
      let durskKey ← (Derivation.durskKey saltedHash).derive P urskKt.1
      let dudskKey ← (Derivation.dudskKey saltedHash).derive P urskKt.1
      return { durskKey, dudskKey, stsIv := deriveStsIv saltedHash stsIndex }

/-- The engine makes these derivations. -/
theorem engineDerives (P : CryptoProvider) : EngineDerives P where
  deriveMupsk1 _ := rfl
  deriveMupsk2 _ := rfl
  deriveMursk _ := rfl
  deriveSaltedHash _ _ := rfl
  deriveAddresses _ _ := ⟨_, rfl⟩
  deriveSlotKeys _ _ _ _ _ := rfl

/-- **`kdf108` separates its callers.** -/
structure DomainSeparated : Prop where
  /-- It builds its message if and only if that fits the buffer. -/
  builds : ∀ x, kdf108Buffer x =
    if 9 + x.label.length + x.context.length ≤ 64 then some x.message else none
  /-- Two calls with the same message are the same call. -/
  injective : ∀ x y : KdfInput, 0 ∉ x.label → 0 ∉ y.label → (kdf108Buffer x).isSome →
    kdf108Buffer x = kdf108Buffer y → x = y
  /-- Every call of the engine is a derivation, and fits the buffer. -/
  engine : ∀ P, EngineDerives P
  fits : ∀ P key (d : Derivation), kdf108Buffer d.input = some d.message ∧
    kdf108Checked P key d.input = some (d.derive P key)
  /-- No two derivations have the same message, under whatever keys. -/
  separated : Function.Injective Derivation.message

/-- The derivations are separated. -/
theorem domainSeparated : DomainSeparated where
  builds := kdf108Buffer_eq
  injective _ _ := kdf108Buffer_inj
  engine := engineDerives
  fits P key d := by
    rw [kdf108Checked_eq, kdf108Buffer_eq, if_pos d.input_fits, if_pos d.input_fits]
    exact ⟨rfl, rfl⟩
  separated := Derivation.message_injective

end Crypto
end AliroUwb
