/-
# The SP0 security engine

`src/crypto/Sp0SecurityEngine.cpp`: AES-CCM with an 8-byte MIC over the data
frames.  The MIC is a CBC-MAC over the formatted header and payload
(`computeCbcMac`), the confidentiality a counter-mode keystream
(`applyCtrStream`), both over the 13-byte nonce of `formatNonce`.

The loops of the C++ code run over an offset; here they are recursions on a
number of iterations that is at least what they need (`data.length`, one
iteration consuming at least one byte), with the loop condition tested as in
the source.

`applyCtrStream` and `decryptPayload` write to a buffer of the caller while
they run, and what is in it after a failure matters, so they return the buffer
beside their result.
-/

import AliroUwb.Core.ByteOrder
import AliroUwb.Crypto.Provider

namespace AliroUwb
namespace Crypto

/-- `Sp0SecurityEngine::MicLength`. -/
def micLength : ℕ := 8

/-- `Sp0SecurityEngine::SecurityLevel`. -/
def securityLevel : UInt8 := 0x06

/-- `Sp0SecurityEngine::formatNonce`: address, big-endian counter, level. -/
def formatNonce (srcLongAddress : Bytes 8) (counter : FrameCounter) : Bytes 13 :=
  ⟨srcLongAddress.1 ++ writeBe32 counter ++ [securityLevel], by
    rw [List.length_append, List.length_append, srcLongAddress.2]; rfl⟩

/-- `xorBlocks` over whole blocks. -/
def xorBlocks (a b : Bytes 16) : Bytes 16 :=
  ⟨List.zipWith (· ^^^ ·) a.1 b.1, by rw [List.length_zipWith, a.2, b.2]; rfl⟩

/-- The two bytes `size >> 8` and `size` of a length. -/
def lengthBytes (size : ℕ) : List UInt8 :=
  [UInt8.ofNat (size / 256), UInt8.ofNat size]

/-- `B_0`: flags `0x59`, nonce, payload length. -/
def macFirstBlock (nonce : Bytes 13) (payloadSize : ℕ) : Bytes 16 :=
  Bytes.ofList 16 (0x59 :: nonce.1 ++ lengthBytes payloadSize)

/-- `A_i`: flags `0x01`, nonce, counter `i`. -/
def counterBlock (nonce : Bytes 13) (counter : UInt16) : Bytes 16 :=
  Bytes.ofList 16 (0x01 :: nonce.1 ++
    [((counter >>> 8) &&& 0xFF).toUInt8, (counter &&& 0xFF).toUInt8])

variable (P : CryptoProvider) (key : Bytes 16)

/-- One block into the CBC-MAC. -/
def macBlock (block mac : Bytes 16) : CryptoM (Bytes 16) :=
  aes128EcbEncrypt P key (xorBlocks mac block)

/-- The block loops of `computeCbcMac`: the bytes of `data` from `offset` on,
16 at a time, the last block zero-padded. -/
def macLoop (data : List UInt8) : ℕ → ℕ → Bytes 16 → CryptoM (Bytes 16)
  | 0, _, mac => pure mac
  | iterations + 1, offset, mac =>
    if offset < data.length then do
      let copyLen := min (data.length - offset) 16
      let mac ← macBlock P key (Bytes.ofList 16 ((data.drop offset).take copyLen)) mac
      macLoop data iterations (offset + copyLen) mac
    else pure mac

/-- `Sp0SecurityEngine::computeCbcMac`. -/
def computeCbcMac (nonce : Bytes 13) (aad payload : List UInt8) : CryptoM (Bytes 16) := do
  let mac ← aes128EcbEncrypt P key (macFirstBlock nonce payload.length)
  let mac ←
    if aad.isEmpty then pure mac
    else do
      let copyLen := min aad.length 14
      let mac ← macBlock P key (Bytes.ofList 16 (lengthBytes aad.length ++ aad.take copyLen)) mac
      macLoop P key aad aad.length copyLen mac
  macLoop P key payload payload.length 0 mac

/-- `buffer` with `bytes` written from `offset` on. -/
def writeAt (buffer : List UInt8) (offset : ℕ) (bytes : List UInt8) : List UInt8 :=
  buffer.take offset ++ bytes ++ buffer.drop (offset + bytes.length)

/-- The keystream loop of `applyCtrStream`. -/
def ctrLoop (nonce : Bytes 13) (input : List UInt8) :
    ℕ → ℕ → UInt16 → List UInt8 → StateM Faults (Except StatusCode Unit × List UInt8)
  | 0, _, _, output => pure (.ok (), output)
  | iterations + 1, offset, counter, output =>
    if offset < input.length then do
      match ← (aes128EcbEncrypt P key (counterBlock nonce counter)).run with
      | .error e => pure (.error e, output)
      | .ok s =>
        let blockLen := min (input.length - offset) 16
        let block := List.zipWith (· ^^^ ·) ((input.drop offset).take blockLen) s.1
        ctrLoop nonce input iterations (offset + blockLen) (counter + 1)
          (writeAt output offset block)
    else pure (.ok (), output)

/-- `Sp0SecurityEngine::applyCtrStream`: `S_0`, or the failure, and the output
buffer as it is left. -/
def applyCtrStream (nonce : Bytes 13) (input output : List UInt8) :
    StateM Faults (Except StatusCode (Bytes 16) × List UInt8) := do
  match ← (aes128EcbEncrypt P key (counterBlock nonce 0)).run with
  | .error e => pure (.error e, output)
  | .ok s0 =>
    match ← ctrLoop P key nonce input input.length 0 1 output with
    | (.error e, output) => pure (.error e, output)
    | (.ok (), output) => pure (.ok s0, output)

/-- The MIC on the wire: the first bytes of the MAC under `S_0`. -/
def micOf (mac s0 : Bytes 16) : List UInt8 :=
  List.zipWith (· ^^^ ·) (mac.1.take micLength) (s0.1.take micLength)

/-- `Sp0SecurityEngine::encryptPayload`: the number of bytes written, and the
output buffer. -/
def encryptPayload (srcLongAddress : Bytes 8) (counter : FrameCounter)
    (headerAuthData plaintext outCiphertextWithMic : List UInt8) :
    StateM Faults (Except StatusCode ℕ × List UInt8) := do
  let totalExpected := plaintext.length + micLength
  if outCiphertextWithMic.length < totalExpected then
    return (.error .bufferOverflow, outCiphertextWithMic)
  let nonce := formatNonce srcLongAddress counter
  match ← (computeCbcMac P key nonce headerAuthData plaintext).run with
  | .error e => return (.error e, outCiphertextWithMic)
  | .ok macTag =>
    match ← applyCtrStream P key nonce plaintext outCiphertextWithMic with
    | (.error e, out) => return (.error e, out)
    | (.ok s0, out) =>
      return (.ok totalExpected, writeAt out plaintext.length (micOf macTag s0))

/-- `Sp0SecurityEngine::decryptPayload`: the length of the plaintext, and the
output buffer.  After a wrong MIC the whole buffer is zeroed. -/
def decryptPayload (srcLongAddress : Bytes 8) (counter : FrameCounter)
    (headerAuthData ciphertextWithMic outPlaintext : List UInt8) :
    StateM Faults (Except StatusCode ℕ × List UInt8) := do
  if ciphertextWithMic.length < micLength then
    return (.error .malformedFrame, outPlaintext)
  let payloadLen := ciphertextWithMic.length - micLength
  if outPlaintext.length < payloadLen then
    return (.error .bufferOverflow, outPlaintext)
  let nonce := formatNonce srcLongAddress counter
  match ← applyCtrStream P key nonce (ciphertextWithMic.take payloadLen) outPlaintext with
  | (.error e, out) => return (.error e, out)
  | (.ok s0, out) =>
    match ← (computeCbcMac P key nonce headerAuthData (out.take payloadLen)).run with
    | .error e => return (.error e, out)
    | .ok calculatedMac =>
      if micOf calculatedMac s0 = ciphertextWithMic.drop payloadLen then
        return (.ok payloadLen, out)
      else
        return (.error .authenticationFailed, List.replicate out.length 0)

/-! ### Lengths that are refused -/

variable {P key} {srcLongAddress : Bytes 8} {counter : FrameCounter}
  {headerAuthData ciphertextWithMic outPlaintext : List UInt8}

/-- A payload that is shorter than its MIC is refused before anything is done. -/
theorem decryptPayload_malformed (h : ciphertextWithMic.length < micLength) (faults : Faults) :
    decryptPayload P key srcLongAddress counter headerAuthData ciphertextWithMic outPlaintext
      faults = ((.error .malformedFrame, outPlaintext), faults) := by
  unfold decryptPayload
  rw [if_pos h]
  rfl

/-- So is a payload that does not fit the output. -/
theorem decryptPayload_overflow (h : outPlaintext.length + micLength < ciphertextWithMic.length)
    (faults : Faults) :
    decryptPayload P key srcLongAddress counter headerAuthData ciphertextWithMic outPlaintext
      faults = ((.error .bufferOverflow, outPlaintext), faults) := by
  unfold decryptPayload
  dsimp only
  rw [if_neg (by omega), if_pos (by omega)]
  rfl

/-! ### The calls of the engine -/

/-- The blocks that `n` bytes take. -/
def blockCount (n : ℕ) : ℕ := (n + 15) / 16

/-- The blocks that a header of `n` bytes takes with its length in front. -/
def aadBlockCount (n : ℕ) : ℕ := if n = 0 then 0 else blockCount (n + 2)

/-- One block, and the blocks of the rest. -/
theorem blockCount_of_pos {n : ℕ} (h : 0 < n) : blockCount n = 1 + blockCount (n - min n 16) := by
  rw [blockCount, blockCount]
  omega

/-- A block of the MAC loop is one call. -/
theorem makes_macLoop (key : Bytes 16) (data : List UInt8) {iterations : ℕ} (offset : ℕ)
    (mac : Bytes 16) (hlen : data.length ≤ offset + iterations) :
    Makes (blockCount (data.length - offset)) (macLoop P key data iterations offset mac) := by
  induction iterations generalizing offset mac with
  | zero =>
    rw [Nat.sub_eq_zero_of_le (by omega)]
    exact .pure mac
  | succ iterations ih =>
    unfold macLoop
    by_cases h : offset < data.length
    · rw [if_pos h, blockCount_of_pos (by omega), Nat.sub_sub]
      exact (Makes.call _).bind fun mac => ih _ mac (by omega)
    · rw [if_neg h, Nat.sub_eq_zero_of_le (by omega)]
      exact .pure mac

/-- The MAC takes a call for each block. -/
theorem makes_computeCbcMac (key : Bytes 16) (nonce : Bytes 13) (aad payload : List UInt8) :
    Makes (1 + aadBlockCount aad.length + blockCount payload.length)
      (computeCbcMac P key nonce aad payload) := by
  have hpayload (mac : Bytes 16) : Makes (blockCount payload.length)
      (macLoop P key payload payload.length 0 mac) :=
    makes_macLoop key payload 0 mac (Nat.le_add_left _ _)
  unfold computeCbcMac
  rw [Nat.add_assoc]
  refine (Makes.call _).bind fun mac => ?_
  by_cases haad : aad.isEmpty
  · have hzero : aadBlockCount aad.length = 0 := by
      rw [List.isEmpty_iff.1 haad]
      rfl
    rw [if_pos haad, hzero]
    exact (Makes.pure mac).bind hpayload
  · have hpos : 0 < aad.length := List.length_pos_iff.2 fun h => haad (List.isEmpty_iff.2 h)
    have hcount : aadBlockCount aad.length =
        1 + blockCount (aad.length - min aad.length 14) := by
      rw [aadBlockCount, if_neg (by omega), blockCount, blockCount]
      omega
    rw [if_neg haad, hcount, Nat.add_assoc]
    refine (Makes.call _).bind fun mac => ?_
    exact (makes_macLoop key aad _ mac (by omega)).bind hpayload

/-- A block of the keystream loop is one call. -/
theorem calls_ctrLoop (key : Bytes 16) (nonce : Bytes 13) (input : List UInt8) {iterations : ℕ}
    (offset : ℕ) (counter : UInt16) (output : List UInt8)
    (hlen : input.length ≤ offset + iterations) :
    Calls (blockCount (input.length - offset))
      (ctrLoop P key nonce input iterations offset counter output) := by
  induction iterations generalizing offset counter output with
  | zero =>
    rw [Nat.sub_eq_zero_of_le (by omega)]
    exact .pure _
  | succ iterations ih =>
    unfold ctrLoop
    by_cases h : offset < input.length
    · rw [if_pos h, blockCount_of_pos (by omega), Nat.sub_sub]
      exact (Makes.call _).quiet.bind (ih _ _ _ (by omega))
    · rw [if_neg h, Nat.sub_eq_zero_of_le (by omega)]
      exact .pure _

/-- The stream takes a call for each block, and one for the MIC. -/
theorem calls_applyCtrStream (key : Bytes 16) (nonce : Bytes 13) (input output : List UInt8) :
    Calls (1 + blockCount input.length) (applyCtrStream P key nonce input output) := by
  have hloop : Calls (blockCount input.length)
      (ctrLoop P key nonce input input.length 0 1 output) :=
    calls_ctrLoop key nonce input 0 1 output (Nat.le_add_left _ _)
  refine (Makes.call _).quiet.bind (hloop.bind (n := 0) ?_)
  rcases (ctrLoop P key nonce input input.length 0 1 output noFaults).1 with ⟨_ | _, _⟩ <;>
    exact .pure _

/-- **Decryption leaves no fault behind that was not there.** -/
theorem keepsQuiet_decryptPayload (key : Bytes 16) (srcLongAddress : Bytes 8)
    (counter : FrameCounter) (headerAuthData ciphertextWithMic outPlaintext : List UInt8) :
    KeepsQuiet (decryptPayload P key srcLongAddress counter headerAuthData ciphertextWithMic
      outPlaintext) := by
  unfold decryptPayload
  dsimp only
  split_ifs
  · exact .pure _
  · exact .pure _
  · refine KeepsQuiet.bind (calls_applyCtrStream _ _ _ _).keepsQuiet fun res => ?_
    rcases res with ⟨_ | s0, out⟩
    · exact .pure _
    · refine KeepsQuiet.bind (makes_computeCbcMac ..).quiet.keepsQuiet fun res => ?_
      rcases res with _ | mac
      · exact .pure _
      · by_cases h : micOf mac s0 = ciphertextWithMic.drop (ciphertextWithMic.length - micLength)
        · simp only [h, if_true]
          exact .pure _
        · simp only [h, if_false]
          exact .pure _

end Crypto
end AliroUwb
