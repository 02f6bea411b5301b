/-
# The SP0 engine is CCM

What `Sp0SecurityEngine` computes when the provider does not fail.  The block
loop of `computeCbcMac` chains the blocks of the formatted string
(`macLoop_noFaults`), the loop of `applyCtrStream` masks its input with the
keystream (`ctrLoop_noFaults`); so `encryptPayload` writes the secured payload
(`encryptPayload_noFaults`), and `decryptPayload` unwraps it
(`decryptPayload_noFaults`).

`decryptPayload_accepts_exactly` is what this says about the two functions
together, `encryptPayload_eq_ccm` that the secured payload is the one of CCM.
-/

import AliroUwb.Crypto.Sp0
import AliroUwb.Library.Ccm

namespace AliroUwb
namespace Crypto

open BlockModes

variable {P : CryptoProvider} {key : Bytes 16}

/-! ### What the engine computes -/

/-- The blocks of the header as `computeCbcMac` forms them. -/
def aadBlocks (aad : List UInt8) : List (Bytes 16) :=
  if aad.isEmpty then [] else Ccm.blocks (lengthBytes aad.length ++ aad)

/-- The MAC of a header and a payload. -/
def macOf (P : CryptoProvider) (key : Bytes 16) (nonce : Bytes 13) (aad payload : List UInt8) :
    Bytes 16 :=
  chain (P.aes128 key) xorBlocks (P.aes128 key (macFirstBlock nonce payload.length))
    (aadBlocks aad ++ Ccm.blocks payload)

/-- The keystream from the counter `counter` on. -/
def streamFrom (P : CryptoProvider) (key : Bytes 16) (nonce : Bytes 13) (counter : UInt16) :
    ℕ → List UInt8 :=
  mask 16 fun i => (P.aes128 key (counterBlock nonce (counter + UInt16.ofNat i))).1

/-- The MIC of a payload. -/
def securedMic (P : CryptoProvider) (key : Bytes 16) (srcLongAddress : Bytes 8)
    (counter : FrameCounter) (headerAuthData plaintext : List UInt8) : List UInt8 :=
  let nonce := formatNonce srcLongAddress counter
  micOf (macOf P key nonce headerAuthData plaintext) (P.aes128 key (counterBlock nonce 0))

/-- The encrypted payload with its MIC. -/
def securedPayload (P : CryptoProvider) (key : Bytes 16) (srcLongAddress : Bytes 8)
    (counter : FrameCounter) (headerAuthData plaintext : List UInt8) : List UInt8 :=
  wrap (· ^^^ ·) (streamFrom P key (formatNonce srcLongAddress counter) 1)
    (securedMic P key srcLongAddress counter headerAuthData) plaintext

/-- The payload that is secured in `ciphertextWithMic`, if any. -/
def unsecuredPayload (P : CryptoProvider) (key : Bytes 16) (srcLongAddress : Bytes 8)
    (counter : FrameCounter) (headerAuthData ciphertextWithMic : List UInt8) :
    Option (List UInt8) :=
  unwrap (· ^^^ ·) (streamFrom P key (formatNonce srcLongAddress counter) 1)
    (securedMic P key srcLongAddress counter headerAuthData) micLength ciphertextWithMic

/-- The key stream is as long as is asked for. -/
theorem length_streamFrom (nonce : Bytes 13) (counter : UInt16) (len : ℕ) :
    (streamFrom P key nonce counter len).length = len :=
  length_mask (n := 16) (by decide) (fun i => (P.aes128 key (counterBlock nonce
    (counter + UInt16.ofNat i))).2) len

/-- The MIC takes eight bytes. -/
theorem length_securedMic (srcLongAddress : Bytes 8) (counter : FrameCounter)
    (headerAuthData plaintext : List UInt8) :
    (securedMic P key srcLongAddress counter headerAuthData plaintext).length = micLength := by
  have h (b : Bytes 16) : (b.1.take micLength).length = micLength := by
    rw [List.length_take, b.2]
    rfl
  rw [securedMic, micOf, List.length_zipWith, h, h, Nat.min_self]

/-- A secured payload is longer by its MIC. -/
@[simp] theorem length_securedPayload (srcLongAddress : Bytes 8) (counter : FrameCounter)
    (headerAuthData plaintext : List UInt8) :
    (securedPayload P key srcLongAddress counter headerAuthData plaintext).length =
      plaintext.length + micLength :=
  length_wrap (length_streamFrom _ _) (length_securedMic _ _ _) _

/-- **A payload is recovered from what it is secured as, and from nothing else.** -/
theorem unsecuredPayload_eq_some_iff {srcLongAddress : Bytes 8} {counter : FrameCounter}
    {headerAuthData c m : List UInt8} :
    unsecuredPayload P key srcLongAddress counter headerAuthData c = some m ↔
      securedPayload P key srcLongAddress counter headerAuthData m = c :=
  unwrap_eq_some_iff (fun a b => by rw [UInt8.xor_assoc, UInt8.xor_self, UInt8.xor_zero])
    (length_streamFrom _ _) (length_securedMic _ _ _)

/-! ### The loops -/

/-- Taking more than there is takes all. -/
theorem take_min_length (l : List UInt8) (n : ℕ) : l.take (min l.length n) = l.take n := by
  rw [List.take_eq_take_iff]
  omega

/-- Dropping more than there is drops all. -/
theorem drop_min_length (l : List UInt8) (n : ℕ) : l.drop (min l.length n) = l.drop n := by
  rcases Nat.le_total l.length n with h | h
  · rw [Nat.min_eq_left h, List.drop_length, List.drop_of_length_le h]
  · rw [Nat.min_eq_right h]

/-- Within the list something is left. -/
theorem drop_ne_nil {l : List UInt8} {n : ℕ} (h : n < l.length) : l.drop n ≠ [] := fun h₀ => by
  have hlen := congrArg List.length h₀
  rw [List.length_drop, List.length_nil] at hlen
  omega

/-- Without faults the cipher answers. -/
theorem aes128EcbEncrypt_noFaults (block : Bytes 16) :
    aes128EcbEncrypt P key block noFaults = (.ok (P.aes128 key block), noFaults) := rfl

/-- Without faults a block is taken into the MAC. -/
theorem macBlock_noFaults (block mac : Bytes 16) :
    macBlock P key block mac noFaults = (.ok (P.aes128 key (xorBlocks mac block)), noFaults) := rfl

/-- The block loop of the MAC chains the blocks of the remaining data. -/
theorem macLoop_noFaults (data : List UInt8) {iterations offset : ℕ} (mac : Bytes 16)
    (hlen : data.length ≤ offset + iterations) :
    macLoop P key data iterations offset mac noFaults =
      (.ok (chain (P.aes128 key) xorBlocks mac (Ccm.blocks (data.drop offset))), noFaults) := by
  induction iterations generalizing offset mac with
  | zero =>
    have hdone : data.drop offset = [] := List.drop_of_length_le (by omega)
    rw [hdone, Ccm.blocks_nil]
    rfl
  | succ iterations ih =>
    unfold macLoop
    by_cases h : offset < data.length
    · have hpiece : (data.drop offset).take (min (data.length - offset) 16) =
          (data.drop offset).take 16 := by
        rw [← List.length_drop, take_min_length]
      have hrest : data.drop (offset + min (data.length - offset) 16) =
          (data.drop offset).drop 16 := by
        rw [← List.drop_drop, ← List.length_drop, drop_min_length]
      rw [if_pos h, hpiece, Ccm.blocks_of_ne_nil (drop_ne_nil h), chain_cons, ← hrest]
      exact (bind_of_ok (macBlock_noFaults _ _) _).trans (ih _ (by omega))
    · rw [if_neg h, List.drop_of_length_le (by omega), Ccm.blocks_nil]
      rfl

/-- `computeCbcMac` computes the MAC. -/
theorem computeCbcMac_noFaults (nonce : Bytes 13) (aad payload : List UInt8) :
    computeCbcMac P key nonce aad payload noFaults =
      (.ok (macOf P key nonce aad payload), noFaults) := by
  have hpayload (mac : Bytes 16) : macLoop P key payload payload.length 0 mac noFaults =
      (.ok (chain (P.aes128 key) xorBlocks mac (Ccm.blocks payload)), noFaults) :=
    macLoop_noFaults payload mac (by omega)
  unfold computeCbcMac
  refine (bind_of_ok (aes128EcbEncrypt_noFaults _) _).trans ?_
  rw [macOf, chain_append, aadBlocks]
  by_cases haad : aad.isEmpty
  · simp only [haad, if_true, chain_nil]
    exact hpayload _
  · have hne : lengthBytes aad.length ++ aad ≠ [] := by simp [lengthBytes]
    have htake : (lengthBytes aad.length ++ aad).take 16 =
        lengthBytes aad.length ++ aad.take (min aad.length 14) := by
      rw [take_min_length]
      rfl
    have hdrop : (lengthBytes aad.length ++ aad).drop 16 = aad.drop (min aad.length 14) := by
      rw [drop_min_length]
      rfl
    rw [if_neg haad, if_neg haad, Ccm.blocks_of_ne_nil hne, htake, hdrop, chain_cons]
    refine (bind_of_ok (macBlock_noFaults _ _) _).trans ?_
    exact (bind_of_ok (macLoop_noFaults aad _ (by omega)) _).trans (hpayload _)

/-- Writing within a buffer leaves its length. -/
theorem length_writeAt {buffer bytes : List UInt8} {offset : ℕ}
    (h : offset + bytes.length ≤ buffer.length) :
    (writeAt buffer offset bytes).length = buffer.length := by
  simp only [writeAt, List.length_append, List.length_take, List.length_drop]
  omega

/-- Up to the end of what is written there is what was in front of it, and it. -/
theorem take_writeAt {buffer bytes : List UInt8} {offset : ℕ}
    (h : offset + bytes.length ≤ buffer.length) :
    (writeAt buffer offset bytes).take (offset + bytes.length) = buffer.take offset ++ bytes := by
  refine List.take_left' ?_
  rw [List.length_append, List.length_take]
  omega

/-- Behind what is written nothing changes. -/
theorem drop_writeAt {buffer bytes : List UInt8} {offset n : ℕ}
    (h : offset + bytes.length ≤ buffer.length) (hn : offset + bytes.length ≤ n) :
    (writeAt buffer offset bytes).drop n = buffer.drop n := by
  have hlen : (buffer.take offset ++ bytes).length = offset + bytes.length := by
    rw [List.length_append, List.length_take]
    omega
  rw [writeAt, List.drop_append, List.drop_of_length_le (by omega), List.nil_append,
    List.drop_drop, hlen]
  congr 1
  omega

/-- The mask over a string is that over its first piece and that over the rest. -/
theorem zipWith_streamFrom (nonce : Bytes 13) (counter : UInt16) {l : List UInt8} (hl : l ≠ []) :
    List.zipWith (· ^^^ ·) l (streamFrom P key nonce counter l.length) =
      List.zipWith (· ^^^ ·) (l.take 16) (P.aes128 key (counterBlock nonce counter)).1 ++
        List.zipWith (· ^^^ ·) (l.drop 16)
          (streamFrom P key nonce (counter + 1) (l.drop 16).length) := by
  have hnext (i : ℕ) : counter + UInt16.ofNat (i + 1) = counter + 1 + UInt16.ofNat i := by
    rw [Nat.add_comm i, UInt16.ofNat_add, ← UInt16.add_assoc]
    rfl
  have h := zipWith_mask (· ^^^ ·) (n := 16) (by decide) (S := fun i =>
    (P.aes128 key (counterBlock nonce (counter + UInt16.ofNat i))).1)
    (fun i => (P.aes128 key (counterBlock nonce (counter + UInt16.ofNat i))).2) hl
  simp only [hnext] at h
  rw [show counter + UInt16.ofNat 0 = counter from UInt16.add_zero counter] at h
  exact h

/-- A block under its mask is as long as the piece of the input. -/
theorem length_maskedBlock (input : List UInt8) (offset : ℕ) (s : Bytes 16) :
    (List.zipWith (· ^^^ ·) ((input.drop offset).take 16) s.1).length =
      min (input.length - offset) 16 := by
  rw [List.length_zipWith, List.length_take, List.length_drop, s.2]
  omega

/-- One round of the keystream loop, if its call succeeds. -/
theorem ctrLoop_round (nonce : Bytes 13) {input : List UInt8} (iterations : ℕ) {offset : ℕ}
    (counter : UInt16) (output : List UInt8) (h : offset < input.length) {faults : Faults}
    (hhead : faults.head = none) :
    ctrLoop P key nonce input (iterations + 1) offset counter output faults =
      ctrLoop P key nonce input iterations (offset + min (input.length - offset) 16) (counter + 1)
        (writeAt output offset (List.zipWith (· ^^^ ·) ((input.drop offset).take 16)
          (P.aes128 key (counterBlock nonce counter)).1)) faults.tail := by
  have hpiece : (input.drop offset).take (min (input.length - offset) 16) =
      (input.drop offset).take 16 := by
    rw [← List.length_drop, take_min_length]
  rw [ctrLoop, if_pos h, bind_faults, ExceptT.run, aes128EcbEncrypt, call, hhead, ← hpiece]

/-- The keystream loop masks the remaining input, in its place in the output. -/
theorem ctrLoop_noFaults (nonce : Bytes 13) (input : List UInt8) {iterations offset : ℕ}
    (counter : UInt16) (output : List UInt8) (hlen : input.length ≤ offset + iterations)
    (hin : offset ≤ input.length) (hout : input.length ≤ output.length) :
    ctrLoop P key nonce input iterations offset counter output noFaults =
      ((.ok (), output.take offset ++
        List.zipWith (· ^^^ ·) (input.drop offset)
          (streamFrom P key nonce counter (input.drop offset).length) ++
        output.drop input.length), noFaults) := by
  induction iterations generalizing offset counter output with
  | zero =>
    obtain rfl : offset = input.length := by omega
    rw [List.drop_length, List.zipWith_nil_left, List.append_nil, List.take_append_drop]
    rfl
  | succ iterations ih =>
    by_cases h : offset < input.length
    · have hrest : input.drop (offset + min (input.length - offset) 16) =
          (input.drop offset).drop 16 := by
        rw [← List.drop_drop, ← List.length_drop, drop_min_length]
      have hblock := length_maskedBlock input offset (P.aes128 key (counterBlock nonce counter))
      rw [ctrLoop_round nonce iterations counter output h rfl,
        zipWith_streamFrom nonce counter (drop_ne_nil h), ← hrest, ← hblock]
      generalize List.zipWith (· ^^^ ·) ((input.drop offset).take 16)
        (P.aes128 key (counterBlock nonce counter)).1 = block at hblock ⊢
      change ctrLoop P key nonce input iterations _ _ _ noFaults = _
      rw [ih _ _ (by omega) (by omega) (by rw [length_writeAt (by omega)]; exact hout),
        take_writeAt (by omega), drop_writeAt (by omega) (by omega)]
      simp only [List.append_assoc]
    · obtain rfl : offset = input.length := by omega
      rw [ctrLoop, if_neg h, List.drop_length, List.zipWith_nil_left, List.append_nil,
        List.take_append_drop]
      rfl

/-- `applyCtrStream` masks its input. -/
theorem applyCtrStream_noFaults (nonce : Bytes 13) {input output : List UInt8}
    (hout : input.length ≤ output.length) :
    applyCtrStream P key nonce input output noFaults =
      ((.ok (P.aes128 key (counterBlock nonce 0)),
        List.zipWith (· ^^^ ·) input (streamFrom P key nonce 1 input.length) ++
          output.drop input.length), noFaults) := by
  have hloop : ctrLoop P key nonce input input.length 0 1 output noFaults = _ :=
    ctrLoop_noFaults nonce input 1 output (by omega) (by omega) hout
  rw [List.drop_zero, List.take_zero, List.nil_append] at hloop
  unfold applyCtrStream
  rw [bind_faults]
  change (ctrLoop P key nonce input input.length 0 1 output >>= _) noFaults = _
  rw [bind_faults, hloop]
  rfl

/-! ### Encryption and decryption -/

/-- **`encryptPayload` writes the secured payload.** -/
theorem encryptPayload_noFaults (srcLongAddress : Bytes 8) (counter : FrameCounter)
    (headerAuthData : List UInt8) {plaintext out : List UInt8}
    (hout : plaintext.length + micLength ≤ out.length) :
    encryptPayload P key srcLongAddress counter headerAuthData plaintext out noFaults =
      ((.ok (plaintext.length + micLength),
        securedPayload P key srcLongAddress counter headerAuthData plaintext ++
          out.drop (plaintext.length + micLength)), noFaults) := by
  have hmic : (securedMic P key srcLongAddress counter headerAuthData plaintext).length =
      micLength := length_securedMic ..
  have hmasked : (List.zipWith (· ^^^ ·) plaintext
      (streamFrom P key (formatNonce srcLongAddress counter) 1 plaintext.length)).length =
      plaintext.length := by
    rw [List.length_zipWith, length_streamFrom, Nat.min_self]
  unfold encryptPayload
  dsimp only
  rw [if_neg (by omega)]
  change ((computeCbcMac P key (formatNonce srcLongAddress counter) headerAuthData
    plaintext).run >>= _) noFaults = _
  rw [bind_faults, ExceptT.run, computeCbcMac_noFaults]
  change (applyCtrStream P key (formatNonce srcLongAddress counter) plaintext out >>= _)
    noFaults = _
  rw [bind_faults, applyCtrStream_noFaults _ (by omega)]
  change ((Except.ok _, writeAt (_ ++ out.drop plaintext.length) plaintext.length
    (securedMic P key srcLongAddress counter headerAuthData plaintext)), noFaults) = _
  rw [writeAt, List.take_left' hmasked, List.drop_append, List.drop_of_length_le (by omega),
    List.nil_append, List.drop_drop, hmasked, hmic, securedPayload, wrap]
  congr 4
  omega

/-- **`decryptPayload` unwraps it**, or zeroes the whole buffer. -/
theorem decryptPayload_noFaults (srcLongAddress : Bytes 8) (counter : FrameCounter)
    (headerAuthData : List UInt8) {c out : List UInt8} (hc : micLength ≤ c.length)
    (hout : c.length - micLength ≤ out.length) :
    decryptPayload P key srcLongAddress counter headerAuthData c out noFaults =
      (match unsecuredPayload P key srcLongAddress counter headerAuthData c with
      | some m => (.ok m.length, m ++ out.drop m.length)
      | none => (.error .authenticationFailed, List.replicate out.length 0), noFaults) := by
  have htake : (c.take (c.length - micLength)).length = c.length - micLength := by
    rw [List.length_take]
    omega
  have hlen : (List.zipWith (· ^^^ ·) (c.take (c.length - micLength))
      (streamFrom P key (formatNonce srcLongAddress counter) 1 (c.length - micLength))).length =
      c.length - micLength := by
    rw [List.length_zipWith, length_streamFrom, htake, Nat.min_self]
  unfold decryptPayload
  dsimp only
  rw [if_neg (by omega), if_neg (by omega)]
  change (applyCtrStream P key (formatNonce srcLongAddress counter)
    (c.take (c.length - micLength)) out >>= _) noFaults = _
  rw [bind_faults, applyCtrStream_noFaults _ (by omega), htake]
  unfold unsecuredPayload unwrap
  dsimp only
  generalize List.zipWith (· ^^^ ·) (c.take (c.length - micLength))
    (streamFrom P key (formatNonce srcLongAddress counter) 1 (c.length - micLength)) = m at hlen ⊢
  rw [← hlen, bind_faults, ExceptT.run, List.take_left, computeCbcMac_noFaults]
  by_cases hmic : securedMic P key srcLongAddress counter headerAuthData m = c.drop m.length
  · have hmic' := hmic
    rw [securedMic] at hmic'
    dsimp only
    rw [if_pos hmic, if_pos hmic']
    rfl
  · have hmic' := hmic
    rw [securedMic] at hmic'
    have hzero : (m ++ out.drop m.length).length = out.length := by
      rw [List.length_append, List.length_drop]
      omega
    dsimp only
    rw [if_neg hmic, if_neg hmic', ← hzero]
    rfl

/-! ### Decryption accepts what encryption writes -/

/-- The plaintext is encrypted to `c`: `encryptPayload` writes `c` to the front of
every buffer that is large enough. -/
def EncryptsTo (P : CryptoProvider) (key : Bytes 16) (srcLongAddress : Bytes 8)
    (counter : FrameCounter) (headerAuthData plaintext c : List UInt8) : Prop :=
  ∀ out : List UInt8, c.length ≤ out.length →
    (encryptPayload P key srcLongAddress counter headerAuthData plaintext out noFaults).1 =
      (.ok c.length, c ++ out.drop c.length)

/-- `c` is decrypted to the plaintext, in the buffer `out`. -/
def DecryptsTo (P : CryptoProvider) (key : Bytes 16) (srcLongAddress : Bytes 8)
    (counter : FrameCounter) (headerAuthData c out plaintext : List UInt8) : Prop :=
  (decryptPayload P key srcLongAddress counter headerAuthData c out noFaults).1 =
    (.ok plaintext.length, plaintext ++ out.drop plaintext.length)

/-- Encryption yields the secured payload. -/
theorem encryptsTo_iff {srcLongAddress : Bytes 8} {counter : FrameCounter}
    {headerAuthData plaintext c : List UInt8} :
    EncryptsTo P key srcLongAddress counter headerAuthData plaintext c ↔
      securedPayload P key srcLongAddress counter headerAuthData plaintext = c := by
  constructor
  · intro h
    -- a buffer that is large enough for both
    have hbuf := h (List.replicate (c.length + (plaintext.length + micLength)) 0)
      (by rw [List.length_replicate]; omega)
    rw [encryptPayload_noFaults _ _ _ (by rw [List.length_replicate]; omega)] at hbuf
    obtain ⟨hlen, hbytes⟩ := Prod.mk.inj hbuf
    have hlen : plaintext.length + micLength = c.length := Except.ok.inj hlen
    exact (List.append_inj hbytes (by rw [length_securedPayload, hlen])).1
  · rintro rfl out hout
    rw [length_securedPayload] at hout ⊢
    rw [encryptPayload_noFaults _ _ _ hout]

/-- Decryption yields the unsecured payload. -/
theorem decryptsTo_iff {srcLongAddress : Bytes 8} {counter : FrameCounter}
    {headerAuthData c out plaintext : List UInt8} (hc : micLength ≤ c.length)
    (hout : c.length - micLength ≤ out.length) :
    DecryptsTo P key srcLongAddress counter headerAuthData c out plaintext ↔
      unsecuredPayload P key srcLongAddress counter headerAuthData c = some plaintext := by
  unfold DecryptsTo
  rw [decryptPayload_noFaults _ _ _ hc hout]
  cases unsecuredPayload P key srcLongAddress counter headerAuthData c with
  | none => simp
  | some m =>
    constructor
    · intro h
      obtain ⟨hlen, hm⟩ := Prod.mk.inj h
      have hlen : m.length = plaintext.length := Except.ok.inj hlen
      exact congrArg some (List.append_inj hm hlen).1
    · intro h
      rw [Option.some.inj h]

/-- **`decryptPayload` accepts exactly what `encryptPayload` writes.**  Every
plaintext is encrypted to a string that is decrypted to it; a string is decrypted
to a plaintext if and only if that is encrypted to the string; and a string that
no plaintext is encrypted to leaves the whole buffer zeroed. -/
theorem decryptPayload_accepts_exactly (P : CryptoProvider) (key : Bytes 16)
    (srcLongAddress : Bytes 8) (counter : FrameCounter) (headerAuthData : List UInt8) :
    (∀ plaintext : List UInt8, ∃ c : List UInt8, c.length = plaintext.length + micLength ∧
      EncryptsTo P key srcLongAddress counter headerAuthData plaintext c ∧
      ∀ out : List UInt8, plaintext.length ≤ out.length →
        DecryptsTo P key srcLongAddress counter headerAuthData c out plaintext) ∧
    ∀ c out : List UInt8, micLength ≤ c.length → c.length - micLength ≤ out.length →
      (∀ plaintext, DecryptsTo P key srcLongAddress counter headerAuthData c out plaintext ↔
        EncryptsTo P key srcLongAddress counter headerAuthData plaintext c) ∧
      ((∀ plaintext, ¬ EncryptsTo P key srcLongAddress counter headerAuthData plaintext c) →
        (decryptPayload P key srcLongAddress counter headerAuthData c out noFaults).1 =
          (.error .authenticationFailed, List.replicate out.length 0)) := by
  refine ⟨fun plaintext => ⟨securedPayload P key srcLongAddress counter headerAuthData plaintext,
    length_securedPayload .., encryptsTo_iff.2 rfl, fun out hout => ?_⟩, fun c out hc hout => ?_⟩
  · refine (decryptsTo_iff ?_ ?_).2 (unsecuredPayload_eq_some_iff.2 rfl)
    · rw [length_securedPayload]
      omega
    · rw [length_securedPayload, Nat.add_sub_cancel]
      exact hout
  · refine ⟨fun plaintext => ?_, fun hnone => ?_⟩
    · rw [decryptsTo_iff hc hout, unsecuredPayload_eq_some_iff, encryptsTo_iff]
    · rw [decryptPayload_noFaults _ _ _ hc hout]
      rcases h : unsecuredPayload P key srcLongAddress counter headerAuthData c with _ | m
      · rfl
      · exact absurd (encryptsTo_iff.2 (unsecuredPayload_eq_some_iff.1 h)) (hnone m)

/-- A provider to compute with: its cipher adds the key. -/
def CryptoProvider.sample : CryptoProvider where
  aes128 key block := xorBlocks key block
  cmac key _ := Bytes.ofList 16 key

/-- The hypotheses of `decryptPayload_accepts_exactly` are satisfiable: under a key
of zeros, a plaintext of one byte comes back, and a string of nine zeros is
rejected. -/
theorem decryptPayload_accepts_exactly_sample :
    (∃ c, EncryptsTo .sample (Bytes.zero 16) (Bytes.zero 8) 1 [2] [3] c ∧
      DecryptsTo .sample (Bytes.zero 16) (Bytes.zero 8) 1 [2] c [0] [3]) ∧
    (decryptPayload .sample (Bytes.zero 16) (Bytes.zero 8) 1 [2] (List.replicate 9 0) [7]
      noFaults).1 = (.error .authenticationFailed, [0]) := by
  have h := decryptPayload_accepts_exactly .sample (Bytes.zero 16) (Bytes.zero 8) 1 [2]
  constructor
  · obtain ⟨c, -, hc, hd⟩ := h.1 [3]
    exact ⟨c, hc, hd [0] (by decide)⟩
  · refine (h.2 (List.replicate 9 0) [7] (by decide) (by decide)).2 fun plaintext henc => ?_
    have hrejected : unsecuredPayload .sample (Bytes.zero 16) (Bytes.zero 8) 1 [2]
        (List.replicate 9 0) = none := by decide
    rw [unsecuredPayload_eq_some_iff.2 (encryptsTo_iff.1 henc)] at hrejected
    cases hrejected

/-! ### The secured payload is the one of CCM -/

/-- The sizes of SP0: an 8-byte MIC and a 2-byte length field. -/
def sp0Sizes : Ccm.Sizes := ⟨8, 2⟩

/-- The two octets of a number. -/
theorem octets_two (n : ℕ) : Ccm.octets 2 n = [UInt8.ofNat (n / 256), UInt8.ofNat n] := by
  simp [Ccm.octets, List.range_succ]

/-- The four octets of a number. -/
theorem octets_four (n : ℕ) : Ccm.octets 4 n = [UInt8.ofNat (n / 2 ^ 24),
    UInt8.ofNat (n / 2 ^ 16), UInt8.ofNat (n / 2 ^ 8), UInt8.ofNat n] := by
  simp [Ccm.octets, List.range_succ]

/-- The nonce: address, counter, level. -/
theorem formatNonce_eq (srcLongAddress : Bytes 8) (counter : FrameCounter) :
    (formatNonce srcLongAddress counter).1 =
      srcLongAddress.1 ++ Ccm.octets 4 counter.toNat ++ [0x06] := by
  rw [octets_four, ← writeBe32_eq]
  rfl

/-- `B_0`. -/
theorem macFirstBlock_eq (nonce : Bytes 13) {aad : List UInt8} (haad : aad ≠ []) (size : ℕ) :
    macFirstBlock nonce size = Ccm.Block.ofBytes (Ccm.firstBlock sp0Sizes nonce.1 aad size) := by
  have hflags : Ccm.macFlags sp0Sizes aad = 0x59 := by
    rw [Ccm.macFlags, if_neg (by rwa [List.length_eq_zero_iff])]
    rfl
  rw [Ccm.firstBlock, hflags, sp0Sizes, octets_two]
  rfl

/-- The first block has the length of a block. -/
theorem length_firstBlock (nonce : Bytes 13) (aad : List UInt8) (size : ℕ) :
    (Ccm.firstBlock sp0Sizes nonce.1 aad size).length = 16 := by
  simp only [Ccm.firstBlock, sp0Sizes, octets_two, List.length_append, List.length_cons,
    List.length_nil, nonce.2]

/-- The blocks of the header. -/
theorem aadBlocks_eq {aad : List UInt8} (haad : aad ≠ []) (hlen : aad.length ≤ 0xFEFF) :
    aadBlocks aad = Ccm.blocks (Ccm.encodeAad aad) := by
  have hpos := List.length_pos_iff.2 haad
  rw [aadBlocks, if_neg (by simpa using haad), Ccm.encodeAad, if_neg (by omega),
    if_pos (by omega), octets_two]
  rfl

/-- `A_i`; the 16-bit counter is the 2-byte one. -/
theorem counterBlock_eq (nonce : Bytes 13) (i : ℕ) :
    counterBlock nonce (UInt16.ofNat i) = Ccm.counterBlock sp0Sizes nonce.1 i := by
  have hlow : UInt8.ofNat (UInt16.ofNat i).toNat = UInt8.ofNat i := by
    refine UInt8.toNat_inj.1 ?_
    rw [UInt16.toNat_ofNat', UInt8.toNat_ofNat', UInt8.toNat_ofNat']
    omega
  have hhigh : UInt8.ofNat ((UInt16.ofNat i).toNat / 2 ^ 8) = UInt8.ofNat (i / 256) := by
    refine UInt8.toNat_inj.1 ?_
    rw [UInt16.toNat_ofNat', UInt8.toNat_ofNat', UInt8.toNat_ofNat']
    omega
  have hwrite := writeLe16_eq (UInt16.ofNat i)
  rw [writeLe16, hlow, hhigh] at hwrite
  obtain ⟨hl, hh⟩ := List.cons.inj hwrite
  obtain ⟨hh, -⟩ := List.cons.inj hh
  rw [counterBlock, hl, hh, Ccm.counterBlock, sp0Sizes, octets_two]
  rfl

/-- **The SP0 engine implements CCM**, with an 8-byte MIC and a 2-byte length
field, for every header that has a 2-byte length encoding.  The nonce is the
address, the frame counter and the security level. -/
theorem encryptPayload_eq_ccm (P : CryptoProvider) (key : Bytes 16) (srcLongAddress : Bytes 8)
    (counter : FrameCounter) (headerAuthData plaintext out : List UInt8)
    (haad : 1 ≤ headerAuthData.length) (haad' : headerAuthData.length ≤ 0xFEFF)
    (hout : plaintext.length + micLength ≤ out.length) :
    (encryptPayload P key srcLongAddress counter headerAuthData plaintext out noFaults).1 =
      (.ok (plaintext.length + 8),
        Ccm.encrypt ⟨8, 2⟩ (P.aes128 key)
          (srcLongAddress.1 ++ Ccm.octets 4 counter.toNat ++ [0x06]) headerAuthData plaintext ++
        out.drop (plaintext.length + 8)) := by
  have hne : headerAuthData ≠ [] := List.length_pos_iff.1 haad
  have hmac (m : List UInt8) : macOf P key (formatNonce srcLongAddress counter) headerAuthData m =
      Ccm.cbcMac (P.aes128 key) (Ccm.formatted sp0Sizes (formatNonce srcLongAddress counter).1
        headerAuthData m) := by
    rw [Ccm.cbcMac_formatted _ _ _ _ _ (length_firstBlock _ _ _), ← macFirstBlock_eq _ hne,
      ← aadBlocks_eq hne haad']
    rfl
  have hstream : streamFrom P key (formatNonce srcLongAddress counter) 1 =
      Ccm.keystream sp0Sizes (P.aes128 key) (formatNonce srcLongAddress counter).1 := by
    have hblock (i : ℕ) : counterBlock (formatNonce srcLongAddress counter)
        (1 + UInt16.ofNat i) =
          Ccm.counterBlock sp0Sizes (formatNonce srcLongAddress counter).1 (i + 1) := by
      rw [← counterBlock_eq, Nat.add_comm, UInt16.ofNat_add]
      rfl
    refine congrArg (mask 16) (funext fun i => ?_)
    rw [hblock, Ccm.keyBlock]
  have hmic : securedMic P key srcLongAddress counter headerAuthData =
      Ccm.encryptedTag sp0Sizes (P.aes128 key) (formatNonce srcLongAddress counter).1
        headerAuthData := by
    have hzero := counterBlock_eq (formatNonce srcLongAddress counter) 0
    funext m
    rw [securedMic, hmac, Ccm.encryptedTag, Ccm.keyBlock, ← hzero]
    rfl
  rw [encryptPayload_noFaults _ _ _ hout, securedPayload, hstream, hmic, ← formatNonce_eq]
  rfl

/-- The hypotheses of `encryptPayload_eq_ccm` are satisfiable: a header of a MAC
header's length and a payload of one block and a half. -/
theorem encryptPayload_eq_ccm_sample :
    (encryptPayload .sample (Bytes.zero 16) (Bytes.zero 8) 1 (List.replicate 23 5)
      (List.replicate 24 7) (List.replicate 40 9) noFaults).1 =
      (.ok 32, Ccm.encrypt ⟨8, 2⟩ (CryptoProvider.sample.aes128 (Bytes.zero 16))
        (List.replicate 8 0 ++ Ccm.octets 4 1 ++ [0x06]) (List.replicate 23 5)
        (List.replicate 24 7) ++ List.replicate 8 9) :=
  encryptPayload_eq_ccm .sample (Bytes.zero 16) (Bytes.zero 8) 1 (List.replicate 23 5)
    (List.replicate 24 7) (List.replicate 40 9) (by decide) (by decide) (by decide)

end Crypto
end AliroUwb
