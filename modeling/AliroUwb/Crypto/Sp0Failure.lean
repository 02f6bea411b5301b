/-
# What a failed decryption leaves in the buffer

`decryptPayload` writes the plaintext to the caller's buffer block by block,
before it knows the MIC.  When the MIC is wrong it zeroes the buffer; when a
provider call fails it returns at once, and what it has written stays.

A decryption of `n` bytes makes a call for `S_0`, one for each block of the
keystream, and those of the MAC (`decryptCalls`).  `decryptPayload_of_fault` says
what the buffer holds after any one of them has failed: the blocks whose
keystream was there by then.  So a failed decryption withholds the plaintext
unless that call is the third or a later one and there is something to see in
what has been written (`withholdsPlaintext_iff`); whatever the data are, unless that
call is the third or a later one (`forall_withholdsPlaintext_iff`).
-/

import AliroUwb.Crypto.Sp0Ccm

namespace AliroUwb
namespace Crypto

open BlockModes

variable {P : CryptoProvider} {key : Bytes 16}

/-- The provider calls of `decryptPayload`, for a header of `aadLength` bytes and a
payload of `n`. -/
def decryptCalls (aadLength n : ℕ) : ℕ :=
  1 + blockCount n + (1 + aadBlockCount aadLength + blockCount n)

/-! ### After a failed call -/

/-- **What the keystream loop has written when a call fails**: one block for every
call before. -/
theorem ctrLoop_of_fault (nonce : Bytes 13) (input : List UInt8) {iterations offset : ℕ}
    (counter : UInt16) (output : List UInt8) (hlen : input.length ≤ offset + iterations)
    (hout : input.length ≤ output.length) {faults : Faults} {i : ℕ} {e : StatusCode}
    (hi : offset + 16 * i < input.length) (hquiet : Quiet i faults)
    (hfault : faults.get i = some e) :
    (ctrLoop P key nonce input iterations offset counter output faults).1 =
      (.error e, output.take offset ++
        (List.zipWith (· ^^^ ·) (input.drop offset)
          (streamFrom P key nonce counter (input.drop offset).length)).take (16 * i) ++
        output.drop (offset + 16 * i)) := by
  induction iterations generalizing offset counter output faults i with
  | zero => omega
  | succ iterations ih =>
    cases i with
    | zero =>
      have hhead : faults.head = some e := hfault
      rw [ctrLoop, if_pos (by omega), bind_faults, ExceptT.run, aes128EcbEncrypt, call, hhead,
        Nat.mul_zero, List.take_zero, List.append_nil, Nat.add_zero, List.take_append_drop]
      rfl
    | succ i =>
      have hhead : faults.head = none := hquiet 0 (by omega)
      have htail : Quiet i faults.tail := fun j hj => hquiet (j + 1) (by omega)
      have hne : input.drop offset ≠ [] := drop_ne_nil (by omega)
      have hwhole : min (input.length - offset) 16 = 16 := by omega
      have hblock := length_maskedBlock input offset (P.aes128 key (counterBlock nonce counter))
      rw [hwhole] at hblock
      rw [ctrLoop_round nonce iterations counter output (by omega) hhead, hwhole,
        zipWith_streamFrom nonce counter hne, List.drop_drop]
      generalize List.zipWith (· ^^^ ·) ((input.drop offset).take 16)
        (P.aes128 key (counterBlock nonce counter)).1 = block at hblock ⊢
      have htake : (writeAt output offset block).take (offset + 16) =
          output.take offset ++ block := by
        rw [← hblock]
        exact take_writeAt (by omega)
      have hdrop : (writeAt output offset block).drop (offset + 16 + 16 * i) =
          output.drop (offset + 16 * (i + 1)) := by
        rw [drop_writeAt (by omega) (by omega)]
        congr 1
        omega
      have hpiece (rest : List UInt8) :
          (block ++ rest).take (16 * (i + 1)) = block ++ rest.take (16 * i) := by
        rw [List.take_append, List.take_of_length_le (by omega), hblock, Nat.mul_succ,
          Nat.add_sub_cancel]
      rw [ih (counter + 1) (writeAt output offset block) (by omega)
        (by rw [length_writeAt (by omega)]; exact hout) (by omega) htail hfault, htake, hdrop,
        hpiece]
      simp only [List.append_assoc]

/-- The bytes that a payload is under the mask. -/
def unmasked (P : CryptoProvider) (key : Bytes 16) (nonce : Bytes 13) (input : List UInt8) :
    List UInt8 :=
  List.zipWith (· ^^^ ·) input (streamFrom P key nonce 1 input.length)

/-- Unmasking keeps the length. -/
theorem length_unmasked (nonce : Bytes 13) (input : List UInt8) :
    (unmasked P key nonce input).length = input.length := by
  rw [unmasked, List.length_zipWith, length_streamFrom, Nat.min_self]

/-- The unmasked input comes first. -/
theorem take_unmasked_append (nonce : Bytes 13) {input : List UInt8} {n : ℕ}
    (h : input.length = n) (rest : List UInt8) :
    (unmasked P key nonce input ++ rest).take n = unmasked P key nonce input :=
  List.take_left' (by rw [length_unmasked, h])

/-- The call for `S_0` writes nothing. -/
theorem applyCtrStream_of_fault (nonce : Bytes 13) {input output : List UInt8}
    (hout : input.length ≤ output.length) {faults : Faults} {i : ℕ} {e : StatusCode}
    (hi : i < 1 + blockCount input.length) (hquiet : Quiet i faults)
    (hfault : faults.get i = some e) :
    (applyCtrStream P key nonce input output faults).1 =
      (.error e, writeAt output 0 ((unmasked P key nonce input).take (16 * (i - 1)))) := by
  unfold applyCtrStream
  cases i with
  | zero =>
    have hhead : faults.head = some e := hfault
    rw [bind_faults, ExceptT.run, aes128EcbEncrypt, call, hhead]
    rfl
  | succ i =>
    have hhead : faults.head = none := hquiet 0 (by omega)
    have htail : Quiet i faults.tail := fun j hj => hquiet (j + 1) (by omega)
    have hin : 0 + 16 * i < input.length := by
      rw [blockCount] at hi
      omega
    have hlen : ((unmasked P key nonce input).take (16 * i)).length = 16 * i := by
      rw [List.length_take, length_unmasked]
      omega
    have hloop : (ctrLoop P key nonce input input.length 0 1 output faults.tail).1 = _ :=
      ctrLoop_of_fault nonce input 1 output (Nat.le_add_left _ _) hout hin htail hfault
    rw [bind_faults, ExceptT.run, aes128EcbEncrypt, call, hhead]
    change ((ctrLoop P key nonce input input.length 0 1 output >>= _) faults.tail).1 = _
    rw [bind_faults, hloop, Nat.add_sub_cancel, writeAt, hlen]
    rfl

/-- The buffer with the blocks that `decryptPayload` has written before its call `i`:
one for each call after that for `S_0`. -/
def writtenBefore (P : CryptoProvider) (key : Bytes 16) (srcLongAddress : Bytes 8)
    (counter : FrameCounter) (c out : List UInt8) (i : ℕ) : List UInt8 :=
  writeAt out 0 ((unmasked P key (formatNonce srcLongAddress counter)
    (c.take (c.length - micLength))).take (16 * (i - 1)))

/-- **What `decryptPayload` has written when a call fails.** -/
theorem decryptPayload_of_fault (srcLongAddress : Bytes 8) (counter : FrameCounter)
    (headerAuthData : List UInt8) {c out : List UInt8} (hc : micLength ≤ c.length)
    (hout : c.length - micLength ≤ out.length) {faults : Faults} {i : ℕ} {e : StatusCode}
    (hi : i < decryptCalls headerAuthData.length (c.length - micLength)) (hquiet : Quiet i faults)
    (hfault : faults.get i = some e) :
    (decryptPayload P key srcLongAddress counter headerAuthData c out faults).1 =
      (.error e, writtenBefore P key srcLongAddress counter c out i) := by
  have htake : (c.take (c.length - micLength)).length = c.length - micLength := by
    rw [List.length_take]
    omega
  rw [decryptCalls, ← htake] at hi
  unfold decryptPayload writtenBefore
  dsimp only
  rw [if_neg (by omega), if_neg (by omega)]
  change ((applyCtrStream P key (formatNonce srcLongAddress counter)
    (c.take (c.length - micLength)) out >>= _) faults).1 = _
  generalize c.take (c.length - micLength) = input at htake hi ⊢
  rw [bind_faults]
  rcases Nat.lt_or_ge i (1 + blockCount input.length) with hctr | hctr
  · rw [applyCtrStream_of_fault _ (by omega) hctr hquiet hfault]
    rfl
  · obtain ⟨j, rfl⟩ := Nat.exists_eq_add_of_le hctr
    have hall : (unmasked P key (formatNonce srcLongAddress counter) input).take
        (16 * (1 + blockCount input.length + j - 1)) =
          unmasked P key (formatNonce srcLongAddress counter) input := by
      refine List.take_of_length_le ?_
      rw [length_unmasked, blockCount]
      omega
    have hmac : Makes _ (computeCbcMac P key (formatNonce srcLongAddress counter) headerAuthData
      (unmasked P key (formatNonce srcLongAddress counter) input)) := makes_computeCbcMac ..
    rw [length_unmasked] at hmac
    rw [calls_applyCtrStream _ _ _ _ faults (hquiet.mono hctr),
      applyCtrStream_noFaults _ (by omega), ← unmasked]
    change (((computeCbcMac P key (formatNonce srcLongAddress counter) headerAuthData
      ((unmasked P key (formatNonce srcLongAddress counter) input ++ _).take _)).run >>= _) _).1 = _
    rw [take_unmasked_append _ htake, bind_faults, ExceptT.run, hmac.fault (by omega) hquiet.drop
      (by rw [Stream'.get_drop]; exact hfault), hall, writeAt, length_unmasked, List.take_zero,
      List.nil_append, Nat.zero_add]
    rfl

/-- Without a fault at any of its calls, `decryptPayload` ends as it does without
faults. -/
theorem calls_decryptPayload (srcLongAddress : Bytes 8) (counter : FrameCounter)
    (headerAuthData : List UInt8) {c out : List UInt8} (hc : micLength ≤ c.length)
    (hout : c.length - micLength ≤ out.length) :
    Calls (decryptCalls headerAuthData.length (c.length - micLength))
      (decryptPayload P key srcLongAddress counter headerAuthData c out) := by
  have htake : (c.take (c.length - micLength)).length = c.length - micLength := by
    rw [List.length_take]
    omega
  unfold decryptPayload
  dsimp only
  rw [if_neg (by omega), if_neg (by omega), decryptCalls]
  have hctr : Calls _ (applyCtrStream P key (formatNonce srcLongAddress counter)
    (c.take (c.length - micLength)) out) := calls_applyCtrStream _ _ _ _
  have hmac : Makes _ (computeCbcMac P key (formatNonce srcLongAddress counter) headerAuthData
    (unmasked P key (formatNonce srcLongAddress counter) (c.take (c.length - micLength)))) :=
    makes_computeCbcMac ..
  rw [htake] at hctr
  rw [length_unmasked, htake] at hmac
  refine hctr.bind ?_
  rw [applyCtrStream_noFaults _ (by omega), ← unmasked]
  dsimp only
  rw [take_unmasked_append _ htake]
  refine hmac.quiet.bind (n := 0) ?_
  generalize (computeCbcMac P key (formatNonce srcLongAddress counter) headerAuthData _).run
    noFaults = res
  rcases res with ⟨_ | mac, _⟩
  · exact .pure _
  · dsimp only
    split_ifs <;> exact .pure _

/-! ### What is withheld -/

/-- **A failed decryption shows nothing**: every byte of the buffer is as it was or
zero. -/
def WithholdsPlaintext (P : CryptoProvider) (key : Bytes 16) (srcLongAddress : Bytes 8)
    (counter : FrameCounter) (headerAuthData c out : List UInt8) (faults : Faults) : Prop :=
  ∀ e out', (decryptPayload P key srcLongAddress counter headerAuthData c out faults).1 =
    (.error e, out') → out'.length = out.length ∧
      ∀ i, byteAt out' i = byteAt out i ∨ byteAt out' i = 0

/-- Byte `i` of the ciphertext decrypts to zero, or to what the buffer holds there. -/
def ShowsNothing (P : CryptoProvider) (key : Bytes 16) (srcLongAddress : Bytes 8)
    (counter : FrameCounter) (c out : List UInt8) (i : ℕ) : Prop :=
  let keystream := streamFrom P key (formatNonce srcLongAddress counter) 1 (c.length - micLength)
  byteAt c i = byteAt keystream i ∨ byteAt c i = byteAt keystream i ^^^ byteAt out i

/-- A write at the front replaces the bytes it covers, and no others. -/
theorem byteAt_writeAt_zero (out l : List UInt8) (i : ℕ) :
    byteAt (writeAt out 0 l) i = if i < l.length then byteAt l i else byteAt out i := by
  simp only [writeAt, byteAt, List.take_zero, List.nil_append, Nat.zero_add,
    List.getD_eq_getElem?_getD]
  split_ifs with h
  · rw [List.getElem?_append_left h]
  · rw [List.getElem?_append_right (by omega), List.getElem?_drop, Nat.add_sub_cancel' (by omega)]

/-- A byte is unmasked with that of the key stream. -/
theorem byteAt_unmasked (nonce : Bytes 13) {input : List UInt8} {i : ℕ} (h : i < input.length) :
    byteAt (unmasked P key nonce input) i =
      byteAt input i ^^^ byteAt (streamFrom P key nonce 1 input.length) i := by
  have hstream : i < (streamFrom P key nonce 1 input.length).length := by
    rwa [length_streamFrom]
  rw [byteAt, List.getD_eq_getElem?_getD, unmasked, List.getElem?_zipWith, getElem?_eq_byteAt h,
    getElem?_eq_byteAt hstream]
  rfl

/-- Withholding the plaintext, for the buffer that a failed decryption leaves. -/
theorem withholdsPlaintext_of_eq {srcLongAddress : Bytes 8} {counter : FrameCounter}
    {headerAuthData c out out' : List UInt8} {faults : Faults} {e : StatusCode}
    (h : (decryptPayload P key srcLongAddress counter headerAuthData c out faults).1 =
      (.error e, out')) :
    WithholdsPlaintext P key srcLongAddress counter headerAuthData c out faults ↔
      out'.length = out.length ∧ ∀ i, byteAt out' i = byteAt out i ∨ byteAt out' i = 0 := by
  constructor
  · intro hw
    exact hw e out' h
  · rintro hout' e₁ out₁ h₁
    obtain rfl := (Prod.mk.inj (h.symm.trans h₁)).2
    exact hout'

/-- A frame that is too short or too long for the buffer is rejected. -/
theorem decryptPayload_rejected (srcLongAddress : Bytes 8) (counter : FrameCounter)
    (headerAuthData : List UInt8) {c out : List UInt8} (faults : Faults)
    (h : ¬ (micLength ≤ c.length ∧ c.length - micLength ≤ out.length)) : ∃ e,
    (decryptPayload P key srcLongAddress counter headerAuthData c out faults).1 =
      (.error e, out) := by
  by_cases hc : c.length < micLength
  · rw [decryptPayload_malformed hc]
    exact ⟨_, rfl⟩
  · rw [decryptPayload_overflow (by omega)]
    exact ⟨_, rfl⟩

/-- The blocks written before call `j` show nothing if none of their bytes does. -/
theorem writtenBefore_iff {srcLongAddress : Bytes 8} {counter : FrameCounter}
    {c out : List UInt8} (hout : c.length - micLength ≤ out.length) (j : ℕ) :
    ((writtenBefore P key srcLongAddress counter c out j).length = out.length ∧
      ∀ i, byteAt (writtenBefore P key srcLongAddress counter c out j) i = byteAt out i ∨
        byteAt (writtenBefore P key srcLongAddress counter c out j) i = 0) ↔
      ∀ i < c.length - micLength, i < 16 * (j - 1) →
        ShowsNothing P key srcLongAddress counter c out i := by
  have htake : (c.take (c.length - micLength)).length = c.length - micLength := by
    rw [List.length_take]
    omega
  have hlen : ((unmasked P key (formatNonce srcLongAddress counter)
      (c.take (c.length - micLength))).take (16 * (j - 1))).length =
        min (16 * (j - 1)) (c.length - micLength) := by
    rw [List.length_take, length_unmasked, htake]
  have hbyte {i : ℕ} (hi : i < c.length - micLength) (hij : i < 16 * (j - 1)) :
      byteAt ((unmasked P key (formatNonce srcLongAddress counter)
        (c.take (c.length - micLength))).take (16 * (j - 1))) i = byteAt c i ^^^
          byteAt (streamFrom P key (formatNonce srcLongAddress counter) 1
            (c.length - micLength)) i := by
    rw [byteAt_take hij, byteAt_unmasked _ (by omega), htake, byteAt_take hi]
  -- a byte under the mask is the old one or zero
  have hxor (b k o : UInt8) : b ^^^ k = o ∨ b ^^^ k = 0 ↔ b = k ∨ b = k ^^^ o := by
    rw [UInt8.xor_eq_zero_iff, or_comm, ← UInt8.xor_left_inj (a := b ^^^ k) k, UInt8.xor_assoc,
      UInt8.xor_self, UInt8.xor_zero, UInt8.xor_comm o]
  rw [writtenBefore, length_writeAt (by omega)]
  simp only [byteAt_writeAt_zero, hlen, true_and]
  refine forall_congr' fun i => ?_
  by_cases hi : i < c.length - micLength ∧ i < 16 * (j - 1)
  · simp only [if_pos (show i < min (16 * (j - 1)) (c.length - micLength) by omega),
      hbyte hi.1 hi.2, hxor, hi.1, hi.2, true_imp_iff]
    rfl
  · rw [if_neg (by omega)]
    exact ⟨fun _ h₁ h₂ => absurd ⟨h₁, h₂⟩ hi, fun _ => .inl rfl⟩

/-- A frame that is too short or too long is rejected before anything is written.  For any
other the first call that fails, if there is one, must come too early for a byte to have
been written, or the bytes decrypted by then must show nothing. -/
theorem withholdsPlaintext_iff (P : CryptoProvider) (key : Bytes 16) (srcLongAddress : Bytes 8)
    (counter : FrameCounter) (headerAuthData c out : List UInt8) (faults : Faults) :
    WithholdsPlaintext P key srcLongAddress counter headerAuthData c out faults ↔
      (micLength ≤ c.length → c.length - micLength ≤ out.length →
        ∀ j < decryptCalls headerAuthData.length (c.length - micLength), FirstFault j faults →
          ∀ i < c.length - micLength, i < 16 * (j - 1) →
            ShowsNothing P key srcLongAddress counter c out i) := by
  by_cases hfits : micLength ≤ c.length ∧ c.length - micLength ≤ out.length
  swap
  · obtain ⟨e, h⟩ : ∃ e, (decryptPayload P key _ _ _ c out faults).1 = (.error e, out) :=
      decryptPayload_rejected srcLongAddress counter headerAuthData faults hfits
    rw [withholdsPlaintext_of_eq h]
    exact ⟨fun _ hc hout => absurd ⟨hc, hout⟩ hfits, fun _ => ⟨rfl, fun _ => .inl rfl⟩⟩
  obtain ⟨hc, hout⟩ := hfits
  simp only [hc, hout, true_imp_iff]
  rcases firstFault_or_quiet (decryptCalls headerAuthData.length (c.length - micLength)) faults
    with ⟨j, hj, hfirst⟩ | hquiet
  · obtain ⟨e, hfault⟩ := Option.ne_none_iff_exists'.1 hfirst.2
    rw [withholdsPlaintext_of_eq (decryptPayload_of_fault srcLongAddress counter headerAuthData hc
      hout hj hfirst.1 hfault), writtenBefore_iff hout]
    constructor
    · rintro h k - hk
      obtain rfl := hfirst.unique hk
      exact h
    · intro h
      exact h j hj hfirst
  · refine iff_of_true ?_ fun j hj hfirst => absurd (hquiet j hj) hfirst.2
    intro e out' h
    rw [calls_decryptPayload srcLongAddress counter headerAuthData hc hout faults hquiet,
      decryptPayload_noFaults srcLongAddress counter headerAuthData hc hout] at h
    rcases hm : unsecuredPayload P key srcLongAddress counter headerAuthData c with _ | m
    · rw [hm] at h
      obtain rfl := (Prod.mk.inj h).2
      refine ⟨List.length_replicate, fun i => .inr ?_⟩
      rw [byteAt, List.getD_eq_getElem?_getD, List.getElem?_replicate]
      split_ifs <;> rfl
    · rw [hm] at h
      cases (Prod.mk.inj h).1

/-- A provider whose keystream is zero. -/
def CryptoProvider.blank : CryptoProvider where
  aes128 _ _ := Bytes.zero 16
  cmac _ _ := Bytes.zero 16

/-- A cipher that yields zeros makes a key stream of zeros. -/
theorem byteAt_streamFrom_blank (nonce : Bytes 13) (counter : UInt16) (len i : ℕ) :
    byteAt (streamFrom .blank key nonce counter len) i = 0 := by
  have hzero : ∀ b ∈ streamFrom .blank key nonce counter len, b = 0 := by
    intro b hb
    obtain ⟨k, -, hk⟩ := List.mem_flatMap.1 (List.mem_of_mem_take hb)
    exact List.eq_of_mem_replicate hk
  rw [byteAt, List.getD_eq_getElem?_getD]
  cases h : (streamFrom .blank key nonce counter len)[i]? with
  | none => rfl
  | some b => exact hzero b (List.mem_of_getElem? h)

/-- For given lengths and faults: the plaintext is withheld whatever the data are exactly
if no call fails first that comes after a block has been written. -/
theorem forall_withholdsPlaintext_iff {aadLength cLength outLength : ℕ} {faults : Faults} :
    (∀ P key srcLongAddress counter headerAuthData c out,
      headerAuthData.length = aadLength → c.length = cLength → out.length = outLength →
        WithholdsPlaintext P key srcLongAddress counter headerAuthData c out faults) ↔
      (micLength < cLength → cLength - micLength ≤ outLength →
        ∀ j < decryptCalls aadLength (cLength - micLength), FirstFault j faults → j ≤ 1) := by
  constructor
  · intro h hc hout j hj hfirst
    by_contra hlate
    have hshows := (withholdsPlaintext_iff .blank (Bytes.zero 16) (Bytes.zero 8) 0
      (List.replicate aadLength 0) (List.replicate cLength 1) (List.replicate outLength 0)
      faults).1 (h _ _ _ _ _ _ _ List.length_replicate List.length_replicate
        List.length_replicate)
    simp only [List.length_replicate] at hshows
    have hbyte := hshows (by omega) hout j hj hfirst 0 (by omega) (by omega)
    have hone : byteAt (List.replicate cLength 1) 0 = 1 := by
      obtain ⟨n, rfl⟩ := Nat.exists_eq_add_of_lt hc
      rfl
    have hold : byteAt (List.replicate outLength 0) 0 = 0 := by
      cases outLength <;> rfl
    rw [ShowsNothing, hone, byteAt_streamFrom_blank, hold] at hbyte
    revert hbyte
    decide
  · rintro h P key srcLongAddress counter headerAuthData c out rfl rfl rfl
    refine (withholdsPlaintext_iff ..).2 fun hc hout j hj hfirst i hi hij => ?_
    have hearly := h (by omega) hout j hj hfirst
    omega

/-- **Exactly when a failed decryption withholds the plaintext**: for these data, and for
all data of the same lengths under the same faults. -/
theorem withholdsPlaintext_exactly (P : CryptoProvider) (key : Bytes 16)
    (srcLongAddress : Bytes 8) (counter : FrameCounter) (headerAuthData c out : List UInt8)
    (faults : Faults) :
    (WithholdsPlaintext P key srcLongAddress counter headerAuthData c out faults ↔
      (micLength ≤ c.length → c.length - micLength ≤ out.length →
        ∀ j < decryptCalls headerAuthData.length (c.length - micLength), FirstFault j faults →
          ∀ i < c.length - micLength, i < 16 * (j - 1) →
            ShowsNothing P key srcLongAddress counter c out i)) ∧
    ((∀ P key srcLongAddress counter headerAuthData' c' out',
      headerAuthData'.length = headerAuthData.length → c'.length = c.length →
        out'.length = out.length →
          WithholdsPlaintext P key srcLongAddress counter headerAuthData' c' out' faults) ↔
      (micLength < c.length → c.length - micLength ≤ out.length →
        ∀ j < decryptCalls headerAuthData.length (c.length - micLength), FirstFault j faults →
          j ≤ 1)) :=
  ⟨withholdsPlaintext_iff P key srcLongAddress counter headerAuthData c out faults,
    forall_withholdsPlaintext_iff⟩

/-- A call of the MAC that fails shows the plaintext: under a key of zeros, one byte
is decrypted over the seven in the buffer, and the call for `B_0` fails. -/
theorem not_withholdsPlaintext_macFault :
    ¬ WithholdsPlaintext .sample (Bytes.zero 16) (Bytes.zero 8) 1 (List.replicate 23 5)
      (List.replicate 9 5) [7] (fun i => if i = 2 then some .cryptoOperationFailed else none) := by
  intro h
  have hbyte := (h .cryptoOperationFailed [4] (by decide)).2 0
  revert hbyte
  decide

end Crypto
end AliroUwb
