/-
# What the tokenizer accepts

`parseTlvStream` compares every tag, length and value with the end that the
header declares, which it has compared with the end of the message first.  So
its accesses stay inside the message: with each of them checked it returns the
same (`parseTlvStreamChecked_eq`), and the loop is through before its rounds are.

The attributes it returns are those that tile the declared payload
(`parseTlvStream_ok_iff`).  There is only one kind of error, so what follows
the payload makes no difference either way (`parseTlvStream_append`).
-/

import AliroUwb.Protocol.SetupCodecLaws

namespace AliroUwb
namespace Protocol

/-- `payloadLen` of `parseTlvStream`: the big-endian length in the header. -/
def payloadLen (stream : List UInt8) : ℕ := (readBe16 stream 2).toNat

/-- The payload that the header declares. -/
def payload (stream : List UInt8) : List UInt8 := (stream.drop 4).take (payloadLen stream)

/-- A header, and behind it at least the payload it declares. -/
def Declared (stream : List UInt8) : Prop :=
  4 ≤ stream.length ∧ payloadLen stream ≤ stream.length - 4

/-- The payload split into tag, length and value triples, with nothing left over. -/
def Tiles (elements : List TlvElement) (stream : List UInt8) : Prop :=
  (∀ e ∈ elements, e.Fits) ∧ serialise elements = payload stream

/-! ### Every access checked -/

/-- `std::span::subspan`, which has to lie inside. -/
def subspan (stream : List UInt8) (offset count : ℕ) : Option (List UInt8) :=
  if offset + count ≤ stream.length then some ((stream.drop offset).take count) else none

/-- The loop of `parseTlvStream` with its accesses checked: `none` when one of them
is outside the message, or when the loop is not through after `fuel` rounds. -/
def parseTlvElementsChecked (stream : List UInt8) (end' : ℕ) :
    ℕ → ℕ → List TlvElement → Option (Except StatusCode (List TlvElement))
  | 0, _, _ => none
  | fuel + 1, offset, elements =>
    if offset < end' then
      if end' < offset + 2 then some (.error .malformedFrame)
      else do
        let tag ← stream[offset]?
        let len ← stream[offset + 1]?
        if end' < offset + 2 + len.toNat then some (.error .malformedFrame)
        else do
          let value ← subspan stream (offset + 2) len.toNat
          parseTlvElementsChecked stream end' fuel (offset + 2 + len.toNat)
            (elements ++ [⟨⟨tag⟩, value⟩])
    else some (.ok elements)

/-- `parseTlvStream` with its accesses checked. -/
def parseTlvStreamChecked (stream : List UInt8) : Option (Except StatusCode (List TlvElement)) :=
  if stream.length < 4 then some (.error .malformedFrame)
  else do
    let length ← subspan stream 2 2
    let payloadLen := (readBe16 length 0).toNat
    if stream.length - 4 < payloadLen then some (.error .malformedFrame)
    else parseTlvElementsChecked stream (4 + payloadLen) (payloadLen + 1) 4 []

/-- What is left at an index begins with the byte there. -/
theorem drop_eq_byteAt_cons {l : List UInt8} {i : ℕ} (h : i < l.length) :
    l.drop i = byteAt l i :: l.drop (i + 1) := by
  have hbyte := getElem?_eq_byteAt h
  rw [List.getElem?_eq_getElem h] at hbyte
  rw [List.drop_eq_getElem_cons h, Option.some.inj hbyte]

/-- Up to the end of the message the loop reads nothing outside it, and every
round takes two bytes or more. -/
theorem parseTlvElementsChecked_eq {stream : List UInt8} {end' offset fuel : ℕ}
    {read : List TlvElement} (hend : end' ≤ stream.length) (hfuel : end' - offset < fuel) :
    parseTlvElementsChecked stream end' fuel offset read =
      some (parseTlvElements stream end' fuel offset read) := by
  induction fuel generalizing offset read with
  | zero => exact absurd hfuel (Nat.not_lt_zero _)
  | succ fuel ih =>
    rw [parseTlvElementsChecked, parseTlvElements]
    by_cases hlt : offset < end'
    swap
    · rw [if_neg hlt, if_neg hlt]
    rw [if_pos hlt, if_pos hlt]
    by_cases htwo : end' < offset + 2
    · rw [if_pos htwo, if_pos htwo]
    rw [if_neg htwo, if_neg htwo, getElem?_eq_byteAt (by omega), getElem?_eq_byteAt (by omega)]
    by_cases hvalue : end' < offset + 2 + (byteAt stream (offset + 1)).toNat
    · rw [if_pos hvalue]
      exact if_pos hvalue
    · rw [if_neg hvalue]
      refine (if_neg hvalue).trans ?_
      rw [subspan, if_pos (by omega)]
      exact ih (by omega)

/-- **No access outside the message, and always an end.** -/
theorem parseTlvStreamChecked_eq (stream : List UInt8) :
    parseTlvStreamChecked stream = some (parseTlvStream stream) := by
  rw [parseTlvStreamChecked, parseTlvStream]
  by_cases hshort : stream.length < 4
  · rw [if_pos hshort, if_pos hshort]
  have hlength : readBe16 ((stream.drop 2).take 2) 0 = readBe16 stream 2 := by
    have hbyte {i : ℕ} (h : i < 2) : byteAt ((stream.drop 2).take 2) i = byteAt stream (2 + i) := by
      rw [byteAt_take h, byteAt, byteAt, List.getD_eq_getElem?_getD, List.getD_eq_getElem?_getD,
        List.getElem?_drop]
    rw [readBe16, readBe16, hbyte (by decide), hbyte (by decide)]
  rw [if_neg hshort, if_neg hshort, subspan, if_pos (by omega), Option.bind_eq_bind,
    Option.bind_some]
  dsimp only
  rw [hlength]
  by_cases hdeclared : stream.length - 4 < (readBe16 stream 2).toNat
  · rw [if_pos hdeclared, if_pos hdeclared]
  · rw [if_neg hdeclared, if_neg hdeclared]
    exact parseTlvElementsChecked_eq (by omega) (by omega)

/-! ### What is returned -/

/-- Every error is the same. -/
theorem parseTlvElements_error {stream : List UInt8} {end' offset fuel : ℕ}
    {read : List TlvElement} {e : StatusCode}
    (h : parseTlvElements stream end' fuel offset read = .error e) : e = .malformedFrame := by
  induction fuel generalizing offset read with
  | zero => exact (Except.error.inj h).symm
  | succ fuel ih =>
    rw [parseTlvElements] at h
    dsimp only at h
    split_ifs at h
    · exact (Except.error.inj h).symm
    · exact (Except.error.inj h).symm
    · exact ih h

/-- The tokenizer has one error. -/
theorem parseTlvStream_error {stream : List UInt8} {e : StatusCode}
    (h : parseTlvStream stream = .error e) : e = .malformedFrame := by
  rw [parseTlvStream] at h
  dsimp only at h
  split_ifs at h
  · exact (Except.error.inj h).symm
  · exact (Except.error.inj h).symm
  · exact parseTlvElements_error h

/-- What the loop returns is what it was given and the attributes that tile the
bytes from `offset` to the end. -/
theorem serialise_of_parseTlvElements {stream : List UInt8} {end' offset fuel : ℕ}
    {read elements : List TlvElement} (hend : end' ≤ stream.length) (hoffset : offset ≤ end')
    (h : parseTlvElements stream end' fuel offset read = .ok elements) :
    ∃ new, elements = read ++ new ∧ (∀ e ∈ new, e.Fits) ∧
      serialise new = (stream.drop offset).take (end' - offset) := by
  induction fuel generalizing offset read with
  | zero => cases h
  | succ fuel ih =>
    rw [parseTlvElements] at h
    dsimp only at h
    split_ifs at h with hlt htwo hvalue
    · generalize hlen : byteAt stream (offset + 1) = len at h hvalue
      have hfits := len.toNat_lt
      obtain ⟨new, rfl, hnew, hserialise⟩ := ih (by omega) h
      -- the attribute of this round, and those of the rounds after it
      have hcut : (stream.drop offset).take (end' - offset) =
          byteAt stream offset :: len :: ((stream.drop (offset + 2)).take len.toNat ++
            (stream.drop (offset + 2 + len.toNat)).take (end' - (offset + 2 + len.toNat))) := by
        have hsize : end' - offset = len.toNat + (end' - (offset + 2 + len.toNat)) + 2 := by omega
        rw [drop_eq_byteAt_cons (by omega : offset < stream.length),
          drop_eq_byteAt_cons (by omega : offset + 1 < stream.length), hlen, hsize,
          List.take_succ_cons, List.take_succ_cons, List.take_add, List.drop_drop]
      have hlength : ((stream.drop (offset + 2)).take len.toNat).length = len.toNat := by
        rw [List.length_take, List.length_drop]
        omega
      refine ⟨⟨⟨byteAt stream offset⟩, (stream.drop (offset + 2)).take len.toNat⟩ :: new,
        by rw [List.append_assoc, List.singleton_append], ?_, ?_⟩
      · rw [List.forall_mem_cons]
        exact ⟨by rw [TlvElement.Fits, hlength]; exact hfits, hnew⟩
      · rw [serialise_cons, hserialise, hcut, TlvElement.bytes, hlength, UInt8.ofNat_toNat]
        rfl
    · obtain rfl := Except.ok.inj h
      obtain rfl : offset = end' := by omega
      exact ⟨[], by rw [List.append_nil], by simp, by rw [Nat.sub_self, List.take_zero]; rfl⟩

/-- **The tokenizer returns exactly the attributes that tile the declared payload.** -/
theorem parseTlvStream_ok_iff {stream : List UInt8} {elements : List TlvElement} :
    parseTlvStream stream = .ok elements ↔ Declared stream ∧ Tiles elements stream := by
  constructor
  · intro h
    rw [parseTlvStream] at h
    dsimp only at h
    split_ifs at h with hshort hdeclared
    have hdeclares : Declared stream := ⟨by omega, Nat.le_of_not_lt hdeclared⟩
    obtain ⟨new, rfl, hfits, hserialise⟩ :=
      serialise_of_parseTlvElements (by omega) (Nat.le_add_right _ _) h
    rw [Nat.add_sub_cancel_left] at hserialise
    exact ⟨hdeclares, hfits, hserialise⟩
  · rintro ⟨⟨hlong, hdeclared⟩, hfits, hserialise⟩
    have hlength : (serialise elements).length = payloadLen stream := by
      rw [hserialise, payload, List.length_take, List.length_drop]
      omega
    have hdrop : stream.drop 4 =
        serialise elements ++ (stream.drop 4).drop (payloadLen stream) := by
      rw [hserialise, payload, List.take_append_drop]
    have hcount := length_le_length_serialise elements
    rw [parseTlvStream, if_neg (Nat.not_lt.2 hlong)]
    dsimp only
    rw [← payloadLen, if_neg (Nat.not_lt.2 hdeclared)]
    exact parseTlvElements_serialise hfits hdrop (by rw [hlength]) (by omega)

/-- Two streams with the same header length and the same payload are tiled alike. -/
theorem parseTlvStream_congr {stream stream' : List UInt8} (hd : Declared stream)
    (hd' : Declared stream') (hp : payload stream = payload stream') :
    parseTlvStream stream = parseTlvStream stream' := by
  have hiff (elements : List TlvElement) :
      parseTlvStream stream = .ok elements ↔ parseTlvStream stream' = .ok elements := by
    rw [parseTlvStream_ok_iff, parseTlvStream_ok_iff, Tiles, Tiles, hp]
    exact and_congr_left' (iff_of_true hd hd')
  cases h : parseTlvStream stream with
  | ok elements => exact ((hiff elements).1 h).symm
  | error e =>
    cases h' : parseTlvStream stream' with
    | ok elements =>
      rw [(hiff elements).2 h'] at h
      cases h
    | error e' => rw [parseTlvStream_error h, parseTlvStream_error h']

/-- **What follows the declared payload makes no difference.** -/
theorem parseTlvStream_append {stream : List UInt8} (h : Declared stream) (rest : List UInt8) :
    parseTlvStream (stream.take (4 + payloadLen stream) ++ rest) = parseTlvStream stream := by
  obtain ⟨hlong, hdeclared⟩ := h
  have hcut : (stream.take (4 + payloadLen stream)).length = 4 + payloadLen stream := by
    rw [List.length_take]
    omega
  have hrest : (stream.take (4 + payloadLen stream) ++ rest).drop 4 = payload stream ++ rest := by
    rw [List.drop_append_of_le_length (by omega), List.drop_take, Nat.add_sub_cancel_left, payload]
  have hbyte {i : ℕ} (hi : i < 4) :
      byteAt (stream.take (4 + payloadLen stream) ++ rest) i = byteAt stream i := by
    rw [byteAt, byteAt, List.getD_eq_getElem?_getD, List.getD_eq_getElem?_getD,
      List.getElem?_append_left (by omega), List.getElem?_take_of_lt (by omega)]
  have hlong' : 4 + payloadLen stream ≤ (stream.take (4 + payloadLen stream) ++ rest).length := by
    rw [List.length_append]
    omega
  generalize stream.take (4 + payloadLen stream) ++ rest = copy at hrest hbyte hlong' ⊢
  have hlength : payloadLen copy = payloadLen stream := by
    rw [payloadLen, readBe16, hbyte (by decide), hbyte (by decide)]
    rfl
  refine parseTlvStream_congr ⟨by omega, by omega⟩ ⟨hlong, hdeclared⟩ ?_
  rw [payload, hlength, hrest]
  refine List.take_left' ?_
  rw [payload, List.length_take, List.length_drop]
  omega

/-! ### The tokenizer -/

/-- What the tokenizer does with a byte string. -/
structure Tokenizes (stream : List UInt8) : Prop where
  /-- It comes to an end and reads nothing outside the byte string. -/
  checked : parseTlvStreamChecked stream = some (parseTlvStream stream)
  accepts : (∃ elements, parseTlvStream stream = .ok elements) ↔
    Declared stream ∧ ∃ elements, Tiles elements stream
  tiles : ∀ elements, parseTlvStream stream = .ok elements → Tiles elements stream
  trailing : Declared stream → ∀ rest,
    parseTlvStream (stream.take (4 + payloadLen stream) ++ rest) = parseTlvStream stream

/-- **The tokenizer accepts the exact tilings**, stays inside the byte string, and
looks at nothing behind the payload. -/
theorem tokenizes (stream : List UInt8) : Tokenizes stream where
  checked := parseTlvStreamChecked_eq stream
  accepts := by
    simp only [parseTlvStream_ok_iff]
    exact exists_and_left
  tiles elements h := (parseTlvStream_ok_iff.1 h).2
  trailing := parseTlvStream_append

/-- Two attributes, the second of them empty, and two bytes that are not looked at. -/
example : parseTlvStream [0x01, 0x01, 0x00, 0x05, 0x04, 1, 0x02, 0x11, 0, 0xFF, 0xFF] =
    .ok [⟨.ranMultiplier, [0x02]⟩, ⟨.status, []⟩] := by decide

end Protocol
end AliroUwb
