/-
# The MAC frame codec is a bijection

What `src/protocol/FrameCodec.cpp` writes into an output buffer, and what it
reads of its input.

The encoders write field by field at fixed positions (`encodeHeaderInto`, …);
what is in the buffer afterwards is the layout of `FrameCodec` and then whatever
was there.  The decoders are given once more with every read checked
(`decodeHeaderChecked`, …): that these agree with the plain ones says that no
read goes past the end, for a message of any length.

`frameCodec_inverse` puts the three formats together.
-/

import AliroUwb.Library.WireFormat
import AliroUwb.Protocol.FrameCodec

namespace AliroUwb
namespace Protocol

open WireFormat

/-! ### The encoders -/

/-- `FrameCodec::encodeHeader`. -/
def encodeHeaderInto (header : MacHeader) (output : List UInt8) :
    Except StatusCode ℕ × List UInt8 :=
  if output.length < macHeaderLength then (.error .bufferOverflow, output)
  else
    let p := overwrite output 0 (writeLe16 frameControlField)
    let p := overwrite p 2 (writeLe16 header.destinationShortAddress)
    let p := overwrite p 4 [securityControlField]
    let p := overwrite p 5 (writeLe32 header.frameCounter)
    let p := overwrite p 9 header.keySource.1.reverse
    let p := overwrite p 13 [keyIndexField]
    let p := overwrite p 14 (writeLe16 vendorIeHeader)
    let p := overwrite p 16 [(vendorOuiAliro &&& 0xFF).toUInt8]
    let p := overwrite p 17 [((vendorOuiAliro >>> 8) &&& 0xFF).toUInt8]
    let p := overwrite p 18 [((vendorOuiAliro >>> 16) &&& 0xFF).toUInt8]
    let p := overwrite p 19 [header.messageId.toByte]
    let p := overwrite p 20 [header.payloadLength]
    let p := overwrite p 21 (writeLe16 headerTermination2Ie)
    (.ok macHeaderLength, p)

/-- `FrameCodec::encodePrePoll`. -/
def encodePrePollInto (prePoll : PrePollPayload) (output : List UInt8) :
    Except StatusCode ℕ × List UInt8 :=
  if output.length < prePollPayloadLength then (.error .bufferOverflow, output)
  else
    let p := overwrite output 0 (writeLe32 prePoll.sessionId)
    let p := overwrite p 4 (writeLe32 prePoll.pollStsIndex)
    let p := overwrite p 8 (writeLe16 prePoll.rangingBlock)
    let p := overwrite p 10 [prePoll.hopFlag]
    let p := overwrite p 11 (writeLe16 prePoll.roundIndex)
    (.ok prePollPayloadLength, p)

/-- The record loop of `FrameCodec::encodeFinalData`, from record `i` on. -/
def writeReports (p : List UInt8) (i : ℕ) : List ResponderTimestampReport → List UInt8
  | [] => p
  | report :: reports =>
    let r := finalDataHeaderLength + i * responderRecordLength
    let p := overwrite p r [report.responderIndex]
    let p := overwrite p (r + 1) (writeLe32 report.pollToResponseDeltaDtu)
    let p := overwrite p (r + 5) [report.timestampUncertainty]
    let p := overwrite p (r + 6) [report.rangingStatus]
    writeReports p (i + 1) reports

/-- The number of bytes of an encoded FinalData. -/
def finalDataLength (finalData : FinalDataPayload) : ℕ :=
  finalDataHeaderLength + finalData.responderReports.length * responderRecordLength

/-- `FrameCodec::encodeFinalData`. -/
def encodeFinalDataInto (finalData : FinalDataPayload) (output : List UInt8) :
    Except StatusCode ℕ × List UInt8 :=
  if output.length < finalDataLength finalData ∨
      maxRespondersSupported < finalData.responderReports.length then
    (.error .bufferOverflow, output)
  else
    let p := overwrite output 0 (writeLe32 finalData.sessionId)
    let p := overwrite p 4 (writeLe16 finalData.rangingBlock)
    let p := overwrite p 6 [finalData.hopFlag]
    let p := overwrite p 7 (writeLe16 finalData.roundIndex)
    let p := overwrite p 9 (writeLe32 finalData.finalStsIndex)
    let p := overwrite p 13 (writeLe32 finalData.pollToFinalTxDeltaDtu)
    let p := overwrite p 17 [UInt8.ofNat finalData.responderReports.length]
    (.ok (finalDataLength finalData), writeReports p 0 finalData.responderReports)

/-- A header takes 23 bytes. -/
@[simp] theorem length_encodeHeader (header : MacHeader) :
    (encodeHeader header).length = macHeaderLength := by
  simp [encodeHeader, macHeaderLength, header.keySource.2]

/-- A PrePoll payload takes 13 bytes. -/
@[simp] theorem length_encodePrePoll (prePoll : PrePollPayload) :
    (encodePrePoll prePoll).length = prePollPayloadLength := rfl

/-- A report of the FinalData takes seven bytes. -/
@[simp] theorem length_writeReport (report : ResponderTimestampReport) :
    (writeReport report).length = responderRecordLength := rfl

/-- Reports in a row take seven bytes each. -/
theorem length_flatMap_writeReport (reports : List ResponderTimestampReport) :
    (reports.flatMap writeReport).length = reports.length * responderRecordLength := by
  induction reports with
  | nil => rfl
  | cons report reports ih =>
    rw [List.flatMap_cons, List.length_append, ih, length_writeReport, List.length_cons,
      Nat.succ_mul, Nat.add_comm]

/-- A FinalData takes the length that `finalDataLength` computes. -/
@[simp] theorem length_encodeFinalData (finalData : FinalDataPayload) :
    (encodeFinalData finalData).length = finalDataLength finalData := by
  have hreports := length_flatMap_writeReport finalData.responderReports
  simp only [encodeFinalData, List.length_append, length_writeLe32, length_writeLe16, hreports,
    List.length_singleton, finalDataLength, finalDataHeaderLength]

/-- `encodeHeader` writes the layout of the header. -/
theorem encodeHeaderInto_eq (header : MacHeader) {output : List UInt8}
    (h : macHeaderLength ≤ output.length) :
    encodeHeaderInto header output =
      (.ok macHeaderLength, filledWith output (encodeHeader header)) := by
  have hkey := header.keySource.2
  rw [encodeHeaderInto, if_neg (by omega)]
  dsimp only
  rw [overwrite_zero]
  iterate 12 rw [overwrite_filledWith _ _ (by simp [hkey])]
  simp only [encodeHeader, List.nil_append, List.append_assoc, List.cons_append]

/-- In a buffer that is large enough, the encoder writes the payload at the front. -/
theorem encodePrePollInto_eq (prePoll : PrePollPayload) {output : List UInt8}
    (h : prePollPayloadLength ≤ output.length) :
    encodePrePollInto prePoll output =
      (.ok prePollPayloadLength, filledWith output (encodePrePoll prePoll)) := by
  rw [encodePrePollInto, if_neg (by omega)]
  dsimp only
  rw [overwrite_zero]
  iterate 4 rw [overwrite_filledWith _ _ (by simp)]
  rfl

/-- Every turn of the record loop writes one more record. -/
theorem writeReports_filledWith {output written : List UInt8} {i : ℕ}
    (reports : List ResponderTimestampReport)
    (h : written.length = finalDataHeaderLength + i * responderRecordLength) :
    writeReports (filledWith output written) i reports =
      filledWith output (written ++ reports.flatMap writeReport) := by
  induction reports generalizing written i with
  | nil => rw [writeReports, List.flatMap_nil, List.append_nil]
  | cons report reports ih =>
    rw [writeReports]
    iterate 4 rw [overwrite_filledWith _ _ (by simp [h])]
    rw [ih (by simp [h, Nat.succ_mul, responderRecordLength, Nat.add_assoc])]
    simp only [List.flatMap_cons, writeReport, List.append_assoc, List.cons_append,
      List.nil_append]

/-- `encodeFinalData` writes the layout of a FinalData of at most ten records. -/
theorem encodeFinalDataInto_eq {finalData : FinalDataPayload} {output : List UInt8}
    (hcount : finalData.responderReports.length ≤ maxRespondersSupported)
    (h : finalDataLength finalData ≤ output.length) :
    encodeFinalDataInto finalData output =
      (.ok (finalDataLength finalData), filledWith output (encodeFinalData finalData)) := by
  rw [encodeFinalDataInto, if_neg (by omega)]
  dsimp only
  rw [overwrite_zero]
  iterate 6 rw [overwrite_filledWith _ _ (by simp)]
  rw [writeReports_filledWith _ (by simp [finalDataHeaderLength])]
  simp only [encodeFinalData, List.append_assoc]

/-! ### What is written is read back -/

/-- A header is read back, whatever follows it. -/
theorem decodeHeader_encodeHeader (header : MacHeader) (rest : List UInt8) :
    decodeHeader (encodeHeader header ++ rest) = .ok header := by
  obtain ⟨destination, counter, ⟨key, hkey⟩, ⟨messageId⟩, payloadLength⟩ := header
  match key, hkey with
  | [a, b, c, d], hkey =>
    -- with the pieces nested to the right, a position is found by going down the list
    rw [decodeHeader, if_neg (by simp [macHeaderLength]), if_neg]
      <;> simp only [encodeHeader, List.append_assoc, List.cons_append, List.nil_append,
        List.reverse_cons, List.reverse_nil]
    · congr 2
      · exact readLe16_writeLe16 destination
      · exact readLe32_writeLe32 counter
    · have hoi : isValidVendorOui [0x1B, 0x19, 0x4A] 0 = true := by decide
      simp only [not_or, not_not, Bool.not_eq_false]
      exact ⟨readLe16_writeLe16 _, rfl, rfl, readLe16_writeLe16 _, hoi, readLe16_writeLe16 _⟩

/-- A PrePoll is decoded from its encoding, whatever follows. -/
theorem decodePrePoll_encodePrePoll (prePoll : PrePollPayload) (rest : List UInt8) :
    decodePrePoll (encodePrePoll prePoll ++ rest) = .ok prePoll := by
  obtain ⟨sessionId, pollStsIndex, rangingBlock, hopFlag, roundIndex⟩ := prePoll
  rw [decodePrePoll, if_neg (by simp)]
  congr 2
  · exact readLe32_writeLe32 sessionId
  · exact readLe32_writeLe32 pollStsIndex
  · exact readLe16_writeLe16 rangingBlock
  · exact readLe16_writeLe16 roundIndex

/-- A record is read from where it starts. -/
theorem readReport_append (l₁ l₂ : List UInt8) (o : ℕ) :
    readReport (l₁ ++ l₂) (l₁.length + o) = readReport l₂ o := by
  simp only [readReport, readLe32, Nat.add_assoc, byteAt_append_right]

/-- A report is read back from where it has been written. -/
theorem readReport_writeReport (report : ResponderTimestampReport) (rest : List UInt8) :
    readReport (writeReport report ++ rest) 0 = report := by
  obtain ⟨responderIndex, delta, uncertainty, status⟩ := report
  exact congrArg (ResponderTimestampReport.mk responderIndex · uncertainty status)
    (readLe32_writeLe32 delta)

/-- The records are read back, one after the other. -/
theorem readReports_flatMap (reports : List ResponderTimestampReport) (rest : List UInt8) :
    (List.range reports.length).map (fun i =>
      readReport (reports.flatMap writeReport ++ rest) (i * responderRecordLength)) = reports := by
  induction reports with
  | nil => rfl
  | cons report reports ih =>
    rw [List.length_cons, List.range_succ_eq_map, List.map_cons, List.map_map, List.flatMap_cons,
      List.append_assoc, Nat.zero_mul, readReport_writeReport]
    refine congrArg (report :: ·) (Eq.trans (List.map_congr_left fun i _ => ?_) ih)
    rw [Function.comp_apply, Nat.succ_mul, Nat.add_comm, ← length_writeReport report,
      readReport_append, length_writeReport]

/-- A FinalData with up to ten reports is decoded from its encoding, whatever follows. -/
theorem decodeFinalData_encodeFinalData {finalData : FinalDataPayload}
    (h : finalData.responderReports.length ≤ maxRespondersSupported) (rest : List UInt8) :
    decodeFinalData (encodeFinalData finalData ++ rest) = .ok finalData := by
  obtain ⟨sessionId, rangingBlock, hopFlag, roundIndex, finalStsIndex, delta, reports⟩ := finalData
  have hcount : (byteAt (encodeFinalData ⟨sessionId, rangingBlock, hopFlag, roundIndex,
      finalStsIndex, delta, reports⟩ ++ rest) 17).toNat = reports.length :=
    UInt8.toNat_ofNat_of_lt' (Nat.lt_of_le_of_lt h (by decide))
  have hlen := length_encodeFinalData ⟨sessionId, rangingBlock, hopFlag, roundIndex,
      finalStsIndex, delta, reports⟩
  simp only [finalDataLength] at hlen
  rw [decodeFinalData, if_neg (by rw [List.length_append]; omega)]
  simp only [hcount]
  rw [if_neg (Nat.not_lt.2 h), if_neg (by rw [List.length_append]; omega)]
  congr 2
  · exact readLe32_writeLe32 sessionId
  · exact readLe16_writeLe16 rangingBlock
  · exact readLe16_writeLe16 roundIndex
  · exact readLe32_writeLe32 finalStsIndex
  · exact readLe32_writeLe32 delta
  · refine Eq.trans (List.map_congr_left fun i _ => ?_) (readReports_flatMap reports rest)
    rw [encodeFinalData, List.append_assoc]
    exact readReport_append _ _ _

/-! ### Copies -/

/-- **The header is read off the first 23 bytes.** -/
theorem decodeHeader_take (frame : List UInt8) {n : ℕ} (hn : macHeaderLength ≤ n) :
    decodeHeader (frame.take n) = decodeHeader frame := by
  rw [macHeaderLength] at hn
  have hlen : (frame.take n).length < macHeaderLength ↔ frame.length < macHeaderLength := by
    rw [List.length_take, macHeaderLength]
    omega
  have h16 {i : ℕ} (h : i + 1 < n) : readLe16 (frame.take n) i = readLe16 frame i := by
    rw [readLe16, readLe16, byteAt_take (by omega), byteAt_take h]
  have h32 {i : ℕ} (h : i + 3 < n) : readLe32 (frame.take n) i = readLe32 frame i := by
    rw [readLe32, readLe32, byteAt_take (by omega), byteAt_take (by omega),
      byteAt_take (by omega), byteAt_take h]
  have houi : isValidVendorOui (frame.take n) 16 = isValidVendorOui frame 16 := by
    rw [isValidVendorOui, isValidVendorOui, byteAt_take (by omega), byteAt_take (by omega),
      byteAt_take (by omega)]
  rw [decodeHeader, decodeHeader, h16 (by omega), h16 (by omega), h16 (by omega), h16 (by omega),
    h32 (by omega), houi, byteAt_take (by omega), byteAt_take (by omega), byteAt_take (by omega),
    byteAt_take (by omega), byteAt_take (by omega), byteAt_take (by omega),
    byteAt_take (by omega), byteAt_take (by omega)]
  by_cases hshort : frame.length < macHeaderLength
  · rw [if_pos hshort, if_pos (hlen.2 hshort)]
  · rw [if_neg hshort, if_neg (mt hlen.1 hshort)]

/-! ### What is read is what was written -/

/-- The bytes of a piece of a message, one by one. -/
theorem take_drop_eq_map_byteAt {b : List UInt8} {o k : ℕ} (h : o + k ≤ b.length) :
    (b.drop o).take k = (List.range k).map fun i => byteAt b (o + i) := by
  refine List.ext_getElem ?_ fun i h₁ h₂ => ?_
  · rw [List.length_take, List.length_drop, List.length_map, List.length_range]
    omega
  · rw [List.length_map, List.length_range] at h₂
    rw [List.getElem_take, List.getElem_drop, List.getElem_map, List.getElem_range, byteAt,
      List.getD_eq_getElem?_getD, List.getElem?_eq_getElem (by omega), Option.getD_some]

/-- The vendor OUI is in the bytes that were checked for it. -/
theorem bytes_of_isValidVendorOui {b : List UInt8} {i : ℕ} (h : isValidVendorOui b i = true) :
    [(vendorOuiAliro &&& 0xFF).toUInt8, ((vendorOuiAliro >>> 8) &&& 0xFF).toUInt8,
      ((vendorOuiAliro >>> 16) &&& 0xFF).toUInt8] =
      [byteAt b i, byteAt b (i + 1), byteAt b (i + 2)] := by
  rw [isValidVendorOui, beq_iff_eq] at h
  generalize byteAt b i = b₀, byteAt b (i + 1) = b₁, byteAt b (i + 2) = b₂ at h ⊢
  -- the three bytes and a zero byte are the OUI as a four-byte word
  have hword : readLe32 [b₀, b₁, b₂, 0] 0 = vendorOuiAliro := by
    have hzero : (0 : UInt8).toUInt32 <<< (24 : UInt32) = 0 := by decide
    change b₀.toUInt32 ||| b₁.toUInt32 <<< 8 ||| b₂.toUInt32 <<< 16 |||
      (0 : UInt8).toUInt32 <<< 24 = vendorOuiAliro
    rw [hzero, UInt32.or_zero, h]
  have hbytes := writeLe32_readLe32 [b₀, b₁, b₂, 0] 0
  rw [hword] at hbytes
  exact congrArg (List.take 3) hbytes

/-- **An accepted header is the layout of what it decodes to.** -/
theorem prefix_of_decodeHeader {b : List UInt8} {header : MacHeader}
    (h : decodeHeader b = .ok header) : encodeHeader header <+: b := by
  unfold decodeHeader at h
  split_ifs at h with hlen hfix
  simp only [not_or, not_not, Bool.not_eq_false] at hfix
  obtain ⟨hfc, hsc, hkey, hie, houi, hterm⟩ := hfix
  obtain rfl := Except.ok.inj h
  have htake := take_drop_eq_map_byteAt (b := b) (o := 0) (k := macHeaderLength) (by omega)
  suffices heq : encodeHeader _ = (b.drop 0).take macHeaderLength from
    heq ▸ List.take_prefix macHeaderLength b
  rw [htake, encodeHeader, ← hfc, ← hie, ← hterm, ← hsc, ← hkey, bytes_of_isValidVendorOui houi]
  simp only [writeLe16_readLe16, writeLe32_readLe32]
  rfl

/-- Bytes that decode to a PrePoll begin with its encoding. -/
theorem prefix_of_decodePrePoll {b : List UInt8} {prePoll : PrePollPayload}
    (h : decodePrePoll b = .ok prePoll) : encodePrePoll prePoll <+: b := by
  unfold decodePrePoll at h
  split_ifs at h with hlen
  obtain rfl := Except.ok.inj h
  have htake := take_drop_eq_map_byteAt (b := b) (o := 0) (k := prePollPayloadLength) (by omega)
  suffices heq : encodePrePoll _ = (b.drop 0).take prePollPayloadLength from
    heq ▸ List.take_prefix prePollPayloadLength b
  rw [htake, encodePrePoll]
  simp only [writeLe16_readLe16, writeLe32_readLe32]
  rfl

/-- A report that lies within the bytes is written back as they are. -/
theorem writeReport_readReport {b : List UInt8} {o : ℕ}
    (h : o + responderRecordLength ≤ b.length) :
    writeReport (readReport b o) = (b.drop o).take responderRecordLength := by
  rw [take_drop_eq_map_byteAt h, writeReport]
  simp only [readReport, writeLe32_readLe32]
  rfl

/-- The records of a message, written again. -/
theorem flatMap_writeReport_readReport {b : List UInt8} {o n : ℕ}
    (h : o + n * responderRecordLength ≤ b.length) :
    ((List.range n).map fun i => readReport b (o + i * responderRecordLength)).flatMap writeReport =
      (b.drop o).take (n * responderRecordLength) := by
  induction n with
  | zero => rw [Nat.zero_mul, List.take_zero, List.range_zero, List.map_nil, List.flatMap_nil]
  | succ n ih =>
    rw [Nat.succ_mul] at h ⊢
    rw [List.range_succ, List.map_append, List.flatMap_append, ih (by omega), List.map_singleton,
      List.flatMap_singleton, writeReport_readReport (by omega), List.take_add, List.drop_drop]

/-- **An accepted FinalData is the layout of what it decodes to**, and has as
many records as it declares. -/
theorem prefix_of_decodeFinalData {b : List UInt8} {finalData : FinalDataPayload}
    (h : decodeFinalData b = .ok finalData) :
    finalData.responderReports.length = (byteAt b 17).toNat ∧
      finalData.responderReports.length ≤ maxRespondersSupported ∧
      encodeFinalData finalData <+: b := by
  unfold decodeFinalData at h
  dsimp only at h
  split_ifs at h with hlen hcount hfit
  obtain rfl := Except.ok.inj h
  have hnum : ((List.range (byteAt b 17).toNat).map fun i =>
      readReport b (finalDataHeaderLength + i * responderRecordLength)).length =
        (byteAt b 17).toNat := by
    rw [List.length_map, List.length_range]
  refine ⟨hnum, Nat.le_trans (Nat.le_of_eq hnum) (Nat.not_lt.1 hcount), ?_⟩
  have htake := take_drop_eq_map_byteAt (b := b) (o := 0) (k := finalDataHeaderLength) (by omega)
  have hhead : writeLe32 (readLe32 b 0) ++ writeLe16 (readLe16 b 4) ++ [byteAt b 6] ++
      writeLe16 (readLe16 b 7) ++ writeLe32 (readLe32 b 9) ++ writeLe32 (readLe32 b 13) ++
      [UInt8.ofNat (byteAt b 17).toNat] = (b.drop 0).take finalDataHeaderLength := by
    rw [htake, UInt8.ofNat_toNat]
    simp only [writeLe16_readLe16, writeLe32_readLe32]
    rfl
  rw [encodeFinalData]
  dsimp only
  rw [hnum, hhead, flatMap_writeReport_readReport (by omega), List.drop_zero, ← List.take_add]
  exact List.take_prefix _ b

/-! ### Every read is within the message -/

/-- `readLe16`, if both bytes are there. -/
def readLe16Checked (l : List UInt8) (i : ℕ) : Option UInt16 := do
  let b₀ ← l[i]?
  let b₁ ← l[i + 1]?
  return b₀.toUInt16 ||| b₁.toUInt16 <<< 8

/-- `readLe32`, if all four bytes are there. -/
def readLe32Checked (l : List UInt8) (i : ℕ) : Option UInt32 := do
  let b₀ ← l[i]?
  let b₁ ← l[i + 1]?
  let b₂ ← l[i + 2]?
  let b₃ ← l[i + 3]?
  return b₀.toUInt32 ||| b₁.toUInt32 <<< 8 ||| b₂.toUInt32 <<< 16 ||| b₃.toUInt32 <<< 24

/-- `FrameCodec::decodeHeader` with every read checked; `none` is a read past
the end.  All the fixed fields are read here, also after one that is wrong. -/
def decodeHeaderChecked (frame : List UInt8) : Option (Except StatusCode MacHeader) :=
  if frame.length < macHeaderLength then some (.error .malformedFrame)
  else do
    let frameControl ← readLe16Checked frame 0
    let securityControl ← frame[4]?
    let keyIndex ← frame[13]?
    let ieHeader ← readLe16Checked frame 14
    let oui₀ ← frame[16]?
    let oui₁ ← frame[17]?
    let oui₂ ← frame[18]?
    let termination ← readLe16Checked frame 21
    if frameControl ≠ frameControlField ∨ securityControl ≠ securityControlField ∨
        keyIndex ≠ keyIndexField ∨ ieHeader ≠ vendorIeHeader ∨
        isValidVendorOui [oui₀, oui₁, oui₂] 0 = false ∨ termination ≠ headerTermination2Ie then
      return .error .malformedFrame
    else
      let destinationShortAddress ← readLe16Checked frame 2
      let frameCounter ← readLe32Checked frame 5
      let key₀ ← frame[12]?
      let key₁ ← frame[11]?
      let key₂ ← frame[10]?
      let key₃ ← frame[9]?
      let messageId ← frame[19]?
      let payloadLength ← frame[20]?
      return .ok ⟨destinationShortAddress, frameCounter, ⟨[key₀, key₁, key₂, key₃], rfl⟩,
        ⟨messageId⟩, payloadLength⟩

/-- `FrameCodec::decodePrePoll` with every read checked. -/
def decodePrePollChecked (payload : List UInt8) : Option (Except StatusCode PrePollPayload) :=
  if payload.length < prePollPayloadLength then some (.error .malformedFrame)
  else do
    let sessionId ← readLe32Checked payload 0
    let pollStsIndex ← readLe32Checked payload 4
    let rangingBlock ← readLe16Checked payload 8
    let hopFlag ← payload[10]?
    let roundIndex ← readLe16Checked payload 11
    return .ok ⟨sessionId, pollStsIndex, rangingBlock, hopFlag, roundIndex⟩

/-- The responder record at offset `o`, with every read checked. -/
def readReportChecked (payload : List UInt8) (o : ℕ) : Option ResponderTimestampReport := do
  let responderIndex ← payload[o]?
  let delta ← readLe32Checked payload (o + 1)
  let uncertainty ← payload[o + 5]?
  let status ← payload[o + 6]?
  return ⟨responderIndex, delta, uncertainty, status⟩

/-- `FrameCodec::decodeFinalData` with every read checked. -/
def decodeFinalDataChecked (payload : List UInt8) : Option (Except StatusCode FinalDataPayload) :=
  if payload.length < finalDataHeaderLength then some (.error .malformedFrame)
  else do
    let sessionId ← readLe32Checked payload 0
    let rangingBlock ← readLe16Checked payload 4
    let hopFlag ← payload[6]?
    let roundIndex ← readLe16Checked payload 7
    let finalStsIndex ← readLe32Checked payload 9
    let delta ← readLe32Checked payload 13
    let numResponders ← payload[17]?
    if maxRespondersSupported < numResponders.toNat then return .error .malformedFrame
    else if payload.length <
        finalDataHeaderLength + numResponders.toNat * responderRecordLength then
      return .error .malformedFrame
    else
      let reports ← (List.range numResponders.toNat).mapM fun i =>
        readReportChecked payload (finalDataHeaderLength + i * responderRecordLength)
      return .ok ⟨sessionId, rangingBlock, hopFlag, roundIndex, finalStsIndex, delta, reports⟩

/-- Within bounds, the checked reader of 16 bits answers what is there. -/
theorem readLe16Checked_eq {l : List UInt8} {i : ℕ} (h : i + 2 ≤ l.length) :
    readLe16Checked l i = some (readLe16 l i) := by
  rw [readLe16Checked, getElem?_eq_byteAt (by omega), getElem?_eq_byteAt (by omega)]
  rfl

/-- Within bounds, the checked reader of 32 bits answers what is there. -/
theorem readLe32Checked_eq {l : List UInt8} {i : ℕ} (h : i + 4 ≤ l.length) :
    readLe32Checked l i = some (readLe32 l i) := by
  rw [readLe32Checked, getElem?_eq_byteAt (by omega), getElem?_eq_byteAt (by omega),
    getElem?_eq_byteAt (by omega), getElem?_eq_byteAt (by omega)]
  rfl

/-- Within bounds, the checked reader of a report answers what is there. -/
theorem readReportChecked_eq {l : List UInt8} {o : ℕ} (h : o + responderRecordLength ≤ l.length) :
    readReportChecked l o = some (readReport l o) := by
  rw [responderRecordLength] at h
  rw [readReportChecked, getElem?_eq_byteAt (by omega), readLe32Checked_eq (by omega),
    getElem?_eq_byteAt (by omega), getElem?_eq_byteAt (by omega)]
  rfl

/-- A traversal in which every step answers is a map. -/
theorem mapM_some {ι γ : Type} {f : ι → Option γ} {g : ι → γ} {l : List ι}
    (h : ∀ i ∈ l, f i = some (g i)) : l.mapM f = some (l.map g) := by
  induction l with
  | nil => rfl
  | cons i l ih =>
    rw [List.mapM_cons, h i List.mem_cons_self,
      ih fun j hj => h j (List.mem_cons_of_mem i hj)]
    rfl

/-- **`decodeHeader` does not read past the end of the frame.** -/
theorem decodeHeaderChecked_eq (frame : List UInt8) :
    decodeHeaderChecked frame = some (decodeHeader frame) := by
  unfold decodeHeaderChecked decodeHeader
  rw [macHeaderLength]
  split_ifs with hlen hfix
  · rfl
  all_goals
    rw [readLe16Checked_eq (by omega), getElem?_eq_byteAt (by omega),
      getElem?_eq_byteAt (by omega), readLe16Checked_eq (by omega),
      getElem?_eq_byteAt (by omega), getElem?_eq_byteAt (by omega),
      getElem?_eq_byteAt (by omega), readLe16Checked_eq (by omega)]
  · exact if_pos hfix
  · refine (if_neg hfix).trans ?_
    rw [readLe16Checked_eq (by omega), readLe32Checked_eq (by omega),
      getElem?_eq_byteAt (by omega), getElem?_eq_byteAt (by omega),
      getElem?_eq_byteAt (by omega), getElem?_eq_byteAt (by omega),
      getElem?_eq_byteAt (by omega), getElem?_eq_byteAt (by omega)]
    rfl

/-- The decoder of the PrePoll never reads out of bounds. -/
theorem decodePrePollChecked_eq (payload : List UInt8) :
    decodePrePollChecked payload = some (decodePrePoll payload) := by
  unfold decodePrePollChecked decodePrePoll
  rw [prePollPayloadLength]
  split_ifs with hlen
  · rfl
  · rw [readLe32Checked_eq (by omega), readLe32Checked_eq (by omega),
      readLe16Checked_eq (by omega), getElem?_eq_byteAt (by omega), readLe16Checked_eq (by omega)]
    rfl

/-- **`decodeFinalData` does not read past the end of the payload**, whatever
number of records it declares. -/
theorem decodeFinalDataChecked_eq (payload : List UInt8) :
    decodeFinalDataChecked payload = some (decodeFinalData payload) := by
  unfold decodeFinalDataChecked decodeFinalData
  dsimp only
  by_cases hlen : payload.length < finalDataHeaderLength
  · rw [if_pos hlen, if_pos hlen]
  rw [if_neg hlen, if_neg hlen]
  rw [finalDataHeaderLength] at hlen ⊢
  rw [readLe32Checked_eq (by omega), readLe16Checked_eq (by omega), getElem?_eq_byteAt (by omega),
    readLe16Checked_eq (by omega), readLe32Checked_eq (by omega), readLe32Checked_eq (by omega),
    getElem?_eq_byteAt (by omega)]
  split_ifs with hcount hfit
  · exact if_pos hcount
  · exact (if_neg hcount).trans (if_pos hfit)
  · refine (if_neg hcount).trans ((if_neg hfit).trans ?_)
    have hreports : (List.range (byteAt payload 17).toNat).mapM (fun i =>
        readReportChecked payload (18 + i * responderRecordLength)) =
        some ((List.range (byteAt payload 17).toNat).map fun i =>
          readReport payload (18 + i * responderRecordLength)) := by
      refine mapM_some fun i hi => readReportChecked_eq ?_
      have hle := Nat.mul_le_mul_right responderRecordLength
        (Nat.succ_le_of_lt (List.mem_range.1 hi))
      rw [Nat.succ_mul] at hle
      omega
    rw [hreports]
    rfl

/-! ### What is rejected -/

/-- The bytes of a header that are the same in every frame. -/
def fixedHeaderBytes : List (ℕ × UInt8) :=
  [(0, 0x49), (1, 0x2B), (4, 0x16), (13, 0xAA), (14, 0x05), (15, 0x00), (16, 0x1B), (17, 0x19),
    (18, 0x4A), (21, 0x80), (22, 0x3F)]

/-- An encoded header has its fixed bytes where the decoder looks for them. -/
theorem encodeHeader_fixed (header : MacHeader) :
    ∀ p ∈ fixedHeaderBytes, (encodeHeader header)[p.1]? = some p.2 := by
  obtain ⟨destination, counter, ⟨key, hkey⟩, ⟨messageId⟩, payloadLength⟩ := header
  match key, hkey with
  | [a, b, c, d], hkey =>
    intro p hp
    simp only [fixedHeaderBytes, List.mem_cons, List.not_mem_nil, or_false] at hp
    rcases hp with rfl | rfl | rfl | rfl | rfl | rfl | rfl | rfl | rfl | rfl | rfl <;> rfl

/-- A header is decoded or malformed; there is no other error. -/
theorem decodeHeader_cases (b : List UInt8) :
    decodeHeader b = .error .malformedFrame ∨ ∃ header, decodeHeader b = .ok header := by
  unfold decodeHeader
  split_ifs
  · exact Or.inl rfl
  · exact Or.inl rfl
  · exact Or.inr ⟨_, rfl⟩

/-- A fixed byte that is wrong or missing makes the header malformed. -/
theorem decodeHeader_rejects {b : List UInt8} {p : ℕ × UInt8} (hp : p ∈ fixedHeaderBytes)
    (h : b[p.1]? ≠ some p.2) : decodeHeader b = .error .malformedFrame := by
  rcases decodeHeader_cases b with herr | ⟨header, hok⟩
  · exact herr
  · obtain ⟨rest, rfl⟩ := prefix_of_decodeHeader hok
    have hat := encodeHeader_fixed header p hp
    obtain ⟨hlt, -⟩ := List.getElem?_eq_some_iff.1 hat
    exact absurd ((List.getElem?_append_left hlt).trans hat) h

/-- A declared number of records above ten, or one that the payload is too
short for, makes the FinalData malformed. -/
theorem decodeFinalData_rejects {b : List UInt8}
    (h : ∀ n, b[17]? = some n → maxRespondersSupported < n.toNat ∨
      b.length < finalDataHeaderLength + n.toNat * responderRecordLength) :
    decodeFinalData b = .error .malformedFrame := by
  unfold decodeFinalData
  dsimp only
  split_ifs with hlen hcount hfit
  · rfl
  · rfl
  · rfl
  · rw [finalDataHeaderLength] at hlen
    rcases h _ (getElem?_eq_byteAt (by omega)) with h | h
    · exact absurd h hcount
    · exact absurd h hfit

/-! ### The three formats -/

/-- The encoder and the decoder of the MAC header are inverse. -/
theorem inverse_header :
    Inverse encodeHeaderInto decodeHeader (fun _ => True) fun _ => macHeaderLength :=
  inverse_of_layout encodeHeader length_encodeHeader
    (fun header _ _ ho => encodeHeaderInto_eq header ho)
    (fun header rest _ => decodeHeader_encodeHeader header rest)
    fun _ _ h => ⟨trivial, prefix_of_decodeHeader h⟩

/-- The encoder and the decoder of the PrePoll payload are inverse. -/
theorem inverse_prePoll :
    Inverse encodePrePollInto decodePrePoll (fun _ => True) fun _ => prePollPayloadLength :=
  inverse_of_layout encodePrePoll length_encodePrePoll
    (fun prePoll _ _ ho => encodePrePollInto_eq prePoll ho)
    (fun prePoll rest _ => decodePrePoll_encodePrePoll prePoll rest)
    fun _ _ h => ⟨trivial, prefix_of_decodePrePoll h⟩

/-- The encoder and the decoder of the FinalData payload are inverse, for as many reports as are
supported. -/
theorem inverse_finalData :
    Inverse encodeFinalDataInto decodeFinalData
      (fun finalData => finalData.responderReports.length ≤ maxRespondersSupported)
      finalDataLength :=
  inverse_of_layout encodeFinalData length_encodeFinalData
    (fun _ _ hcount ho => encodeFinalDataInto_eq hcount ho)
    (fun _ rest hcount => decodeFinalData_encodeFinalData hcount rest)
    fun _ _ h => (prefix_of_decodeFinalData h).2

/-- **The MAC frame codecs are inverse bijections.**  A FinalData takes 18 bytes
and 7 for each of the records that byte 17 declares.  What lacks a fixed byte,
is too short or declares too many records is malformed, and no decoder reads
past the end. -/
theorem frameCodec_inverse :
    Inverse encodeHeaderInto decodeHeader (fun _ => True) (fun _ => 23) ∧
    Inverse encodePrePollInto decodePrePoll (fun _ => True) (fun _ => 13) ∧
    Inverse encodeFinalDataInto decodeFinalData
      (fun finalData => finalData.responderReports.length ≤ 10)
      (fun finalData => 18 + 7 * finalData.responderReports.length) ∧
    (∀ b finalData, decodeFinalData b = .ok finalData →
      ∃ n, b[17]? = some n ∧ finalData.responderReports.length = n.toNat) ∧
    (∀ b, ∀ p ∈ fixedHeaderBytes, b[p.1]? ≠ some p.2 →
      decodeHeader b = .error .malformedFrame) ∧
    (∀ b, b.length < 13 → decodePrePoll b = .error .malformedFrame) ∧
    (∀ b, (∀ n, b[17]? = some n → 10 < n.toNat ∨ b.length < 18 + 7 * n.toNat) →
      decodeFinalData b = .error .malformedFrame) ∧
    ∀ b, decodeHeaderChecked b = some (decodeHeader b) ∧
      decodePrePollChecked b = some (decodePrePoll b) ∧
      decodeFinalDataChecked b = some (decodeFinalData b) := by
  have hsize : finalDataLength = fun finalData => 18 + 7 * finalData.responderReports.length :=
    funext fun finalData => by
      rw [finalDataLength, finalDataHeaderLength, responderRecordLength, Nat.mul_comm]
  refine ⟨inverse_header, inverse_prePoll, hsize ▸ inverse_finalData, fun b finalData h => ?_,
    fun b p hp h => decodeHeader_rejects hp h, fun b h => if_pos h, fun b h => ?_,
    fun b => ⟨decodeHeaderChecked_eq b, decodePrePollChecked_eq b, decodeFinalDataChecked_eq b⟩⟩
  · obtain ⟨hnum, -, hpre⟩ := prefix_of_decodeFinalData h
    refine ⟨byteAt b 17, getElem?_eq_byteAt ?_, hnum⟩
    have hlen := hpre.length_le
    rw [length_encodeFinalData, finalDataLength, finalDataHeaderLength] at hlen
    omega
  · refine decodeFinalData_rejects fun n hn => (h n hn).imp_right fun hlt => ?_
    rwa [finalDataHeaderLength, responderRecordLength, Nat.mul_comm n.toNat]

end Protocol
end AliroUwb
