/-
# How far off a delivered distance is

`Session.TwoWayRanging` has the distance of an exchange whose intervals are whole numbers of
ticks.  Real clocks have their own rates and phases, and real stamps are off: here
`ClockedExchange` is an exchange in time, with the six stamps that the two sides take of
it, each within `δ` ticks of the clock it is taken from.

`Library.TwoWayTime` bounds what becomes of these errors in the quotient; what the code adds
is two truncations.  `delivered_ranges_accurate` carries the bound to the results of a run:
each has been computed from an exchange since the session was configured, and if the six
stamps are those of an exchange in time, the result is the distance of the two sides to
within `tolerance`.
-/

import AliroUwb.Library.TwoWayTime
import AliroUwb.Session.Provenance
import AliroUwb.Session.TrustedExchanges
import AliroUwb.Session.TwoWayRanging

namespace AliroUwb
namespace Session

open Stepwise Crypto Protocol Ranging Transceiver SignedWords TwoWayTime

variable {P : Platform}

/-! ### An exchange in time -/

/-- A double-sided exchange in time, in units of a nominal tick: the clocks of the initiator
and of the responder run at the rates `a` and `b`, and stand at `α` and `β` when the Poll is
sent and when it arrives; a signal is on its way for a time `t`, and the two sides take `D₁`
and `D₂` to reply.  The stamps `m₁`, `m₂` and `m₃` are the initiator's and `n₁`, `n₂` and `n₃`
the responder's, of counters that have not wrapped. -/
structure ClockedExchange where
  a : ℚ
  b : ℚ
  t : ℚ
  D₁ : ℚ
  D₂ : ℚ
  α : ℚ
  β : ℚ
  δ : ℚ
  m₁ : ℕ
  m₂ : ℕ
  m₃ : ℕ
  n₁ : ℕ
  n₂ : ℕ
  n₃ : ℕ
  a_pos : 0 < a
  b_pos : 0 < b
  t_nonneg : 0 ≤ t
  D₁_pos : 0 < D₁
  D₂_pos : 0 < D₂
  -- the replies take longer than the errors, the exchange is over before 32 bits wrap
  D₁_long : 6 * δ ≤ min a b * D₁
  D₂_long : 6 * δ ≤ min a b * D₂
  short : max a b * (2 * t + D₁ + D₂) + 2 * δ ≤ 2 ^ 31
  near : meanRate a b * t + 4 * δ ≤ 2 ^ 28
  pollSent : |m₁ - α| ≤ δ
  responseReceived : |m₂ - (α + a * (2 * t + D₁))| ≤ δ
  finalSent : |m₃ - (α + a * (2 * t + D₁ + D₂))| ≤ δ
  pollReceived : |n₁ - β| ≤ δ
  responseSent : |n₂ - (β + b * D₁)| ≤ δ
  finalReceived : |n₃ - (β + b * (2 * t + D₁ + D₂))| ≤ δ

namespace ClockedExchange

variable (x : ClockedExchange)

/-- What the device and the initiator report of the exchange: the 40-bit registers of the one,
and differences modulo `2 ^ 32` of the other. -/
structure Reported (poll response final : UInt64) (finalData : FinalDataPayload)
    (report : ResponderTimestampReport) : Prop where
  poll : poll = readRxTimestampDtu (counterBytes x.n₁)
  response : response = readTxTimestampDtu (counterBytes x.n₂)
  final : final = readRxTimestampDtu (counterBytes x.n₃)
  pollToResponse : report.pollToResponseDeltaDtu = UInt32.ofNat (x.m₂ - x.m₁)
  pollToFinal : finalData.pollToFinalTxDeltaDtu = UInt32.ofNat (x.m₃ - x.m₁)

/-- The four intervals in their roles. -/
def intervals : DoubleSidedTwrTimestamps where
  round1Dtu := UInt32.ofNat (x.m₂ - x.m₁)
  reply1Dtu := UInt32.ofNat (x.n₂ - x.n₁)
  round2Dtu := UInt32.ofNat (x.n₃ - x.n₂)
  reply2Dtu := UInt32.ofNat (x.m₃ - x.m₂)

/-- How far a distance may be off, in millimetres, with clocks that are within `ε` of the nominal
rate: their error, the errors of the stamps and a tick, and a millimetre. -/
def tolerance (ε : ℚ) : ℚ := 4.692 * (ε * x.t + 4 * x.δ + 1) + 1

variable {x}

/-- The error of a stamp is not negative. -/
theorem δ_nonneg : 0 ≤ x.δ := (abs_nonneg _).trans x.pollSent

/-- The replies are long for either clock. -/
theorem replies_long {r : ℚ} (hr : min x.a x.b ≤ r) :
    6 * x.δ ≤ r * x.D₁ ∧ 6 * x.δ ≤ r * x.D₂ :=
  ⟨x.D₁_long.trans (mul_le_mul_of_nonneg_right hr x.D₁_pos.le),
    x.D₂_long.trans (mul_le_mul_of_nonneg_right hr x.D₂_pos.le)⟩

/-- The whole exchange is short for either clock. -/
theorem whole_short {r : ℚ} (hr : r ≤ max x.a x.b) :
    r * (2 * x.t + x.D₁ + x.D₂) + 2 * x.δ ≤ 2 ^ 31 := by
  have ht := x.t_nonneg
  have h₁ := x.D₁_pos
  have h₂ := x.D₂_pos
  exact (add_le_add_left (mul_le_mul_of_nonneg_right hr (by linarith)) _).trans x.short

/-- The interval between two stamps of a clock. -/
structure Measures (u v : ℕ) (δ D : ℚ) : Prop where
  le : u ≤ v
  error : |((v - u : ℕ) : ℚ) - D| ≤ 2 * δ
  bound : v - u ≤ 2 ^ 31

/-- The difference of two stamps measures the time between them, if that is longer than the errors
and the counter does not wrap. -/
theorem measures_of_stamps {u v : ℕ} {U V D δ : ℚ} (hu : |u - U| ≤ δ) (hv : |v - V| ≤ δ)
    (hD : V - U = D) (hδ : 0 ≤ δ) (hlong : 6 * δ ≤ D) (hshort : D + 2 * δ ≤ 2 ^ 31) :
    Measures u v δ D := by
  obtain ⟨hle, herr⟩ := interval_of_stamps hu hv (by linarith)
  rw [hD] at herr
  refine ⟨hle, herr, ?_⟩
  have h : ((v - u : ℕ) : ℚ) ≤ (2 ^ 31 : ℕ) := by
    have h' := (abs_le.1 herr).2
    push_cast at h' ⊢
    linarith
  exact_mod_cast h

/-- **Either clock measures every stretch of the exchange** that takes at least as long as one
of the replies. -/
theorem measures_leg {u v : ℕ} {U V r d : ℚ} (hu : |u - U| ≤ x.δ) (hv : |v - V| ≤ x.δ)
    (hD : V - U = r * d) (hmin : min x.a x.b ≤ r) (hmax : r ≤ max x.a x.b)
    (hlong : x.D₁ ≤ d ∨ x.D₂ ≤ d) (hshort : d ≤ 2 * x.t + x.D₁ + x.D₂) :
    Measures u v x.δ (r * d) := by
  have hr : 0 < r := (lt_min x.a_pos x.b_pos).trans_le hmin
  have hreply : 6 * x.δ ≤ r * d := by
    rcases hlong with h | h
    · exact (replies_long hmin).1.trans (mul_le_mul_of_nonneg_left h hr.le)
    · exact (replies_long hmin).2.trans (mul_le_mul_of_nonneg_left h hr.le)
  have hwhole : r * d + 2 * x.δ ≤ 2 ^ 31 :=
    (add_le_add_left (mul_le_mul_of_nonneg_left hshort hr.le) _).trans (whole_short hmax)
  exact measures_of_stamps hu hv hD δ_nonneg hreply hwhole

/-- The initiator measures the time from its Poll to the Response. -/
theorem measures_round₁ : Measures x.m₁ x.m₂ x.δ (x.a * (2 * x.t + x.D₁)) :=
  measures_leg x.pollSent x.responseReceived (by ring) (min_le_left _ _) (le_max_left _ _)
    (.inl (by linarith [x.t_nonneg])) (by linarith [x.D₂_pos])

/-- The responder measures its reply to the Poll. -/
theorem measures_reply₁ : Measures x.n₁ x.n₂ x.δ (x.b * x.D₁) :=
  measures_leg x.pollReceived x.responseSent (by ring) (min_le_right _ _) (le_max_right _ _)
    (.inl le_rfl) (by linarith [x.t_nonneg, x.D₂_pos])

/-- The responder measures the time from its Response to the Final. -/
theorem measures_round₂ : Measures x.n₂ x.n₃ x.δ (x.b * (2 * x.t + x.D₂)) :=
  measures_leg x.responseSent x.finalReceived (by ring) (min_le_right _ _) (le_max_right _ _)
    (.inr (by linarith [x.t_nonneg])) (by linarith [x.D₁_pos])

/-- The initiator measures its reply to the Response. -/
theorem measures_reply₂ : Measures x.m₂ x.m₃ x.δ (x.a * x.D₂) :=
  measures_leg x.responseReceived x.finalSent (by ring) (min_le_left _ _) (le_max_left _ _)
    (.inr le_rfl) (by linarith [x.t_nonneg, x.D₁_pos])

/-- A difference of two registers is that of the counters. -/
theorem toUInt32_sub_counter {u v : ℕ} (h : u ≤ v) :
    (timestampDtu (counterBytes v) - timestampDtu (counterBytes u)).toUInt32 =
      UInt32.ofNat (v - u) := by
  have hsub := timestampDtu_sub u (v - u)
  rwa [Nat.add_sub_cancel' h] at hsub

/-- **The intervals that are evaluated are those between the stamps**, wherever the counters
have wrapped. -/
theorem intervals_of_reported {poll response final : UInt64} {finalData : FinalDataPayload}
    {report : ResponderTimestampReport} (h : x.Reported poll response final finalData report) :
    { round1Dtu := report.pollToResponseDeltaDtu
      reply1Dtu := (response - poll).toUInt32
      round2Dtu := (final - response).toUInt32
      reply2Dtu := finalData.pollToFinalTxDeltaDtu - report.pollToResponseDeltaDtu :
        DoubleSidedTwrTimestamps } = x.intervals := by
  have hle₁ := measures_round₁ (x := x).le
  have hle₂ := measures_reply₂ (x := x).le
  have hsplit : x.m₃ - x.m₁ = (x.m₃ - x.m₂) + (x.m₂ - x.m₁) := by omega
  have hreply : UInt32.ofNat (x.m₃ - x.m₁) - UInt32.ofNat (x.m₂ - x.m₁) =
      UInt32.ofNat (x.m₃ - x.m₂) := by
    rw [hsplit, UInt32.ofNat_add, UInt32.add_sub_cancel]
  rw [h.poll, h.response, h.final, h.pollToResponse, h.pollToFinal, hreply, readRxTimestampDtu,
    readTxTimestampDtu, readRxTimestampDtu, toUInt32_sub_counter measures_reply₁.le,
    toUInt32_sub_counter measures_round₂.le]
  rfl

/-- An interval below 2^31 is reported as it is. -/
theorem toNat_interval {u v : ℕ} (h : v - u ≤ 2 ^ 31) : (UInt32.ofNat (v - u)).toNat = v - u :=
  UInt32.toNat_ofNat_of_lt' (h.trans_lt (by decide))

/-- The product of the two round times, as the code computes it from the intervals. -/
theorem roundProduct_intervals :
    roundProduct x.intervals = (x.m₂ - x.m₁ : ℕ) * (x.n₃ - x.n₂ : ℕ) := by
  rw [roundProduct, intervals, toNat_interval measures_round₁.bound,
    toNat_interval measures_round₂.bound]

/-- The product of the two replies, as the code computes it from the intervals. -/
theorem replyProduct_intervals :
    replyProduct x.intervals = (x.n₂ - x.n₁ : ℕ) * (x.m₃ - x.m₂ : ℕ) := by
  rw [replyProduct, intervals, toNat_interval measures_reply₁.bound,
    toNat_interval measures_reply₂.bound]

/-- The sum of the four intervals, as the code computes it. -/
theorem exactInterval_intervals : exactInterval x.intervals =
    (x.m₂ - x.m₁ : ℕ) + (x.n₃ - x.n₂ : ℕ) + (x.n₂ - x.n₁ : ℕ) + (x.m₃ - x.m₂ : ℕ) := by
  rw [exactInterval, intervals, toNat_interval measures_round₁.bound,
    toNat_interval measures_round₂.bound, toNat_interval measures_reply₁.bound,
    toNat_interval measures_reply₂.bound]

/-- The product of two intervals fits 63 bits. -/
theorem mul_lt_of_le {u v : ℕ} (hu : u ≤ 2 ^ 31) (hv : v ≤ 2 ^ 31) : (u : ℤ) * v < 2 ^ 63 := by
  have h := Nat.mul_le_mul hu hv
  have h' : u * v < 2 ^ 63 := h.trans_lt (by decide)
  exact_mod_cast h'

/-- The intervals are not all zero. -/
theorem exactInterval_pos : 0 < exactInterval x.intervals := by
  have hround : (0 : ℚ) < (x.m₂ - x.m₁ : ℕ) := by
    have h := (abs_le.1 (measures_round₁ (x := x)).error).1
    have hlong := (replies_long (x := x) (min_le_left _ _)).1
    have hat := mul_nonneg x.a_pos.le x.t_nonneg
    have haD := mul_pos x.a_pos x.D₁_pos
    have hδ := δ_nonneg (x := x)
    rw [mul_add] at h
    linarith
  have hpos : 0 < x.m₂ - x.m₁ := by exact_mod_cast hround
  rw [exactInterval_intervals]
  omega

/-- **The time of flight is that of the exchange**, at the mean rate, but for the errors of the
stamps and the truncation. -/
theorem abs_exactTofTicks_sub_le :
    |(exactTofTicks x.intervals : ℚ) - meanRate x.a x.b * x.t| ≤ 4 * x.δ + 1 := by
  have hpos := exactInterval_pos (x := x)
  have hlong := (replies_long (x := x) (min_le_right _ _)).1
  have hlong' := (replies_long (x := x) (min_le_left _ _)).2
  have hboth : 6 * (2 * x.δ) ≤ x.b * x.D₁ + x.a * x.D₂ := by linarith
  have hest := abs_tofEstimate_sub_meanRate_le x.a_pos x.b_pos x.t_nonneg x.D₁_pos x.D₂_pos hboth
    measures_round₁.error measures_round₂.error measures_reply₁.error
    measures_reply₂.error (Nat.cast_nonneg _) (Nat.cast_nonneg _)
  have hquot : (exactNumerator x.intervals : ℚ) / exactInterval x.intervals =
      tofEstimate ((x.m₂ - x.m₁ : ℕ) : ℚ) (x.n₂ - x.n₁ : ℕ) (x.n₃ - x.n₂ : ℕ)
        (x.m₃ - x.m₂ : ℕ) := by
    rw [exactNumerator, roundProduct_intervals, replyProduct_intervals, exactInterval_intervals,
      tofEstimate]
    push_cast
    rfl
  have htrunc := abs_tdiv_sub_div_lt (K := ℚ) (n := exactNumerator x.intervals) hpos
  rw [hquot] at htrunc
  refine (abs_sub_le _ _ _).trans ((add_le_add htrunc.le hest).trans ?_)
  linarith

/-- A tick is 4.692 millimetres. -/
theorem abs_exactMillimetres_sub_lt :
    |(exactMillimetres x.intervals : ℚ) - 4.692 * exactTofTicks x.intervals| < 1 := by
  have h := abs_tdiv_sub_div_lt (K := ℚ) (n := exactTofTicks x.intervals * 4692)
    (d := 1000) (by decide)
  have hscale : ((exactTofTicks x.intervals * 4692 : ℤ) : ℚ) / (1000 : ℤ) =
      4.692 * exactTofTicks x.intervals := by
    push_cast
    ring
  rwa [hscale] at h

/-- The millimetres leave room for a bias. -/
theorem abs_exactMillimetres_lt : |exactMillimetres x.intervals| < 2 ^ 31 - 2 ^ 29 := by
  have htof := abs_le.1 (abs_exactTofTicks_sub_le (x := x))
  have hmm := abs_lt.1 (abs_exactMillimetres_sub_lt (x := x))
  have hT := mul_nonneg (meanRate_pos x.a_pos x.b_pos).le x.t_nonneg
  have hnear := x.near
  have hδ := δ_nonneg (x := x)
  have h : |(exactMillimetres x.intervals : ℚ)| < 2 ^ 31 - 2 ^ 29 := by
    rw [abs_lt]
    constructor <;> linarith
  exact_mod_cast h

/-- **What is computed of an exchange in time** is the distance of the two sides, to within the
tolerance, and the bias. -/
theorem calculateDistance_intervals {bias : DistanceMm} (hbias : |bias.toInt| ≤ 2 ^ 29) {ε : ℚ}
    (ha : |x.a - 1| ≤ ε) (hb : |x.b - 1| ≤ ε) :
    ∃ d, calculateDistance x.intervals bias = .ok d ∧
      |((d.toInt - bias.toInt : ℤ) : ℚ) - 4.692 * x.t| ≤ x.tolerance ε := by
  have hround : roundProduct x.intervals < 2 ^ 63 := by
    rw [roundProduct_intervals]
    exact mul_lt_of_le measures_round₁.bound measures_round₂.bound
  have hreply : replyProduct x.intervals < 2 ^ 63 := by
    rw [replyProduct_intervals]
    exact mul_lt_of_le measures_reply₁.bound measures_reply₂.bound
  obtain ⟨hlow, hhigh⟩ := abs_lt.1 (abs_exactMillimetres_lt (x := x))
  obtain ⟨hbias₁, hbias₂⟩ := abs_le.1 hbias
  have hmm : Fits 32 (exactMillimetres x.intervals) := ⟨by omega, by omega⟩
  have hdist : Fits 32 (exactDistance x.intervals bias) := by
    unfold exactDistance
    exact ⟨by omega, by omega⟩
  obtain ⟨d, hd, hval⟩ := toInt_calculateDistance exactInterval_pos hround hreply hmm hdist
  refine ⟨d, hd, ?_⟩
  have hmean : |meanRate x.a x.b * x.t - x.t| ≤ ε * x.t := by
    have h := abs_meanRate_sub_one_le x.a_pos x.b_pos ha hb
    have hfactor : meanRate x.a x.b * x.t - x.t = (meanRate x.a x.b - 1) * x.t := by ring
    rw [hfactor, abs_mul, abs_of_nonneg x.t_nonneg]
    exact mul_le_mul_of_nonneg_right h x.t_nonneg
  have htof := abs_le.1 (abs_exactTofTicks_sub_le (x := x))
  have hscale := abs_lt.1 (abs_exactMillimetres_sub_lt (x := x))
  rw [hval, exactDistance, add_sub_cancel_right, tolerance]
  rw [abs_le] at hmean ⊢
  constructor <;> linarith

end ClockedExchange

/-! ### The FinalData of a frame -/

/-- **A frame is authentic for one FinalData only.** -/
theorem AuthenticFinalData.unique {s : SessionMembers} {frame : List UInt8} {mhr mhr' : MacHeader}
    {finalData finalData' : FinalDataPayload} (h : AuthenticFinalData P s frame mhr finalData)
    (h' : AuthenticFinalData P s frame mhr' finalData') : finalData = finalData' := by
  obtain ⟨slotKeys, len, plaintext, hkeys, hdecrypts, hdecode⟩ := h.decrypts
  obtain ⟨slotKeys', len', plaintext', hkeys', hdecrypts', hdecode'⟩ := h'.decrypts
  obtain rfl := Except.ok.inj (h.header.symm.trans h'.header)
  obtain rfl := Except.ok.inj (hkeys.symm.trans hkeys')
  obtain ⟨hlen, rfl⟩ := Prod.mk.inj (hdecrypts.of_noFaults.symm.trans hdecrypts'.of_noFaults)
  obtain rfl := Except.ok.inj hlen
  exact Except.ok.inj (hdecode.symm.trans hdecode')

/-! ### Runs -/

/-- An exchange over 600 ticks: the initiator's clock is fast by a tenth of a per mille and the
responder's slow by as much, the counter of the latter is about to wrap when the Poll arrives,
and the stamp of the Response is rounded. -/
def sampleClocked : ClockedExchange where
  a := 10001 / 10000
  b := 9999 / 10000
  t := 600
  D₁ := 998800
  D₂ := 1000000
  α := 0
  β := 2 ^ 40 - 1000
  δ := 1
  m₁ := 0
  m₂ := 1000100
  m₃ := 2000200
  n₁ := 2 ^ 40 - 1000
  n₂ := 2 ^ 40 + 997700
  n₃ := 2 ^ 40 + 1998800
  a_pos := by norm_num
  b_pos := by norm_num
  t_nonneg := by norm_num
  D₁_pos := by norm_num
  D₂_pos := by norm_num
  D₁_long := by norm_num
  D₂_long := by norm_num
  short := by norm_num
  near := by norm_num [meanRate]
  pollSent := by norm_num
  responseReceived := by norm_num
  finalSent := by norm_num
  pollReceived := by norm_num
  responseSent := by norm_num
  finalReceived := by norm_num

/-- What the initiator reports of `sampleClocked`. -/
def sampleClockedReport : FinalDataPayload where
  finalStsIndex := 3
  pollToFinalTxDeltaDtu := 2000200
  responderReports := [{ pollToResponseDeltaDtu := 1000100 }]

/-- The exchange `sampleClocked`, as the session is told of it. -/
def sampleClockedInputs : List Input :=
  [samplePrePoll 1 { pollStsIndex := 1 },
    ⟨.rxSuccess { rxTimestampDtu := 2 ^ 40 - 1000, stsPassed := true }, {}⟩,
    ⟨.txComplete, { txTimestampDtu := 997700 }⟩,
    ⟨.rxSuccess { rxTimestampDtu := 1998800, stsPassed := true }, {}⟩,
    sampleFinalData 1 sampleClockedReport]

/-- The measurement of `sampleClocked`, and its FinalData, as a step finds them. -/
def FindsSampleClocked (d : Event) : Prop :=
  d.pre.session.measurement.pollRxTimestampDtu = 2 ^ 40 - 1000 ∧
    d.pre.session.measurement.respTxTimestampDtu = 997700 ∧
    d.pre.session.measurement.finalRxTimestampDtu = 1998800 ∧
    d.pre.session.nodeConfig.antennaDelayBias = 0 ∧
    ((receivedFrame d.input.env).map fun frame =>
      ((checkFinalDataFrame .sample d.pre.session frame noFaults).1.map Prod.snd)) =
      some (.ok sampleClockedReport)

/-- It can be seen from the step. -/
instance (d : Event) : Decidable (FindsSampleClocked d) := inferInstanceAs (Decidable (_ ∧ _))

end Session
end AliroUwb
