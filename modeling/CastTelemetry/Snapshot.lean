import CastTelemetry.Subscriber

/-!
# Snapshots

`GetStatsInternal` fills a map from statistic to `double`, inserting each statistic at most
once, and `GetStats` exports it with the five histograms under the media type's name.
A `Double` holds a finite value exactly, as a rational (rounding and overflow are not
modelled), or NaN or an infinity; its division follows IEEE at a zero divisor, so a division
the code leaves unguarded gives NaN where its divisor is zero. The counters a populate
function reads into an `int`, and the loss fraction's `int` sum of two of them, go through
`wrapInt32`.
-/

namespace CastTelemetry

/-- A `double` as the statistics compute it: a finite value, held exactly as a rational, or
NaN, or an infinity of either sign. -/
inductive Double where
  | finite (value : ℚ)
  | notANumber
  | infinity (negative : Bool)
  deriving DecidableEq

namespace Double

attribute [coe] finite

instance : Coe ℚ Double := ⟨finite⟩

instance : NatCast Double := ⟨fun count => finite count⟩

instance : IntCast Double := ⟨fun count => finite count⟩

instance : Zero Double := ⟨finite 0⟩

/-- IEEE division: the quotient of finite values, NaN for zero over zero, for infinity over
infinity and for NaN, an infinity for another value over zero or for an infinity over a
finite value, and zero for a finite value over an infinity. Zero is unsigned: the divisors
of the statistics are `int`s and durations, whose zero converts to +0. -/
def div : Double → Double → Double
  | finite numerator, finite denominator =>
    if denominator ≠ 0 then finite (numerator / denominator)
    else if numerator = 0 then notANumber else infinity (numerator < 0)
  | infinity negative, finite denominator => infinity (negative != decide (denominator < 0))
  | finite _, infinity _ => finite 0
  | _, _ => notANumber

/-- IEEE multiplication: the product of finite values, an infinity times a value other than
zero, and NaN for an infinity times zero and for NaN. -/
def mul : Double → Double → Double
  | finite first, finite second => finite (first * second)
  | infinity negative, finite factor | finite factor, infinity negative =>
    if factor = 0 then notANumber else infinity (negative != decide (factor < 0))
  | infinity first, infinity second => infinity (first != second)
  | _, _ => notANumber

/-- The comparison `<=`, false when either side is NaN. -/
def le : Double → Double → Bool
  | finite first, finite second => decide (first ≤ second)
  | infinity true, finite _ | infinity true, infinity _ | finite _, infinity false
  | infinity false, infinity false => true
  | _, _ => false

instance : Div Double := ⟨div⟩

instance : Mul Double := ⟨mul⟩

instance : LE Double := ⟨fun first second => first.le second⟩

instance (first second : Double) : Decidable (first ≤ second) :=
  inferInstanceAs (Decidable (first.le second = true))

@[simp] theorem natCast_eq (count : ℕ) : (count : Double) = finite count := rfl

@[simp] theorem intCast_eq (count : ℤ) : (count : Double) = finite count := rfl

@[simp] theorem zero_eq : (0 : Double) = finite 0 := rfl

theorem ofNat_eq (literal : ℕ) [literal.AtLeastTwo] :
    (OfNat.ofNat literal : Double) = finite (OfNat.ofNat literal) := rfl

@[simp] theorem finite_mul_finite (first second : ℚ) :
    finite first * finite second = finite (first * second) := rfl

theorem finite_div_finite (numerator : ℚ) {denominator : ℚ} (nonzero : denominator ≠ 0) :
    finite numerator / finite denominator = finite (numerator / denominator) :=
  if_pos nonzero

/-- Zero over zero is NaN, not the zero that rational division gives. -/
theorem zero_div_zero : finite 0 / finite 0 = notANumber := rfl

end Double

/-- A `StatsMap` as the statistics inserted into it, in insertion order. -/
abbrev StatsMap := List (CastStat × Double)

/-- `InMillisecondsF`. -/
def inMillisecondsF (delta : TimeDelta) : ℚ := (delta : ℚ) / 1000

/-- `InSecondsF`. -/
def inSecondsF (delta : TimeDelta) : ℚ := (delta : ℚ) / 1000000

theorem inMillisecondsF_pos {delta : TimeDelta} (positive : 0 < delta) : 0 < inMillisecondsF delta :=
  div_pos (Int.cast_pos.mpr positive) (by norm_num)

theorem inSecondsF_pos {delta : TimeDelta} (positive : 0 < delta) : 0 < inSecondsF delta :=
  div_pos (Int.cast_pos.mpr positive) (by norm_num)

/-- What `GetStats` returns: the media type's name, the statistics by name, and each
histogram's buckets by name. -/
structure StatsExport where
  mediaType : String
  stats : List (String × Double)
  histograms : List (String × List (BucketLabel × Nat))

namespace StatsEventSubscriber

variable (subscriber : StatsEventSubscriber)

/-- `PopulateFpsStat`: events of a kind per second since `start_time_`. -/
def populateFpsStat (endTime : TimeTicks) (event : CastLoggingEvent) (stat : CastStat) :
    StatsMap :=
  match subscriber.frameStats event with
  | none => []
  | some stats =>
    let duration := endTime - subscriber.startTime
    let count := wrapInt32 stats.eventCounter
    [(stat, if 0 < duration then (count : Double) / inSecondsF duration else 0)]

/-- `PopulateFrameCountStat`. -/
def populateFrameCountStat (event : CastLoggingEvent) (stat : CastStat) : StatsMap :=
  match subscriber.frameStats event with
  | none => []
  | some stats => [(stat, (stats.eventCounter : Double))]

/-- `PopulatePacketCountStat`. -/
def populatePacketCountStat (event : CastLoggingEvent) (stat : CastStat) : StatsMap :=
  match subscriber.packetStats event with
  | none => []
  | some stats => [(stat, (stats.eventCounter : Double))]

/-- `PopulatePlayoutDelayStat`: the mean playout delay. -/
def populatePlayoutDelayStat : StatsMap :=
  match subscriber.frameStats .framePlayout with
  | none => []
  | some stats =>
    let count := wrapInt32 stats.eventCounter
    [(.avgPlayoutDelayMs,
      if count ≠ 0 then (inMillisecondsF stats.sumDelay : Double) / count else 0)]

/-- `PopulateFrameBitrateStat`: encoded kilobits per second. -/
def populateFrameBitrateStat (endTime : TimeTicks) : StatsMap :=
  match subscriber.frameStats .frameEncoded with
  | none => []
  | some stats =>
    let duration := endTime - subscriber.startTime
    [(.encodeKbps,
      if 0 < duration then (stats.sumSize : Double) / inMillisecondsF duration * 8 else 0)]

/-- `PopulatePacketBitrateStat`: kilobits per second of one packet event kind. -/
def populatePacketBitrateStat (endTime : TimeTicks) (event : CastLoggingEvent)
    (stat : CastStat) : StatsMap :=
  match subscriber.packetStats event with
  | none => []
  | some stats =>
    let duration := endTime - subscriber.startTime
    [(stat, if 0 < duration then (stats.sumSize : Double) / inMillisecondsF duration * 8 else 0)]

/-- `sent_count` and `retransmitted_count` of `PopulatePacketLossPercentageStat`, read into
`int`s, once a send has been counted. -/
def lossCounts : Option (Int × Int) :=
  (subscriber.packetStats .packetSentToNetwork).map fun sent =>
    (wrapInt32 sent.eventCounter,
      match subscriber.packetStats .packetRetransmitted with
      | none => 0
      | some retransmitted => wrapInt32 retransmitted.eventCounter)

/-- `PopulatePacketLossPercentageStat`: retransmissions over transmissions and
retransmissions, reported once a packet has been sent; the sum is taken in `int`, and no
guard keeps it from zero. -/
def populatePacketLossPercentageStat : StatsMap :=
  match subscriber.lossCounts with
  | none => []
  | some (sentCount, retransmittedCount) =>
    [(.packetLossFraction,
      (retransmittedCount : Double) / wrapInt32 (sentCount + retransmittedCount))]

/-- `GetStatsInternal`, with the clock's reading and `TimeTicks::UnixEpoch()`. -/
def getStatsInternal (endTime unixEpoch : TimeTicks) : StatsMap :=
  subscriber.populateFpsStat endTime .frameCaptureBegin .captureFps ++
  subscriber.populateFpsStat endTime .frameEncoded .encodeFps ++
  subscriber.populateFpsStat endTime .frameDecoded .decodeFps ++
  subscriber.populatePlayoutDelayStat ++
  subscriber.populateFrameBitrateStat endTime ++
  subscriber.populatePacketBitrateStat endTime .packetSentToNetwork .transmissionKbps ++
  subscriber.populatePacketBitrateStat endTime .packetRetransmitted .retransmissionKbps ++
  subscriber.populatePacketLossPercentageStat ++
  subscriber.populateFrameCountStat .frameCaptureEnd .numFramesCaptured ++
  subscriber.populatePacketCountStat .packetSentToNetwork .numPacketsSent ++
  subscriber.populatePacketCountStat .packetRetransmitted .numPacketsRetransmitted ++
  subscriber.populatePacketCountStat .packetRtxRejected .numPacketsRtxRejected ++
  (if 0 < subscriber.networkLatencyDatapoints then
    [(.avgNetworkLatencyMs,
      (inMillisecondsF subscriber.totalNetworkLatency : Double) /
        subscriber.networkLatencyDatapoints)]
  else []) ++
  (if 0 < subscriber.e2eLatencyDatapoints then
    [(.avgE2eLatencyMs,
      (inMillisecondsF subscriber.totalE2eLatency : Double) / subscriber.e2eLatencyDatapoints)]
  else []) ++
  (if subscriber.lastResponseReceivedTime ≠ 0 then
    [(.msSinceLastReceiverResponse,
      .finite (inMillisecondsF (endTime - subscriber.lastResponseReceivedTime)))]
  else []) ++
  [(.numFramesDroppedByEncoder, (subscriber.numFramesDroppedByEncoder : Double)),
    (.numFramesLate, (subscriber.numFramesLate : Double))] ++
  (if subscriber.firstEventTime ≠ 0 then
    [(.firstEventTimeMs, .finite (inMillisecondsF (subscriber.firstEventTime - unixEpoch)))]
  else []) ++
  (if subscriber.lastEventTime ≠ 0 then
    [(.lastEventTimeMs, .finite (inMillisecondsF (subscriber.lastEventTime - unixEpoch)))]
  else [])

/-- `GetStats`. -/
def getStats (endTime unixEpoch : TimeTicks) : StatsExport where
  mediaType := if subscriber.eventMediaType = .audioEvent then "audio" else "video"
  stats := (subscriber.getStatsInternal endTime unixEpoch).map fun entry =>
    (castStatToString entry.1, entry.2)
  histograms := subscriber.histograms.toList.map fun entry =>
    (castStatToString entry.1, entry.2.getHistogram)

section Values

variable (endTime unixEpoch : TimeTicks) (event : CastLoggingEvent) (stat : CastStat)

/-- `PopulateFpsStat` divides only over a positive duration, by a positive number of seconds:
it reports the rational rate. -/
theorem populateFpsStat_eq :
    subscriber.populateFpsStat endTime event stat =
      ((subscriber.frameStats event).map fun stats => (stat, Double.finite
        (if 0 < endTime - subscriber.startTime then
          (wrapInt32 stats.eventCounter : ℚ) / inSecondsF (endTime - subscriber.startTime)
        else 0))).toList := by
  unfold populateFpsStat
  cases subscriber.frameStats event with
  | none => rfl
  | some stats =>
    by_cases positive : 0 < endTime - subscriber.startTime
    · simp only [if_pos positive, Option.map_some', Option.toList_some, Double.intCast_eq,
        Double.finite_div_finite _ (inSecondsF_pos positive).ne']
    · simp only [if_neg positive, Option.map_some', Option.toList_some, Double.zero_eq]

/-- A bitrate divides only over a positive duration, by a positive number of milliseconds. -/
theorem kbps_eq_finite (size : ℕ) (duration : TimeDelta) :
    (if 0 < duration then (size : Double) / inMillisecondsF duration * 8 else 0) =
      .finite (if 0 < duration then size / inMillisecondsF duration * 8 else 0) := by
  by_cases positive : 0 < duration
  · rw [if_pos positive, if_pos positive, Double.natCast_eq,
      Double.finite_div_finite _ (inMillisecondsF_pos positive).ne', Double.ofNat_eq]
    rfl
  · rw [if_neg positive, if_neg positive, Double.zero_eq]

theorem populateFrameBitrateStat_eq :
    subscriber.populateFrameBitrateStat endTime =
      ((subscriber.frameStats .frameEncoded).map fun stats => (CastStat.encodeKbps, Double.finite
        (if 0 < endTime - subscriber.startTime then
          (stats.sumSize : ℚ) / inMillisecondsF (endTime - subscriber.startTime) * 8
        else 0))).toList := by
  unfold populateFrameBitrateStat
  cases subscriber.frameStats .frameEncoded with
  | none => rfl
  | some stats => simp only [kbps_eq_finite, Option.map_some', Option.toList_some]

theorem populatePacketBitrateStat_eq :
    subscriber.populatePacketBitrateStat endTime event stat =
      ((subscriber.packetStats event).map fun stats => (stat, Double.finite
        (if 0 < endTime - subscriber.startTime then
          (stats.sumSize : ℚ) / inMillisecondsF (endTime - subscriber.startTime) * 8
        else 0))).toList := by
  unfold populatePacketBitrateStat
  cases subscriber.packetStats event with
  | none => rfl
  | some stats => simp only [kbps_eq_finite, Option.map_some', Option.toList_some]

end Values

section Reports

variable {stat other : CastStat} {value : Double} (endTime unixEpoch : TimeTicks)
  (event : CastLoggingEvent)

theorem not_mem_populateFpsStat (differs : other ≠ stat) :
    (other, value) ∉ subscriber.populateFpsStat endTime event stat := by
  unfold populateFpsStat
  split <;> simp [differs]

theorem not_mem_populateFrameCountStat (differs : other ≠ stat) :
    (other, value) ∉ subscriber.populateFrameCountStat event stat := by
  unfold populateFrameCountStat
  split <;> simp [differs]

theorem not_mem_populatePacketCountStat (differs : other ≠ stat) :
    (other, value) ∉ subscriber.populatePacketCountStat event stat := by
  unfold populatePacketCountStat
  split <;> simp [differs]

theorem not_mem_populatePlayoutDelayStat (differs : other ≠ .avgPlayoutDelayMs) :
    (other, value) ∉ subscriber.populatePlayoutDelayStat := by
  unfold populatePlayoutDelayStat
  split <;> simp [differs]

theorem not_mem_populateFrameBitrateStat (differs : other ≠ .encodeKbps) :
    (other, value) ∉ subscriber.populateFrameBitrateStat endTime := by
  unfold populateFrameBitrateStat
  split <;> simp [differs]

theorem not_mem_populatePacketBitrateStat (differs : other ≠ stat) :
    (other, value) ∉ subscriber.populatePacketBitrateStat endTime event stat := by
  unfold populatePacketBitrateStat
  split <;> simp [differs]

theorem not_mem_populatePacketLossPercentageStat (differs : other ≠ .packetLossFraction) :
    (other, value) ∉ subscriber.populatePacketLossPercentageStat := by
  unfold populatePacketLossPercentageStat
  split <;> simp [differs]

/-- `PACKET_LOSS_FRACTION` is reported exactly when there are loss counts, as the
retransmissions over the `int` sum of the two counts. -/
theorem mem_getStatsInternal_packetLossFraction :
    (.packetLossFraction, value) ∈ subscriber.getStatsInternal endTime unixEpoch ↔
      ∃ sentCount retransmittedCount,
        subscriber.lossCounts = some (sentCount, retransmittedCount) ∧
          value = retransmittedCount / wrapInt32 (sentCount + retransmittedCount) := by
  have onlyLoss : (.packetLossFraction, value) ∈ subscriber.getStatsInternal endTime unixEpoch ↔
      (.packetLossFraction, value) ∈ subscriber.populatePacketLossPercentageStat := by
    simp [getStatsInternal, not_mem_populateFpsStat, not_mem_populateFrameCountStat,
      not_mem_populatePacketCountStat, not_mem_populatePlayoutDelayStat,
      not_mem_populateFrameBitrateStat, not_mem_populatePacketBitrateStat]
  rw [onlyLoss, populatePacketLossPercentageStat]
  split <;> simp [*, and_assoc]

/-- `MS_SINCE_LAST_RECEIVER_RESPONSE` is reported exactly when a response time is set. -/
theorem mem_getStatsInternal_msSinceLastReceiverResponse :
    (.msSinceLastReceiverResponse, value) ∈ subscriber.getStatsInternal endTime unixEpoch ↔
      subscriber.lastResponseReceivedTime ≠ 0 ∧
        value = inMillisecondsF (endTime - subscriber.lastResponseReceivedTime) := by
  simp [getStatsInternal, not_mem_populateFpsStat, not_mem_populateFrameCountStat,
    not_mem_populatePacketCountStat, not_mem_populatePlayoutDelayStat,
    not_mem_populateFrameBitrateStat, not_mem_populatePacketBitrateStat,
    not_mem_populatePacketLossPercentageStat, eq_comm]

end Reports

end StatsEventSubscriber

end CastTelemetry
