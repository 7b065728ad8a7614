import Mathlib.Data.Prod.Lex
import CastTelemetry.Histogram
import CastTelemetry.OrderedMap

/-!
# Events, times and the subscriber's records

The event kinds, media types and statistic names, the frame and packet events the
subscriber receives, its per-kind counters and per-frame working state, and the five
latency histograms. Times are int64 microseconds taken as integers; the null
`TimeTicks()` is zero, which the source treats as "unset". The kinds of
`CastLoggingEvent` beyond those the subscriber dispatches on are one `unknown` kind.

The offset estimator answers `GetReceiverOffsetBounds` with bounds or with failure. It
receives no event while the subscriber handles one, so every query made during one
delivery gets the same answer, which the delivery carries.
-/

namespace CastTelemetry

/-- A point on the tick clock, in microseconds; zero is the null `TimeTicks()`. -/
abbrev TimeTicks := Int

/-- A signed duration in microseconds. -/
abbrev TimeDelta := Int

/-- The kinds of logged events the subscriber distinguishes. -/
inductive CastLoggingEvent where
  | unknown
  | frameCaptureBegin
  | frameCaptureEnd
  | frameEncoded
  | frameAckSent
  | frameDecoded
  | framePlayout
  | packetSentToNetwork
  | packetRetransmitted
  | packetRtxRejected
  | packetReceived
  deriving DecidableEq, Repr

/-- The media a stream carries. -/
inductive EventMediaType where
  | audioEvent
  | videoEvent
  deriving DecidableEq, Repr

/-- The statistics the subscriber exports, in the order `CastStatToString` lists them. -/
inductive CastStat where
  | captureFps | encodeFps | decodeFps | avgEncodeTimeMs | avgPlayoutDelayMs
  | avgNetworkLatencyMs | avgE2eLatencyMs | encodeKbps | transmissionKbps
  | retransmissionKbps | packetLossFraction | msSinceLastReceiverResponse
  | numFramesCaptured | numFramesDroppedByEncoder | numFramesLate | numPacketsSent
  | numPacketsRetransmitted | numPacketsRtxRejected | firstEventTimeMs | lastEventTimeMs
  | captureLatencyMsHisto | encodeLatencyMsHisto | packetLatencyMsHisto
  | frameLatencyMsHisto | playoutDelayMsHisto
  deriving DecidableEq, Repr

/-- `CastStatToString`. -/
def castStatToString : CastStat → String
  | .captureFps => "CAPTURE_FPS"
  | .encodeFps => "ENCODE_FPS"
  | .decodeFps => "DECODE_FPS"
  | .avgEncodeTimeMs => "AVG_ENCODE_TIME_MS"
  | .avgPlayoutDelayMs => "AVG_PLAYOUT_DELAY_MS"
  | .avgNetworkLatencyMs => "AVG_NETWORK_LATENCY_MS"
  | .avgE2eLatencyMs => "AVG_E2E_LATENCY_MS"
  | .encodeKbps => "ENCODE_KBPS"
  | .transmissionKbps => "TRANSMISSION_KBPS"
  | .retransmissionKbps => "RETRANSMISSION_KBPS"
  | .packetLossFraction => "PACKET_LOSS_FRACTION"
  | .msSinceLastReceiverResponse => "MS_SINCE_LAST_RECEIVER_RESPONSE"
  | .numFramesCaptured => "NUM_FRAMES_CAPTURED"
  | .numFramesDroppedByEncoder => "NUM_FRAMES_DROPPED_BY_ENCODER"
  | .numFramesLate => "NUM_FRAMES_LATE"
  | .numPacketsSent => "NUM_PACKETS_SENT"
  | .numPacketsRetransmitted => "NUM_PACKETS_RETRANSMITTED"
  | .numPacketsRtxRejected => "NUM_PACKETS_RTX_REJECTED"
  | .firstEventTimeMs => "FIRST_EVENT_TIME_MS"
  | .lastEventTimeMs => "LAST_EVENT_TIME_MS"
  | .captureLatencyMsHisto => "CAPTURE_LATENCY_MS_HISTO"
  | .encodeLatencyMsHisto => "ENCODE_LATENCY_MS_HISTO"
  | .packetLatencyMsHisto => "PACKET_LATENCY_MS_HISTO"
  | .frameLatencyMsHisto => "FRAME_LATENCY_MS_HISTO"
  | .playoutDelayMsHisto => "PLAYOUT_DELAY_MS_HISTO"

/-- `IsReceiverEvent`: the kinds logged on the receiver's clock. -/
def isReceiverEvent (event : CastLoggingEvent) : Bool :=
  event == .frameDecoded || event == .framePlayout || event == .frameAckSent ||
    event == .packetReceived

/-- A frame event; its frame id is informational and not read by the subscriber. -/
structure FrameEvent where
  timestamp : TimeTicks
  type : CastLoggingEvent
  mediaType : EventMediaType
  rtpTimestamp : Nat
  size : Nat
  delayDelta : TimeDelta
  deriving DecidableEq, Repr

/-- A packet event; its frame id and maximum packet id are not read by the subscriber. -/
structure PacketEvent where
  timestamp : TimeTicks
  type : CastLoggingEvent
  mediaType : EventMediaType
  rtpTimestamp : Nat
  packetId : Nat
  size : Nat
  deriving DecidableEq, Repr

/-- The pairing map's key, `(rtp_timestamp, packet_id)` in lexicographic order. -/
abbrev PacketKey := Lex (Nat × Nat)

/-- The key of a packet event. -/
def PacketEvent.key (event : PacketEvent) : PacketKey := toLex (event.rtpTimestamp, event.packetId)

/-- What the estimator answers: lower and upper bounds on the receiver's clock offset, or
nothing when it has too few samples. -/
abbrev OffsetBounds := Option (TimeDelta × TimeDelta)

/-- `GetReceiverOffset`: the midpoint of the bounds, with `TimeDelta`'s truncating division. -/
def getReceiverOffset (bounds : OffsetBounds) : Option TimeDelta :=
  bounds.map fun bound => (bound.1 + bound.2).tdiv 2

/-- `FrameLogStats`: count, total size and total delay of one frame event kind. -/
structure FrameLogStats where
  eventCounter : Nat
  sumSize : Nat
  sumDelay : TimeDelta
  deriving DecidableEq, Repr

/-- `PacketLogStats`: count and total size of one packet event kind. -/
structure PacketLogStats where
  eventCounter : Nat
  sumSize : Nat
  deriving DecidableEq, Repr

/-- `FrameInfo`: the working state of one frame; zero is "not seen". -/
structure FrameInfo where
  captureTime : TimeTicks := 0
  captureEndTime : TimeTicks := 0
  encodeTime : TimeTicks := 0
  deriving DecidableEq, Repr

/-- `kMaxLatencyBucketMs`. -/
def kMaxLatencyBucketMs : Int := 800

/-- `kBucketWidthMs`. -/
def kBucketWidthMs : Int := 20

/-- `kMaxPacketEventTimeMapSize`. -/
def kMaxPacketEventTimeMapSize : Nat := 1000

/-- `d.InMillisecondsF()` as it reaches `Add(int64)`: the quotient by 1000, truncated toward
zero by the implicit double-to-int64 conversion. -/
def inMillisecondsTruncated (delta : TimeDelta) : Int := delta.tdiv 1000

/-- A histogram of `histograms_`: `InitHistograms` gives every one of them the same shape,
0 to `kMaxLatencyBucketMs` in `kBucketWidthMs` buckets, and nothing changes a shape. -/
@[ext] structure LatencyHistogram where
  histogram : SimpleHistogram
  latency_shape : histogram.min = 0 ∧ histogram.max = kMaxLatencyBucketMs ∧
    histogram.width = kBucketWidthMs

namespace LatencyHistogram

/-- A latency histogram as `InitHistograms` makes it. -/
def new : LatencyHistogram := ⟨.new 0 kMaxLatencyBucketMs kBucketWidthMs latencyShape, rfl, rfl, rfl⟩

/-- `Add`. -/
def add (histogram : LatencyHistogram) (sample : Int) : LatencyHistogram :=
  ⟨histogram.histogram.add sample, histogram.latency_shape⟩

/-- `Reset`. -/
def reset (histogram : LatencyHistogram) : LatencyHistogram :=
  ⟨histogram.histogram.reset, histogram.latency_shape⟩

/-- `Reset` gives back the histogram `InitHistograms` made. -/
theorem reset_eq_new (histogram : LatencyHistogram) : histogram.reset = new := by
  obtain ⟨histogram, sameMin, sameMax, sameWidth⟩ := histogram
  have bucketCount := histogram.bucket_count
  rw [sameMin, sameMax, sameWidth] at bucketCount
  ext1
  ext1 <;> simp only [reset, new, SimpleHistogram.reset, SimpleHistogram.new, sameMin, sameMax,
    sameWidth, bucketCount]
  rfl

/-- `Add` increments the bucket the printed labels assign to the sample. -/
theorem add_buckets_eq (histogram : LatencyHistogram) (sample : Int) :
    (histogram.add sample).histogram.buckets = histogram.histogram.buckets.modify (· + 1)
      (SimpleHistogram.labelIndex 0 kMaxLatencyBucketMs kBucketWidthMs sample) :=
  SimpleHistogram.add_buckets latencyShape histogram.histogram histogram.latency_shape sample

end LatencyHistogram

/-- Truncation toward zero: the floor of a non-negative duration, and minus the floor of
the opposite of a negative one. -/
theorem inMillisecondsTruncated_eq (delta : Int) :
    inMillisecondsTruncated delta = if 0 ≤ delta then delta / 1000 else -((-delta) / 1000) := by
  unfold inMillisecondsTruncated
  split_ifs with nonneg
  · exact Int.tdiv_eq_ediv nonneg (by decide)
  · rw [← Int.tdiv_eq_ediv (by omega) (by decide), ← Int.neg_tdiv, Int.neg_neg]

/-- A duration truncates to a negative millisecond count exactly from one millisecond below
zero: a duration in `(-1 ms, 0)` truncates to zero. -/
theorem inMillisecondsTruncated_neg_iff (delta : Int) :
    inMillisecondsTruncated delta < 0 ↔ delta ≤ -1000 := by
  rw [inMillisecondsTruncated_eq]
  split_ifs <;> omega

/-- A latency sample lands in the overflow bucket exactly from 800 ms. -/
theorem labelIndex_latency_eq_last (delta : Int) :
    SimpleHistogram.labelIndex 0 kMaxLatencyBucketMs kBucketWidthMs
      (inMillisecondsTruncated delta) = 41 ↔ 800000 ≤ delta := by
  rw [show 41 = ((kMaxLatencyBucketMs - 0) / kBucketWidthMs).toNat + 1 by decide,
    @SimpleHistogram.labelIndex_eq_last 0 kMaxLatencyBucketMs kBucketWidthMs latencyShape,
    inMillisecondsTruncated_eq, kMaxLatencyBucketMs]
  split_ifs <;> omega

/-- Where a latency of `delta` microseconds lands when a recorder adds it as
`Add(delta.InMillisecondsF())`: `Add` increments one bucket; it is the underflow bucket
`< 0` exactly when `delta ≤ -1000`, the overflow bucket `>= 800` exactly when
`delta ≥ 800000`, and otherwise the interior bucket whose printed range holds the
millisecond count truncated toward zero. -/
theorem latencySample_bucket (histogram : LatencyHistogram) (delta : TimeDelta) :
    (histogram.add (inMillisecondsTruncated delta)).histogram.buckets =
        histogram.histogram.buckets.modify (· + 1) (SimpleHistogram.labelIndex 0
          kMaxLatencyBucketMs kBucketWidthMs (inMillisecondsTruncated delta)) ∧
      (SimpleHistogram.labelIndex 0 kMaxLatencyBucketMs kBucketWidthMs
          (inMillisecondsTruncated delta) = 0 ↔ delta ≤ -1000) ∧
      (SimpleHistogram.labelIndex 0 kMaxLatencyBucketMs kBucketWidthMs
          (inMillisecondsTruncated delta) = 41 ↔ 800000 ≤ delta) ∧
      ∀ index : Nat, index < 40 →
        (SimpleHistogram.labelIndex 0 kMaxLatencyBucketMs kBucketWidthMs
            (inMillisecondsTruncated delta) = index + 1 ↔
          0 + index * kBucketWidthMs ≤ inMillisecondsTruncated delta ∧
            inMillisecondsTruncated delta ≤ 0 + index * kBucketWidthMs + kBucketWidthMs - 1) := by
  refine ⟨histogram.add_buckets_eq _, ?_, ?_, fun index inside =>
    SimpleHistogram.labelIndex_eq_succ latencyShape inside _⟩
  · rw [SimpleHistogram.labelIndex_eq_zero, inMillisecondsTruncated_neg_iff]
  · exact labelIndex_latency_eq_last delta

/-- A latency of half a millisecond below zero is not counted in the underflow bucket: it
truncates to zero and lands in the first interior bucket, whose printed range `0 - 19`
does not hold its floor, one millisecond below zero. -/
theorem subMillisecond_negative_latency :
    (-500 : TimeDelta) < 0 ∧ (-500 : TimeDelta) / 1000 = -1 ∧
      SimpleHistogram.labelIndex 0 kMaxLatencyBucketMs kBucketWidthMs
        (inMillisecondsTruncated (-500)) = 1 := by
  decide

/-- `histograms_`: the five latency histograms, under their statistics' names. -/
structure Histograms where
  captureLatencyMsHisto : LatencyHistogram
  encodeLatencyMsHisto : LatencyHistogram
  packetLatencyMsHisto : LatencyHistogram
  frameLatencyMsHisto : LatencyHistogram
  playoutDelayMsHisto : LatencyHistogram

namespace Histograms

/-- `InitHistograms`. -/
def initHistograms : Histograms := ⟨.new, .new, .new, .new, .new⟩

/-- The loop of `Reset` over `histograms_`. -/
def reset (histograms : Histograms) : Histograms :=
  ⟨histograms.captureLatencyMsHisto.reset, histograms.encodeLatencyMsHisto.reset,
    histograms.packetLatencyMsHisto.reset, histograms.frameLatencyMsHisto.reset,
    histograms.playoutDelayMsHisto.reset⟩

/-- `Reset` gives back the histograms `InitHistograms` made. -/
theorem reset_eq_initHistograms (histograms : Histograms) : histograms.reset = initHistograms := by
  simp [reset, initHistograms, LatencyHistogram.reset_eq_new]

/-- The histograms in `histograms_`'s key order, as `GetStats` iterates them. -/
def toList (histograms : Histograms) : List (CastStat × SimpleHistogram) :=
  [(.captureLatencyMsHisto, histograms.captureLatencyMsHisto.histogram),
    (.encodeLatencyMsHisto, histograms.encodeLatencyMsHisto.histogram),
    (.packetLatencyMsHisto, histograms.packetLatencyMsHisto.histogram),
    (.frameLatencyMsHisto, histograms.frameLatencyMsHisto.histogram),
    (.playoutDelayMsHisto, histograms.playoutDelayMsHisto.histogram)]

end Histograms

end CastTelemetry
