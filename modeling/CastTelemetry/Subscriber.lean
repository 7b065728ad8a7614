import CastTelemetry.Events

/-!
# The statistics subscriber

`StatsEventSubscriber` receives frame and packet events of one media type, keeps per-kind
counters, a bounded cache of per-frame working state and a bounded map pairing a packet's
send with its receipt, and feeds five latency histograms. `GetStats` reads a snapshot.

Every source function is one definition here, under its own name, returning the
subscriber after the call. The clock is read by the constructor, by `Reset` and by
`GetStats`, and its readings are arguments; so are the estimator's answer during a
delivery and `kMaxFrameInfoMapSize`, which a header outside the source declares.
Snapshot values are rationals in place of doubles.
-/

namespace CastTelemetry

/-- The fields of the subscriber; the clock, the estimator and the thread checker are not
state of its own. -/
structure StatsEventSubscriber where
  eventMediaType : EventMediaType
  frameStats : CastLoggingEvent → Option FrameLogStats
  packetStats : CastLoggingEvent → Option PacketLogStats
  totalNetworkLatency : TimeDelta
  networkLatencyDatapoints : Nat
  totalE2eLatency : TimeDelta
  e2eLatencyDatapoints : Nat
  numFramesDroppedByEncoder : Nat
  numFramesLate : Nat
  recentFrameInfos : OrderedMap Nat FrameInfo
  packetSentTimes : OrderedMap PacketKey (TimeTicks × CastLoggingEvent)
  startTime : TimeTicks
  lastResponseReceivedTime : TimeTicks
  firstEventTime : TimeTicks
  lastEventTime : TimeTicks
  histograms : Histograms

/-- The value an `int` takes when it is given a counter or a sum of `int`s: two's complement
modulo 2^32. -/
def wrapInt32 (value : Int) : Int := (value + 2 ^ 31) % 2 ^ 32 - 2 ^ 31

/-- The time `UpdateFirstLastEventTime` records for an event: a sender event's own time, a
receiver event's time less the offset, and nothing when that offset is unknown. -/
def correctedTime (timestamp : TimeTicks) (receiverEvent : Bool) (bounds : OffsetBounds) :
    Option TimeTicks :=
  if receiverEvent then (getReceiverOffset bounds).map (timestamp - ·) else some timestamp

/-- The sent and received times of a pairing: the stored event and the new one must be a
send and a receipt, in either order. -/
def pairTimes (recordedTime : TimeTicks) (recordedType : CastLoggingEvent)
    (event : PacketEvent) : Option (TimeTicks × TimeTicks) :=
  if recordedType = .packetSentToNetwork ∧ event.type = .packetReceived then
    some (recordedTime, event.timestamp)
  else if recordedType = .packetReceived ∧ event.type = .packetSentToNetwork then
    some (event.timestamp, recordedTime)
  else none

namespace StatsEventSubscriber

/-- The constructor, with the clock's reading for `start_time_`. -/
def new (eventMediaType : EventMediaType) (now : TimeTicks) : StatsEventSubscriber where
  eventMediaType := eventMediaType
  frameStats := fun _ => none
  packetStats := fun _ => none
  totalNetworkLatency := 0
  networkLatencyDatapoints := 0
  totalE2eLatency := 0
  e2eLatencyDatapoints := 0
  numFramesDroppedByEncoder := 0
  numFramesLate := 0
  recentFrameInfos := .empty
  packetSentTimes := .empty
  startTime := now
  lastResponseReceivedTime := 0
  firstEventTime := 0
  lastEventTime := 0
  histograms := Histograms.initHistograms

/-- `Reset`, with the clock's reading for `start_time_`. -/
def reset (subscriber : StatsEventSubscriber) (now : TimeTicks) : StatsEventSubscriber :=
  { subscriber with
    frameStats := fun _ => none
    packetStats := fun _ => none
    totalNetworkLatency := 0
    networkLatencyDatapoints := 0
    totalE2eLatency := 0
    e2eLatencyDatapoints := 0
    numFramesDroppedByEncoder := 0
    numFramesLate := 0
    recentFrameInfos := .empty
    packetSentTimes := .empty
    startTime := now
    lastResponseReceivedTime := 0
    histograms := subscriber.histograms.reset
    firstEventTime := 0
    lastEventTime := 0 }

/-- `UpdateFirstLastEventTime`: widen the first and last event times to the recorded time;
a null bound is replaced. -/
def updateFirstLastEventTime (subscriber : StatsEventSubscriber) (timestamp : TimeTicks)
    (receiverEvent : Bool) (bounds : OffsetBounds) : StatsEventSubscriber :=
  match correctedTime timestamp receiverEvent bounds with
  | none => subscriber
  | some time =>
    { subscriber with
      firstEventTime :=
        if subscriber.firstEventTime = 0 then time else min subscriber.firstEventTime time
      lastEventTime :=
        if subscriber.lastEventTime = 0 then time else max subscriber.lastEventTime time }

/-- `UpdateLastResponseTime`. -/
def updateLastResponseTime (subscriber : StatsEventSubscriber) (receiverTime : TimeTicks)
    (bounds : OffsetBounds) : StatsEventSubscriber :=
  match getReceiverOffset bounds with
  | none => subscriber
  | some offset => { subscriber with lastResponseReceivedTime := receiverTime - offset }

section Frames

variable (kMaxFrameInfoMapSize : Nat)

/-- `rtp_timestamp < recent_frame_infos_.begin()->first`; an empty map has no first key. -/
def belowBegin (map : OrderedMap Nat FrameInfo) (rtpTimestamp : Nat) : Bool :=
  match map.begin with
  | some entry => decide (rtpTimestamp < entry.1)
  | none => false

/-- `MaybeInsertFrameInfo`: skip a key below a full cache, insert, and evict the smallest
key once the cache holds `kMaxFrameInfoMapSize` entries, counting it as dropped by the
encoder when it has no encode time. -/
def maybeInsertFrameInfo (subscriber : StatsEventSubscriber) (rtpTimestamp : Nat)
    (frameInfo : FrameInfo) : StatsEventSubscriber :=
  if subscriber.recentFrameInfos.size = kMaxFrameInfoMapSize ∧
      belowBegin subscriber.recentFrameInfos rtpTimestamp then subscriber
  else
    let inserted := subscriber.recentFrameInfos.insert rtpTimestamp frameInfo
    if kMaxFrameInfoMapSize ≤ inserted.size then
      match inserted.begin with
      | some (_, evicted) =>
        { subscriber with
          recentFrameInfos := inserted.eraseBegin
          numFramesDroppedByEncoder :=
            if evicted.encodeTime = 0 then subscriber.numFramesDroppedByEncoder + 1
            else subscriber.numFramesDroppedByEncoder }
      | none => { subscriber with recentFrameInfos := inserted }
    else { subscriber with recentFrameInfos := inserted }

/-- `RecordFrameCaptureTime`. -/
def recordFrameCaptureTime (subscriber : StatsEventSubscriber) (frameEvent : FrameEvent) :
    StatsEventSubscriber :=
  subscriber.maybeInsertFrameInfo kMaxFrameInfoMapSize frameEvent.rtpTimestamp
    { captureTime := frameEvent.timestamp }

/-- `RecordCaptureLatency`: sample `capture_time - timestamp` when the frame has a capture
time, and record the capture end. -/
def recordCaptureLatency (subscriber : StatsEventSubscriber) (frameEvent : FrameEvent) :
    StatsEventSubscriber :=
  match subscriber.recentFrameInfos.find frameEvent.rtpTimestamp with
  | none => subscriber
  | some frameInfo =>
    let histograms := subscriber.histograms
    { subscriber with
      histograms :=
        if frameInfo.captureTime ≠ 0 then
          let sample := inMillisecondsTruncated (frameInfo.captureTime - frameEvent.timestamp)
          { histograms with captureLatencyMsHisto := histograms.captureLatencyMsHisto.add sample }
        else histograms
      recentFrameInfos := subscriber.recentFrameInfos.modify frameEvent.rtpTimestamp
        fun frameInfo => { frameInfo with captureEndTime := frameEvent.timestamp } }

/-- `RecordEncodeLatency`: for an unknown frame, insert one holding the encode time;
otherwise sample the time since the capture end, if any, and record the encode time. -/
def recordEncodeLatency (subscriber : StatsEventSubscriber) (frameEvent : FrameEvent) :
    StatsEventSubscriber :=
  match subscriber.recentFrameInfos.find frameEvent.rtpTimestamp with
  | none =>
    subscriber.maybeInsertFrameInfo kMaxFrameInfoMapSize frameEvent.rtpTimestamp
      { encodeTime := frameEvent.timestamp }
  | some frameInfo =>
    let histograms := subscriber.histograms
    { subscriber with
      histograms :=
        if frameInfo.captureEndTime ≠ 0 then
          let sample := inMillisecondsTruncated (frameEvent.timestamp - frameInfo.captureEndTime)
          { histograms with encodeLatencyMsHisto := histograms.encodeLatencyMsHisto.add sample }
        else histograms
      recentFrameInfos := subscriber.recentFrameInfos.modify frameEvent.rtpTimestamp
        fun frameInfo => { frameInfo with encodeTime := frameEvent.timestamp } }

end Frames

/-- `RecordFrameTxLatency`: sample the acknowledgement's sender-clock time less the encode
time, when the frame is cached with an encode time and the offset is known. -/
def recordFrameTxLatency (subscriber : StatsEventSubscriber) (frameEvent : FrameEvent)
    (bounds : OffsetBounds) : StatsEventSubscriber :=
  match subscriber.recentFrameInfos.find frameEvent.rtpTimestamp with
  | none => subscriber
  | some frameInfo =>
    if frameInfo.encodeTime = 0 then subscriber
    else
      match getReceiverOffset bounds with
      | none => subscriber
      | some offset =>
        let histograms := subscriber.histograms
        let sample := inMillisecondsTruncated (frameEvent.timestamp - offset - frameInfo.encodeTime)
        { subscriber with
          histograms := { histograms with
            frameLatencyMsHisto := histograms.frameLatencyMsHisto.add sample } }

/-- `RecordE2ELatency`: add the playout time in sender terms less the capture time. -/
def recordE2ELatency (subscriber : StatsEventSubscriber) (frameEvent : FrameEvent)
    (bounds : OffsetBounds) : StatsEventSubscriber :=
  match getReceiverOffset bounds with
  | none => subscriber
  | some offset =>
    match subscriber.recentFrameInfos.find frameEvent.rtpTimestamp with
    | none => subscriber
    | some frameInfo =>
      let playoutTime := frameEvent.timestamp + frameEvent.delayDelta - offset
      { subscriber with
        totalE2eLatency := subscriber.totalE2eLatency + (playoutTime - frameInfo.captureTime)
        e2eLatencyDatapoints := subscriber.e2eLatencyDatapoints + 1 }

/-- `ErasePacketSentTime`. -/
def erasePacketSentTime (subscriber : StatsEventSubscriber) (packetEvent : PacketEvent) :
    StatsEventSubscriber :=
  { subscriber with packetSentTimes := subscriber.packetSentTimes.erase packetEvent.key }

/-- `RecordNetworkLatency`: store the first of a send and a receipt, bounded by evicting
the smallest key; on the complementary event, sample the latency and erase the entry. -/
def recordNetworkLatency (subscriber : StatsEventSubscriber) (packetEvent : PacketEvent)
    (bounds : OffsetBounds) : StatsEventSubscriber :=
  match getReceiverOffset bounds with
  | none => subscriber
  | some offset =>
    match subscriber.packetSentTimes.find packetEvent.key with
    | none =>
      let inserted := subscriber.packetSentTimes.insert packetEvent.key
        (packetEvent.timestamp, packetEvent.type)
      { subscriber with
        packetSentTimes :=
          if kMaxPacketEventTimeMapSize < inserted.size then inserted.eraseBegin else inserted }
    | some (recordedTime, recordedType) =>
      match pairTimes recordedTime recordedType packetEvent with
      | none => subscriber
      | some (packetSentTime, packetReceivedTime) =>
        let latencyDelta := packetReceivedTime - offset - packetSentTime
        let histograms := subscriber.histograms
        { subscriber with
          totalNetworkLatency := subscriber.totalNetworkLatency + latencyDelta
          networkLatencyDatapoints := subscriber.networkLatencyDatapoints + 1
          histograms := { histograms with
            packetLatencyMsHisto := histograms.packetLatencyMsHisto.add
              (inMillisecondsTruncated latencyDelta) }
          packetSentTimes := subscriber.packetSentTimes.erase packetEvent.key }

/-- The counter update of `OnReceiveFrameEvent`. -/
def frameStatsAfter (frameStats : CastLoggingEvent → Option FrameLogStats)
    (frameEvent : FrameEvent) : CastLoggingEvent → Option FrameLogStats :=
  Function.update frameStats frameEvent.type <| some <|
    match frameStats frameEvent.type with
    | none => ⟨1, frameEvent.size, frameEvent.delayDelta⟩
    | some stats => ⟨stats.eventCounter + 1, stats.sumSize + frameEvent.size,
        stats.sumDelay + frameEvent.delayDelta⟩

/-- The counter update of `OnReceivePacketEvent`. -/
def packetStatsAfter (packetStats : CastLoggingEvent → Option PacketLogStats)
    (packetEvent : PacketEvent) : CastLoggingEvent → Option PacketLogStats :=
  Function.update packetStats packetEvent.type <| some <|
    match packetStats packetEvent.type with
    | none => ⟨1, packetEvent.size⟩
    | some stats => ⟨stats.eventCounter + 1, stats.sumSize + packetEvent.size⟩

/-- The playout branch of `OnReceiveFrameEvent` after `RecordE2ELatency`: the delay sample
and the late-frame count. -/
def recordPlayoutDelay (subscriber : StatsEventSubscriber) (frameEvent : FrameEvent) :
    StatsEventSubscriber :=
  let histograms := subscriber.histograms
  { subscriber with
    histograms := { histograms with
      playoutDelayMsHisto := histograms.playoutDelayMsHisto.add
        (inMillisecondsTruncated frameEvent.delayDelta) }
    numFramesLate :=
      if frameEvent.delayDelta ≤ 0 then subscriber.numFramesLate + 1 else subscriber.numFramesLate }

/-- The dispatch of `OnReceiveFrameEvent` on the event's kind. -/
def recordFrameEvent (kMaxFrameInfoMapSize : Nat) (subscriber : StatsEventSubscriber)
    (frameEvent : FrameEvent) (bounds : OffsetBounds) : StatsEventSubscriber :=
  match frameEvent.type with
  | .frameCaptureBegin => subscriber.recordFrameCaptureTime kMaxFrameInfoMapSize frameEvent
  | .frameCaptureEnd => subscriber.recordCaptureLatency frameEvent
  | .frameEncoded => subscriber.recordEncodeLatency kMaxFrameInfoMapSize frameEvent
  | .frameAckSent => subscriber.recordFrameTxLatency frameEvent bounds
  | .framePlayout => (subscriber.recordE2ELatency frameEvent bounds).recordPlayoutDelay frameEvent
  | _ => subscriber

/-- `OnReceiveFrameEvent`. -/
def onReceiveFrameEvent (kMaxFrameInfoMapSize : Nat) (subscriber : StatsEventSubscriber)
    (frameEvent : FrameEvent) (bounds : OffsetBounds) : StatsEventSubscriber :=
  if frameEvent.mediaType ≠ subscriber.eventMediaType then subscriber
  else
    let counted := { subscriber with frameStats := frameStatsAfter subscriber.frameStats frameEvent }
    let timed := counted.updateFirstLastEventTime frameEvent.timestamp
      (isReceiverEvent frameEvent.type) bounds
    let recorded := timed.recordFrameEvent kMaxFrameInfoMapSize frameEvent bounds
    if isReceiverEvent frameEvent.type then
      recorded.updateLastResponseTime frameEvent.timestamp bounds
    else recorded

/-- The dispatch of `OnReceivePacketEvent` on the event's kind. -/
def recordPacketEvent (subscriber : StatsEventSubscriber) (packetEvent : PacketEvent)
    (bounds : OffsetBounds) : StatsEventSubscriber :=
  if packetEvent.type = .packetSentToNetwork ∨ packetEvent.type = .packetReceived then
    subscriber.recordNetworkLatency packetEvent bounds
  else if packetEvent.type = .packetRetransmitted then subscriber.erasePacketSentTime packetEvent
  else subscriber

/-- `OnReceivePacketEvent`. -/
def onReceivePacketEvent (subscriber : StatsEventSubscriber) (packetEvent : PacketEvent)
    (bounds : OffsetBounds) : StatsEventSubscriber :=
  if packetEvent.mediaType ≠ subscriber.eventMediaType then subscriber
  else
    let counted :=
      { subscriber with packetStats := packetStatsAfter subscriber.packetStats packetEvent }
    let timed := counted.updateFirstLastEventTime packetEvent.timestamp
      (isReceiverEvent packetEvent.type) bounds
    let recorded := timed.recordPacketEvent packetEvent bounds
    if isReceiverEvent packetEvent.type then
      recorded.updateLastResponseTime packetEvent.timestamp bounds
    else recorded

end StatsEventSubscriber

end CastTelemetry
