import CastTelemetry.Subscriber

/-!
# What a delivery writes

`OnReceiveFrameEvent` and `OnReceivePacketEvent` write the per-kind counters, the first
and last event times and the last response time themselves, and read the media type.
Everything else is written by the recorder the event's kind dispatches to, and no recorder
reads or writes any of those fields, nor `start_time_`. So a delivery of an event of the
engine's media type is its recorder apart from them (`onReceiveFrameEvent_records`), and
they are what the delivery would write with no recorder at all
(`onReceiveFrameEvent_bookkeeping`).

Whole-run results then read one side at a time: the caches, totals and histograms through
the recorders, the event times through `noteEvent`.
-/

namespace CastTelemetry

namespace StatsEventSubscriber

/-- The fields no recorder reads or writes. -/
structure Bookkeeping where
  eventMediaType : EventMediaType
  startTime : TimeTicks
  frameStats : CastLoggingEvent → Option FrameLogStats
  packetStats : CastLoggingEvent → Option PacketLogStats
  firstEventTime : TimeTicks
  lastEventTime : TimeTicks
  lastResponseReceivedTime : TimeTicks

/-- The bookkeeping fields of a subscriber. -/
def bookkeeping (subscriber : StatsEventSubscriber) : Bookkeeping :=
  ⟨subscriber.eventMediaType, subscriber.startTime, subscriber.frameStats, subscriber.packetStats, subscriber.firstEventTime,
    subscriber.lastEventTime, subscriber.lastResponseReceivedTime⟩

/-- A subscriber with its bookkeeping fields replaced. -/
def withBookkeeping (subscriber : StatsEventSubscriber) (bookkeeping : Bookkeeping) :
    StatsEventSubscriber :=
  { subscriber with
    eventMediaType := bookkeeping.eventMediaType
    startTime := bookkeeping.startTime
    frameStats := bookkeeping.frameStats
    packetStats := bookkeeping.packetStats
    firstEventTime := bookkeeping.firstEventTime
    lastEventTime := bookkeeping.lastEventTime
    lastResponseReceivedTime := bookkeeping.lastResponseReceivedTime }

variable (subscriber : StatsEventSubscriber) (bookkeeping : Bookkeeping)

@[simp] theorem bookkeeping_withBookkeeping :
    (subscriber.withBookkeeping bookkeeping).bookkeeping = bookkeeping := rfl

@[simp] theorem withBookkeeping_withBookkeeping (other : Bookkeeping) :
    (subscriber.withBookkeeping bookkeeping).withBookkeeping other =
      subscriber.withBookkeeping other := rfl

@[simp] theorem withBookkeeping_bookkeeping :
    subscriber.withBookkeeping subscriber.bookkeeping = subscriber := rfl

/-- A recorder keeps the bookkeeping: it neither reads nor writes those fields. -/
def KeepsBookkeeping (record : StatsEventSubscriber → StatsEventSubscriber) : Prop :=
  ∀ subscriber bookkeeping,
    record (subscriber.withBookkeeping bookkeeping) = (record subscriber).withBookkeeping bookkeeping

theorem KeepsBookkeeping.bookkeeping_eq {record : StatsEventSubscriber → StatsEventSubscriber}
    (keeps : KeepsBookkeeping record) : (record subscriber).bookkeeping = subscriber.bookkeeping := by
  have recorded := congrArg StatsEventSubscriber.bookkeeping (keeps subscriber subscriber.bookkeeping)
  exact recorded

theorem KeepsBookkeeping.comp {first second : StatsEventSubscriber → StatsEventSubscriber}
    (keepsFirst : KeepsBookkeeping first) (keepsSecond : KeepsBookkeeping second) :
    KeepsBookkeeping (second ∘ first) := by
  intro subscriber bookkeeping
  exact (congrArg second (keepsFirst subscriber bookkeeping)).trans (keepsSecond _ bookkeeping)

section Recorders

variable (kMaxFrameInfoMapSize : Nat) (frameEvent : FrameEvent) (packetEvent : PacketEvent)
  (bounds : OffsetBounds)

theorem keepsBookkeeping_maybeInsertFrameInfo (rtpTimestamp : Nat) (frameInfo : FrameInfo) :
    KeepsBookkeeping (·.maybeInsertFrameInfo kMaxFrameInfoMapSize rtpTimestamp frameInfo) := by
  intro subscriber bookkeeping
  unfold maybeInsertFrameInfo
  dsimp only [withBookkeeping]
  split_ifs
  · rfl
  · cases (subscriber.recentFrameInfos.insert rtpTimestamp frameInfo).begin <;> rfl
  · rfl

theorem keepsBookkeeping_recordCaptureLatency :
    KeepsBookkeeping (·.recordCaptureLatency frameEvent) := by
  intro subscriber bookkeeping
  unfold recordCaptureLatency
  dsimp only [withBookkeeping]
  cases subscriber.recentFrameInfos.find frameEvent.rtpTimestamp <;> rfl

theorem keepsBookkeeping_recordEncodeLatency :
    KeepsBookkeeping (·.recordEncodeLatency kMaxFrameInfoMapSize frameEvent) := by
  intro subscriber bookkeeping
  unfold recordEncodeLatency
  dsimp only [withBookkeeping]
  cases subscriber.recentFrameInfos.find frameEvent.rtpTimestamp with
  | none => exact keepsBookkeeping_maybeInsertFrameInfo _ _ _ subscriber bookkeeping
  | some => rfl

theorem keepsBookkeeping_recordFrameTxLatency :
    KeepsBookkeeping (·.recordFrameTxLatency frameEvent bounds) := by
  intro subscriber bookkeeping
  unfold recordFrameTxLatency
  dsimp only [withBookkeeping]
  cases subscriber.recentFrameInfos.find frameEvent.rtpTimestamp with
  | none => rfl
  | some frameInfo =>
    dsimp only
    split_ifs
    · rfl
    · cases getReceiverOffset bounds <;> rfl

theorem keepsBookkeeping_recordE2ELatency :
    KeepsBookkeeping (·.recordE2ELatency frameEvent bounds) := by
  intro subscriber bookkeeping
  unfold recordE2ELatency
  dsimp only [withBookkeeping]
  cases getReceiverOffset bounds
  · rfl
  · cases subscriber.recentFrameInfos.find frameEvent.rtpTimestamp <;> rfl

theorem keepsBookkeeping_recordPlayoutDelay :
    KeepsBookkeeping (·.recordPlayoutDelay frameEvent) := fun _ _ => rfl

theorem keepsBookkeeping_recordFrameEvent :
    KeepsBookkeeping (·.recordFrameEvent kMaxFrameInfoMapSize frameEvent bounds) := by
  intro subscriber bookkeeping
  unfold recordFrameEvent
  split
  · exact keepsBookkeeping_maybeInsertFrameInfo _ _ _ subscriber bookkeeping
  · exact keepsBookkeeping_recordCaptureLatency _ subscriber bookkeeping
  · exact keepsBookkeeping_recordEncodeLatency _ _ subscriber bookkeeping
  · exact keepsBookkeeping_recordFrameTxLatency _ _ subscriber bookkeeping
  · exact (keepsBookkeeping_recordE2ELatency _ bounds).comp
      (keepsBookkeeping_recordPlayoutDelay _) subscriber bookkeeping
  · rfl

theorem keepsBookkeeping_recordNetworkLatency :
    KeepsBookkeeping (·.recordNetworkLatency packetEvent bounds) := by
  intro subscriber bookkeeping
  unfold recordNetworkLatency
  dsimp only [withBookkeeping]
  cases getReceiverOffset bounds with
  | none => rfl
  | some offset =>
    dsimp only
    cases subscriber.packetSentTimes.find packetEvent.key with
    | none => rfl
    | some entry =>
      obtain ⟨recordedTime, recordedType⟩ := entry
      dsimp only
      cases pairTimes recordedTime recordedType packetEvent <;> rfl

theorem keepsBookkeeping_recordPacketEvent :
    KeepsBookkeeping (·.recordPacketEvent packetEvent bounds) := by
  intro subscriber bookkeeping
  unfold recordPacketEvent
  split_ifs
  · exact keepsBookkeeping_recordNetworkLatency _ _ subscriber bookkeeping
  · rfl
  · rfl

end Recorders

/-- `UpdateFirstLastEventTime` writes bookkeeping only. -/
theorem updateFirstLastEventTime_eq (timestamp : TimeTicks) (receiverEvent : Bool)
    (bounds : OffsetBounds) :
    subscriber.updateFirstLastEventTime timestamp receiverEvent bounds =
      subscriber.withBookkeeping
        (subscriber.updateFirstLastEventTime timestamp receiverEvent bounds).bookkeeping := by
  unfold updateFirstLastEventTime
  split <;> rfl

/-- `UpdateLastResponseTime` writes bookkeeping only, and reads nothing else. -/
theorem updateLastResponseTime_eq (receiverTime : TimeTicks) (bounds : OffsetBounds) :
    subscriber.updateLastResponseTime receiverTime bounds =
      subscriber.withBookkeeping (subscriber.updateLastResponseTime receiverTime bounds).bookkeeping := by
  unfold updateLastResponseTime
  split <;> rfl

theorem bookkeeping_updateLastResponseTime_congr {other : StatsEventSubscriber}
    (same : subscriber.bookkeeping = other.bookkeeping) (receiverTime : TimeTicks)
    (bounds : OffsetBounds) :
    (subscriber.updateLastResponseTime receiverTime bounds).bookkeeping =
      (other.updateLastResponseTime receiverTime bounds).bookkeeping := by
  unfold updateLastResponseTime
  split
  · exact same
  · rename_i offset _
    exact congrArg ({ · with lastResponseReceivedTime := receiverTime - offset }) same

/-- A recorder run on a subscriber with other bookkeeping, given the original bookkeeping
back, is the recorder run on the original. -/
theorem KeepsBookkeeping.restore {record : StatsEventSubscriber → StatsEventSubscriber}
    (keeps : KeepsBookkeeping record) :
    (record (subscriber.withBookkeeping bookkeeping)).withBookkeeping subscriber.bookkeeping =
      record subscriber := by
  rw [keeps, withBookkeeping_withBookkeeping, ← keeps.bookkeeping_eq, withBookkeeping_bookkeeping]

/-- What a delivery writes besides its counter update and its recorder: the event times,
and the response time for a receiver event. -/
def noteEvent (timestamp : TimeTicks) (receiverEvent : Bool) (bounds : OffsetBounds) :
    StatsEventSubscriber :=
  let timed := subscriber.updateFirstLastEventTime timestamp receiverEvent bounds
  if receiverEvent then timed.updateLastResponseTime timestamp bounds else timed

section Deliveries

variable (kMaxFrameInfoMapSize : Nat) (frameEvent : FrameEvent) (packetEvent : PacketEvent)
  (bounds : OffsetBounds)

/-- A frame event of another media type is ignored. -/
theorem onReceiveFrameEvent_of_ne (other : frameEvent.mediaType ≠ subscriber.eventMediaType) :
    subscriber.onReceiveFrameEvent kMaxFrameInfoMapSize frameEvent bounds = subscriber :=
  if_pos other

/-- Apart from the bookkeeping, a frame delivery is its recorder. -/
theorem onReceiveFrameEvent_records (same : frameEvent.mediaType = subscriber.eventMediaType) :
    (subscriber.onReceiveFrameEvent kMaxFrameInfoMapSize frameEvent bounds).withBookkeeping
      subscriber.bookkeeping = subscriber.recordFrameEvent kMaxFrameInfoMapSize frameEvent bounds := by
  have keeps := keepsBookkeeping_recordFrameEvent kMaxFrameInfoMapSize frameEvent bounds
  unfold onReceiveFrameEvent
  rw [if_neg (not_not.mpr same)]
  dsimp only
  rw [updateFirstLastEventTime_eq]
  split
  · rw [updateLastResponseTime_eq, withBookkeeping_withBookkeeping]
    exact keeps.restore subscriber _
  · exact keeps.restore subscriber _

/-- The bookkeeping of a frame delivery is the counter update and `noteEvent`. -/
theorem onReceiveFrameEvent_bookkeeping (same : frameEvent.mediaType = subscriber.eventMediaType) :
    (subscriber.onReceiveFrameEvent kMaxFrameInfoMapSize frameEvent bounds).bookkeeping =
      ({ subscriber with frameStats := frameStatsAfter subscriber.frameStats frameEvent }.noteEvent
        frameEvent.timestamp (isReceiverEvent frameEvent.type) bounds).bookkeeping := by
  have keeps := keepsBookkeeping_recordFrameEvent kMaxFrameInfoMapSize frameEvent bounds
  unfold onReceiveFrameEvent noteEvent
  rw [if_neg (not_not.mpr same)]
  dsimp only
  split
  · exact bookkeeping_updateLastResponseTime_congr _ (keeps.bookkeeping_eq _) _ _
  · exact keeps.bookkeeping_eq _

/-- A packet event of another media type is ignored. -/
theorem onReceivePacketEvent_of_ne (other : packetEvent.mediaType ≠ subscriber.eventMediaType) :
    subscriber.onReceivePacketEvent packetEvent bounds = subscriber :=
  if_pos other

/-- Apart from the bookkeeping, a packet delivery is its recorder. -/
theorem onReceivePacketEvent_records (same : packetEvent.mediaType = subscriber.eventMediaType) :
    (subscriber.onReceivePacketEvent packetEvent bounds).withBookkeeping subscriber.bookkeeping =
      subscriber.recordPacketEvent packetEvent bounds := by
  have keeps := keepsBookkeeping_recordPacketEvent packetEvent bounds
  unfold onReceivePacketEvent
  rw [if_neg (not_not.mpr same)]
  dsimp only
  rw [updateFirstLastEventTime_eq]
  split
  · rw [updateLastResponseTime_eq, withBookkeeping_withBookkeeping]
    exact keeps.restore subscriber _
  · exact keeps.restore subscriber _

/-- The bookkeeping of a packet delivery is the counter update and `noteEvent`. -/
theorem onReceivePacketEvent_bookkeeping (same : packetEvent.mediaType = subscriber.eventMediaType) :
    (subscriber.onReceivePacketEvent packetEvent bounds).bookkeeping =
      ({ subscriber with packetStats := packetStatsAfter subscriber.packetStats packetEvent }.noteEvent
        packetEvent.timestamp (isReceiverEvent packetEvent.type) bounds).bookkeeping := by
  have keeps := keepsBookkeeping_recordPacketEvent packetEvent bounds
  unfold onReceivePacketEvent noteEvent
  rw [if_neg (not_not.mpr same)]
  dsimp only
  split
  · exact bookkeeping_updateLastResponseTime_congr _ (keeps.bookkeeping_eq _) _ _
  · exact keeps.bookkeeping_eq _

end Deliveries

/-- The fields only the packet recorders write: the pairing map, the network-latency
totals and the packet-latency histogram. -/
structure Pairing where
  packetSentTimes : OrderedMap PacketKey (TimeTicks × CastLoggingEvent)
  totalNetworkLatency : TimeDelta
  networkLatencyDatapoints : Nat
  packetLatencyMsHisto : LatencyHistogram

/-- The pairing fields of a subscriber. -/
def pairing (subscriber : StatsEventSubscriber) : Pairing :=
  ⟨subscriber.packetSentTimes, subscriber.totalNetworkLatency,
    subscriber.networkLatencyDatapoints, subscriber.histograms.packetLatencyMsHisto⟩

/-- A subscriber with its pairing fields replaced. -/
def withPairing (subscriber : StatsEventSubscriber) (pairing : Pairing) : StatsEventSubscriber :=
  { subscriber with
    packetSentTimes := pairing.packetSentTimes
    totalNetworkLatency := pairing.totalNetworkLatency
    networkLatencyDatapoints := pairing.networkLatencyDatapoints
    histograms := { subscriber.histograms with
      packetLatencyMsHisto := pairing.packetLatencyMsHisto } }

@[simp] theorem pairing_withPairing (pairing : Pairing) :
    (subscriber.withPairing pairing).pairing = pairing := rfl

section FrameRecorders

variable (kMaxFrameInfoMapSize : Nat) (frameEvent : FrameEvent) (bounds : OffsetBounds)

theorem pairing_maybeInsertFrameInfo (rtpTimestamp : Nat) (frameInfo : FrameInfo) :
    (subscriber.maybeInsertFrameInfo kMaxFrameInfoMapSize rtpTimestamp frameInfo).pairing =
      subscriber.pairing := by
  unfold maybeInsertFrameInfo
  dsimp only
  split_ifs
  · rfl
  · cases (subscriber.recentFrameInfos.insert rtpTimestamp frameInfo).begin <;> rfl
  · rfl

theorem pairing_recordEncodeLatency :
    (subscriber.recordEncodeLatency kMaxFrameInfoMapSize frameEvent).pairing = subscriber.pairing := by
  unfold recordEncodeLatency
  cases subscriber.recentFrameInfos.find frameEvent.rtpTimestamp with
  | none => exact pairing_maybeInsertFrameInfo _ _ _ _
  | some =>
    dsimp only
    split_ifs <;> rfl

theorem pairing_recordFrameTxLatency :
    (subscriber.recordFrameTxLatency frameEvent bounds).pairing = subscriber.pairing := by
  unfold recordFrameTxLatency
  cases subscriber.recentFrameInfos.find frameEvent.rtpTimestamp with
  | none => rfl
  | some frameInfo =>
    dsimp only
    split_ifs
    · rfl
    · cases getReceiverOffset bounds <;> rfl

theorem pairing_recordE2ELatency :
    (subscriber.recordE2ELatency frameEvent bounds).pairing = subscriber.pairing := by
  unfold recordE2ELatency
  cases getReceiverOffset bounds
  · rfl
  · cases subscriber.recentFrameInfos.find frameEvent.rtpTimestamp <;> rfl

/-- The frame recorders leave the pairing alone. -/
theorem pairing_recordFrameEvent :
    (subscriber.recordFrameEvent kMaxFrameInfoMapSize frameEvent bounds).pairing =
      subscriber.pairing := by
  unfold recordFrameEvent
  split
  · exact pairing_maybeInsertFrameInfo _ _ _ _
  · unfold recordCaptureLatency
    cases subscriber.recentFrameInfos.find frameEvent.rtpTimestamp
    · rfl
    · dsimp only
      split_ifs <;> rfl
  · exact pairing_recordEncodeLatency _ _ _
  · exact pairing_recordFrameTxLatency _ _ _
  · exact pairing_recordE2ELatency _ _ _
  · rfl

end FrameRecorders

/-- The packet recorder writes the pairing only. -/
theorem recordPacketEvent_eq (packetEvent : PacketEvent) (bounds : OffsetBounds) :
    subscriber.recordPacketEvent packetEvent bounds =
      subscriber.withPairing (subscriber.recordPacketEvent packetEvent bounds).pairing := by
  unfold recordPacketEvent recordNetworkLatency erasePacketSentTime
  split_ifs
  · cases getReceiverOffset bounds with
    | none => rfl
    | some offset =>
      dsimp only
      cases subscriber.packetSentTimes.find packetEvent.key with
      | none => rfl
      | some entry =>
        obtain ⟨recordedTime, recordedType⟩ := entry
        dsimp only
        cases pairTimes recordedTime recordedType packetEvent <;> rfl
  · rfl
  · rfl

end StatsEventSubscriber

end CastTelemetry
