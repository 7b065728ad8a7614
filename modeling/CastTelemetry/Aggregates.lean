import CastTelemetry.Run

/-!
# Event aggregates

`OnReceiveFrameEvent` and `OnReceivePacketEvent` keep, per event kind, a counter and a
total size, and for frames a total delay; the playout branch also counts late frames and
feeds `PLAYOUT_DELAY_MS_HISTO`. Each of these is an incremental form of a batch statistic of
the events of the engine's media type since the last `Reset`. `frameAggregate`,
`packetAggregate`, `latePlayouts` and `playoutDelaySamples` are those statistics, computed
from the whole list; the code never computes them, it updates its fields one event at a
time. `frameAggregate_concat` and `packetAggregate_concat` say that the code's update of a
list's statistic is the statistic of the longer list; `AggregatesEvents` is the invariant
that follows, kept by every call (`aggregatesEvents_step`), and `aggregates_run` reads it off
every run from construction.
-/

namespace CastTelemetry

namespace Call

/-- The frame event a call delivers to a subscriber of the given media type. -/
def frameEventOf (eventMediaType : EventMediaType) : Call → Option FrameEvent
  | .frameEvent event _ => if event.mediaType = eventMediaType then some event else none
  | _ => none

/-- The packet event a call delivers to a subscriber of the given media type. -/
def packetEventOf (eventMediaType : EventMediaType) : Call → Option PacketEvent
  | .packetEvent event _ => if event.mediaType = eventMediaType then some event else none
  | _ => none

end Call

/-- What `frame_stats_` holds for one kind after the frame events `events`: nothing before
the kind's first event, then the number of its events, their total size and total delay. -/
def frameAggregate (events : List FrameEvent) (type : CastLoggingEvent) : Option FrameLogStats :=
  match events.filter (·.type = type) with
  | [] => none
  | ofType =>
    some ⟨ofType.length, (ofType.map FrameEvent.size).sum, (ofType.map FrameEvent.delayDelta).sum⟩

/-- What `packet_stats_` holds for one kind after the packet events `events`: nothing before
the kind's first event, then the number of its events and their total size. -/
def packetAggregate (events : List PacketEvent) (type : CastLoggingEvent) :
    Option PacketLogStats :=
  match events.filter (·.type = type) with
  | [] => none
  | ofType => some ⟨ofType.length, (ofType.map PacketEvent.size).sum⟩

/-- The playouts `num_frames_late_` counts: those whose delay is not positive. -/
def latePlayouts (events : List FrameEvent) : Nat :=
  (events.filter fun event => event.type = .framePlayout ∧ event.delayDelta ≤ 0).length

/-- The samples `PLAYOUT_DELAY_MS_HISTO` receives: one per playout, its delay in milliseconds
truncated toward zero. -/
def playoutDelaySamples (events : List FrameEvent) : List Int :=
  (events.filter (·.type = .framePlayout)).map fun event => inMillisecondsTruncated event.delayDelta

section Laws

variable (events : List FrameEvent) (event : FrameEvent)

/-- The code's counter update of one more frame event is the aggregate of the longer list. -/
theorem frameAggregate_concat :
    frameAggregate (events ++ [event]) = StatsEventSubscriber.frameStatsAfter (frameAggregate events) event := by
  funext type
  unfold StatsEventSubscriber.frameStatsAfter
  by_cases same : type = event.type
  · subst same
    rw [Function.update_same]
    unfold frameAggregate
    simp only [List.filter_append, List.filter_singleton, decide_True, cond_true]
    cases events.filter (·.type = event.type) <;> simp [add_assoc]
  · rw [Function.update_noteq same]
    simp only [frameAggregate, List.filter_append, List.filter_singleton, Ne.symm same,
      decide_False, cond_false, List.append_nil]

/-- The code's counter update of one more packet event is the aggregate of the longer list. -/
theorem packetAggregate_concat (events : List PacketEvent) (event : PacketEvent) :
    packetAggregate (events ++ [event]) = StatsEventSubscriber.packetStatsAfter (packetAggregate events) event := by
  funext type
  unfold StatsEventSubscriber.packetStatsAfter
  by_cases same : type = event.type
  · subst same
    rw [Function.update_same]
    unfold packetAggregate
    simp only [List.filter_append, List.filter_singleton, decide_True, cond_true]
    cases events.filter (·.type = event.type) <;> simp [add_assoc]
  · rw [Function.update_noteq same]
    simp only [packetAggregate, List.filter_append, List.filter_singleton, Ne.symm same,
      decide_False, cond_false, List.append_nil]

/-- One more frame event counts as late exactly when it is a playout with a delay that is
not positive. -/
theorem latePlayouts_concat :
    latePlayouts (events ++ [event]) =
      latePlayouts events + if event.type = .framePlayout ∧ event.delayDelta ≤ 0 then 1 else 0 := by
  unfold latePlayouts
  rw [List.filter_append, List.length_append, List.filter_singleton]
  split_ifs with late <;> simp [late]

/-- One more frame event adds its delay sample exactly when it is a playout. -/
theorem playoutDelaySamples_concat :
    playoutDelaySamples (events ++ [event]) = playoutDelaySamples events ++
      if event.type = .framePlayout then [inMillisecondsTruncated event.delayDelta] else [] := by
  unfold playoutDelaySamples
  rw [List.filter_append, List.map_append, List.filter_singleton]
  split_ifs with playout <;> simp [playout]

/-- Reading a kind's frame aggregate: nothing before the kind's first event, then the reading
of the count, total size and total delay of its events. -/
theorem frameAggregate_map {α : Type} (type : CastLoggingEvent) (read : FrameLogStats → α) :
    (frameAggregate events type).map read =
      if events.filter (·.type = type) = [] then none else
        some (read ⟨(events.filter (·.type = type)).length,
          ((events.filter (·.type = type)).map FrameEvent.size).sum,
          ((events.filter (·.type = type)).map FrameEvent.delayDelta).sum⟩) := by
  unfold frameAggregate
  cases events.filter (·.type = type) <;> simp

/-- Reading a kind's packet aggregate: nothing before the kind's first event, then the reading
of the count and total size of its events. -/
theorem packetAggregate_map {α : Type} (events : List PacketEvent) (type : CastLoggingEvent)
    (read : PacketLogStats → α) :
    (packetAggregate events type).map read =
      if events.filter (·.type = type) = [] then none else
        some (read ⟨(events.filter (·.type = type)).length,
          ((events.filter (·.type = type)).map PacketEvent.size).sum⟩) := by
  unfold packetAggregate
  cases events.filter (·.type = type) <;> simp

/-- A kind's packet counter, read as zero while unset, counts the kind's events. -/
theorem packetAggregate_count (events : List PacketEvent) (type : CastLoggingEvent) :
    ((packetAggregate events type).map PacketLogStats.eventCounter).getD 0 =
      (events.filter (·.type = type)).length := by
  unfold packetAggregate
  cases events.filter (·.type = type) <;> rfl

end Laws

namespace StatsEventSubscriber

variable (subscriber : StatsEventSubscriber)

/-- `noteEvent` leaves the counters alone. -/
theorem stats_noteEvent (timestamp : TimeTicks) (receiverEvent : Bool) (bounds : OffsetBounds) :
    (subscriber.noteEvent timestamp receiverEvent bounds).frameStats = subscriber.frameStats ∧
      (subscriber.noteEvent timestamp receiverEvent bounds).packetStats = subscriber.packetStats := by
  unfold noteEvent updateFirstLastEventTime updateLastResponseTime
  cases correctedTime timestamp receiverEvent bounds <;> cases receiverEvent <;>
    cases getReceiverOffset bounds <;> exact ⟨rfl, rfl⟩

section Deliveries

variable (kMaxFrameInfoMapSize : Nat) (frameEvent : FrameEvent) (packetEvent : PacketEvent)
  (bounds : OffsetBounds)

/-- A frame delivery of the engine's media type bumps its kind's frame counter and leaves the
packet counters alone. -/
theorem stats_onReceiveFrameEvent (same : frameEvent.mediaType = subscriber.eventMediaType) :
    (subscriber.onReceiveFrameEvent kMaxFrameInfoMapSize frameEvent bounds).frameStats =
        frameStatsAfter subscriber.frameStats frameEvent ∧
      (subscriber.onReceiveFrameEvent kMaxFrameInfoMapSize frameEvent bounds).packetStats =
        subscriber.packetStats :=
  have bookkeeping := onReceiveFrameEvent_bookkeeping subscriber kMaxFrameInfoMapSize frameEvent bounds same
  ⟨(congrArg Bookkeeping.frameStats bookkeeping).trans (stats_noteEvent _ _ _ _).1,
    (congrArg Bookkeeping.packetStats bookkeeping).trans (stats_noteEvent _ _ _ _).2⟩

/-- A packet delivery of the engine's media type bumps its kind's packet counter and leaves
the frame counters alone. -/
theorem stats_onReceivePacketEvent (same : packetEvent.mediaType = subscriber.eventMediaType) :
    (subscriber.onReceivePacketEvent packetEvent bounds).frameStats = subscriber.frameStats ∧
      (subscriber.onReceivePacketEvent packetEvent bounds).packetStats =
        packetStatsAfter subscriber.packetStats packetEvent :=
  have bookkeeping := onReceivePacketEvent_bookkeeping subscriber packetEvent bounds same
  ⟨(congrArg Bookkeeping.frameStats bookkeeping).trans (stats_noteEvent _ _ _ _).1,
    (congrArg Bookkeeping.packetStats bookkeeping).trans (stats_noteEvent _ _ _ _).2⟩

end Deliveries

/-- The fields the playout branch of `OnReceiveFrameEvent` writes: `num_frames_late_` and
`PLAYOUT_DELAY_MS_HISTO`. -/
def playouts : Nat × LatencyHistogram :=
  (subscriber.numFramesLate, subscriber.histograms.playoutDelayMsHisto)

section Recorders

variable (kMaxFrameInfoMapSize : Nat) (frameEvent : FrameEvent) (bounds : OffsetBounds)

theorem playouts_maybeInsertFrameInfo (rtpTimestamp : Nat) (frameInfo : FrameInfo) :
    (subscriber.maybeInsertFrameInfo kMaxFrameInfoMapSize rtpTimestamp frameInfo).playouts =
      subscriber.playouts := by
  unfold maybeInsertFrameInfo
  dsimp only
  split_ifs
  · rfl
  · cases (subscriber.recentFrameInfos.insert rtpTimestamp frameInfo).begin <;> rfl
  · rfl

/-- Only the playout branch writes the playout fields; every other frame recorder leaves
them alone. -/
theorem playouts_recordFrameEvent :
    (subscriber.recordFrameEvent kMaxFrameInfoMapSize frameEvent bounds).playouts =
      if frameEvent.type = .framePlayout then (subscriber.recordPlayoutDelay frameEvent).playouts
      else subscriber.playouts := by
  obtain ⟨timestamp, type, mediaType, rtpTimestamp, size, delayDelta⟩ := frameEvent
  cases type <;> simp only [reduceCtorEq, ↓reduceIte]
  case frameCaptureBegin => exact playouts_maybeInsertFrameInfo _ _ _ _
  case frameCaptureEnd =>
    show (subscriber.recordCaptureLatency _).playouts = _
    unfold recordCaptureLatency
    cases subscriber.recentFrameInfos.find rtpTimestamp
    · rfl
    · dsimp only
      split_ifs <;> rfl
  case frameEncoded =>
    show (subscriber.recordEncodeLatency kMaxFrameInfoMapSize _).playouts = _
    unfold recordEncodeLatency
    cases subscriber.recentFrameInfos.find rtpTimestamp
    · exact playouts_maybeInsertFrameInfo _ _ _ _
    · dsimp only
      split_ifs <;> rfl
  case frameAckSent =>
    show (subscriber.recordFrameTxLatency _ bounds).playouts = _
    unfold recordFrameTxLatency
    cases subscriber.recentFrameInfos.find rtpTimestamp with
    | none => rfl
    | some frameInfo =>
      dsimp only
      split_ifs
      · rfl
      · cases getReceiverOffset bounds <;> rfl
  case framePlayout =>
    show ((subscriber.recordE2ELatency _ bounds).recordPlayoutDelay _).playouts = _
    unfold recordE2ELatency
    cases getReceiverOffset bounds
    · rfl
    · cases subscriber.recentFrameInfos.find rtpTimestamp <;> rfl
  all_goals rfl

/-- A frame delivery of the engine's media type counts a late playout and adds a playout's
delay sample; nothing else touches the two fields. -/
theorem playouts_onReceiveFrameEvent (same : frameEvent.mediaType = subscriber.eventMediaType) :
    (subscriber.onReceiveFrameEvent kMaxFrameInfoMapSize frameEvent bounds).numFramesLate =
        subscriber.numFramesLate +
          (if frameEvent.type = .framePlayout ∧ frameEvent.delayDelta ≤ 0 then 1 else 0) ∧
      (subscriber.onReceiveFrameEvent kMaxFrameInfoMapSize frameEvent bounds).histograms.playoutDelayMsHisto =
        if frameEvent.type = .framePlayout then
          subscriber.histograms.playoutDelayMsHisto.add (inMillisecondsTruncated frameEvent.delayDelta)
        else subscriber.histograms.playoutDelayMsHisto := by
  have recorded : (subscriber.onReceiveFrameEvent kMaxFrameInfoMapSize frameEvent bounds).playouts =
      if frameEvent.type = .framePlayout then (subscriber.recordPlayoutDelay frameEvent).playouts
      else subscriber.playouts :=
    (congrArg playouts (onReceiveFrameEvent_records subscriber kMaxFrameInfoMapSize frameEvent bounds
      same)).trans (playouts_recordFrameEvent _ _ _ _)
  unfold playouts recordPlayoutDelay at recorded
  by_cases playout : frameEvent.type = .framePlayout
  · rw [if_pos playout, Prod.mk.injEq] at recorded
    rw [recorded.1, recorded.2, if_pos playout]
    split_ifs <;> simp_all
  · rw [if_neg playout, Prod.mk.injEq] at recorded
    rw [recorded.1, recorded.2, if_neg playout]
    simp [playout]

end Recorders

/-- A packet delivery leaves the playout fields alone. -/
theorem playouts_onReceivePacketEvent (packetEvent : PacketEvent) (bounds : OffsetBounds) :
    (subscriber.onReceivePacketEvent packetEvent bounds).playouts = subscriber.playouts := by
  by_cases same : packetEvent.mediaType = subscriber.eventMediaType
  · have recorded := congrArg playouts (onReceivePacketEvent_records subscriber packetEvent bounds same)
    have paired := congrArg playouts (recordPacketEvent_eq subscriber packetEvent bounds)
    exact recorded.trans paired
  · rw [onReceivePacketEvent_of_ne _ _ _ same]

/-- The media type, and what the calls of a run delivered since the last `Reset`: the
per-kind statistics are the aggregates of the delivered events, `num_frames_late_` counts
their late playouts, and `PLAYOUT_DELAY_MS_HISTO` counts their playout delays. -/
structure AggregatesEvents (eventMediaType : EventMediaType) (subscriber : StatsEventSubscriber)
    (calls : List Call) : Prop where
  media : subscriber.eventMediaType = eventMediaType
  frames : subscriber.frameStats = frameAggregate (sinceReset (Call.frameEventOf eventMediaType) calls)
  packets : subscriber.packetStats =
    packetAggregate (sinceReset (Call.packetEventOf eventMediaType) calls)
  late : subscriber.numFramesLate = latePlayouts (sinceReset (Call.frameEventOf eventMediaType) calls)
  playoutDelays : SimpleHistogram.Counts 0 kMaxLatencyBucketMs kBucketWidthMs
    subscriber.histograms.playoutDelayMsHisto.histogram
    (playoutDelaySamples (sinceReset (Call.frameEventOf eventMediaType) calls))

/-- A call that delivers nothing keeps the aggregates following the run. -/
theorem AggregatesEvents.undelivered {eventMediaType : EventMediaType} {calls : List Call}
    {call : Call} {after : StatsEventSubscriber}
    (aggregates : AggregatesEvents eventMediaType subscriber calls)
    (media : after.eventMediaType = eventMediaType)
    (same : after.frameStats = subscriber.frameStats ∧ after.packetStats = subscriber.packetStats ∧
      after.playouts = subscriber.playouts)
    (notReset : call.isReset = false) (noFrame : call.frameEventOf eventMediaType = none)
    (noPacket : call.packetEventOf eventMediaType = none) :
    AggregatesEvents eventMediaType after (calls ++ [call]) := by
  obtain ⟨sameFrames, samePackets, samePlayouts⟩ := same
  obtain ⟨sameLate, sameDelays⟩ := Prod.mk.inj samePlayouts
  obtain ⟨-, frames, packets, late, delays⟩ := aggregates
  refine ⟨media, ?_, ?_, ?_, ?_⟩ <;>
    simp only [sinceReset_concat_of_not_reset _ _ _ notReset, noFrame, noPacket,
      Option.toList_none, List.append_nil]
  exacts [sameFrames.trans frames, samePackets.trans packets, sameLate.trans late,
    sameDelays ▸ delays]

variable (kMaxFrameInfoMapSize : Nat)

/-- A delivery of the engine's media type extends the aggregates by its event; any other
call delivers nothing, and `Reset` starts them afresh. -/
theorem aggregatesEvents_step {eventMediaType : EventMediaType} {calls : List Call}
    (aggregates : AggregatesEvents eventMediaType subscriber calls) (call : Call) :
    AggregatesEvents eventMediaType (subscriber.step kMaxFrameInfoMapSize call) (calls ++ [call]) := by
  have media := (eventMediaType_step kMaxFrameInfoMapSize subscriber call).trans aggregates.media
  cases call with
  | frameEvent frameEvent bounds =>
    by_cases same : frameEvent.mediaType = subscriber.eventMediaType
    · obtain ⟨frames, packets⟩ :=
        stats_onReceiveFrameEvent subscriber kMaxFrameInfoMapSize frameEvent bounds same
      obtain ⟨late, delays⟩ :=
        playouts_onReceiveFrameEvent subscriber kMaxFrameInfoMapSize frameEvent bounds same
      have delivered : (Call.frameEvent frameEvent bounds).frameEventOf eventMediaType =
          some frameEvent := if_pos (same.trans aggregates.media)
      have extended : sinceReset (Call.frameEventOf eventMediaType)
          (calls ++ [.frameEvent frameEvent bounds]) =
          sinceReset (Call.frameEventOf eventMediaType) calls ++ [frameEvent] := by
        rw [sinceReset_concat_of_not_reset _ _ (.frameEvent frameEvent bounds) rfl, delivered,
          Option.toList_some]
      refine ⟨media, ?_, ?_, ?_, ?_⟩ <;> simp only [step]
      · rw [frames, extended, frameAggregate_concat, aggregates.frames]
      · rw [packets, sinceReset_concat_of_not_reset _ _ (.frameEvent frameEvent bounds) rfl]
        simpa only [Call.packetEventOf, Option.toList_none, List.append_nil] using aggregates.packets
      · rw [late, extended, latePlayouts_concat, aggregates.late]
      · rw [delays, extended, playoutDelaySamples_concat]
        split_ifs
        · exact SimpleHistogram.counts_add latencyShape aggregates.playoutDelays _
        · rw [List.append_nil]
          exact aggregates.playoutDelays
    · have differs : frameEvent.mediaType ≠ eventMediaType :=
        fun ofMedia => same (ofMedia.trans aggregates.media.symm)
      rw [step, onReceiveFrameEvent_of_ne _ _ _ _ same] at media ⊢
      exact aggregates.undelivered subscriber media ⟨rfl, rfl, rfl⟩ rfl (if_neg differs) rfl
  | packetEvent packetEvent bounds =>
    by_cases same : packetEvent.mediaType = subscriber.eventMediaType
    · obtain ⟨frames, packets⟩ := stats_onReceivePacketEvent subscriber packetEvent bounds same
      obtain ⟨late, delays⟩ :=
        Prod.mk.inj (playouts_onReceivePacketEvent subscriber packetEvent bounds)
      have delivered : (Call.packetEvent packetEvent bounds).packetEventOf eventMediaType =
          some packetEvent := if_pos (same.trans aggregates.media)
      refine ⟨media, ?_, ?_, ?_, ?_⟩ <;>
        simp only [step, sinceReset_concat_of_not_reset _ _ (.packetEvent packetEvent bounds) rfl,
          delivered, Call.frameEventOf, Option.toList_some, Option.toList_none, List.append_nil]
      · rw [frames, aggregates.frames]
      · rw [packets, packetAggregate_concat, aggregates.packets]
      · exact late.trans aggregates.late
      · exact delays ▸ aggregates.playoutDelays
    · have differs : packetEvent.mediaType ≠ eventMediaType :=
        fun ofMedia => same (ofMedia.trans aggregates.media.symm)
      rw [step, onReceivePacketEvent_of_ne _ _ _ same] at media ⊢
      exact aggregates.undelivered subscriber media ⟨rfl, rfl, rfl⟩ rfl rfl (if_neg differs)
  | reset now =>
    rw [step, reset_eq_new] at media ⊢
    refine ⟨media, ?_, ?_, ?_, ?_⟩ <;> rw [sinceReset_concat]
    · rfl
    · rfl
    · rfl
    · exact SimpleHistogram.counts_new latencyShape
  | getStats now => exact aggregates.undelivered subscriber media ⟨rfl, rfl, rfl⟩ rfl rfl rfl

/-- In a run from construction, the per-kind statistics, the late-frame count and the
playout-delay histogram are the batch statistics of the events of the engine's media type
delivered since the last `Reset`. -/
theorem aggregatesEvents_run (eventMediaType : EventMediaType) (now : TimeTicks)
    (calls : List Call) :
    AggregatesEvents eventMediaType (run kMaxFrameInfoMapSize (new eventMediaType now) calls) calls := by
  induction calls using List.reverseRecOn with
  | nil => exact ⟨rfl, rfl, rfl, rfl, SimpleHistogram.counts_new latencyShape⟩
  | append_singleton calls call inductionHypothesis =>
    rw [run_append, run_cons, run_nil]
    exact aggregatesEvents_step _ kMaxFrameInfoMapSize inductionHypothesis call

/-- In a run from construction, `frame_stats_` and `packet_stats_` hold, kind by kind, the
count, the total size and, for frames, the total delay of the events of the engine's media
type delivered since the last `Reset`; `num_frames_late_` is the number of those playouts
with no positive delay, and `PLAYOUT_DELAY_MS_HISTO` prints exactly their delays in
milliseconds. -/
theorem aggregates_run (eventMediaType : EventMediaType) (now : TimeTicks) (calls : List Call) :
    let subscriber := run kMaxFrameInfoMapSize (new eventMediaType now) calls
    let frames := sinceReset (Call.frameEventOf eventMediaType) calls
    subscriber.frameStats = frameAggregate frames ∧
      subscriber.packetStats =
        packetAggregate (sinceReset (Call.packetEventOf eventMediaType) calls) ∧
      subscriber.numFramesLate = latePlayouts frames ∧
      subscriber.histograms.playoutDelayMsHisto.histogram.getHistogram =
        SimpleHistogram.expectedHistogram 0 kMaxLatencyBucketMs kBucketWidthMs
          (playoutDelaySamples frames) :=
  have aggregates := aggregatesEvents_run kMaxFrameInfoMapSize eventMediaType now calls
  ⟨aggregates.frames, aggregates.packets, aggregates.late,
    SimpleHistogram.getHistogram_counts latencyShape aggregates.playoutDelays⟩

end StatsEventSubscriber

end CastTelemetry
