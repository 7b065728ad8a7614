import CastTelemetry.Aggregates
import CastTelemetry.FrameLatency
import CastTelemetry.PacketPairing

/-!
# Sample counts

Every latency sample the subscriber takes is taken by one delivery, and no delivery is
sampled twice.

A network-latency sample joins a send and a receipt under one key, one of them stored in
`packet_sent_times_` and the other delivered, and forgets the stored one. So every send of
the engine's media type since the last `Reset` either went into at most one sample, or
still waits in the map, or is gone (evicted, erased by a retransmission, or never stored),
and likewise every receipt. `Accounted` is that count; `accounted_recordPacketEvent` keeps
it through what a packet recorder can do (`recordPacketEvent_cases`) and
`networkLatency_accounted` over every run. Conversely no pair is lost while the map has room:
a stored send stays in place through every call that neither resets, nor retransmits its key,
nor delivers an answered receipt of it (`waits_step`, `waits_run`), and its receipt then takes
the sample (`networkLatency_paired`).

Each frame-level latency is fed by one kind of frame event, and one event adds at most one
sample, to its own kind's latency (`SamplesBounded.sampleFrame`). Over a run each holds at
most as many samples as there were events of its kind since the last `Reset`
(`frameSamples_bounded`). The end-to-end count loses nothing while the cache has room: with no
more than `kMaxFrameInfoMapSize - 1` frames considered, every considered frame is cached
(`HoldsLargest.find_isSome_of_few`), so every playout of one is counted when the estimator
answers (`endToEnd_sampled`).
-/

namespace CastTelemetry

/-- A call that is not a `Reset` and records nothing leaves what was recorded since the last
`Reset` as it was. -/
theorem sinceReset_concat_of_none {α : Type} (value : Call → Option α) (calls : List Call)
    (call : Call) (notReset : call.isReset = false) (unrecorded : value call = none) :
    sinceReset value (calls ++ [call]) = sinceReset value calls := by
  rw [sinceReset_concat_of_not_reset _ _ _ notReset, unrecorded, Option.toList_none, List.append_nil]

namespace LatencyHistogram

/-- `Add` counts one more sample. -/
theorem sum_add (histogram : LatencyHistogram) (sample : Int) :
    (histogram.add sample).histogram.buckets.sum = histogram.histogram.buckets.sum + 1 := by
  have inside : SimpleHistogram.labelIndex 0 kMaxLatencyBucketMs kBucketWidthMs sample <
      histogram.histogram.buckets.length := by
    rw [histogram.histogram.bucket_count, histogram.latency_shape.1, histogram.latency_shape.2.1,
      histogram.latency_shape.2.2]
    exact SimpleHistogram.labelIndex_lt latencyShape sample
  rw [add_buckets_eq, SimpleHistogram.sum_modify_succ _ _ inside]

@[simp] theorem sum_new : new.histogram.buckets.sum = 0 := rfl

end LatencyHistogram

/-- Each frame-level latency holds at most one sample per event of the kind that feeds it:
capture ends for `CAPTURE_LATENCY_MS_HISTO`, encodes for `ENCODE_LATENCY_MS_HISTO`,
acknowledgements for `FRAME_LATENCY_MS_HISTO` and playouts for `e2e_latency_datapoints_`. -/
structure SamplesBounded (frames : List FrameEvent) (latencies : FrameLatencies) : Prop where
  capture : latencies.captureLatencyMsHisto.histogram.buckets.sum ≤
    frames.countP (·.type = .frameCaptureEnd)
  encode : latencies.encodeLatencyMsHisto.histogram.buckets.sum ≤
    frames.countP (·.type = .frameEncoded)
  frame : latencies.frameLatencyMsHisto.histogram.buckets.sum ≤
    frames.countP (·.type = .frameAckSent)
  endToEnd : latencies.e2eLatencyDatapoints ≤ frames.countP (·.type = .framePlayout)

/-- One more event of a kind counts one more of that kind. -/
theorem countP_concat_of_type {frames : List FrameEvent} {frameEvent : FrameEvent}
    {type : CastLoggingEvent} (kind : frameEvent.type = type) :
    (frames ++ [frameEvent]).countP (·.type = type) = frames.countP (·.type = type) + 1 := by
  rw [List.countP_append, List.countP_singleton, if_pos (decide_eq_true kind)]

/-- A latency within the events of a kind stays within them when one more event of the kind
adds a sample to it. -/
theorem sum_add_le {histogram : LatencyHistogram} {frames : List FrameEvent}
    {frameEvent : FrameEvent} {type : CastLoggingEvent}
    (bounded : histogram.histogram.buckets.sum ≤ frames.countP (·.type = type))
    (kind : frameEvent.type = type) (sample : Int) :
    (histogram.add sample).histogram.buckets.sum ≤ (frames ++ [frameEvent]).countP (·.type = type) := by
  rw [LatencyHistogram.sum_add, countP_concat_of_type kind]
  exact Nat.succ_le_succ bounded

/-- A freshly constructed subscriber holds no frame-level sample. -/
theorem SamplesBounded.initial (eventMediaType : EventMediaType) (now : TimeTicks) :
    SamplesBounded [] (StatsEventSubscriber.new eventMediaType now).frameLatencies :=
  ⟨LatencyHistogram.sum_new.le, LatencyHistogram.sum_new.le, LatencyHistogram.sum_new.le,
    Nat.le_refl 0⟩

namespace SamplesBounded

variable {frames : List FrameEvent} {latencies : FrameLatencies}
  (bounded : SamplesBounded frames latencies)
include bounded

/-- An event that samples nothing keeps the bounds. -/
theorem unsampled (frameEvent : FrameEvent) : SamplesBounded (frames ++ [frameEvent]) latencies := by
  obtain ⟨capture, encode, frame, endToEnd⟩ := bounded
  refine ⟨?_, ?_, ?_, ?_⟩ <;> rw [List.countP_append] <;> omega

/-- A frame event adds at most one sample, to the latency its own kind feeds. -/
theorem sampleFrame (frameEvent : FrameEvent) (bounds : OffsetBounds) (entry : Option FrameInfo) :
    SamplesBounded (frames ++ [frameEvent]) (sampleFrame frameEvent bounds latencies entry) := by
  have kept := bounded.unsampled frameEvent
  cases entry with
  | none => exact kept
  | some frameInfo =>
    dsimp only [CastTelemetry.sampleFrame]
    split
    next captureEnd =>
      split_ifs
      exacts [⟨sum_add_le bounded.capture captureEnd _, kept.encode, kept.frame, kept.endToEnd⟩, kept]
    next encoded =>
      split_ifs
      exacts [⟨kept.capture, sum_add_le bounded.encode encoded _, kept.frame, kept.endToEnd⟩, kept]
    next acknowledged =>
      split
      · split_ifs
        exacts [kept,
          ⟨kept.capture, kept.encode, sum_add_le bounded.frame acknowledged _, kept.endToEnd⟩]
      · exact kept
    next playout =>
      split
      · exact ⟨kept.capture, kept.encode, kept.frame,
          (countP_concat_of_type playout).symm ▸ Nat.succ_le_succ bounded.endToEnd⟩
      · exact kept
    next => exact kept

end SamplesBounded

/-- Whether a call leaves a send waiting under `key` in `packet_sent_times_` of a subscriber of
the given media type where it is: a `Reset` empties the map, a retransmission of the key erases
the entry, and a receipt of the key for which the estimator answers pairs it. -/
def Call.keepsWaiting (eventMediaType : EventMediaType) (key : PacketKey) : Call → Bool
  | .packetEvent event bounds =>
    !(event.mediaType = eventMediaType ∧ event.key = key ∧
      (event.type = .packetRetransmitted ∨
        event.type = .packetReceived ∧ (getReceiverOffset bounds).isSome))
  | .reset _ => false
  | _ => true

namespace StatsEventSubscriber

section Network

/-- The deliveries of one kind waiting in the pairing map for their other half. -/
def waiting (type : CastLoggingEvent) (pairing : Pairing) : Nat :=
  pairing.packetSentTimes.countValues fun value => value.2 = type

/-- The kinds `RecordNetworkLatency` pairs: sends and receipts. -/
def PairedKind (type : CastLoggingEvent) : Prop :=
  type = .packetSentToNetwork ∨ type = .packetReceived

/-- No delivery of a paired kind is used twice: the samples and the deliveries of the kind
still waiting are at most the deliveries of the kind. -/
def Accounted (packets : List PacketEvent) (type : CastLoggingEvent) (pairing : Pairing) : Prop :=
  pairing.networkLatencyDatapoints + waiting type pairing ≤ packets.countP (·.type = type)

/-- A sample joins a send and a receipt, one stored and one delivered: of a paired kind, it
is either the stored entry's or the delivered event's. -/
theorem pairTimes_kind {recordedTime : TimeTicks} {recordedType type : CastLoggingEvent}
    {packetEvent : PacketEvent} {times : TimeTicks × TimeTicks}
    (paired : pairTimes recordedTime recordedType packetEvent = some times) (kind : PairedKind type) :
    recordedType = type ∨ packetEvent.type = type := by
  unfold pairTimes at paired
  split_ifs at paired with sentFirst receivedFirst <;> rcases kind with rfl | rfl
  exacts [.inl sentFirst.1, .inr sentFirst.2, .inr receivedFirst.2, .inl receivedFirst.1]

/-- Storing an entry adds at most that entry to the values passing a test. -/
theorem countValues_storeSentTime_le (test : TimeTicks × CastLoggingEvent → Bool)
    (map : OrderedMap PacketKey (TimeTicks × CastLoggingEvent)) (key : PacketKey)
    (entry : TimeTicks × CastLoggingEvent) :
    (storeSentTime map key entry).countValues test ≤
      map.countValues test + if test entry then 1 else 0 := by
  have inserted := OrderedMap.countValues_insert_le test map key entry
  unfold storeSentTime
  dsimp only
  split
  · exact (OrderedMap.countValues_eraseBegin_le _ _).trans inserted
  · exact inserted

variable (subscriber : StatsEventSubscriber) (packetEvent : PacketEvent) (bounds : OffsetBounds)

/-- The packet recorder keeps every paired kind accounted for, with its event delivered. -/
theorem accounted_recordPacketEvent {packets : List PacketEvent} {type : CastLoggingEvent}
    (kind : PairedKind type) (accounted : Accounted packets type subscriber.pairing) :
    Accounted (packets ++ [packetEvent]) type
      (subscriber.recordPacketEvent packetEvent bounds).pairing := by
  unfold Accounted waiting at accounted ⊢
  simp only [List.countP_append, List.countP_singleton, decide_eq_true_eq]
  dsimp only [pairing] at accounted
  rcases recordPacketEvent_cases subscriber packetEvent bounds with
    kept | ⟨-, stored⟩ | ⟨offset, recorded, sent, received, -, found, paired, sampled⟩ | erased
  · rw [kept]
    dsimp only [pairing]
    omega
  · have added := countValues_storeSentTime_le (fun value => value.2 = type) subscriber.packetSentTimes
      packetEvent.key (packetEvent.timestamp, packetEvent.type)
    simp only [decide_eq_true_eq] at added
    rw [stored]
    dsimp only [pairing]
    omega
  · rw [sampled]
    dsimp only
    rcases pairTimes_kind paired kind with storedKind | deliveredKind
    · have removed := OrderedMap.countValues_erase_found (fun value : TimeTicks × CastLoggingEvent =>
        value.2 = type) found (decide_eq_true storedKind)
      omega
    · have erased := OrderedMap.countValues_erase_le (fun value : TimeTicks × CastLoggingEvent =>
        value.2 = type) subscriber.packetSentTimes packetEvent.key
      simp only [deliveredKind, if_true]
      omega
  · have removed := OrderedMap.countValues_erase_le (fun value : TimeTicks × CastLoggingEvent =>
      value.2 = type) subscriber.packetSentTimes packetEvent.key
    rw [erased]
    dsimp only [pairing]
    omega

variable (kMaxFrameInfoMapSize : Nat)

/-- Every call keeps every paired kind accounted for over the packets delivered since the
last `Reset`. -/
theorem accounted_step {eventMediaType : EventMediaType} {calls : List Call} {type : CastLoggingEvent}
    (kind : PairedKind type) (media : subscriber.eventMediaType = eventMediaType)
    (accounted : Accounted (sinceReset (Call.packetEventOf eventMediaType) calls) type subscriber.pairing)
    (call : Call) :
    Accounted (sinceReset (Call.packetEventOf eventMediaType) (calls ++ [call])) type
      (subscriber.step kMaxFrameInfoMapSize call).pairing := by
  cases notReset : call.isReset
  · rw [sinceReset_concat_of_not_reset _ _ _ notReset]
    rcases pairing_step subscriber kMaxFrameInfoMapSize call with
      unchanged | ⟨packetEvent, bounds, rfl, same, recorded⟩ | ⟨now, rfl⟩
    · unfold Accounted at accounted ⊢
      rw [unchanged, List.countP_append]
      omega
    · rw [recorded, show (Call.packetEvent packetEvent bounds).packetEventOf eventMediaType =
        some packetEvent from if_pos (same.trans media), Option.toList_some]
      exact accounted_recordPacketEvent subscriber packetEvent bounds kind accounted
    · cases notReset
  · cases call with
    | reset now =>
      rw [sinceReset_concat, if_pos notReset, step, reset_eq_new]
      exact Nat.le_refl 0
    | _ => cases notReset

/-- In a run from construction, every paired kind is accounted for over the packets delivered
since the last `Reset`. -/
theorem accounted_run (eventMediaType : EventMediaType) (now : TimeTicks) (calls : List Call)
    {type : CastLoggingEvent} (kind : PairedKind type) :
    Accounted (sinceReset (Call.packetEventOf eventMediaType) calls) type
      (run kMaxFrameInfoMapSize (new eventMediaType now) calls).pairing := by
  induction calls using List.reverseRecOn with
  | nil => exact Nat.le_refl 0
  | append_singleton calls call inductionHypothesis =>
    rw [run_append, run_cons, run_nil]
    exact accounted_step _ kMaxFrameInfoMapSize kind (eventMediaType_run _ _ _) inductionHypothesis call

/-- Network-latency samples never use a delivery twice. In every run from construction,
`network_latency_datapoints_` plus the sends still waiting in `packet_sent_times_` is at most
the number of `PACKET_SENT_TO_NETWORK` deliveries of the engine's media type since the last
`Reset`, and the same holds for receipts; so `AVG_NETWORK_LATENCY_MS` never averages more
samples than the `NUM_PACKETS_SENT` counter holds. -/
theorem networkLatency_accounted (eventMediaType : EventMediaType) (now : TimeTicks)
    (calls : List Call) :
    let subscriber := run kMaxFrameInfoMapSize (new eventMediaType now) calls
    let packets := sinceReset (Call.packetEventOf eventMediaType) calls
    subscriber.networkLatencyDatapoints + waiting .packetSentToNetwork subscriber.pairing ≤
        packets.countP (·.type = .packetSentToNetwork) ∧
      subscriber.networkLatencyDatapoints + waiting .packetReceived subscriber.pairing ≤
        packets.countP (·.type = .packetReceived) ∧
      subscriber.networkLatencyDatapoints ≤
        ((subscriber.packetStats .packetSentToNetwork).map PacketLogStats.eventCounter).getD 0 := by
  have sends := accounted_run kMaxFrameInfoMapSize eventMediaType now calls
    (show PairedKind .packetSentToNetwork from .inl rfl)
  have counted := packetAggregate_count (sinceReset (Call.packetEventOf eventMediaType) calls)
    .packetSentToNetwork
  rw [← (aggregatesEvents_run kMaxFrameInfoMapSize eventMediaType now calls).packets,
    ← List.countP_eq_length_filter] at counted
  exact ⟨sends, accounted_run kMaxFrameInfoMapSize eventMediaType now calls (.inr rfl),
    (Nat.le_add_right _ _).trans (sends.trans counted.ge)⟩

end Network

section Completeness

variable (subscriber : StatsEventSubscriber) {key : PacketKey} {time : TimeTicks}

/-- A waiting send pairs only with a receipt. -/
theorem pairTimes_sent {packetEvent : PacketEvent} {times : TimeTicks × TimeTicks}
    (paired : pairTimes time .packetSentToNetwork packetEvent = some times) :
    packetEvent.type = .packetReceived := by
  unfold pairTimes at paired
  split_ifs at paired with sentFirst receivedFirst
  · exact sentFirst.2
  · exact absurd receivedFirst.1 (by decide)

/-- The packet recorder keeps a waiting send in place unless the event retransmits its key or
is a receipt of its key the estimator answers for; it adds at most one entry, and evicts
nothing while there is room. -/
theorem waits_recordPacketEvent (packetEvent : PacketEvent) (bounds : OffsetBounds)
    (waits : subscriber.packetSentTimes.find key = some (time, .packetSentToNetwork))
    (room : subscriber.packetSentTimes.size < kMaxPacketEventTimeMapSize)
    (keeps : ¬(packetEvent.key = key ∧ (packetEvent.type = .packetRetransmitted ∨
      packetEvent.type = .packetReceived ∧ (getReceiverOffset bounds).isSome))) :
    (subscriber.recordPacketEvent packetEvent bounds).packetSentTimes.find key =
        some (time, .packetSentToNetwork) ∧
      (subscriber.recordPacketEvent packetEvent bounds).packetSentTimes.size ≤
        subscriber.packetSentTimes.size + 1 := by
  have erased : packetEvent.key ≠ key →
      (subscriber.packetSentTimes.erase packetEvent.key).find key = some (time, .packetSentToNetwork) ∧
        (subscriber.packetSentTimes.erase packetEvent.key).size ≤ subscriber.packetSentTimes.size + 1 :=
    fun differs => ⟨(OrderedMap.find_erase _ _ _).trans ((if_neg (Ne.symm differs)).trans waits),
      (OrderedMap.size_erase_le _ _).trans (Nat.le_succ _)⟩
  unfold recordPacketEvent
  split_ifs with pairs retransmitted
  · unfold recordNetworkLatency
    cases answered : getReceiverOffset bounds with
    | none => exact ⟨waits, Nat.le_succ _⟩
    | some offset =>
      dsimp only
      cases found : subscriber.packetSentTimes.find packetEvent.key with
      | none =>
        have differs : packetEvent.key ≠ key := fun same => by
          rw [same, waits] at found
          cases found
        have grown := OrderedMap.size_insert_of_absent (packetEvent.timestamp, packetEvent.type) found
        dsimp only
        rw [if_neg (by omega)]
        exact ⟨(OrderedMap.find_insert _ _ _ _).trans ((if_neg (Ne.symm differs)).trans waits),
          grown.le⟩
      | some recorded =>
        obtain ⟨recordedTime, recordedType⟩ := recorded
        dsimp only
        cases sampled : pairTimes recordedTime recordedType packetEvent with
        | none => exact ⟨waits, Nat.le_succ _⟩
        | some times =>
          refine erased fun same => keeps ⟨same, .inr ⟨?_, by rw [answered]; rfl⟩⟩
          rw [same, waits] at found
          cases found
          exact pairTimes_sent sampled
  · exact erased fun same => keeps ⟨same, .inl retransmitted⟩
  · exact ⟨waits, Nat.le_succ _⟩

/-- A send or a receipt the estimator answers for, under a key with no entry, is stored, and
nothing is evicted while there is room. -/
theorem stored_recordPacketEvent (packetEvent : PacketEvent) (bounds : OffsetBounds)
    (pairs : packetEvent.type = .packetSentToNetwork ∨ packetEvent.type = .packetReceived)
    (answered : (getReceiverOffset bounds).isSome)
    (fresh : subscriber.packetSentTimes.find packetEvent.key = none)
    (room : subscriber.packetSentTimes.size < kMaxPacketEventTimeMapSize) :
    (subscriber.recordPacketEvent packetEvent bounds).packetSentTimes.find packetEvent.key =
        some (packetEvent.timestamp, packetEvent.type) ∧
      (subscriber.recordPacketEvent packetEvent bounds).packetSentTimes.size =
        subscriber.packetSentTimes.size + 1 := by
  obtain ⟨offset, answer⟩ := Option.isSome_iff_exists.mp answered
  have grown := OrderedMap.size_insert_of_absent (packetEvent.timestamp, packetEvent.type) fresh
  unfold recordPacketEvent recordNetworkLatency
  rw [if_pos pairs]
  simp only [answer, fresh]
  rw [if_neg (by omega)]
  exact ⟨by rw [OrderedMap.find_insert, if_pos rfl, fresh]; rfl, grown⟩

/-- A receipt the estimator answers for, under the key of a waiting send, takes the sample
`(r - offset) - s` and forgets the send. -/
theorem pairing_recordPacketEvent_of_waiting (packetEvent : PacketEvent) (bounds : OffsetBounds)
    (offset : TimeDelta) (receiving : packetEvent.type = .packetReceived)
    (answered : getReceiverOffset bounds = some offset)
    (waits : subscriber.packetSentTimes.find packetEvent.key = some (time, .packetSentToNetwork)) :
    (subscriber.recordPacketEvent packetEvent bounds).pairing =
      ⟨subscriber.packetSentTimes.erase packetEvent.key,
        subscriber.totalNetworkLatency + (packetEvent.timestamp - offset - time),
        subscriber.networkLatencyDatapoints + 1,
        subscriber.histograms.packetLatencyMsHisto.add
          (inMillisecondsTruncated (packetEvent.timestamp - offset - time))⟩ := by
  unfold recordPacketEvent recordNetworkLatency
  rw [if_pos (.inr receiving)]
  simp only [answered, waits, pairTimes, receiving, and_self, if_true]
  rfl

variable (kMaxFrameInfoMapSize : Nat)

/-- A call that keeps a waiting send leaves it in place, and adds at most one entry, only when
it delivers a packet event. -/
theorem waits_step (call : Call)
    (waits : subscriber.packetSentTimes.find key = some (time, .packetSentToNetwork))
    (room : subscriber.packetSentTimes.size +
      (call.packetEventOf subscriber.eventMediaType).toList.length ≤ kMaxPacketEventTimeMapSize)
    (keeps : call.keepsWaiting subscriber.eventMediaType key) :
    (subscriber.step kMaxFrameInfoMapSize call).packetSentTimes.find key =
        some (time, .packetSentToNetwork) ∧
      (subscriber.step kMaxFrameInfoMapSize call).packetSentTimes.size ≤
        subscriber.packetSentTimes.size + (call.packetEventOf subscriber.eventMediaType).toList.length := by
  change (subscriber.step kMaxFrameInfoMapSize call).pairing.packetSentTimes.find key = _ ∧
    (subscriber.step kMaxFrameInfoMapSize call).pairing.packetSentTimes.size ≤ _
  rcases pairing_step subscriber kMaxFrameInfoMapSize call with
    unchanged | ⟨packetEvent, bounds, rfl, same, recorded⟩ | ⟨now, rfl⟩
  · rw [unchanged]
    exact ⟨waits, Nat.le_add_right _ _⟩
  · rw [recorded, show (Call.packetEvent packetEvent bounds).packetEventOf subscriber.eventMediaType =
      some packetEvent from if_pos same] at *
    simp only [Call.keepsWaiting, same, true_and, Bool.not_eq_true', decide_eq_false_iff_not] at keeps
    exact waits_recordPacketEvent subscriber packetEvent bounds waits room keeps
  · cases keeps

/-- Calls that all keep a waiting send leave it in place while the packet deliveries among
them fit in the room left in the map. -/
theorem waits_run (between : List Call) :
    ∀ {subscriber : StatsEventSubscriber},
      subscriber.packetSentTimes.find key = some (time, .packetSentToNetwork) →
      subscriber.packetSentTimes.size +
          (between.filterMap (Call.packetEventOf subscriber.eventMediaType)).length ≤
        kMaxPacketEventTimeMapSize →
      (∀ call ∈ between, call.keepsWaiting subscriber.eventMediaType key) →
      (run kMaxFrameInfoMapSize subscriber between).packetSentTimes.find key =
        some (time, .packetSentToNetwork) := by
  induction between with
  | nil => exact fun waits _ _ => waits
  | cons call rest inductionHypothesis =>
    intro subscriber waits room keeps
    have counted : ((call :: rest).filterMap (Call.packetEventOf subscriber.eventMediaType)).length =
        (call.packetEventOf subscriber.eventMediaType).toList.length +
          (rest.filterMap (Call.packetEventOf subscriber.eventMediaType)).length := by
      rw [List.filterMap_cons]
      cases call.packetEventOf subscriber.eventMediaType <;> simp [Nat.add_comm]
    obtain ⟨stays, grown⟩ := waits_step subscriber kMaxFrameInfoMapSize call waits (by omega)
      (keeps call (List.mem_cons_self _ _))
    have media := eventMediaType_step kMaxFrameInfoMapSize subscriber call
    rw [run_cons]
    refine inductionHypothesis stays (by rw [media]; omega) fun other member => ?_
    rw [media]
    exact keeps other (List.mem_cons_of_mem _ member)

/-- Network latency loses no pair while the map has room. From any state, take a send and
later a receipt of one key, both of the engine's media type and answered by the estimator,
with no entry under the key when the send arrives. Suppose that between them there is no
`Reset`, no retransmission of the key and no answered receipt of it, and that the packet
deliveries between them fit in the room the map has left. Then the receipt takes one sample,
`(r - offset) - s` with the estimator's answer during the receipt. -/
theorem networkLatency_paired (sent received : PacketEvent) (sentBounds receivedBounds : OffsetBounds)
    (offset : TimeDelta) (between : List Call) (sending : sent.type = .packetSentToNetwork)
    (receiving : received.type = .packetReceived)
    (media : sent.mediaType = subscriber.eventMediaType ∧
      received.mediaType = subscriber.eventMediaType)
    (sameKey : received.key = sent.key) (fresh : subscriber.packetSentTimes.find sent.key = none)
    (sentAnswered : (getReceiverOffset sentBounds).isSome)
    (receivedAnswered : getReceiverOffset receivedBounds = some offset)
    (room : subscriber.packetSentTimes.size +
        (between.filterMap (Call.packetEventOf subscriber.eventMediaType)).length <
      kMaxPacketEventTimeMapSize)
    (keeps : ∀ call ∈ between, call.keepsWaiting subscriber.eventMediaType sent.key) :
    let waiting := run kMaxFrameInfoMapSize subscriber (.packetEvent sent sentBounds :: between)
    let paired := waiting.step kMaxFrameInfoMapSize (.packetEvent received receivedBounds)
    paired.networkLatencyDatapoints = waiting.networkLatencyDatapoints + 1 ∧
      paired.totalNetworkLatency =
        waiting.totalNetworkLatency + (received.timestamp - offset - sent.timestamp) ∧
      paired.histograms.packetLatencyMsHisto = waiting.histograms.packetLatencyMsHisto.add
        (inMillisecondsTruncated (received.timestamp - offset - sent.timestamp)) := by
  have recorded := congrArg packetSentTimes
    (onReceivePacketEvent_records subscriber sent sentBounds media.1)
  have afterSend :
      (subscriber.step kMaxFrameInfoMapSize (.packetEvent sent sentBounds)).packetSentTimes =
        (subscriber.recordPacketEvent sent sentBounds).packetSentTimes := recorded
  obtain ⟨stored, grown⟩ :=
    stored_recordPacketEvent subscriber sent sentBounds (.inl sending) sentAnswered fresh (by omega)
  rw [← afterSend, sending] at stored
  rw [← afterSend] at grown
  have sentMedia := eventMediaType_step kMaxFrameInfoMapSize subscriber (.packetEvent sent sentBounds)
  have waits := waits_run kMaxFrameInfoMapSize between stored (by rw [sentMedia, grown]; omega)
    (by rw [sentMedia]; exact keeps)
  have receivedMedia : received.mediaType =
      (run kMaxFrameInfoMapSize subscriber (.packetEvent sent sentBounds :: between)).eventMediaType :=
    media.2.trans (eventMediaType_run kMaxFrameInfoMapSize subscriber _).symm
  have sampled := (congrArg pairing (onReceivePacketEvent_records _ received receivedBounds
    receivedMedia)).trans (pairing_recordPacketEvent_of_waiting _ received receivedBounds offset
      receiving receivedAnswered (by rw [sameKey]; exact waits))
  exact ⟨congrArg (·.networkLatencyDatapoints) sampled, congrArg (·.totalNetworkLatency) sampled,
    congrArg (·.packetLatencyMsHisto) sampled⟩

/-- A send of packet `(1, 1)`, a send of packet `(1, 2)`, then the receipt of packet `(1, 1)`,
all with the offset known: the receipt takes one sample. -/
theorem networkLatency_paired_send_receipt :
    (new .audioEvent 0).packetSentTimes.find
        (⟨5, .packetSentToNetwork, .audioEvent, 1, 1, 100⟩ : PacketEvent).key = none ∧
      (new .audioEvent 0).packetSentTimes.size +
          ([Call.packetEvent ⟨6, .packetSentToNetwork, .audioEvent, 1, 2, 100⟩ (some (1, 1))].filterMap
            (Call.packetEventOf .audioEvent)).length < kMaxPacketEventTimeMapSize ∧
      let waiting := run 10 (new .audioEvent 0)
        [.packetEvent ⟨5, .packetSentToNetwork, .audioEvent, 1, 1, 100⟩ (some (1, 1)),
          .packetEvent ⟨6, .packetSentToNetwork, .audioEvent, 1, 2, 100⟩ (some (1, 1))]
      let paired := waiting.step 10
        (.packetEvent ⟨9, .packetReceived, .audioEvent, 1, 1, 100⟩ (some (1, 1)))
      paired.networkLatencyDatapoints = waiting.networkLatencyDatapoints + 1 ∧
        paired.totalNetworkLatency = waiting.totalNetworkLatency + (9 - 1 - 5) ∧
        paired.histograms.packetLatencyMsHisto =
          waiting.histograms.packetLatencyMsHisto.add (inMillisecondsTruncated (9 - 1 - 5)) :=
  ⟨rfl, by decide, networkLatency_paired (new .audioEvent 0) 10
    ⟨5, .packetSentToNetwork, .audioEvent, 1, 1, 100⟩ ⟨9, .packetReceived, .audioEvent, 1, 1, 100⟩
    (some (1, 1)) (some (1, 1)) 1
    [.packetEvent ⟨6, .packetSentToNetwork, .audioEvent, 1, 2, 100⟩ (some (1, 1))]
    rfl rfl ⟨rfl, rfl⟩ rfl rfl rfl rfl (by decide) (by decide)⟩

end Completeness

section Frames

variable (subscriber : StatsEventSubscriber)

/-- A packet delivery leaves the frame latencies alone. -/
theorem frameLatencies_onReceivePacketEvent (packetEvent : PacketEvent) (bounds : OffsetBounds) :
    (subscriber.onReceivePacketEvent packetEvent bounds).frameLatencies = subscriber.frameLatencies := by
  by_cases same : packetEvent.mediaType = subscriber.eventMediaType
  · have recorded := congrArg frameLatencies
      (onReceivePacketEvent_records subscriber packetEvent bounds same)
    rw [recordPacketEvent_eq] at recorded
    exact recorded
  · rw [onReceivePacketEvent_of_ne _ _ _ same]

/-- While no more than `kMaxFrameInfoMapSize - 1` frames were considered, the cache holds
every one of them: a lacked frame would leave the cache full with fewer keys than that. -/
theorem HoldsLargest.find_isSome_of_few {kMaxFrameInfoMapSize : Nat} {cache : OrderedMap Nat FrameInfo}
    {inserted : List Nat}
    (holds : HoldsLargest kMaxFrameInfoMapSize cache inserted)
    (few : inserted.dedup.length ≤ kMaxFrameInfoMapSize - 1) {rtpTimestamp : Nat}
    (considered : rtpTimestamp ∈ inserted) : (cache.find rtpTimestamp).isSome := by
  cases found : cache.find rtpTimestamp with
  | some => rfl
  | none =>
    exfalso
    have full := holds.full rtpTimestamp considered found
    have within : cache.keys ⊆ inserted.dedup.erase rtpTimestamp := fun key member => by
      have present := (cache.find_isSome_iff key).mpr member
      refine (List.mem_erase_of_ne fun same => ?_).mpr (List.mem_dedup.mpr (holds.subset key present))
      rw [same, found] at present
      exact Bool.false_ne_true present
    have counted := (List.subperm_of_subset cache.sorted.nodup within).length_le
    rw [List.length_erase_of_mem (List.mem_dedup.mpr considered)] at counted
    have sized : (cache.entries.map Prod.fst).length = cache.size := List.length_map _ _
    have nonempty := List.length_pos_of_mem (List.mem_dedup.mpr considered)
    omega

variable (kMaxFrameInfoMapSize : Nat)

/-- Every call keeps the frame latencies within the frame events delivered since the last
`Reset`. -/
theorem samplesBounded_step {eventMediaType : EventMediaType} {calls : List Call}
    (media : subscriber.eventMediaType = eventMediaType)
    (bounded : SamplesBounded (sinceReset (Call.frameEventOf eventMediaType) calls)
      subscriber.frameLatencies) (call : Call) :
    SamplesBounded (sinceReset (Call.frameEventOf eventMediaType) (calls ++ [call]))
      (subscriber.step kMaxFrameInfoMapSize call).frameLatencies := by
  cases call with
  | frameEvent frameEvent bounds =>
    by_cases same : frameEvent.mediaType = subscriber.eventMediaType
    · rw [sinceReset_concat_of_not_reset _ _ (.frameEvent frameEvent bounds) rfl,
        frameLatencies_step kMaxFrameInfoMapSize subscriber frameEvent bounds same,
        show (Call.frameEvent frameEvent bounds).frameEventOf eventMediaType = some frameEvent from
          if_pos (same.trans media), Option.toList_some]
      exact bounded.sampleFrame frameEvent bounds _
    · rw [sinceReset_concat_of_none _ _ (.frameEvent frameEvent bounds) rfl
          (if_neg fun ofMedia => same (ofMedia.trans media.symm)),
        step, onReceiveFrameEvent_of_ne _ _ _ _ same]
      exact bounded
  | packetEvent packetEvent bounds =>
    rw [sinceReset_concat_of_none _ _ (.packetEvent packetEvent bounds) rfl rfl, step,
      frameLatencies_onReceivePacketEvent]
    exact bounded
  | reset now =>
    rw [sinceReset_concat, step, reset_eq_new]
    exact SamplesBounded.initial _ now
  | getStats now =>
    rw [sinceReset_concat_of_none _ _ (.getStats now) rfl rfl]
    exact bounded

/-- In a run from construction, the frame latencies stay within the frame events delivered
since the last `Reset`. -/
theorem samplesBounded_run (eventMediaType : EventMediaType) (now : TimeTicks) (calls : List Call) :
    SamplesBounded (sinceReset (Call.frameEventOf eventMediaType) calls)
      (run kMaxFrameInfoMapSize (new eventMediaType now) calls).frameLatencies := by
  induction calls using List.reverseRecOn with
  | nil => exact SamplesBounded.initial eventMediaType now
  | append_singleton calls call inductionHypothesis =>
    rw [run_append, run_cons, run_nil]
    exact @samplesBounded_step _ kMaxFrameInfoMapSize eventMediaType calls (eventMediaType_run _ _ _)
      inductionHypothesis call

/-- Frame-level latencies never sample an event twice. In every run from construction,
`CAPTURE_LATENCY_MS_HISTO` holds at most as many samples as there were `FRAME_CAPTURE_END`
events of the engine's media type since the last `Reset`, `ENCODE_LATENCY_MS_HISTO` at most
as many as `FRAME_ENCODED` events, `FRAME_LATENCY_MS_HISTO` at most as many as
`FRAME_ACK_SENT` events, and `e2e_latency_datapoints_` is at most the number of
`FRAME_PLAYOUT` events. -/
theorem frameSamples_bounded (eventMediaType : EventMediaType) (now : TimeTicks) (calls : List Call) :
    let subscriber := run kMaxFrameInfoMapSize (new eventMediaType now) calls
    let frames := sinceReset (Call.frameEventOf eventMediaType) calls
    subscriber.histograms.captureLatencyMsHisto.histogram.buckets.sum ≤
        frames.countP (·.type = .frameCaptureEnd) ∧
      subscriber.histograms.encodeLatencyMsHisto.histogram.buckets.sum ≤
        frames.countP (·.type = .frameEncoded) ∧
      subscriber.histograms.frameLatencyMsHisto.histogram.buckets.sum ≤
        frames.countP (·.type = .frameAckSent) ∧
      subscriber.e2eLatencyDatapoints ≤ frames.countP (·.type = .framePlayout) :=
  have bounded := samplesBounded_run kMaxFrameInfoMapSize eventMediaType now calls
  ⟨bounded.capture, bounded.encode, bounded.frame, bounded.endToEnd⟩

/-- No playout is lost while the cache has room. In a run from construction, a playout of the
engine's media type for a frame considered since the last `Reset` adds one end-to-end
datapoint whenever the estimator answers and no more than `kMaxFrameInfoMapSize - 1` frames
were considered since the last `Reset`. -/
theorem endToEnd_sampled (eventMediaType : EventMediaType) (now : TimeTicks) (calls : List Call)
    (playout : FrameEvent) (bounds : OffsetBounds) (media : playout.mediaType = eventMediaType)
    (isPlayout : playout.type = .framePlayout)
    (considered : playout.rtpTimestamp ∈ sinceReset (Call.insertedFrame eventMediaType) calls)
    (few : (sinceReset (Call.insertedFrame eventMediaType) calls).dedup.length ≤
      kMaxFrameInfoMapSize - 1)
    (answered : (getReceiverOffset bounds).isSome) :
    ((run kMaxFrameInfoMapSize (new eventMediaType now) calls).step kMaxFrameInfoMapSize
        (.frameEvent playout bounds)).e2eLatencyDatapoints =
      (run kMaxFrameInfoMapSize (new eventMediaType now) calls).e2eLatencyDatapoints + 1 := by
  obtain ⟨frameInfo, found⟩ :=
    Option.isSome_iff_exists.mp ((holdsLargest_run eventMediaType now calls).find_isSome_of_few few
      considered)
  obtain ⟨offset, offsetFound⟩ := Option.isSome_iff_exists.mp answered
  have ofMedia :
      playout.mediaType = (run kMaxFrameInfoMapSize (new eventMediaType now) calls).eventMediaType :=
    media.trans (eventMediaType_run kMaxFrameInfoMapSize (new eventMediaType now) calls).symm
  have sampled := congrArg FrameLatencies.e2eLatencyDatapoints
    (frameLatencies_step kMaxFrameInfoMapSize _ playout bounds ofMedia)
  rw [found] at sampled
  simp only [sampleFrame, isPlayout, offsetFound] at sampled
  exact sampled

/-- A capture begin of frame 7 and then its playout with the offset known, on a cache of
three entries: the playout adds one end-to-end datapoint. -/
theorem endToEnd_sampled_after_capture :
    7 ∈ sinceReset (Call.insertedFrame .videoEvent)
        [.frameEvent ⟨10, .frameCaptureBegin, .videoEvent, 7, 0, 0⟩ none] ∧
      (sinceReset (Call.insertedFrame .videoEvent)
        [.frameEvent ⟨10, .frameCaptureBegin, .videoEvent, 7, 0, 0⟩ none]).dedup.length ≤ 3 - 1 ∧
      ((run 3 (new .videoEvent 0)
          [.frameEvent ⟨10, .frameCaptureBegin, .videoEvent, 7, 0, 0⟩ none]).step 3
          (.frameEvent ⟨20, .framePlayout, .videoEvent, 7, 0, 5⟩ (some (1, 1)))).e2eLatencyDatapoints =
        (run 3 (new .videoEvent 0)
          [.frameEvent ⟨10, .frameCaptureBegin, .videoEvent, 7, 0, 0⟩ none]).e2eLatencyDatapoints + 1 :=
  ⟨by decide, by decide, endToEnd_sampled 3 .videoEvent 0 _ _ _ rfl rfl (by decide) (by decide) rfl⟩

end Frames

end StatsEventSubscriber

end CastTelemetry
