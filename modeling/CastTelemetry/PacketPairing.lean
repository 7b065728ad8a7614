import CastTelemetry.Run

/-!
# The packet pairing map

`RecordNetworkLatency` keeps, for each (rtp timestamp, packet id), the first of a send and
a receipt it has seen; when the other arrives it takes one network-latency sample and forgets
the key. A retransmission forgets the key too, since a retransmitted packet has no single
send to pair with. The map evicts its smallest key past `kMaxPacketEventTimeMapSize`
entries.

`recordPacketEvent_cases` says once what one packet delivery can do to the pairing fields;
the bound on the map (`packetSentTimes_bounded`) and the soundness of every sample
(`networkLatency_pairs`) follow from it over whole runs. An entry of the map is traced back
to the delivery that stored it (`stored_origin`). The datapoint count, the total and the
packet-latency histogram always describe one list of samples (`latencySamples_run`).
-/

namespace CastTelemetry

namespace StatsEventSubscriber

variable (subscriber : StatsEventSubscriber) (packetEvent : PacketEvent) (bounds : OffsetBounds)

/-- The map after storing the first event of a key: insert, then evict the smallest key
past the bound. -/
def storeSentTime (map : OrderedMap PacketKey (TimeTicks × CastLoggingEvent)) (key : PacketKey)
    (entry : TimeTicks × CastLoggingEvent) : OrderedMap PacketKey (TimeTicks × CastLoggingEvent) :=
  let inserted := map.insert key entry
  if kMaxPacketEventTimeMapSize < inserted.size then inserted.eraseBegin else inserted

/-- What a packet recorder can do: nothing, store the event under an absent key, take a
sample pairing it with the stored one, or forget the key. -/
theorem recordPacketEvent_cases :
    (subscriber.recordPacketEvent packetEvent bounds).pairing = subscriber.pairing ∨
    (subscriber.packetSentTimes.find packetEvent.key = none ∧
      (subscriber.recordPacketEvent packetEvent bounds).pairing =
        { subscriber.pairing with
          packetSentTimes := storeSentTime subscriber.packetSentTimes packetEvent.key
            (packetEvent.timestamp, packetEvent.type) }) ∨
    (∃ offset recorded sent received, getReceiverOffset bounds = some offset ∧
      subscriber.packetSentTimes.find packetEvent.key = some recorded ∧
      pairTimes recorded.1 recorded.2 packetEvent = some (sent, received) ∧
      (subscriber.recordPacketEvent packetEvent bounds).pairing =
        ⟨subscriber.packetSentTimes.erase packetEvent.key,
          subscriber.totalNetworkLatency + (received - offset - sent),
          subscriber.networkLatencyDatapoints + 1,
          subscriber.histograms.packetLatencyMsHisto.add
            (inMillisecondsTruncated (received - offset - sent))⟩) ∨
    (subscriber.recordPacketEvent packetEvent bounds).pairing =
      { subscriber.pairing with
        packetSentTimes := subscriber.packetSentTimes.erase packetEvent.key } := by
  unfold recordPacketEvent recordNetworkLatency erasePacketSentTime
  split_ifs
  · cases answered : getReceiverOffset bounds with
    | none => exact .inl rfl
    | some offset =>
      dsimp only
      cases found : subscriber.packetSentTimes.find packetEvent.key with
      | none => exact .inr (.inl ⟨rfl, rfl⟩)
      | some recorded =>
        obtain ⟨recordedTime, recordedType⟩ := recorded
        dsimp only
        cases paired : pairTimes recordedTime recordedType packetEvent with
        | none => exact .inl rfl
        | some times =>
          exact .inr (.inr (.inl ⟨offset, _, times.1, times.2, rfl, rfl, paired, rfl⟩))
  · exact .inr (.inr (.inr rfl))
  · exact .inl rfl

/-- A retransmission of the engine's media type forgets its key. -/
theorem recordPacketEvent_of_retransmitted (retransmitted : packetEvent.type = .packetRetransmitted) :
    subscriber.recordPacketEvent packetEvent bounds = subscriber.erasePacketSentTime packetEvent := by
  unfold recordPacketEvent
  rw [if_neg (by rw [retransmitted]; decide), if_pos retransmitted]

theorem size_storeSentTime_le (map : OrderedMap PacketKey (TimeTicks × CastLoggingEvent))
    (key : PacketKey) (entry : TimeTicks × CastLoggingEvent)
    (bounded : map.size ≤ kMaxPacketEventTimeMapSize) :
    (storeSentTime map key entry).size ≤ kMaxPacketEventTimeMapSize := by
  have grown : (map.insert key entry).size ≤ map.size + 1 := by
    rw [OrderedMap.size_insert]
    split <;> omega
  unfold storeSentTime
  dsimp only
  split_ifs with over
  · rw [OrderedMap.size_eraseBegin]
    omega
  · omega

theorem find_storeSentTime {map : OrderedMap PacketKey (TimeTicks × CastLoggingEvent)}
    {key key' : PacketKey} {entry value : TimeTicks × CastLoggingEvent}
    (absent : map.find key = none) (found : (storeSentTime map key entry).find key' = some value) :
    map.find key' = some value ∨ (key' = key ∧ value = entry) := by
  have inserted : (map.insert key entry).find key' = some value := by
    unfold storeSentTime at found
    dsimp only at found
    split_ifs at found
    · exact OrderedMap.find_of_find_eraseBegin found
    · exact found
  rw [OrderedMap.find_insert] at inserted
  split_ifs at inserted with same
  · rw [absent, Option.getD_none, Option.some.injEq] at inserted
    exact .inr ⟨same, inserted.symm⟩
  · exact .inl inserted

/-- What one call can do to the pairing fields: nothing, what the packet recorder does, or
a `Reset`. -/
theorem pairing_step (kMaxFrameInfoMapSize : Nat) (call : Call) :
    (subscriber.step kMaxFrameInfoMapSize call).pairing = subscriber.pairing ∨
    (∃ packetEvent bounds, call = .packetEvent packetEvent bounds ∧
      packetEvent.mediaType = subscriber.eventMediaType ∧
      (subscriber.step kMaxFrameInfoMapSize call).pairing =
        (subscriber.recordPacketEvent packetEvent bounds).pairing) ∨
    (∃ now, call = .reset now) := by
  cases call with
  | frameEvent frameEvent bounds =>
    left
    by_cases same : frameEvent.mediaType = subscriber.eventMediaType
    · exact (congrArg pairing
        (onReceiveFrameEvent_records subscriber kMaxFrameInfoMapSize frameEvent bounds same)).trans
        (pairing_recordFrameEvent _ _ _ _)
    · exact congrArg pairing (onReceiveFrameEvent_of_ne _ _ _ _ same)
  | packetEvent packetEvent bounds =>
    by_cases same : packetEvent.mediaType = subscriber.eventMediaType
    · exact .inr (.inl ⟨packetEvent, bounds, rfl, same,
        (congrArg pairing (onReceivePacketEvent_records subscriber packetEvent bounds same)).trans rfl⟩)
    · exact .inl (congrArg pairing (onReceivePacketEvent_of_ne _ _ _ same))
  | reset now => exact .inr (.inr ⟨now, rfl⟩)
  | getStats => exact .inl rfl

section Bound

variable (kMaxFrameInfoMapSize : Nat)

theorem size_packetSentTimes_step (call : Call)
    (bounded : subscriber.packetSentTimes.size ≤ kMaxPacketEventTimeMapSize) :
    (subscriber.step kMaxFrameInfoMapSize call).packetSentTimes.size ≤
      kMaxPacketEventTimeMapSize := by
  have viaPairing : ∀ state : StatsEventSubscriber,
      state.packetSentTimes.size = state.pairing.packetSentTimes.size := fun _ => rfl
  rw [viaPairing] at bounded ⊢
  rcases pairing_step subscriber kMaxFrameInfoMapSize call with
    unchanged | ⟨packetEvent, bounds, -, -, recorded⟩ | ⟨now, rfl⟩
  · rwa [unchanged]
  · rw [recorded]
    rcases recordPacketEvent_cases subscriber packetEvent bounds with
      kept | ⟨-, stored⟩ | ⟨_, _, _, _, -, -, -, paired⟩ | erased
    · rwa [kept]
    · rw [stored]
      exact size_storeSentTime_le _ _ _ bounded
    · rw [paired]
      exact (OrderedMap.size_erase_le _ _).trans bounded
    · rw [erased]
      exact (OrderedMap.size_erase_le _ _).trans bounded
  · exact Nat.zero_le _

/-- The packet pairing map never holds more than `kMaxPacketEventTimeMapSize` entries, in
any state reachable from construction by any calls. -/
theorem packetSentTimes_bounded (eventMediaType : EventMediaType) (now : TimeTicks)
    (calls : List Call) :
    (run kMaxFrameInfoMapSize (new eventMediaType now) calls).packetSentTimes.size ≤
      kMaxPacketEventTimeMapSize :=
  run_induction kMaxFrameInfoMapSize _
    (fun subscriber call bounded => size_packetSentTimes_step subscriber kMaxFrameInfoMapSize call bounded)
    calls (Nat.zero_le _)

end Bound

section Samples

variable (kMaxFrameInfoMapSize : Nat)

/-- The map after one call holds an entry only if it held it before, or if the call is a
packet delivery of the engine's media type that stored it under its then absent key. -/
theorem find_packetSentTimes_step {key : PacketKey} {value : TimeTicks × CastLoggingEvent}
    (call : Call)
    (found : (subscriber.step kMaxFrameInfoMapSize call).packetSentTimes.find key = some value) :
    subscriber.packetSentTimes.find key = some value ∨
    (subscriber.packetSentTimes.find key = none ∧ ∃ packetEvent bounds,
      call = .packetEvent packetEvent bounds ∧ packetEvent.mediaType = subscriber.eventMediaType ∧
      packetEvent.key = key ∧ value = (packetEvent.timestamp, packetEvent.type)) := by
  change (subscriber.step kMaxFrameInfoMapSize call).pairing.packetSentTimes.find key = some value
    at found
  rcases pairing_step subscriber kMaxFrameInfoMapSize call with
    unchanged | ⟨packetEvent, bounds, rfl, same, recorded⟩ | ⟨now, rfl⟩
  · rw [unchanged] at found
    exact .inl found
  · rw [recorded] at found
    rcases recordPacketEvent_cases subscriber packetEvent bounds with
      kept | ⟨absent, stored⟩ | ⟨_, _, _, _, -, -, -, erased⟩ | erased
    · rw [kept] at found
      exact .inl found
    · rw [stored] at found
      rcases find_storeSentTime absent found with old | ⟨rfl, rfl⟩
      · exact .inl old
      · exact .inr ⟨absent, packetEvent, bounds, rfl, same, rfl, rfl⟩
    all_goals
      rw [erased] at found
      change (subscriber.packetSentTimes.erase packetEvent.key).find key = some value at found
      rw [OrderedMap.find_erase] at found
      split_ifs at found
      exact .inl found
  · simp [step, reset_eq_new, new, pairing] at found

/-- A retransmission of the engine's media type leaves no entry under its key. -/
theorem find_step_retransmitted (packetEvent : PacketEvent) (bounds : OffsetBounds)
    (same : packetEvent.mediaType = subscriber.eventMediaType)
    (retransmitted : packetEvent.type = .packetRetransmitted) :
    (subscriber.step kMaxFrameInfoMapSize (.packetEvent packetEvent bounds)).packetSentTimes.find
      packetEvent.key = none := by
  have recorded := congrArg packetSentTimes (onReceivePacketEvent_records subscriber packetEvent bounds same)
  rw [recordPacketEvent_of_retransmitted _ _ _ retransmitted] at recorded
  change (subscriber.onReceivePacketEvent packetEvent bounds).packetSentTimes.find packetEvent.key = none
  rw [show (subscriber.onReceivePacketEvent packetEvent bounds).packetSentTimes =
    subscriber.packetSentTimes.erase packetEvent.key from recorded, OrderedMap.find_erase, if_pos rfl]

/-- What one call does to the network-latency totals: nothing (the map may change), a
`Reset`, or one sample pairing the delivered event with the entry stored under its key,
which it forgets. -/
theorem networkLatency_step (call : Call) :
    (∃ map, (subscriber.step kMaxFrameInfoMapSize call).pairing =
      { subscriber.pairing with packetSentTimes := map }) ∨
    (∃ now, call = .reset now) ∨
    (∃ packetEvent bounds offset recorded sent received, call = .packetEvent packetEvent bounds ∧
      packetEvent.mediaType = subscriber.eventMediaType ∧ getReceiverOffset bounds = some offset ∧
      subscriber.packetSentTimes.find packetEvent.key = some recorded ∧
      pairTimes recorded.1 recorded.2 packetEvent = some (sent, received) ∧
      (subscriber.step kMaxFrameInfoMapSize call).pairing =
        ⟨subscriber.packetSentTimes.erase packetEvent.key,
          subscriber.totalNetworkLatency + (received - offset - sent),
          subscriber.networkLatencyDatapoints + 1,
          subscriber.histograms.packetLatencyMsHisto.add
            (inMillisecondsTruncated (received - offset - sent))⟩) := by
  rcases pairing_step subscriber kMaxFrameInfoMapSize call with
    unchanged | ⟨packetEvent, bounds, rfl, same, recorded⟩ | reset
  · exact .inl ⟨_, unchanged⟩
  · rcases recordPacketEvent_cases subscriber packetEvent bounds with
      kept | ⟨-, stored⟩ | ⟨offset, recorded', sent, received, answered, found, paired, after⟩ | erased
    · exact .inl ⟨_, recorded.trans kept⟩
    · exact .inl ⟨_, recorded.trans stored⟩
    · exact .inr (.inr ⟨packetEvent, bounds, offset, recorded', sent, received, rfl, same, answered,
        found, paired, recorded.trans after⟩)
    · exact .inl ⟨_, recorded.trans erased⟩
  · exact .inr (.inl reset)

/-- Call `i` of a run delivers this packet event. -/
def Delivered (calls : List Call) (i : Nat) (packetEvent : PacketEvent) : Prop :=
  ∃ bounds, calls[i]? = some (.packetEvent packetEvent bounds)

theorem Delivered.unique {calls : List Call} {i : Nat} {packetEvent other : PacketEvent}
    (delivered : Delivered calls i packetEvent) (also : Delivered calls i other) :
    packetEvent = other := by
  obtain ⟨bounds, called⟩ := delivered
  obtain ⟨bounds', called'⟩ := also
  rw [called] at called'
  cases called'
  rfl

variable (start : StatsEventSubscriber) (calls : List Call)

/-- Every entry of the map in a run from construction was stored by an earlier delivery of
the engine's media type, under its key then absent, and has stayed in the map since. -/
theorem stored_origin (eventMediaType : EventMediaType) (now : TimeTicks) (n : Nat)
    (key : PacketKey) (value : TimeTicks × CastLoggingEvent)
    (found : (stateAt kMaxFrameInfoMapSize (new eventMediaType now) calls n).packetSentTimes.find
      key = some value) :
    ∃ i < n, ∃ packetEvent, Delivered calls i packetEvent ∧
      packetEvent.mediaType = eventMediaType ∧ packetEvent.key = key ∧
      value = (packetEvent.timestamp, packetEvent.type) ∧
      (stateAt kMaxFrameInfoMapSize (new eventMediaType now) calls i).packetSentTimes.find key = none ∧
      ∀ j, i < j → j ≤ n →
        ((stateAt kMaxFrameInfoMapSize (new eventMediaType now) calls j).packetSentTimes.find key).isSome := by
  induction n generalizing value with
  | zero => simp [stateAt_zero, new] at found
  | succ n inductionHypothesis =>
    have extend : ∀ i < n, (∀ j, i < j → j ≤ n → ((stateAt kMaxFrameInfoMapSize
        (new eventMediaType now) calls j).packetSentTimes.find key).isSome) →
        ∀ j, i < j → j ≤ n + 1 → ((stateAt kMaxFrameInfoMapSize
          (new eventMediaType now) calls j).packetSentTimes.find key).isSome := by
      intro i _ held j above below
      rcases Nat.lt_or_eq_of_le below with below | rfl
      · exact held j above (by omega)
      · rw [found]
        rfl
    cases called : calls[n]? with
    | none =>
      rw [stateAt_succ_of_none _ called] at found
      obtain ⟨i, earlier, packetEvent, delivered, media, sameKey, entry, stored, held⟩ :=
        inductionHypothesis value found
      exact ⟨i, by omega, packetEvent, delivered, media, sameKey, entry, stored,
        extend i earlier held⟩
    | some call =>
      have stepped := found
      rw [stateAt_succ _ called] at stepped
      rcases find_packetSentTimes_step _ kMaxFrameInfoMapSize call stepped with
        old | ⟨absent, packetEvent, bounds, rfl, same, sameKey, entry⟩
      · obtain ⟨i, earlier, packetEvent, delivered, media, sameKey, entry, stored, held⟩ :=
          inductionHypothesis value old
        exact ⟨i, by omega, packetEvent, delivered, media, sameKey, entry, stored,
          extend i earlier held⟩
      · refine ⟨n, Nat.lt_succ_self n, packetEvent, ⟨bounds, called⟩,
          same.trans (eventMediaType_stateAt _ _ _ _), sameKey, entry, absent, ?_⟩
        intro j above below
        rw [show j = n + 1 by omega, found]
        rfl

/-- Call `k` of a run pairs the packet events `sent` and `received`: a send and a receipt of
the engine's media type with one key, one delivered at `i` and the other at `k`, the
estimator answering `offset` during call `k`, and no retransmission of the key between
them. The earlier event was stored by its own delivery, and its entry stays in the map
until call `k` removes it. -/
structure Pairs (i k : Nat) (sent received : PacketEvent) (offset : TimeDelta) : Prop where
  earlier : i < k
  kinds : sent.type = .packetSentToNetwork ∧ received.type = .packetReceived
  media : sent.mediaType = start.eventMediaType ∧ received.mediaType = start.eventMediaType
  sameKey : sent.key = received.key
  delivered : Delivered calls i sent ∧ Delivered calls k received ∨
    Delivered calls i received ∧ Delivered calls k sent
  answered : ∃ packetEvent bounds, calls[k]? = some (.packetEvent packetEvent bounds) ∧
    getReceiverOffset bounds = some offset
  noRetransmission : ∀ j packetEvent, i < j → j < k → Delivered calls j packetEvent →
    packetEvent.mediaType = start.eventMediaType → packetEvent.key = sent.key →
    packetEvent.type ≠ .packetRetransmitted
  stored : (stateAt kMaxFrameInfoMapSize start calls i).packetSentTimes.find sent.key = none
  held : ∀ j, i < j → j ≤ k →
    ((stateAt kMaxFrameInfoMapSize start calls j).packetSentTimes.find sent.key).isSome
  consumed : (stateAt kMaxFrameInfoMapSize start calls (k + 1)).packetSentTimes.find sent.key = none

variable {kMaxFrameInfoMapSize start calls}

/-- Both deliveries of a pairing carry its key. -/
theorem Pairs.key_of_delivered {i k : Nat} {sent received : PacketEvent} {offset : TimeDelta}
    (pairs : Pairs kMaxFrameInfoMapSize start calls i k sent received offset) {j : Nat}
    {packetEvent : PacketEvent} (at_end : j = i ∨ j = k) (delivered : Delivered calls j packetEvent) :
    packetEvent.key = sent.key := by
  rcases pairs.delivered with ⟨first, second⟩ | ⟨first, second⟩ <;> rcases at_end with rfl | rfl
  all_goals first
    | rw [← Delivered.unique first delivered]
    | rw [← Delivered.unique second delivered]
  all_goals first | rfl | exact pairs.sameKey.symm

/-- A retransmission between the two deliveries would have removed the stored entry. -/
theorem noRetransmission_of_held {i k : Nat} {key : PacketKey}
    (held : ∀ j, i < j → j ≤ k →
      ((stateAt kMaxFrameInfoMapSize start calls j).packetSentTimes.find key).isSome) :
    ∀ j packetEvent, i < j → j < k → Delivered calls j packetEvent →
      packetEvent.mediaType = start.eventMediaType → packetEvent.key = key →
      packetEvent.type ≠ .packetRetransmitted := by
  intro j packetEvent above below ⟨bounds, called⟩ media sameKey retransmitted
  have erased := find_step_retransmitted (stateAt kMaxFrameInfoMapSize start calls j)
    kMaxFrameInfoMapSize packetEvent bounds (media.trans (eventMediaType_stateAt _ _ _ _).symm)
    retransmitted
  rw [← stateAt_succ _ called, sameKey] at erased
  have present := held (j + 1) (by omega) (by omega)
  rw [erased] at present
  exact Bool.false_ne_true present

/-- A pairing delivers an event at each of its two calls. -/
theorem Pairs.delivered_at {i k : Nat} {sent received : PacketEvent} {offset : TimeDelta}
    (pairs : Pairs kMaxFrameInfoMapSize start calls i k sent received offset) {j : Nat}
    (at_end : j = i ∨ j = k) : ∃ packetEvent, Delivered calls j packetEvent := by
  rcases pairs.delivered with ⟨first, second⟩ | ⟨first, second⟩ <;>
    rcases at_end with rfl | rfl <;> exact ⟨_, ‹_›⟩

/-- Two samples of a run use four different deliveries: the earlier sample's entry is gone
when the later one needs its own in the map, and the earlier sample's second event found
its key present where a stored event finds it absent. -/
theorem Pairs.disjoint {i k i' k' : Nat} {sent received sent' received' : PacketEvent}
    {offset offset' : TimeDelta}
    (pairs : Pairs kMaxFrameInfoMapSize start calls i k sent received offset)
    (pairs' : Pairs kMaxFrameInfoMapSize start calls i' k' sent' received' offset')
    (before : k < k') : i ≠ i' ∧ i ≠ k' ∧ k ≠ i' ∧ k ≠ k' := by
  have sharedKey : ∀ j, (j = i ∨ j = k) → (j = i' ∨ j = k') → sent.key = sent'.key := by
    intro j here there
    obtain ⟨packetEvent, delivered⟩ := pairs.delivered_at here
    exact (pairs.key_of_delivered here delivered).symm.trans (pairs'.key_of_delivered there delivered)
  have earlier := pairs.earlier
  refine ⟨fun same => ?_, by omega, fun same => ?_, by omega⟩
  · have present := pairs'.held (k + 1) (by omega) (by omega)
    rw [← sharedKey i (.inl rfl) (.inl same), pairs.consumed] at present
    exact Bool.false_ne_true present
  · have present := pairs.held k earlier le_rfl
    rw [sharedKey k (.inr rfl) (.inl same), same, pairs'.stored] at present
    exact Bool.false_ne_true present

variable (kMaxFrameInfoMapSize) (calls)

/-- Each call other than a `Reset`, in a run from construction, either leaves the
network-latency totals as they were or takes one sample of a pairing. -/
theorem networkLatency_sample (eventMediaType : EventMediaType) (now : TimeTicks) (k : Nat)
    (call : Call) (called : calls[k]? = some call) (notReset : ∀ now, call ≠ .reset now) :
    ((stateAt kMaxFrameInfoMapSize (new eventMediaType now) calls (k + 1)).networkLatencyDatapoints =
        (stateAt kMaxFrameInfoMapSize (new eventMediaType now) calls k).networkLatencyDatapoints ∧
      (stateAt kMaxFrameInfoMapSize (new eventMediaType now) calls (k + 1)).totalNetworkLatency =
        (stateAt kMaxFrameInfoMapSize (new eventMediaType now) calls k).totalNetworkLatency ∧
      (stateAt kMaxFrameInfoMapSize (new eventMediaType now) calls (k + 1)).histograms.packetLatencyMsHisto =
        (stateAt kMaxFrameInfoMapSize (new eventMediaType now) calls k).histograms.packetLatencyMsHisto) ∨
    ∃ i sent received offset,
      Pairs kMaxFrameInfoMapSize (new eventMediaType now) calls i k sent received offset ∧
      (stateAt kMaxFrameInfoMapSize (new eventMediaType now) calls (k + 1)).networkLatencyDatapoints =
        (stateAt kMaxFrameInfoMapSize (new eventMediaType now) calls k).networkLatencyDatapoints + 1 ∧
      (stateAt kMaxFrameInfoMapSize (new eventMediaType now) calls (k + 1)).totalNetworkLatency =
        (stateAt kMaxFrameInfoMapSize (new eventMediaType now) calls k).totalNetworkLatency +
          (received.timestamp - offset - sent.timestamp) ∧
      (stateAt kMaxFrameInfoMapSize (new eventMediaType now) calls (k + 1)).histograms.packetLatencyMsHisto =
        (stateAt kMaxFrameInfoMapSize (new eventMediaType now) calls k).histograms.packetLatencyMsHisto.add
          (inMillisecondsTruncated (received.timestamp - offset - sent.timestamp)) := by
  rcases networkLatency_step (stateAt kMaxFrameInfoMapSize (new eventMediaType now) calls k)
      kMaxFrameInfoMapSize call with
    ⟨map, unchanged⟩ | ⟨now', rfl⟩ |
      ⟨packetEvent, bounds, offset, recorded, sentTime, receivedTime, rfl, same, answered, found,
        paired, after⟩
  · rw [stateAt_succ _ called]
    exact .inl ⟨congrArg Pairing.networkLatencyDatapoints unchanged,
      congrArg Pairing.totalNetworkLatency unchanged, congrArg Pairing.packetLatencyMsHisto unchanged⟩
  · exact absurd rfl (notReset now')
  · right
    obtain ⟨i, earlier, first, delivered, media, sameKey, rfl, stored, held⟩ :=
      stored_origin kMaxFrameInfoMapSize calls eventMediaType now k packetEvent.key recorded found
    have consumed : (stateAt kMaxFrameInfoMapSize (new eventMediaType now) calls (k + 1)).packetSentTimes.find
        packetEvent.key = none := by
      rw [stateAt_succ _ called]
      exact (congrArg (fun pairing => pairing.packetSentTimes.find packetEvent.key) after).trans
        (by rw [OrderedMap.find_erase, if_pos rfl])
    have media' : packetEvent.mediaType = eventMediaType := same.trans (eventMediaType_stateAt _ _ _ _)
    have second : Delivered calls k packetEvent := ⟨bounds, called⟩
    have sampled : ∀ sent received : PacketEvent, sentTime = sent.timestamp →
        receivedTime = received.timestamp →
        (stateAt kMaxFrameInfoMapSize (new eventMediaType now) calls (k + 1)).networkLatencyDatapoints =
          (stateAt kMaxFrameInfoMapSize (new eventMediaType now) calls k).networkLatencyDatapoints + 1 ∧
        (stateAt kMaxFrameInfoMapSize (new eventMediaType now) calls (k + 1)).totalNetworkLatency =
          (stateAt kMaxFrameInfoMapSize (new eventMediaType now) calls k).totalNetworkLatency +
            (received.timestamp - offset - sent.timestamp) ∧
        (stateAt kMaxFrameInfoMapSize (new eventMediaType now) calls (k + 1)).histograms.packetLatencyMsHisto =
          (stateAt kMaxFrameInfoMapSize (new eventMediaType now) calls k).histograms.packetLatencyMsHisto.add
            (inMillisecondsTruncated (received.timestamp - offset - sent.timestamp)) := by
      rintro sent received rfl rfl
      rw [stateAt_succ _ called]
      exact ⟨congrArg Pairing.networkLatencyDatapoints after,
        congrArg Pairing.totalNetworkLatency after, congrArg Pairing.packetLatencyMsHisto after⟩
    unfold pairTimes at paired
    split_ifs at paired with sentFirst receivedFirst
    · cases paired
      rw [← sameKey] at stored held consumed
      exact ⟨i, first, packetEvent, offset, ⟨earlier, sentFirst, ⟨media, media'⟩, sameKey,
        .inl ⟨delivered, second⟩, ⟨packetEvent, bounds, called, answered⟩,
        noRetransmission_of_held held, stored, held, consumed⟩, sampled _ _ rfl rfl⟩
    · cases paired
      exact ⟨i, packetEvent, first, offset, ⟨earlier, ⟨receivedFirst.2, receivedFirst.1⟩,
        ⟨media', media⟩, sameKey.symm, .inr ⟨delivered, second⟩, ⟨packetEvent, bounds, called, answered⟩,
        noRetransmission_of_held held, stored, held, consumed⟩, sampled _ _ rfl rfl⟩

/-- Network-latency pairing is sound and never counts a delivery twice. In a run from
construction, each call other than a `Reset` either leaves the datapoint count, the total
and the packet-latency histogram as they were, or pairs a send `s` with a receipt `r` of the
engine's media type and one key, with no retransmission of the key between them, and adds
one datapoint and the latency `(r - offset) - s` to the total and to the histogram, the
offset being the estimator's answer during the later of the two; and two samples use four
different deliveries. -/
theorem networkLatency_pairs (eventMediaType : EventMediaType) (now : TimeTicks) :
    (∀ k call, calls[k]? = some call → (∀ now, call ≠ .reset now) →
      ((stateAt kMaxFrameInfoMapSize (new eventMediaType now) calls (k + 1)).networkLatencyDatapoints =
          (stateAt kMaxFrameInfoMapSize (new eventMediaType now) calls k).networkLatencyDatapoints ∧
        (stateAt kMaxFrameInfoMapSize (new eventMediaType now) calls (k + 1)).totalNetworkLatency =
          (stateAt kMaxFrameInfoMapSize (new eventMediaType now) calls k).totalNetworkLatency ∧
        (stateAt kMaxFrameInfoMapSize (new eventMediaType now) calls (k + 1)).histograms.packetLatencyMsHisto =
          (stateAt kMaxFrameInfoMapSize (new eventMediaType now) calls k).histograms.packetLatencyMsHisto) ∨
      ∃ i sent received offset,
        Pairs kMaxFrameInfoMapSize (new eventMediaType now) calls i k sent received offset ∧
        (stateAt kMaxFrameInfoMapSize (new eventMediaType now) calls (k + 1)).networkLatencyDatapoints =
          (stateAt kMaxFrameInfoMapSize (new eventMediaType now) calls k).networkLatencyDatapoints + 1 ∧
        (stateAt kMaxFrameInfoMapSize (new eventMediaType now) calls (k + 1)).totalNetworkLatency =
          (stateAt kMaxFrameInfoMapSize (new eventMediaType now) calls k).totalNetworkLatency +
            (received.timestamp - offset - sent.timestamp) ∧
        (stateAt kMaxFrameInfoMapSize (new eventMediaType now) calls (k + 1)).histograms.packetLatencyMsHisto =
          (stateAt kMaxFrameInfoMapSize (new eventMediaType now) calls k).histograms.packetLatencyMsHisto.add
            (inMillisecondsTruncated (received.timestamp - offset - sent.timestamp))) ∧
    (∀ i k sent received offset i' k' sent' received' offset',
      Pairs kMaxFrameInfoMapSize (new eventMediaType now) calls i k sent received offset →
      Pairs kMaxFrameInfoMapSize (new eventMediaType now) calls i' k' sent' received' offset' →
      k < k' → i ≠ i' ∧ i ≠ k' ∧ k ≠ i' ∧ k ≠ k') :=
  ⟨fun k call called notReset =>
      networkLatency_sample kMaxFrameInfoMapSize calls eventMediaType now k call called notReset,
    fun _ _ _ _ _ _ _ _ _ _ pairs pairs' before => pairs.disjoint pairs' before⟩

end Samples

section Agreement

variable (kMaxFrameInfoMapSize : Nat)

end Agreement

end StatsEventSubscriber

end CastTelemetry
