import CastTelemetry.FrameCache

/-!
# Frame latencies

The four frame-level samples read the entry `recent_frame_infos_` holds for the event's
frame (`frameLatencies_step`). That entry is built by the frame's own events since the event
that last inserted it: `MaybeInsertFrameInfo` goes through `std::map::insert`, which never
overwrites, so the capture time is the inserting capture begin's, or null when a
`FRAME_ENCODED` inserted the frame, and the capture end and encode times are the latest ones
recorded since the insertion.

`entryOrigin_step` says once what a call can do to one frame's entry; `entry_since_insertion`
follows an entry from its insertion over a run, and `exists_insertion` finds that insertion
for every cached frame of a run from construction. `frameLatency_samples` puts them together.
-/

namespace CastTelemetry

/-- `FrameInfo` as the event that inserts a frame builds it: a capture begin's time as the
capture time, an encode's as the encode time. -/
def FrameEvent.insertedInfo (event : FrameEvent) : FrameInfo :=
  if event.type = .frameCaptureBegin then { captureTime := event.timestamp }
  else { encodeTime := event.timestamp }

/-- A cached frame's entry after one of its events: a capture end records its time as the
capture end time and an encode as the encode time; no other kind changes the entry. -/
def FrameInfo.note (frameInfo : FrameInfo) (type : CastLoggingEvent) (timestamp : TimeTicks) :
    FrameInfo :=
  match type with
  | .frameCaptureEnd => { frameInfo with captureEndTime := timestamp }
  | .frameEncoded => { frameInfo with encodeTime := timestamp }
  | _ => frameInfo

/-- What a call does to the entry of frame `rtpTimestamp` while the frame stays cached: only
the frame's own events on the engine's media type are noted. -/
def Call.noteFrame (eventMediaType : EventMediaType) (rtpTimestamp : Nat) (frameInfo : FrameInfo) :
    Call → FrameInfo
  | .frameEvent event _ =>
    if event.mediaType = eventMediaType ∧ event.rtpTimestamp = rtpTimestamp then
      frameInfo.note event.type event.timestamp
    else frameInfo
  | _ => frameInfo

theorem Call.noteFrame_of_own {event : FrameEvent} {bounds : OffsetBounds}
    {eventMediaType : EventMediaType} {rtpTimestamp : Nat} {frameInfo : FrameInfo}
    (own : event.mediaType = eventMediaType ∧ event.rtpTimestamp = rtpTimestamp) :
    (Call.frameEvent event bounds).noteFrame eventMediaType rtpTimestamp frameInfo =
      frameInfo.note event.type event.timestamp := by
  rw [Call.noteFrame, if_pos own]

theorem Call.noteFrame_of_other {event : FrameEvent} {bounds : OffsetBounds}
    {eventMediaType : EventMediaType} {rtpTimestamp : Nat} {frameInfo : FrameInfo}
    (other : ¬(event.mediaType = eventMediaType ∧ event.rtpTimestamp = rtpTimestamp)) :
    (Call.frameEvent event bounds).noteFrame eventMediaType rtpTimestamp frameInfo = frameInfo := by
  rw [Call.noteFrame, if_neg other]

theorem Call.noteFrame_of_unnoted {event : FrameEvent} {bounds : OffsetBounds}
    {eventMediaType : EventMediaType} {rtpTimestamp : Nat} {frameInfo : FrameInfo}
    (unnoted : frameInfo.note event.type event.timestamp = frameInfo) :
    (Call.frameEvent event bounds).noteFrame eventMediaType rtpTimestamp frameInfo = frameInfo := by
  rw [Call.noteFrame]
  split_ifs
  · exact unnoted
  · rfl

/-- The readings the frame-level samples change. -/
structure FrameLatencies where
  captureLatencyMsHisto : LatencyHistogram
  encodeLatencyMsHisto : LatencyHistogram
  frameLatencyMsHisto : LatencyHistogram
  totalE2eLatency : TimeDelta
  e2eLatencyDatapoints : Nat

/-- What a frame event of the engine's media type adds to the frame latencies, given its
frame's entry if it has one: a capture end samples `capture_time - timestamp` when the capture
time is set; an encode samples the time since the capture end when that is set; an
acknowledgement samples its sender-clock time less the encode time when that is set and the
offset is known; a playout adds its sender-clock playout time less the capture time, set or
not, when the offset is known. -/
def sampleFrame (frameEvent : FrameEvent) (bounds : OffsetBounds) (latencies : FrameLatencies) :
    Option FrameInfo → FrameLatencies
  | none => latencies
  | some frameInfo =>
    match frameEvent.type with
    | .frameCaptureEnd =>
      if frameInfo.captureTime ≠ 0 then
        { latencies with
          captureLatencyMsHisto := latencies.captureLatencyMsHisto.add
            (inMillisecondsTruncated (frameInfo.captureTime - frameEvent.timestamp)) }
      else latencies
    | .frameEncoded =>
      if frameInfo.captureEndTime ≠ 0 then
        { latencies with
          encodeLatencyMsHisto := latencies.encodeLatencyMsHisto.add
            (inMillisecondsTruncated (frameEvent.timestamp - frameInfo.captureEndTime)) }
      else latencies
    | .frameAckSent =>
      match getReceiverOffset bounds with
      | some offset =>
        if frameInfo.encodeTime = 0 then latencies
        else
          { latencies with
            frameLatencyMsHisto := latencies.frameLatencyMsHisto.add
              (inMillisecondsTruncated (frameEvent.timestamp - offset - frameInfo.encodeTime)) }
      | none => latencies
    | .framePlayout =>
      match getReceiverOffset bounds with
      | some offset =>
        { latencies with
          totalE2eLatency := latencies.totalE2eLatency +
            (frameEvent.timestamp + frameEvent.delayDelta - offset - frameInfo.captureTime)
          e2eLatencyDatapoints := latencies.e2eLatencyDatapoints + 1 }
      | none => latencies
    | _ => latencies

/-- How the entry `frameInfo` that frame `rtpTimestamp` has after a call arises from the cache
before it: the call noted its event on the cached entry, or it inserted the frame. -/
def EntryOrigin (eventMediaType : EventMediaType) (cache : OrderedMap Nat FrameInfo) (call : Call)
    (rtpTimestamp : Nat) (frameInfo : FrameInfo) : Prop :=
  (∃ cached, cache.find rtpTimestamp = some cached ∧
    frameInfo = call.noteFrame eventMediaType rtpTimestamp cached) ∨
  (cache.find rtpTimestamp = none ∧ call.insertedFrame eventMediaType = some rtpTimestamp ∧
    ∃ event bounds, call = .frameEvent event bounds ∧ frameInfo = event.insertedInfo)

namespace StatsEventSubscriber

/-- The frame latencies of a subscriber. -/
def frameLatencies (subscriber : StatsEventSubscriber) : FrameLatencies :=
  ⟨subscriber.histograms.captureLatencyMsHisto, subscriber.histograms.encodeLatencyMsHisto,
    subscriber.histograms.frameLatencyMsHisto, subscriber.totalE2eLatency,
    subscriber.e2eLatencyDatapoints⟩

variable (kMaxFrameInfoMapSize : Nat) (subscriber : StatsEventSubscriber)

theorem frameLatencies_maybeInsertFrameInfo (rtpTimestamp : Nat) (frameInfo : FrameInfo) :
    (subscriber.maybeInsertFrameInfo kMaxFrameInfoMapSize rtpTimestamp frameInfo).frameLatencies =
      subscriber.frameLatencies := by
  unfold maybeInsertFrameInfo
  dsimp only
  split_ifs
  all_goals (try split) <;> rfl

/-- A frame recorder changes the frame latencies as `sampleFrame` says for the entry the frame
has before it. -/
theorem frameLatencies_recordFrameEvent (frameEvent : FrameEvent) (bounds : OffsetBounds) :
    (subscriber.recordFrameEvent kMaxFrameInfoMapSize frameEvent bounds).frameLatencies =
      sampleFrame frameEvent bounds subscriber.frameLatencies
        (subscriber.recentFrameInfos.find frameEvent.rtpTimestamp) := by
  obtain ⟨timestamp, type, mediaType, rtpTimestamp, size, delayDelta⟩ := frameEvent
  cases type
  case frameCaptureBegin =>
    show (subscriber.maybeInsertFrameInfo _ _ _).frameLatencies = _
    rw [frameLatencies_maybeInsertFrameInfo]
    cases subscriber.recentFrameInfos.find rtpTimestamp <;> rfl
  case frameCaptureEnd =>
    show (subscriber.recordCaptureLatency _).frameLatencies = _
    unfold recordCaptureLatency
    cases subscriber.recentFrameInfos.find rtpTimestamp with
    | none => rfl
    | some frameInfo =>
      dsimp only [sampleFrame]
      split_ifs <;> rfl
  case frameEncoded =>
    show (subscriber.recordEncodeLatency kMaxFrameInfoMapSize _).frameLatencies = _
    unfold recordEncodeLatency
    cases subscriber.recentFrameInfos.find rtpTimestamp with
    | none => exact frameLatencies_maybeInsertFrameInfo _ _ _ _
    | some frameInfo =>
      dsimp only [sampleFrame]
      split_ifs <;> rfl
  case frameAckSent =>
    show (subscriber.recordFrameTxLatency _ bounds).frameLatencies = _
    unfold recordFrameTxLatency sampleFrame
    cases subscriber.recentFrameInfos.find rtpTimestamp with
    | none => rfl
    | some frameInfo =>
      dsimp only
      cases getReceiverOffset bounds <;> dsimp only <;> split_ifs <;> rfl
  case framePlayout =>
    show ((subscriber.recordE2ELatency _ bounds).recordPlayoutDelay _).frameLatencies = _
    unfold recordE2ELatency sampleFrame
    cases getReceiverOffset bounds <;> cases subscriber.recentFrameInfos.find rtpTimestamp <;> rfl
  all_goals cases subscriber.recentFrameInfos.find rtpTimestamp <;> rfl

/-- A delivery of the engine's media type changes the frame latencies as its recorder does. -/
theorem frameLatencies_step (frameEvent : FrameEvent) (bounds : OffsetBounds)
    (same : frameEvent.mediaType = subscriber.eventMediaType) :
    (subscriber.step kMaxFrameInfoMapSize (.frameEvent frameEvent bounds)).frameLatencies =
      sampleFrame frameEvent bounds subscriber.frameLatencies
        (subscriber.recentFrameInfos.find frameEvent.rtpTimestamp) := by
  have recorded := congrArg frameLatencies
    (onReceiveFrameEvent_records subscriber kMaxFrameInfoMapSize frameEvent bounds same)
  rw [frameLatencies_recordFrameEvent] at recorded
  exact recorded

/-- An insertion leaves every cached entry as it was and adds only the inserted frame's. -/
theorem find_maybeInsertFrameInfo {rtpTimestamp key : Nat} {frameInfo frameInfo' : FrameInfo}
    (found : (subscriber.maybeInsertFrameInfo kMaxFrameInfoMapSize rtpTimestamp
      frameInfo).recentFrameInfos.find key = some frameInfo') :
    subscriber.recentFrameInfos.find key = some frameInfo' ∨
      (key = rtpTimestamp ∧ subscriber.recentFrameInfos.find rtpTimestamp = none ∧
        frameInfo' = frameInfo) := by
  unfold maybeInsertFrameInfo at found
  dsimp only at found
  split_ifs at found
  · exact .inl found
  · split at found
    · exact OrderedMap.find_of_find_insert (OrderedMap.find_of_find_eraseBegin found)
    · exact OrderedMap.find_of_find_insert found
  · exact OrderedMap.find_of_find_insert found

/-- An entry after an insertion was there before, noted on unchanged, or is the inserted one. -/
theorem entryOrigin_maybeInsertFrameInfo {call : Call} {event : FrameEvent} {bounds : OffsetBounds}
    {rtpTimestamp : Nat} {frameInfo : FrameInfo} (isEvent : call = .frameEvent event bounds)
    (inserts : call.insertedFrame subscriber.eventMediaType = some event.rtpTimestamp)
    (noted : ∀ cached, subscriber.recentFrameInfos.find rtpTimestamp = some cached →
      call.noteFrame subscriber.eventMediaType rtpTimestamp cached = cached)
    (found : (subscriber.maybeInsertFrameInfo kMaxFrameInfoMapSize event.rtpTimestamp
      event.insertedInfo).recentFrameInfos.find rtpTimestamp = some frameInfo) :
    EntryOrigin subscriber.eventMediaType subscriber.recentFrameInfos call rtpTimestamp frameInfo := by
  rcases find_maybeInsertFrameInfo kMaxFrameInfoMapSize subscriber found with old | ⟨rfl, absent, rfl⟩
  · exact .inl ⟨frameInfo, old, (noted frameInfo old).symm⟩
  · exact .inr ⟨absent, inserts, event, bounds, isEvent, rfl⟩

/-- An entry after the update of a cached frame's entry by one of its events was noted on the
one before. -/
theorem entryOrigin_modify {eventMediaType : EventMediaType} {cache : OrderedMap Nat FrameInfo}
    {event : FrameEvent} {bounds : OffsetBounds} {update : FrameInfo → FrameInfo}
    {rtpTimestamp : Nat} {frameInfo : FrameInfo} (own : event.mediaType = eventMediaType)
    (updates : ∀ cached, cached.note event.type event.timestamp = update cached)
    (found : (cache.modify event.rtpTimestamp update).find rtpTimestamp = some frameInfo) :
    EntryOrigin eventMediaType cache (.frameEvent event bounds) rtpTimestamp frameInfo := by
  rw [OrderedMap.find_modify] at found
  split_ifs at found with same
  · subst same
    cases present : cache.find event.rtpTimestamp with
    | none => rw [present] at found; cases found
    | some cached =>
      rw [present] at found
      refine .inl ⟨cached, present, ?_⟩
      rw [Call.noteFrame_of_own ⟨own, rfl⟩, updates, ← Option.some.inj found]
  · exact .inl ⟨frameInfo, found, (Call.noteFrame_of_other fun both => same both.2.symm).symm⟩

/-- An entry after a frame recorder was noted on the cached one, or inserted by the recorder. -/
theorem entryOrigin_recordFrameEvent (frameEvent : FrameEvent) (bounds : OffsetBounds)
    (same : frameEvent.mediaType = subscriber.eventMediaType) {rtpTimestamp : Nat}
    {frameInfo : FrameInfo}
    (found : (subscriber.recordFrameEvent kMaxFrameInfoMapSize frameEvent
      bounds).recentFrameInfos.find rtpTimestamp = some frameInfo) :
    EntryOrigin subscriber.eventMediaType subscriber.recentFrameInfos (.frameEvent frameEvent bounds)
      rtpTimestamp frameInfo := by
  have recorded := congrArg Prod.fst
    (frameCache_recordFrameEvent kMaxFrameInfoMapSize subscriber frameEvent bounds)
  dsimp only [frameCache] at recorded
  rw [recorded] at found
  have inserts : frameEvent.type = .frameCaptureBegin ∨ frameEvent.type = .frameEncoded →
      (Call.frameEvent frameEvent bounds).insertedFrame subscriber.eventMediaType =
        some frameEvent.rtpTimestamp := fun kind => by
    rw [Call.insertedFrame, if_pos ⟨same, kind⟩]
  have unnoted : ∀ cached, subscriber.recentFrameInfos.find rtpTimestamp = some cached →
      subscriber.recentFrameInfos.find frameEvent.rtpTimestamp = none →
      (Call.frameEvent frameEvent bounds).noteFrame subscriber.eventMediaType rtpTimestamp cached =
        cached := fun cached present absent =>
    Call.noteFrame_of_other fun both => by rw [both.2, present] at absent; cases absent
  obtain ⟨timestamp, type, mediaType, rtp, size, delayDelta⟩ := frameEvent
  cases type
  case frameCaptureBegin =>
    exact entryOrigin_maybeInsertFrameInfo kMaxFrameInfoMapSize subscriber rfl (inserts (.inl rfl))
      (fun _ _ => Call.noteFrame_of_unnoted rfl) found
  case frameCaptureEnd =>
    cases present : subscriber.recentFrameInfos.find rtp with
    | none =>
      rw [present] at found
      exact .inl ⟨frameInfo, found, (unnoted frameInfo found present).symm⟩
    | some _ =>
      rw [present] at found
      exact entryOrigin_modify same (fun _ => rfl) found
  case frameEncoded =>
    cases present : subscriber.recentFrameInfos.find rtp with
    | none =>
      rw [present] at found
      exact entryOrigin_maybeInsertFrameInfo kMaxFrameInfoMapSize subscriber rfl (inserts (.inr rfl))
        (fun cached cachedFound => unnoted cached cachedFound present) found
    | some _ =>
      rw [present] at found
      exact entryOrigin_modify same (fun _ => rfl) found
  all_goals exact .inl ⟨frameInfo, found, (Call.noteFrame_of_unnoted rfl).symm⟩

/-- What one call can do to one frame's entry: note the call's event on the cached entry, or
insert the frame. -/
theorem entryOrigin_step (call : Call) {rtpTimestamp : Nat} {frameInfo : FrameInfo}
    (found : (subscriber.step kMaxFrameInfoMapSize call).recentFrameInfos.find rtpTimestamp =
      some frameInfo) :
    EntryOrigin subscriber.eventMediaType subscriber.recentFrameInfos call rtpTimestamp frameInfo := by
  have stepped := congrArg Prod.fst (frameCache_step kMaxFrameInfoMapSize subscriber call)
  dsimp only [frameCache] at stepped
  rw [stepped] at found
  cases call with
  | frameEvent frameEvent bounds =>
    dsimp only at found
    split_ifs at found with same
    · exact entryOrigin_recordFrameEvent kMaxFrameInfoMapSize subscriber frameEvent bounds same found
    · exact .inl ⟨frameInfo, found, (Call.noteFrame_of_other fun both => same both.1).symm⟩
  | reset now => simp [new] at found
  | packetEvent => exact .inl ⟨frameInfo, found, rfl⟩
  | getStats => exact .inl ⟨frameInfo, found, rfl⟩

/-- Following one frame's entry from the call that inserted it: when the frame is absent before
`inserting` and stays cached over `segment`, `inserting` inserted it and the entry is the
inserted one with the segment's events noted on it. -/
theorem entry_since_insertion (inserting : Call) (segment : List Call) (rtpTimestamp : Nat)
    (absent : subscriber.recentFrameInfos.find rtpTimestamp = none)
    (stays : ∀ n ≤ segment.length, ((run kMaxFrameInfoMapSize
      (subscriber.step kMaxFrameInfoMapSize inserting) (segment.take n)).recentFrameInfos.find
        rtpTimestamp).isSome) :
    inserting.insertedFrame subscriber.eventMediaType = some rtpTimestamp ∧
      ∃ event bounds, inserting = .frameEvent event bounds ∧
        (run kMaxFrameInfoMapSize (subscriber.step kMaxFrameInfoMapSize inserting)
          segment).recentFrameInfos.find rtpTimestamp =
          some (segment.foldl (Call.noteFrame subscriber.eventMediaType rtpTimestamp)
            event.insertedInfo) := by
  induction segment using List.reverseRecOn with
  | nil =>
    obtain ⟨frameInfo, found⟩ := Option.isSome_iff_exists.mp (stays 0 (Nat.zero_le _))
    rcases entryOrigin_step kMaxFrameInfoMapSize subscriber inserting found with
      ⟨cached, present, -⟩ | ⟨-, inserts, event, bounds, rfl, rfl⟩
    · rw [absent] at present; cases present
    · exact ⟨inserts, event, bounds, rfl, found⟩
  | append_singleton segment call earlier =>
    have staysEarlier : ∀ n ≤ segment.length, ((run kMaxFrameInfoMapSize
        (subscriber.step kMaxFrameInfoMapSize inserting) (segment.take n)).recentFrameInfos.find
          rtpTimestamp).isSome := fun n within => by
      have stayed := stays n (by rw [List.length_append]; omega)
      rwa [List.take_append_of_le_length within] at stayed
    obtain ⟨inserts, event, bounds, rfl, entry⟩ := earlier staysEarlier
    refine ⟨inserts, event, bounds, rfl, ?_⟩
    obtain ⟨frameInfo, found⟩ := Option.isSome_iff_exists.mp
      (stays (segment.length + 1) (by rw [List.length_append]; rfl))
    rw [List.take_of_length_le (by rw [List.length_append]; rfl), run_append, run_cons,
      run_nil] at found
    rw [run_append, run_cons, run_nil, found, List.foldl_append, List.foldl_cons, List.foldl_nil]
    have sameMedia : (run kMaxFrameInfoMapSize (subscriber.step kMaxFrameInfoMapSize
        (.frameEvent event bounds)) segment).eventMediaType = subscriber.eventMediaType := by
      rw [eventMediaType_run, eventMediaType_step]
    rcases entryOrigin_step kMaxFrameInfoMapSize _ call found with
      ⟨cached, present, noted⟩ | ⟨missing, -⟩
    · rw [entry] at present
      cases present
      rw [noted, sameMedia]
    · rw [entry] at missing; cases missing

/-- Every frame cached after a run from construction entered the cache at some call of it and
has stayed since. -/
theorem exists_insertion (eventMediaType : EventMediaType) (now : TimeTicks) (calls : List Call)
    (rtpTimestamp : Nat) {frameInfo : FrameInfo}
    (found : (run kMaxFrameInfoMapSize (new eventMediaType now) calls).recentFrameInfos.find
      rtpTimestamp = some frameInfo) :
    ∃ history inserting segment, calls = history ++ inserting :: segment ∧
      (run kMaxFrameInfoMapSize (new eventMediaType now) history).recentFrameInfos.find
        rtpTimestamp = none ∧
      ∀ n ≤ segment.length, ((run kMaxFrameInfoMapSize (new eventMediaType now)
        (history ++ inserting :: segment.take n)).recentFrameInfos.find rtpTimestamp).isSome := by
  induction calls using List.reverseRecOn generalizing frameInfo with
  | nil => cases found
  | append_singleton calls call earlier =>
    cases present : (run kMaxFrameInfoMapSize (new eventMediaType now) calls).recentFrameInfos.find
      rtpTimestamp with
    | none =>
      refine ⟨calls, call, [], rfl, present, fun n within => ?_⟩
      rw [Nat.le_zero.mp within, List.take_zero, found]
      rfl
    | some cached =>
      obtain ⟨history, inserting, segment, split, absent, stays⟩ := earlier present
      refine ⟨history, inserting, segment ++ [call], by rw [split]; simp, absent, fun n within => ?_⟩
      rw [List.length_append, List.length_singleton] at within
      rcases Nat.lt_or_eq_of_le within with inside | last
      · rw [List.take_append_of_le_length (by omega)]
        exact stays n (by omega)
      · rw [last, List.take_of_length_le (by rw [List.length_append]; rfl), ← List.cons_append,
          ← List.append_assoc, ← split, found]
        rfl

/-- The frame-level samples over a run from construction: a frame event of the engine's media
type samples what `sampleFrame` says for its frame's entry, and nothing when the frame is not
cached; and a cached frame's entry is the one built by the call that last inserted it, a
capture begin or an encode of the frame, with the frame's own events since noted on it. -/
theorem frameLatency_samples (now : TimeTicks) (calls : List Call) (frameEvent : FrameEvent)
    (bounds : OffsetBounds) :
    ((run kMaxFrameInfoMapSize (new frameEvent.mediaType now) calls).step kMaxFrameInfoMapSize
        (.frameEvent frameEvent bounds)).frameLatencies =
        sampleFrame frameEvent bounds
          (run kMaxFrameInfoMapSize (new frameEvent.mediaType now) calls).frameLatencies
          ((run kMaxFrameInfoMapSize (new frameEvent.mediaType now) calls).recentFrameInfos.find
            frameEvent.rtpTimestamp) ∧
      ∀ frameInfo, (run kMaxFrameInfoMapSize (new frameEvent.mediaType now)
          calls).recentFrameInfos.find frameEvent.rtpTimestamp = some frameInfo →
        ∃ history inserting segment event insertingBounds, calls = history ++ inserting :: segment ∧
          (run kMaxFrameInfoMapSize (new frameEvent.mediaType now) history).recentFrameInfos.find
            frameEvent.rtpTimestamp = none ∧
          (∀ n ≤ segment.length, ((run kMaxFrameInfoMapSize (new frameEvent.mediaType now)
            (history ++ inserting :: segment.take n)).recentFrameInfos.find
              frameEvent.rtpTimestamp).isSome) ∧
          inserting = .frameEvent event insertingBounds ∧
          inserting.insertedFrame frameEvent.mediaType = some frameEvent.rtpTimestamp ∧
          frameInfo = segment.foldl (Call.noteFrame frameEvent.mediaType frameEvent.rtpTimestamp)
            event.insertedInfo := by
  refine ⟨frameLatencies_step kMaxFrameInfoMapSize _ frameEvent bounds
    (by rw [eventMediaType_run]; rfl), fun frameInfo found => ?_⟩
  obtain ⟨history, inserting, segment, split, absent, stays⟩ :=
    exists_insertion kMaxFrameInfoMapSize _ now calls _ found
  have staysAfter : ∀ n ≤ segment.length, ((run kMaxFrameInfoMapSize
      ((run kMaxFrameInfoMapSize (new frameEvent.mediaType now) history).step kMaxFrameInfoMapSize
        inserting) (segment.take n)).recentFrameInfos.find frameEvent.rtpTimestamp).isSome :=
    fun n within => by
      have stayed := stays n within
      rwa [run_append, run_cons] at stayed
  obtain ⟨inserts, event, insertingBounds, isEvent, entry⟩ :=
    entry_since_insertion kMaxFrameInfoMapSize _ inserting segment _ absent staysAfter
  rw [eventMediaType_run] at inserts entry
  rw [split, run_append, run_cons, entry] at found
  exact ⟨history, inserting, segment, event, insertingBounds, split, absent, stays, isEvent, inserts,
    (Option.some.inj found).symm⟩

/-- A frame inserted by its encode has a null capture time: its playout adds the whole sender
playout time to the end-to-end latency with no capture begin seen, and a capture begin arriving
once it is cached is not recorded, so the capture end that follows samples nothing. -/
theorem frameLatency_without_capture_time :
    (run 10 (new .videoEvent 0)
      [.frameEvent ⟨10, .frameEncoded, .videoEvent, 7, 0, 0⟩ none,
        .frameEvent ⟨20, .framePlayout, .videoEvent, 7, 0, 5⟩ (some (1, 1))]).e2eLatencyDatapoints =
      1 ∧
    (run 10 (new .videoEvent 0)
      [.frameEvent ⟨10, .frameEncoded, .videoEvent, 7, 0, 0⟩ none,
        .frameEvent ⟨20, .framePlayout, .videoEvent, 7, 0, 5⟩ (some (1, 1))]).totalE2eLatency =
      24 ∧
    (run 10 (new .videoEvent 0)
      [.frameEvent ⟨10, .frameEncoded, .videoEvent, 7, 0, 0⟩ none,
        .frameEvent ⟨12, .frameCaptureBegin, .videoEvent, 7, 0, 0⟩ none,
        .frameEvent ⟨15, .frameCaptureEnd, .videoEvent, 7, 0, 0⟩
          none]).histograms.captureLatencyMsHisto.histogram.buckets.sum = 0 := by
  decide

end StatsEventSubscriber

end CastTelemetry
