import CastTelemetry.EventTimes

/-!
# The frame cache

`MaybeInsertFrameInfo` keeps per-frame working state for the newest frames: it inserts a
frame unless the frame is cached already and, once the map holds `kMaxFrameInfoMapSize`
entries, erases the entry with the smallest rtp timestamp, counting it as dropped by the
encoder when it has no encode time. The eviction happens as the map reaches the bound, so
the cache never holds more than `kMaxFrameInfoMapSize - 1` frames and the early return for a
full cache never fires.

`maybeInsertFrameInfo_cases` says once what an insertion can do and `frameCache_step` what a
call can do to the cache and the dropped-frame counter. The whole-run law is
`frameCache_holds_largest`: the cache holds the largest of the frames inserted since the last
`Reset`, as many as fit in `kMaxFrameInfoMapSize - 1`. The counter counts evictions of entries
without an encode time, not frames: a frame evicted, captured again and evicted again counts
twice. What bounds it is `droppedFrames_bounded`: the counter and the cache size together never
exceed the number of frames considered since the last `Reset`.
-/

namespace CastTelemetry

/-- The rtp timestamp a call has `MaybeInsertFrameInfo` consider on a subscriber of the given
media type: a capture begin's, or an encode's. An encode of a cached frame does not call it,
but its timestamp is then among those considered already. -/
def Call.insertedFrame (eventMediaType : EventMediaType) : Call → Option Nat
  | .frameEvent event _ =>
    if event.mediaType = eventMediaType ∧
        (event.type = .frameCaptureBegin ∨ event.type = .frameEncoded) then
      some event.rtpTimestamp
    else none
  | _ => none

namespace StatsEventSubscriber

/-- The frame cache and the dropped-frame counter. -/
def frameCache (subscriber : StatsEventSubscriber) : OrderedMap Nat FrameInfo × Nat :=
  (subscriber.recentFrameInfos, subscriber.numFramesDroppedByEncoder)

variable (kMaxFrameInfoMapSize : Nat) (subscriber : StatsEventSubscriber)

/-- What an insertion can do while the cache holds at most `kMaxFrameInfoMapSize - 1`
frames: nothing for a cached frame; insert a new one while there is room; or insert it and
evict the smallest, counting that one when it has no encode time. -/
theorem maybeInsertFrameInfo_cases (rtpTimestamp : Nat) (frameInfo : FrameInfo)
    (bounded : subscriber.recentFrameInfos.size ≤ kMaxFrameInfoMapSize - 1) :
    ((subscriber.recentFrameInfos.find rtpTimestamp).isSome ∧
      subscriber.maybeInsertFrameInfo kMaxFrameInfoMapSize rtpTimestamp frameInfo = subscriber) ∨
    (subscriber.recentFrameInfos.find rtpTimestamp = none ∧
      subscriber.recentFrameInfos.size + 1 < kMaxFrameInfoMapSize ∧
      subscriber.maybeInsertFrameInfo kMaxFrameInfoMapSize rtpTimestamp frameInfo =
        { subscriber with
          recentFrameInfos := subscriber.recentFrameInfos.insert rtpTimestamp frameInfo }) ∨
    (∃ evictedTimestamp evicted, subscriber.recentFrameInfos.find rtpTimestamp = none ∧
      kMaxFrameInfoMapSize ≤ subscriber.recentFrameInfos.size + 1 ∧
      (subscriber.recentFrameInfos.insert rtpTimestamp frameInfo).begin =
        some (evictedTimestamp, evicted) ∧
      subscriber.maybeInsertFrameInfo kMaxFrameInfoMapSize rtpTimestamp frameInfo =
        { subscriber with
          recentFrameInfos := (subscriber.recentFrameInfos.insert rtpTimestamp frameInfo).eraseBegin
          numFramesDroppedByEncoder :=
            if evicted.encodeTime = 0 then subscriber.numFramesDroppedByEncoder + 1
            else subscriber.numFramesDroppedByEncoder }) := by
  have neverFull : ¬(subscriber.recentFrameInfos.size = kMaxFrameInfoMapSize ∧
      belowBegin subscriber.recentFrameInfos rtpTimestamp) := by
    rintro ⟨full, below⟩
    have noBegin : subscriber.recentFrameInfos.begin = none :=
      Option.not_isSome_iff_eq_none.mp fun some =>
        absurd ((OrderedMap.begin_isSome _).mp some) (by omega)
    simp [belowBegin, noBegin] at below
  unfold maybeInsertFrameInfo
  rw [if_neg neverFull]
  dsimp only
  cases present : subscriber.recentFrameInfos.find rtpTimestamp with
  | some _ =>
    have cached : (subscriber.recentFrameInfos.find rtpTimestamp).isSome := by rw [present]; rfl
    have occupied := OrderedMap.size_pos_of_isSome cached
    left
    rw [OrderedMap.insert_of_isSome frameInfo cached,
      if_neg (show ¬kMaxFrameInfoMapSize ≤ subscriber.recentFrameInfos.size by omega)]
    exact ⟨rfl, rfl⟩
  | none =>
    have grown := OrderedMap.size_insert_of_absent frameInfo present
    by_cases room : subscriber.recentFrameInfos.size + 1 < kMaxFrameInfoMapSize
    · rw [grown, if_neg (show ¬kMaxFrameInfoMapSize ≤ subscriber.recentFrameInfos.size + 1 by omega)]
      exact .inr (.inl ⟨rfl, room, rfl⟩)
    · rw [grown, if_pos (show kMaxFrameInfoMapSize ≤ subscriber.recentFrameInfos.size + 1 by omega)]
      obtain ⟨⟨evictedTimestamp, evicted⟩, atBegin⟩ := Option.isSome_iff_exists.mp
        ((OrderedMap.begin_isSome (subscriber.recentFrameInfos.insert rtpTimestamp frameInfo)).mpr
          (by omega))
      exact .inr (.inr ⟨evictedTimestamp, evicted, rfl, by omega, atBegin, by rw [atBegin]⟩)

/-- What a frame recorder does to the cache, by the event's kind: a capture begin inserts;
a capture end updates the capture end time of a cached frame; an encode inserts an uncached
frame and updates the encode time of a cached one; no other kind touches the cache. -/
theorem frameCache_recordFrameEvent (frameEvent : FrameEvent) (bounds : OffsetBounds) :
    (subscriber.recordFrameEvent kMaxFrameInfoMapSize frameEvent bounds).frameCache =
      match frameEvent.type with
      | .frameCaptureBegin =>
        (subscriber.maybeInsertFrameInfo kMaxFrameInfoMapSize frameEvent.rtpTimestamp
          { captureTime := frameEvent.timestamp }).frameCache
      | .frameCaptureEnd =>
        match subscriber.recentFrameInfos.find frameEvent.rtpTimestamp with
        | none => subscriber.frameCache
        | some _ =>
          (subscriber.recentFrameInfos.modify frameEvent.rtpTimestamp
            fun frameInfo => { frameInfo with captureEndTime := frameEvent.timestamp },
            subscriber.numFramesDroppedByEncoder)
      | .frameEncoded =>
        match subscriber.recentFrameInfos.find frameEvent.rtpTimestamp with
        | none =>
          (subscriber.maybeInsertFrameInfo kMaxFrameInfoMapSize frameEvent.rtpTimestamp
            { encodeTime := frameEvent.timestamp }).frameCache
        | some _ =>
          (subscriber.recentFrameInfos.modify frameEvent.rtpTimestamp
            fun frameInfo => { frameInfo with encodeTime := frameEvent.timestamp },
            subscriber.numFramesDroppedByEncoder)
      | _ => subscriber.frameCache := by
  obtain ⟨timestamp, type, mediaType, rtpTimestamp, size, delayDelta⟩ := frameEvent
  cases type
  case frameCaptureEnd =>
    show (subscriber.recordCaptureLatency _).frameCache = _
    unfold recordCaptureLatency
    cases subscriber.recentFrameInfos.find rtpTimestamp <;> rfl
  case frameEncoded =>
    show (subscriber.recordEncodeLatency kMaxFrameInfoMapSize _).frameCache = _
    unfold recordEncodeLatency
    cases subscriber.recentFrameInfos.find rtpTimestamp <;> rfl
  case frameAckSent =>
    show (subscriber.recordFrameTxLatency _ bounds).frameCache = _
    unfold recordFrameTxLatency
    cases subscriber.recentFrameInfos.find rtpTimestamp with
    | none => rfl
    | some frameInfo =>
      dsimp only
      split_ifs
      · rfl
      · cases getReceiverOffset bounds <;> rfl
  case framePlayout =>
    show ((subscriber.recordE2ELatency _ bounds).recordPlayoutDelay _).frameCache = _
    unfold recordE2ELatency
    cases getReceiverOffset bounds
    · rfl
    · cases subscriber.recentFrameInfos.find rtpTimestamp <;> rfl
  all_goals rfl

/-- What one call does to the cache: a delivery of the engine's media type what its frame
recorder does, a `Reset` what the constructor does, anything else nothing. -/
theorem frameCache_step (call : Call) :
    (subscriber.step kMaxFrameInfoMapSize call).frameCache =
      match call with
      | .frameEvent frameEvent bounds =>
        if frameEvent.mediaType = subscriber.eventMediaType then
          (subscriber.recordFrameEvent kMaxFrameInfoMapSize frameEvent bounds).frameCache
        else subscriber.frameCache
      | .reset now => (new subscriber.eventMediaType now).frameCache
      | _ => subscriber.frameCache := by
  cases call with
  | frameEvent frameEvent bounds =>
    show (subscriber.onReceiveFrameEvent kMaxFrameInfoMapSize frameEvent bounds).frameCache =
      if frameEvent.mediaType = subscriber.eventMediaType then
        (subscriber.recordFrameEvent kMaxFrameInfoMapSize frameEvent bounds).frameCache
      else subscriber.frameCache
    split_ifs with same
    · have recorded := congrArg frameCache
        (onReceiveFrameEvent_records subscriber kMaxFrameInfoMapSize frameEvent bounds same)
      exact recorded
    · rw [onReceiveFrameEvent_of_ne _ _ _ _ same]
  | packetEvent packetEvent bounds =>
    show (subscriber.onReceivePacketEvent packetEvent bounds).frameCache = _
    by_cases same : packetEvent.mediaType = subscriber.eventMediaType
    · have recorded := congrArg frameCache
        (onReceivePacketEvent_records subscriber packetEvent bounds same)
      rw [recordPacketEvent_eq] at recorded
      exact recorded
    · rw [onReceivePacketEvent_of_ne _ _ _ same]
  | reset now =>
    show (subscriber.reset now).frameCache = _
    rw [reset_eq_new]
  | getStats => rfl

/-- The cache holds the largest of the frames `inserted`, as many as fit in
`kMaxFrameInfoMapSize - 1`: it holds no more than that, only inserted frames, every inserted
frame it lacks is below every frame it holds, and it lacks one only when it is full. -/
structure HoldsLargest (cache : OrderedMap Nat FrameInfo) (inserted : List Nat) : Prop where
  bounded : cache.size ≤ kMaxFrameInfoMapSize - 1
  subset : ∀ rtpTimestamp, (cache.find rtpTimestamp).isSome → rtpTimestamp ∈ inserted
  below : ∀ lacked ∈ inserted, cache.find lacked = none →
    ∀ held, (cache.find held).isSome → lacked < held
  full : ∀ lacked ∈ inserted, cache.find lacked = none → cache.size = kMaxFrameInfoMapSize - 1

variable {kMaxFrameInfoMapSize}

/-- The law reads the cache through its keys and its size only. -/
theorem HoldsLargest.of_same_keys {cache cache' : OrderedMap Nat FrameInfo} {inserted : List Nat}
    (holds : HoldsLargest kMaxFrameInfoMapSize cache inserted)
    (sameKeys : ∀ rtpTimestamp, (cache'.find rtpTimestamp).isSome = (cache.find rtpTimestamp).isSome)
    (sameSize : cache'.size = cache.size) : HoldsLargest kMaxFrameInfoMapSize cache' inserted := by
  have absent : ∀ rtpTimestamp, cache'.find rtpTimestamp = none ↔ cache.find rtpTimestamp = none :=
    fun rtpTimestamp => by
      rw [← Option.not_isSome_iff_eq_none, ← Option.not_isSome_iff_eq_none, sameKeys]
  exact ⟨sameSize ▸ holds.bounded,
    fun rtpTimestamp present => holds.subset rtpTimestamp (sameKeys rtpTimestamp ▸ present),
    fun lacked member missing held present => holds.below lacked member ((absent lacked).mp missing)
      held (sameKeys held ▸ present),
    fun lacked member missing => sameSize ▸ holds.full lacked member ((absent lacked).mp missing)⟩

/-- Considering a frame the cache holds changes nothing the law reads. -/
theorem HoldsLargest.of_cached {cache : OrderedMap Nat FrameInfo} {inserted : List Nat}
    {rtpTimestamp : Nat} (holds : HoldsLargest kMaxFrameInfoMapSize cache inserted)
    (cached : (cache.find rtpTimestamp).isSome) :
    HoldsLargest kMaxFrameInfoMapSize cache (inserted ++ [rtpTimestamp]) := by
  have within : ∀ other, other ∈ inserted ++ [rtpTimestamp] → cache.find other = none →
      other ∈ inserted := fun other member missing => by
    rcases List.mem_append.mp member with old | fresh
    · exact old
    · rw [List.mem_singleton.mp fresh] at missing
      rw [missing] at cached
      cases cached
  exact ⟨holds.bounded, fun other present => List.mem_append_left _ (holds.subset other present),
    fun lacked member missing => holds.below lacked (within lacked member missing) missing,
    fun lacked member missing => holds.full lacked (within lacked member missing) missing⟩

/-- Updating a cached frame's entry changes nothing the law reads. -/
theorem HoldsLargest.modify {cache : OrderedMap Nat FrameInfo} {inserted : List Nat}
    (holds : HoldsLargest kMaxFrameInfoMapSize cache inserted) (rtpTimestamp : Nat)
    (update : FrameInfo → FrameInfo) :
    HoldsLargest kMaxFrameInfoMapSize (cache.modify rtpTimestamp update) inserted :=
  holds.of_same_keys (fun key => by
    rw [OrderedMap.find_modify]
    split_ifs with same
    · rw [same]
      cases cache.find rtpTimestamp <;> rfl
    · rfl) (OrderedMap.size_modify _ _ _)

/-- Inserting a frame the cache lacks while there is room keeps the law. -/
theorem HoldsLargest.insert {cache : OrderedMap Nat FrameInfo} {inserted : List Nat}
    {rtpTimestamp : Nat} (frameInfo : FrameInfo)
    (holds : HoldsLargest kMaxFrameInfoMapSize cache inserted)
    (absent : cache.find rtpTimestamp = none) (room : cache.size + 1 < kMaxFrameInfoMapSize) :
    HoldsLargest kMaxFrameInfoMapSize (cache.insert rtpTimestamp frameInfo)
      (inserted ++ [rtpTimestamp]) := by
  have grown := OrderedMap.size_insert_of_absent frameInfo absent
  have noneLacked : ∀ lacked ∈ inserted, cache.find lacked ≠ none := fun lacked member missing =>
    absurd (holds.full lacked member missing) (by omega)
  refine ⟨by rw [grown]; omega, fun key present => ?_, fun lacked member missing => ?_,
    fun lacked member missing => ?_⟩
  · rw [OrderedMap.find_insert] at present
    split_ifs at present with same
    · exact List.mem_append_right _ (List.mem_singleton.mpr same)
    · exact List.mem_append_left _ (holds.subset key present)
  all_goals
    rw [OrderedMap.find_insert] at missing
    split_ifs at missing with same
    exact absurd missing (noneLacked lacked
      ((List.mem_append.mp member).resolve_right (mt List.mem_singleton.mp same)))

/-- Inserting a frame the cache lacks into a full cache and evicting the smallest frame keeps
the law: what is evicted is below everything kept. -/
theorem HoldsLargest.insert_eraseBegin {cache : OrderedMap Nat FrameInfo} {inserted : List Nat}
    {rtpTimestamp evictedTimestamp : Nat} {frameInfo evicted : FrameInfo}
    (holds : HoldsLargest kMaxFrameInfoMapSize cache inserted)
    (absent : cache.find rtpTimestamp = none) (full : kMaxFrameInfoMapSize ≤ cache.size + 1)
    (atBegin : (cache.insert rtpTimestamp frameInfo).begin = some (evictedTimestamp, evicted)) :
    HoldsLargest kMaxFrameInfoMapSize (cache.insert rtpTimestamp frameInfo).eraseBegin
      (inserted ++ [rtpTimestamp]) := by
  have findInserted := fun key => OrderedMap.find_insert cache rtpTimestamp key frameInfo
  have findEvicted := OrderedMap.find_eraseBegin atBegin
  have bounded := holds.bounded
  have sameSize : (cache.insert rtpTimestamp frameInfo).eraseBegin.size = cache.size := by
    rw [OrderedMap.size_eraseBegin, OrderedMap.size_insert_of_absent frameInfo absent]; rfl
  have kept : ∀ key, ((cache.insert rtpTimestamp frameInfo).eraseBegin.find key).isSome →
      key ≠ evictedTimestamp ∧ ((cache.insert rtpTimestamp frameInfo).find key).isSome ∧
        (key = rtpTimestamp ∨ (cache.find key).isSome) := by
    intro key present
    rw [findEvicted] at present
    by_cases evictedKey : key = evictedTimestamp
    · rw [if_pos evictedKey] at present; cases present
    · rw [if_neg evictedKey] at present
      refine ⟨evictedKey, present, ?_⟩
      rw [findInserted] at present
      by_cases same : key = rtpTimestamp
      · exact .inl same
      · rw [if_neg same] at present; exact .inr present
  refine ⟨by rw [sameSize]; exact bounded, fun key present => ?_,
    fun lacked member missing held present => ?_, fun _ _ _ => by rw [sameSize]; omega⟩
  · rcases (kept key present).2.2 with same | old
    · exact List.mem_append_right _ (List.mem_singleton.mpr same)
    · exact List.mem_append_left _ (holds.subset key old)
  · obtain ⟨heldKept, heldInserted, heldWhere⟩ := kept held present
    have above : evictedTimestamp < held :=
      lt_of_le_of_ne (OrderedMap.begin_le atBegin heldInserted) (Ne.symm heldKept)
    by_cases lackedEvicted : lacked = evictedTimestamp
    · exact lackedEvicted ▸ above
    rw [findEvicted, if_neg lackedEvicted, findInserted] at missing
    split_ifs at missing with lackedNew
    have lackedBelow := holds.below lacked
      ((List.mem_append.mp member).resolve_right (mt List.mem_singleton.mp lackedNew)) missing
    rcases heldWhere with heldNew | heldOld
    · have evictedOld : (cache.find evictedTimestamp).isSome := by
        have stored := OrderedMap.find_begin atBegin
        rw [findInserted, if_neg fun same => heldKept (heldNew.trans same.symm)] at stored
        rw [stored]; rfl
      exact (lackedBelow _ evictedOld).trans above
    · exact lackedBelow held heldOld

/-- An insertion keeps the law with the frame added to those inserted. -/
theorem HoldsLargest.maybeInsertFrameInfo {inserted : List Nat} (rtpTimestamp : Nat)
    (frameInfo : FrameInfo)
    (holds : HoldsLargest kMaxFrameInfoMapSize subscriber.recentFrameInfos inserted) :
    HoldsLargest kMaxFrameInfoMapSize
      (subscriber.maybeInsertFrameInfo kMaxFrameInfoMapSize rtpTimestamp frameInfo).recentFrameInfos
      (inserted ++ [rtpTimestamp]) := by
  rcases maybeInsertFrameInfo_cases kMaxFrameInfoMapSize subscriber rtpTimestamp frameInfo
      holds.bounded with
    ⟨cached, same⟩ | ⟨absent, room, inserts⟩ | ⟨_, _, absent, full, atBegin, evicts⟩
  · rw [same]
    exact holds.of_cached cached
  · rw [inserts]
    exact holds.insert frameInfo absent room
  · rw [evicts]
    exact holds.insert_eraseBegin absent full atBegin

/-- The empty cache holds the largest of no frames. -/
theorem HoldsLargest.empty : HoldsLargest kMaxFrameInfoMapSize OrderedMap.empty [] :=
  ⟨Nat.zero_le _, fun _ present => absurd present (by simp), fun _ member => absurd member (by simp),
    fun _ member => absurd member (by simp)⟩

/-- A frame recorder keeps the law, with the frame added to those inserted when its kind has
`MaybeInsertFrameInfo` consider it. -/
theorem HoldsLargest.recordFrameEvent {inserted : List Nat} (frameEvent : FrameEvent)
    (bounds : OffsetBounds)
    (holds : HoldsLargest kMaxFrameInfoMapSize subscriber.recentFrameInfos inserted) :
    HoldsLargest kMaxFrameInfoMapSize
      (subscriber.recordFrameEvent kMaxFrameInfoMapSize frameEvent bounds).recentFrameInfos
      (if frameEvent.type = .frameCaptureBegin ∨ frameEvent.type = .frameEncoded then
        inserted ++ [frameEvent.rtpTimestamp] else inserted) := by
  have recorded := congrArg Prod.fst
    (frameCache_recordFrameEvent kMaxFrameInfoMapSize subscriber frameEvent bounds)
  dsimp only [frameCache] at recorded
  rw [recorded]
  obtain ⟨timestamp, type, mediaType, rtpTimestamp, size, delayDelta⟩ := frameEvent
  cases type
  case frameCaptureBegin => exact holds.maybeInsertFrameInfo subscriber _ _
  case frameCaptureEnd =>
    cases subscriber.recentFrameInfos.find rtpTimestamp
    · exact holds
    · exact holds.modify rtpTimestamp fun frameInfo => { frameInfo with captureEndTime := timestamp }
  case frameEncoded =>
    cases cached : subscriber.recentFrameInfos.find rtpTimestamp
    · exact holds.maybeInsertFrameInfo subscriber _ _
    · exact (holds.of_cached (by rw [cached]; rfl)).modify rtpTimestamp
        fun frameInfo => { frameInfo with encodeTime := timestamp }
  all_goals exact holds

/-- One call keeps the law, with the frame it has `MaybeInsertFrameInfo` consider added to
those inserted, and with none inserted after a `Reset`. -/
theorem HoldsLargest.step {inserted : List Nat} (call : Call)
    (holds : HoldsLargest kMaxFrameInfoMapSize subscriber.recentFrameInfos inserted) :
    HoldsLargest kMaxFrameInfoMapSize (subscriber.step kMaxFrameInfoMapSize call).recentFrameInfos
      (if call.isReset then [] else
        inserted ++ (call.insertedFrame subscriber.eventMediaType).toList) := by
  have stepped := congrArg Prod.fst (frameCache_step kMaxFrameInfoMapSize subscriber call)
  dsimp only [frameCache] at stepped
  rw [stepped]
  have unchanged : HoldsLargest kMaxFrameInfoMapSize subscriber.recentFrameInfos (inserted ++ []) := by
    rwa [List.append_nil]
  cases call with
  | frameEvent frameEvent bounds =>
    have recorded := holds.recordFrameEvent subscriber frameEvent bounds
    simp only [Call.isReset, Call.insertedFrame, Bool.false_eq_true, ↓reduceIte]
    by_cases kind : frameEvent.mediaType = subscriber.eventMediaType
    · by_cases considered :
          frameEvent.type = .frameCaptureBegin ∨ frameEvent.type = .frameEncoded
      · rw [if_pos kind, if_pos ⟨kind, considered⟩]
        rw [if_pos considered] at recorded
        exact recorded
      · rw [if_pos kind, if_neg fun both => considered both.2, Option.toList_none, List.append_nil]
        rw [if_neg considered] at recorded
        exact recorded
    · rw [if_neg kind, if_neg fun both => kind both.1]
      exact unchanged
  | reset now => exact HoldsLargest.empty
  | packetEvent => exact unchanged
  | getStats => exact unchanged

/-- The law over a run from construction, by induction on the run. -/
theorem holdsLargest_run (eventMediaType : EventMediaType) (now : TimeTicks) (calls : List Call) :
    HoldsLargest kMaxFrameInfoMapSize
      (run kMaxFrameInfoMapSize (new eventMediaType now) calls).recentFrameInfos
      (sinceReset (Call.insertedFrame eventMediaType) calls) := by
  induction calls using List.reverseRecOn with
  | nil => exact HoldsLargest.empty
  | append_singleton calls call holds =>
    have stepped := holds.step _ call
    rw [eventMediaType_run] at stepped
    rw [run_append, sinceReset_concat]
    exact stepped

/-- Over a whole run from a freshly constructed subscriber, the cache holds the largest of the
frames considered since the last `Reset`, as many as fit in `kMaxFrameInfoMapSize - 1`. -/
theorem frameCache_holds_largest (eventMediaType : EventMediaType) (now : TimeTicks)
    (calls : List Call) :
    HoldsLargest kMaxFrameInfoMapSize
      (run kMaxFrameInfoMapSize (new eventMediaType now) calls).recentFrameInfos
      (sinceReset (Call.insertedFrame eventMediaType) calls) :=
  holdsLargest_run eventMediaType now calls

/-- With `kMaxFrameInfoMapSize = 2`, two captured frames leave one cached: the second
insertion reaches the bound and evicts the first. -/
theorem frameCache_capacity_off_by_one :
    sinceReset (Call.insertedFrame .videoEvent)
        [.frameEvent ⟨1, .frameCaptureBegin, .videoEvent, 1, 0, 0⟩ none,
          .frameEvent ⟨2, .frameCaptureBegin, .videoEvent, 2, 0, 0⟩ none] = [1, 2] ∧
      (run 2 (new .videoEvent 0)
        [.frameEvent ⟨1, .frameCaptureBegin, .videoEvent, 1, 0, 0⟩ none,
          .frameEvent ⟨2, .frameCaptureBegin, .videoEvent, 2, 0, 0⟩ none]).recentFrameInfos.keys =
        [2] := by
  decide

/-- The dropped-frame count and the number of cached frames together. -/
def droppedOrCached (cache : OrderedMap Nat FrameInfo × Nat) : Nat := cache.2 + cache.1.size

/-- An insertion adds at most one to the dropped-frame count and the cache size together: it
keeps the new frame, or evicts one and counts at most that. -/
theorem droppedOrCached_maybeInsertFrameInfo (rtpTimestamp : Nat) (frameInfo : FrameInfo)
    (bounded : subscriber.recentFrameInfos.size ≤ kMaxFrameInfoMapSize - 1) :
    droppedOrCached
        (subscriber.maybeInsertFrameInfo kMaxFrameInfoMapSize rtpTimestamp frameInfo).frameCache ≤
      droppedOrCached subscriber.frameCache + 1 := by
  rcases maybeInsertFrameInfo_cases kMaxFrameInfoMapSize subscriber rtpTimestamp frameInfo
      bounded with ⟨-, same⟩ | ⟨absent, -, inserts⟩ | ⟨_, evicted, absent, -, -, evicts⟩
  · rw [same]
    exact Nat.le_succ _
  all_goals have grown := OrderedMap.size_insert_of_absent frameInfo absent
  · rw [inserts]
    simp only [droppedOrCached, frameCache, grown]
    omega
  · rw [evicts]
    simp only [droppedOrCached, frameCache, OrderedMap.size_eraseBegin, grown]
    split_ifs <;> omega

/-- A frame recorder adds at most one to the dropped-frame count and the cache size together,
and only when its kind has `MaybeInsertFrameInfo` consider its frame. -/
theorem droppedOrCached_recordFrameEvent (frameEvent : FrameEvent) (bounds : OffsetBounds)
    (bounded : subscriber.recentFrameInfos.size ≤ kMaxFrameInfoMapSize - 1) :
    droppedOrCached (subscriber.recordFrameEvent kMaxFrameInfoMapSize frameEvent bounds).frameCache ≤
      droppedOrCached subscriber.frameCache +
        if frameEvent.type = .frameCaptureBegin ∨ frameEvent.type = .frameEncoded then 1 else 0 := by
  rw [frameCache_recordFrameEvent]
  have modified : ∀ update, droppedOrCached (subscriber.recentFrameInfos.modify
      frameEvent.rtpTimestamp update, subscriber.numFramesDroppedByEncoder) =
        droppedOrCached subscriber.frameCache := fun update => by
    simp only [droppedOrCached, frameCache, OrderedMap.size_modify]
  obtain ⟨timestamp, type, mediaType, rtpTimestamp, size, delayDelta⟩ := frameEvent
  cases type
  case frameCaptureBegin => exact droppedOrCached_maybeInsertFrameInfo subscriber _ _ bounded
  case frameCaptureEnd =>
    cases subscriber.recentFrameInfos.find rtpTimestamp
    · exact Nat.le_add_right _ _
    · exact Nat.le_add_right_of_le (modified _).le
  case frameEncoded =>
    cases subscriber.recentFrameInfos.find rtpTimestamp
    · exact droppedOrCached_maybeInsertFrameInfo subscriber _ _ bounded
    · exact Nat.le_add_right_of_le (modified _).le
  all_goals exact Nat.le_add_right _ _

/-- One call adds at most one to the dropped-frame count and the cache size together, and only
when it has `MaybeInsertFrameInfo` consider a frame; a `Reset` clears both. -/
theorem droppedOrCached_step (call : Call)
    (bounded : subscriber.recentFrameInfos.size ≤ kMaxFrameInfoMapSize - 1) :
    droppedOrCached (subscriber.step kMaxFrameInfoMapSize call).frameCache ≤
      if call.isReset then 0 else
        droppedOrCached subscriber.frameCache +
          (call.insertedFrame subscriber.eventMediaType).toList.length := by
  rw [frameCache_step]
  cases call with
  | frameEvent frameEvent bounds =>
    have recorded := droppedOrCached_recordFrameEvent subscriber frameEvent bounds bounded
    simp only [Call.isReset, Call.insertedFrame, Bool.false_eq_true, ↓reduceIte]
    by_cases kind : frameEvent.mediaType = subscriber.eventMediaType
    · by_cases considered :
          frameEvent.type = .frameCaptureBegin ∨ frameEvent.type = .frameEncoded
      · rw [if_pos kind, if_pos ⟨kind, considered⟩]
        rw [if_pos considered] at recorded
        exact recorded
      · rw [if_pos kind, if_neg fun both => considered both.2]
        rw [if_neg considered] at recorded
        exact recorded
    · rw [if_neg kind]
      exact Nat.le_add_right _ _
  | reset now => exact Nat.le_refl 0
  | packetEvent => exact Nat.le_add_right _ _
  | getStats => exact Nat.le_add_right _ _

/-- Over a run from construction, the dropped-frame count and the number of cached frames
together never exceed the number of frames considered since the last `Reset`. -/
theorem droppedFrames_bounded (eventMediaType : EventMediaType) (now : TimeTicks)
    (calls : List Call) :
    (run kMaxFrameInfoMapSize (new eventMediaType now) calls).numFramesDroppedByEncoder +
        (run kMaxFrameInfoMapSize (new eventMediaType now) calls).recentFrameInfos.size ≤
      (sinceReset (Call.insertedFrame eventMediaType) calls).length := by
  induction calls using List.reverseRecOn with
  | nil => exact Nat.le_refl 0
  | append_singleton calls call bounded =>
    have stepped := droppedOrCached_step _ call
      (@holdsLargest_run kMaxFrameInfoMapSize eventMediaType now calls).bounded
    rw [eventMediaType_run] at stepped
    rw [run_append, run_cons, run_nil, sinceReset_concat]
    split_ifs at stepped ⊢
    · exact stepped
    · rw [List.length_append]
      exact stepped.trans (Nat.add_le_add_right bounded _)

/-- The dropped-frame counter counts evictions, not frames: with `kMaxFrameInfoMapSize = 2`, a
capture begin replayed for an evicted frame inserts and evicts it again and counts it twice;
and a frame encoded at the null time is counted although its encode was observed. -/
theorem droppedFrames_miscounted :
    (run 2 (new .videoEvent 0)
      [.frameEvent ⟨1, .frameCaptureBegin, .videoEvent, 5, 0, 0⟩ none,
        .frameEvent ⟨2, .frameCaptureBegin, .videoEvent, 6, 0, 0⟩ none,
        .frameEvent ⟨3, .frameCaptureBegin, .videoEvent, 5, 0, 0⟩ none]).numFramesDroppedByEncoder =
      2 ∧
    (run 2 (new .videoEvent 0)
      [.frameEvent ⟨1, .frameCaptureBegin, .videoEvent, 5, 0, 0⟩ none,
        .frameEvent ⟨0, .frameEncoded, .videoEvent, 5, 0, 0⟩ none,
        .frameEvent ⟨2, .frameCaptureBegin, .videoEvent, 6, 0, 0⟩ none]).numFramesDroppedByEncoder =
      1 := by
  decide

end StatsEventSubscriber

end CastTelemetry
