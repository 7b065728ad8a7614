import CastTelemetry.Effects
import CastTelemetry.Snapshot

/-!
# Runs of the subscriber

A run is the sequence of calls the subscriber receives on its thread: frame and packet
deliveries, each with the estimator's answer during it, and `Reset` and `GetStats`, each
with the clock's reading. `stateAt` is the state before a given call of a run, so that
whole-run results can speak of the call at one index and of the states around it.

`Reset` gives back exactly the state the constructor builds (`reset_eq_new`), so a run
since the last `Reset` is a run from a freshly constructed subscriber, and the history
before a `Reset` changes nothing that follows it (`reset_forgets_history`).
-/

namespace CastTelemetry

/-- One call on the subscriber. -/
inductive Call
  | frameEvent (frameEvent : FrameEvent) (bounds : OffsetBounds)
  | packetEvent (packetEvent : PacketEvent) (bounds : OffsetBounds)
  | reset (now : TimeTicks)
  | getStats (now : TimeTicks)

/-- Whether a call is a `Reset`. -/
def Call.isReset : Call → Bool
  | .reset _ => true
  | _ => false

/-- Whether a call reaches a subscriber of the given media type past the guard at the top of
its handler: a delivery of the other media type returns there. -/
def Call.concerns (eventMediaType : EventMediaType) : Call → Bool
  | .frameEvent event _ => event.mediaType = eventMediaType
  | .packetEvent event _ => event.mediaType = eventMediaType
  | _ => true

/-- The values calls have recorded since the last `Reset`, in order. -/
def sinceReset {α : Type} (value : Call → Option α) (calls : List Call) : List α :=
  calls.foldl (fun values call => if call.isReset then [] else values ++ (value call).toList) []

theorem sinceReset_concat {α : Type} (value : Call → Option α) (calls : List Call) (call : Call) :
    sinceReset value (calls ++ [call]) =
      if call.isReset then [] else sinceReset value calls ++ (value call).toList :=
  List.foldl_append _ _ _ _

/-- A call other than `Reset` appends what it records to the values since the last `Reset`. -/
theorem sinceReset_concat_of_not_reset {α : Type} (value : Call → Option α) (calls : List Call)
    (call : Call) (notReset : call.isReset = false) :
    sinceReset value (calls ++ [call]) = sinceReset value calls ++ (value call).toList := by
  rw [sinceReset_concat, notReset, if_neg Bool.false_ne_true]

/-- Repeated calls that record the same value, none of them a `Reset`, record it once each. -/
theorem sinceReset_replicate {α : Type} (value : Call → Option α) (call : Call) {recorded : α}
    (notReset : call.isReset = false) (records : value call = some recorded) (count : Nat) :
    sinceReset value (List.replicate count call) = List.replicate count recorded := by
  induction count with
  | zero => rfl
  | succ count inductionHypothesis =>
    rw [List.replicate_succ', sinceReset_concat_of_not_reset _ _ _ notReset, inductionHypothesis,
      records, List.replicate_succ']
    rfl

namespace StatsEventSubscriber

variable (kMaxFrameInfoMapSize : Nat)

/-- The subscriber after one call; `GetStats` is const. -/
def step (subscriber : StatsEventSubscriber) : Call → StatsEventSubscriber
  | .frameEvent frameEvent bounds =>
    subscriber.onReceiveFrameEvent kMaxFrameInfoMapSize frameEvent bounds
  | .packetEvent packetEvent bounds => subscriber.onReceivePacketEvent packetEvent bounds
  | .reset now => subscriber.reset now
  | .getStats _ => subscriber

/-- The subscriber after a sequence of calls. -/
def run (subscriber : StatsEventSubscriber) (calls : List Call) : StatsEventSubscriber :=
  calls.foldl (step kMaxFrameInfoMapSize) subscriber

/-- The state before call `k` of a run. -/
def stateAt (start : StatsEventSubscriber) (calls : List Call) (k : Nat) : StatsEventSubscriber :=
  run kMaxFrameInfoMapSize start (calls.take k)

/-- What one call returns: a `GetStats` call its export, with `TimeTicks::UnixEpoch()`. -/
def observe (unixEpoch : TimeTicks) (subscriber : StatsEventSubscriber) : Call → List StatsExport
  | .getStats now => [subscriber.getStats now unixEpoch]
  | _ => []

/-- What the `GetStats` calls of a run return, in order. -/
def outputs (unixEpoch : TimeTicks) : StatsEventSubscriber → List Call → List StatsExport
  | _, [] => []
  | subscriber, call :: calls =>
    observe unixEpoch subscriber call ++
      outputs unixEpoch (subscriber.step kMaxFrameInfoMapSize call) calls

section Lemmas

variable (subscriber : StatsEventSubscriber)

@[simp] theorem run_nil : run kMaxFrameInfoMapSize subscriber [] = subscriber := rfl

@[simp] theorem run_cons (call : Call) (calls : List Call) :
    run kMaxFrameInfoMapSize subscriber (call :: calls) =
      run kMaxFrameInfoMapSize (subscriber.step kMaxFrameInfoMapSize call) calls := rfl

theorem run_append (history calls : List Call) :
    run kMaxFrameInfoMapSize subscriber (history ++ calls) =
      run kMaxFrameInfoMapSize (run kMaxFrameInfoMapSize subscriber history) calls :=
  List.foldl_append _ _ _ _

/-- The state after call `k` is that call applied to the state before it. -/
theorem stateAt_succ {start : StatsEventSubscriber} {calls : List Call} {k : Nat} {call : Call}
    (called : calls[k]? = some call) :
    stateAt kMaxFrameInfoMapSize start calls (k + 1) =
      (stateAt kMaxFrameInfoMapSize start calls k).step kMaxFrameInfoMapSize call := by
  rw [stateAt, stateAt, List.take_succ, called, Option.toList_some, run_append, run_cons, run_nil]

/-- Past the end of a run, the state stays the final one. -/
theorem stateAt_succ_of_none {start : StatsEventSubscriber} {calls : List Call} {k : Nat}
    (ended : calls[k]? = none) :
    stateAt kMaxFrameInfoMapSize start calls (k + 1) = stateAt kMaxFrameInfoMapSize start calls k := by
  rw [stateAt, stateAt, List.take_succ, ended, Option.toList_none, List.append_nil]

theorem stateAt_zero (start : StatsEventSubscriber) (calls : List Call) :
    stateAt kMaxFrameInfoMapSize start calls 0 = start := rfl

/-- Whatever every call keeps, a run keeps. -/
theorem run_induction {holds : StatsEventSubscriber → Prop}
    (preserved : ∀ subscriber call, holds subscriber →
      holds (subscriber.step kMaxFrameInfoMapSize call))
    (calls : List Call) (initially : holds subscriber) :
    holds (run kMaxFrameInfoMapSize subscriber calls) := by
  induction calls generalizing subscriber with
  | nil => exact initially
  | cons call calls inductionHypothesis =>
    exact inductionHypothesis _ (preserved subscriber call initially)

theorem eventMediaType_noteEvent (timestamp : TimeTicks) (receiverEvent : Bool)
    (bounds : OffsetBounds) :
    (subscriber.noteEvent timestamp receiverEvent bounds).eventMediaType =
      subscriber.eventMediaType := by
  have timed : (subscriber.updateFirstLastEventTime timestamp receiverEvent bounds).eventMediaType =
      subscriber.eventMediaType := by
    unfold updateFirstLastEventTime
    split <;> rfl
  unfold noteEvent updateLastResponseTime
  split
  · split <;> exact timed
  · exact timed

/-- No call changes the media type. -/
theorem eventMediaType_step (call : Call) :
    (subscriber.step kMaxFrameInfoMapSize call).eventMediaType = subscriber.eventMediaType := by
  cases call with
  | frameEvent frameEvent bounds =>
    by_cases same : frameEvent.mediaType = subscriber.eventMediaType
    · exact (congrArg Bookkeeping.eventMediaType
        (onReceiveFrameEvent_bookkeeping subscriber kMaxFrameInfoMapSize frameEvent bounds same)).trans
        (eventMediaType_noteEvent _ _ _ _)
    · exact congrArg eventMediaType (onReceiveFrameEvent_of_ne _ _ _ _ same)
  | packetEvent packetEvent bounds =>
    by_cases same : packetEvent.mediaType = subscriber.eventMediaType
    · exact (congrArg Bookkeeping.eventMediaType
        (onReceivePacketEvent_bookkeeping subscriber packetEvent bounds same)).trans
        (eventMediaType_noteEvent _ _ _ _)
    · exact congrArg eventMediaType (onReceivePacketEvent_of_ne _ _ _ same)
  | reset => rfl
  | getStats => rfl

theorem eventMediaType_run (calls : List Call) :
    (run kMaxFrameInfoMapSize subscriber calls).eventMediaType = subscriber.eventMediaType :=
  @run_induction kMaxFrameInfoMapSize subscriber
    (fun state => state.eventMediaType = subscriber.eventMediaType)
    (fun _ _ same => (eventMediaType_step _ _ _).trans same) calls rfl

theorem eventMediaType_stateAt (start : StatsEventSubscriber) (calls : List Call) (k : Nat) :
    (stateAt kMaxFrameInfoMapSize start calls k).eventMediaType = start.eventMediaType :=
  eventMediaType_run _ _ _

theorem outputs_append (unixEpoch : TimeTicks) (history calls : List Call) :
    outputs kMaxFrameInfoMapSize unixEpoch subscriber (history ++ calls) =
      outputs kMaxFrameInfoMapSize unixEpoch subscriber history ++
        outputs kMaxFrameInfoMapSize unixEpoch (run kMaxFrameInfoMapSize subscriber history) calls := by
  induction history generalizing subscriber with
  | nil => rfl
  | cons call history inductionHypothesis =>
    rw [List.cons_append, outputs, outputs, inductionHypothesis, run_cons, List.append_assoc]

end Lemmas

/-- `Reset` builds the state the constructor builds, with the clock's new reading. -/
theorem reset_eq_new (subscriber : StatsEventSubscriber) (now : TimeTicks) :
    subscriber.reset now = new subscriber.eventMediaType now := by
  rw [reset, Histograms.reset_eq_initHistograms]
  rfl

/-- A `Reset` forgets the history before it: the run continues as from a freshly
constructed subscriber of the same media type built at the `Reset`'s clock reading, and
every later `GetStats` returns what it would return there. -/
theorem reset_forgets_history (unixEpoch now : TimeTicks) (subscriber : StatsEventSubscriber)
    (history calls : List Call) :
    run kMaxFrameInfoMapSize subscriber (history ++ .reset now :: calls) =
        run kMaxFrameInfoMapSize (new subscriber.eventMediaType now) calls ∧
      outputs kMaxFrameInfoMapSize unixEpoch subscriber (history ++ .reset now :: calls) =
        outputs kMaxFrameInfoMapSize unixEpoch subscriber history ++
          outputs kMaxFrameInfoMapSize unixEpoch (new subscriber.eventMediaType now) calls := by
  have restarted : (run kMaxFrameInfoMapSize subscriber history).step kMaxFrameInfoMapSize
      (.reset now) = new subscriber.eventMediaType now := by
    rw [step, reset_eq_new, eventMediaType_run]
  constructor
  · rw [run_append, run_cons, restarted]
  · rw [outputs_append, outputs, restarted]
    rfl

/-- A delivery of the other media type changes nothing and returns nothing. -/
theorem step_of_not_concerns (unixEpoch : TimeTicks) {subscriber : StatsEventSubscriber}
    {call : Call} (other : call.concerns subscriber.eventMediaType = false) :
    subscriber.step kMaxFrameInfoMapSize call = subscriber ∧
      observe unixEpoch subscriber call = [] := by
  cases call with
  | frameEvent frameEvent bounds =>
    exact ⟨onReceiveFrameEvent_of_ne _ _ _ _ (of_decide_eq_false other), rfl⟩
  | packetEvent packetEvent bounds =>
    exact ⟨onReceivePacketEvent_of_ne _ _ _ (of_decide_eq_false other), rfl⟩
  | reset => cases other
  | getStats => cases other

/-- A subscriber sees only its own media type, in every interleaving of the two: dropping
from a run every delivery of the other media type changes neither the state the run ends in
nor anything its `GetStats` calls return. -/
theorem run_filter_concerns (unixEpoch : TimeTicks) (subscriber : StatsEventSubscriber)
    (calls : List Call) :
    run kMaxFrameInfoMapSize subscriber (calls.filter (Call.concerns subscriber.eventMediaType)) =
        run kMaxFrameInfoMapSize subscriber calls ∧
      outputs kMaxFrameInfoMapSize unixEpoch subscriber
          (calls.filter (Call.concerns subscriber.eventMediaType)) =
        outputs kMaxFrameInfoMapSize unixEpoch subscriber calls := by
  induction calls generalizing subscriber with
  | nil => exact ⟨rfl, rfl⟩
  | cons call calls inductionHypothesis =>
    by_cases concerned : call.concerns subscriber.eventMediaType
    · have continued := inductionHypothesis (subscriber.step kMaxFrameInfoMapSize call)
      rw [eventMediaType_step] at continued
      rw [List.filter_cons_of_pos concerned, run_cons, run_cons, outputs, outputs, continued.1,
        continued.2]
      exact ⟨rfl, rfl⟩
    · obtain ⟨unchanged, silent⟩ :=
        step_of_not_concerns kMaxFrameInfoMapSize unixEpoch (Bool.eq_false_iff.mpr concerned)
      rw [List.filter_cons_of_neg concerned, run_cons, outputs, unchanged, silent, List.nil_append]
      exact inductionHypothesis subscriber

end StatsEventSubscriber

end CastTelemetry
