import CastTelemetry.Aggregates
import CastTelemetry.EventTimes
import CastTelemetry.PacketPairing

/-!
# The dictionary `GetStats` fills

`GetStats` copies the statistics of `GetStatsInternal` into a `base::DictionaryValue` with
`SetDouble`, then the buckets of each histogram with `Set`, under the names
`CastStatToString` gives. `Set` replaces the value a name held, so the dictionary keeps every
entry only because no two entries share a name: each populate function writes at most its
own statistic, the statistics come in a fixed order without repeats, and `CastStatToString`
names all of them and the histograms apart (`getStats_names_nodup`). The dictionary then
holds exactly the entries (`StatsExport.dictionary_eq_some_iff`). Right after a `Reset` it
holds only the two zero counters and empty histograms (`getStats_reset`).

In a run from construction, the playout report in the dictionary is the batch statistics of
the playouts delivered since the last `Reset` (`exportedPlayouts_run`), and each count
statistic is absent until its kind is delivered and then the number of those deliveries
(`exportedCounts_run`); each rate is the same batch count or total size over the time since
the last `Reset`, and the loss fraction the retransmissions over the `int` sum of sends and
retransmissions, divided as doubles (`exportedRates_run`). `AVG_NETWORK_LATENCY_MS` and
`PACKET_LATENCY_MS_HISTO` report one list of latency samples (`exportedNetworkLatency_run`),
and `MS_SINCE_LAST_RECEIVER_RESPONSE` counts from the receiver event recorded last
(`exportedResponse_run`). Each of these is a state-level reading of the dictionary
(`dictionary_reports`, `mem_getStatsInternal_rates`, `dictionary_stat`) composed with an
invariant of the run (`aggregatesEvents_run`, `startTime_run`, `latencySamples_run`,
`timesFollow_run`).

Every division but the loss fraction's is guarded (`getStatsInternal_finite`). So while the
`int` counters hold the numbers of sends and retransmissions, every double of the dictionary
is finite and the loss fraction is the ratio its comment defines (`exportedDoubles_finite`).
Past 2^32 sends the `int` sum wraps to zero and the fraction is NaN, and past 2^31 playouts
the playout count is negative (`snapshot_counters_wrap`).
-/

namespace CastTelemetry

/-- A value `GetStats` sets in the dictionary: a statistic's double, or the buckets of a
histogram as `GetHistogram` lists them. -/
inductive ExportedValue where
  | double (value : Double)
  | histogram (buckets : List (BucketLabel × Nat))
  deriving DecidableEq

/-- What a count statistic reads in the dictionary: nothing before the first event of its
kind, then the number of those events. -/
def countReport (count : Nat) : Option ExportedValue :=
  if count = 0 then none else some (.double count)

/-- The statistics `GetStatsInternal` may write, call by call, in the order it writes them. -/
def getStatsInternalOrder : List CastStat :=
  [.captureFps] ++ [.encodeFps] ++ [.decodeFps] ++ [.avgPlayoutDelayMs] ++ [.encodeKbps] ++
    [.transmissionKbps] ++ [.retransmissionKbps] ++ [.packetLossFraction] ++
    [.numFramesCaptured] ++ [.numPacketsSent] ++ [.numPacketsRetransmitted] ++
    [.numPacketsRtxRejected] ++ [.avgNetworkLatencyMs] ++ [.avgE2eLatencyMs] ++
    [.msSinceLastReceiverResponse] ++ [.numFramesDroppedByEncoder, .numFramesLate] ++
    [.firstEventTimeMs] ++ [.lastEventTimeMs]

/-- The names `GetStats` may set, in order: the statistics, then the histograms in the key
order of `histograms_`. -/
def exportOrder : List CastStat :=
  getStatsInternalOrder ++ [.captureLatencyMsHisto, .encodeLatencyMsHisto,
    .packetLatencyMsHisto, .frameLatencyMsHisto, .playoutDelayMsHisto]

theorem exportOrder_names_nodup : (exportOrder.map castStatToString).Nodup := by
  decide

theorem castStatToString_inj {stat other : CastStat} (listed : stat ∈ exportOrder)
    (otherListed : other ∈ exportOrder) (same : castStatToString stat = castStatToString other) :
    stat = other :=
  List.inj_on_of_nodup_map exportOrder_names_nodup listed otherListed same

namespace StatsExport

/-- The `SetDouble` calls of `GetStats`, then its `Set` calls, in order. -/
def entries (statsExport : StatsExport) : List (String × ExportedValue) :=
  statsExport.stats.map (fun entry => (entry.1, .double entry.2)) ++
    statsExport.histograms.map fun entry => (entry.1, .histogram entry.2)

/-- `DictionaryValue::Set`: the name holds the value from now on, whatever it held before. -/
def set (dictionary : String → Option ExportedValue) (entry : String × ExportedValue) :
    String → Option ExportedValue :=
  Function.update dictionary entry.1 (some entry.2)

/-- The dictionary `GetStats` fills, read by name. -/
def dictionary (statsExport : StatsExport) : String → Option ExportedValue :=
  statsExport.entries.foldl set fun _ => none

section Sets

variable {entries : List (String × ExportedValue)} {name : String} {value : ExportedValue}

/-- Sets of other names leave a name's value alone. -/
theorem foldl_set_of_not_mem (dictionary : String → Option ExportedValue)
    (absent : name ∉ entries.map Prod.fst) : entries.foldl set dictionary name = dictionary name := by
  induction entries generalizing dictionary with
  | nil => rfl
  | cons entry entries inductionHypothesis =>
    rw [List.map_cons, List.mem_cons, not_or] at absent
    rw [List.foldl_cons, inductionHypothesis _ absent.2, set, Function.update_noteq absent.1]

/-- With the names apart, a name ends with the value its entry sets. -/
theorem foldl_set_of_mem (dictionary : String → Option ExportedValue)
    (apart : (entries.map Prod.fst).Nodup) (entry : (name, value) ∈ entries) :
    entries.foldl set dictionary name = some value := by
  induction entries generalizing dictionary with
  | nil => cases entry
  | cons first entries inductionHypothesis =>
    rw [List.map_cons, List.nodup_cons] at apart
    rw [List.foldl_cons]
    rcases List.mem_cons.mp entry with rfl | later
    · rw [foldl_set_of_not_mem _ apart.1, set, Function.update_same]
    · exact inductionHypothesis _ apart.2 later

end Sets

variable (statsExport : StatsExport) {name : String} {value : ExportedValue}

/-- With the names apart, the dictionary holds exactly the entries. -/
theorem dictionary_eq_some_iff (apart : (statsExport.entries.map Prod.fst).Nodup) :
    statsExport.dictionary name = some value ↔ (name, value) ∈ statsExport.entries := by
  refine ⟨fun found => ?_, foldl_set_of_mem _ apart⟩
  by_cases named : name ∈ statsExport.entries.map Prod.fst
  · obtain ⟨⟨_, held⟩, member, rfl⟩ := List.mem_map.mp named
    rw [dictionary, foldl_set_of_mem _ apart member, Option.some_inj] at found
    exact found ▸ member
  · rw [dictionary, foldl_set_of_not_mem _ named] at found
    cases found

/-- A statistic's entry is a double under its name. -/
theorem mem_entries_double (value : Double) :
    (name, ExportedValue.double value) ∈ statsExport.entries ↔ (name, value) ∈ statsExport.stats := by
  simp [entries]

/-- A name no entry sets is absent from the dictionary. -/
theorem dictionary_eq_none (absent : name ∉ statsExport.entries.map Prod.fst) :
    statsExport.dictionary name = none :=
  foldl_set_of_not_mem _ absent

end StatsExport

namespace StatsEventSubscriber

variable (subscriber : StatsEventSubscriber) (endTime unixEpoch : TimeTicks)

/-- Each populate function writes at most its own statistic, and `GetStatsInternal` calls
them in `getStatsInternalOrder`. -/
theorem keys_getStatsInternal_sublist :
    List.Sublist ((subscriber.getStatsInternal endTime unixEpoch).map Prod.fst)
      getStatsInternalOrder := by
  simp only [getStatsInternal, List.map_append, populateFpsStat, populatePlayoutDelayStat,
    populateFrameBitrateStat, populatePacketBitrateStat, populatePacketLossPercentageStat,
    populateFrameCountStat, populatePacketCountStat]
  unfold getStatsInternalOrder
  repeat' apply List.Sublist.append
  all_goals first
    | (split <;> simp only [List.map_nil, List.map_cons, List.Sublist.refl, List.nil_sublist])
    | exact .refl _

/-- The names `GetStats` sets: the statistics' names, then the histograms'. -/
theorem getStats_names :
    (subscriber.getStats endTime unixEpoch).entries.map Prod.fst =
      ((subscriber.getStatsInternal endTime unixEpoch).map Prod.fst ++
        [CastStat.captureLatencyMsHisto, .encodeLatencyMsHisto, .packetLatencyMsHisto,
          .frameLatencyMsHisto, .playoutDelayMsHisto]).map castStatToString := by
  simp only [StatsExport.entries, getStats, Histograms.toList, List.map_append, List.map_map,
    List.map_cons, List.map_nil, Function.comp_def]

/-- No two entries of `GetStats` share a name: the statistics come in the order of
`GetStatsInternal` without repeats, and `CastStatToString` names them and the histograms
apart. So no `Set` of `GetStats` overwrites an earlier one. -/
theorem getStats_names_nodup :
    ((subscriber.getStats endTime unixEpoch).entries.map Prod.fst).Nodup := by
  rw [getStats_names]
  exact exportOrder_names_nodup.sublist
    (((keys_getStatsInternal_sublist subscriber endTime unixEpoch).append (.refl _)).map _)

section Statistics

variable {subscriber endTime unixEpoch} {stat : CastStat}

theorem mem_getStatsInternalOrder_of_mem {entry : CastStat × Double}
    (member : entry ∈ subscriber.getStatsInternal endTime unixEpoch) :
    entry.1 ∈ getStatsInternalOrder :=
  (keys_getStatsInternal_sublist subscriber endTime unixEpoch).subset (List.mem_map_of_mem _ member)

/-- A statistic's name reads the value `GetStatsInternal` reports for it. -/
theorem dictionary_stat_eq_some_iff (listed : stat ∈ getStatsInternalOrder) (value : Double) :
    (subscriber.getStats endTime unixEpoch).dictionary (castStatToString stat) =
        some (.double value) ↔
      (stat, value) ∈ subscriber.getStatsInternal endTime unixEpoch := by
  rw [StatsExport.dictionary_eq_some_iff _ (getStats_names_nodup subscriber endTime unixEpoch),
    StatsExport.mem_entries_double]
  simp only [getStats, List.mem_map, Prod.mk.injEq]
  refine ⟨fun ⟨entry, member, sameName, sameValue⟩ => ?_, fun member => ⟨_, member, rfl, rfl⟩⟩
  have sameStat : entry.1 = stat := castStatToString_inj
    (List.mem_append_left _ (mem_getStatsInternalOrder_of_mem member)) (List.mem_append_left _ listed)
    sameName
  rw [← sameStat, ← sameValue]
  exact member

/-- A statistic `GetStatsInternal` does not report is absent from the dictionary. -/
theorem dictionary_stat_eq_none (listed : stat ∈ getStatsInternalOrder)
    (unreported : ∀ value, (stat, value) ∉ subscriber.getStatsInternal endTime unixEpoch) :
    (subscriber.getStats endTime unixEpoch).dictionary (castStatToString stat) = none := by
  apply StatsExport.dictionary_eq_none
  rw [getStats_names]
  intro named
  obtain ⟨other, listedOther, same⟩ := List.mem_map.mp named
  rcases List.mem_append.mp listedOther with reported | histogram
  · obtain ⟨entry, member, rfl⟩ := List.mem_map.mp reported
    have sameStat : entry.1 = stat := castStatToString_inj
      (List.mem_append_left _ (mem_getStatsInternalOrder_of_mem member))
      (List.mem_append_left _ listed) same
    apply unreported entry.2
    rw [← sameStat]
    exact member
  · have sameStat : other = stat := castStatToString_inj (List.mem_append_right _ histogram)
      (List.mem_append_left _ listed) same
    rw [sameStat] at histogram
    exact (List.nodup_append.mp (exportOrder_names_nodup.of_map castStatToString)).2.2 listed
      histogram

/-- A statistic reads the value its populate function reports, and is absent while that
function reports nothing. -/
theorem dictionary_stat {reading : Option Double} (listed : stat ∈ getStatsInternalOrder)
    (reported : ∀ value, (stat, value) ∈ subscriber.getStatsInternal endTime unixEpoch ↔
      reading = some value) :
    (subscriber.getStats endTime unixEpoch).dictionary (castStatToString stat) =
      reading.map .double := by
  cases reading with
  | none =>
    exact dictionary_stat_eq_none listed fun value member => nomatch (reported value).mp member
  | some value => exact (dictionary_stat_eq_some_iff listed value).mpr ((reported value).mpr rfl)

end Statistics

variable (stat : CastStat) (value : Double)

theorem mem_populateFrameCountStat (event : CastLoggingEvent) :
    (stat, value) ∈ subscriber.populateFrameCountStat event stat ↔
      (subscriber.frameStats event).map (fun stats => (stats.eventCounter : Double)) = some value := by
  unfold populateFrameCountStat
  cases subscriber.frameStats event <;> simp [eq_comm]

theorem mem_populatePacketCountStat (event : CastLoggingEvent) :
    (stat, value) ∈ subscriber.populatePacketCountStat event stat ↔
      (subscriber.packetStats event).map (fun stats => (stats.eventCounter : Double)) = some value := by
  unfold populatePacketCountStat
  cases subscriber.packetStats event <;> simp [eq_comm]

theorem mem_populatePlayoutDelayStat :
    (.avgPlayoutDelayMs, value) ∈ subscriber.populatePlayoutDelayStat ↔
      (subscriber.frameStats .framePlayout).map (fun stats =>
        if wrapInt32 stats.eventCounter ≠ 0 then
          (inMillisecondsF stats.sumDelay : Double) / wrapInt32 stats.eventCounter else 0) = some value := by
  unfold populatePlayoutDelayStat
  cases subscriber.frameStats .framePlayout <;> simp [eq_comm]

theorem mem_populateFpsStat (event : CastLoggingEvent) :
    (stat, value) ∈ subscriber.populateFpsStat endTime event stat ↔
      (subscriber.frameStats event).map (fun stats => Double.finite
        (if 0 < endTime - subscriber.startTime then
          (wrapInt32 stats.eventCounter : ℚ) / inSecondsF (endTime - subscriber.startTime)
        else 0)) = some value := by
  rw [populateFpsStat_eq]
  cases subscriber.frameStats event <;> simp [eq_comm]

theorem mem_populateFrameBitrateStat :
    (.encodeKbps, value) ∈ subscriber.populateFrameBitrateStat endTime ↔
      (subscriber.frameStats .frameEncoded).map (fun stats => Double.finite
        (if 0 < endTime - subscriber.startTime then
          (stats.sumSize : ℚ) / inMillisecondsF (endTime - subscriber.startTime) * 8
        else 0)) = some value := by
  rw [populateFrameBitrateStat_eq]
  cases subscriber.frameStats .frameEncoded <;> simp [eq_comm]

theorem mem_populatePacketBitrateStat (event : CastLoggingEvent) :
    (stat, value) ∈ subscriber.populatePacketBitrateStat endTime event stat ↔
      (subscriber.packetStats event).map (fun stats => Double.finite
        (if 0 < endTime - subscriber.startTime then
          (stats.sumSize : ℚ) / inMillisecondsF (endTime - subscriber.startTime) * 8
        else 0)) = some value := by
  rw [populatePacketBitrateStat_eq]
  cases subscriber.packetStats event <;> simp [eq_comm]

/-- The loss counts read an unset retransmission counter as zero. -/
theorem lossCounts_eq :
    subscriber.lossCounts = (subscriber.packetStats .packetSentToNetwork).map fun sent =>
      (wrapInt32 sent.eventCounter,
        wrapInt32 (((subscriber.packetStats .packetRetransmitted).map
          PacketLogStats.eventCounter).getD 0)) := by
  unfold lossCounts
  cases subscriber.packetStats .packetRetransmitted <;> rfl

theorem mem_populatePacketLossPercentageStat :
    (.packetLossFraction, value) ∈ subscriber.populatePacketLossPercentageStat ↔
      subscriber.lossCounts.map (fun counts =>
        (counts.2 : Double) / wrapInt32 (counts.1 + counts.2)) = some value := by
  unfold populatePacketLossPercentageStat
  cases subscriber.lossCounts <;> simp [eq_comm]

/-- What `GetStatsInternal` reports under the names of the rate statistics and the loss
fraction: each rate over the time since `start_time_` (0 for a duration that is not positive)
while its kind's counter is set, and the loss fraction of the loss counts. -/
theorem mem_getStatsInternal_rates :
    ((.captureFps, value) ∈ subscriber.getStatsInternal endTime unixEpoch ↔
      (subscriber.frameStats .frameCaptureBegin).map (fun stats => Double.finite
        (if 0 < endTime - subscriber.startTime then
          (wrapInt32 stats.eventCounter : ℚ) / inSecondsF (endTime - subscriber.startTime)
        else 0)) = some value) ∧
    ((.encodeFps, value) ∈ subscriber.getStatsInternal endTime unixEpoch ↔
      (subscriber.frameStats .frameEncoded).map (fun stats => Double.finite
        (if 0 < endTime - subscriber.startTime then
          (wrapInt32 stats.eventCounter : ℚ) / inSecondsF (endTime - subscriber.startTime)
        else 0)) = some value) ∧
    ((.decodeFps, value) ∈ subscriber.getStatsInternal endTime unixEpoch ↔
      (subscriber.frameStats .frameDecoded).map (fun stats => Double.finite
        (if 0 < endTime - subscriber.startTime then
          (wrapInt32 stats.eventCounter : ℚ) / inSecondsF (endTime - subscriber.startTime)
        else 0)) = some value) ∧
    ((.encodeKbps, value) ∈ subscriber.getStatsInternal endTime unixEpoch ↔
      (subscriber.frameStats .frameEncoded).map (fun stats => Double.finite
        (if 0 < endTime - subscriber.startTime then
          (stats.sumSize : ℚ) / inMillisecondsF (endTime - subscriber.startTime) * 8
        else 0)) = some value) ∧
    ((.transmissionKbps, value) ∈ subscriber.getStatsInternal endTime unixEpoch ↔
      (subscriber.packetStats .packetSentToNetwork).map (fun stats => Double.finite
        (if 0 < endTime - subscriber.startTime then
          (stats.sumSize : ℚ) / inMillisecondsF (endTime - subscriber.startTime) * 8
        else 0)) = some value) ∧
    ((.retransmissionKbps, value) ∈ subscriber.getStatsInternal endTime unixEpoch ↔
      (subscriber.packetStats .packetRetransmitted).map (fun stats => Double.finite
        (if 0 < endTime - subscriber.startTime then
          (stats.sumSize : ℚ) / inMillisecondsF (endTime - subscriber.startTime) * 8
        else 0)) = some value) ∧
    ((.packetLossFraction, value) ∈ subscriber.getStatsInternal endTime unixEpoch ↔
      subscriber.lossCounts.map (fun counts =>
        (counts.2 : Double) / wrapInt32 (counts.1 + counts.2)) = some value) := by
  refine ⟨?_, ?_, ?_, ?_, ?_, ?_, ?_⟩ <;>
  simp only [getStatsInternal, List.mem_append, List.mem_ite_nil_right, List.mem_cons,
    List.mem_singleton, Prod.mk.injEq, reduceCtorEq, true_and, false_and, and_false, or_false,
    false_or, List.not_mem_nil, ne_eq, not_false_eq_true, not_mem_populateFpsStat,
    not_mem_populateFrameCountStat, not_mem_populatePlayoutDelayStat,
    not_mem_populateFrameBitrateStat, not_mem_populatePacketBitrateStat,
    not_mem_populatePacketLossPercentageStat, not_mem_populatePacketCountStat,
    mem_populateFpsStat, mem_populateFrameBitrateStat, mem_populatePacketBitrateStat,
    mem_populatePacketLossPercentageStat]

/-- What `GetStatsInternal` reports under the names of the count, playout and network-latency
statistics: each count statistic its kind's counter while that is set, `AVG_PLAYOUT_DELAY_MS`
the total playout delay over the playout count read as an `int`, `NUM_FRAMES_LATE` the late
count, and `AVG_NETWORK_LATENCY_MS` the total network latency over its datapoints once there
is one. -/
theorem mem_getStatsInternal_reports :
    ((.numFramesCaptured, value) ∈ subscriber.getStatsInternal endTime unixEpoch ↔
      (subscriber.frameStats .frameCaptureEnd).map (fun stats => (stats.eventCounter : Double)) =
        some value) ∧
    ((.numPacketsSent, value) ∈ subscriber.getStatsInternal endTime unixEpoch ↔
      (subscriber.packetStats .packetSentToNetwork).map (fun stats => (stats.eventCounter : Double)) =
        some value) ∧
    ((.numPacketsRetransmitted, value) ∈ subscriber.getStatsInternal endTime unixEpoch ↔
      (subscriber.packetStats .packetRetransmitted).map (fun stats => (stats.eventCounter : Double)) =
        some value) ∧
    ((.numPacketsRtxRejected, value) ∈ subscriber.getStatsInternal endTime unixEpoch ↔
      (subscriber.packetStats .packetRtxRejected).map (fun stats => (stats.eventCounter : Double)) =
        some value) ∧
    ((.avgPlayoutDelayMs, value) ∈ subscriber.getStatsInternal endTime unixEpoch ↔
      (subscriber.frameStats .framePlayout).map (fun stats =>
        if wrapInt32 stats.eventCounter ≠ 0 then
          (inMillisecondsF stats.sumDelay : Double) / wrapInt32 stats.eventCounter else 0) = some value) ∧
    ((.numFramesLate, value) ∈ subscriber.getStatsInternal endTime unixEpoch ↔
      value = subscriber.numFramesLate) ∧
    ((.avgNetworkLatencyMs, value) ∈ subscriber.getStatsInternal endTime unixEpoch ↔
      some value = if 0 < subscriber.networkLatencyDatapoints then
        some ((inMillisecondsF subscriber.totalNetworkLatency : Double) /
          subscriber.networkLatencyDatapoints)
      else none) := by
  refine ⟨?_, ?_, ?_, ?_, ?_, ?_, ?_⟩ <;>
  simp only [getStatsInternal, List.mem_append, List.mem_ite_nil_right, List.mem_cons,
    List.mem_singleton, Prod.mk.injEq, reduceCtorEq, true_and, false_and, and_false, or_false,
    false_or, List.not_mem_nil, ne_eq, not_false_eq_true, not_mem_populateFpsStat,
    not_mem_populateFrameCountStat, not_mem_populatePlayoutDelayStat,
    not_mem_populateFrameBitrateStat, not_mem_populatePacketBitrateStat,
    not_mem_populatePacketLossPercentageStat, not_mem_populatePacketCountStat,
    mem_populateFrameCountStat, mem_populatePacketCountStat, mem_populatePlayoutDelayStat,
    Option.some_eq_ite_none_right, Option.some.injEq]

/-- What the dictionary `GetStats` returns holds under the names of the count and playout
statistics, for every state: the readings of `mem_getStatsInternal_reports` as doubles, absent
while unset, and the buckets of `PLAYOUT_DELAY_MS_HISTO`. -/
theorem dictionary_reports :
    (subscriber.getStats endTime unixEpoch).dictionary (castStatToString .numFramesCaptured) =
        ((subscriber.frameStats .frameCaptureEnd).map fun stats =>
          (stats.eventCounter : Double)).map .double ∧
      (subscriber.getStats endTime unixEpoch).dictionary (castStatToString .numPacketsSent) =
        ((subscriber.packetStats .packetSentToNetwork).map fun stats =>
          (stats.eventCounter : Double)).map .double ∧
      (subscriber.getStats endTime unixEpoch).dictionary (castStatToString .numPacketsRetransmitted) =
        ((subscriber.packetStats .packetRetransmitted).map fun stats =>
          (stats.eventCounter : Double)).map .double ∧
      (subscriber.getStats endTime unixEpoch).dictionary (castStatToString .numPacketsRtxRejected) =
        ((subscriber.packetStats .packetRtxRejected).map fun stats =>
          (stats.eventCounter : Double)).map .double ∧
      (subscriber.getStats endTime unixEpoch).dictionary (castStatToString .avgPlayoutDelayMs) =
        ((subscriber.frameStats .framePlayout).map fun stats =>
          if wrapInt32 stats.eventCounter ≠ 0 then
            (inMillisecondsF stats.sumDelay : Double) / wrapInt32 stats.eventCounter else 0).map .double ∧
      (subscriber.getStats endTime unixEpoch).dictionary (castStatToString .numFramesLate) =
        some (.double subscriber.numFramesLate) ∧
      (subscriber.getStats endTime unixEpoch).dictionary (castStatToString .playoutDelayMsHisto) =
        some (.histogram subscriber.histograms.playoutDelayMsHisto.histogram.getHistogram) ∧
      (subscriber.getStats endTime unixEpoch).dictionary (castStatToString .avgNetworkLatencyMs) =
        (if 0 < subscriber.networkLatencyDatapoints then
          some ((inMillisecondsF subscriber.totalNetworkLatency : Double) /
          subscriber.networkLatencyDatapoints)
        else none).map .double ∧
      (subscriber.getStats endTime unixEpoch).dictionary (castStatToString .packetLatencyMsHisto) =
        some (.histogram subscriber.histograms.packetLatencyMsHisto.histogram.getHistogram) := by
  have reports := fun value => mem_getStatsInternal_reports subscriber endTime unixEpoch value
  have apart := getStats_names_nodup subscriber endTime unixEpoch
  refine ⟨dictionary_stat (by decide) fun value => (reports value).1,
    dictionary_stat (by decide) fun value => (reports value).2.1,
    dictionary_stat (by decide) fun value => (reports value).2.2.1,
    dictionary_stat (by decide) fun value => (reports value).2.2.2.1,
    dictionary_stat (by decide) fun value => (reports value).2.2.2.2.1,
    (dictionary_stat_eq_some_iff (by decide) _).mpr ((reports _).2.2.2.2.2.1.mpr rfl), ?_,
    dictionary_stat (by decide) fun value => (reports value).2.2.2.2.2.2.trans eq_comm, ?_⟩ <;>
  rw [StatsExport.dictionary_eq_some_iff _ apart] <;>
  simp [StatsExport.entries, getStats, Histograms.toList]

/-- Right after `Reset`, whatever the history and the clock's readings, `GetStats` reports no
rate, average, count or time: only `NUM_FRAMES_DROPPED_BY_ENCODER` and `NUM_FRAMES_LATE`,
both zero, and every histogram with all its buckets empty. -/
theorem getStats_reset (now : TimeTicks) :
    ((subscriber.reset now).getStats endTime unixEpoch).stats =
        [(castStatToString .numFramesDroppedByEncoder, 0), (castStatToString .numFramesLate, 0)] ∧
      ((subscriber.reset now).getStats endTime unixEpoch).histograms =
        [CastStat.captureLatencyMsHisto, .encodeLatencyMsHisto, .packetLatencyMsHisto,
          .frameLatencyMsHisto, .playoutDelayMsHisto].map fun stat =>
            (castStatToString stat,
              SimpleHistogram.expectedHistogram 0 kMaxLatencyBucketMs kBucketWidthMs []) := by
  have empty : LatencyHistogram.new.histogram.getHistogram =
      SimpleHistogram.expectedHistogram 0 kMaxLatencyBucketMs kBucketWidthMs [] :=
    SimpleHistogram.getHistogram_counts latencyShape (SimpleHistogram.counts_new latencyShape)
  rw [reset_eq_new]
  constructor
  · simp [getStats, getStatsInternal, new, populateFpsStat, populatePlayoutDelayStat,
      populateFrameBitrateStat, populatePacketBitrateStat, populatePacketLossPercentageStat,
      lossCounts, populateFrameCountStat, populatePacketCountStat]
  · simp only [getStats, new, Histograms.initHistograms, Histograms.toList, List.map_cons,
      List.map_nil, empty]

end StatsEventSubscriber

theorem frameAggregate_report (events : List FrameEvent) (type : CastLoggingEvent) :
    ((frameAggregate events type).map fun stats => (stats.eventCounter : Double)).map .double =
      countReport (events.filter (·.type = type)).length := by
  unfold frameAggregate countReport
  cases events.filter (·.type = type) <;> simp

theorem packetAggregate_report (events : List PacketEvent) (type : CastLoggingEvent) :
    ((packetAggregate events type).map fun stats => (stats.eventCounter : Double)).map .double =
      countReport (events.filter (·.type = type)).length := by
  unfold packetAggregate countReport
  cases events.filter (·.type = type) <;> simp

namespace StatsEventSubscriber

section Runs

variable (kMaxFrameInfoMapSize : Nat)

/-- In a run from construction, `NUM_FRAMES_CAPTURED` and the three packet counts of the
dictionary are absent until their kind of event of the engine's media type has been delivered
since the last `Reset`, and then the number of those deliveries. -/
theorem exportedCounts_run (eventMediaType : EventMediaType) (now endTime unixEpoch : TimeTicks)
    (calls : List Call) :
    let statsExport := (run kMaxFrameInfoMapSize (new eventMediaType now) calls).getStats endTime
      unixEpoch
    let frames := sinceReset (Call.frameEventOf eventMediaType) calls
    let packets := sinceReset (Call.packetEventOf eventMediaType) calls
    statsExport.dictionary (castStatToString .numFramesCaptured) =
        countReport (frames.filter (·.type = .frameCaptureEnd)).length ∧
      statsExport.dictionary (castStatToString .numPacketsSent) =
        countReport (packets.filter (·.type = .packetSentToNetwork)).length ∧
      statsExport.dictionary (castStatToString .numPacketsRetransmitted) =
        countReport (packets.filter (·.type = .packetRetransmitted)).length ∧
      statsExport.dictionary (castStatToString .numPacketsRtxRejected) =
        countReport (packets.filter (·.type = .packetRtxRejected)).length := by
  dsimp only
  obtain ⟨captured, sent, retransmitted, rejected, -⟩ :=
    dictionary_reports (run kMaxFrameInfoMapSize (new eventMediaType now) calls) endTime unixEpoch
  have aggregates := aggregatesEvents_run kMaxFrameInfoMapSize eventMediaType now calls
  rw [captured, sent, retransmitted, rejected, aggregates.frames, aggregates.packets]
  exact ⟨frameAggregate_report _ _, packetAggregate_report _ _, packetAggregate_report _ _,
    packetAggregate_report _ _⟩

/-- In a run from construction, the playout report of the dictionary is the batch statistics
of the `FRAME_PLAYOUT` events of the engine's media type delivered since the last `Reset`:
`NUM_FRAMES_LATE` counts those with no positive delay, `AVG_PLAYOUT_DELAY_MS` is absent before
the first of them and then their mean delay over the count read as an `int`, and
`PLAYOUT_DELAY_MS_HISTO` lists, bucket by bucket, exactly their delays in milliseconds. -/
theorem exportedPlayouts_run (eventMediaType : EventMediaType) (now endTime unixEpoch : TimeTicks)
    (calls : List Call) :
    let statsExport := (run kMaxFrameInfoMapSize (new eventMediaType now) calls).getStats endTime
      unixEpoch
    let frames := sinceReset (Call.frameEventOf eventMediaType) calls
    let playouts := frames.filter (·.type = .framePlayout)
    statsExport.dictionary (castStatToString .numFramesLate) = some (.double (latePlayouts frames)) ∧
      statsExport.dictionary (castStatToString .avgPlayoutDelayMs) =
        (if playouts = [] then none else
          some (.double (if wrapInt32 playouts.length ≠ 0 then
            inMillisecondsF (playouts.map FrameEvent.delayDelta).sum / wrapInt32 playouts.length
            else 0))) ∧
      statsExport.dictionary (castStatToString .playoutDelayMsHisto) =
        some (.histogram (SimpleHistogram.expectedHistogram 0 kMaxLatencyBucketMs kBucketWidthMs
          (playoutDelaySamples frames))) := by
  dsimp only
  obtain ⟨-, -, -, -, average, late, histogram, -⟩ :=
    dictionary_reports (run kMaxFrameInfoMapSize (new eventMediaType now) calls) endTime unixEpoch
  have aggregates := aggregatesEvents_run kMaxFrameInfoMapSize eventMediaType now calls
  rw [average, late, histogram, aggregates.frames, aggregates.late,
    SimpleHistogram.getHistogram_counts latencyShape aggregates.playoutDelays]
  refine ⟨rfl, ?_, rfl⟩
  unfold frameAggregate
  cases (sinceReset (Call.frameEventOf eventMediaType) calls).filter (·.type = .framePlayout) <;>
    simp

/-- In a run from construction `PACKET_LOSS_FRACTION` is absent until a send, and then the
retransmissions over the `int` sum of sends and retransmissions, divided as doubles. -/
theorem dictionary_lossFraction_run (eventMediaType : EventMediaType)
    (now endTime unixEpoch : TimeTicks) (calls : List Call) :
    ((run kMaxFrameInfoMapSize (new eventMediaType now) calls).getStats endTime
        unixEpoch).dictionary (castStatToString .packetLossFraction) =
      if (sinceReset (Call.packetEventOf eventMediaType) calls).filter
          (·.type = .packetSentToNetwork) = [] then none
      else some (.double ((wrapInt32 ((sinceReset (Call.packetEventOf eventMediaType) calls).filter
          (·.type = .packetRetransmitted)).length : Double) /
        wrapInt32 (wrapInt32 ((sinceReset (Call.packetEventOf eventMediaType) calls).filter
          (·.type = .packetSentToNetwork)).length +
        wrapInt32 ((sinceReset (Call.packetEventOf eventMediaType) calls).filter
          (·.type = .packetRetransmitted)).length))) := by
  have aggregates := aggregatesEvents_run kMaxFrameInfoMapSize eventMediaType now calls
  rw [dictionary_stat (by decide) fun value =>
    (mem_getStatsInternal_rates (run kMaxFrameInfoMapSize (new eventMediaType now) calls) endTime
      unixEpoch value).2.2.2.2.2.2]
  simp only [lossCounts_eq, aggregates.packets, packetAggregate_count]
  simp only [Option.map_map, packetAggregate_map, Function.comp_apply]
  split <;> rfl

/-- `UpdateLastResponseTime` replaces: from null, the fold keeps the last time recorded. -/
theorem foldl_replaceResponse (times : List TimeTicks) :
    times.foldl replaceResponse 0 = times.getLast?.getD 0 := by
  induction times using List.reverseRecOn with
  | nil => rfl
  | append_singleton times time _ => rw [List.foldl_append, List.getLast?_concat]; rfl

/-- `MS_SINCE_LAST_RECEIVER_RESPONSE` measures from the receiver event delivered last, whatever
its time. In a run from construction the dictionary reports the milliseconds from the sender
time of the last receiver event of the engine's media type recorded since the last `Reset` to
the clock's reading, and nothing when there is none or its time is the null `TimeTicks()`. -/
theorem exportedResponse_run (eventMediaType : EventMediaType) (now endTime unixEpoch : TimeTicks)
    (calls : List Call) :
    ((run kMaxFrameInfoMapSize (new eventMediaType now) calls).getStats endTime unixEpoch).dictionary
        (castStatToString .msSinceLastReceiverResponse) =
      ((sinceReset (Call.responseTime eventMediaType) calls).getLast?.filter (· ≠ 0)).map
        fun time => .double (inMillisecondsF (endTime - time)) := by
  have response := (timesFollow_run kMaxFrameInfoMapSize eventMediaType now calls).response
  rw [foldl_replaceResponse] at response
  refine (dictionary_stat (by decide) fun value => ?_).trans (Option.map_map _ _ _)
  rw [mem_getStatsInternal_msSinceLastReceiverResponse, response]
  cases (sinceReset (Call.responseTime eventMediaType) calls).getLast? with
  | none => simp
  | some time => by_cases set : time = 0 <;> simp [Option.filter, set, eq_comm]

/-- The `int` counters wrap. 2^32 sends and no retransmission since the last `Reset` make the
loss fraction's divisor zero, so `PACKET_LOSS_FRACTION` is NaN where the comment defines
0 / 2^32 = 0; 2^31 playouts, each 1 ms after its target time, make the playout count -2^31,
so `AVG_PLAYOUT_DELAY_MS` reads -1 where their mean delay is 1. -/
theorem snapshot_counters_wrap :
    ((run 1 (new .audioEvent 0) (List.replicate (2 ^ 32)
        (.packetEvent ⟨1, .packetSentToNetwork, .audioEvent, 0, 0, 0⟩ none))).getStats 0
        0).dictionary (castStatToString .packetLossFraction) = some (.double .notANumber) ∧
      ((run 1 (new .audioEvent 0) (List.replicate (2 ^ 31)
        (.frameEvent ⟨1, .framePlayout, .audioEvent, 0, 0, 1000⟩ none))).getStats 0
        0).dictionary (castStatToString .avgPlayoutDelayMs) = some (.double (.finite (-1))) := by
  constructor
  · rw [dictionary_lossFraction_run, sinceReset_replicate (Call.packetEventOf .audioEvent)
      (.packetEvent ⟨1, .packetSentToNetwork, .audioEvent, 0, 0, 0⟩ none) rfl rfl]
    simp only [List.filter_replicate, decide_True, decide_False, reduceCtorEq, if_true, if_false,
      List.replicate_eq_nil_iff, List.length_replicate, List.length_nil]
    have wrapped : wrapInt32 (wrapInt32 ((2 ^ 32 : ℕ) : ℤ) + wrapInt32 ((0 : ℕ) : ℤ)) = 0 := by
      decide
    rw [wrapped, show wrapInt32 ((0 : ℕ) : ℤ) = 0 by decide, Double.intCast_eq, Int.cast_zero,
      Double.zero_div_zero]
  · obtain ⟨-, -, -, -, average, -⟩ := dictionary_reports (run 1 (new .audioEvent 0)
      (List.replicate (2 ^ 31) (.frameEvent ⟨1, .framePlayout, .audioEvent, 0, 0, 1000⟩ none))) 0 0
    rw [average, (aggregatesEvents_run 1 .audioEvent 0 _).frames, sinceReset_replicate
      (Call.frameEventOf .audioEvent) (.frameEvent ⟨1, .framePlayout, .audioEvent, 0, 0, 1000⟩ none)
      rfl rfl, frameAggregate_map]
    simp only [List.filter_replicate, decide_True, if_true, List.replicate_eq_nil_iff,
      List.length_replicate, List.map_replicate, List.sum_replicate]
    have wrapped : wrapInt32 ((2 ^ 31 : ℕ) : ℤ) = -2 ^ 31 := by decide
    have delay : inMillisecondsF (2 ^ 31 • 1000) = 2 ^ 31 := by
      norm_num [inMillisecondsF, nsmul_eq_mul]
    rw [if_neg (by norm_num), wrapped, if_pos (by norm_num), delay, Double.intCast_eq,
      Double.finite_div_finite _ (by norm_num)]
    norm_num

end Runs

end StatsEventSubscriber

end CastTelemetry
