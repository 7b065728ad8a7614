import CastTelemetry.FrameIdWrap
import CastTelemetry.Histogram
import CastTelemetry.OrderedMap
import CastTelemetry.Events
import CastTelemetry.Subscriber
import CastTelemetry.Snapshot
import CastTelemetry.Effects
import CastTelemetry.Run
import CastTelemetry.PacketPairing
import CastTelemetry.EventTimes
import CastTelemetry.FrameCache
import CastTelemetry.FrameLatency
import CastTelemetry.Aggregates
import CastTelemetry.Export
import CastTelemetry.SampleCounts
