import RecordingHarvest.BuiltinCapability
import RecordingHarvest.Daemon
import RecordingHarvest.Delivery.Ingest
import RecordingHarvest.EntityGuid
import RecordingHarvest.LogFilter
import RecordingHarvest.Remote.Channel
import RecordingHarvest.Scripted
import RecordingHarvest.Settings.Load
import RecordingHarvest.Settings.Plan
import RecordingHarvest.Proofs.Watermark.Overlap
import RecordingHarvest.Proofs.Delivery.Interleaving
import RecordingHarvest.Proofs.Delivery.Consuming
import RecordingHarvest.Proofs.Delivery.Passing
import RecordingHarvest.Proofs.Delivery.Clearing
import RecordingHarvest.Proofs.Recording.Streaming
import RecordingHarvest.Proofs.Recording.LostConnection
import RecordingHarvest.Proofs.Recording.Resolving
import RecordingHarvest.Proofs.Recording.Starting
import RecordingHarvest.Proofs.Watermark.Latest
import RecordingHarvest.Proofs.Conversion.Tiling
import RecordingHarvest.Proofs.Event.WrittenBack
import RecordingHarvest.Proofs.Recording.Handoff
import RecordingHarvest.Proofs.Settings.Layers
import RecordingHarvest.Proofs.Remote.Messages
import RecordingHarvest.Proofs.Event.LineByLine
import RecordingHarvest.Proofs.Settings.Retention
import RecordingHarvest.Proofs.Delivery.FlushTimes
import RecordingHarvest.Proofs.Conversion.Wholeness
import RecordingHarvest.Proofs.Retry.Throttling
import RecordingHarvest.Proofs.Workers.Losses
import RecordingHarvest.Proofs.Attributes.InstanceId
import RecordingHarvest.Proofs.Event.DottedPath
