import RecordingHarvest.BuiltinCapability
import RecordingHarvest.Daemon
import RecordingHarvest.Remote.Channel
import RecordingHarvest.Settings.Basic

/-!
# What a run is made from

The plans, the policies and the pipeline that the settings describe.  A recording keeps what it
recorded for one harvest interval and the padding, so that successive snapshots overlap.  Settings
whose interval and padding make no age describe no plan, and there is no run.
-/

namespace RecordingHarvest
namespace Settings

/-- How snapshots are brought over. -/
def captureMethod (s : Settings) : CaptureMethod :=
  match s.recording.strategy with
  | .stream => .stream s.recording.streamBlockSize
  | .copy => .copy

/-- The plan of every session, if a recording has an age. -/
def sessionPlan? (s : Settings) : Option SessionPlan :=
  s.recording.maxAge?.map fun age =>
    { profile := s.recording.profile
      options := .onDisk s.recording.recordingName age
      method := s.captureMethod
      policy := s.retry.boundedPolicy }

/-- The controller's plan: the first connection is waited for as long as it takes. -/
def controllerPlan? (s : Settings) : Option ControllerPlan :=
  s.sessionPlan?.map fun session =>
    { session
      initialPolicy := s.retry.waitForeverPolicy
      interval := s.recording.harvestInterval }

/-- A converter with the shipped capabilities whose first window opens now. -/
def converter (s : Settings) (now : Instant) : Converter Aggregate :=
  .new .default now (.new s.pipeline.flushInterval s.pipeline.flushSizeThreshold)

/-- Where accepted events go. -/
def delivery (s : Settings) (now : Instant) : Delivery Aggregate :=
  match s.pipeline.mode with
  | .direct => .direct (s.converter now)
  | .queued => .queued (.new s.pipeline.queueCapacity)

/-- The uploader at its start. -/
def uploader (s : Settings) (now : Instant) : Uploader Aggregate :=
  .new (s.delivery now) s.pipeline.strictCleanup

/-- The channel to the target. -/
def channel (s : Settings) : Remote.Channel := ⟨s.target.endpoint, s.recording.streamBlockSize⟩

end Settings
end RecordingHarvest
