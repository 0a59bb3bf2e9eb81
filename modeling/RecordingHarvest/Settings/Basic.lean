import RecordingHarvest.BackoffPolicy
import RecordingHarvest.Number.Digits
import RecordingHarvest.Settings.Tree

/-!
# The settings

Every setting with its default, how a settings tree is read into them, and the five rules that they
must keep (`Settings.violation?`).  What the rest of the program asks for is derived from them: spans,
policies, the endpoint.
-/

namespace RecordingHarvest

/-- Where accepted events go. -/
inductive DeliveryMode where
  | direct
  | queued
  deriving DecidableEq, Repr

/-- How a snapshot is brought over. -/
inductive SnapshotStrategy where
  | stream
  | copy
  deriving DecidableEq, Repr

/-- How payloads are compressed. -/
inductive Compression where
  | none
  | zstd
  deriving DecidableEq, Repr

/-- How log lines are written. -/
inductive LogFormat where
  | pretty
  | json
  deriving DecidableEq, Repr

/-- A setting with few values: each with its word. -/
class Choice (α : Type) where
  words : List (String × α)

instance : Choice DeliveryMode := ⟨[("direct", .direct), ("queued", .queued)]⟩
instance : Choice SnapshotStrategy := ⟨[("stream", .stream), ("copy", .copy)]⟩
instance : Choice Compression := ⟨[("none", .none), ("zstd", .zstd)]⟩
instance : Choice LogFormat := ⟨[("pretty", .pretty), ("json", .json)]⟩

/-- The word for a value. -/
def Choice.word {α : Type} [Choice α] [DecidableEq α] (a : α) : String :=
  ((words.find? fun (_, b) => b = a).map Prod.fst).getD ""

/-- Where the target listens. -/
structure TargetSettings where
  host : String := "localhost"
  port : Nat := 1099
  connectTimeoutSecs : Nat := 5
  deriving DecidableEq, Repr

/-- What is recorded, and how often it is harvested. -/
structure RecordingSettings where
  harvestIntervalSecs : Nat := 10
  strategy : SnapshotStrategy := .stream
  /-- The root of the snapshot directories, if not the system's own place. -/
  snapshotDirectory : Option String := none
  streamBlockSize : Nat := 5 * 1024 * 1024
  recordingName : String := "Harvest Daemon Recording"
  profile : String := "profile"
  /-- How much longer than one interval the target keeps what it recorded. -/
  maxAgePaddingSecs : Nat := 10
  deriving DecidableEq, Repr

/-- How failures are retried. -/
structure RetrySettings where
  backoffFactorMs : Nat := 1000
  maxBackoffMs : Nat := 15000
  maxRetries : Nat := 5
  jitterPercent : Float := 0.0
  logIntervalSecs : Nat := 10
  deriving Repr

/-- How events get from a snapshot to the backend. -/
structure PipelineSettings where
  mode : DeliveryMode := .direct
  queueCapacity : Nat := 250000
  pollTimeoutMs : Nat := 1000
  workerThreads : Nat := 2
  flushIntervalSecs : Nat := 10
  flushSizeThreshold : Nat := 10000
  strictCleanup : Bool := false
  deriving DecidableEq, Repr

/-- The backend and the identity that is reported to it. -/
structure TelemetrySettings where
  appName : String := "My Application"
  hostname : Option String := none
  metricsUri : Option String := none
  eventsUri : Option String := none
  apiKey : Option String := none
  compression : Compression := .zstd
  resolveEntityGuid : Bool := true
  requestTimeoutSecs : Nat := 120
  deriving DecidableEq, Repr

/-- What the program says about itself. -/
structure ObservabilitySettings where
  logLevel : String := "info"
  logFormat : LogFormat := .pretty
  metricsPort : Option Nat := none
  deriving DecidableEq, Repr

/-- All settings. -/
structure Settings where
  target : TargetSettings := {}
  recording : RecordingSettings := {}
  retry : RetrySettings := {}
  pipeline : PipelineSettings := {}
  telemetry : TelemetrySettings := {}
  observability : ObservabilitySettings := {}
  deriving Repr

namespace Setting

/-- A whole number of 64 bits. -/
def toWord? : Setting → Option Nat := toNatBelow? Number.width64

/-- A port number. -/
def toPort? : Setting → Option Nat := toNatBelow? Number.width16

/-- A value with a word. -/
def toWordOf? {α : Type} [Choice α] : Setting → Option α := toChoice? Choice.words

end Setting

open Setting (field? toText? toWord? toPort? toWordOf? toOption? toBool? toDouble? toNatBelow?)

namespace TargetSettings

def names : List String := ["host", "port", "connect_timeout_secs"]

def ofSetting? (s : Setting) : Option TargetSettings := do
  let es ← s.toSection? names
  let d : TargetSettings := {}
  return {
    host := ← field? es "host" toText? d.host
    port := ← field? es "port" toPort? d.port
    connectTimeoutSecs := ← field? es "connect_timeout_secs" toWord? d.connectTimeoutSecs }

/-- The address of the target's management interface. -/
def endpoint (t : TargetSettings) : String := "http://" ++ t.host ++ ":" ++ Number.naturalText t.port

def connectTimeout (t : TargetSettings) : Span := .ofSecs t.connectTimeoutSecs

end TargetSettings

namespace RecordingSettings

def names : List String :=
  ["harvest_interval_secs", "strategy", "snapshot_directory", "stream_block_size", "recording_name",
    "profile", "max_age_padding_secs"]

def ofSetting? (s : Setting) : Option RecordingSettings := do
  let es ← s.toSection? names
  let d : RecordingSettings := {}
  return {
    harvestIntervalSecs := ← field? es "harvest_interval_secs" toWord? d.harvestIntervalSecs
    strategy := ← field? es "strategy" toWordOf? d.strategy
    snapshotDirectory :=
      ← field? es "snapshot_directory" (toOption? toText?) d.snapshotDirectory
    streamBlockSize := ← field? es "stream_block_size" toWord? d.streamBlockSize
    recordingName := ← field? es "recording_name" toText? d.recordingName
    profile := ← field? es "profile" toText? d.profile
    maxAgePaddingSecs := ← field? es "max_age_padding_secs" toWord? d.maxAgePaddingSecs }

def harvestInterval (r : RecordingSettings) : Span := .ofSecs r.harvestIntervalSecs

/-- How long the target keeps what it recorded: the interval and the padding.  Seconds are counted
in words of 64 bits, and a sum that does not fit one is no age at all. -/
def maxAge? (r : RecordingSettings) : Option Span :=
  let secs := r.harvestIntervalSecs + r.maxAgePaddingSecs
  if secs < Number.width64 then some (.ofSecs secs) else none

end RecordingSettings

namespace RetrySettings

def names : List String :=
  ["backoff_factor_ms", "max_backoff_ms", "max_retries", "jitter_percent", "log_interval_secs"]

def ofSetting? (s : Setting) : Option RetrySettings := do
  let es ← s.toSection? names
  let d : RetrySettings := {}
  return {
    backoffFactorMs := ← field? es "backoff_factor_ms" toWord? d.backoffFactorMs
    maxBackoffMs := ← field? es "max_backoff_ms" toWord? d.maxBackoffMs
    maxRetries := ← field? es "max_retries" (toNatBelow? Number.width32) d.maxRetries
    jitterPercent := ← field? es "jitter_percent" toDouble? d.jitterPercent
    logIntervalSecs := ← field? es "log_interval_secs" toWord? d.logIntervalSecs }

/-- The policy that gives up after the set number of waits. -/
def boundedPolicy (r : RetrySettings) : BackoffPolicy :=
  (BackoffPolicy.new (.ofMillis r.backoffFactorMs) (.ofMillis r.maxBackoffMs)
    (some r.maxRetries)).withJitter r.jitterPercent

/-- The policy that never gives up. -/
def waitForeverPolicy (r : RetrySettings) : BackoffPolicy :=
  (BackoffPolicy.new (.ofMillis r.backoffFactorMs) (.ofMillis r.maxBackoffMs) none).withJitter
    r.jitterPercent

def logInterval (r : RetrySettings) : Span := .ofSecs r.logIntervalSecs

end RetrySettings

namespace PipelineSettings

def names : List String :=
  ["mode", "queue_capacity", "poll_timeout_ms", "worker_threads", "flush_interval_secs",
    "flush_size_threshold", "strict_cleanup"]

def ofSetting? (s : Setting) : Option PipelineSettings := do
  let es ← s.toSection? names
  let d : PipelineSettings := {}
  return {
    mode := ← field? es "mode" toWordOf? d.mode
    queueCapacity := ← field? es "queue_capacity" toWord? d.queueCapacity
    pollTimeoutMs := ← field? es "poll_timeout_ms" toWord? d.pollTimeoutMs
    workerThreads := ← field? es "worker_threads" toWord? d.workerThreads
    flushIntervalSecs := ← field? es "flush_interval_secs" toWord? d.flushIntervalSecs
    flushSizeThreshold := ← field? es "flush_size_threshold" toWord? d.flushSizeThreshold
    strictCleanup := ← field? es "strict_cleanup" toBool? d.strictCleanup }

def flushInterval (p : PipelineSettings) : Span := .ofSecs p.flushIntervalSecs

def pollTimeout (p : PipelineSettings) : Span := .ofMillis p.pollTimeoutMs

end PipelineSettings

namespace TelemetrySettings

def names : List String :=
  ["app_name", "hostname", "metrics_uri", "events_uri", "api_key", "compression",
    "resolve_entity_guid", "request_timeout_secs"]

def ofSetting? (s : Setting) : Option TelemetrySettings := do
  let es ← s.toSection? names
  let d : TelemetrySettings := {}
  return {
    appName := ← field? es "app_name" toText? d.appName
    hostname := ← field? es "hostname" (toOption? toText?) d.hostname
    metricsUri := ← field? es "metrics_uri" (toOption? toText?) d.metricsUri
    eventsUri := ← field? es "events_uri" (toOption? toText?) d.eventsUri
    apiKey := ← field? es "api_key" (toOption? toText?) d.apiKey
    compression := ← field? es "compression" toWordOf? d.compression
    resolveEntityGuid := ← field? es "resolve_entity_guid" toBool? d.resolveEntityGuid
    requestTimeoutSecs := ← field? es "request_timeout_secs" toWord? d.requestTimeoutSecs }

end TelemetrySettings

namespace ObservabilitySettings

def names : List String := ["log_level", "log_format", "metrics_port"]

def ofSetting? (s : Setting) : Option ObservabilitySettings := do
  let es ← s.toSection? names
  let d : ObservabilitySettings := {}
  return {
    logLevel := ← field? es "log_level" toText? d.logLevel
    logFormat := ← field? es "log_format" toWordOf? d.logFormat
    metricsPort := ← field? es "metrics_port" (toOption? toPort?) d.metricsPort }

end ObservabilitySettings

namespace Settings

/-- The settings that a tree's entries say; every other setting has its default. -/
def ofEntries? (es : Members Setting) : Option Settings := do
  let d : Settings := {}
  return {
    target := ← field? es "target" TargetSettings.ofSetting? d.target
    recording := ← field? es "recording" RecordingSettings.ofSetting? d.recording
    retry := ← field? es "retry" RetrySettings.ofSetting? d.retry
    pipeline := ← field? es "pipeline" PipelineSettings.ofSetting? d.pipeline
    telemetry := ← field? es "telemetry" TelemetrySettings.ofSetting? d.telemetry
    observability :=
      ← field? es "observability" ObservabilitySettings.ofSetting? d.observability }

/-! ## The document of the settings -/

/-- A text that may be missing. -/
def optionalText : Option String → Json
  | some s => .str s
  | none => .null

/-- The settings as a document, section by section. -/
def toJson (s : Settings) : Json :=
  let nat (n : Nat) : Json := .int n
  .obj [
    ("target", .obj [("host", .str s.target.host), ("port", nat s.target.port),
      ("connect_timeout_secs", nat s.target.connectTimeoutSecs)]),
    ("recording", .obj [("harvest_interval_secs", nat s.recording.harvestIntervalSecs),
      ("strategy", .str (Choice.word s.recording.strategy)),
      ("snapshot_directory", optionalText s.recording.snapshotDirectory),
      ("stream_block_size", nat s.recording.streamBlockSize),
      ("recording_name", .str s.recording.recordingName), ("profile", .str s.recording.profile),
      ("max_age_padding_secs", nat s.recording.maxAgePaddingSecs)]),
    ("retry", .obj [("backoff_factor_ms", nat s.retry.backoffFactorMs),
      ("max_backoff_ms", nat s.retry.maxBackoffMs), ("max_retries", nat s.retry.maxRetries),
      ("jitter_percent",
        if s.retry.jitterPercent.isFinite then .float s.retry.jitterPercent else .null),
      ("log_interval_secs", nat s.retry.logIntervalSecs)]),
    ("pipeline", .obj [("mode", .str (Choice.word s.pipeline.mode)),
      ("queue_capacity", nat s.pipeline.queueCapacity),
      ("poll_timeout_ms", nat s.pipeline.pollTimeoutMs),
      ("worker_threads", nat s.pipeline.workerThreads),
      ("flush_interval_secs", nat s.pipeline.flushIntervalSecs),
      ("flush_size_threshold", nat s.pipeline.flushSizeThreshold),
      ("strict_cleanup", .bool s.pipeline.strictCleanup)]),
    ("telemetry", .obj [("app_name", .str s.telemetry.appName),
      ("hostname", optionalText s.telemetry.hostname),
      ("metrics_uri", optionalText s.telemetry.metricsUri),
      ("events_uri", optionalText s.telemetry.eventsUri),
      ("api_key", optionalText s.telemetry.apiKey),
      ("compression", .str (Choice.word s.telemetry.compression)),
      ("resolve_entity_guid", .bool s.telemetry.resolveEntityGuid),
      ("request_timeout_secs", nat s.telemetry.requestTimeoutSecs)]),
    ("observability", .obj [("log_level", .str s.observability.logLevel),
      ("log_format", .str (Choice.word s.observability.logFormat)),
      ("metrics_port", (s.observability.metricsPort.map nat).getD .null)])]

/-! ## Rules -/

/-- A rule that settings can break. -/
inductive Rule where
  | harvestIntervalPositive
  | blockSizePositive
  | queueCapacityPositive
  | workerThreadsPositive
  | backoffOrdered
  deriving DecidableEq, Repr

/-- What a rule says. -/
def Rule.text : Rule → String
  | .harvestIntervalPositive => "recording.harvest_interval_secs must be positive"
  | .blockSizePositive => "recording.stream_block_size must be positive"
  | .queueCapacityPositive => "pipeline.queue_capacity must be positive"
  | .workerThreadsPositive => "pipeline.worker_threads must be positive"
  | .backoffOrdered => "retry.max_backoff_ms must not be below retry.backoff_factor_ms"

/-- Whether settings break a rule. -/
def breaks (s : Settings) : Rule → Bool
  | .harvestIntervalPositive => s.recording.harvestIntervalSecs == 0
  | .blockSizePositive => s.recording.streamBlockSize == 0
  | .queueCapacityPositive => s.pipeline.queueCapacity == 0
  | .workerThreadsPositive => s.pipeline.workerThreads == 0
  | .backoffOrdered => s.retry.maxBackoffMs < s.retry.backoffFactorMs

/-- The rules in the order they are checked. -/
def rules : List Rule :=
  [.harvestIntervalPositive, .blockSizePositive, .queueCapacityPositive, .workerThreadsPositive,
    .backoffOrdered]

/-- The first rule that settings break. -/
def violation? (s : Settings) : Option Rule := rules.find? s.breaks

end Settings
end RecordingHarvest
