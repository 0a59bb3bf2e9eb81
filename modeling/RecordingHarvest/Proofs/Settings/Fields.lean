import RecordingHarvest.Settings.Basic

/-!
# The settings, field by field

Six sections of settings are read from a tree in one way: a section is a table, or a list in the
order of its names, each field of it is converted on its own, and a field that is not there has its
default.
`Settings.Part` is a section with its fields and with what it means to read one.

* `parts`: the six sections.
* `eq_of_parts`: settings that agree in every field are the same.
* `ofEntries?_eq_some`: what it means that a tree is read into settings.
-/

namespace RecordingHarvest
namespace Settings

open Setting (field? toText? toWord? toPort? toWordOf? toOption? toBool? toDouble? toNatBelow?)

/-- A field of a section: its name there, how its value converts, and where it is kept. -/
structure Field (σ : Type) where
  {Value : Type}
  key : String
  convert : Setting → Option Value
  get : σ → Value

/-- The value of a field among the entries of its section, with its default from a section. -/
def Field.read? {σ : Type} (f : Field σ) (default : σ) (es : Members Setting) : Option f.Value :=
  field? es f.key f.convert (f.get default)

/-- A section of the settings: its name, the names in it in the order in which a list gives their
values, its fields, where it is kept, and how it is read, which is field by field. -/
structure Part where
  {State : Type}
  name : String
  names : List String
  fields : List (Field State)
  get : Settings → State
  ofSetting? : Setting → Option State
  reads : ∀ x t, ofSetting? x = some t ↔ ∃ es, x.toSection? names = some es ∧
    ∀ f ∈ fields, f.read? (get {}) es = some (f.get t)
  ext : ∀ t t', (∀ f ∈ fields, f.get t = f.get t') → t = t'

namespace Part

def target : Part where
  name := "target"
  names := TargetSettings.names
  fields := [⟨"host", toText?, (·.host)⟩, ⟨"port", toPort?, (·.port)⟩,
    ⟨"connect_timeout_secs", toWord?, (·.connectTimeoutSecs)⟩]
  get := (·.target)
  ofSetting? := TargetSettings.ofSetting?
  reads x t := by
    simp only [TargetSettings.ofSetting?, Option.bind_eq_bind, Option.bind_eq_some_iff,
      Option.pure_def, Option.some.injEq, List.forall_mem_cons, Field.read?]
    refine exists_congr fun es => and_congr_right fun _ => ?_
    cases t
    grind
  ext t t' h := by
    cases t; cases t'
    simpa using h

def recording : Part where
  name := "recording"
  names := RecordingSettings.names
  fields := [⟨"harvest_interval_secs", toWord?, (·.harvestIntervalSecs)⟩,
    ⟨"strategy", toWordOf?, (·.strategy)⟩,
    ⟨"snapshot_directory", toOption? toText?, (·.snapshotDirectory)⟩,
    ⟨"stream_block_size", toWord?, (·.streamBlockSize)⟩,
    ⟨"recording_name", toText?, (·.recordingName)⟩, ⟨"profile", toText?, (·.profile)⟩,
    ⟨"max_age_padding_secs", toWord?, (·.maxAgePaddingSecs)⟩]
  get := (·.recording)
  ofSetting? := RecordingSettings.ofSetting?
  reads x t := by
    simp only [RecordingSettings.ofSetting?, Option.bind_eq_bind, Option.bind_eq_some_iff,
      Option.pure_def, Option.some.injEq, List.forall_mem_cons, Field.read?]
    refine exists_congr fun es => and_congr_right fun _ => ?_
    cases t
    grind
  ext t t' h := by
    cases t; cases t'
    simpa using h

def retry : Part where
  name := "retry"
  names := RetrySettings.names
  fields := [⟨"backoff_factor_ms", toWord?, (·.backoffFactorMs)⟩,
    ⟨"max_backoff_ms", toWord?, (·.maxBackoffMs)⟩,
    ⟨"max_retries", toNatBelow? Number.width32, (·.maxRetries)⟩,
    ⟨"jitter_percent", toDouble?, (·.jitterPercent)⟩,
    ⟨"log_interval_secs", toWord?, (·.logIntervalSecs)⟩]
  get := (·.retry)
  ofSetting? := RetrySettings.ofSetting?
  reads x t := by
    simp only [RetrySettings.ofSetting?, Option.bind_eq_bind, Option.bind_eq_some_iff,
      Option.pure_def, Option.some.injEq, List.forall_mem_cons, Field.read?]
    refine exists_congr fun es => and_congr_right fun _ => ?_
    cases t
    grind
  ext t t' h := by
    cases t; cases t'
    simpa using h

def pipeline : Part where
  name := "pipeline"
  names := PipelineSettings.names
  fields := [⟨"mode", toWordOf?, (·.mode)⟩, ⟨"queue_capacity", toWord?, (·.queueCapacity)⟩,
    ⟨"poll_timeout_ms", toWord?, (·.pollTimeoutMs)⟩,
    ⟨"worker_threads", toWord?, (·.workerThreads)⟩,
    ⟨"flush_interval_secs", toWord?, (·.flushIntervalSecs)⟩,
    ⟨"flush_size_threshold", toWord?, (·.flushSizeThreshold)⟩,
    ⟨"strict_cleanup", toBool?, (·.strictCleanup)⟩]
  get := (·.pipeline)
  ofSetting? := PipelineSettings.ofSetting?
  reads x t := by
    simp only [PipelineSettings.ofSetting?, Option.bind_eq_bind, Option.bind_eq_some_iff,
      Option.pure_def, Option.some.injEq, List.forall_mem_cons, Field.read?]
    refine exists_congr fun es => and_congr_right fun _ => ?_
    cases t
    grind
  ext t t' h := by
    cases t; cases t'
    simpa using h

def telemetry : Part where
  name := "telemetry"
  names := TelemetrySettings.names
  fields := [⟨"app_name", toText?, (·.appName)⟩, ⟨"hostname", toOption? toText?, (·.hostname)⟩,
    ⟨"metrics_uri", toOption? toText?, (·.metricsUri)⟩,
    ⟨"events_uri", toOption? toText?, (·.eventsUri)⟩, ⟨"api_key", toOption? toText?, (·.apiKey)⟩,
    ⟨"compression", toWordOf?, (·.compression)⟩,
    ⟨"resolve_entity_guid", toBool?, (·.resolveEntityGuid)⟩,
    ⟨"request_timeout_secs", toWord?, (·.requestTimeoutSecs)⟩]
  get := (·.telemetry)
  ofSetting? := TelemetrySettings.ofSetting?
  reads x t := by
    simp only [TelemetrySettings.ofSetting?, Option.bind_eq_bind, Option.bind_eq_some_iff,
      Option.pure_def, Option.some.injEq, List.forall_mem_cons, Field.read?]
    refine exists_congr fun es => and_congr_right fun _ => ?_
    cases t
    grind
  ext t t' h := by
    cases t; cases t'
    simpa using h

def observability : Part where
  name := "observability"
  names := ObservabilitySettings.names
  fields := [⟨"log_level", toText?, (·.logLevel)⟩, ⟨"log_format", toWordOf?, (·.logFormat)⟩,
    ⟨"metrics_port", toOption? toPort?, (·.metricsPort)⟩]
  get := (·.observability)
  ofSetting? := ObservabilitySettings.ofSetting?
  reads x t := by
    simp only [ObservabilitySettings.ofSetting?, Option.bind_eq_bind, Option.bind_eq_some_iff,
      Option.pure_def, Option.some.injEq, List.forall_mem_cons, Field.read?]
    refine exists_congr fun es => and_congr_right fun _ => ?_
    cases t
    grind
  ext t t' h := by
    cases t; cases t'
    simpa using h

/-- The entries of a section among the entries of a tree: those of a table, or those of a list in
the order of the section's names. -/
def entries (p : Part) (es : Members Setting) : Members Setting :=
  ((es.get? p.name).bind (Setting.toSection? p.names)).getD []

/-- Whether a section can be read among the entries of a tree, if it is there. -/
def Readable (p : Part) (es : Members Setting) : Prop :=
  ∀ x, es.get? p.name = some x → (x.toSection? p.names).isSome = true

/-- **A section is read field by field**, the fields that are not there by their defaults. -/
theorem field?_eq_some (p : Part) {es : Members Setting} {t : p.State} :
    field? es p.name p.ofSetting? (p.get {}) = some t ↔
      p.Readable es ∧ ∀ f ∈ p.fields, f.read? (p.get {}) (p.entries es) = some (f.get t) := by
  unfold field? Readable entries
  cases hsection : es.get? p.name with
  | none =>
      constructor
      · intro h
        obtain rfl := Option.some.inj h
        exact ⟨nofun, fun _ _ => rfl⟩
      · rintro ⟨-, h⟩
        exact congrArg some (p.ext _ _ fun f hf => Option.some.inj (h f hf))
  | some x =>
      rw [Option.bind_some]
      refine (p.reads x t).trans ?_
      cases hentries : x.toSection? p.names with
      | none =>
          constructor
          · rintro ⟨_, hnone, -⟩
            exact nomatch hnone
          · rintro ⟨hsome, -⟩
            have hx := hsome x rfl
            rw [hentries] at hx
            exact nomatch hx
      | some fields =>
          constructor
          · rintro ⟨_, hsame, h⟩
            obtain rfl := Option.some.inj hsame
            refine ⟨fun y hy => ?_, h⟩
            rw [← Option.some.inj hy, hentries]
            rfl
          · rintro ⟨-, h⟩
            exact ⟨fields, rfl, h⟩

end Part

/-- Every section. -/
def parts : List Part :=
  [.target, .recording, .retry, .pipeline, .telemetry, .observability]

/-- **Settings are the values of their fields.** -/
theorem eq_of_parts {s t : Settings}
    (h : ∀ p ∈ parts, ∀ f ∈ p.fields, f.get (p.get s) = f.get (p.get t)) : s = t := by
  have hparts : ∀ p ∈ parts, p.get s = p.get t := fun p hp => p.ext _ _ (h p hp)
  cases s; cases t
  simpa [parts, Part.target, Part.recording, Part.retry, Part.pipeline, Part.telemetry,
    Part.observability] using hparts

/-- **A tree is read into settings** exactly if each section of it can be read and each field of the
settings is what the tree says of it, or else its default. -/
theorem ofEntries?_eq_some {es : Members Setting} {s : Settings} :
    ofEntries? es = some s ↔ (∀ p ∈ parts, p.Readable es) ∧
      ∀ p ∈ parts, ∀ f ∈ p.fields, f.read? (p.get {}) (p.entries es) = some (f.get (p.get s)) := by
  have hparts : ofEntries? es = some s ↔
      ∀ p ∈ parts, field? es p.name p.ofSetting? (p.get {}) = some (p.get s) := by
    simp only [ofEntries?, Option.bind_eq_bind, Option.bind_eq_some_iff, Option.pure_def,
      Option.some.injEq, parts, List.forall_mem_cons, Part.target, Part.recording, Part.retry,
      Part.pipeline, Part.telemetry, Part.observability]
    cases s
    grind
  rw [hparts]
  constructor
  · intro h
    exact ⟨fun p hp => (p.field?_eq_some.1 (h p hp)).1, fun p hp => (p.field?_eq_some.1 (h p hp)).2⟩
  · rintro ⟨hreadable, hfields⟩ p hp
    exact p.field?_eq_some.2 ⟨hreadable p hp, hfields p hp⟩

end Settings
end RecordingHarvest
