import RecordingHarvest.Json.Value
import RecordingHarvest.Text.Blank

/-!
# Attributes

Named values attached to records and batches, ordered by name.  `identity` builds the set that
every batch of a run starts from, with the service instance id taken from the environment.
-/

namespace RecordingHarvest

/-- Values by name; names are sorted and each stands once. -/
structure Attributes where
  entries : Members Json
  deriving Repr, BEq, Inhabited

namespace Attributes

def empty : Attributes := ⟨[]⟩

/-- The attributes of an object's members. -/
def ofMembers (ms : Members Json) : Attributes := ⟨Members.ofEntries ms⟩

def put (a : Attributes) (name : String) (value : Json) : Attributes := ⟨a.entries.put name value⟩

def get? (a : Attributes) (name : String) : Option Json := a.entries.get? name

/-- The value of a name, if it is a string. -/
def getText? (a : Attributes) (name : String) : Option String := (a.get? name).bind Json.str?

/-- The entries of `extra` over those of `a`. -/
def merge (a extra : Attributes) : Attributes := ⟨a.entries.putAll extra.entries⟩

def size (a : Attributes) : Nat := a.entries.length

def toJson (a : Attributes) : Json := .obj a.entries

/-! ## Names -/

def appName : String := "app.name"
def serviceName : String := "service.name"
def collectorName : String := "collector.name"
def entityGuid : String := "entity.guid"
def hostName : String := "host.hostname"
def instrumentationName : String := "instrumentation.name"
def instrumentationProvider : String := "instrumentation.provider"
def serviceInstanceId : String := "service.instance.id"

/-- The instance id in one `name=value` segment of the resource attributes. -/
def instanceIdOf? (segment : List Char) : Option String :=
  match Text.splitAtFirst '=' segment with
  | none => none
  | some (name, value) =>
    if String.ofList (Text.trim name) = serviceInstanceId then
      some (String.ofList (Text.trim value))
    else none

/-- The service instance id: from the first segment of `OTEL_RESOURCE_ATTRIBUTES` that names it,
otherwise `SERVICE_INSTANCE_ID`. -/
def instanceId? (env : String → Option String) : Option String :=
  ((env "OTEL_RESOURCE_ATTRIBUTES").bind fun raw =>
    (Text.splitOnChar ',' raw.toList).findSome? instanceIdOf?).or (env "SERVICE_INSTANCE_ID")

/-- The attributes a run starts from: instrumentation, application, host and, if the environment
has one, the service instance. -/
def identity (app host : String) (env : String → Option String) : Attributes :=
  let base := ((((((empty.put instrumentationName (.str "JFR")).put
    instrumentationProvider (.str "JFR-Uploader")).put
    collectorName (.str "JFR-Uploader")).put
    appName (.str app)).put
    serviceName (.str app)).put
    hostName (.str host))
  match instanceId? env with
  | some id => base.put serviceInstanceId (.str id)
  | none => base

end Attributes
end RecordingHarvest
