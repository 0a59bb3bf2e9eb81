import RecordingHarvest.Fault
import RecordingHarvest.Json.Form
import RecordingHarvest.Settings.Basic
import RecordingHarvest.Settings.Ini
import RecordingHarvest.Settings.Json5
import RecordingHarvest.Settings.Ron
import RecordingHarvest.Settings.Toml
import RecordingHarvest.Settings.Yaml

/-!
# Loading the settings

Three layers: the defaults, a file that may be missing, and environment variables.  A variable
counts if its name begins with `HARVEST__` in any case; two underscores part the names of its path.
-/

namespace RecordingHarvest
namespace Settings

/-- The formats a settings file can have. -/
inductive FileFormat where
  | toml
  | json
  | yaml
  | ini
  | ron
  | json5
  deriving DecidableEq, Repr

/-- The format that a file's name asks for. -/
def FileFormat.ofName? (name : String) : Option FileFormat :=
  let base := ((Text.splitOnChar '/' name.toList).getLast?).getD []
  match (Text.splitOnChar '.' base).reverse with
  | ext :: stem :: more =>
    if stem.isEmpty && more.isEmpty then none
    else
      match String.ofList ext with
      | "toml" => some .toml
      | "json" => some .json
      | "yaml" | "yml" => some .yaml
      | "ini" => some .ini
      | "ron" => some .ron
      | "json5" => some .json5
      | _ => none
  | _ => none

/-- The entries of a file, if it can be read and its root is a table. -/
def FileFormat.entries? (format : FileFormat) (content : String) :
    Option (List (String × Setting)) :=
  match format with
  | .toml => Toml.ofChars? content.toList
  | .yaml => Yaml.ofChars? content.toList
  | .ini => Ini.ofChars? content.toList
  | .ron => Ron.ofChars? content.toList
  | .json5 => Json5.ofChars? content.toList
  | .json =>
    match Json.ofText? content with
    | some (.obj ms) => some (Setting.ofMembers ms)
    | _ => none

/-- Replaces every pair of underscores by a dot. -/
def dotted : List Char → List Char
  | '_' :: '_' :: rest => '.' :: dotted rest
  | c :: rest => c :: dotted rest
  | [] => []

/-- What the name of a variable that counts begins with. -/
def variableStart : List Char := "harvest__".toList

/-- The path that a variable sets. -/
def variablePath? (name : String) : Option String :=
  let cs := (Text.lower name).toList
  if cs.take variableStart.length = variableStart then
    some (String.ofList (dotted (cs.drop variableStart.length)))
  else none

/-- The layer of the environment. -/
def variableLayer (env : List (String × String)) : Members Setting :=
  Members.ofEntries (env.filterMap fun (name, value) =>
    (variablePath? name).map fun path => (path, Setting.ofVariable value))

/-- The entries of the layers together, the later one over the earlier. -/
def merged (file env : List (String × Setting)) : Members Setting :=
  (((Setting.table []).overlay file).overlay env).entries

/-- Why settings cannot be used. -/
inductive LoadFault where
  /-- The file is malformed, or a value does not convert. -/
  | unreadable
  | broken (rule : Rule)
  deriving DecidableEq, Repr

/-- The fault of settings that cannot be used. -/
def LoadFault.fault : LoadFault → Fault
  | .unreadable => .configError "unreadable settings"
  | .broken rule => .configError rule.text

/-- Reads layers into settings and checks the rules. -/
def ofLayers (file env : List (String × Setting)) : Except LoadFault Settings :=
  match ofEntries? (merged file env) with
  | none => .error .unreadable
  | some s =>
    match s.violation? with
    | some rule => .error (.broken rule)
    | none => .ok s

/-- A file's text without the byte order mark that may stand in front. -/
def withoutMark (content : String) : String :=
  match content.toList with
  | '\uFEFF' :: rest => String.ofList rest
  | _ => content

/-- The layer of a file given by name and content; a file without a known format says nothing. -/
def fileLayer? : Option (String × String) → Option (List (String × Setting))
  | none => some []
  | some (name, content) =>
    match FileFormat.ofName? name with
    | none => some []
    | some format => format.entries? (withoutMark content)

/-- The settings of a file, if there is one, and an environment. -/
def load (file : Option (String × String)) (env : List (String × String)) :
    Except LoadFault Settings :=
  match fileLayer? file with
  | none => .error .unreadable
  | some layer => ofLayers layer (variableLayer env)

end Settings
end RecordingHarvest
