import RecordingHarvest.Settings.Tree
import RecordingHarvest.Settings.Yaml.Node

/-!
# Settings in YAML

A text with one document whose root is a mapping, or with none at all.  Entries whose names are no texts say
nothing.
-/

namespace RecordingHarvest
namespace Yaml

mutual

/-- The setting of a node; the spellings of what is infinite or no number are refused. -/
def Node.toSetting? : Node → Option Setting
  | .null | .bad => some .null
  | .bool b => some (.bool b)
  | .int n => some (.int n)
  | .real s => (Number.double? s.toList).map .float
  | .text s => some (.text s)
  | .list items => (Node.toItems? items).map .list
  | .map entries => (Node.toEntries? entries).map .table

/-- The settings of a sequence. -/
def Node.toItems? : List Node → Option (List Setting)
  | [] => some []
  | x :: rest => do
    let v ← x.toSetting?
    let vs ← Node.toItems? rest
    return v :: vs

/-- The settings of the entries that have texts as names. -/
def Node.toEntries? : List (Node × Node) → Option (List (String × Setting))
  | [] => some []
  | (.text k, x) :: rest => do
    let v ← x.toSetting?
    let vs ← Node.toEntries? rest
    return (k, v) :: vs
  | _ :: rest => Node.toEntries? rest

end

/-- The entries of a text. -/
def ofChars? (cs : List Char) : Option (List (String × Setting)) := do
  match ← documents? cs with
  | [] => return []
  | [root] =>
    match ← root.toSetting? with
    | .table entries => return entries
    | _ => none
  | _ => none

end Yaml
end RecordingHarvest
