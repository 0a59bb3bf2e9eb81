import RecordingHarvest.Event
import RecordingHarvest.Json.Form
import RecordingHarvest.Time.Reading

/-!
# Reading event documents

An event is written as an object, or as a list of three to five values in the order of
`Event.keys`.  Type and start are required; description and duration may be missing or null, the
payload may be missing.  In an object unknown keys are skipped unread, and a known key must not
stand twice.
-/

namespace RecordingHarvest
namespace Event

/-- A description: a string or null. -/
def descriptionOf? : Json → Option (Option String)
  | .null => some none
  | .str s => some (some s)
  | _ => none

/-- A duration: a whole number of nanoseconds or null. -/
def durationOf? : Json → Option (Option Nat)
  | .null => some none
  | value => value.nat64?.map some

/-- The event with the given parts, if each has the kind of value it needs. -/
def ofParts? (eventType description start duration fields : Option Json) : Option Event := do
  let eventType ← eventType.bind Json.str?
  let description ← (description.map descriptionOf?).getD (some none)
  let start ← (start.bind Json.str?).bind Instant.ofText?
  let duration ← (duration.map durationOf?).getD (some none)
  let fields ← (fields.map Json.members?).getD (some [])
  return ⟨eventType, description, start, duration, fields⟩

/-- The event of an object's members. -/
def ofMembers? (ms : Members Json) : Option Event :=
  ofParts? (ms.get? "type") (ms.get? "description") (ms.get? "start_time") (ms.get? "duration_ns")
    (ms.get? "fields")

/-- The event of a list of values. -/
def ofValues? : List Json → Option Event
  | [ty, description, start] => ofParts? (some ty) (some description) (some start) none none
  | [ty, description, start, duration] =>
    ofParts? (some ty) (some description) (some start) (some duration) none
  | [ty, description, start, duration, fields] =>
    ofParts? (some ty) (some description) (some start) (some duration) (some fields)
  | _ => none

/-- The event of a value already read. -/
def ofJson? : Json → Option Event
  | .obj ms => ofMembers? ms
  | .arr vs => ofValues? vs
  | _ => none

/-- The evaluated members of a record with known keys; the other members only need a key. -/
def knownMembers (depth : Nat) : List (List Char × Json.Form) → Option (List (String × Json))
  | [] => some []
  | (key, form) :: rest => do
    let k := String.ofList (← Json.Form.unescape key)
    if keys.contains k then
      let value ← form.value? depth
      return (k, value) :: (← knownMembers depth rest)
    else knownMembers depth rest

/-- The event of a JSON text's form. -/
def ofForm? : Json.Form → Option Event
  | .record ms => do
    let known ← knownMembers (Json.Form.depthLimit - 1) ms
    let names := known.map Prod.fst
    if names.all fun k => names.count k ≤ 1 then ofMembers? known else none
  | .list xs => (xs.mapM (Json.Form.value? (Json.Form.depthLimit - 1))).bind ofValues?
  | _ => none

/-- The event of a JSON text. -/
def ofChars? (cs : List Char) : Option Event := (Json.Form.ofChars? cs).bind ofForm?

end Event
end RecordingHarvest
