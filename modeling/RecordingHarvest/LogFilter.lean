import RecordingHarvest.Fault
import RecordingHarvest.LogFilter.Pattern
import RecordingHarvest.Number.Reading

/-!
# Log filters

A filter is a list of directives between commas; an empty item says nothing.  A directive names a
level, a target, or both with `=` between them; a target may be followed, or replaced, by a span in
brackets, with fields of it in braces.  A word that is no level is a target with every level.
-/

namespace RecordingHarvest

/-- How much is let through, from nothing to everything. -/
inductive Verbosity where
  | off
  | error
  | warn
  | info
  | debug
  | trace
  deriving DecidableEq, Repr

namespace Verbosity

/-- The verbosities in the order of their numbers. -/
def all : List Verbosity := [off, error, warn, info, debug, trace]

/-- The name of a verbosity. -/
def name : Verbosity → String
  | off => "off"
  | error => "error"
  | warn => "warn"
  | info => "info"
  | debug => "debug"
  | trace => "trace"

/-- A verbosity by number, or by name in any case. -/
def ofChars? (cs : List Char) : Option Verbosity :=
  match Number.nat64? cs with
  | some n => all[n]?
  | none => all.find? fun v => v.name.toList == cs.map Char.toLower

end Verbosity

namespace Text

/-- The number of bytes that characters take. -/
def size : List Char → Nat
  | [] => 0
  | c :: rest => c.utf8Size + size rest

/-- The text behind so many bytes; an offset inside a character counts as the end of it. -/
def dropBytes : Nat → List Char → List Char
  | 0, cs => cs
  | _, [] => []
  | n + 1, c :: rest => dropBytes (n + 1 - c.utf8Size) rest

/-- The first so many bytes of a text. -/
def takeBytes : Nat → List Char → List Char
  | 0, _ => []
  | _, [] => []
  | n + 1, c :: rest => c :: takeBytes (n + 1 - c.utf8Size) rest

end Text

/-- One item of a filter. -/
structure Directive where
  /-- The target in front, empty if there is none. -/
  target : List Char
  /-- The text in brackets. -/
  span : Option (List Char)
  verbosity : Verbosity
  deriving DecidableEq, Repr

namespace Directive

/-- Characters that a directive may open with, besides a bracket. -/
def opens (c : Char) : Bool := ['-', ':', '_'].contains c || Text.isLetter c || Text.isNumber c

/-- The verbosity behind an equals sign; nothing there stands for all. -/
def verbosity? (cs : List Char) : Option Verbosity :=
  if cs.isEmpty then some .trace else Verbosity.ofChars? cs

/-- A value that a field is compared with: a truth value, a number, or a pattern. -/
def isValue (cs : List Char) : Bool :=
  cs == "true".toList || cs == "false".toList || (Number.integer? cs).isSome ||
    (Number.double? cs).isSome || LogFilter.isPattern cs

/-- A field of a span: a name, and maybe a value behind an equals sign. -/
def isField (cs : List Char) : Bool :=
  !cs.isEmpty &&
    match Text.splitOnChar '=' cs with
    | _ :: value :: _ => isValue value
    | _ => true

/-- An item without the blanks around it, read up to some place.  Offsets count from where the blanks in
front end, but what stands at them is taken from the item with its blanks. -/
structure Place where
  item : List Char
  /-- Bytes behind the blanks in front. -/
  offset : Nat
  /-- What follows, up to the blanks at the end. -/
  rest : List Char

namespace Place

/-- What the item holds from one place to the next, at which `behind` follows. -/
def slice (p : Place) (length : Nat) : List Char := Text.takeBytes length (Text.dropBytes p.offset p.item)

/-- The place behind so many bytes, with what follows there. -/
def move (p : Place) (length : Nat) (rest : List Char) : Place := ⟨p.item, p.offset + length, rest⟩

/-- The verbosity of all that the item holds from here on. -/
def verbosity? (p : Place) : Option Verbosity := Directive.verbosity? (Text.dropBytes p.offset p.item)

/-- The span whose bracket stands before this place, and the place behind it. -/
def span? (p : Place) : Option (List Char × Place) :=
  let name := p.rest.takeWhile fun c => c != ']' && c != '\x7b'
  let n := Text.size name
  match p.rest.drop name.length with
  | ']' :: rest => some (p.slice n, p.move (n + 1) rest)
  | '\x7b' :: rest =>
    let inner := p.move (n + 1) rest
    let field := rest.takeWhile (· != '\x7d')
    let k := Text.size field
    match rest.drop field.length with
    | _ :: ']' :: rest => if isField (inner.slice k) then some (p.slice n, inner.move (k + 2) rest) else none
    | _ => none
  | _ => none

/-- A directive behind its target and the bracket that opens a span. -/
def withSpan? (p : Place) (target : List Char) : Option Directive := do
  let (span, p) ← p.span?
  match p.rest with
  | [] => some ⟨target, some span, .trace⟩
  | '=' :: rest => (p.move 1 rest).verbosity?.map (⟨target, some span, ·⟩)
  | _ => none

end Place

/-- The directive that an item between commas spells. -/
def ofChars? (item : List Char) : Option Directive :=
  match Text.trim item with
  | [] => none
  | '[' :: rest => Place.withSpan? ⟨item, 1, rest⟩ []
  | c :: rest =>
    if !opens c then none
    else
      let p : Place := ⟨item, 0, c :: rest⟩
      let word := (c :: rest).takeWhile fun c => c != '=' && c != '['
      let n := Text.size word
      match (c :: rest).drop word.length with
      | [] =>
        match Verbosity.ofChars? item with
        | some v => some ⟨[], none, v⟩
        | none => some ⟨item, none, .trace⟩
      | '=' :: rest => (p.move (n + 1) rest).verbosity?.map (⟨p.slice n, none, ·⟩)
      | _ :: rest => (p.move (n + 1) rest).withSpan? (p.slice n)

end Directive

/-- The directives of a filter. -/
abbrev LogFilter := List Directive

namespace LogFilter

/-- The filter that a text spells. -/
def ofText? (s : String) : Option LogFilter :=
  ((Text.splitOnChar ',' s.toList).filter (!·.isEmpty)).mapM Directive.ofChars?

/-- The filter to use: that of the environment if it is set and sound, else that of the settings. -/
def choose (environment : Option String) (level : String) : Except Fault LogFilter :=
  match environment.bind ofText?, ofText? level with
  | some filter, _ | none, some filter => .ok filter
  | none, none => .error (.configError "Invalid log filter")

/-- Sets the filter of the process up, which has room for one. -/
def install (taken : Bool) (environment : Option String) (level : String) : Except Fault LogFilter := do
  let filter ← choose environment level
  if taken then .error (.configError "Failed to install subscriber") else .ok filter

end LogFilter
end RecordingHarvest
