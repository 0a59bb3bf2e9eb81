import RecordingHarvest.Json.Value
import RecordingHarvest.Number.Shortest
import RecordingHarvest.Text.Hex

/-!
# Writing JSON

Values without blanks between tokens, members in the order they are held.  In strings only quotes,
backslashes and control characters are escaped.  A double that is not finite is written as null.
-/

namespace RecordingHarvest
namespace Json

/-- A character inside a string. -/
def writeChar (c : Char) : List Char :=
  if c = '"' then ['\\', '"']
  else if c = '\\' then ['\\', '\\']
  else if c = '\x08' then ['\\', 'b']
  else if c = '\x0c' then ['\\', 'f']
  else if c = '\n' then ['\\', 'n']
  else if c = '\r' then ['\\', 'r']
  else if c = '\t' then ['\\', 't']
  else if c.toNat < 0x20 then '\\' :: 'u' :: Text.hexPadded 4 c.toNat
  else [c]

/-- A quoted string. -/
def writeString (s : String) : List Char := '"' :: s.toList.flatMap writeChar ++ ['"']

/-- A double; the ones that are not finite have no JSON form. -/
def writeDouble (x : Float) : List Char :=
  if x.isFinite then (Number.compactText x).toList else ['n', 'u', 'l', 'l']

mutual

/-- The characters of a value. -/
def write : Json → List Char
  | .null => ['n', 'u', 'l', 'l']
  | .bool true => ['t', 'r', 'u', 'e']
  | .bool false => ['f', 'a', 'l', 's', 'e']
  | .int n => (Number.integerText n).toList
  | .float x => writeDouble x
  | .str s => writeString s
  | .arr items => '[' :: writeItems items ++ [']']
  | .obj members => '\x7b' :: writeMembers members ++ ['\x7d']

/-- Values with commas between them. -/
def writeItems : List Json → List Char
  | [] => []
  | [x] => write x
  | x :: y :: rest => write x ++ ',' :: writeItems (y :: rest)

/-- Members with commas between them. -/
def writeMembers : List (String × Json) → List Char
  | [] => []
  | [(key, x)] => writeString key ++ ':' :: write x
  | (key, x) :: m :: rest => writeString key ++ ':' :: write x ++ ',' :: writeMembers (m :: rest)

end

/-- The text of a value. -/
def text (j : Json) : String := String.ofList j.write

end Json
end RecordingHarvest
