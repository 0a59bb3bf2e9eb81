/-!
# Blank characters

The characters that Unicode calls white space, and trimming by them.  A line that holds nothing
else is blank, and the date reader skips runs of them.
-/

namespace RecordingHarvest
namespace Text

/-- The code points with the Unicode property `White_Space`. -/
def isBlank (c : Char) : Bool :=
  let n := c.toNat
  (9 ≤ n && n ≤ 13) || n == 32 || n == 0x85 || n == 0xA0 || n == 0x1680 ||
    (0x2000 ≤ n && n ≤ 0x200A) || n == 0x2028 || n == 0x2029 || n == 0x202F ||
    n == 0x205F || n == 0x3000

/-- Leading blanks dropped. -/
def trimStart (cs : List Char) : List Char := cs.dropWhile isBlank

/-- Blanks dropped at both ends. -/
def trim (cs : List Char) : List Char := (trimStart (trimStart cs).reverse).reverse

/-- A text of blanks only; the empty text counts. -/
def allBlank (cs : List Char) : Bool := cs.all isBlank

/-- Blanks dropped at both ends of a string. -/
def trimmed (s : String) : String := String.ofList (trim s.toList)

/-- A letter in lower case, as far as that is an ASCII letter; every other character stays. -/
def lowerChar (c : Char) : Char := if c = '\u212A' then 'k' else c.toLower

/-- The letters of a string in lower case, as far as those are ASCII letters. -/
def lower (s : String) : String := String.ofList (s.toList.map lowerChar)

/-- The segments between the separators: one more than there are separators, some maybe empty. -/
def splitOnChar (sep : Char) : List Char → List (List Char)
  | [] => [[]]
  | c :: rest =>
    match splitOnChar sep rest with
    | [] => [[]]
    | seg :: segs => if c = sep then [] :: seg :: segs else (c :: seg) :: segs

/-- The parts before and after the first separator, if there is one. -/
def splitAtFirst (sep : Char) : List Char → Option (List Char × List Char)
  | [] => none
  | c :: rest =>
    if c = sep then some ([], rest)
    else (splitAtFirst sep rest).map fun (before, after) => (c :: before, after)

@[simp] theorem splitOnChar_nil (sep : Char) : splitOnChar sep [] = [[]] := rfl

/-- There is always at least one segment. -/
theorem splitOnChar_ne_nil (sep : Char) (cs : List Char) : splitOnChar sep cs ≠ [] := by
  induction cs with
  | nil => simp
  | cons c rest ih =>
    rw [splitOnChar]
    split
    · simp
    · split <;> simp

/-- A separator closes a segment. -/
theorem splitOnChar_cons_sep (sep : Char) (cs : List Char) :
    splitOnChar sep (sep :: cs) = [] :: splitOnChar sep cs := by
  rw [splitOnChar]
  cases h : splitOnChar sep cs with
  | nil => exact absurd h (splitOnChar_ne_nil sep cs)
  | cons seg segs => simp

end Text
end RecordingHarvest
