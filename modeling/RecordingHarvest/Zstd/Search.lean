import Std.Data.HashMap

/-!
# Searching for copies

Data as a reader puts them out: bytes as they stand, then a copy of bytes put out before, and so on.
A copy may reach into itself, so that a short stretch repeats. `Search.run` goes over data and
remembers where it met which eight bytes and which five bytes; it takes a copy where an earlier place
goes on alike. The longer it finds nothing, the more places it passes over.
-/

namespace RecordingHarvest
namespace Zstd

/-! ## Sequences -/

/-- Bytes as they stand, and a copy of so many bytes that stand `distance` before the place they go to. -/
structure Sequence where
  literals : List UInt8
  distance : Nat
  length : Nat
  /-- Whether the distance is told as the one a reader remembers, and not in full. -/
  remembered : Bool
  deriving DecidableEq, Repr

namespace Sequence

/-- Puts bytes out, each a copy of the one `distance` before. -/
def copy (distance : Nat) : Nat → Array UInt8 → Array UInt8
  | 0, out => out
  | n + 1, out => copy distance n (out.push (out[out.size - distance]?.getD 0))

/-- The bytes put out so far with those of one more sequence. -/
def expand (out : Array UInt8) (s : Sequence) : Array UInt8 :=
  copy s.distance s.length (out ++ s.literals.toArray)

end Sequence

/-- How far data go on alike from two places, at most `n` bytes. -/
def alike (data : Array UInt8) (i j : Nat) : Nat → Nat
  | 0 => 0
  | n + 1 => if data[i]? = data[j]? then alike data (i + 1) (j + 1) n + 1 else 0

/-- How far data are alike before two places, at most `n` bytes. -/
def alikeBefore (data : Array UInt8) (i j : Nat) : Nat → Nat
  | 0 => 0
  | n + 1 => if data[i - 1]? = data[j - 1]? then alikeBefore data (i - 1) (j - 1) n + 1 else 0

/-! ## Places -/

/-- How far back a copy may reach. -/
def window : Nat := 2097152

/-- So many bytes at a place as one number, the lowest first. -/
def word (data : Array UInt8) (i : Nat) : Nat → UInt64
  | 0 => 0
  | n + 1 => (data[i]?.getD 0).toUInt64 ||| word data (i + 1) n <<< 8

/-- Where words of eight bytes and of five were met last, under keys that a few words share. -/
structure Places where
  long : Std.HashMap UInt64 Nat := ∅
  short : Std.HashMap UInt64 Nat := ∅

namespace Places

/-- The key of eight bytes. -/
def longKey (data : Array UInt8) (i : Nat) : UInt64 := (word data i 8 * 0xCF1BBCDCB7A56463) >>> 47

/-- The key of five bytes. -/
def shortKey (data : Array UInt8) (i : Nat) : UInt64 := ((word data i 5 <<< 24) * 889523592379) >>> 48

/-- Where the eight bytes at a place were met last. -/
def metLong? (data : Array UInt8) (i : Nat) (p : Places) : Option Nat := p.long[longKey data i]?

/-- Where the five bytes at a place were met last. -/
def metShort? (data : Array UInt8) (i : Nat) (p : Places) : Option Nat := p.short[shortKey data i]?

/-- Remembers the eight bytes at a place. -/
def addLong (data : Array UInt8) (i : Nat) (p : Places) : Places :=
  { p with long := p.long.insert (longKey data i) i }

/-- Remembers the five bytes at a place. -/
def addShort (data : Array UInt8) (i : Nat) (p : Places) : Places :=
  { p with short := p.short.insert (shortKey data i) i }

/-- Remembers both words at a place. -/
def add (data : Array UInt8) (i : Nat) (p : Places) : Places := (p.addLong data i).addShort data i

end Places

/-- A stretch of data: those from `low` on may be copied, those from `first` to `stop` are searched. -/
structure Stretch where
  data : Array UInt8
  low : Nat
  first : Nat
  stop : Nat

namespace Stretch

/-- Whether a word of eight bytes fits at a place. -/
def fits (s : Stretch) (i : Nat) : Bool := i + 8 ≤ s.stop

/-- How far the stretch goes on alike from a place `distance` back, if that is so many bytes at least. -/
def again? (s : Stretch) (least distance i : Nat) : Option Nat :=
  if distance = 0 then none
  else
    let length := alike s.data (i - distance) i (s.stop - i)
    if least ≤ length then some length else none

end Stretch

/-- A copy that was found: where it goes, from how far back, and how long it is. -/
structure Copy where
  place : Nat
  distance : Nat
  length : Nat
  remembered : Bool := false

/-- A search at work: what was met, the two distances used last (zero for none), the place from which on nothing
is covered yet, and the sequences found, the newest first. -/
structure Search where
  places : Places := {}
  latest : Nat := 1
  before : Nat := 4
  anchor : Nat := 0
  found : List Sequence := []

namespace Search

/-- The copy at place `i` from an earlier place, with what is alike before it; `none` if less than `least`
bytes are alike, or there is no earlier place. -/
def copyFrom? (s : Stretch) (anchor least i : Nat) (met : Option Nat) : Option Copy := do
  let j ← met.filter (s.low < ·)
  let length ← s.again? least (i - j) i
  let more := alikeBefore s.data i j (min (i - anchor) (j - s.low))
  return { place := i - more, distance := i - j, length := length + more }

/-- The copy to take at place `i`, given where its eight and its five bytes were met before; `next` is the
place to search after it. -/
def copyAt? (s : Stretch) (search : Search) (metLong metShort : Option Nat) (i next : Nat) : Option Copy :=
  match s.again? 4 search.latest (i + 1) with
  | some length => some { place := i + 1, distance := search.latest, length, remembered := true }
  | none =>
    match copyFrom? s search.anchor 8 i metLong with
    | some copy => some copy
    | none =>
      match copyFrom? s search.anchor 4 i metShort with
      | some copy => some <|
        (copyFrom? s search.anchor 8 next (search.places.metLong? s.data next)).getD copy
      | none => none

/-- Takes a copy. -/
def take (s : Stretch) (c : Copy) (search : Search) : Search :=
  { search with
    anchor := c.place + c.length
    found :=
      { literals := (s.data.extract search.anchor c.place).toList
        distance := c.distance, length := c.length, remembered := c.remembered } :: search.found }

/-- Takes copies from the distance used before the last, as long as there are any right behind a copy. -/
def goOn (s : Stretch) : Nat → Search → Search
  | 0, search => search
  | fuel + 1, search =>
    match if s.fits search.anchor then s.again? 4 search.before search.anchor else none with
    | none => search
    | some length =>
      let place := search.anchor
      goOn s fuel (take s { place, distance := search.before, length, remembered := true }
        { search with
          places := search.places.add s.data place
          latest := search.before, before := search.latest })

/-- Takes a copy that was found at place `i`, and remembers some of what it covers. -/
def takeFound (s : Stretch) (c : Copy) (i : Nat) (search : Search) : Search :=
  let search := take s c <|
    if c.remembered then search else { search with latest := c.distance, before := search.latest }
  let stop := search.anchor
  if s.fits stop then
    goOn s (s.stop - stop) { search with
      places := (search.places.add s.data (i + 2)).addLong s.data (stop - 2) |>.addShort s.data (stop - 1) }
  else search

/-- Searches from place `i` on; `pace` places are passed over before the next one, and one more from place `turn`
on. -/
def runFrom (s : Stretch) : Nat → Nat → Nat → Nat → Search → Search
  | 0, _, _, _, search => search
  | fuel + 1, i, pace, turn, search =>
    let next := i + pace + 1
    if s.fits next then
      let metLong := search.places.metLong? s.data i
      let metShort := search.places.metShort? s.data i
      let search := { search with places := search.places.add s.data i }
      match copyAt? s search metLong metShort i next with
      | some copy =>
        let search :=
          if copy.remembered || 3 ≤ pace then search
          else { search with places := search.places.addLong s.data next }
        let search := takeFound s copy i search
        runFrom s fuel search.anchor 0 (search.anchor + 256) search
      | none =>
        if turn ≤ next then runFrom s fuel next (pace + 1) (turn + 256) search
        else runFrom s fuel next pace turn search
    else search

/-- Searches a stretch; the distances used last are no use where they reach before the data. -/
def run (s : Stretch) (search : Search) : Search :=
  let i := max s.first 1
  let known (distance : Nat) := if distance ≤ i - s.low then distance else 0
  let after := runFrom s (s.stop - s.first) i 0 (i + 256)
    { search with
      latest := known search.latest, before := known search.before, anchor := s.first, found := [] }
  { after with
    latest := if after.latest = 0 then search.latest else after.latest
    before := if after.before = 0 then search.before else after.before }

end Search
end Zstd
end RecordingHarvest
