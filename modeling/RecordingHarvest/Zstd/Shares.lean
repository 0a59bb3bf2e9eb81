import RecordingHarvest.Zstd.Bits

/-!
# Shares of a table

A table has a power of two of cells, shared out among symbols about as often as they are met. To write a
symbol is to go from one cell to a cell of that symbol, which leaves fewer bits behind the more cells the
symbol has. `Shares.normal?` shares a table out, `Shares.describe` tells a reader how, and `Coder` walks it.
-/

namespace RecordingHarvest
namespace Zstd

/-- The number of cells as a power of two, and the cells of every symbol in turn; `-1` is one cell at the end of
the table, for a symbol that is hardly ever met. -/
structure Shares where
  log : Nat
  counts : List Int
  deriving DecidableEq, Repr

namespace Shares

/-- How many cells there are. -/
def size (s : Shares) : Nat := 1 <<< s.log

/-! ## Sharing out -/

/-- The power of two that a table should have, at most `most`, for so many symbols written, the greatest of them
`top`; `spare` is how many bits it may stay below their number. -/
def fittingLog (most spare total top : Nat) : Nat :=
  let least := min (Nat.log2 total + 1) (Nat.log2 top + 2)
  min 12 (max 5 (max least (min most (Nat.log2 (total - 1) - spare))))

/-- The part of a cell, in millionths of a binary kind, above which a small share is rounded up. -/
def roundsUpAbove (share : Nat) : Nat :=
  [0, 473195, 504333, 520860, 550000, 700000, 750000, 830000].getD share 0

/-- The share of a symbol met `count` times out of `total`. -/
def shareOf (log total count : Nat) : Nat :=
  let scale := 62 - log
  let exact := count * (1 <<< 62 / total)
  let share := exact >>> scale
  if share < 8 && (1 <<< (scale - 20)) * roundsUpAbove share < exact - share <<< scale then share + 1
  else share

/-- The place of the greatest number, the first of them if there are several. -/
def placeOfGreatest (ns : List Nat) : Nat :=
  ns.findIdx fun n => ns.all (· ≤ n)

/-- A symbol's part in a sharing in two rounds: how often it is met, and its cells once it has any. -/
structure Claim where
  count : Nat
  cells? : Option Int
  deriving DecidableEq, Repr

namespace Claim

/-- Gives cells to the symbols that have none and are met at most so often. -/
def settle (most : Nat) (cells : Int) (claims : List Claim) : List Claim :=
  claims.map fun c => if c.cells?.isNone ∧ c.count ≤ most then { c with cells? := some cells } else c

/-- How many cells are given away. -/
def cells (claims : List Claim) : Nat := claims.foldl (fun n c => n + (c.cells?.getD 0).natAbs) 0

/-- How often the symbols without cells are met. -/
def openCount (claims : List Claim) : Nat :=
  claims.foldl (fun n c => if c.cells?.isNone then n + c.count else n) 0

/-- Divides a line among the symbols without cells, each from where the one before ends; a cell is two to the
`scale` of the line long. -/
def divide (scale step : Nat) : Nat → List Claim → List Int
  | _, [] => []
  | start, c :: rest =>
    match c.cells? with
    | some cells => cells :: divide scale step start rest
    | none =>
      let stop := start + c.count * step
      ((stop >>> scale - start >>> scale : Nat) : Int) :: divide scale step stop rest

end Claim

/-- A table shared out in two rounds: the symbols met seldom get one cell each, and what is left is divided
among the others. -/
def inRounds (log : Nat) (rare : Int) (counts : List Nat) : Shares :=
  let total := counts.foldl (· + ·) 0
  let size := 1 <<< log
  let seldom := total * 3 >>> (log + 1)
  let claims := Claim.settle seldom 1 <| Claim.settle (total >>> log) rare <| Claim.settle 0 0 <|
    counts.map fun count => { count, cells? := none }
  let left := size - Claim.cells claims
  let claims :=
    if seldom < Claim.openCount claims / left then
      Claim.settle (Claim.openCount claims * 3 / (left * 2)) 1 claims
    else claims
  let left := size - Claim.cells claims
  if claims.all (·.cells?.isSome) then
    let cells := claims.map (·.cells?.getD 0)
    let largest := placeOfGreatest counts
    { log, counts := cells.set largest (cells.getD largest 0 + left) }
  else
    let scale := 62 - log
    let half := 1 <<< (scale - 1) - 1
    { log, counts := Claim.divide scale ((1 <<< scale * left + half) / Claim.openCount claims) half claims }

/-- A table shared out among symbols by how often each is met: in proportion, the largest share taking or
giving what does not come out even, or in two rounds if that is too much for it. -/
def normal (log : Nat) (rare : Int) (counts : List Nat) : Shares :=
  let total := counts.foldl (· + ·) 0
  let isRare (count : Nat) : Bool := count ≤ total >>> log
  let shares := counts.map fun count =>
    if count = 0 then 0 else if isRare count then rare else (shareOf log total count : Int)
  let largest := placeOfGreatest <| counts.map fun count => if isRare count then 0 else shareOf log total count
  let left : Int := ((1 <<< log : Nat) : Int) - (shares.foldl (fun n c => n + c.natAbs) 0 : Nat)
  let share := shares.getD largest 0
  if share / 2 ≤ -left then inRounds log rare counts
  else { log, counts := shares.set largest (share + left) }

/-! ## Describing -/

/-- How many more symbols in a row have no share, in threes. -/
def describeGap (n : Nat) : List Field := List.replicate (n / 3) ⟨2, 3⟩ ++ [⟨2, n % 3⟩]

/-- The shares of the symbols in turn, while `left` cells and one are left; `gap` counts the symbols without
a share since one was named. -/
def describeFrom : Option Nat → Nat → List Int → List Field
  | _, _, [] => []
  | some gap, left, 0 :: rest => describeFrom (some (gap + 1)) left rest
  | gap, left, count :: rest =>
    if left ≤ 1 then []
    else
      let half := 1 <<< Nat.log2 left
      let short := 2 * half - 1 - left
      let value := (count + 1).toNat
      let field : Field :=
        if value < short then ⟨Nat.log2 left, value⟩
        else ⟨Nat.log2 left + 1, if half ≤ value then value + short else value⟩
      gap.elim [] describeGap ++
        field :: describeFrom (if count = 0 then some 0 else none) (left - count.natAbs) rest

/-- What a reader needs to share out the same table. -/
def describe (s : Shares) : List UInt8 :=
  Field.pack (⟨4, s.log - 5⟩ :: describeFrom none (s.size + 1) s.counts)

/-! ## Cells -/

/-- The symbols of the cells, the first cell first: the symbols met often are spread over the table by
steps, and those hardly ever met stand at its end. -/
def spread (s : Shares) : Array Nat :=
  let numbered := s.counts.zipIdx
  let rare := (numbered.filter fun (count, _) => count < 0).map (·.2)
  let often := numbered.flatMap fun (count, symbol) => List.replicate count.toNat symbol
  let step := s.size / 2 + s.size / 8 + 3
  let places := ((List.range s.size).map fun k => k * step % s.size).filter (· < s.size - rare.length)
  (places.zip often).foldl (fun cells (place, symbol) => cells.set! place symbol)
    (Array.replicate (s.size - rare.length) 0) ++ rare.reverse.toArray

end Shares

/-- The cells of every symbol in a table of two to the `log` cells. -/
structure Coder where
  log : Nat
  cells : Array (Array Nat)

namespace Coder

/-- The coder of a table. -/
def ofShares (s : Shares) : Coder where
  log := s.log
  cells := s.spread.zipIdx.foldl (fun cells (symbol, place) => cells.modify symbol (·.push place))
    (Array.replicate s.counts.length #[])

/-- The coder of a table with one cell. -/
def single (symbol : Nat) : Coder where
  log := 0
  cells := (Array.replicate symbol #[]).push #[0]

/-- The cell to start in, at the last symbol. -/
def start (c : Coder) (symbol : Nat) : Nat := c.cells[symbol]?.bind (·[0]?) |>.getD 0

/-- From a cell to one of the symbol before, and what is left behind. -/
def step (c : Coder) (symbol cell : Nat) : Field × Nat :=
  let own := c.cells[symbol]?.getD #[]
  let place := 1 <<< c.log + cell
  let bits := Nat.log2 place - Nat.log2 own.size
  let width := if place >>> bits < own.size then bits - 1 else bits
  (⟨width, place⟩, own[place >>> width - own.size]?.getD 0)

/-- The cell where the walk ends, whole. -/
def finish (c : Coder) (cell : Nat) : Field := ⟨c.log, cell⟩

end Coder
end Zstd
end RecordingHarvest
