import RecordingHarvest.Zstd.Huffman
import RecordingHarvest.Zstd.Search

/-!
# Blocks

A block holds bytes as they stand, or sequences and the bytes after the last of them. `Block.content` writes
sequences as two sections: all the literals, then the three numbers of every sequence.
-/

namespace RecordingHarvest
namespace Zstd

/-- One block of a frame. -/
inductive Block where
  | stored (bytes : List UInt8)
  | packed (sequences : List Sequence) (rest : List UInt8)
  deriving DecidableEq, Repr

/-- A range of numbers with one code: the least of them, and the bits that tell which one it is. -/
structure CodeRange where
  least : Nat
  bits : Nat
  deriving DecidableEq, Repr

namespace CodeRange

/-- Ranges in a row, each so many bits wide, from `least` on. -/
def rangesFrom : Nat → List Nat → List CodeRange
  | _, [] => []
  | least, bits :: rest => { least, bits } :: rangesFrom (least + 1 <<< bits) rest

/-- The ranges of the numbers of literals. -/
def literals : List CodeRange :=
  rangesFrom 0 (List.replicate 16 0 ++ [1, 1, 1, 1, 2, 2, 3, 3, 4, 6, 7, 8, 9, 10, 11, 12, 13, 14, 15, 16])

/-- The ranges of the lengths of copies. -/
def lengths : List CodeRange :=
  rangesFrom 3 (List.replicate 32 0 ++ [1, 1, 1, 1, 2, 2, 3, 3, 4, 4, 5, 7, 8, 9, 10, 11, 12, 13, 14, 15, 16])

end CodeRange

/-- A number as it is written: its code, and the bits that tell which number of that code it is. -/
structure Coded where
  code : Nat
  extra : Field
  deriving DecidableEq, Repr

namespace Coded

/-- A number in the last range that it reaches. -/
def ofRanges (ranges : List CodeRange) (n : Nat) : Coded :=
  let code := (ranges.takeWhile (·.least ≤ n)).length - 1
  let range := ranges.getD code ⟨0, 0⟩
  { code, extra := ⟨range.bits, n - range.least⟩ }

/-- The distance of a sequence: one is the remembered one, and the others come three later. -/
def ofDistance (s : Sequence) : Coded :=
  let n := if s.remembered then 1 else s.distance + 3
  { code := Nat.log2 n, extra := ⟨Nat.log2 n, n⟩ }

end Coded

/-! ## Tables -/

/-- The table for one of the three numbers: the one both sides know, one for a single code, or one that is
described. -/
inductive Table where
  | known
  | single (code : Nat)
  | described (shares : Shares)

/-- How one of the three numbers may be written: the table both sides know, and the greatest power of two of
cells for another one. -/
structure Kind where
  shares : Shares
  mostLog : Nat

namespace Kind

/-- The numbers of literals. -/
def literals : Kind where
  shares := {
    log := 6
    counts := [4, 3, 2, 2, 2, 2, 2, 2, 2, 2, 2, 2, 2, 1, 1, 1, 2, 2, 2, 2, 2, 2, 2, 2, 2, 3, 2, 1, 1, 1, 1, 1,
      -1, -1, -1, -1] }
  mostLog := 9

/-- The distances. -/
def distances : Kind where
  shares := {
    log := 5
    counts := [1, 1, 1, 1, 1, 1, 2, 2, 2, 1, 1, 1, 1, 1, 1, 1, 1, 1, 1, 1, 1, 1, 1, 1, -1, -1, -1, -1, -1] }
  mostLog := 8

/-- The lengths of copies. -/
def lengths : Kind where
  shares := {
    log := 6
    counts := [1, 4, 3, 2, 2, 2, 2, 2, 2] ++ List.replicate 37 1 ++ List.replicate 7 (-1) }
  mostLog := 9

/-- The table for codes, the last of them known: a single code that comes more than twice has a table of its own,
and so have many codes that do not come about equally often. -/
def tableFor (k : Kind) (codes : List Nat) (last : Nat) : Table :=
  let total := codes.length
  let top := codes.foldl max 0
  let counts := (List.range (top + 1)).map fun code => codes.countP (· == code)
  let most := counts.foldl max 0
  if most = total then if total ≤ 2 then .known else .single last
  else if total < k.shares.size || most < total >>> (k.shares.log - 1) then .known
  else
    let lasts := counts.getD last 0
    let counts := if 1 < lasts then counts.set last (lasts - 1) else counts
    let fewer := if 1 < lasts then total - 1 else total
    .described (Shares.normal (Shares.fittingLog k.mostLog 2 total top) (if fewer < 2048 then 1 else -1) counts)

end Kind

namespace Table

/-- The table's place in the list of kinds of tables. -/
def mode : Table → Nat
  | known => 0
  | single _ => 1
  | described _ => 2

/-- What a reader needs to know the table. -/
def describe : Table → List UInt8
  | known => []
  | single code => [UInt8.ofNat code]
  | described shares => shares.describe

/-- The coder of the table. -/
def coder (k : Kind) : Table → Coder
  | known => .ofShares k.shares
  | single code => .single code
  | described shares => .ofShares shares

end Table

namespace Block

/-! ## What blocks put out -/

/-- The bytes put out so far with those of one more block. -/
def expandOne (out : Array UInt8) : Block → Array UInt8
  | stored bytes => out ++ bytes.toArray
  | packed sequences rest => sequences.foldl Sequence.expand out ++ rest.toArray

/-- The bytes that blocks put out. -/
def expand (blocks : List Block) : List UInt8 := (blocks.foldl expandOne #[]).toList

/-! ## Literals -/

/-- How many bytes must be saved for a number of bytes not to stay as they are. -/
def leastGain (n : Nat) : Nat := n / 64 + 2

/-- The head of a section of literals that are as many bytes as they stand for, or one byte again and
again. -/
def plainHead (mode n : Nat) : List UInt8 :=
  if n < 32 then littleEndian 1 (mode + 8 * n)
  else if n < 4096 then littleEndian 2 (mode + 4 + 16 * n)
  else littleEndian 3 (mode + 12 + 16 * n)

/-- The head of a section of literals in codes, `n` of them in so many bytes. -/
def codedHead (n size : Nat) : List UInt8 :=
  if n < 1024 then littleEndian 3 (2 + (if n < 256 then 0 else 4) + 16 * n + 16384 * size)
  else if n < 16384 then littleEndian 4 (2 + 8 + 16 * n + 262144 * size)
  else littleEndian 5 (2 + 12 + 16 * n + 4194304 * size)

/-- Bytes in codes: one run, or four runs behind the sizes of the first three. -/
def runs (codes : Array Field) (bytes : List UInt8) : List UInt8 :=
  if bytes.length < 256 then Lengths.encode codes bytes
  else
    let quarter := (bytes.length + 3) / 4
    let run (k : Nat) := Lengths.encode codes ((bytes.drop (k * quarter)).take quarter)
    let first := run 0
    let second := run 1
    let third := run 2
    littleEndian 2 first.length ++ littleEndian 2 second.length ++ littleEndian 2 third.length ++
      first ++ second ++ third ++ Lengths.encode codes (bytes.drop (3 * quarter))

/-- Different bytes in codes behind the codes' lengths, where that saves enough. -/
def coded? (counts : Array Nat) (bytes : List UInt8) : Option (List UInt8) := do
  let n := bytes.length
  if counts.foldl max 0 ≤ n / 128 + 4 then none
  let lengths := Lengths.ofCounts counts
  let described ← lengths.describe?
  if n ≤ described.length + 12 then none
  let content := described ++ runs lengths.codes bytes
  if content.length + leastGain n < n then some content else none

/-- The section of the literals. -/
def literalsSection (bytes : List UInt8) : List UInt8 :=
  let n := bytes.length
  if n < 64 then plainHead 0 n ++ bytes
  else
    let counts := Tally.countBytes bytes
    if counts.contains n then plainHead 1 n ++ bytes.take 1
    else
      match coded? counts bytes with
      | some content => codedHead n content.length ++ content
      | none => plainHead 0 n ++ bytes

/-! ## Sequences -/

/-- The number of sequences. -/
def countHead (n : Nat) : List UInt8 :=
  if n < 128 then [UInt8.ofNat n]
  else if n < 32512 then [UInt8.ofNat (n / 256 + 128), UInt8.ofNat n]
  else 255 :: littleEndian 2 (n - 32512)

/-- The three numbers of a sequence. -/
structure Numbers where
  literals : Coded
  distance : Coded
  length : Coded

/-- The three numbers of a sequence. -/
def numbersOf (s : Sequence) : Numbers where
  literals := Coded.ofRanges CodeRange.literals s.literals.length
  distance := Coded.ofDistance s
  length := Coded.ofRanges CodeRange.lengths s.length

/-- The bits that tell which numbers of their codes the three are. -/
def extras (n : Numbers) : List Field := [n.literals.extra, n.length.extra, n.distance.extra]

/-- A walk through three tables: what it left behind, and the cells where it stands. -/
structure Walk where
  fields : Array Field
  literals : Nat
  distance : Nat
  length : Nat

/-- One more sequence, before those walked. -/
def walkOne (literals distances lengths : Coder) (w : Walk) (n : Numbers) : Walk :=
  let distance := distances.step n.distance.code w.distance
  let length := lengths.step n.length.code w.length
  let run := literals.step n.literals.code w.literals
  { fields := w.fields ++ ([distance.1, length.1, run.1] ++ extras n)
    literals := run.2, distance := distance.2, length := length.2 }

/-- The numbers of sequences, which stand last first, in one walk through three tables. -/
def walk (literals distances lengths : Coder) : List Numbers → List Field
  | [] => []
  | last :: before =>
    let w := before.foldl (walkOne literals distances lengths) {
      fields := (extras last).toArray
      literals := literals.start last.literals.code
      distance := distances.start last.distance.code
      length := lengths.start last.length.code }
    w.fields.toList ++ [lengths.finish w.length, distances.finish w.distance, literals.finish w.literals]

/-- The section of the sequences. -/
def sequencesSection (sequences : List Sequence) : List UInt8 :=
  let numbers := (sequences.map numbersOf).reverse
  match numbers with
  | [] => countHead 0
  | last :: _ =>
    let literals := Kind.literals.tableFor (numbers.map (·.literals.code)) last.literals.code
    let distances := Kind.distances.tableFor (numbers.map (·.distance.code)) last.distance.code
    let lengths := Kind.lengths.tableFor (numbers.map (·.length.code)) last.length.code
    countHead numbers.length ++
      [UInt8.ofNat (64 * literals.mode + 16 * distances.mode + 4 * lengths.mode)] ++
      literals.describe ++ distances.describe ++ lengths.describe ++
      Field.packClosed (walk (literals.coder .literals) (distances.coder .distances)
        (lengths.coder .lengths) numbers)

/-! ## Writing -/

/-- The content of a block. -/
def content : Block → List UInt8
  | stored bytes => bytes
  | packed sequences rest =>
    literalsSection (sequences.flatMap (·.literals) ++ rest) ++ sequencesSection sequences

/-- A block behind its header, which says whether it is the last, its kind, and its size. -/
def write (last : Bool) (b : Block) : List UInt8 :=
  let content := b.content
  let kind := match b with
    | stored _ => 0
    | packed _ _ => 2
  littleEndian 3 (last.toNat + 2 * kind + 8 * content.length) ++ content

/-- Blocks in a row, the last one marked; there is always one. -/
def writeAll : List Block → List UInt8
  | [] => write true (stored [])
  | [b] => write true b
  | b :: rest => write false b ++ writeAll rest

end Block
end Zstd
end RecordingHarvest
