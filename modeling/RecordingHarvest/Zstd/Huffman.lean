import RecordingHarvest.Zstd.Shares

/-!
# Codes of unequal length

Bytes met often get short codes. `Tree.join` merges the two lightest trees until one is left, in which a byte's
depth is the length of its code; `limit` shortens the codes that come out too long at the cost of others.
A reader only needs the lengths (`Lengths.describe?`), from which both sides number the codes alike.
-/

namespace RecordingHarvest
namespace Zstd

/-- A byte and how often it is met. -/
structure Tally where
  byte : Nat
  count : Nat
  deriving DecidableEq, Repr

namespace Tally

/-- How often each of the 256 bytes is met. -/
def countBytes (bytes : List UInt8) : Array Nat :=
  bytes.foldl (fun counts b => counts.modify b.toNat (· + 1)) (Array.replicate 256 0)

/-- The bytes that are met, those met most often first, and the lowest first among equals. -/
def rank (counts : Array Nat) : List Tally :=
  let met := (counts.toList.zipIdx.map fun (count, byte) => { byte, count }).filter (0 < ·.count)
  met.mergeSort fun a b => b.count ≤ a.count

end Tally

/-! ## Trees -/

/-- A tree with bytes at its ends. -/
inductive Tree where
  | leaf (tally : Tally)
  | node (weight : Nat) (left right : Tree)

namespace Tree

/-- How often the bytes of a tree are met. -/
def weight : Tree → Nat
  | leaf tally => tally.count
  | node weight _ _ => weight

/-- The lightest of the trees, a joined one among equals, and what is left of them. -/
def lightest? : List Tally → List Tree → Option (Tree × List Tally × List Tree)
  | [], [] => none
  | tally :: leaves, [] => some (leaf tally, leaves, [])
  | [], tree :: joined => some (tree, [], joined)
  | tally :: leaves, tree :: joined =>
    if tally.count < tree.weight then some (leaf tally, leaves, tree :: joined)
    else some (tree, tally :: leaves, joined)

/-- Joins the two lightest trees, so many times; both the bytes and the joined trees come lightest first. -/
def join : Nat → List Tally → List Tree → List Tree
  | 0, _, joined => joined
  | n + 1, leaves, joined =>
    match lightest? leaves joined with
    | none => joined
    | some (first, leaves, joined) =>
      match lightest? leaves joined with
      | none => [first]
      | some (second, leaves, joined) =>
        join n leaves (joined ++ [node (first.weight + second.weight) first second])

/-- How deep every byte stands. -/
def depths (depth : Nat) : Tree → List (Nat × Nat)
  | leaf tally => [(tally.byte, depth)]
  | node _ left right => left.depths (depth + 1) ++ right.depths (depth + 1)

end Tree

/-! ## Limited lengths -/

/-- The place of the last code that is so many bits below the limit. -/
def lastBelow? (limit : Nat) (lengths : Array Nat) (bits : Nat) : Option Nat :=
  if bits < limit then
    ((List.range lengths.size).filter fun i => lengths[i]? = some (limit - bits)).getLast?
  else none

/-- Which code to make longer next, as bits below the limit: half of what `bits` would pay back is tried
as long as two codes of it are met less often than one. -/
def dearest (limit : Nat) (counts lengths : Array Nat) : Nat → Nat
  | 0 => 1
  | 1 => 1
  | bits + 1 =>
    match lastBelow? limit lengths (bits + 1), lastBelow? limit lengths bits with
    | none, _ => dearest limit counts lengths bits
    | some _, none => bits + 1
    | some high, some low =>
      if counts.getD high 0 ≤ 2 * counts.getD low 0 then bits + 1 else dearest limit counts lengths bits

/-- Makes codes longer until the debt, in codes of the greatest length, is paid; what was paid too much is left
as a negative debt. -/
def payBack (limit : Nat) (counts : Array Nat) : Nat → Int → Array Nat → Int × Array Nat
  | 0, debt, lengths => (debt, lengths)
  | fuel + 1, debt, lengths =>
    if debt ≤ 0 then (debt, lengths)
    else
      let bits := dearest limit counts lengths (Nat.log2 debt.toNat + 1)
      match (List.range (limit - bits)).findSome? fun k =>
          (lastBelow? limit lengths (bits + k)).map (bits + k, ·) with
      | none => (debt, lengths)
      | some (bits, place) =>
        payBack limit counts fuel (debt - (1 <<< (bits - 1) : Nat)) (lengths.modify place (· + 1))

/-- Makes so many of the longest codes one bit shorter, those met most often first. -/
def shorten (limit : Nat) : Nat → Array Nat → Array Nat
  | 0, lengths => lengths
  | n + 1, lengths => shorten limit n (lengths.modify (lengths.toList.findIdx (· == limit)) (· - 1))

/-- The lengths of codes, those met most often first, with none above the limit. -/
def limitLengths (limit : Nat) (counts lengths : Array Nat) : Array Nat :=
  let longest := lengths.foldl max 0
  if longest ≤ limit then lengths
  else
    let excess := lengths.foldl (fun sum length => sum +
      if limit < length then 1 <<< (longest - limit) - 1 <<< (longest - length) else 0) 0
    let (debt, lengths) := payBack limit counts (lengths.size * limit) (excess >>> (longest - limit) : Nat)
      (lengths.map (min limit))
    shorten limit (-debt).toNat lengths

/-! ## Codes -/

/-- The length of every byte's code, up to the last byte that has one; zero where there is none. -/
structure Lengths where
  lengths : Array Nat
  deriving DecidableEq, Repr

namespace Lengths

/-- The lengths that make the bytes shortest, for at least two different bytes. -/
def ofCounts (counts : Array Nat) : Lengths :=
  let ranked := Tally.rank counts
  let total := counts.foldl (· + ·) 0
  let top := ranked.foldl (fun top tally => max top tally.byte) 0
  let depths := (Tree.join (ranked.length - 1) ranked.reverse []).flatMap (·.depths 0)
  let depthOf := depths.foldl (fun (ds : Array Nat) (byte, depth) => ds.set! byte depth)
    (Array.replicate (top + 1) 0)
  let limited := limitLengths (Shares.fittingLog 11 1 total top) (ranked.map (·.count)).toArray
    (ranked.map fun tally => depthOf.getD tally.byte 0).toArray
  { lengths := (ranked.zip limited.toList).foldl (fun ls (tally, length) => ls.set! tally.byte length)
      (Array.replicate (top + 1) 0) }

/-- The greatest length. -/
def longest (l : Lengths) : Nat := l.lengths.foldl max 0

/-- The weight of every byte but the last: zero without a code, and the more the shorter its code. -/
def weights (l : Lengths) : List Nat :=
  l.lengths.toList.dropLast.map fun length => if length = 0 then 0 else l.longest + 1 - length

/-- Weights in turn, each by the walk whose turn it is; they stand last first. -/
def walk (coder : Coder) : List Nat → Nat → Nat → List Field
  | [], mine, other => [coder.finish mine, coder.finish other]
  | weight :: before, mine, other =>
    let (field, mine) := coder.step weight mine
    field :: walk coder before other mine

/-- Weights by a table, if that can be done. -/
def packWeights? (weights : List Nat) : Option (List UInt8) := do
  let top := weights.foldl max 0
  let counts := (List.range (top + 1)).map fun w => weights.countP (· == w)
  if counts.any (· == weights.length) ∨ counts.all (· ≤ 1) then none
  let shares := Shares.normal (Shares.fittingLog 6 2 weights.length top) 1 counts
  let coder := Coder.ofShares shares
  match weights.reverse with
  | last :: before :: rest =>
    some (shares.describe ++ Field.packClosed (walk coder rest (coder.start last) (coder.start before)))
  | _ => none

/-- Two weights in a byte. -/
def pairs : List Nat → List UInt8
  | [] => []
  | [w] => [UInt8.ofNat (w * 16)]
  | w :: v :: rest => UInt8.ofNat (w * 16 + v) :: pairs rest

/-- What a reader needs to know the lengths, unless there are too many bytes with a weight. -/
def describe? (l : Lengths) : Option (List UInt8) :=
  let weights := l.weights
  match (packWeights? weights).filter fun packed => packed.length < weights.length / 2 with
  | some packed => some (UInt8.ofNat packed.length :: packed)
  | none =>
    if weights.length ≤ 128 then some (UInt8.ofNat (127 + weights.length) :: pairs weights) else none

/-- The code of every byte: the longest codes come first, and codes of one length in the bytes' order. -/
def codes (l : Lengths) : Array Field :=
  let ofLength (length : Nat) := l.lengths.foldl (fun n k => if k = length then n + 1 else n) 0
  let (_, firsts) := (List.range l.longest).foldr (fun k (first, firsts) =>
    ((first + ofLength (k + 1)) / 2, first :: firsts)) (0, [])
  let coded := l.lengths.foldl (fun (firsts, codes) length =>
    if length = 0 then (firsts, codes.push ⟨0, 0⟩)
    else (firsts.modify (length - 1) (· + 1), codes.push ⟨length, firsts.getD (length - 1) 0⟩))
    (firsts.toArray, (#[] : Array Field))
  coded.2

/-- Bytes in their codes, to be read from the end. -/
def encode (codes : Array Field) (bytes : List UInt8) : List UInt8 :=
  Field.packClosed (bytes.foldl (fun fields b => codes.getD b.toNat ⟨0, 0⟩ :: fields) [])

end Lengths
end Zstd
end RecordingHarvest
