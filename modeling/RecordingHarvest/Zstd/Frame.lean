import RecordingHarvest.Zstd.Block

/-!
# Compressed frames

A frame holds blocks. `Block.cover` covers data with blocks of one size and what is left; `writeFrame` gives the
frame's bytes.
-/

namespace RecordingHarvest
namespace Zstd

/-- The four bytes that open every frame. -/
def magic : List UInt8 := [0x28, 0xB5, 0x2F, 0xFD]

/-- The code for `window` in a frame's header: an exponent above ten, in the upper five bits. -/
def windowCode : UInt8 := (21 - 10) * 8

/-- The most bytes that one block puts out. -/
def blockLimit : Nat := 131072

namespace Block

/-- The block for one stretch, packed if that saves enough, and the search after it. -/
def coverStretch (s : Stretch) (search : Search) : Block × Search :=
  let bytes := (s.data.extract s.first s.stop).toList
  if bytes.length < 7 then (stored bytes, search)
  else
    let after := Search.run s search
    let block := packed after.found.reverse (s.data.extract after.anchor s.stop).toList
    if block.content.length + leastGain bytes.length < bytes.length then (block, after)
    else (stored bytes, { search with places := after.places })

/-- Covers the data from a place on; the last block is never full. -/
def coverFrom (data : Array UInt8) (search : Search) (first : Nat) : List Block :=
  let stop := min data.size (first + blockLimit)
  let (block, search) := coverStretch { data, low := stop - window, first, stop } search
  if first + blockLimit ≤ data.size then block :: coverFrom data search (first + blockLimit)
  else [block]
termination_by data.size - first
decreasing_by simp only [blockLimit] at *; omega

/-- Blocks that put the data out. -/
def cover (data : List UInt8) : List Block := coverFrom data.toArray {} 0

end Block

/-- A frame of blocks. -/
def writeFrame (blocks : List Block) : List UInt8 :=
  magic ++ [0x00, windowCode] ++ Block.writeAll blocks

end Zstd
end RecordingHarvest
