/-!
# Runs of bits

Numbers of a few bits each, one above the other, packed into bytes from the lowest bit of the first byte on. A
run that is read from its end closes with a one bit, above which the last byte holds zeros.
-/

namespace RecordingHarvest
namespace Zstd

/-- A number in so many bytes, the lowest first. -/
def littleEndian : Nat → Nat → List UInt8
  | 0, _ => []
  | k + 1, n => UInt8.ofNat n :: littleEndian k (n / 256)

/-- A number and the bits that it takes. -/
structure Field where
  width : Nat
  value : Nat
  deriving DecidableEq, Repr

/-- Fields packed so far: the bytes that are full, and the bits above them. -/
structure Packed where
  full : Array UInt8 := #[]
  low : Nat := 0
  used : Nat := 0

namespace Packed

/-- One more field above. -/
def add (p : Packed) (f : Field) : Packed :=
  let low := p.low + (f.value % 1 <<< f.width) <<< p.used
  let used := p.used + f.width
  { full := p.full ++ (littleEndian (used / 8) low).toArray
    low := low >>> (used / 8 * 8)
    used := used % 8 }

/-- All the bytes, the last one filled up with zeros. -/
def bytes (p : Packed) : List UInt8 :=
  if p.used = 0 then p.full.toList else (p.full.push (UInt8.ofNat p.low)).toList

end Packed

namespace Field

/-- Fields in bytes. -/
def pack (fields : List Field) : List UInt8 := (fields.foldl Packed.add {}).bytes

/-- Fields in bytes that can be read from their end. -/
def packClosed (fields : List Field) : List UInt8 := pack (fields ++ [⟨1, 1⟩])

end Field

end Zstd
end RecordingHarvest
