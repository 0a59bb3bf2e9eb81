/-!
# UTF-8

Bytes and the characters they spell.  `decodeStep` reads one character or reports how many bytes
of an ill-formed sequence to set aside; the strict reader refuses at the first such sequence and
the lenient one puts the replacement character in its place.
-/

namespace RecordingHarvest
namespace Text

/-- The bytes of one character. -/
def encodeChar (c : Char) : List UInt8 :=
  let n := c.toNat
  if n < 0x80 then [UInt8.ofNat n]
  else if n < 0x800 then [UInt8.ofNat (0xC0 + n / 64), UInt8.ofNat (0x80 + n % 64)]
  else if n < 0x10000 then
    [UInt8.ofNat (0xE0 + n / 4096), UInt8.ofNat (0x80 + n / 64 % 64), UInt8.ofNat (0x80 + n % 64)]
  else
    [UInt8.ofNat (0xF0 + n / 262144), UInt8.ofNat (0x80 + n / 4096 % 64),
      UInt8.ofNat (0x80 + n / 64 % 64), UInt8.ofNat (0x80 + n % 64)]

/-- The bytes of a text. -/
def encode (cs : List Char) : List UInt8 := cs.flatMap encodeChar

/-- The bytes of a string. -/
def bytesOf (s : String) : List UInt8 := encode s.toList

/-- How many bytes follow a lead byte, with the range the first of them must lie in; `none` for
a byte that cannot lead.  The narrowed ranges shut out overlong forms, surrogates and code points
past the last. -/
def leadOf (a : Nat) : Option (Nat × Nat × Nat) :=
  if a < 0x80 then some (0, 0, 0)
  else if a < 0xC2 then none
  else if a < 0xE0 then some (1, 0x80, 0xBF)
  else if a = 0xE0 then some (2, 0xA0, 0xBF)
  else if a = 0xED then some (2, 0x80, 0x9F)
  else if a < 0xF0 then some (2, 0x80, 0xBF)
  else if a = 0xF0 then some (3, 0x90, 0xBF)
  else if a < 0xF4 then some (3, 0x80, 0xBF)
  else if a = 0xF4 then some (3, 0x80, 0x8F)
  else none

/-- A continuation byte. -/
def isContinuation (b : Nat) : Bool := 0x80 ≤ b && b < 0xC0

/-- The first character of `a :: rest` with the bytes it takes beyond `a`, or no character and
the bytes of the ill-formed sequence beyond `a`. -/
def decodeStep (a : UInt8) (rest : List UInt8) : Option Char × Nat :=
  let lead := a.toNat
  match leadOf lead with
  | none => (none, 0)
  | some (0, _, _) => (some (Char.ofNat lead), 0)
  | some (extra, lo, hi) =>
    match rest with
    | [] => (none, 0)
    | b :: more =>
      if b.toNat < lo || hi < b.toNat then (none, 0)
      else if extra = 1 then (some (Char.ofNat ((lead - 0xC0) * 64 + (b.toNat - 0x80))), 1)
      else
        match more with
        | [] => (none, 1)
        | c :: more =>
          if !isContinuation c.toNat then (none, 1)
          else if extra = 2 then
            (some (Char.ofNat ((lead - 0xE0) * 4096 + (b.toNat - 0x80) * 64 + (c.toNat - 0x80))), 2)
          else
            match more with
            | [] => (none, 2)
            | d :: _ =>
              if !isContinuation d.toNat then (none, 2)
              else
                (some (Char.ofNat ((lead - 0xF0) * 262144 + (b.toNat - 0x80) * 4096 +
                  (c.toNat - 0x80) * 64 + (d.toNat - 0x80))), 3)

/-- The text that the bytes spell, if they are well formed throughout. -/
def decode? : List UInt8 → Option (List Char)
  | [] => some []
  | a :: rest =>
    match decodeStep a rest with
    | (some c, n) => (decode? (rest.drop n)).map (c :: ·)
    | (none, _) => none
termination_by bs => bs.length
decreasing_by simp only [List.length_drop, List.length_cons]; omega

/-- The text that the bytes spell, each ill-formed sequence read as U+FFFD. -/
def decodeLenient : List UInt8 → List Char
  | [] => []
  | a :: rest =>
    let step := decodeStep a rest
    step.1.getD '\uFFFD' :: decodeLenient (rest.drop step.2)
termination_by bs => bs.length
decreasing_by simp only [List.length_drop, List.length_cons]; omega

end Text
end RecordingHarvest
