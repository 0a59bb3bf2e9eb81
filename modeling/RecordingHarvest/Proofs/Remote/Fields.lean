import RecordingHarvest.Remote.Field

/-!
# Fields read back

A message is written as the bytes of its fields, one field behind the other.  A field here has a
number below 16 and holds a number of 64 bits or a block (`Field.Plain`); of such fields the reader
gives back every one, in order.

* `Field.readKey?_write`, `Field.readBlock?_write`: a key and a block come back, whatever follows.
* `fieldsWithin?_write`: one field comes off the front, whatever follows.
* `fields?_write`, `fields?_write_of_isBlock`: all fields of a message come back.
-/

namespace RecordingHarvest
namespace Remote

namespace Field

/-- The bytes of a field.  Nothing here writes content of a foreign kind. -/
def write (f : Field) : List UInt8 :=
  match f.content with
  | .number n => writeNumber f.number n
  | .block bytes => writeBlock f.number bytes
  | .foreign => []

/-- A field as messages here have them.  A reader that takes some fields for blocks, whatever their
key says, must not find a number in one of those. -/
structure Plain (always : Nat → Bool) (f : Field) : Prop where
  pos : 1 ≤ f.number
  lt : f.number < 16
  content : match f.content with
    | .number n => n < Number.width64 ∧ always f.number = false
    | .block bytes => bytes.length < Number.width64
    | .foreign => False

/-! ## Keys and blocks -/

theorem readKey?_write {number : Nat} (kind : Nat) (hpos : 1 ≤ number) (hlt : number < 16)
    (hkind : kind < 6) (rest : List UInt8) :
    readKey? (writeVarint (number * 8 + kind) ++ rest) = some (number, kind, rest) := by
  have hkey : number * 8 + kind < Number.width64 := by
    simp only [Number.width64]
    omega
  have hsound : 8 ≤ number * 8 + kind ∧ number * 8 + kind < Number.width32 ∧
      (number * 8 + kind) % 8 < 6 := by
    simp only [Number.width32]
    omega
  have hnumber : (number * 8 + kind) / 8 = number := by omega
  have hrest : (number * 8 + kind) % 8 = kind := by omega
  simp [readKey?, readVarint?_writeVarint hkey, hsound, hnumber, hrest, hkind]

theorem readBlock?_write {bytes : List UInt8} (h : bytes.length < Number.width64)
    (rest : List UInt8) :
    readBlock? (writeVarint bytes.length ++ (bytes ++ rest)) = some (bytes, rest) := by
  simp [readBlock?, readVarint?_writeVarint h]

theorem writeVarint_ne_nil (n : Nat) : writeVarint n ≠ [] := by
  rw [writeVarint]
  split <;> simp

/-- A block is shorter than the field that holds it. -/
theorem length_lt_writeBlock (number : Nat) (bytes : List UInt8) :
    bytes.length < (writeBlock number bytes).length := by
  have hkey := List.length_pos_iff.2 (writeVarint_ne_nil (number * 8 + 2))
  simp only [writeBlock, List.length_append]
  omega

end Field

/-! ## Messages -/

variable {always : Nat → Bool} {f : Field} {fs : List Field}

/-- Every field takes a byte at least. -/
theorem Field.Plain.length_pos (h : f.Plain always) : 0 < f.write.length := by
  obtain ⟨number, content⟩ := f
  cases content with
  | number n =>
      have hkey := List.length_pos_iff.2 (Field.writeVarint_ne_nil (number * 8))
      simp only [Field.write, Field.writeNumber, List.length_append]
      omega
  | block bytes => exact Nat.zero_lt_of_lt (Field.length_lt_writeBlock number bytes)
  | foreign => exact h.content.elim

/-- A block with one of the numbers in use. -/
structure Field.IsBlock (f : Field) : Prop where
  pos : 1 ≤ f.number
  lt : f.number < 16
  content : ∃ bytes, f.content = .block bytes

/-- A block is shorter than the message it is in. -/
theorem length_lt_of_mem {number : Nat} {bytes : List UInt8} (h : ⟨number, .block bytes⟩ ∈ fs) :
    bytes.length < (fs.flatMap Field.write).length := by
  obtain ⟨before, behind, rfl⟩ := List.append_of_mem h
  have hblock := Field.length_lt_writeBlock number bytes
  simp only [List.flatMap_append, List.flatMap_cons, List.length_append, Field.write]
  omega

/-- In a message that fits, every block is a field as messages have them. -/
theorem plain_of_isBlock (hfit : (fs.flatMap Field.write).length < Number.width64)
    (hf : f ∈ fs) (h : f.IsBlock) : f.Plain always := by
  obtain ⟨hpos, hlt, bytes, hcontent⟩ := h
  obtain ⟨number, content⟩ := f
  obtain rfl : content = .block bytes := hcontent
  exact ⟨hpos, hlt, Nat.lt_trans (length_lt_of_mem hf) hfit⟩

/-- **One field comes off the front**, whatever follows. -/
theorem fieldsWithin?_write (h : f.Plain always) (depth fuel : Nat) (rest : List UInt8) :
    fieldsWithin? always depth (fuel + 1) (f.write ++ rest) =
      (fieldsWithin? always depth fuel rest).map (f :: ·) := by
  have hne : f.write ++ rest ≠ [] := by
    have hpos := h.length_pos
    intro hnil
    simp [(List.append_eq_nil_iff.1 hnil).1] at hpos
  obtain ⟨hpos, hlt, hcontent⟩ := h
  obtain ⟨number, content⟩ := f
  rw [fieldsWithin?]
  · cases content with
    | number n =>
        obtain ⟨hn, halways⟩ := hcontent
        have hkey := Field.readKey?_write 0 hpos hlt (by omega) (writeVarint n ++ rest)
        simp only [Nat.add_zero] at hkey
        cases hfields : fieldsWithin? always depth fuel rest <;>
          simp [Field.write, Field.writeNumber, hkey, halways, Field.content?, Field.flatContent?,
            readVarint?_writeVarint hn, hfields]
    | block bytes =>
        have hkey := Field.readKey?_write 2 hpos hlt (by omega)
          (writeVarint bytes.length ++ (bytes ++ rest))
        cases hfields : fieldsWithin? always depth fuel rest <;>
          simp [Field.write, Field.writeBlock, hkey, Field.content?, Field.flatContent?,
            Field.readBlock?_write hcontent, hfields]
    | foreign => exact hcontent.elim
  · exact hne

/-- **All fields of a message come back.** -/
theorem fields?_write (h : ∀ f ∈ fs, f.Plain always) (depth : Nat) :
    fields? always depth (fs.flatMap Field.write) = some fs := by
  -- The reader's fuel is the length of the message: it may be more than there are fields.
  have hwithin : ∀ fuel, (fs.flatMap Field.write).length ≤ fuel →
      fieldsWithin? always depth fuel (fs.flatMap Field.write) = some fs := by
    induction fs with
    | nil =>
        intro fuel _
        simp [fieldsWithin?]
    | cons f rest ih =>
        intro fuel hfuel
        have hpos := (h f List.mem_cons_self).length_pos
        simp only [List.flatMap_cons, List.length_append] at hfuel ⊢
        obtain ⟨more, rfl⟩ : ∃ more, fuel = more + 1 := ⟨fuel - 1, by omega⟩
        rw [fieldsWithin?_write (h f List.mem_cons_self),
          ih (fun g hg => h g (List.mem_cons_of_mem f hg)) more (by omega)]
        rfl
  exact hwithin _ (Nat.le_refl _)

/-- All fields of a message of blocks come back, if it fits. -/
theorem fields?_write_of_isBlock (hfit : (fs.flatMap Field.write).length < Number.width64)
    (h : ∀ f ∈ fs, f.IsBlock) (depth : Nat) :
    fields? always depth (fs.flatMap Field.write) = some fs :=
  fields?_write (fun f hf => plain_of_isBlock hfit hf (h f hf)) depth

end Remote
end RecordingHarvest
