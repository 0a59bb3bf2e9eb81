/-!
# Numbers

Natural numbers as runs of ASCII digits, and how many of them a word can hold.  Reading the written
form gives the number back (`valueOf_digits`).
-/

namespace RecordingHarvest
namespace Number

/-! ## Widths of words -/

/-- How many numbers can be told apart by a word of so many bits. -/
def width16 : Nat := 65536

def width32 : Nat := 4294967296

/-- The numbers of a signed word lie on both sides of zero, this many on each. -/
def width63 : Nat := 9223372036854775808

def width64 : Nat := 18446744073709551616

/-! ## Decimal digits -/

/-- The ASCII digits. -/
def isDigit (c : Char) : Bool := '0' ≤ c && c ≤ '9'

/-- The value of a digit. -/
def digitValue (c : Char) : Nat := c.toNat - '0'.toNat

/-- The digit of a value below ten. -/
def digitChar (n : Nat) : Char := Char.ofNat ('0'.toNat + n)

/-- The number a run of digits stands for, high digits first. -/
def valueOf (ds : List Char) : Nat := ds.foldl (fun v c => 10 * v + digitValue c) 0

/-- The shortest run of digits for a number. -/
def digits (n : Nat) : List Char :=
  if _h : n < 10 then [digitChar n] else digits (n / 10) ++ [digitChar (n % 10)]
termination_by n
decreasing_by omega

/-- A number in at least `width` digits, zeros in front. -/
def padded (width n : Nat) : List Char :=
  let ds := digits n
  List.replicate (width - ds.length) '0' ++ ds

/-- The decimal form of an integer. -/
def integerText (n : Int) : String :=
  if n < 0 then String.ofList ('-' :: digits n.natAbs) else String.ofList (digits n.natAbs)

/-- The decimal form of a natural number. -/
def naturalText (n : Nat) : String := String.ofList (digits n)

theorem digitValue_digitChar {d : Nat} (h : d < 10) : digitValue (digitChar d) = d := by
  revert d
  decide

theorem isDigit_digitChar {d : Nat} (h : d < 10) : isDigit (digitChar d) = true := by
  revert d
  decide

/-- Reading a written number gives it back. -/
@[simp] theorem valueOf_digits (n : Nat) : valueOf (digits n) = n := by
  rw [digits]
  split
  · simp [valueOf, digitValue_digitChar (by assumption)]
  · have ih := valueOf_digits (n / 10)
    simp only [valueOf, List.foldl_append, List.foldl_cons, List.foldl_nil] at ih ⊢
    rw [ih, digitValue_digitChar (by omega)]
    omega
termination_by n
decreasing_by omega

/-- A written number holds digits only. -/
theorem isDigit_of_mem_digits (n : Nat) : ∀ c ∈ digits n, isDigit c = true := by
  rw [digits]
  split
  · simp only [List.mem_singleton]
    rintro c rfl
    exact isDigit_digitChar (by assumption)
  · intro c hc
    simp only [List.mem_append, List.mem_singleton] at hc
    rcases hc with hc | rfl
    · exact isDigit_of_mem_digits (n / 10) c hc
    · exact isDigit_digitChar (by omega)
termination_by n
decreasing_by omega

/-- A written number is not empty. -/
theorem digits_ne_nil (n : Nat) : digits n ≠ [] := by
  rw [digits]
  split <;> simp

end Number
end RecordingHarvest
