import RecordingHarvest.Number.Digits

/-!
# JSON values

Numbers are whole numbers of 64 bits or doubles, and the two kinds never compare equal.  An object
read from text holds its members sorted by key, each key once; `Members.put` keeps that order.
-/

namespace RecordingHarvest

/-- A JSON value. -/
inductive Json where
  | null
  | bool (b : Bool)
  | int (n : Int)
  | float (x : Float)
  | str (s : String)
  | arr (items : List Json)
  | obj (members : List (String × Json))
  deriving Repr, BEq, Inhabited

/-- The members of an object. -/
abbrev Members (α : Type) := List (String × α)

namespace Members

variable {α : Type}

/-- The value under a key. -/
def get? (ms : Members α) (key : String) : Option α :=
  match ms with
  | [] => none
  | (k, v) :: rest => if k = key then some v else get? rest key

/-- Sets a key in a sorted list: an old value is replaced, a new key goes where it belongs. -/
def put (ms : Members α) (key : String) (value : α) : Members α :=
  match ms with
  | [] => [(key, value)]
  | (k, v) :: rest =>
    if key = k then (key, value) :: rest
    else if key < k then (key, value) :: (k, v) :: rest
    else (k, v) :: put rest key value

/-- The list without a key. -/
def erase (ms : Members α) (key : String) : Members α := ms.filter fun (k, _) => k != key

/-- Sets one key after another, so that the last of two equal keys wins. -/
def putAll (ms : Members α) (entries : List (String × α)) : Members α :=
  entries.foldl (fun acc (k, v) => acc.put k v) ms

/-- A sorted list with the entries, the last of two equal keys kept. -/
def ofEntries (entries : List (String × α)) : Members α := putAll [] entries

/-- Setting a key makes it look up to the new value. -/
@[simp] theorem get?_put_self (ms : Members α) (key : String) (value : α) :
    (ms.put key value).get? key = some value := by
  induction ms with
  | nil => simp [put, get?]
  | cons entry rest ih =>
    obtain ⟨k, v⟩ := entry
    rw [put]
    split
    · simp [get?]
    · split
      · simp [get?]
      · rename_i hk _
        simp [get?, Ne.symm hk, ih]

/-- Setting a key leaves every other key as it was. -/
theorem get?_put_of_ne (ms : Members α) {key other : String} (value : α) (h : other ≠ key) :
    (ms.put key value).get? other = ms.get? other := by
  induction ms with
  | nil => simp [put, get?, h.symm]
  | cons entry rest ih =>
    obtain ⟨k, v⟩ := entry
    rw [put]
    split
    · rename_i hk
      simp [get?, ← hk, h.symm]
    · split
      · simp [get?, h.symm]
      · simp [get?, ih]

end Members

namespace Json

/-- The member of an object under a key. -/
def member? : Json → String → Option Json
  | .obj ms, key => Members.get? ms key
  | _, _ => none

/-- The text of a string value. -/
def str? : Json → Option String
  | .str s => some s
  | _ => none

/-- The truth value of a boolean. -/
def bool? : Json → Option Bool
  | .bool b => some b
  | _ => none

/-- A whole number that fits 64 signed bits. -/
def int64? : Json → Option Int
  | .int n => if -(Number.width63 : Int) ≤ n ∧ n < Number.width63 then some n else none
  | _ => none

/-- A whole number that fits 64 unsigned bits. -/
def nat64? : Json → Option Nat
  | .int n => if 0 ≤ n ∧ n < Number.width64 then some n.toNat else none
  | _ => none

/-- The nearest double to a whole number of 64 bits. -/
def doubleOfInt (n : Int) : Float :=
  if n < 0 then -(n.natAbs.toUInt64.toFloat) else n.toNat.toUInt64.toFloat

/-- Any number as a double. -/
def double? : Json → Option Float
  | .int n => some (doubleOfInt n)
  | .float x => some x
  | _ => none

/-- The members of an object. -/
def members? : Json → Option (Members Json)
  | .obj ms => some ms
  | _ => none

end Json
end RecordingHarvest
