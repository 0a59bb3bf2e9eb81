import RecordingHarvest.Number.Digits

/-!
# Numbers on the wire

A number below 2^64 is written in groups of seven bits, the lowest group first; every byte but the
last has its top bit set.  A reader takes ten bytes at most and accepts groups of zeros behind the
number, so `readVarint?` undoes `writeVarint` but not the other way about.
-/

namespace RecordingHarvest
namespace Remote

/-- The shortest form of a number. -/
def writeVarint (n : Nat) : List UInt8 :=
  if n < 128 then [UInt8.ofNat n] else UInt8.ofNat (n % 128 + 128) :: writeVarint (n / 128)
termination_by n

/-- The number that at most `k` bytes hold, and the bytes behind it. -/
def takeGroups? : Nat → List UInt8 → Option (Nat × List UInt8)
  | 0, _ => none
  | _, [] => none
  | k + 1, b :: rest =>
    if b < 128 then some (b.toNat, rest)
    else (takeGroups? k rest).map fun (n, rest) => (b.toNat % 128 + 128 * n, rest)

/-- The number in front, and the bytes behind it. -/
def readVarint? (bytes : List UInt8) : Option (Nat × List UInt8) :=
  (takeGroups? 10 bytes).filter fun (n, _) => n < Number.width64

/-- The lowest group comes first. -/
theorem writeVarint_of_lt {n : Nat} (h : n < 128) : writeVarint n = [UInt8.ofNat n] := by
  rw [writeVarint, if_pos h]

/-- Reading takes back what was written, given room for its groups. -/
theorem takeGroups?_writeVarint (k : Nat) (n : Nat) (h : n < Nat.pow 128 (k + 1)) (rest : List UInt8) :
    takeGroups? (k + 1) (writeVarint n ++ rest) = some (n, rest) := by
  induction k generalizing n with
  | zero =>
    have hn : n < 128 := h
    have hb : UInt8.ofNat n < 128 := by
      rw [UInt8.lt_iff_toNat_lt, UInt8.toNat_ofNat']
      exact Nat.lt_of_le_of_lt (Nat.mod_le _ _) hn
    rw [writeVarint_of_lt hn, List.singleton_append, takeGroups?, if_pos hb, UInt8.toNat_ofNat',
      Nat.mod_eq_of_lt (by omega)]
  | succ k ih =>
    rw [writeVarint]
    split
    · rename_i hn
      have hb : UInt8.ofNat n < 128 := by
        rw [UInt8.lt_iff_toNat_lt, UInt8.toNat_ofNat']
        exact Nat.lt_of_le_of_lt (Nat.mod_le _ _) hn
      rw [List.singleton_append, takeGroups?, if_pos hb, UInt8.toNat_ofNat',
        Nat.mod_eq_of_lt (by omega)]
    · have ht : (UInt8.ofNat (n % 128 + 128)).toNat = n % 128 + 128 := by
        rw [UInt8.toNat_ofNat', Nat.mod_eq_of_lt (by omega)]
      have hb : ¬ UInt8.ofNat (n % 128 + 128) < 128 := by
        rw [UInt8.lt_iff_toNat_lt, ht]
        simp
      have hd : n / 128 < Nat.pow 128 (k + 1) := by
        rw [Nat.div_lt_iff_lt_mul (by decide)]
        exact h
      rw [List.cons_append, takeGroups?, if_neg hb, ih _ hd, Option.map_some, ht]
      have : (n % 128 + 128) % 128 + 128 * (n / 128) = n := by omega
      simp only [this]

/-- Reading takes back every number of 64 bits. -/
theorem readVarint?_writeVarint {n : Nat} (h : n < Number.width64) (rest : List UInt8) :
    readVarint? (writeVarint n ++ rest) = some (n, rest) := by
  rw [readVarint?, takeGroups?_writeVarint 9 n (Nat.lt_of_lt_of_le h (by decide)), Option.filter_some, if_pos]
  exact decide_eq_true h

end Remote
end RecordingHarvest
