import Mathlib.Algebra.Group.Nat.Defs
import RecordingHarvest.Number.Digits

/-!
# Runs of digits

* `valueOf_padded`, `length_padded`: a number in at least so many digits, read back and counted.
* `digits_head_ne_zero`: only zero is written with a zero in front.
* `valueOf_lt`: so many digits stay below that power of ten.
* `takeWhile_isDigit_append`, `dropWhile_isDigit_append`: a run of digits is told from what follows
  it.
-/

namespace RecordingHarvest
namespace Number

/-! ## Digits -/

theorem bounds_of_isDigit {c : Char} (h : isDigit c = true) : 48 ≤ c.toNat ∧ c.toNat ≤ 57 := by
  simp only [isDigit, Bool.and_eq_true, decide_eq_true_eq, Char.le_def, UInt32.le_iff_toNat_le] at h
  exact h

theorem digitValue_le {c : Char} (h : isDigit c = true) : digitValue c ≤ 9 := by
  have hbounds := bounds_of_isDigit h
  have hzero : '0'.toNat = 48 := rfl
  rw [digitValue]
  omega

/-! ## Numbers with zeros in front -/

theorem valueOf_zeros_append (k : Nat) (ds : List Char) :
    valueOf (List.replicate k '0' ++ ds) = valueOf ds := by
  have hzero : 10 * 0 + digitValue '0' = 0 := by decide
  induction k with
  | zero => rfl
  | succ k ih =>
      rw [List.replicate_succ, List.cons_append, valueOf, List.foldl_cons, hzero]
      exact ih

theorem valueOf_padded (width n : Nat) : valueOf (padded width n) = n := by
  rw [padded, valueOf_zeros_append, valueOf_digits]

theorem isDigit_of_mem_padded (width n : Nat) : ∀ c ∈ padded width n, isDigit c = true := by
  intro c hc
  rw [padded, List.mem_append, List.mem_replicate] at hc
  rcases hc with ⟨-, rfl⟩ | hc
  · decide
  · exact isDigit_of_mem_digits n c hc

theorem padded_ne_nil (width n : Nat) : padded width n ≠ [] := by
  rw [padded]
  exact List.append_ne_nil_of_right_ne_nil _ (digits_ne_nil n)

/-- A number below a power of ten has no more digits than that has zeros. -/
theorem length_digits_le {n : Nat} (width : Nat) (h : n < 10 ^ (width + 1)) :
    (digits n).length ≤ width + 1 := by
  induction width generalizing n with
  | zero => rw [digits, dif_pos (by omega)]; simp
  | succ width ih =>
      rw [digits]
      by_cases hsmall : n < 10
      · simp [hsmall]
      · have hfewer := ih (n := n / 10) (by rw [Nat.pow_succ] at h; omega)
        simp only [hsmall, ↓reduceDIte, List.length_append, List.length_singleton]
        omega

theorem length_padded {n : Nat} (width : Nat) (h : n < 10 ^ (width + 1)) :
    (padded (width + 1) n).length = width + 1 := by
  have hfew := length_digits_le width h
  simp only [padded, List.length_append, List.length_replicate]
  omega

/-- A written number begins with a digit. -/
theorem digits_eq_cons (n : Nat) : ∃ c ds, digits n = c :: ds ∧ isDigit c = true := by
  obtain ⟨c, ds, hds⟩ := List.exists_cons_of_ne_nil (digits_ne_nil n)
  exact ⟨c, ds, hds, isDigit_of_mem_digits n c (by rw [hds]; exact List.mem_cons_self)⟩

theorem digits_zero : digits 0 = ['0'] := by
  rw [digits]
  rfl

/-- Only zero is written with a zero in front. -/
theorem digits_head_ne_zero {n : Nat} (h : n ≠ 0) : ∃ c ds, digits n = c :: ds ∧ c ≠ '0' := by
  rw [digits]
  by_cases hsmall : n < 10
  · refine ⟨digitChar n, [], by simp [hsmall], ?_⟩
    intro hzero
    have hvalue := digitValue_digitChar hsmall
    rw [hzero] at hvalue
    exact h hvalue.symm
  · obtain ⟨c, ds, hds, hc⟩ := digits_head_ne_zero (n := n / 10) (by omega)
    exact ⟨c, ds ++ [digitChar (n % 10)], by simp [hsmall, hds], hc⟩
termination_by n
decreasing_by omega

/-! ## Numbers below a power of ten -/

/-- The number that digits make behind those of a number. -/
def appended (s : Nat) (ds : List Char) : Nat := ds.foldl (fun v d => 10 * v + digitValue d) s

theorem le_appended (s : Nat) (ds : List Char) : s ≤ appended s ds := by
  induction ds generalizing s with
  | nil => exact Nat.le_refl s
  | cons d ds ih =>
      have hnext := ih (10 * s + digitValue d)
      rw [appended] at hnext ⊢
      rw [List.foldl_cons]
      omega

theorem appended_lt (s : Nat) {ds : List Char} (hds : ∀ c ∈ ds, isDigit c = true) :
    appended s ds < (s + 1) * 10 ^ ds.length := by
  induction ds generalizing s with
  | nil => simp [appended]
  | cons d ds ih =>
      have hdigit : digitValue d ≤ 9 := digitValue_le (hds d List.mem_cons_self)
      have hrest : ∀ c ∈ ds, isDigit c = true := fun c hc => hds c (List.mem_cons_of_mem d hc)
      calc appended (10 * s + digitValue d) ds
          < (10 * s + digitValue d + 1) * 10 ^ ds.length := ih _ hrest
        _ ≤ (s + 1) * 10 * 10 ^ ds.length := Nat.mul_le_mul_right _ (by omega)
        _ = (s + 1) * 10 ^ (ds.length + 1) := by
            rw [Nat.mul_assoc, Nat.pow_succ, Nat.mul_comm 10]

/-- A run of digits stands for less than one with a zero more. -/
theorem valueOf_lt {ds : List Char} (hds : ∀ c ∈ ds, isDigit c = true) :
    valueOf ds < 10 ^ ds.length := by
  have hlt := appended_lt 0 hds
  rwa [Nat.zero_add, Nat.one_mul] at hlt

/-! ## What follows a run of digits -/

/-- A text that does not go on with a digit. -/
def EndsDigits (rest : List Char) : Prop := ∀ c ∈ rest.head?, isDigit c = false

theorem endsDigits_nil : EndsDigits [] := nofun

theorem endsDigits_cons {c : Char} {rest : List Char} (h : isDigit c = false) :
    EndsDigits (c :: rest) := by
  intro d hd
  obtain rfl : c = d := by simpa using hd
  exact h

variable {ds rest : List Char}

/-- What begins with a digit begins with nothing else. -/
theorem digits_append_ne_cons (hds : ∀ c ∈ ds, isDigit c = true) (hne : ds ≠ []) {c : Char}
    (hc : isDigit c = false) (rest tail : List Char) : ds ++ rest ≠ c :: tail := by
  obtain ⟨d, more, rfl⟩ := List.exists_cons_of_ne_nil hne
  intro heq
  obtain rfl : d = c := List.head_eq_of_cons_eq heq
  exact Bool.false_ne_true (hc.symm.trans (hds d List.mem_cons_self))

theorem takeWhile_isDigit_append (hds : ∀ c ∈ ds, isDigit c = true) (hrest : EndsDigits rest) :
    (ds ++ rest).takeWhile isDigit = ds := by
  have hnone : rest.takeWhile isDigit = [] := by
    cases rest with
    | nil => rfl
    | cons c rest => simp [hrest c rfl]
  rw [List.takeWhile_append_of_pos hds, hnone, List.append_nil]

theorem dropWhile_isDigit_append (hds : ∀ c ∈ ds, isDigit c = true) (hrest : EndsDigits rest) :
    (ds ++ rest).dropWhile isDigit = rest := by
  have hall : rest.dropWhile isDigit = rest := by
    cases rest with
    | nil => rfl
    | cons c rest => simp [hrest c rfl]
  rw [List.dropWhile_append_of_pos hds, hall]

end Number
end RecordingHarvest
