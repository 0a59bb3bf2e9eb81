import RecordingHarvest.Proofs.Json.Grammar
import RecordingHarvest.Proofs.Json.Members

/-!
# Values come back from their forms

What evaluation can give is sorted, within 64 bits and not nested too deeply (`Readable`), and the
form of such a value evaluates to it.

* `Numeral.value?_numeralOf`: whole numbers of 64 bits.
* `value?_formOf`: readable values.
* `readable_of_value?`: evaluation gives nothing else, floating-point numbers apart.
-/

namespace RecordingHarvest
namespace Json

open Number (appended digits digitValue width63 width64)

/-! ## Whole numbers -/

namespace Numeral

/-- Digits of a number within 64 bits are all taken. -/
theorem absorb_eq {s : Nat} {ds : List Char} (h : appended s ds ≤ wordMax) :
    absorb s ds = (appended s ds, ds.length) := by
  induction ds generalizing s with
  | nil => rfl
  | cons d ds ih =>
      have hnext : 10 * s + digitValue d ≤ wordMax := Nat.le_trans (Number.le_appended _ ds) h
      have hrest : absorb (10 * s + digitValue d) ds =
          (appended (10 * s + digitValue d) ds, ds.length) := ih h
      rw [absorb]
      simp only [hnext, ↓reduceIte, hrest]
      rfl

theorem absorb_digits {m : Nat} (h : m ≤ wordMax) :
    absorb 0 (digits m) = (m, (digits m).length) := by
  have hvalue : appended 0 (digits m) = m := Number.valueOf_digits m
  have hfits : appended 0 (digits m) ≤ wordMax := by
    rw [hvalue]
    exact h
  rw [absorb_eq hfits, hvalue]

/-- No more is taken than 64 bits hold. -/
theorem absorb_le {s : Nat} (h : s ≤ wordMax) (ds : List Char) : (absorb s ds).1 ≤ wordMax := by
  induction ds generalizing s with
  | nil => exact h
  | cons d ds ih =>
      rw [absorb]
      by_cases hnext : 10 * s + digitValue d ≤ wordMax
      · simp only [hnext, ↓reduceIte]
        exact ih hnext
      · simp only [hnext, ↓reduceIte]
        exact h

/-- Whole numbers between the least signed and the greatest unsigned one of 64 bits. -/
def Fits (n : Int) : Prop := -(width63 : Int) ≤ n ∧ n < width64

/-- A whole number comes back from its numeral. -/
theorem value?_numeralOf {n : Int} (h : Fits n) : (numeralOf n).value? = some (.int n) := by
  obtain ⟨hlow, hhigh⟩ := h
  have hwidth : (width64 : Int) = 2 * width63 := rfl
  have hmax : n.natAbs ≤ wordMax := by
    rw [wordMax]
    omega
  have habsorb := absorb_digits hmax
  rw [value?]
  simp only [numeralOf, habsorb]
  rw [if_pos ⟨rfl, rfl, Nat.sub_self _⟩]
  by_cases hn : n < 0
  · have hback : -(n.natAbs : Int) = n := by omega
    have hwide : ¬ (n.natAbs = 0 ∨ width63 < n.natAbs) := by omega
    rw [if_pos (decide_eq_true hn), if_neg hwide, hback]
  · have hback : (n.natAbs : Int) = n := by omega
    rw [if_neg (by rw [decide_eq_false hn]; exact Bool.false_ne_true), hback]

/-- What a numeral stands for fits 64 bits or is a double. -/
theorem value?_cases {numeral : Numeral} {j : Json} (h : numeral.value? = some j) :
    (∃ n, j = .int n ∧ Fits n) ∨ ∃ x, j = .float x := by
  have hmax : (absorb 0 numeral.whole).1 < width64 := by
    have hle := absorb_le (Nat.zero_le wordMax) numeral.whole
    have hpos : 0 < width64 := by decide
    rw [wordMax] at hle
    omega
  have hwidth : (width64 : Int) = 2 * width63 := rfl
  have hdouble {x : Option Float} (hx : x.map Json.float = some j) : ∃ x, j = .float x := by
    obtain ⟨y, -, rfl⟩ := Option.map_eq_some_iff.1 hx
    exact ⟨y, rfl⟩
  simp only [value?] at h
  split at h
  · split at h
    · split at h
      · cases h
        exact .inr ⟨_, rfl⟩
      · cases h
        exact .inl ⟨_, rfl, by constructor <;> omega⟩
    · cases h
      exact .inl ⟨_, rfl, by constructor <;> omega⟩
  · split at h
    · exact .inr (hdouble h)
    · exact .inr (hdouble h)

end Numeral

/-! ## Values -/

/-- What evaluation with so many levels can give, floating-point numbers apart. -/
def Readable : Nat → Json → Prop
  | _, .float _ => False
  | _, .int n => Numeral.Fits n
  | 0, .arr _ => False
  | 0, .obj _ => False
  | depth + 1, .arr items => ∀ x ∈ items, Readable depth x
  | depth + 1, .obj members => Members.Sorted members ∧ ∀ m ∈ members, Readable depth m.2
  | _, _ => True

theorem formsOf_eq_map (items : List Json) : formsOf items = items.map formOf := by
  induction items with
  | nil => rfl
  | cons x rest ih => rw [formsOf, List.map_cons, ih]

theorem memberForms_eq_map (members : List (String × Json)) :
    memberForms members = members.map fun m => (body m.1.toList, formOf m.2) := by
  induction members with
  | nil => rfl
  | cons m rest ih => rw [memberForms, List.map_cons, ih]

section

variable {α β : Type} {f : β → Option α} {g : α → β}

/-- What is undone item by item is undone for the list. -/
theorem mapM_map_of_forall {xs : List α} (h : ∀ x ∈ xs, f (g x) = some x) :
    (xs.map g).mapM f = some xs := by
  induction xs with
  | nil => rfl
  | cons x rest ih =>
      have hrest := ih fun y hy => h y (List.mem_cons_of_mem x hy)
      simp [h x List.mem_cons_self, hrest]

theorem exists_of_mem_mapM {xs : List β} {ys : List α} (h : xs.mapM f = some ys) {y : α}
    (hy : y ∈ ys) : ∃ x ∈ xs, f x = some y := by
  induction xs generalizing ys with
  | nil =>
      cases h
      exact absurd hy List.not_mem_nil
  | cons x rest ih =>
      simp only [List.mapM_cons, Option.bind_eq_bind, Option.bind_eq_some_iff, Option.pure_def,
        Option.some.injEq] at h
      obtain ⟨z, hz, zs, hzs, rfl⟩ := h
      rcases List.mem_cons.1 hy with rfl | hy
      · exact ⟨x, List.mem_cons_self, hz⟩
      · obtain ⟨x', hmem, hx'⟩ := ih hzs hy
        exact ⟨x', List.mem_cons_of_mem x hmem, hx'⟩

end

/-- **The form of a readable value evaluates to it.** -/
theorem value?_formOf {depth : Nat} {j : Json} (h : Readable depth j) :
    (formOf j).value? depth = some j := by
  induction j using byParts generalizing depth with
  | null => cases depth <;> rfl
  | bool b => cases depth <;> rfl
  | int n =>
      have hfits : Numeral.Fits n := by cases depth <;> exact h
      have hvalue := Numeral.value?_numeralOf hfits
      cases depth <;> exact hvalue
  | float x => exact (by cases depth <;> exact h.elim)
  | str s =>
      rw [formOf, Form.value?, unescape_body]
      simp
  | arr items ih =>
      cases depth with
      | zero => exact h.elim
      | succ depth =>
          rw [formOf, Form.value?, formsOf_eq_map,
            mapM_map_of_forall fun x hx => ih x hx (h x hx)]
          rfl
  | obj members ih =>
      cases depth with
      | zero => exact h.elim
      | succ depth =>
          obtain ⟨hsorted, hmembers⟩ := h
          rw [formOf, Form.value?, memberForms_eq_map, mapM_map_of_forall]
          · rw [Option.map_some, Members.ofEntries_of_sorted hsorted]
          · intro m hm
            simp [unescape_body, ih m hm (hmembers m hm)]

/-- Whether a form is neither a list nor a record. -/
def isScalar : Form → Bool
  | .list _ | .record _ => false
  | _ => true

theorem readable_of_scalar {depth : Nat} {form : Form} {j : Json} (hscalar : isScalar form = true)
    (h : form.value? depth = some j) (hfloat : floatless j = true) : Readable depth j := by
  have htrivial : (j = .null ∨ (∃ b, j = .bool b) ∨ ∃ s, j = .str s) → Readable depth j := by
    rintro (rfl | ⟨b, rfl⟩ | ⟨s, rfl⟩) <;> cases depth <;> trivial
  cases form with
  | null => exact htrivial (.inl (by cases depth <;> cases h <;> rfl))
  | bool b => exact htrivial (.inr (.inl ⟨b, by cases depth <;> cases h <;> rfl⟩))
  | number n =>
      have hvalue : n.value? = some j := by cases depth <;> exact h
      rcases Numeral.value?_cases hvalue with ⟨n, rfl, hfits⟩ | ⟨x, rfl⟩
      · cases depth <;> exact hfits
      · exact absurd hfloat Bool.false_ne_true
  | text body =>
      rw [Form.value?] at h
      obtain ⟨cs, -, rfl⟩ := Option.map_eq_some_iff.1 h
      exact htrivial (.inr (.inr ⟨_, rfl⟩))
  | list items => exact absurd hscalar Bool.false_ne_true
  | record members => exact absurd hscalar Bool.false_ne_true

/-- Evaluation gives readable values, floating-point numbers apart. -/
theorem readable_of_value? {depth : Nat} {form : Form} {j : Json}
    (h : form.value? depth = some j) (hfloat : floatless j = true) : Readable depth j := by
  induction depth generalizing form j with
  | zero =>
      cases form with
      | list items => cases h
      | record members => cases h
      | _ => exact readable_of_scalar rfl h hfloat
  | succ depth ih =>
      cases form with
      | list items =>
          obtain ⟨xs, hxs, rfl⟩ := Option.map_eq_some_iff.1 h
          rw [floatless_arr] at hfloat
          intro x hx
          obtain ⟨item, -, hitem⟩ := exists_of_mem_mapM hxs hx
          exact ih hitem (hfloat x hx)
      | record members =>
          obtain ⟨ms, hms, rfl⟩ := Option.map_eq_some_iff.1 h
          rw [floatless_obj] at hfloat
          refine ⟨Members.sorted_ofEntries ms, fun m hm => ?_⟩
          obtain ⟨member, -, hmember⟩ := exists_of_mem_mapM hms (Members.mem_of_mem_ofEntries hm)
          simp only [Option.bind_eq_bind, Option.bind_eq_some_iff, Option.pure_def,
            Option.some.injEq] at hmember
          obtain ⟨key, -, x, hx, rfl⟩ := hmember
          exact ih hx (hfloat _ hm)
      | _ => exact readable_of_scalar rfl h hfloat

end Json
end RecordingHarvest
