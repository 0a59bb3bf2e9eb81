import RecordingHarvest.Proofs.Json.Strings
import RecordingHarvest.Proofs.Number.Digits

/-!
# Written values obey the grammar

The text of a value without floating-point numbers is read as the form that the value has
(`Json.formOf`), whatever follows it.  The induction is on the value; `Reads` is what it carries.

* `numeral?_integerText`: whole numbers.
* `items_writeItems`, `entries_writeMembers`: what stands inside lists and objects whose parts are
  read.
* `reads_of_floatless`, `ofChars?_write`: all values.
* `lineFeed_not_mem_write`: no value takes more than one line.
-/

namespace RecordingHarvest
namespace Json

open Form (string? skipSpace isSpace digits? whole? decimals? exponent? numeral? value items
  entries)
open Number (digits isDigit EndsDigits)

/-! ## Values by their parts -/

/-- What holds of a value if it holds of its parts, holds of all values. -/
@[elab_as_elim]
theorem byParts {motive : Json → Prop} (null : motive .null) (bool : ∀ b, motive (.bool b))
    (int : ∀ n, motive (.int n)) (float : ∀ x, motive (.float x)) (str : ∀ s, motive (.str s))
    (arr : ∀ items, (∀ x ∈ items, motive x) → motive (.arr items))
    (obj : ∀ members, (∀ m ∈ members, motive m.2) → motive (.obj members)) (j : Json) : motive j :=
  match j with
  | .null => null
  | .bool b => bool b
  | .int n => int n
  | .float x => float x
  | .str s => str s
  | .arr items => arr items fun x _ => byParts null bool int float str arr obj x
  | .obj members => obj members fun m _ => byParts null bool int float str arr obj m.2
termination_by sizeOf j
decreasing_by
  · have hsize := List.sizeOf_lt_of_mem (by assumption : x ∈ items)
    simp only [Json.arr.sizeOf_spec]
    omega
  · have hsize := List.sizeOf_lt_of_mem (by assumption : m ∈ members)
    obtain ⟨key, x⟩ := m
    simp only [Json.obj.sizeOf_spec, Prod.mk.sizeOf_spec] at hsize ⊢
    omega

mutual

/-- No floating-point number stands anywhere in the value. -/
def floatless : Json → Bool
  | .float _ => false
  | .arr items => itemsFloatless items
  | .obj members => membersFloatless members
  | _ => true

def itemsFloatless : List Json → Bool
  | [] => true
  | x :: rest => floatless x && itemsFloatless rest

def membersFloatless : List (String × Json) → Bool
  | [] => true
  | (_, x) :: rest => floatless x && membersFloatless rest

end

theorem floatless_arr {items : List Json} :
    floatless (.arr items) = true ↔ ∀ x ∈ items, floatless x = true := by
  rw [floatless]
  induction items with
  | nil => simp [itemsFloatless]
  | cons x rest ih => simp [itemsFloatless, ih]

theorem floatless_obj {members : List (String × Json)} :
    floatless (.obj members) = true ↔ ∀ m ∈ members, floatless m.2 = true := by
  rw [floatless]
  induction members with
  | nil => simp [membersFloatless]
  | cons m rest ih => simp [membersFloatless, ih]

/-! ## Forms of values -/

/-- The numeral of a whole number. -/
def numeralOf (n : Int) : Numeral := ⟨decide (n < 0), digits n.natAbs, [], none⟩

mutual

/-- The form that the text of a value has; floating-point numbers are left out. -/
def formOf : Json → Form
  | .null => .null
  | .bool b => .bool b
  | .int n => .number (numeralOf n)
  | .float _ => .null
  | .str s => .text (body s.toList)
  | .arr items => .list (formsOf items)
  | .obj members => .record (memberForms members)

def formsOf : List Json → List Form
  | [] => []
  | x :: rest => formOf x :: formsOf rest

def memberForms : List (String × Json) → List (List Char × Form)
  | [] => []
  | (key, x) :: rest => (body key.toList, formOf x) :: memberForms rest

end

/-! ## Whole numbers -/

/-- A text that does not go on with anything that a numeral could take. -/
def EndsNumeral (rest : List Char) : Prop :=
  ∀ c ∈ rest.head?, isDigit c = false ∧ c ≠ '.' ∧ c ≠ 'e' ∧ c ≠ 'E'

theorem endsNumeral_nil : EndsNumeral [] := nofun

theorem endsNumeral_cons {c : Char} {rest : List Char}
    (h : isDigit c = false ∧ c ≠ '.' ∧ c ≠ 'e' ∧ c ≠ 'E') : EndsNumeral (c :: rest) := by
  intro d hd
  obtain rfl : c = d := by simpa using hd
  exact h

theorem EndsNumeral.endsDigits {rest : List Char} (h : EndsNumeral rest) : EndsDigits rest :=
  fun c hc => (h c hc).1

theorem digits?_digits (m : Nat) {rest : List Char} (hrest : EndsDigits rest) :
    digits? (digits m ++ rest) = some (digits m, rest) := by
  have hdigits := Number.isDigit_of_mem_digits m
  simp [digits?, Number.takeWhile_isDigit_append hdigits hrest,
    Number.dropWhile_isDigit_append hdigits hrest, Number.digits_ne_nil]

theorem whole?_digits (m : Nat) {rest : List Char} (hrest : EndsDigits rest) :
    whole? (digits m ++ rest) = some (digits m, rest) := by
  by_cases hzero : m = 0
  · rw [hzero, Number.digits_zero]
    cases rest with
    | nil => rfl
    | cons c rest => simp [whole?, hrest c rfl]
  · obtain ⟨c, ds, hds, hc⟩ := Number.digits_head_ne_zero hzero
    rw [← digits?_digits m hrest, hds, List.cons_append, whole?]
    intro _ heq
    exact absurd (List.head_eq_of_cons_eq heq) hc

theorem decimals?_of_ends {rest : List Char} (h : EndsNumeral rest) :
    decimals? rest = some ([], rest) := by
  cases rest with
  | nil => rfl
  | cons c rest =>
      rw [decimals?]
      intro _ heq
      exact absurd (List.head_eq_of_cons_eq heq) (h c rfl).2.1

theorem exponent?_of_ends {rest : List Char} (h : EndsNumeral rest) :
    exponent? rest = some (none, rest) := by
  cases rest with
  | nil => rfl
  | cons c rest => simp [exponent?, (h c rfl).2.2]

/-- The text of a whole number is its sign and its digits. -/
theorem toList_integerText (n : Int) :
    (Number.integerText n).toList = (if n < 0 then ['-'] else []) ++ digits n.natAbs := by
  by_cases hn : n < 0 <;> simp [Number.integerText, hn]

/-- A whole number is read up to what follows it. -/
theorem numeral?_integerText (n : Int) {rest : List Char} (hrest : EndsNumeral rest) :
    numeral? ((Number.integerText n).toList ++ rest) = some (numeralOf n, rest) := by
  have hwhole := whole?_digits n.natAbs hrest.endsDigits
  have hdecimals := decimals?_of_ends hrest
  have hexponent := exponent?_of_ends hrest
  rw [toList_integerText, List.append_assoc]
  by_cases hn : n < 0
  · simp [numeral?, numeralOf, hn, hwhole, hdecimals, hexponent]
  · have hsign := Number.digits_append_ne_cons (Number.isDigit_of_mem_digits n.natAbs)
      (Number.digits_ne_nil n.natAbs) (c := '-') (by decide) rest
    simp [numeral?, numeralOf, hn, hwhole, hdecimals, hexponent]

/-! ## Values -/

/-- A text that begins neither with a blank nor with what would close a list or object. -/
def Begins (close : Char) (cs : List Char) : Prop :=
  ∃ c rest, cs = c :: rest ∧ isSpace c = false ∧ c ≠ close

theorem skipSpace_cons {c : Char} (h : isSpace c = false) (cs : List Char) :
    skipSpace (c :: cs) = c :: cs := by
  simp [skipSpace, h]

variable {close : Char} {cs : List Char}

theorem Begins.skipSpace (h : Begins close cs) (rest : List Char) :
    skipSpace (cs ++ rest) = cs ++ rest := by
  obtain ⟨c, tail, rfl, hc, -⟩ := h
  simp [Form.skipSpace, hc]

theorem Begins.ne_close (h : Begins close cs) (rest tail : List Char) :
    cs ++ rest ≠ close :: tail := by
  obtain ⟨c, _, rfl, -, hc⟩ := h
  intro heq
  exact hc (List.head_eq_of_cons_eq heq)

/-- The characters that a whole number begins with. -/
def beginsNumeral (c : Char) : Prop := c = '-' ∨ isDigit c = true

theorem beginsNumeral.ne {c d : Char} (h : beginsNumeral c) (hd : d ≠ '-')
    (hdigit : isDigit d = false) : c ≠ d := by
  rintro rfl
  rcases h with rfl | h
  · exact hd rfl
  · exact absurd h (by rw [hdigit]; exact Bool.false_ne_true)

theorem beginsNumeral.isSpace {c : Char} (h : beginsNumeral c) : isSpace c = false := by
  simp [Form.isSpace]
  refine ⟨⟨⟨?_, ?_⟩, ?_⟩, ?_⟩ <;> exact h.ne (by decide) (by decide)

theorem integerText_eq_cons (n : Int) :
    ∃ c cs, (Number.integerText n).toList = c :: cs ∧ beginsNumeral c := by
  rw [toList_integerText]
  by_cases hn : n < 0
  · exact ⟨'-', digits n.natAbs, by simp [hn], .inl rfl⟩
  · obtain ⟨c, ds, hds, hc⟩ := Number.digits_eq_cons n.natAbs
    exact ⟨c, ds, by simp [hn, hds], .inr hc⟩

/-- A value that begins like a number is one. -/
theorem value_of_beginsNumeral (fuel : Nat) {c : Char} {cs : List Char} (h : beginsNumeral c) :
    value (fuel + 1) (c :: cs) = (numeral? (c :: cs)).map fun (n, rest) => (.number n, rest) := by
  have hspace : skipSpace (c :: cs) = c :: cs := by simp [Form.skipSpace, h.isSpace]
  rw [value, hspace]
  split
  case h_7 => rfl
  all_goals
    rename_i heq
    exact absurd (List.head_eq_of_cons_eq heq) (h.ne (by decide) (by decide))

/-- A value is read from what is written for it, whatever follows. -/
def Reads (j : Json) : Prop :=
  ∀ fuel rest, j.write.length ≤ fuel → EndsNumeral rest →
    value fuel (j.write ++ rest) = some (formOf j, rest)

/-- Every text of a value begins one. -/
theorem begins_write {j : Json} (h : floatless j = true) : Begins ']' j.write := by
  cases j with
  | int n =>
      obtain ⟨c, cs, hcs, hc⟩ := integerText_eq_cons n
      exact ⟨c, cs, by rw [write, hcs], hc.isSpace, hc.ne (by decide) (by decide)⟩
  | bool b => cases b <;> exact ⟨_, _, by rw [write], by decide, by decide⟩
  | float x => exact absurd h Bool.false_ne_true
  | null => exact ⟨'n', _, by rw [write], by decide, by decide⟩
  | str s =>
      exact ⟨'"', _, by rw [write, writeString, List.cons_append], by decide, by decide⟩
  | arr items => exact ⟨'[', _, by rw [write, List.cons_append], by decide, by decide⟩
  | obj members => exact ⟨'\x7b', _, by rw [write, List.cons_append], by decide, by decide⟩

theorem length_write_pos {j : Json} (h : floatless j = true) : 0 < j.write.length := by
  obtain ⟨c, cs, hcs, -⟩ := begins_write h
  simp [hcs]

/-- A comma or a closing bracket ends a numeral. -/
theorem endsNumeral_mark {c : Char} (h : c ∈ [',', ']', '\x7d']) (rest : List Char) :
    EndsNumeral (c :: rest) := by
  refine endsNumeral_cons ?_
  simp only [List.mem_cons, List.not_mem_nil, or_false] at h
  rcases h with rfl | rfl | rfl <;> decide

/-- The items of a list are read up to its closing bracket. -/
theorem items_writeItems {xs : List Json} (hne : xs ≠ [])
    (hxs : ∀ x ∈ xs, floatless x = true ∧ Reads x) (fuel : Nat) (rest : List Char)
    (hfuel : (writeItems xs).length < fuel) :
    items fuel (writeItems xs ++ ']' :: rest) = some (formsOf xs, rest) := by
  induction xs generalizing fuel with
  | nil => exact absurd rfl hne
  | cons x xs ih =>
      obtain ⟨fuel, rfl⟩ := Nat.exists_eq_add_one_of_ne_zero (Nat.ne_zero_of_lt hfuel)
      obtain ⟨hfloat, hreads⟩ := hxs x List.mem_cons_self
      cases xs with
      | nil =>
          rw [writeItems] at hfuel ⊢
          rw [items, hreads _ _ (by omega) (endsNumeral_mark (by decide) _)]
          rfl
      | cons y more =>
          have hmore := ih (List.cons_ne_nil y more) (fun z hz => hxs z (List.mem_cons_of_mem x hz))
          have hpos := length_write_pos hfloat
          rw [writeItems] at hfuel ⊢
          simp only [List.length_append, List.length_cons] at hfuel
          rw [List.append_assoc, List.cons_append, items,
            hreads _ _ (by omega) (endsNumeral_mark (by decide) _)]
          have hrest := hmore fuel (by omega)
          simp [Form.skipSpace, isSpace, hrest, formsOf]

theorem writeString_append (s : String) (rest : List Char) :
    writeString s ++ rest = '"' :: (body s.toList ++ '"' :: rest) := by
  simp [writeString, body]

section

variable {fuel : Nat} {x : Form} {rest tail tail' : List Char} {ms : List (List Char × Form)}

/-- The last member of an object. -/
theorem entries_last (key : String) (hx : value fuel rest = some (x, '\x7d' :: tail)) :
    entries (fuel + 1) (writeString key ++ ':' :: rest) = some ([(body key.toList, x)], tail) := by
  simp [writeString_append, entries, Form.skipSpace, isSpace, string?_body, hx]

/-- A member of an object with others behind it. -/
theorem entries_more (key : String) (hx : value fuel rest = some (x, ',' :: tail))
    (hms : entries fuel tail = some (ms, tail')) :
    entries (fuel + 1) (writeString key ++ ':' :: rest) =
      some ((body key.toList, x) :: ms, tail') := by
  simp [writeString_append, entries, Form.skipSpace, isSpace, string?_body, hx, hms]

end

/-- The members of an object are read up to its closing brace. -/
theorem entries_writeMembers {ms : List (String × Json)} (hne : ms ≠ [])
    (hms : ∀ m ∈ ms, floatless m.2 = true ∧ Reads m.2) (fuel : Nat) (rest : List Char)
    (hfuel : (writeMembers ms).length < fuel) :
    entries fuel (writeMembers ms ++ '\x7d' :: rest) = some (memberForms ms, rest) := by
  induction ms generalizing fuel with
  | nil => exact absurd rfl hne
  | cons m ms ih =>
      obtain ⟨fuel, rfl⟩ := Nat.exists_eq_add_one_of_ne_zero (Nat.ne_zero_of_lt hfuel)
      obtain ⟨key, x⟩ := m
      have hreads : Reads x := (hms _ List.mem_cons_self).2
      cases ms with
      | nil =>
          rw [writeMembers] at hfuel ⊢
          simp only [List.length_append, List.length_cons] at hfuel
          rw [List.append_assoc, List.cons_append]
          exact entries_last key (hreads _ _ (by omega) (endsNumeral_mark (by decide) _))
      | cons n more =>
          have hmore := ih (List.cons_ne_nil n more) fun k hk => hms k (List.mem_cons_of_mem _ hk)
          rw [writeMembers] at hfuel ⊢
          simp only [List.length_append, List.length_cons] at hfuel
          have hrest := hmore fuel (by omega)
          rw [List.append_assoc, List.append_assoc, List.cons_append, List.cons_append]
          exact entries_more key (hreads _ _ (by omega) (endsNumeral_mark (by decide) _)) hrest

theorem begins_writeItems {xs : List Json} (hne : xs ≠ []) (h : ∀ x ∈ xs, floatless x = true) :
    Begins ']' (writeItems xs) := by
  obtain ⟨x, xs, rfl⟩ := List.exists_cons_of_ne_nil hne
  obtain ⟨c, cs, hcs, hc⟩ := begins_write (h x List.mem_cons_self)
  cases xs with
  | nil => exact ⟨c, cs, by rw [writeItems, hcs], hc⟩
  | cons y more => exact ⟨c, _, by rw [writeItems, hcs, List.cons_append], hc⟩

theorem begins_writeMembers {ms : List (String × Json)} (hne : ms ≠ []) :
    Begins '\x7d' (writeMembers ms) := by
  obtain ⟨⟨key, x⟩, ms, rfl⟩ := List.exists_cons_of_ne_nil hne
  cases ms with
  | nil => exact ⟨'"', _, by rw [writeMembers, writeString_append], by decide, by decide⟩
  | cons m more =>
      exact ⟨'"', _, by rw [writeMembers, List.append_assoc, writeString_append], by decide,
        by decide⟩

/-- No text of a value is empty, so reading one takes a step. -/
theorem Reads.of_succ {j : Json} (h : floatless j = true)
    (hstep : ∀ fuel rest, j.write.length ≤ fuel + 1 → EndsNumeral rest →
      value (fuel + 1) (j.write ++ rest) = some (formOf j, rest)) : Reads j := by
  intro fuel rest hfuel hrest
  have hpos := length_write_pos h
  obtain ⟨fuel, rfl⟩ := Nat.exists_eq_add_one_of_ne_zero (n := fuel) (by omega)
  exact hstep fuel rest hfuel hrest

theorem reads_int (n : Int) : Reads (.int n) := by
  refine Reads.of_succ rfl fun fuel rest _ hrest => ?_
  obtain ⟨c, cs, hcs, hc⟩ := integerText_eq_cons n
  rw [write, hcs, List.cons_append, value_of_beginsNumeral fuel hc, ← List.cons_append, ← hcs,
    numeral?_integerText n hrest]
  rfl

theorem reads_str (s : String) : Reads (.str s) := by
  refine Reads.of_succ rfl fun fuel rest _ _ => ?_
  rw [write, writeString_append, value]
  simp [Form.skipSpace, isSpace, string?_body, formOf]

theorem reads_arr {xs : List Json} (hxs : ∀ x ∈ xs, floatless x = true ∧ Reads x) :
    Reads (.arr xs) := by
  have hfloat : ∀ x ∈ xs, floatless x = true := fun x hx => (hxs x hx).1
  refine Reads.of_succ (floatless_arr.2 hfloat) fun fuel rest hfuel _ => ?_
  by_cases hne : xs = []
  · rw [hne]
    rfl
  have hbegins := begins_writeItems hne hfloat
  have hclose := hbegins.ne_close (']' :: rest)
  have hlength : (writeItems xs).length < fuel := by
    simp [write] at hfuel
    omega
  have hitems := items_writeItems hne hxs fuel rest hlength
  rw [write, List.cons_append, List.cons_append, List.append_assoc, List.singleton_append,
    value]
  simp [skipSpace_cons, isSpace, hbegins.skipSpace, hitems, formOf]

theorem reads_obj {ms : List (String × Json)}
    (hms : ∀ m ∈ ms, floatless m.2 = true ∧ Reads m.2) : Reads (.obj ms) := by
  have hfloat : ∀ m ∈ ms, floatless m.2 = true := fun m hm => (hms m hm).1
  refine Reads.of_succ (floatless_obj.2 hfloat) fun fuel rest hfuel _ => ?_
  by_cases hne : ms = []
  · rw [hne]
    rfl
  have hbegins := begins_writeMembers hne
  have hclose := hbegins.ne_close ('\x7d' :: rest)
  have hlength : (writeMembers ms).length < fuel := by
    simp [write] at hfuel
    omega
  have hmembers := entries_writeMembers hne hms fuel rest hlength
  rw [write, List.cons_append, List.cons_append, List.append_assoc, List.singleton_append,
    value]
  simp [skipSpace_cons, isSpace, hbegins.skipSpace, hmembers, formOf]

/-- **Values without floating-point numbers are read from their texts.** -/
theorem reads_of_floatless {j : Json} (h : floatless j = true) : Reads j := by
  induction j using byParts with
  | float x => exact absurd h Bool.false_ne_true
  | null => exact Reads.of_succ h fun _ _ _ _ => rfl
  | bool b => cases b <;> exact Reads.of_succ h fun _ _ _ _ => rfl
  | int n => exact reads_int n
  | str s => exact reads_str s
  | arr xs ih =>
      rw [floatless_arr] at h
      exact reads_arr fun x hx => ⟨h x hx, ih x hx (h x hx)⟩
  | obj ms ih =>
      rw [floatless_obj] at h
      exact reads_obj fun m hm => ⟨h m hm, ih m hm (h m hm)⟩

/-- The text of a value has its form. -/
theorem ofChars?_write {j : Json} (h : floatless j = true) :
    Form.ofChars? j.write = some (formOf j) := by
  have hread := reads_of_floatless h (2 * j.write.length + 2) [] (by omega) endsNumeral_nil
  rw [List.append_nil] at hread
  simp [Form.ofChars?, hread, Form.skipSpace]

/-! ## Line feeds -/

theorem lineFeed_not_mem_writeChar (c : Char) : '\n' ∉ writeChar c := by
  rcases writeChar_cases c with ⟨e, hc, he, -⟩ | ⟨-, hc⟩ | ⟨-, -, hplain, hc⟩
  · have hne : e ≠ '\n' := ne_of_isShort he (by decide)
    simp [hc, hne.symm]
  · have hdigit : ∀ k < 16, Text.hexDigit k ≠ '\n' := by decide
    have hne (k : Nat) : '\n' ≠ Text.hexDigit (k % 16) := (hdigit _ (Nat.mod_lt _ (by decide))).symm
    simp [hc, hexPadded_four, hne]
  · have hne : c ≠ '\n' := by
      rintro rfl
      exact absurd hplain (by decide)
    simp [hc, hne.symm]

theorem lineFeed_not_mem_writeString (s : String) : '\n' ∉ writeString s := by
  simp [writeString, lineFeed_not_mem_writeChar]

theorem lineFeed_not_mem_integerText (n : Int) : '\n' ∉ (Number.integerText n).toList := by
  rw [toList_integerText]
  have hdigits : '\n' ∉ digits n.natAbs := fun hmem =>
    absurd (Number.isDigit_of_mem_digits _ _ hmem) (by decide)
  by_cases hn : n < 0 <;> simp [hn, hdigits]

theorem lineFeed_not_mem_writeItems {xs : List Json} (h : ∀ x ∈ xs, '\n' ∉ write x) :
    '\n' ∉ writeItems xs := by
  induction xs with
  | nil => simp [writeItems]
  | cons x xs ih =>
      have hx := h x List.mem_cons_self
      have hrest := ih fun y hy => h y (List.mem_cons_of_mem x hy)
      cases xs with
      | nil => simpa [writeItems] using hx
      | cons y more => simp [writeItems, hx, hrest]

theorem lineFeed_not_mem_writeMembers {ms : List (String × Json)}
    (h : ∀ m ∈ ms, '\n' ∉ write m.2) : '\n' ∉ writeMembers ms := by
  induction ms with
  | nil => simp [writeMembers]
  | cons m ms ih =>
      obtain ⟨key, x⟩ := m
      have hkey := lineFeed_not_mem_writeString key
      have hx : '\n' ∉ write x := h (key, x) List.mem_cons_self
      have hrest := ih fun n hn => h n (List.mem_cons_of_mem _ hn)
      cases ms with
      | nil => simp [writeMembers, hkey, hx]
      | cons n more => simp [writeMembers, hkey, hx, hrest]

/-- **A written value stays on its line.** -/
theorem lineFeed_not_mem_write {j : Json} (h : floatless j = true) : '\n' ∉ write j := by
  induction j using byParts with
  | null => simp [write]
  | bool b => cases b <;> simp [write]
  | int n =>
      rw [write]
      exact lineFeed_not_mem_integerText n
  | float x => exact absurd h Bool.false_ne_true
  | str s =>
      rw [write]
      exact lineFeed_not_mem_writeString s
  | arr xs ih =>
      rw [floatless_arr] at h
      have hitems := lineFeed_not_mem_writeItems fun x hx => ih x hx (h x hx)
      simp [write, hitems]
  | obj ms ih =>
      rw [floatless_obj] at h
      have hmembers := lineFeed_not_mem_writeMembers fun m hm => ih m hm (h m hm)
      simp [write, hmembers]

end Json
end RecordingHarvest
