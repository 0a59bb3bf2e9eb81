import RecordingHarvest.Proofs.Json.Members
import RecordingHarvest.Proofs.Settings.Fields

/-!
# What a layer does to the sections

A layer of variables is laid over a tree one path after another.  A path that names a field sets it,
a path that names something else leaves every field as it was, and either makes a table of the
section that it goes through, which a list in its place does not survive.

* `Path.ofChars?_words`: two words with a dot between them are a path.
* `Path.lower_ofChars?`: the names of a path are in lower case.
* `get?_putAt_first`: what setting a value below a section does to that section.
* `get?_overlay`: a field says what the layer says of it, and else what the tree says.
-/

namespace RecordingHarvest

/-! ## Lower case -/

namespace Text

theorem lowerChar_lowerChar (c : Char) : lowerChar (lowerChar c) = lowerChar c := by
  by_cases hascii : c.toNat < 128
  · have hall : ∀ n < 128, lowerChar (lowerChar (Char.ofNat n)) = lowerChar (Char.ofNat n) := by
      decide
    have hc := hall c.toNat hascii
    rwa [Char.ofNat_toNat] at hc
  · have hsame : c.toLower = c := by
      unfold Char.toLower
      refine dif_neg fun h => hascii (Nat.lt_of_le_of_lt (UInt32.le_iff_toNat_le.1 h.2) ?_)
      decide
    unfold lowerChar
    rw [hsame]
    split
    · rfl
    · exact hsame

@[simp] theorem lower_lower (s : String) : lower (lower s) = lower s := by
  unfold lower
  rw [String.toList_ofList, List.map_map]
  congr 2
  funext c
  exact lowerChar_lowerChar c

end Text

namespace Setting

/-! ## Paths -/

/-- A word of lower-case letters, digits, blanks, underscores and hyphens. -/
def isWord (s : String) : Bool :=
  !s.toList.isEmpty && s.toList.all fun c => isNameChar c && Text.lowerChar c == c

theorem isNameChar_of_isWord {s : String} (h : isWord s = true) :
    ∀ c ∈ s.toList, isNameChar c = true := fun c hc =>
  (Bool.and_eq_true_iff.1 (List.all_eq_true.1 (Bool.and_eq_true_iff.1 h).2 c hc)).1

theorem lower_of_isWord {s : String} (h : isWord s = true) : Text.lower s = s := by
  have hmap : s.toList.map Text.lowerChar = s.toList.map id :=
    List.map_congr_left fun c hc => beq_iff_eq.1
      (Bool.and_eq_true_iff.1 (List.all_eq_true.1 (Bool.and_eq_true_iff.1 h).2 c hc)).2
  rw [Text.lower, hmap, List.map_id, String.ofList_toList]

namespace Path

/-- Every name among the steps is in lower case. -/
def Lowered (steps : List Step) : Prop := ∀ name, .name name ∈ steps → Text.lower name = name

theorem lowered_stepsOf? {fuel : Nat} {cs : List Char} {steps : List Step}
    (h : stepsOf? fuel cs = some steps) : Lowered steps := by
  induction fuel generalizing cs steps with
  | zero =>
      cases cs with
      | nil => obtain rfl := Option.some.inj h; exact nofun
      | cons => exact nomatch h
  | succ fuel ih =>
      unfold stepsOf? at h
      split at h
      · obtain rfl := Option.some.inj h
        exact nofun
      · exact nomatch ‹fuel + 1 = 0›
      · rename_i hfuel
        obtain rfl := Nat.succ.inj hfuel
        dsimp only at h
        split at h
        · exact nomatch h
        · obtain ⟨below, hbelow, rfl⟩ := Option.map_eq_some_iff.1 h
          intro name hname
          rcases List.mem_cons.1 hname with heq | hname
          · rw [Step.name.inj heq, Text.lower_lower]
          · exact ih hbelow name hname
      · rename_i hfuel
        obtain rfl := Nat.succ.inj hfuel
        obtain ⟨⟨inside, rest⟩, -, h⟩ := Option.bind_eq_some_iff.1 h
        obtain ⟨n, -, h⟩ := Option.bind_eq_some_iff.1 h
        obtain ⟨below, hbelow, h⟩ := Option.bind_eq_some_iff.1 h
        obtain rfl := Option.some.inj h
        intro name hname
        exact ih hbelow name ((List.mem_cons.1 hname).resolve_left nofun)
      · exact nomatch h

/-- **The names of a path are in lower case.** -/
theorem lower_ofChars? {cs : List Char} {q : Path} (h : ofChars? cs = some q) :
    Text.lower q.first = q.first ∧ Lowered q.steps := by
  unfold ofChars? at h
  dsimp only at h
  split at h
  · exact nomatch h
  · obtain ⟨steps, hsteps, rfl⟩ := Option.map_eq_some_iff.1 h
    exact ⟨Text.lower_lower _, lowered_stepsOf? hsteps⟩

section

variable {name key : String}

theorem split_word (h : isWord key = true) (rest : List Char)
    (hrest : rest.takeWhile isNameChar = []) :
    (key.toList ++ rest).takeWhile isNameChar = key.toList ∧
      (key.toList ++ rest).dropWhile isNameChar = rest := by
  have hsplit := List.takeWhile_append_dropWhile (p := isNameChar) (l := rest)
  rw [hrest, List.nil_append] at hsplit
  rw [List.takeWhile_append_of_pos (isNameChar_of_isWord h), hrest, List.append_nil,
    List.dropWhile_append_of_pos (isNameChar_of_isWord h), hsplit]
  exact ⟨rfl, rfl⟩

theorem isEmpty_of_isWord (h : isWord key = true) : key.toList.isEmpty = false :=
  (Bool.not_eq_true' _).mp (Bool.and_eq_true_iff.1 h).1

theorem stepsOf?_word (fuel : Nat) (hkey : isWord key = true) :
    stepsOf? (fuel + 1) ('.' :: key.toList) = some [.name key] := by
  obtain ⟨htake, hdrop⟩ := split_word hkey [] rfl
  rw [List.append_nil] at htake hdrop
  rw [stepsOf?]
  rw [htake, hdrop, isEmpty_of_isWord hkey, String.ofList_toList, lower_of_isWord hkey, stepsOf?]
  rfl

/-- Two words with a dot between them are a path. -/
theorem ofChars?_words (hname : isWord name = true) (hkey : isWord key = true) :
    ofChars? (name.toList ++ '.' :: key.toList) = some ⟨name, [.name key]⟩ := by
  obtain ⟨htake, hdrop⟩ := split_word hname ('.' :: key.toList) rfl
  rw [ofChars?]
  rw [htake, hdrop, isEmpty_of_isWord hname, String.ofList_toList, lower_of_isWord hname,
    List.length_append, List.length_cons, ← Nat.add_assoc, stepsOf?_word _ hkey]
  rfl

end

end Path

/-! ## Setting a value at a path -/

/-- Whether a value is a table. -/
def isTable : Setting → Bool
  | table _ => true
  | _ => false

theorem put_of_not_table {place value : Setting} (name : String) (h : value.isTable = false) :
    place.put name value = .table (place.entries.put (Text.lower name) value) := by
  cases value with
  | table _ => exact nomatch h
  | _ => simp [put]

/-- A path leaves alone what does not begin it. -/
theorem get?_putAt_of_ne {root value : Setting} {q : Path} {name : String}
    (hvalue : value.isTable = false) (hlower : Text.lower q.first = q.first) (h : name ≠ q.first) :
    (root.putAt q value).entries.get? name = root.entries.get? name := by
  unfold putAt
  cases q.steps.getLast? with
  | none =>
      rw [put_of_not_table _ hvalue, hlower]
      exact Members.get?_put_of_ne _ _ h
  | some last => exact Members.get?_put_of_ne _ _ h

/-- **Setting a value below a section makes a table of it**, with everything that was there as a
table but for the name that the path goes on with. -/
theorem get?_putAt_first (root : Setting) {value : Setting} {q : Path} {key : String}
    {rest : List Step}
    (hvalue : value.isTable = false) (hkey : Text.lower key = key)
    (hsteps : q.steps = .name key :: rest) :
    ∃ x, (root.putAt q value).entries.get? q.first =
        some (.table (((root.entries.get? q.first).getD .null).entries.put key x)) ∧
      (rest = [] → x = value) := by
  unfold putAt
  rw [hsteps]
  cases rest with
  | nil =>
      refine ⟨value, ?_, fun _ => rfl⟩
      refine (Members.get?_put_self _ _ _).trans ?_
      show some (((root.entries.get? q.first).getD .null).put key value) = _
      rw [put_of_not_table key hvalue, hkey]
  | cons step rest =>
      rw [List.getLast?_cons_cons, List.dropLast_cons_cons]
      cases hlast : (step :: rest).getLast? with
      | none => exact absurd (List.getLast?_eq_none_iff.1 hlast) nofun
      | some last => exact ⟨_, Members.get?_put_self _ _ _, nofun⟩

end Setting

/-! ## The sections under a layer -/

namespace Settings

open Setting (Path)

/-- The path of a field, as a text. -/
def Part.path (p : Part) (f : Field p.State) : String := p.name ++ "." ++ f.key

/-- Whether a path begins with a section. -/
def Part.begins (p : Part) (path : String) : Bool :=
  (Path.ofChars? path.toList).any (·.first == p.name)

/-- A path that sets nothing that is read: it does not begin with a section, or it goes on with a
name that is none of the section's. -/
def Idle (path : String) : Prop :=
  match Path.ofChars? path.toList with
  | none => ∀ p ∈ parts, Text.lower path ≠ p.name
  | some q => ∀ p ∈ parts, q.first = p.name →
    ∃ key rest, q.steps = .name key :: rest ∧ ∀ f ∈ p.fields, f.key ≠ key

/-- A path that is a field's, or sets nothing that is read. -/
def Plain (path : String) : Prop := (∃ p ∈ parts, ∃ f ∈ p.fields, path = p.path f) ∨ Idle path

theorem toList_path (p : Part) (f : Field p.State) :
    (p.path f).toList = p.name.toList ++ '.' :: f.key.toList := by
  rw [Part.path, String.toList_append, String.toList_append, List.append_assoc]
  rfl

theorem isWord_names : ∀ p ∈ parts, Setting.isWord p.name = true ∧
    ∀ f ∈ p.fields, Setting.isWord f.key = true := by
  have hall : (parts.all fun p => Setting.isWord p.name &&
      p.fields.all fun f => Setting.isWord f.key) = true := by decide +kernel
  intro p hp
  exact (Bool.and_eq_true_iff.1 (List.all_eq_true.1 hall p hp)).imp_right List.all_eq_true.1

theorem ofChars?_path {p : Part} (hp : p ∈ parts) {f : Field p.State} (hf : f ∈ p.fields) :
    Path.ofChars? (p.path f).toList = some ⟨p.name, [.name f.key]⟩ := by
  obtain ⟨hname, hkey⟩ := isWord_names p hp
  rw [toList_path]
  exact Path.ofChars?_words hname (hkey f hf)

/-! ### One path -/

/-- One path of a layer is laid over a tree. -/
def lay (root : Setting) (path : String) (value : Setting) : Setting :=
  match Path.ofChars? path.toList with
  | some q => root.putAt q value
  | none => root.put path value

theorem overlay_cons (root : Setting) (e : String × Setting) (rest : List (String × Setting)) :
    root.overlay (e :: rest) = (lay root e.1 e.2).overlay rest := rfl

/-- What a section has as a table. -/
def Part.table (p : Part) (root : Setting) : Members Setting :=
  ((root.entries.get? p.name).getD .null).entries

section

variable {root value : Setting} {path : String} {p : Part}

/-- A path that does not begin with a section leaves it alone. -/
theorem get?_lay_of_not_begins (hp : p ∈ parts) (hplain : Plain path)
    (hvalue : value.isTable = false) (hpath : p.begins path = false) :
    (lay root path value).entries.get? p.name = root.entries.get? p.name := by
  unfold lay
  cases hparse : Path.ofChars? path.toList with
  | none =>
      have hidle : Idle path := hplain.resolve_left fun ⟨p', hp', f, hf, heq⟩ => by
        rw [heq, ofChars?_path hp' hf] at hparse
        exact nomatch hparse
      rw [Idle, hparse] at hidle
      dsimp only
      rw [Setting.put_of_not_table _ hvalue]
      exact Members.get?_put_of_ne _ _ (hidle p hp).symm
  | some q =>
      have hne : q.first ≠ p.name := by
        rw [Part.begins, hparse] at hpath
        exact fun h => absurd hpath (by rw [Option.any_some, h, beq_self_eq_true]; exact nofun)
      exact Setting.get?_putAt_of_ne hvalue (Path.lower_ofChars? hparse).1 hne.symm

variable (root) in
/-- A path that begins with a section makes a table of it, where the field that it names, if any, is
set and every other field is as it was. -/
theorem get?_lay_of_begins (hp : p ∈ parts) (hplain : Plain path)
    (hvalue : value.isTable = false) (hpath : p.begins path = true) :
    ∃ es : Members Setting, (lay root path value).entries.get? p.name = some (.table es) ∧
      ∀ f ∈ p.fields,
        es.get? f.key = if path = p.path f then some value else (p.table root).get? f.key := by
  unfold lay
  cases hparse : Path.ofChars? path.toList with
  | none => rw [Part.begins, hparse] at hpath; exact nomatch hpath
  | some q =>
      have hfirst : q.first = p.name := by
        rw [Part.begins, hparse] at hpath
        exact beq_iff_eq.1 hpath
      -- the path goes on with a name, which is the field's or no field's
      obtain ⟨key, rest, hsteps, hkey⟩ : ∃ key rest, q.steps = .name key :: rest ∧
          ∀ f ∈ p.fields, f.key = key → rest = [] ∧ path = p.path f := by
        rcases hplain with ⟨p', hp', f', hf', rfl⟩ | hidle
        · obtain rfl := Option.some.inj ((ofChars?_path hp' hf').symm.trans hparse)
          refine ⟨f'.key, [], rfl, fun f hf hsame => ⟨rfl, ?_⟩⟩
          rw [Part.path, Part.path, hsame, show p'.name = p.name from hfirst]
        · rw [Idle, hparse] at hidle
          obtain ⟨key, rest, hsteps, hnone⟩ := hidle p hp hfirst
          exact ⟨key, rest, hsteps, fun f hf hsame => absurd hsame (hnone f hf)⟩
      have hlower : Text.lower key = key :=
        (Path.lower_ofChars? hparse).2 key (by rw [hsteps]; exact List.mem_cons_self)
      obtain ⟨x, hget, hx⟩ := Setting.get?_putAt_first root hvalue hlower hsteps
      refine ⟨_, hfirst ▸ hget, fun f hf => ?_⟩
      by_cases hsame : f.key = key
      · obtain ⟨hrest, hpathf⟩ := hkey f hf hsame
        rw [if_pos hpathf, hsame, Members.get?_put_self, hx hrest]
      · have hne : path ≠ p.path f := by
          rintro rfl
          obtain rfl := Option.some.inj ((ofChars?_path hp hf).symm.trans hparse)
          exact hsame (Setting.Step.name.inj (List.cons.inj hsteps).1)
        rw [if_neg hne, Members.get?_put_of_ne _ _ hsame]
        rfl

/-- A field as a table has it, under one more path. -/
theorem get?_table_lay (hp : p ∈ parts) (hplain : Plain path) (hvalue : value.isTable = false)
    {f : Field p.State} (hf : f ∈ p.fields) :
    (p.table (lay root path value)).get? f.key =
      if path = p.path f then some value else (p.table root).get? f.key := by
  cases hpath : p.begins path with
  | true =>
      obtain ⟨es, hget, hes⟩ := get?_lay_of_begins root hp hplain hvalue hpath
      rw [Part.table, hget]
      exact hes f hf
  | false =>
      have hne : path ≠ p.path f := by
        rintro rfl
        rw [Part.begins, ofChars?_path hp hf, Option.any_some, beq_self_eq_true] at hpath
        exact nomatch hpath
      rw [if_neg hne, Part.table, Part.table, get?_lay_of_not_begins hp hplain hvalue hpath]

end

/-! ### A whole layer -/

section

variable {p : Part} {layer : Members Setting}

/-- A section that no path of a layer begins with is as it was. -/
theorem get?_overlay_of_not_begins (hp : p ∈ parts) (root : Setting)
    (hlayer : ∀ e ∈ layer, Plain e.1 ∧ e.2.isTable = false)
    (hnone : ∀ e ∈ layer, p.begins e.1 = false) :
    (root.overlay layer).entries.get? p.name = root.entries.get? p.name := by
  induction layer generalizing root with
  | nil => rfl
  | cons e rest ih =>
      obtain ⟨⟨hplain, hvalue⟩, hrest⟩ := List.forall_mem_cons.1 hlayer
      obtain ⟨hfirst, hothers⟩ := List.forall_mem_cons.1 hnone
      rw [overlay_cons, ih _ hrest hothers, get?_lay_of_not_begins hp hplain hvalue hfirst]

/-- A section that a path of a layer begins with is a table. -/
theorem get?_overlay_of_begins (hp : p ∈ parts) (root : Setting)
    (hlayer : ∀ e ∈ layer, Plain e.1 ∧ e.2.isTable = false)
    (hsome : ∃ e ∈ layer, p.begins e.1 = true) :
    (root.overlay layer).entries.get? p.name = some (.table (p.table (root.overlay layer))) := by
  induction layer generalizing root with
  | nil => obtain ⟨e, he, -⟩ := hsome; exact nomatch he
  | cons e rest ih =>
      obtain ⟨⟨hplain, hvalue⟩, hrest⟩ := List.forall_mem_cons.1 hlayer
      rw [overlay_cons]
      by_cases hmore : ∃ e ∈ rest, p.begins e.1 = true
      · exact ih _ hrest hmore
      · have hnone : ∀ e ∈ rest, p.begins e.1 = false := fun e he =>
          Bool.eq_false_iff.2 fun h => hmore ⟨e, he, h⟩
        have hfirst : p.begins e.1 = true := by
          obtain ⟨e', he', h⟩ := hsome
          rcases List.mem_cons.1 he' with rfl | he'
          · exact h
          · exact absurd ⟨e', he', h⟩ hmore
        obtain ⟨es, hget, -⟩ := get?_lay_of_begins root hp hplain hvalue hfirst
        rw [Part.table, get?_overlay_of_not_begins hp _ hrest hnone, hget]
        rfl

/-- **A field says what a layer says of it**, and else what was there as a table. -/
theorem get?_overlay (hp : p ∈ parts) (root : Setting) {f : Field p.State} (hf : f ∈ p.fields)
    (hlayer : ∀ e ∈ layer, Plain e.1 ∧ e.2.isTable = false) (hsorted : Members.Sorted layer) :
    (p.table (root.overlay layer)).get? f.key =
      (layer.get? (p.path f)).or ((p.table root).get? f.key) := by
  induction layer generalizing root with
  | nil => rfl
  | cons e rest ih =>
      obtain ⟨⟨hplain, hvalue⟩, hrest⟩ := List.forall_mem_cons.1 hlayer
      obtain ⟨hbefore, hrestSorted⟩ := List.pairwise_cons.1 hsorted
      obtain ⟨path, value⟩ := e
      rw [overlay_cons, ih _ hrest hrestSorted, get?_table_lay hp hplain hvalue hf, Members.get?]
      by_cases hpath : path = p.path f
      · have hnone : Members.get? rest (p.path f) = none :=
          Members.get?_eq_none fun e he hsame => by
            have hlt := hbefore e he
            rw [hsame, ← hpath] at hlt
            exact String.lt_irrefl _ hlt
        rw [if_pos hpath, if_pos hpath, hnone]
        rfl
      · rw [if_neg hpath, if_neg hpath]

end

end Settings
end RecordingHarvest
