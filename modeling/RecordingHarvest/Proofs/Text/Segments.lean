import RecordingHarvest.Text.Blank

/-!
# Segments of a text

A text falls apart at its separators, and its segments joined by the separator make the text again.

* `splitOnChar_append`: two texts with a separator between them split as each of them does.
* `splitOnChar_eq_iff`: the segments are the only separator-free texts that join to the text.
* `splitAtFirst_append`, `splitAtFirst_of_not_mem`: a text is cut at its first separator.
* `trim_eq_iff`: what is left between the blanks at both ends (`Trims`).
-/

namespace RecordingHarvest
namespace Text

variable {sep : Char} {cs core : List Char}

/-! ## Every separator -/

theorem splitOnChar_eq_splitOn (sep : Char) (cs : List Char) :
    splitOnChar sep cs = cs.splitOn sep := by
  induction cs with
  | nil => simp
  | cons c rest ih =>
      rw [List.splitOn_cons_eq_if_modifyHead, ← ih]
      by_cases hc : c = sep
      · simp [hc, splitOnChar_cons_sep]
      · rw [splitOnChar]
        cases hrest : splitOnChar sep rest with
        | nil => exact absurd hrest (splitOnChar_ne_nil sep rest)
        | cons seg segs => simp [hc]

/-- Two texts with a separator between them split as each of them does. -/
theorem splitOnChar_append (sep : Char) (cs ds : List Char) :
    splitOnChar sep (cs ++ sep :: ds) = splitOnChar sep cs ++ splitOnChar sep ds := by
  simp only [splitOnChar_eq_splitOn]
  exact List.splitOn_append_cons_self cs ds

theorem splitOnChar_of_not_mem (h : sep ∉ cs) : splitOnChar sep cs = [cs] := by
  rw [splitOnChar_eq_splitOn]
  exact List.splitOn_eq_singleton h

/-- A segment holds no separator, and nothing that the text does not hold. -/
theorem mem_of_mem_splitOnChar {seg : List Char} (h : seg ∈ splitOnChar sep cs) :
    sep ∉ seg ∧ ∀ c ∈ seg, c ∈ cs := by
  induction cs generalizing seg with
  | nil =>
      simp only [splitOnChar_nil, List.mem_singleton] at h
      simp [h]
  | cons c rest ih =>
      rw [splitOnChar] at h
      cases hrest : splitOnChar sep rest with
      | nil => exact absurd hrest (splitOnChar_ne_nil sep rest)
      | cons first segs =>
          rw [hrest] at ih h
          dsimp only at h
          -- the segments of the rest stay as they are, but for the first, which `c` may lengthen
          have hold : ∀ seg ∈ first :: segs, sep ∉ seg ∧ ∀ d ∈ seg, d ∈ c :: rest := by
            intro seg hseg
            obtain ⟨hbare, hmem⟩ := ih hseg
            exact ⟨hbare, fun d hd => List.mem_cons_of_mem c (hmem d hd)⟩
          by_cases hc : c = sep
          · rw [if_pos hc, List.mem_cons] at h
            rcases h with rfl | h
            · simp
            · exact hold seg h
          · rw [if_neg hc, List.mem_cons] at h
            rcases h with rfl | h
            · obtain ⟨hbare, hfirst⟩ := hold first List.mem_cons_self
              simp only [List.mem_cons, not_or]
              refine ⟨⟨Ne.symm hc, hbare⟩, ?_⟩
              rintro d (rfl | hd)
              · exact .inl rfl
              · exact List.mem_cons.1 (hfirst d hd)
            · exact hold seg (List.mem_cons_of_mem first h)

/-- **The segments of a text** are the only texts without a separator that make it when they are
joined by the separator. -/
theorem splitOnChar_eq_iff {segs : List (List Char)} :
    splitOnChar sep cs = segs ↔
      segs ≠ [] ∧ (∀ seg ∈ segs, sep ∉ seg) ∧ [sep].intercalate segs = cs := by
  rw [splitOnChar_eq_splitOn]
  constructor
  · rintro rfl
    rw [← splitOnChar_eq_splitOn]
    refine ⟨splitOnChar_ne_nil sep cs, fun seg hseg => (mem_of_mem_splitOnChar hseg).1, ?_⟩
    rw [splitOnChar_eq_splitOn]
    exact List.intercalate_splitOn sep
  · rintro ⟨hne, hbare, rfl⟩
    exact List.splitOn_intercalate sep hbare hne

/-! ## The first separator -/

theorem splitAtFirst_append {before : List Char} (h : sep ∉ before) (after : List Char) :
    splitAtFirst sep (before ++ sep :: after) = some (before, after) := by
  induction before with
  | nil => simp [splitAtFirst]
  | cons c rest ih =>
      simp only [List.mem_cons, not_or] at h
      simp [splitAtFirst, Ne.symm h.1, ih h.2]

theorem splitAtFirst_of_not_mem (h : sep ∉ cs) : splitAtFirst sep cs = none := by
  induction cs with
  | nil => rfl
  | cons c rest ih =>
      simp only [List.mem_cons, not_or] at h
      simp [splitAtFirst, Ne.symm h.1, ih h.2]

/-! ## Blanks at both ends -/

/-- `core` stands in a text between blanks, and neither begins nor ends with one. -/
structure Trims (cs core : List Char) : Prop where
  between : ∃ before after, cs = before ++ core ++ after ∧ allBlank before ∧ allBlank after
  head : ∀ c ∈ core.head?, isBlank c = false
  last : ∀ c ∈ core.getLast?, isBlank c = false

theorem trimStart_append {before : List Char} (h : allBlank before) (cs : List Char) :
    trimStart (before ++ cs) = trimStart cs :=
  List.dropWhile_append_of_pos (List.all_eq_true.1 h)

theorem trimStart_eq_self (h : ∀ c ∈ cs.head?, isBlank c = false) : trimStart cs = cs := by
  cases cs with
  | nil => rfl
  | cons c rest => simp [trimStart, h c rfl]

/-- A text is blanks, and what is left of it without them. -/
theorem exists_eq_append_trimStart (cs : List Char) :
    ∃ before, cs = before ++ trimStart cs ∧ allBlank before :=
  ⟨cs.takeWhile isBlank, List.takeWhile_append_dropWhile.symm, List.all_takeWhile⟩

/-- What is left after leading blanks begins with none. -/
theorem isBlank_head_trimStart (cs : List Char) : ∀ c ∈ (trimStart cs).head?, isBlank c = false := by
  intro c hc
  have h := List.head?_dropWhile_not isBlank cs
  rw [trimStart] at hc
  rwa [Option.mem_def.1 hc] at h

theorem allBlank_reverse : allBlank cs.reverse = allBlank cs := by
  simp [allBlank]

/-- Trimming leaves what stands between the blanks. -/
theorem trims_trim (cs : List Char) : Trims cs (trim cs) := by
  obtain ⟨before, hcs, hbefore⟩ := exists_eq_append_trimStart cs
  obtain ⟨after, hrest, hafter⟩ := exists_eq_append_trimStart (trimStart cs).reverse
  have htrimmed : trimStart cs = trim cs ++ after.reverse := by
    rw [trim, ← List.reverse_append, ← hrest, List.reverse_reverse]
  refine ⟨⟨before, after.reverse, ?_, hbefore, by rwa [allBlank_reverse]⟩, ?_, ?_⟩
  · rw [List.append_assoc, ← htrimmed, ← hcs]
  · intro c hc
    refine isBlank_head_trimStart cs c ?_
    rw [htrimmed, List.head?_append, Option.mem_def.1 hc]
    rfl
  · rw [trim, List.getLast?_reverse]
    exact isBlank_head_trimStart _

/-- **A text is trimmed to the one core that stands in it between blanks.** -/
theorem trim_eq_iff : trim cs = core ↔ Trims cs core := by
  constructor
  · rintro rfl
    exact trims_trim cs
  · rintro ⟨⟨before, after, rfl, hbefore, hafter⟩, hhead, hlast⟩
    rw [trim, List.append_assoc, trimStart_append hbefore]
    cases core with
    | nil =>
        -- nothing but blanks: the first pass takes them all
        have hnil : trimStart after = [] := by
          rw [← List.append_nil after, trimStart_append hafter]
          rfl
        rw [List.nil_append, hnil]
        rfl
    | cons c rest =>
        have hstart : trimStart (c :: rest ++ after) = c :: rest ++ after :=
          trimStart_eq_self (by simpa using hhead)
        have hend : trimStart (c :: rest).reverse = (c :: rest).reverse :=
          trimStart_eq_self (by rwa [List.head?_reverse])
        rw [hstart, List.reverse_append, trimStart_append (by rwa [allBlank_reverse]), hend,
          List.reverse_reverse]

instance : Decidable (Trims cs core) := decidable_of_iff _ trim_eq_iff

theorem trimmed_eq_iff {s t : String} : trimmed s = t ↔ Trims s.toList t.toList := by
  rw [← trim_eq_iff, ← String.toList_inj, trimmed, String.toList_ofList]

end Text
end RecordingHarvest
