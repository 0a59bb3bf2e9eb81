import RecordingHarvest.Proofs.Text.Utf8
import RecordingHarvest.SnapshotLines

/-!
# Reading line by line

A content is read one line at a time, and what a line gives depends on its own bytes alone.  The
lines are what stands between the line feeds; a line that is not blank (`Blank`) gives one item, its
event (`Holds`) or a fault with its number (`numbered`, `item`).

* `readEvents_eq`: the items are those of the lines, in the order of the lines.
* `mem_numbered`: which lines give which items.
* `numbered_append`: two contents with a line feed between them are read as each of them is, the
  second one's lines numbered on from the first.
* `numbered_line`: what stands in a line decides that line's item and no other.
* `readEvents_lines`: all of this for every content.
-/

namespace RecordingHarvest
namespace SnapshotLines

/-! ## What a line holds -/

/-- The line spells blanks only. -/
def Blank (line : List UInt8) : Prop := ∃ cs, line = Text.encode cs ∧ Text.allBlank cs = true

/-- The line spells the document of an event. -/
def Holds (line : List UInt8) (e : Event) : Prop :=
  ∃ cs, line = Text.encode cs ∧ Event.ofChars? cs = some e

/-- What a line gives: nothing if it is blank, otherwise its event, if it has one. -/
def found? (line : List UInt8) : Option (Option Event) :=
  match Text.decode? line with
  | none => some none
  | some cs => if Text.allBlank cs then none else some (Event.ofChars? cs)

/-- The item for what a line gives: its event, or a fault that names the line. -/
def item (number : Nat) : Option Event → Except Fault Event
  | some e => .ok e
  | none => .error (.decodeFailed ("line " ++ Number.naturalText number))

variable {line : List UInt8} {found : Option Event}

theorem readLine_eq (number : Nat) (line : List UInt8) :
    readLine number line = (found? line).map (item number) := by
  rw [readLine, found?]
  cases Text.decode? line with
  | none => rfl
  | some cs =>
      by_cases hblank : Text.allBlank cs = true
      · simp [hblank]
      · cases hevent : Event.ofChars? cs <;> simp [hblank, hevent, item]

theorem blank_iff : Blank line ↔ ∃ cs, Text.decode? line = some cs ∧ Text.allBlank cs = true := by
  simp only [Blank, Text.decode?_eq_some_iff]

theorem holds_iff {e : Event} :
    Holds line e ↔ ∃ cs, Text.decode? line = some cs ∧ Event.ofChars? cs = some e := by
  simp only [Holds, Text.decode?_eq_some_iff]

/-- **What a line gives is told by what it spells**: it gives something unless it is blank, and what
it gives is its event, if it holds one. -/
theorem found?_eq_some_iff :
    found? line = some found ↔ ¬ Blank line ∧ ∀ e, found = some e ↔ Holds line e := by
  simp only [blank_iff, holds_iff, found?]
  cases Text.decode? line with
  | none =>
      cases found <;> simp
  | some cs =>
      by_cases hblank : Text.allBlank cs = true
      · simp [hblank]
      · simp only [hblank, Bool.false_eq_true, ↓reduceIte, Option.some.injEq, exists_eq_left',
          not_false_eq_true, true_and]
        constructor
        · rintro rfl e
          rfl
        · exact fun h => Option.ext fun e => (h e).symm

/-! ## Lines -/

/-- The lines of a content are what stands between its line feeds; the reader leaves out a last one
that is empty. -/
theorem splitOn_eq_split (content : List UInt8) :
    content.splitOn 10 = split content ∨ content.splitOn 10 = split content ++ [[]] := by
  induction content with
  | nil => exact .inr rfl
  | cons b rest ih =>
      rw [List.splitOn_cons_eq_if_modifyHead, split]
      by_cases hb : b = 10
      · simpa [hb] using ih
      · rcases ih with ih | ih
        · cases hrest : split rest with
          | nil => simp [hrest] at ih
          | cons line lines => simp [hb, ih, hrest]
        · cases hrest : split rest with
          | nil => simp [hb, ih, hrest]
          | cons line lines => simp [hb, ih, hrest]

/-- There is one line more than there are line feeds. -/
theorem length_splitOn (content : List UInt8) :
    (content.splitOn 10).length = content.count 10 + 1 := by
  induction content with
  | nil => rfl
  | cons b rest ih =>
      rw [List.splitOn_cons_eq_if_modifyHead]
      by_cases hb : b = 10 <;> simp [hb, ih]

/-- What lines numbered from `first` on give, with their numbers. -/
def numberedLines (first : Nat) (lines : List (List UInt8)) : List (Nat × Option Event) :=
  (lines.zipIdx first).filterMap fun (line, n) => (found? line).map (n, ·)

/-- What the lines of a content give, with the numbers of the lines from `first` on. -/
def numbered (first : Nat) (content : List UInt8) : List (Nat × Option Event) :=
  numberedLines first (content.splitOn 10)

theorem numberedLines_cons (first : Nat) (line : List UInt8) (lines : List (List UInt8)) :
    numberedLines first (line :: lines) =
      ((found? line).map (first, ·)).toList ++ numberedLines (first + 1) lines := by
  rw [numberedLines, List.zipIdx_cons, List.filterMap_cons]
  cases hfound : found? line <;> simp [hfound, numberedLines]

theorem numberedLines_append (first : Nat) (lines more : List (List UInt8)) :
    numberedLines first (lines ++ more) =
      numberedLines first lines ++ numberedLines (first + lines.length) more := by
  rw [numberedLines, List.zipIdx_append, List.filterMap_append]
  rfl

theorem readLines_eq (first : Nat) (lines : List (List UInt8)) :
    readLines first lines =
      (numberedLines first lines).map fun entry => item entry.1 entry.2 := by
  induction lines generalizing first with
  | nil => rfl
  | cons line lines ih =>
      rw [readLines, readLine_eq, ih, numberedLines_cons]
      cases found? line <;> simp

theorem numberedLines_empty (first : Nat) : numberedLines first [[]] = [] := by
  simp [numberedLines, found?, Text.decode?, Text.allBlank]

/-- **The items of a content are those of its lines**, in the order of the lines. -/
theorem readEvents_eq (content : List UInt8) :
    readEvents content = (numbered 1 content).map fun entry => item entry.1 entry.2 := by
  rw [readEvents, readLines_eq, numbered]
  rcases splitOn_eq_split content with h | h
  · rw [h]
  · rw [h, numberedLines_append, numberedLines_empty, List.append_nil]

/-- **Which lines give which items.** -/
theorem mem_numbered {first n : Nat} {content : List UInt8} :
    (n, found) ∈ numbered first content ↔ ∃ line, (line, n) ∈ (content.splitOn 10).zipIdx first ∧
      ¬ Blank line ∧ ∀ e, found = some e ↔ Holds line e := by
  simp only [numbered, numberedLines, List.mem_filterMap, Prod.exists, Option.map_eq_some_iff,
    Prod.mk.injEq, ← found?_eq_some_iff]
  constructor
  · rintro ⟨line, m, hmem, o, ho, rfl, rfl⟩
    exact ⟨line, hmem, ho⟩
  · rintro ⟨line, hmem, ho⟩
    exact ⟨line, n, hmem, found, ho, rfl, rfl⟩

/-- The numbers are those of lines. -/
theorem bounds_of_mem_numberedLines {first : Nat} {lines : List (List UInt8)}
    {entry : Nat × Option Event} (h : entry ∈ numberedLines first lines) :
    first ≤ entry.1 ∧ entry.1 < first + lines.length := by
  induction lines generalizing first with
  | nil => exact absurd h List.not_mem_nil
  | cons line lines ih =>
      rw [numberedLines_cons, List.mem_append] at h
      rw [List.length_cons]
      rcases h with h | h
      · cases hfound : found? line with
        | none => simp [hfound] at h
        | some found =>
            obtain rfl : entry = (first, found) := by simpa [hfound] using h
            simp
      · have hrest := ih h
        omega

/-- The items stand in the order of their lines, one for a line at most. -/
theorem numberedLines_sorted (first : Nat) (lines : List (List UInt8)) :
    ((numberedLines first lines).map Prod.fst).Pairwise (· < ·) := by
  induction lines generalizing first with
  | nil => exact List.Pairwise.nil
  | cons line lines ih =>
      rw [numberedLines_cons]
      cases found? line with
      | none => exact ih (first + 1)
      | some found =>
          refine List.pairwise_cons.2 ⟨?_, ih (first + 1)⟩
          intro n hn
          obtain ⟨entry, hentry, rfl⟩ := List.mem_map.1 hn
          exact (bounds_of_mem_numberedLines hentry).1

/-! ## Two contents -/

/-- Numbers `k` further on. -/
def renumber (k : Nat) (entry : Nat × Option Event) : Nat × Option Event := (entry.1 + k, entry.2)

theorem numberedLines_add (first k : Nat) (lines : List (List UInt8)) :
    numberedLines (first + k) lines = (numberedLines first lines).map (renumber k) := by
  induction lines generalizing first with
  | nil => rfl
  | cons line lines ih =>
      rw [numberedLines_cons, numberedLines_cons, Nat.add_right_comm, ih, List.map_append]
      cases found? line <;> rfl

/-- **Two contents with a line feed between them are read as each of them is**, the lines of the
second numbered on from those of the first. -/
theorem numbered_append (first : Nat) (a b : List UInt8) :
    numbered first (a ++ 10 :: b) =
      numbered first a ++ (numbered first b).map (renumber (a.count 10 + 1)) := by
  rw [numbered, List.splitOn_append_cons_self, numberedLines_append, length_splitOn,
    numberedLines_add]
  rfl

/-- A line feed at the end changes nothing. -/
theorem numbered_concat (first : Nat) (content : List UInt8) :
    numbered first (content ++ [10]) = numbered first content := by
  rw [numbered_append]
  simp [numbered, numberedLines_empty]

theorem bounds_of_mem_numbered {first : Nat} {content : List UInt8} {entry : Nat × Option Event}
    (h : entry ∈ numbered first content) :
    first ≤ entry.1 ∧ entry.1 ≤ first + content.count 10 := by
  have hbounds := bounds_of_mem_numberedLines h
  rw [length_splitOn] at hbounds
  omega

/-- **What stands in a line decides that line's item and no other.** -/
theorem numbered_line (first : Nat) (a b : List UInt8) {line : List UInt8} (h : 10 ∉ line) :
    (numbered first (a ++ 10 :: (line ++ 10 :: b))).filter (·.1 ≠ first + a.count 10 + 1) =
      numbered first a ++ (numbered first b).map (renumber (a.count 10 + 2)) := by
  have hcount : line.count 10 = 0 := List.count_eq_zero.2 h
  have hbefore : ∀ entry ∈ numbered first a, entry.1 ≠ first + a.count 10 + 1 := by
    intro entry hentry
    have hbounds := bounds_of_mem_numbered hentry
    omega
  have hhere : ∀ entry ∈ numbered first line,
      (renumber (a.count 10 + 1) entry).1 = first + a.count 10 + 1 := by
    intro entry hentry
    have hbounds := bounds_of_mem_numbered hentry
    simp only [renumber]
    omega
  have hbehind : ∀ entry ∈ numbered first b,
      (renumber (a.count 10 + 2) entry).1 ≠ first + a.count 10 + 1 := by
    intro entry hentry
    have hbounds := bounds_of_mem_numbered hentry
    simp only [renumber]
    omega
  have htwice (entry : Nat × Option Event) :
      renumber (a.count 10 + 1) (renumber 1 entry) = renumber (a.count 10 + 2) entry :=
    Prod.ext (by simp only [renumber]; omega) rfl
  rw [numbered_append, numbered_append, hcount]
  simp only [List.map_append, List.map_map, Function.comp_def, Nat.zero_add, htwice,
    List.filter_append]
  rw [List.filter_eq_self.2, List.filter_eq_nil_iff.2, List.filter_eq_self.2, List.nil_append]
  all_goals simp only [List.mem_map, decide_eq_true_eq]
  · rintro _ ⟨entry, hentry, rfl⟩
    exact hbehind entry hentry
  · rintro _ ⟨entry, hentry, rfl⟩ hne
    exact hne (hhere entry hentry)
  · exact hbefore

/-! ## Every content -/

/-- **A content is read line by line.**  Each line that is not blank gives one item, in the order of
the lines: its event, or a fault with its number if it holds none.  Two contents with a line feed
between them give what each of them gives, the lines of the second numbered on; so whatever
stands in one line, all others give the same.  A last line counts with a line feed behind it or
without. -/
theorem readEvents_lines (content : List UInt8) :
    readEvents content = (numbered 1 content).map (fun entry => item entry.1 entry.2) ∧
      ((numbered 1 content).map Prod.fst).Pairwise (· < ·) ∧
      (∀ n found, (n, found) ∈ numbered 1 content ↔
        ∃ line, (line, n) ∈ (content.splitOn 10).zipIdx 1 ∧ ¬ Blank line ∧
          ∀ e, found = some e ↔ Holds line e) ∧
      (∀ more, numbered 1 (content ++ 10 :: more) =
        numbered 1 content ++ (numbered 1 more).map (renumber (content.count 10 + 1))) ∧
      (∀ more line, 10 ∉ line →
        (numbered 1 (content ++ 10 :: (line ++ 10 :: more))).filter
            (·.1 ≠ 1 + content.count 10 + 1) =
          numbered 1 content ++ (numbered 1 more).map (renumber (content.count 10 + 2))) ∧
      readEvents (content ++ [10]) = readEvents content := by
  refine ⟨readEvents_eq content, numberedLines_sorted 1 _, fun n found => mem_numbered,
    fun more => numbered_append 1 content more,
    fun more line h => numbered_line 1 content more h, ?_⟩
  rw [readEvents_eq, readEvents_eq, numbered_concat]

/-- A byte that spells nothing stands between a blank line and a brace that nothing closes. -/
theorem readEvents_lines_broken :
    10 ∉ [(0xFF : UInt8)] ∧
      (numbered 1 ([32] ++ 10 :: ([0xFF] ++ 10 :: [0x7B]))).filter (·.1 ≠ 2) =
        numbered 1 [32] ++ (numbered 1 [0x7B]).map (renumber 2) :=
  ⟨by decide, (readEvents_lines [32]).2.2.2.2.1 [0x7B] [0xFF] (by decide)⟩

end SnapshotLines
end RecordingHarvest
