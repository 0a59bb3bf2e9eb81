import RecordingHarvest.Json.Form
import RecordingHarvest.Json.Writer

/-!
# Strings read back

A string is read in two steps: its body is found as it is written, then the escapes in the body
become characters.  Both take what is written for one character and go on with the next.

* `string?_writeChar_append`, `unescape_writeChar_append`: one character.
* `string?_body`, `unescape_body`: a whole body.
-/

namespace RecordingHarvest
namespace Json

open Form (string? unescape codeUnit escaped)

/-! ## Hexadecimal escapes -/

theorem hexValue_hexDigit (n : Nat) :
    Text.hexValue (Text.hexDigit (n % 16)) = some (n % 16) := by
  have hall : ∀ k < 16, Text.hexValue (Text.hexDigit k) = some k := by decide
  exact hall _ (Nat.mod_lt _ (by decide))

/-- Four digits hold a code unit. -/
theorem hexPadded_four (n : Nat) : Text.hexPadded 4 n =
    [Text.hexDigit (n / 16 / 16 / 16 % 16), Text.hexDigit (n / 16 / 16 % 16),
      Text.hexDigit (n / 16 % 16), Text.hexDigit (n % 16)] := by
  simp [Text.hexPadded]

theorem codeUnit_hexPadded {n : Nat} (h : n < 0x10000) :
    codeUnit (Text.hexDigit (n / 16 / 16 / 16 % 16)) (Text.hexDigit (n / 16 / 16 % 16))
      (Text.hexDigit (n / 16 % 16)) (Text.hexDigit (n % 16)) = n := by
  simp only [codeUnit, List.foldl_cons, List.foldl_nil, hexValue_hexDigit, Option.getD_some]
  omega

/-! ## One character -/

/-- Whether a backslash and this character are an escape by themselves. -/
def isShort (e : Char) : Bool := ['"', '\\', '/', 'b', 'f', 'n', 'r', 't'].contains e

theorem ne_of_isShort {e c : Char} (h : isShort e = true) (hc : isShort c = false) : e ≠ c := by
  rintro rfl
  exact Bool.false_ne_true (hc.symm.trans h)

/-- A character is written with a short escape, with its code unit, or as it is. -/
theorem writeChar_cases (c : Char) :
    (∃ e, writeChar c = ['\\', e] ∧ isShort e = true ∧ escaped e = c) ∨
    (c.toNat < 0x20 ∧ writeChar c = '\\' :: 'u' :: Text.hexPadded 4 c.toNat) ∨
    (c ≠ '"' ∧ c ≠ '\\' ∧ 0x20 ≤ c.toNat ∧ writeChar c = [c]) := by
  by_cases hquote : c = '"'
  · exact .inl ⟨'"', by simp [writeChar, hquote], by decide, hquote.symm⟩
  by_cases hslash : c = '\\'
  · exact .inl ⟨'\\', by simp [writeChar, hslash], by decide, hslash.symm⟩
  by_cases hback : c = '\x08'
  · exact .inl ⟨'b', by simp [writeChar, hback], by decide, hback ▸ rfl⟩
  by_cases hform : c = '\x0c'
  · exact .inl ⟨'f', by simp [writeChar, hform], by decide, hform ▸ rfl⟩
  by_cases hline : c = '\n'
  · exact .inl ⟨'n', by simp [writeChar, hline], by decide, hline ▸ rfl⟩
  by_cases hreturn : c = '\r'
  · exact .inl ⟨'r', by simp [writeChar, hreturn], by decide, hreturn ▸ rfl⟩
  by_cases htab : c = '\t'
  · exact .inl ⟨'t', by simp [writeChar, htab], by decide, htab ▸ rfl⟩
  by_cases hcontrol : c.toNat < 0x20
  · refine .inr (.inl ⟨hcontrol, ?_⟩)
    simp [writeChar, hquote, hslash, hback, hform, hline, hreturn, htab, hcontrol]
  · refine .inr (.inr ⟨hquote, hslash, Nat.not_lt.1 hcontrol, ?_⟩)
    simp [writeChar, hquote, hslash, hback, hform, hline, hreturn, htab, hcontrol]

theorem string?_writeChar_append (c : Char) (rest : List Char) :
    string? (writeChar c ++ rest) =
      (string? rest).map fun (body, rest) => (writeChar c ++ body, rest) := by
  rcases writeChar_cases c with ⟨e, hc, he, -⟩ | ⟨-, hc⟩ | ⟨hquote, hslash, hplain, hc⟩
  · rw [hc, List.cons_append, List.singleton_append, string?]
    · rw [isShort] at he
      rw [if_pos he]
      rfl
    · intro _ _ _ _ _ heq
      exact absurd heq (ne_of_isShort he (by decide))
  · rw [hc, hexPadded_four]
    simp only [List.cons_append, List.nil_append]
    rw [string?, if_pos (by simp [hexValue_hexDigit])]
  · rw [hc, List.singleton_append, string?]
    · simp [hslash, Nat.not_lt.2 hplain]
    · exact hquote
    · intro _ _ _ _ _ heq
      exact absurd heq hslash
    · intro _ _ heq
      exact absurd heq hslash

theorem unescape_writeChar_append (c : Char) (rest : List Char) :
    unescape (writeChar c ++ rest) = (unescape rest).map (c :: ·) := by
  rcases writeChar_cases c with ⟨e, hc, he, hescaped⟩ | ⟨hcontrol, hc⟩ | ⟨-, hslash, -, hc⟩
  · rw [hc, List.cons_append, List.singleton_append, unescape]
    · rw [hescaped]
    · intro _ _ _ _ _ heq
      exact absurd heq (ne_of_isShort he (by decide))
  · have hunit := codeUnit_hexPadded (n := c.toNat) (by omega)
    rw [hc, hexPadded_four]
    simp only [List.cons_append, List.nil_append]
    rw [unescape.eq_def]
    simp only [hunit]
    -- Control characters are no surrogates: the code unit is the character.
    rw [if_pos (by omega), Char.ofNat_toNat]
  · rw [hc, List.singleton_append, unescape]
    · intro _ _ _ _ _ heq
      exact absurd heq hslash
    · intro _ _ heq
      exact absurd heq hslash

/-! ## Whole bodies -/

/-- What stands between the quotes of a string. -/
def body (cs : List Char) : List Char := cs.flatMap writeChar

/-- The body of a written string is found, up to its closing quote. -/
theorem string?_body (cs rest : List Char) :
    string? (body cs ++ '"' :: rest) = some (body cs, rest) := by
  induction cs with
  | nil => rfl
  | cons c cs ih =>
      rw [body] at ih
      rw [body, List.flatMap_cons, List.append_assoc, string?_writeChar_append, ih]
      rfl

/-- The body of a written string stands for its characters. -/
theorem unescape_body (cs : List Char) : unescape (body cs) = some cs := by
  induction cs with
  | nil => rfl
  | cons c cs ih =>
      rw [body] at ih
      rw [body, List.flatMap_cons, unescape_writeChar_append, ih]
      rfl

end Json
end RecordingHarvest
