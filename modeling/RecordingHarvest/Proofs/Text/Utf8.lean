import RecordingHarvest.Text.Utf8

/-!
# Reading UTF-8 back

* `decodes`: the bytes of a character are read as that character, whatever follows.
* `decode?_encode`, `eq_encode_of_decode?`: the bytes of a text spell that text, and no others do.
* `lineFeed_not_mem_encode`: the byte of the line feed comes from no other character.
-/

namespace RecordingHarvest
namespace Text

/-! ## Lead bytes -/

theorem toNat_byte {n : Nat} (h : n < 256) : (UInt8.ofNat n).toNat = n :=
  UInt8.toNat_ofNat_of_lt' h

theorem leadOf_one {a : Nat} (h : a < 0x80) : leadOf a = some (0, 0, 0) := by
  rw [leadOf, if_pos h]

theorem leadOf_two {a : Nat} (hlow : 0xC2 ≤ a) (hhigh : a < 0xE0) :
    leadOf a = some (1, 0x80, 0xBF) := by
  rw [leadOf, if_neg (by omega), if_neg (by omega), if_pos hhigh]

/-- A lead byte of three admits every second byte but those of overlong forms and surrogates. -/
theorem leadOf_three {a b : Nat} (hlow : 0xE0 ≤ a) (hhigh : a < 0xF0) (hb : 0x80 ≤ b ∧ b < 0xC0)
    (hoverlong : a = 0xE0 → 0xA0 ≤ b) (hsurrogate : a = 0xED → b < 0xA0) :
    ∃ lo hi, leadOf a = some (2, lo, hi) ∧ lo ≤ b ∧ b ≤ hi := by
  rw [leadOf, if_neg (by omega), if_neg (by omega), if_neg (by omega)]
  by_cases hfirst : a = 0xE0
  · exact ⟨0xA0, 0xBF, if_pos hfirst, hoverlong hfirst, by omega⟩
  by_cases hspecial : a = 0xED
  · have hbelow := hsurrogate hspecial
    exact ⟨0x80, 0x9F, by rw [if_neg hfirst, if_pos hspecial], hb.1, by omega⟩
  · exact ⟨0x80, 0xBF, by rw [if_neg hfirst, if_neg hspecial, if_pos hhigh], hb.1, by omega⟩

/-- A lead byte of four admits every second byte but those of overlong forms and of code points past
the last. -/
theorem leadOf_four {a b : Nat} (hlow : 0xF0 ≤ a) (hhigh : a ≤ 0xF4) (hb : 0x80 ≤ b ∧ b < 0xC0)
    (hoverlong : a = 0xF0 → 0x90 ≤ b) (hlast : a = 0xF4 → b < 0x90) :
    ∃ lo hi, leadOf a = some (3, lo, hi) ∧ lo ≤ b ∧ b ≤ hi := by
  rw [leadOf, if_neg (by omega), if_neg (by omega), if_neg (by omega), if_neg (by omega),
    if_neg (by omega), if_neg (by omega)]
  by_cases hfirst : a = 0xF0
  · exact ⟨0x90, 0xBF, if_pos hfirst, hoverlong hfirst, by omega⟩
  by_cases hmiddle : a < 0xF4
  · exact ⟨0x80, 0xBF, by rw [if_neg hfirst, if_pos hmiddle], hb.1, by omega⟩
  · have hend : a = 0xF4 := by omega
    have hbelow := hlast hend
    exact ⟨0x80, 0x8F, by rw [if_neg hfirst, if_neg hmiddle, if_pos hend], hb.1, by omega⟩

/-! ## One step -/

variable {a b c d : UInt8} {rest : List UInt8} {lo hi : Nat}

theorem decodeStep_one (ha : leadOf a.toNat = some (0, 0, 0)) :
    decodeStep a rest = (some (Char.ofNat a.toNat), 0) := by
  simp only [decodeStep, ha]

/-- A second byte in the range that the lead byte asks for is taken. -/
theorem not_outside (hlo : lo ≤ b.toNat) (hhi : b.toNat ≤ hi) :
    (b.toNat < lo || hi < b.toNat) = false := by
  simp
  omega

theorem decodeStep_two (ha : leadOf a.toNat = some (1, lo, hi)) (hlo : lo ≤ b.toNat)
    (hhi : b.toNat ≤ hi) :
    decodeStep a (b :: rest) =
      (some (Char.ofNat ((a.toNat - 0xC0) * 64 + (b.toNat - 0x80))), 1) := by
  simp [decodeStep, ha, not_outside hlo hhi]

theorem decodeStep_three (ha : leadOf a.toNat = some (2, lo, hi)) (hlo : lo ≤ b.toNat)
    (hhi : b.toNat ≤ hi) (hc : isContinuation c.toNat = true) :
    decodeStep a (b :: c :: rest) =
      (some (Char.ofNat ((a.toNat - 0xE0) * 4096 + (b.toNat - 0x80) * 64 + (c.toNat - 0x80))),
        2) := by
  simp [decodeStep, ha, not_outside hlo hhi, hc]

theorem decodeStep_four (ha : leadOf a.toNat = some (3, lo, hi)) (hlo : lo ≤ b.toNat)
    (hhi : b.toNat ≤ hi) (hc : isContinuation c.toNat = true)
    (hd : isContinuation d.toNat = true) :
    decodeStep a (b :: c :: d :: rest) =
      (some (Char.ofNat ((a.toNat - 0xF0) * 262144 + (b.toNat - 0x80) * 4096 +
        (c.toNat - 0x80) * 64 + (d.toNat - 0x80))), 3) := by
  simp [decodeStep, ha, not_outside hlo hhi, hc, hd]

/-! ## Characters -/

/-- The code points that characters have. -/
theorem toNat_valid (c : Char) :
    c.toNat < 0xD800 ∨ 0xDFFF < c.toNat ∧ c.toNat < 0x110000 := c.valid

/-- The byte that carries six bits behind the lead byte. -/
theorem toNat_continuation (n : Nat) : (UInt8.ofNat (0x80 + n % 64)).toNat = 0x80 + n % 64 :=
  toNat_byte (by omega)

theorem isContinuation_carrying (n : Nat) :
    isContinuation (UInt8.ofNat (0x80 + n % 64)).toNat = true := by
  rw [toNat_continuation]
  simp [isContinuation]
  omega

theorem ofNat_of_eq {c : Char} {n : Nat} (h : n = c.toNat) : Char.ofNat n = c := by
  rw [h, Char.ofNat_toNat]

/-- The bytes of a character are read as that character, whatever follows. -/
def Decodes (c : Char) : Prop :=
  ∀ rest, ∃ a tail, encodeChar c = a :: tail ∧ decodeStep a (tail ++ rest) = (some c, tail.length)

section

variable {c : Char}

theorem decodes_one (h : c.toNat < 0x80) : Decodes c := by
  intro rest
  refine ⟨UInt8.ofNat c.toNat, [], by simp [encodeChar, h], ?_⟩
  have ha := toNat_byte (show c.toNat < 256 by omega)
  rw [decodeStep_one (by rw [ha, leadOf_one h]), ofNat_of_eq ha]
  rfl

theorem decodes_two (hone : ¬ c.toNat < 0x80) (h : c.toNat < 0x800) : Decodes c := by
  intro rest
  refine ⟨UInt8.ofNat (0xC0 + c.toNat / 64), [UInt8.ofNat (0x80 + c.toNat % 64)],
    by simp [encodeChar, hone, h], ?_⟩
  have ha := toNat_byte (show 0xC0 + c.toNat / 64 < 256 by omega)
  have hb := toNat_continuation c.toNat
  have hlead : leadOf (0xC0 + c.toNat / 64) = some (1, 0x80, 0xBF) :=
    leadOf_two (by omega) (by omega)
  rw [← ha] at hlead
  rw [List.singleton_append, decodeStep_two hlead (by omega) (by omega),
    ofNat_of_eq (c := c) (by omega)]
  rfl

theorem decodes_three (htwo : ¬ c.toNat < 0x800) (h : c.toNat < 0x10000) : Decodes c := by
  intro rest
  have hone : ¬ c.toNat < 0x80 := by omega
  have hvalid := toNat_valid c
  refine ⟨UInt8.ofNat (0xE0 + c.toNat / 4096),
    [UInt8.ofNat (0x80 + c.toNat / 64 % 64), UInt8.ofNat (0x80 + c.toNat % 64)],
    by simp [encodeChar, hone, htwo, h], ?_⟩
  have ha := toNat_byte (show 0xE0 + c.toNat / 4096 < 256 by omega)
  have hb := toNat_continuation (c.toNat / 64)
  have hc := toNat_continuation c.toNat
  obtain ⟨lo, hi, hlead, hlo, hhi⟩ := leadOf_three (a := 0xE0 + c.toNat / 4096)
    (b := 0x80 + c.toNat / 64 % 64) (by omega) (by omega) (by omega) (by omega) (by omega)
  rw [← ha] at hlead
  rw [← hb] at hlo hhi
  rw [List.cons_append, List.singleton_append,
    decodeStep_three hlead hlo hhi (isContinuation_carrying _), ofNat_of_eq (c := c) (by omega)]
  rfl

theorem decodes_four (hthree : ¬ c.toNat < 0x10000) : Decodes c := by
  intro rest
  have hone : ¬ c.toNat < 0x80 := by omega
  have htwo : ¬ c.toNat < 0x800 := by omega
  have hvalid := toNat_valid c
  refine ⟨UInt8.ofNat (0xF0 + c.toNat / 262144),
    [UInt8.ofNat (0x80 + c.toNat / 4096 % 64), UInt8.ofNat (0x80 + c.toNat / 64 % 64),
      UInt8.ofNat (0x80 + c.toNat % 64)], by simp [encodeChar, hone, htwo, hthree], ?_⟩
  have ha := toNat_byte (show 0xF0 + c.toNat / 262144 < 256 by omega)
  have hb := toNat_continuation (c.toNat / 4096)
  have hc := toNat_continuation (c.toNat / 64)
  have hd := toNat_continuation c.toNat
  obtain ⟨lo, hi, hlead, hlo, hhi⟩ := leadOf_four (a := 0xF0 + c.toNat / 262144)
    (b := 0x80 + c.toNat / 4096 % 64) (by omega) (by omega) (by omega) (by omega) (by omega)
  rw [← ha] at hlead
  rw [← hb] at hlo hhi
  rw [List.cons_append, List.cons_append, List.singleton_append,
    decodeStep_four hlead hlo hhi (isContinuation_carrying _) (isContinuation_carrying _),
    ofNat_of_eq (c := c) (by omega)]
  rfl

theorem decodes (c : Char) : Decodes c := by
  by_cases hone : c.toNat < 0x80
  · exact decodes_one hone
  by_cases htwo : c.toNat < 0x800
  · exact decodes_two hone htwo
  by_cases hthree : c.toNat < 0x10000
  · exact decodes_three htwo hthree
  · exact decodes_four hthree

end

/-! ## Texts -/

theorem decode?_encodeChar_append (c : Char) (rest : List UInt8) :
    decode? (encodeChar c ++ rest) = (decode? rest).map (c :: ·) := by
  obtain ⟨a, tail, hbytes, hstep⟩ := decodes c rest
  rw [hbytes, List.cons_append, decode?, hstep]
  simp

/-- **The bytes of a text spell that text.** -/
theorem decode?_encode (cs : List Char) : decode? (encode cs) = some cs := by
  induction cs with
  | nil => rw [encode, List.flatMap_nil, decode?]
  | cons c cs ih =>
      rw [encode, List.flatMap_cons, decode?_encodeChar_append]
      rw [encode] at ih
      rw [ih]
      rfl

/-- Characters outside ASCII take no ASCII bytes. -/
theorem le_of_mem_encodeChar {c : Char} (h : 0x80 ≤ c.toNat) {b : UInt8} (hb : b ∈ encodeChar c) :
    0x80 ≤ b.toNat := by
  have hvalid := toNat_valid c
  have hbyte {n : Nat} (hlow : 0x80 ≤ n) (hhigh : n < 256) (heq : b = UInt8.ofNat n) :
      0x80 ≤ b.toNat := by
    rw [heq, toNat_byte hhigh]
    exact hlow
  simp only [encodeChar, Nat.not_lt.2 h, ↓reduceIte] at hb
  split at hb
  · simp only [List.mem_cons, List.not_mem_nil, or_false] at hb
    rcases hb with hb | hb <;> exact hbyte (by omega) (by omega) hb
  split at hb
  · simp only [List.mem_cons, List.not_mem_nil, or_false] at hb
    rcases hb with hb | hb | hb <;> exact hbyte (by omega) (by omega) hb
  · simp only [List.mem_cons, List.not_mem_nil, or_false] at hb
    rcases hb with hb | hb | hb | hb <;> exact hbyte (by omega) (by omega) hb

/-- Only the line feed takes the byte of the line feed. -/
theorem eq_lineFeed_of_mem_encodeChar {c : Char} (h : 10 ∈ encodeChar c) : c = '\n' := by
  by_cases hascii : c.toNat < 0x80
  · have hten : 10 = UInt8.ofNat c.toNat := by simpa [encodeChar, hascii] using h
    have hvalue : c.toNat = 10 := by
      rw [← toNat_byte (show c.toNat < 256 by omega), ← hten]
      rfl
    rw [← Char.ofNat_toNat c, hvalue]
  · have hhigh := le_of_mem_encodeChar (Nat.not_lt.1 hascii) h
    exact absurd hhigh (by decide)

theorem lineFeed_not_mem_encode {cs : List Char} (h : '\n' ∉ cs) : 10 ∉ encode cs := by
  intro hmem
  rw [encode, List.mem_flatMap] at hmem
  obtain ⟨c, hc, hbyte⟩ := hmem
  exact h (eq_lineFeed_of_mem_encodeChar hbyte ▸ hc)

/-! ## Well-formed bytes -/

/-- The lead bytes and the second bytes they admit. -/
theorem eq_of_leadOf {a extra lo hi : Nat} (h : leadOf a = some (extra, lo, hi)) :
    extra = 0 ∧ a < 0x80 ∨
      extra = 1 ∧ 0xC2 ≤ a ∧ a < 0xE0 ∧ 0x80 ≤ lo ∧ hi ≤ 0xBF ∨
      extra = 2 ∧ 0xE0 ≤ a ∧ a < 0xF0 ∧ 0x80 ≤ lo ∧ hi ≤ 0xBF ∧ (a = 0xE0 → 0xA0 ≤ lo) ∧
        (a = 0xED → hi ≤ 0x9F) ∨
      extra = 3 ∧ 0xF0 ≤ a ∧ a ≤ 0xF4 ∧ 0x80 ≤ lo ∧ hi ≤ 0xBF ∧ (a = 0xF0 → 0x90 ≤ lo) ∧
        (a = 0xF4 → hi ≤ 0x8F) := by
  rw [leadOf] at h
  repeat' split at h
  all_goals cases h <;> omega

theorem toNat_ofNat_of_valid {n : Nat} (h : n < 0xD800 ∨ 0xDFFF < n ∧ n < 0x110000) :
    (Char.ofNat n).toNat = n := by
  rw [Char.ofNat, dif_pos h]
  rfl

theorem encodeChar_one (ha : a.toNat < 0x80) : encodeChar (Char.ofNat a.toNat) = [a] := by
  have hchar := toNat_ofNat_of_valid (n := a.toNat) (by omega)
  simp [encodeChar, hchar, ha]

theorem encodeChar_two {n : Nat} (hlow : 0x80 ≤ n) (hhigh : n < 0x800)
    (ha : a.toNat = 0xC0 + n / 64) (hb : b.toNat = 0x80 + n % 64) :
    encodeChar (Char.ofNat n) = [a, b] := by
  have hchar := toNat_ofNat_of_valid (n := n) (by omega)
  simp only [encodeChar, hchar, if_neg (Nat.not_lt.2 hlow), if_pos hhigh, ← ha, ← hb,
    UInt8.ofNat_toNat]

theorem encodeChar_three {n : Nat} (hlow : 0x800 ≤ n) (hhigh : n < 0x10000)
    (hvalid : n < 0xD800 ∨ 0xDFFF < n) (ha : a.toNat = 0xE0 + n / 4096)
    (hb : b.toNat = 0x80 + n / 64 % 64) (hc : c.toNat = 0x80 + n % 64) :
    encodeChar (Char.ofNat n) = [a, b, c] := by
  have hchar := toNat_ofNat_of_valid (n := n) (by omega)
  simp only [encodeChar, hchar, if_neg (show ¬ n < 0x80 by omega), if_neg (Nat.not_lt.2 hlow),
    if_pos hhigh, ← ha, ← hb, ← hc, UInt8.ofNat_toNat]

theorem encodeChar_four {n : Nat} (hlow : 0x10000 ≤ n) (hhigh : n < 0x110000)
    (ha : a.toNat = 0xF0 + n / 262144) (hb : b.toNat = 0x80 + n / 4096 % 64)
    (hc : c.toNat = 0x80 + n / 64 % 64) (hd : d.toNat = 0x80 + n % 64) :
    encodeChar (Char.ofNat n) = [a, b, c, d] := by
  have hchar := toNat_ofNat_of_valid (n := n) (by omega)
  simp only [encodeChar, hchar, if_neg (show ¬ n < 0x80 by omega),
    if_neg (show ¬ n < 0x800 by omega), if_neg (Nat.not_lt.2 hlow), ← ha, ← hb, ← hc, ← hd,
    UInt8.ofNat_toNat]

/-- A second byte that a lead byte admits, read from the test that it passed. -/
theorem second_of_not {lo hi : Nat} (h : ¬ (b.toNat < lo || hi < b.toNat) = true) :
    lo ≤ b.toNat ∧ b.toNat ≤ hi := by
  simp only [Bool.or_eq_true, decide_eq_true_eq] at h
  omega

theorem isContinuation_iff {n : Nat} : isContinuation n = true ↔ 0x80 ≤ n ∧ n < 0xC0 := by
  simp [isContinuation]

section

variable {ch : Char} {n lo hi : Nat}

theorem eq_of_decodeStep_one (hlead : leadOf a.toNat = some (0, lo, hi))
    (h : decodeStep a rest = (some ch, n)) : a :: rest = encodeChar ch ++ rest.drop n := by
  have hrange := eq_of_leadOf hlead
  simp only [decodeStep, hlead, Prod.mk.injEq, Option.some.injEq] at h
  obtain ⟨rfl, rfl⟩ := h
  rw [encodeChar_one (by omega)]
  rfl

theorem eq_of_decodeStep_two (hlead : leadOf a.toNat = some (1, lo, hi))
    (h : decodeStep a rest = (some ch, n)) : a :: rest = encodeChar ch ++ rest.drop n := by
  have hrange := eq_of_leadOf hlead
  match rest with
  | [] => simp [decodeStep, hlead] at h
  | b :: more =>
      by_cases hb : (b.toNat < lo || hi < b.toNat) = true
      · simp [decodeStep, hlead, hb] at h
      have hsecond := second_of_not hb
      rw [decodeStep_two hlead hsecond.1 hsecond.2, Prod.mk.injEq, Option.some.injEq] at h
      obtain ⟨rfl, rfl⟩ := h
      rw [encodeChar_two (a := a) (b := b) (by omega) (by omega) (by omega) (by omega)]
      rfl

theorem eq_of_decodeStep_three (hlead : leadOf a.toNat = some (2, lo, hi))
    (h : decodeStep a rest = (some ch, n)) : a :: rest = encodeChar ch ++ rest.drop n := by
  have hrange := eq_of_leadOf hlead
  match rest with
  | [] => simp [decodeStep, hlead] at h
  | [b] => by_cases hb : (b.toNat < lo || hi < b.toNat) = true <;> simp [decodeStep, hlead, hb] at h
  | b :: c :: more =>
      by_cases hb : (b.toNat < lo || hi < b.toNat) = true
      · simp [decodeStep, hlead, hb] at h
      by_cases hc : isContinuation c.toNat = true
      · have hsecond := second_of_not hb
        have hthird := isContinuation_iff.1 hc
        rw [decodeStep_three hlead hsecond.1 hsecond.2 hc, Prod.mk.injEq, Option.some.injEq] at h
        obtain ⟨rfl, rfl⟩ := h
        rw [encodeChar_three (a := a) (b := b) (c := c) (by omega) (by omega) (by omega) (by omega)
          (by omega) (by omega)]
        rfl
      · simp [decodeStep, hlead, hb, hc] at h

theorem eq_of_decodeStep_four (hlead : leadOf a.toNat = some (3, lo, hi))
    (h : decodeStep a rest = (some ch, n)) : a :: rest = encodeChar ch ++ rest.drop n := by
  have hrange := eq_of_leadOf hlead
  match rest with
  | [] => simp [decodeStep, hlead] at h
  | [b] => by_cases hb : (b.toNat < lo || hi < b.toNat) = true <;> simp [decodeStep, hlead, hb] at h
  | [b, c] =>
      by_cases hb : (b.toNat < lo || hi < b.toNat) = true <;>
        by_cases hc : isContinuation c.toNat = true <;> simp [decodeStep, hlead, hb, hc] at h
  | b :: c :: d :: more =>
      by_cases hb : (b.toNat < lo || hi < b.toNat) = true
      · simp [decodeStep, hlead, hb] at h
      by_cases hc : isContinuation c.toNat = true
      · by_cases hd : isContinuation d.toNat = true
        · have hsecond := second_of_not hb
          have hthird := isContinuation_iff.1 hc
          have hfourth := isContinuation_iff.1 hd
          rw [decodeStep_four hlead hsecond.1 hsecond.2 hc hd, Prod.mk.injEq,
            Option.some.injEq] at h
          obtain ⟨rfl, rfl⟩ := h
          rw [encodeChar_four (a := a) (b := b) (c := c) (d := d) (by omega) (by omega) (by omega)
            (by omega) (by omega) (by omega)]
          rfl
        · simp [decodeStep, hlead, hb, hc, hd] at h
      · simp [decodeStep, hlead, hb, hc] at h

/-- **A character was read from its own bytes.** -/
theorem eq_of_decodeStep (h : decodeStep a rest = (some ch, n)) :
    a :: rest = encodeChar ch ++ rest.drop n := by
  cases hlead : leadOf a.toNat with
  | none => simp [decodeStep, hlead] at h
  | some lead =>
      obtain ⟨extra, lo, hi⟩ := lead
      rcases eq_of_leadOf hlead with ⟨rfl, -⟩ | ⟨rfl, -⟩ | ⟨rfl, -⟩ | ⟨rfl, -⟩
      · exact eq_of_decodeStep_one hlead h
      · exact eq_of_decodeStep_two hlead h
      · exact eq_of_decodeStep_three hlead h
      · exact eq_of_decodeStep_four hlead h

end

/-- **Bytes that spell a text are the bytes of that text.** -/
theorem eq_encode_of_decode? {bytes : List UInt8} {cs : List Char} (h : decode? bytes = some cs) :
    bytes = encode cs := by
  induction cs generalizing bytes with
  | nil =>
      cases bytes with
      | nil => rfl
      | cons a rest =>
          rw [decode?] at h
          split at h
          · simp at h
          · cases h
  | cons ch cs ih =>
      cases bytes with
      | nil => simp [decode?] at h
      | cons a rest =>
          rw [decode?] at h
          split at h
          · rename_i first n hstep
            obtain ⟨more, hmore, heq⟩ := Option.map_eq_some_iff.1 h
            obtain ⟨rfl, rfl⟩ := List.cons.inj heq
            rw [eq_of_decodeStep hstep, ih hmore]
            rfl
          · cases h

theorem decode?_eq_some_iff {bytes : List UInt8} {cs : List Char} :
    decode? bytes = some cs ↔ bytes = encode cs := by
  constructor
  · exact eq_encode_of_decode?
  · rintro rfl
    exact decode?_encode cs

end Text
end RecordingHarvest
