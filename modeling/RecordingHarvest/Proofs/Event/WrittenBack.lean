import RecordingHarvest.Proofs.Json.Evaluation
import RecordingHarvest.Proofs.Text.Utf8
import RecordingHarvest.Proofs.Time.Reading
import RecordingHarvest.SnapshotLines

/-!
# Events written and read back

What a snapshot's reader can give has a representable start, a duration of 64 bits and fields that
evaluation can give (`Event.Decoded`).  The document of such an event, written on a line of its own,
is read as that event.

* `Event.decoded_of_ofChars?`: the reader gives nothing else.
* `Event.ofChars?_write`: a document comes back.
* `SnapshotLines.split_lines`, `SnapshotLines.readEvents_written`: and so do all lines of a content.
-/

namespace RecordingHarvest

open Json (floatless Form)

namespace Event

/-! ## What the reader gives -/

/-- The levels that a value inside a document may nest. -/
def innerDepth : Nat := Form.depthLimit - 1

/-- An event as the reader gives it. -/
structure Decoded (e : Event) : Prop where
  start : e.start.Valid
  duration : ∀ n, e.durationNanos = some n → n < Number.width64
  fields : floatless (.obj e.fields) = true → Json.Readable innerDepth (.obj e.fields)

theorem nat64?_lt {j : Json} {n : Nat} (h : j.nat64? = some n) : n < Number.width64 := by
  cases j with
  | int m =>
      simp only [Json.nat64?] at h
      split at h
      · cases h
        omega
      · cases h
  | _ => cases h

theorem durationOf?_lt {j : Json} {n : Nat} (h : durationOf? j = some (some n)) :
    n < Number.width64 := by
  rw [durationOf?.eq_def] at h
  split at h
  · cases h
  · obtain ⟨m, hm, hn⟩ := Option.map_eq_some_iff.1 h
    obtain rfl := Option.some.inj hn
    exact nat64?_lt hm

theorem eq_obj_of_members? {v : Json} {members : Members Json} (h : v.members? = some members) :
    v = .obj members := by
  cases v with
  | obj ms =>
      obtain rfl : ms = members := Option.some.inj h
      rfl
  | _ => cases h

/-- Parts that evaluation gave make an event that the reader gives. -/
theorem decoded_of_ofParts? {ty description start duration fields : Option Json} {e : Event}
    (hfields : ∀ v, fields = some v → ∃ form : Form, form.value? innerDepth = some v)
    (h : ofParts? ty description start duration fields = some e) : e.Decoded := by
  simp only [ofParts?, Option.bind_eq_bind, Option.bind_eq_some_iff] at h
  obtain ⟨ty', -, description', -, start', ⟨text, -, hstart⟩, duration', hduration, members,
    hmembers, he⟩ := h
  cases he
  refine ⟨Instant.valid_of_ofText? hstart, ?_, ?_⟩
  · rintro n rfl
    cases duration with
    | none => cases hduration
    | some j => exact durationOf?_lt hduration
  · intro hfloat
    cases fields with
    | none =>
        obtain rfl : [] = members := Option.some.inj hmembers
        exact ⟨Members.sorted_nil, fun m hm => absurd hm List.not_mem_nil⟩
    | some v =>
        obtain rfl := eq_obj_of_members? hmembers
        obtain ⟨form, hform⟩ := hfields _ rfl
        exact Json.readable_of_value? hform hfloat

/-- The known members of a record were evaluated. -/
theorem exists_of_mem_knownMembers {depth : Nat} {ms : List (List Char × Form)}
    {known : Members Json} (h : knownMembers depth ms = some known) {m : String × Json}
    (hm : m ∈ known) : ∃ form : Form, form.value? depth = some m.2 := by
  induction ms generalizing known with
  | nil =>
      cases h
      exact absurd hm List.not_mem_nil
  | cons entry rest ih =>
      obtain ⟨key, form⟩ := entry
      simp only [knownMembers, Option.bind_eq_bind, Option.bind_eq_some_iff] at h
      obtain ⟨k, -, h⟩ := h
      split at h
      · simp only [Option.bind_eq_some_iff] at h
        obtain ⟨v, hv, more, hmore, hknown⟩ := h
        cases hknown
        rcases List.mem_cons.1 hm with rfl | hm
        · exact ⟨form, hv⟩
        · exact ih hmore hm
      · exact ih h hm

theorem decoded_of_ofForm? {form : Form} {e : Event} (h : ofForm? form = some e) : e.Decoded := by
  cases form with
  | record ms =>
      simp only [ofForm?, Option.bind_eq_bind, Option.bind_eq_some_iff] at h
      obtain ⟨known, hknown, h⟩ := h
      split at h
      · refine decoded_of_ofParts? ?_ h
        intro v hv
        exact exists_of_mem_knownMembers hknown (Members.mem_of_get? hv)
      · cases h
  | list xs =>
      obtain ⟨vs, hvs, h⟩ := Option.bind_eq_some_iff.1 h
      rw [ofValues?.eq_def] at h
      split at h
      · refine decoded_of_ofParts? (fun v hv => ?_) h
        cases hv
      · refine decoded_of_ofParts? (fun v hv => ?_) h
        cases hv
      · refine decoded_of_ofParts? ?_ h
        intro v hv
        obtain ⟨form, -, hform⟩ := Json.exists_of_mem_mapM hvs (y := v) (by simp_all)
        exact ⟨form, hform⟩
      · cases h
  | _ => cases h

theorem decoded_of_ofChars? {cs : List Char} {e : Event} (h : ofChars? cs = some e) :
    e.Decoded := by
  obtain ⟨form, -, hform⟩ := Option.bind_eq_some_iff.1 h
  exact decoded_of_ofForm? hform

/-! ## Documents come back -/

/-- What is written for a text that may be missing. -/
def textJson : Option String → Json
  | none => .null
  | some s => .str s

/-- What is written for a number that may be missing. -/
def numberJson : Option Nat → Json
  | none => .null
  | some n => .int n

/-- The members of an event's document. -/
def members (e : Event) : Members Json :=
  [("type", .str e.eventType), ("description", textJson e.description),
    ("start_time", .str e.start.text), ("duration_ns", numberJson e.durationNanos),
    ("fields", .obj e.fields)]

theorem toJson_eq (e : Event) : e.toJson = .obj e.members := by
  obtain ⟨ty, description, start, duration, fields⟩ := e
  cases description <;> cases duration <;> rfl

theorem floatless_toJson {e : Event} (h : floatless (.obj e.fields) = true) :
    floatless e.toJson = true := by
  rw [toJson_eq]
  refine Json.floatless_obj.2 ?_
  intro m hm
  simp only [members, List.mem_cons, List.not_mem_nil, or_false] at hm
  rcases hm with rfl | rfl | rfl | rfl | rfl
  · rfl
  · cases e.description <;> rfl
  · rfl
  · cases e.durationNanos <;> rfl
  · exact h

/-- Known members with readable values are found in the record of their forms. -/
theorem knownMembers_memberForms {depth : Nat} {ms : Members Json}
    (h : ∀ m ∈ ms, keys.contains m.1 = true ∧ Json.Readable depth m.2) :
    knownMembers depth (Json.memberForms ms) = some ms := by
  induction ms with
  | nil => rfl
  | cons m rest ih =>
      obtain ⟨key, x⟩ := m
      obtain ⟨hknown, hreadable⟩ := h (key, x) List.mem_cons_self
      have hrest := ih fun n hn => h n (List.mem_cons_of_mem _ hn)
      simp only [Json.memberForms, knownMembers, Json.unescape_body, Option.bind_eq_bind,
        Option.bind_some, String.ofList_toList, hknown, ↓reduceIte, Json.value?_formOf hreadable,
        hrest]
      rfl

theorem readable_members {e : Event} (h : e.Decoded) (hfloat : floatless (.obj e.fields) = true) :
    ∀ m ∈ e.members, keys.contains m.1 = true ∧ Json.Readable innerDepth m.2 := by
  intro m hm
  have hkeys : ∀ k ∈ keys, keys.contains k = true := by decide
  refine ⟨hkeys _ (List.mem_map_of_mem (f := Prod.fst) hm), ?_⟩
  simp only [members, List.mem_cons, List.not_mem_nil, or_false] at hm
  rcases hm with rfl | rfl | rfl | rfl | rfl
  · trivial
  · cases e.description <;> trivial
  · trivial
  · cases hduration : e.durationNanos with
    | none => trivial
    | some n =>
        have hlt := h.duration n hduration
        show Json.Numeral.Fits n
        constructor <;> omega
  · exact h.fields hfloat

/-- The parts of a document make the event again. -/
theorem ofMembers?_members {e : Event} (h : e.Decoded) : ofMembers? e.members = some e := by
  have hstart : Instant.ofText? e.start.text = some e.start := Instant.ofText?_text h.start
  have hdescription : descriptionOf? (textJson e.description) = some e.description := by
    cases e.description <;> rfl
  have hduration : durationOf? (numberJson e.durationNanos) = some e.durationNanos := by
    cases hn : e.durationNanos with
    | none => rfl
    | some n =>
        have hlt := h.duration n hn
        simp [numberJson, durationOf?, Json.nat64?]
        omega
  simp [ofMembers?, members, Members.get?, ofParts?, Json.str?, Json.members?, hdescription, hstart,
    hduration]

/-- **An event comes back from its document.** -/
theorem ofChars?_write {e : Event} (h : e.Decoded) (hfloat : floatless (.obj e.fields) = true) :
    ofChars? e.toJson.write = some e := by
  have hform : Form.ofChars? e.toJson.write = some (.record (Json.memberForms e.members)) := by
    rw [Json.ofChars?_write (floatless_toJson hfloat), toJson_eq]
    rfl
  have hknown : knownMembers (Form.depthLimit - 1) (Json.memberForms e.members) = some e.members :=
    knownMembers_memberForms (readable_members h hfloat)
  have honce : keys.all (fun k => keys.count k ≤ 1) = true := by decide
  have hkeys : e.members.map Prod.fst = keys := rfl
  rw [ofChars?, hform, Option.bind_some, ofForm?, hknown]
  simp only [Option.bind_eq_bind, Option.bind_some, hkeys, honce, ↓reduceIte]
  exact ofMembers?_members h

end Event

namespace SnapshotLines

/-! ## Lines come back -/

/-- A line and what follows it. -/
theorem split_line {line : List UInt8} (h : 10 ∉ line) (rest : List UInt8) :
    split (line ++ 10 :: rest) = line :: split rest := by
  induction line with
  | nil => rfl
  | cons b line ih =>
      rw [List.mem_cons, not_or] at h
      rw [List.cons_append, split, if_neg (Ne.symm h.1), ih h.2]

/-- The line of an event. -/
def line (e : Event) : List UInt8 := Text.encode e.toJson.write

/-- The content with each event's document on a line of its own. -/
def written (events : List Event) : List UInt8 := events.flatMap fun e => line e ++ [10]

/-- An event takes one line: what would break it is written escaped. -/
theorem lineFeed_not_mem_line {e : Event} (hfloat : floatless (.obj e.fields) = true) :
    10 ∉ line e :=
  Text.lineFeed_not_mem_encode (Json.lineFeed_not_mem_write (Event.floatless_toJson hfloat))

theorem split_written {events : List Event}
    (h : ∀ e ∈ events, floatless (.obj e.fields) = true) :
    split (written events) = events.map line := by
  induction events with
  | nil => rfl
  | cons e events ih =>
      have hrest : split (written events) = events.map line :=
        ih fun d hd => h d (List.mem_cons_of_mem e hd)
      have hcons : written (e :: events) = line e ++ 10 :: written events := by
        rw [written, List.flatMap_cons, List.append_assoc, List.singleton_append]
        rfl
      rw [hcons, split_line (lineFeed_not_mem_line (h e List.mem_cons_self)), hrest, List.map_cons]

/-- The line of an event yields the event, whatever its number. -/
theorem readLine_line (number : Nat) {e : Event} (h : e.Decoded)
    (hfloat : floatless (.obj e.fields) = true) : readLine number (line e) = some (.ok e) := by
  have hblank : Text.allBlank e.toJson.write = false := by
    rw [Event.toJson_eq, Json.write, List.cons_append]
    rfl
  simp [readLine, line, Text.decode?_encode, hblank, Event.ofChars?_write h hfloat]

theorem readLines_lines (first : Nat) {events : List Event}
    (h : ∀ e ∈ events, e.Decoded ∧ floatless (.obj e.fields) = true) :
    readLines first (events.map line) = events.map .ok := by
  induction events generalizing first with
  | nil => rfl
  | cons e events ih =>
      obtain ⟨hdecoded, hfloat⟩ := h e List.mem_cons_self
      rw [List.map_cons, List.map_cons, readLines, readLine_line first hdecoded hfloat,
        ih (first + 1) fun d hd => h d (List.mem_cons_of_mem e hd)]
      rfl

/-- Whatever is read without a fault is an event as the reader gives it. -/
theorem decoded_of_mem_readLines {first : Nat} {lines : List (List UInt8)} {e : Event}
    (h : .ok e ∈ readLines first lines) : e.Decoded := by
  induction lines generalizing first with
  | nil => exact absurd h List.not_mem_nil
  | cons line lines ih =>
      rw [readLines, List.mem_append, Option.mem_toList] at h
      rcases h with h | h
      · simp only [readLine] at h
        split at h
        · cases h
        · split at h
          · cases h
          · split at h
            · rename_i hread
              cases h
              exact Event.decoded_of_ofChars? hread
            · cases h
      · exact ih h

/-- **Events survive being written and read back.**  Events that were read from any content and hold
no floating-point numbers, each written on a line of its own, are read back as they are, in their
order and without a fault. -/
theorem readEvents_written {events : List Event}
    (hread : ∀ e ∈ events, ∃ content, .ok e ∈ readEvents content)
    (hfloat : ∀ e ∈ events, floatless (.obj e.fields) = true) :
    readEvents (written events) = events.map .ok := by
  rw [readEvents, split_written hfloat]
  refine readLines_lines 1 fun e he => ⟨?_, hfloat e he⟩
  obtain ⟨content, hcontent⟩ := hread e he
  exact decoded_of_mem_readLines hcontent

/-- A line with an event in a leap second of the year before the first one. -/
def leapLine : List UInt8 :=
  Text.bytesOf ("\x7b\"type\":\"a\\n\",\"start_time\":\"-0001-06-30T23:59:60.5Z\"," ++
    "\"fields\":\x7b\"n\":[-5,\x7b\x7d]\x7d\x7d")

/-- It comes back, and twice if written twice. -/
theorem readEvents_written_leapLine : ∃ e, .ok e ∈ readEvents leapLine ∧
    e.start.nanos = 1500000000 ∧ e.start.secs < 0 ∧ e.eventType = "a\n" ∧
      readEvents (written [e, e]) = [.ok e, .ok e] := by
  have hany : (readEvents leapLine).any (fun r => match r with
      | .ok e => floatless (.obj e.fields) && (decide (e.start.nanos = 1500000000) &&
          decide (e.start.secs < 0) && e.eventType == "a\n")
      | .error _ => false) = true := by decide +kernel
  obtain ⟨r, hr, hmatch⟩ := List.any_eq_true.1 hany
  cases r with
  | error f => exact absurd hmatch Bool.false_ne_true
  | ok e =>
      simp only [Bool.and_eq_true, decide_eq_true_eq, beq_iff_eq] at hmatch
      obtain ⟨hfloat, ⟨hnanos, hsecs⟩, htype⟩ := hmatch
      have hboth : ∀ d ∈ [e, e], d = e := by simp
      refine ⟨e, hr, hnanos, hsecs, htype, readEvents_written ?_ ?_⟩
      · exact fun d hd => ⟨leapLine, hboth d hd ▸ hr⟩
      · exact fun d hd => hboth d hd ▸ hfloat

end SnapshotLines
end RecordingHarvest
