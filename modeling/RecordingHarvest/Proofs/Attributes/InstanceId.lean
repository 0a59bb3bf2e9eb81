import RecordingHarvest.Attributes
import RecordingHarvest.Proofs.Text.Segments

/-!
# The service instance id

The resource attributes are segments with commas between them.  A segment is a name and a value with
an equals sign between them, or it is malformed (`Segment`).

* `findSome?_text`: what is read of a segment is what the segment says.
* `exists_written`: every text is written in segments.
* `instanceId_first_named`: the first segment that names the service instance decides, and without
  one the variable for the instance id.
-/

namespace RecordingHarvest
namespace Attributes

/-- A segment of the resource attributes. -/
inductive Segment where
  /-- A name and a value with an equals sign between them; more may follow in the value. -/
  | pair (name value : String) (hname : ',' ∉ name.toList ∧ '=' ∉ name.toList)
      (hvalue : ',' ∉ value.toList)
  /-- A malformed text, without an equals sign. -/
  | stray (text : String) (htext : '=' ∉ text.toList)

namespace Segment

/-- The segment as it is written. -/
def text : Segment → String
  | pair name value _ _ => name ++ "=" ++ value
  | stray text _ => text

/-- The segment's name, without the blanks around it, is that of the service instance. -/
def Names : Segment → Prop
  | pair name _ _ _ => Text.Trims name.toList serviceInstanceId.toList
  | stray _ _ => False

/-- The segment names the service instance, and its value, without the blanks around it, is `id`. -/
def Gives : Segment → String → Prop
  | pair name value _ _, id =>
    Text.Trims name.toList serviceInstanceId.toList ∧ Text.Trims value.toList id.toList
  | stray _ _, _ => False

instance : DecidablePred Names
  | pair name _ _ _ => inferInstanceAs (Decidable (Text.Trims name.toList _))
  | stray _ _ => inferInstanceAs (Decidable False)

/-- The id that a segment gives. -/
def id? : Segment → Option String
  | pair name value _ _ =>
    if Text.Trims name.toList serviceInstanceId.toList then some (Text.trimmed value) else none
  | stray _ _ => none

theorem id?_eq_some_iff {s : Segment} {id : String} : s.id? = some id ↔ s.Gives id := by
  cases s with
  | stray text htext => simp [id?, Gives]
  | pair name value hname hvalue => simp [id?, Gives, Text.trimmed_eq_iff]

theorem id?_eq_none_iff {s : Segment} : s.id? = none ↔ ¬s.Names := by
  cases s with
  | stray text htext => simp [id?, Names]
  | pair name value hname hvalue => simp [id?, Names]

/-- A segment that names the service instance gives an id. -/
theorem Names.gives {s : Segment} (h : s.Names) : ∃ id, s.Gives id := by
  cases hid : s.id? with
  | none => exact absurd h (id?_eq_none_iff.1 hid)
  | some id => exact ⟨id, id?_eq_some_iff.1 hid⟩

/-- **What is read of a segment is what it says**: a malformed one gives nothing, into however many
pieces its commas cut it. -/
theorem findSome?_text (s : Segment) :
    (Text.splitOnChar ',' s.text.toList).findSome? instanceIdOf? = s.id? := by
  cases s with
  | pair name value hname hvalue =>
      have htext : (pair name value hname hvalue).text.toList =
          name.toList ++ '=' :: value.toList := by
        simp [text]
      have hbare : ',' ∉ name.toList ++ '=' :: value.toList := by
        simp [hname.1, hvalue]
      have hnames : String.ofList (Text.trim name.toList) = serviceInstanceId ↔
          Text.Trims name.toList serviceInstanceId.toList := Text.trimmed_eq_iff
      rw [htext, Text.splitOnChar_of_not_mem hbare, List.findSome?_singleton, instanceIdOf?,
        Text.splitAtFirst_append hname.2]
      simp only [hnames]
      rfl
  | stray text htext =>
      rw [id?, List.findSome?_eq_none_iff]
      -- its own commas may cut it up, but no piece gets an equals sign by that
      intro piece hpiece
      have hsign : '=' ∉ piece := fun h => htext ((Text.mem_of_mem_splitOnChar hpiece).2 _ h)
      rw [instanceIdOf?, Text.splitAtFirst_of_not_mem hsign]

end Segment

/-- Segments with commas between them. -/
def written (segments : List Segment) : String := ",".intercalate (segments.map Segment.text)

theorem findSome?_written (segments : List Segment) :
    (Text.splitOnChar ',' (written segments).toList).findSome? instanceIdOf? =
      segments.findSome? Segment.id? := by
  induction segments with
  | nil => rfl
  | cons s rest ih =>
      cases rest with
      | nil => simp [written, s.findSome?_text]
      | cons next rest =>
          have hwritten : (written (s :: next :: rest)).toList =
              s.text.toList ++ ',' :: (written (next :: rest)).toList := by
            simp [written]
          rw [hwritten, Text.splitOnChar_append, List.findSome?_append, ih, s.findSome?_text]
          cases hid : s.id? <;> simp [hid]

theorem instanceId?_eq {env : String → Option String} {segments : List Segment}
    (h : env "OTEL_RESOURCE_ATTRIBUTES" = some (written segments)) :
    instanceId? env = (segments.findSome? Segment.id?).or (env "SERVICE_INSTANCE_ID") := by
  rw [instanceId?, h, Option.bind_some, findSome?_written]

/-- Segments that do not name the service instance make no difference. -/
theorem findSome?_filter (segments : List Segment) :
    (segments.filter Segment.Names).findSome? Segment.id? = segments.findSome? Segment.id? := by
  induction segments with
  | nil => rfl
  | cons s rest ih =>
      by_cases hs : s.Names
      · simp [hs, List.findSome?_cons, ih]
      · simp [hs, ih, Segment.id?_eq_none_iff.2 hs]

theorem Segment.exists_text {text : List Char} (h : ',' ∉ text) :
    ∃ s : Segment, s.text.toList = text := by
  by_cases hsign : '=' ∈ text
  · obtain ⟨name, value, rfl, hname⟩ := List.eq_append_cons_of_mem hsign
    simp only [List.mem_append, List.mem_cons, not_or] at h
    refine ⟨pair (String.ofList name) (String.ofList value) ?_ ?_, ?_⟩
    · simp [h.1, hname]
    · simp [h.2]
    · simp [Segment.text]
  · exact ⟨stray (String.ofList text) (by simpa using hsign), by simp [Segment.text]⟩

theorem exists_segments {texts : List (List Char)} (h : ∀ text ∈ texts, ',' ∉ text) :
    ∃ segments : List Segment, segments.map (·.text.toList) = texts := by
  induction texts with
  | nil => exact ⟨[], rfl⟩
  | cons text rest ih =>
      obtain ⟨s, rfl⟩ := Segment.exists_text (h text List.mem_cons_self)
      obtain ⟨segments, rfl⟩ := ih fun text htext => h text (List.mem_cons_of_mem _ htext)
      exact ⟨s :: segments, rfl⟩

/-- Every text is written in segments. -/
theorem exists_written (raw : String) : ∃ segments, written segments = raw := by
  obtain ⟨-, hbare, hraw⟩ :=
    Text.splitOnChar_eq_iff.1 (Eq.refl (Text.splitOnChar ',' raw.toList))
  obtain ⟨segments, hsegments⟩ := exists_segments hbare
  refine ⟨segments, ?_⟩
  rw [← String.toList_inj, written, String.toList_intercalate, List.map_map, ← hraw, ← hsegments]
  rfl

/-- **The first segment that names the service instance decides.**  Whatever segments the resource
attributes are written in:

* the id is the value of the first segment that names the service instance, without the blanks
  around it;
* if there is none, the id is what `SERVICE_INSTANCE_ID` holds, if that is set;
* all other segments, malformed ones and empty ones among them, make no difference wherever they
  stand. -/
theorem instanceId_first_named {env : String → Option String} {segments : List Segment}
    (h : env "OTEL_RESOURCE_ATTRIBUTES" = some (written segments)) :
    (∀ before s after, segments = before ++ s :: after → (∀ t ∈ before, ¬t.Names) → s.Names →
      ∃ id, s.Gives id ∧ instanceId? env = some id) ∧
    ((∀ s ∈ segments, ¬s.Names) → instanceId? env = env "SERVICE_INSTANCE_ID") ∧
    ∀ (env' : String → Option String) (segments' : List Segment),
      env' "OTEL_RESOURCE_ATTRIBUTES" = some (written segments') →
      env' "SERVICE_INSTANCE_ID" = env "SERVICE_INSTANCE_ID" →
      segments'.filter (·.Names) = segments.filter (·.Names) →
      instanceId? env' = instanceId? env := by
  have hread := instanceId?_eq h
  refine ⟨?_, ?_, ?_⟩
  · rintro before s after rfl hbefore hs
    obtain ⟨id, hid⟩ := hs.gives
    have hnone : before.findSome? Segment.id? = none :=
      List.findSome?_eq_none_iff.2 fun t ht => Segment.id?_eq_none_iff.2 (hbefore t ht)
    refine ⟨id, hid, ?_⟩
    rw [hread, List.findSome?_append, hnone, List.findSome?_cons, Segment.id?_eq_some_iff.2 hid]
    rfl
  · intro hnone
    have hfind : segments.findSome? Segment.id? = none :=
      List.findSome?_eq_none_iff.2 fun s hs => Segment.id?_eq_none_iff.2 (hnone s hs)
    rw [hread, hfind, Option.none_or]
  · intro env' segments' h' hfallback hsame
    rw [hread, instanceId?_eq h', hfallback, ← findSome?_filter segments', hsame, findSome?_filter]

/-- A malformed segment, an empty one and a foreign one before two that name the service instance. -/
def crowded : List Segment :=
  [.stray "junk" (by decide), .stray "" (by decide),
    .pair "service.name" "orders" (by decide) (by decide),
    .pair " service.instance.id " "\tpod=7 " (by decide) (by decide),
    .pair "service.instance.id" "late" (by decide) (by decide)]

/-- The first of two segments that name the service instance counts, behind three that do not. -/
theorem instanceId_first_named_crowded :
    ∃ env : String → Option String,
      env "OTEL_RESOURCE_ATTRIBUTES" = some (written crowded) ∧
      written crowded =
        "junk,,service.name=orders, service.instance.id =\tpod=7 ,service.instance.id=late" ∧
      env "SERVICE_INSTANCE_ID" = some "fallback" ∧ instanceId? env = some "pod=7" := by
  let env : String → Option String := fun name =>
    if name = "OTEL_RESOURCE_ATTRIBUTES" then some (written crowded) else some "fallback"
  have henv : env "OTEL_RESOURCE_ATTRIBUTES" = some (written crowded) := if_pos rfl
  obtain ⟨id, hgives, hid⟩ := (instanceId_first_named henv).1 (crowded.take 3) _ _ rfl
    (by decide) (by decide)
  have hpod : id = "pod=7" :=
    Option.some.inj ((Segment.id?_eq_some_iff.2 hgives).symm.trans (by decide))
  exact ⟨env, henv, by decide, if_neg (by decide), by rw [hid, hpod]⟩

end Attributes
end RecordingHarvest
