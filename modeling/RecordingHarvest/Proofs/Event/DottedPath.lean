import RecordingHarvest.Proofs.Event.Needs
import RecordingHarvest.Proofs.Text.Segments

/-!
# Dotted paths

A dotted path spells keys (`Spells`), and the payload value at it is the one that the keys lead to
from one object into the next (`Leads`).  Where the keys of a path end, those of another path behind
a further dot go on.

* `field?_eq_some_iff`: the value at a path.
* `field?_append`: a path and another one below it.
* `field_composes`: both together, and what a capability reads there.
-/

namespace RecordingHarvest
namespace Event

variable {e : Event} {keys : List String} {path p q : String} {value v : Json}

/-! ## Keys -/

/-- The path is the keys with dots between them: one key or more, maybe empty, without dots. -/
structure Spells (path : String) (keys : List String) : Prop where
  nonempty : keys ≠ []
  undotted : ∀ key ∈ keys, '.' ∉ key.toList
  joined : ".".intercalate keys = path

theorem pathKeys_eq_iff : pathKeys path = keys ↔ Spells path keys := by
  -- a path is split as a list of characters, and its keys are texts again
  have hkeys : pathKeys path = keys ↔
      Text.splitOnChar '.' path.toList = keys.map String.toList := by
    rw [pathKeys]
    constructor
    · rintro rfl
      simp [Function.comp_def]
    · intro h
      simp [h, Function.comp_def]
  have hjoined : ['.'].intercalate (keys.map String.toList) = path.toList ↔
      ".".intercalate keys = path := by
    rw [← String.toList_inj, String.toList_intercalate]
    rfl
  rw [hkeys, Text.splitOnChar_eq_iff, hjoined]
  simp only [ne_eq, List.map_eq_nil_iff, List.forall_mem_map]
  constructor
  · rintro ⟨hne, hbare, h⟩
    exact ⟨hne, hbare, h⟩
  · intro h
    exact ⟨h.nonempty, h.undotted, h.joined⟩

theorem pathKeys_append (p q : String) : pathKeys (p ++ "." ++ q) = pathKeys p ++ pathKeys q := by
  have hlist : (p ++ "." ++ q).toList = p.toList ++ '.' :: q.toList := by simp
  rw [pathKeys, hlist, Text.splitOnChar_append, List.map_append]
  rfl

/-! ## Steps -/

/-- Keys lead from a value to another one, each from an object to its member. -/
inductive Leads : Json → List String → Json → Prop where
  | stay (value : Json) : Leads value [] value
  | enter {members : Members Json} {key : String} {inner value : Json} {keys : List String}
      (member : members.get? key = some inner) (rest : Leads inner keys value) :
      Leads (.obj members) (key :: keys) value

theorem walk_eq_some_iff : walk v keys = some value ↔ Leads v keys value := by
  induction keys generalizing v with
  | nil =>
      constructor
      · rintro ⟨⟩
        exact .stay _
      · rintro ⟨⟩
        rfl
  | cons key keys ih =>
      constructor
      · intro h
        cases v with
        | obj members =>
            rw [walk] at h
            cases hmember : Json.member? (.obj members) key with
            | none => simp [hmember] at h
            | some inner =>
                rw [hmember] at h
                exact .enter hmember (ih.1 h)
        | _ => simp [walk, Json.member?] at h
      · rintro (_ | ⟨hmember, hrest⟩)
        rw [walk, Json.member?, hmember]
        exact ih.2 hrest

theorem walk_append (value : Json) (keys more : List String) :
    walk value (keys ++ more) = (walk value keys).bind (walk · more) := by
  induction keys generalizing value with
  | nil => rfl
  | cons key keys ih =>
      rw [List.cons_append, walk, walk]
      cases value.member? key with
      | none => rfl
      | some inner => exact ih inner

/-- One key or more lead on from objects only. -/
theorem Leads.exists_members (h : Leads v keys value) (hne : keys ≠ []) :
    ∃ members, v = .obj members := by
  cases h with
  | stay => exact absurd rfl hne
  | enter => exact ⟨_, rfl⟩

/-! ## Paths -/

/-- **The value at a path** is what its keys lead to from the payload. -/
theorem field?_eq_some_iff :
    e.field? path = some v ↔ ∃ keys, Spells path keys ∧ Leads (.obj e.fields) keys v := by
  rw [field?, walk_eq_some_iff]
  constructor
  · intro h
    exact ⟨_, pathKeys_eq_iff.1 rfl, h⟩
  · rintro ⟨keys, hkeys, h⟩
    rwa [pathKeys_eq_iff.2 hkeys]

/-- The keys of `q` lead to a value from the object at `p`. -/
def ReachesBelow (e : Event) (p q : String) (v : Json) : Prop :=
  ∃ members keys, e.field? p = some (.obj members) ∧ Spells q keys ∧ Leads (.obj members) keys v

theorem field?_append :
    e.field? (p ++ "." ++ q) = some v ↔ e.ReachesBelow p q v := by
  rw [field?, pathKeys_append, walk_append, Option.bind_eq_some_iff]
  constructor
  · rintro ⟨inner, hinner, h⟩
    have hkeys : Spells q (pathKeys q) := pathKeys_eq_iff.1 rfl
    rw [walk_eq_some_iff] at h
    -- even an empty `q` spells a key, so what stands at `p` is an object
    obtain ⟨members, rfl⟩ := h.exists_members hkeys.nonempty
    exact ⟨members, _, hinner, hkeys, h⟩
  · rintro ⟨members, keys, hinner, hkeys, h⟩
    refine ⟨.obj members, hinner, ?_⟩
    rwa [pathKeys_eq_iff.2 hkeys, walk_eq_some_iff]

/-- There is nothing below a path where the further keys lead nowhere. -/
theorem field?_eq_none_iff :
    e.field? (p ++ "." ++ q) = none ↔ ∀ v, ¬e.ReachesBelow p q v := by
  rw [Option.eq_none_iff_forall_ne_some]
  exact forall_congr' fun v => not_congr field?_append

/-- **Looking up a dotted path composes**, whatever the two paths are:

* the value at `p.q` is what the keys of `q` lead to from the object at `p`, one object after the
  other, and there is none if the keys lead nowhere;
* where `p` does not end at an object there is nothing below it;
* the value at `p` is in its turn what the keys of `p` lead to from the payload;
* and what a capability reads at `p.q` is read of that value, or it is told that the field is
  missing. -/
theorem field_composes (e : Event) (p q : String) :
    (∀ v, e.field? (p ++ "." ++ q) = some v ↔ e.ReachesBelow p q v) ∧
    ((∀ members, e.field? p ≠ some (.obj members)) → e.field? (p ++ "." ++ q) = none) ∧
    (∀ v, e.field? p = some v ↔ ∃ keys, Spells p keys ∧ Leads (.obj e.fields) keys v) ∧
    ∀ (α : Type) (kind : String) (as? : Json → Option α),
      (∀ a, e.read (p ++ "." ++ q) kind as? = .ok a ↔
        ∃ v, e.ReachesBelow p q v ∧ as? v = some a) ∧
      ((∀ v, ¬e.ReachesBelow p q v) → e.read (p ++ "." ++ q) kind as? =
        .error (.conversionFailed (e.eventType ++ " has no field " ++ (p ++ "." ++ q)))) := by
  refine ⟨fun _ => field?_append, fun h => ?_, fun _ => field?_eq_some_iff, fun α kind as? => ?_⟩
  · rw [field?_eq_none_iff]
    rintro v ⟨members, keys, hmembers, -⟩
    exact h members hmembers
  · refine ⟨fun a => ?_, fun h => ?_⟩
    · simp only [read_eq_ok_iff, Option.bind_eq_some_iff, field?_append]
    · rw [read, field?_eq_none_iff.2 h]

/-- A key may be empty, and a value that is no object has nothing below it. -/
example :
    let e := (new "heap" ⟨0, 0⟩).withField "space" (.obj [("", .obj [("used", .int 7)])])
    e.field? "space..used" = some (.int 7) ∧ e.field? "space..used." = none := ⟨rfl, rfl⟩

end Event
end RecordingHarvest
