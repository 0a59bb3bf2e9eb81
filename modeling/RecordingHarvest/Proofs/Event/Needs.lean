import RecordingHarvest.Event

/-!
# What is needed of an event

A capability reads payload values by path, each as one kind of value (`Need`), and stops at the first
that is missing or of another kind.  `Event.Reads` says so of a reading: it ends with the fault about
the first need that the event does not meet, and with a result only if it meets them all.

* `reads_double`, `reads_integer`, `reads_string`, `reads_boolean`: one value.
* `Reads.bind`, `reads_mapM`: one reading after another.
-/

namespace RecordingHarvest

/-- The kinds of values that capabilities read. -/
inductive Kind where
  /-- Any number. -/
  | number
  /-- A whole number of 64 signed bits. -/
  | integer
  | text
  | truth
  deriving DecidableEq, Repr

namespace Kind

/-- A value is of a kind. -/
def fits : Kind → Json → Bool
  | number, value => value.double?.isSome
  | integer, value => value.int64?.isSome
  | text, value => value.str?.isSome
  | truth, value => value.bool?.isSome

/-- What a fault says that a value is not. -/
def name : Kind → String
  | number => "a number"
  | integer => "an integer"
  | text => "a string"
  | truth => "a boolean"

end Kind

/-- A payload value that is needed, by its path and its kind. -/
structure Need where
  path : String
  kind : Kind
  deriving DecidableEq, Repr

namespace Event

variable {α β : Type} {e : Event}

/-- An event has a value of the kind that is needed at the path. -/
def meets (e : Event) (n : Need) : Bool := (e.field? n.path).any n.kind.fits

/-- The fault about a need that an event does not meet: the value is missing, or of another kind. -/
def faultAbout (e : Event) (n : Need) : Fault :=
  .conversionFailed (match e.field? n.path with
    | none => e.eventType ++ " has no field " ++ n.path
    | some _ => e.eventType ++ "." ++ n.path ++ " is not " ++ n.kind.name)

/-- The first of some needs that an event does not meet. -/
def unmet? (e : Event) (needs : List Need) : Option Need := needs.find? fun n => !e.meets n

/-- **A reading is all or nothing**: it ends with the fault about the first of some needs that the
event does not meet, and has a result if it meets them all. -/
def Reads (e : Event) (needs : List Need) (reading : Except Fault α) : Prop :=
  match e.unmet? needs with
  | some n => reading = .error (e.faultAbout n)
  | none => ∃ a, reading = .ok a

/-! ## One value -/

/-- A payload value read as a certain kind is what stands at the path, if it is of that kind. -/
theorem toOption_read (e : Event) (path kind : String) (as? : Json → Option α) :
    (e.read path kind as?).toOption = (e.field? path).bind as? := by
  unfold Event.read
  cases e.field? path with
  | none => rfl
  | some value =>
      dsimp only [Option.bind_some]
      cases as? value <;> rfl

theorem read_eq_ok_iff {path kind : String} {as? : Json → Option α} {a : α} :
    e.read path kind as? = .ok a ↔ (e.field? path).bind as? = some a := by
  rw [← toOption_read e path kind]
  cases e.read path kind as? <;> simp [Except.toOption]

theorem exists_of_meets {path : String} {kind : Kind} {as? : Json → Option α}
    (has : ∀ value, kind.fits value = (as? value).isSome) (h : e.meets ⟨path, kind⟩ = true) :
    ∃ a, (e.field? path).bind as? = some a := by
  rw [meets] at h
  cases hfield : e.field? path with
  | none => simp [hfield] at h
  | some value => exact Option.isSome_iff_exists.1 (by simpa [hfield, has] using h)

theorem exists_double {path : String} (h : e.meets ⟨path, .number⟩ = true) :
    ∃ x, (e.field? path).bind Json.double? = some x := exists_of_meets (fun _ => rfl) h

theorem exists_integer {path : String} (h : e.meets ⟨path, .integer⟩ = true) :
    ∃ n, (e.field? path).bind Json.int64? = some n := exists_of_meets (fun _ => rfl) h

theorem exists_string {path : String} (h : e.meets ⟨path, .text⟩ = true) :
    ∃ s, (e.field? path).bind Json.str? = some s := exists_of_meets (fun _ => rfl) h

theorem exists_boolean {path : String} (h : e.meets ⟨path, .truth⟩ = true) :
    ∃ b, (e.field? path).bind Json.bool? = some b := exists_of_meets (fun _ => rfl) h

theorem reads_read (path : String) {kind : Kind} {as? : Json → Option α}
    (has : ∀ value, kind.fits value = (as? value).isSome) :
    e.Reads [⟨path, kind⟩] (e.read path kind.name as?) := by
  rw [Reads, unmet?, read, List.find?_cons, meets]
  cases hfield : e.field? path with
  | none => simp [faultAbout, hfield]
  | some value =>
      rw [Option.any_some, has]
      cases hvalue : as? value with
      | none => simp [faultAbout, hfield, hvalue]
      | some a => simp [hvalue]

theorem reads_double (e : Event) (path : String) : e.Reads [⟨path, .number⟩] (e.double path) :=
  reads_read path fun _ => rfl

theorem reads_integer (e : Event) (path : String) : e.Reads [⟨path, .integer⟩] (e.integer path) :=
  reads_read path fun _ => rfl

theorem reads_string (e : Event) (path : String) : e.Reads [⟨path, .text⟩] (e.string path) :=
  reads_read path fun _ => rfl

theorem reads_boolean (e : Event) (path : String) : e.Reads [⟨path, .truth⟩] (e.boolean path) :=
  reads_read path fun _ => rfl

/-! ## One reading after another -/

theorem reads_ok (e : Event) (a : α) : e.Reads [] (.ok a) := ⟨a, rfl⟩

theorem unmet?_append (e : Event) (needs more : List Need) :
    e.unmet? (needs ++ more) = (e.unmet? needs).or (e.unmet? more) := List.find?_append

theorem Reads.bind {needs more : List Need} {x : Except Fault α} {f : α → Except Fault β}
    (hx : e.Reads needs x) (hf : ∀ a, e.Reads more (f a)) : e.Reads (needs ++ more) (x >>= f) := by
  rw [Reads] at hx ⊢
  rw [unmet?_append]
  cases hunmet : e.unmet? needs with
  | some n =>
      rw [hunmet] at hx
      rw [hx]
      rfl
  | none =>
      rw [hunmet] at hx
      obtain ⟨a, rfl⟩ := hx
      exact hf a

theorem Reads.map {needs : List Need} {x : Except Fault α} (hx : e.Reads needs x) (f : α → β) :
    e.Reads needs (x.map f) := by
  have hbind := hx.bind fun a => reads_ok e (f a)
  rw [List.append_nil] at hbind
  cases x <;> exact hbind

/-- Values are read one after another. -/
theorem reads_mapM {γ : Type} {need : γ → Need} {f : γ → Except Fault β}
    (hf : ∀ c, e.Reads [need c] (f c)) (cs : List γ) : e.Reads (cs.map need) (cs.mapM f) := by
  induction cs with
  | nil => exact reads_ok e []
  | cons c rest ih =>
      rw [List.mapM_cons, List.map_cons]
      exact (hf c).bind fun b => by
        have hrest := ih.bind fun bs => reads_ok e (b :: bs)
        rwa [List.append_nil] at hrest

/-- There is a result exactly if the event meets every need. -/
theorem Reads.exists_iff {needs : List Need} {x : Except Fault α} (hx : e.Reads needs x) :
    (∃ a, x = .ok a) ↔ ∀ n ∈ needs, e.meets n = true := by
  rw [Reads] at hx
  cases hunmet : e.unmet? needs with
  | some n =>
      rw [hunmet] at hx
      have hlacks := List.find?_some hunmet
      rw [Bool.not_eq_true'] at hlacks
      refine iff_of_false ?_ ?_
      · rintro ⟨a, ha⟩
        exact nomatch hx.symm.trans ha
      · intro hall
        exact Bool.false_ne_true (hlacks.symm.trans (hall n (List.mem_of_find?_eq_some hunmet)))
  | none =>
      rw [hunmet] at hx
      refine iff_of_true hx fun n hn => ?_
      have hmet := List.find?_eq_none.1 hunmet n hn
      simpa using hmet

end Event
end RecordingHarvest
