import Mathlib.Data.List.Nodup
import RecordingHarvest.Proofs.Settings.Overlay
import RecordingHarvest.Settings.Load

/-!
# The layers of the settings

Every field has one variable, `HARVEST__SECTION__KEY` in any case.  Settings that are loaded say of
a field what its variable says, else what the file says, else the default, and so no field depends
on what is said of another one.  There is one exception, which `Part.givesWay` names: a section that
the file gives as a list of values is lost as a whole when a variable sets anything in it.

* `get?_variableLayer`: the layer of the environment says of a field what its variable says.
* `ofEntries?_merged`: what it means that the layers together are read into settings.
* `load_eq_ok`: what it means that settings are loaded.
* `load_layers`: the values of loaded settings, what they depend on, and when loading fails.
-/

namespace RecordingHarvest
namespace Settings

open Setting (Path)

/-! ## Variables -/

/-- The name of a field's variable, in lower case. -/
def Part.variableName (p : Part) (f : Field p.State) : String :=
  "harvest__" ++ p.name ++ "__" ++ f.key

/-- The text of a field's variable, in whatever case its name is. -/
def Part.text? (p : Part) (f : Field p.State) (env : List (String × String)) : Option String :=
  (env.find? fun x => Text.lower x.1 == p.variableName f).map (·.2)

/-- Variables with different names, the case aside, each of which is a field's, sets nothing that is
read, or is none of the program's. -/
structure Known (env : List (String × String)) : Prop where
  distinct : (env.map fun x => Text.lower x.1).Nodup
  plain : ∀ x ∈ env, ∀ path, variablePath? x.1 = some path →
    (∃ p ∈ parts, ∃ f ∈ p.fields, Text.lower x.1 = p.variableName f) ∨ Idle path

/-- Whether a variable sets anything in a section. -/
def Part.touched (p : Part) (env : List (String × String)) : Bool :=
  env.any fun x => (variablePath? x.1).any p.begins

theorem dotted_append_pair {cs : List Char} (h : '_' ∉ cs) (rest : List Char) :
    dotted (cs ++ '_' :: '_' :: rest) = cs ++ '.' :: dotted rest := by
  induction cs with
  | nil => rfl
  | cons c cs ih =>
      have hc : c ≠ '_' := fun heq => h (heq ▸ List.mem_cons_self)
      rw [List.cons_append, dotted, ih fun hcs => h (List.mem_cons_of_mem c hcs)]
      · rfl
      · rintro _ rfl -
        exact hc rfl

/-- A section's name has no underscore, and a field's no two in a row. -/
theorem dotted_names : ∀ p ∈ parts, '_' ∉ p.name.toList ∧
    ∀ f ∈ p.fields, dotted f.key.toList = f.key.toList := by
  have hall : (parts.all fun p => !p.name.toList.contains '_' &&
      p.fields.all fun f => dotted f.key.toList == f.key.toList) = true := by decide +kernel
  intro p hp
  obtain ⟨hname, hkeys⟩ := Bool.and_eq_true_iff.1 (List.all_eq_true.1 hall p hp)
  exact ⟨by simpa using hname, fun f hf => beq_iff_eq.1 (List.all_eq_true.1 hkeys f hf)⟩

/-- **A field's variable sets the field's path.** -/
theorem variablePath?_of_lower {p : Part} (hp : p ∈ parts) {f : Field p.State} (hf : f ∈ p.fields)
    {name : String} (hname : Text.lower name = p.variableName f) :
    variablePath? name = some (p.path f) := by
  obtain ⟨hplain, hkeys⟩ := dotted_names p hp
  have hchars : (Text.lower name).toList =
      variableStart ++ (p.name.toList ++ '_' :: '_' :: f.key.toList) := by
    rw [hname, Part.variableName, String.toList_append, String.toList_append,
      String.toList_append, List.append_assoc, List.append_assoc]
    rfl
  unfold variablePath?
  dsimp only
  rw [hchars, List.take_left, if_pos rfl, List.drop_left, dotted_append_pair hplain, hkeys f hf,
    ← toList_path, String.ofList_toList]

/-- Fields with one path have one variable. -/
theorem variableName_of_path {p p' : Part} (hp : p ∈ parts) (hp' : p' ∈ parts) {f : Field p.State}
    (hf : f ∈ p.fields) {f' : Field p'.State} (hf' : f' ∈ p'.fields) (h : p.path f = p'.path f') :
    p.variableName f = p'.variableName f' := by
  have hparse := ofChars?_path hp hf
  rw [h, ofChars?_path hp' hf'] at hparse
  have hpath := Setting.Path.mk.inj (Option.some.inj hparse)
  rw [Part.variableName, Part.variableName, hpath.1,
    Setting.Step.name.inj (List.cons.inj hpath.2).1]

/-- The path of a field sets something that is read. -/
theorem not_idle_path {p : Part} (hp : p ∈ parts) {f : Field p.State} (hf : f ∈ p.fields) :
    ¬ Idle (p.path f) := by
  intro hidle
  rw [Idle, ofChars?_path hp hf] at hidle
  obtain ⟨key, rest, hsteps, hnone⟩ := hidle p hp rfl
  exact hnone f hf (Setting.Step.name.inj (List.cons.inj hsteps).1)

theorem begins_path {p : Part} (hp : p ∈ parts) {f : Field p.State} (hf : f ∈ p.fields) :
    p.begins (p.path f) = true := by
  rw [Part.begins, ofChars?_path hp hf, Option.any_some, beq_self_eq_true]

theorem isTable_ofVariable (text : String) : (Setting.ofVariable text).isTable = false := by
  unfold Setting.ofVariable
  split
  · rfl
  · rfl
  · split
    · rfl
    · split <;> rfl

/-! ## The layer of the environment -/

section

variable {env env' : List (String × String)} {p : Part} {f : Field p.State}

/-- What the layer of the environment says comes of a variable. -/
theorem mem_variableLayer {e : String × Setting} (he : e ∈ variableLayer env) :
    ∃ x ∈ env, variablePath? x.1 = some e.1 ∧ e.2 = Setting.ofVariable x.2 := by
  obtain ⟨x, hx, hmap⟩ := List.mem_filterMap.1 (Members.mem_of_mem_ofEntries he)
  obtain ⟨path, hpath, rfl⟩ := Option.map_eq_some_iff.1 hmap
  exact ⟨x, hx, hpath, rfl⟩

/-- A variable with a field's path has the field's name. -/
theorem Known.lower_eq (henv : Known env) (hp : p ∈ parts) (hf : f ∈ p.fields)
    {x : String × String} (hx : x ∈ env) (hpath : variablePath? x.1 = some (p.path f)) :
    Text.lower x.1 = p.variableName f := by
  rcases henv.plain x hx _ hpath with ⟨p', hp', f', hf', hname⟩ | hidle
  · have hsame := variablePath?_of_lower hp' hf' hname
    rw [hpath] at hsame
    rw [hname, variableName_of_path hp hp' hf hf' (Option.some.inj hsame)]
  · exact absurd hidle (not_idle_path hp hf)

theorem Known.eq_of_lower (henv : Known env) {x y : String × String} (hx : x ∈ env) (hy : y ∈ env)
    (h : Text.lower x.1 = Text.lower y.1) : x = y :=
  List.inj_on_of_nodup_map henv.distinct hx hy h

theorem Known.plain_variableLayer (henv : Known env) :
    ∀ e ∈ variableLayer env, Plain e.1 ∧ e.2.isTable = false := by
  intro e he
  obtain ⟨x, hx, hpath, hvalue⟩ := mem_variableLayer he
  refine ⟨?_, by rw [hvalue, isTable_ofVariable]⟩
  rcases henv.plain x hx _ hpath with ⟨p, hp, f, hf, hname⟩ | hidle
  · rw [variablePath?_of_lower hp hf hname] at hpath
    exact .inl ⟨p, hp, f, hf, (Option.some.inj hpath).symm⟩
  · exact .inr hidle

/-- What a variable sets is in the layer of the environment. -/
theorem isSome_get?_variableLayer {x : String × String} (hx : x ∈ env) {path : String}
    (hpath : variablePath? x.1 = some path) : ((variableLayer env).get? path).isSome = true :=
  Members.isSome_get?_ofEntries (m := (path, Setting.ofVariable x.2))
    (List.mem_filterMap.2 ⟨x, hx, Option.map_eq_some_iff.2 ⟨path, hpath, rfl⟩⟩)

theorem text?_eq_some (henv : Known env) {text : String} :
    p.text? f env = some text ↔
      ∃ x ∈ env, Text.lower x.1 = p.variableName f ∧ x.2 = text := by
  unfold Part.text?
  constructor
  · intro h
    obtain ⟨x, hfind, rfl⟩ := Option.map_eq_some_iff.1 h
    have hname := List.find?_some hfind
    exact ⟨x, List.mem_of_find?_eq_some hfind, beq_iff_eq.1 hname, rfl⟩
  · rintro ⟨x, hx, hname, rfl⟩
    cases hfind : env.find? fun x => Text.lower x.1 == p.variableName f with
    | none => exact absurd (beq_iff_eq.2 hname) (List.find?_eq_none.1 hfind x hx)
    | some y =>
        have hother := List.find?_some hfind
        have hlower := (beq_iff_eq.1 hother).trans hname.symm
        rw [henv.eq_of_lower (List.mem_of_find?_eq_some hfind) hx hlower]
        rfl

theorem text?_eq_none :
    p.text? f env = none ↔ ∀ x ∈ env, Text.lower x.1 ≠ p.variableName f := by
  rw [Part.text?, Option.map_eq_none_iff, List.find?_eq_none]
  exact forall_congr' fun x => forall_congr' fun _ => not_congr beq_iff_eq

/-- **The layer of the environment says of a field what its variable says.** -/
theorem get?_variableLayer (henv : Known env) (hp : p ∈ parts) (hf : f ∈ p.fields) :
    (variableLayer env).get? (p.path f) = (p.text? f env).map Setting.ofVariable := by
  cases hget : (variableLayer env).get? (p.path f) with
  | none =>
      have hnone : p.text? f env = none := text?_eq_none.2 fun x hx hname => by
        have hsome := isSome_get?_variableLayer hx (variablePath?_of_lower hp hf hname)
        rw [hget] at hsome
        exact nomatch hsome
      rw [hnone]
      rfl
  | some value =>
      obtain ⟨x, hx, hpath, rfl⟩ := mem_variableLayer (Members.mem_of_get? hget)
      rw [(text?_eq_some henv).2 ⟨x, hx, henv.lower_eq hp hf hx hpath, rfl⟩]
      rfl

theorem touched_iff : p.touched env = true ↔ ∃ e ∈ variableLayer env, p.begins e.1 = true := by
  unfold Part.touched
  rw [List.any_eq_true]
  constructor
  · rintro ⟨x, hx, hbegins⟩
    obtain ⟨path, hpath, hfirst⟩ := (Option.any_eq_true _ _).1 hbegins
    obtain ⟨value, hvalue⟩ := Option.isSome_iff_exists.1 (isSome_get?_variableLayer hx hpath)
    exact ⟨_, Members.mem_of_get? hvalue, hfirst⟩
  · rintro ⟨e, he, hbegins⟩
    obtain ⟨x, hx, hpath, -⟩ := mem_variableLayer he
    exact ⟨x, hx, by rw [hpath, Option.any_some, hbegins]⟩

end

/-! ## What the layers say of a field -/

/-- The tree of a file, if it can be read. -/
def fileTree? (file : Option (String × String)) : Option Setting :=
  (fileLayer? file).map (Setting.table []).overlay

/-- Whether a tree gives a section as a list of values. -/
def Part.listed (p : Part) (tree : Setting) : Bool :=
  match tree.entries.get? p.name with
  | some (.list _) => true
  | _ => false

/-- Whether a section of the file is lost: it is a list, and a variable makes a table of it. -/
def Part.givesWay (p : Part) (tree : Setting) (env : List (String × String)) : Bool :=
  p.listed tree && p.touched env

/-- What a file's tree has under a field. -/
def Part.written? (p : Part) (f : Field p.State) (tree : Setting) : Option Setting :=
  (p.entries tree.entries).get? f.key

/-- What the file says of a field under the variables. -/
def Part.inFile? (p : Part) (f : Field p.State) (tree : Setting) (env : List (String × String)) :
    Option Setting :=
  if p.givesWay tree env = true then none else p.written? f tree

/-- The converted value of a field's variable, or else of what the file says of it, or else the
default. -/
def Part.value? (p : Part) (f : Field p.State) (tree : Setting) (env : List (String × String)) :
    Option f.Value :=
  match p.text? f env with
  | some text => f.convert (Setting.ofVariable text)
  | none =>
    match p.inFile? f tree env with
    | some x => f.convert x
    | none => some (f.get (p.get {}))

/-- Every section can be read, and every field of the settings is what the layers say of it. -/
structure Says (tree : Setting) (env : List (String × String)) (s : Settings) : Prop where
  sections : ∀ p ∈ parts, p.touched env = true ∨ p.Readable tree.entries
  fields : ∀ p ∈ parts, ∀ f ∈ p.fields, p.value? f tree env = some (f.get (p.get s))

section

variable {tree : Setting} {env : List (String × String)} {p : Part} {f : Field p.State}

/-- Once a variable makes a table of a section, nothing else is left of the file's than a table. -/
theorem get?_table_of_touched (htouched : p.touched env = true) :
    (p.table tree).get? f.key = p.inFile? f tree env := by
  unfold Part.inFile? Part.givesWay Part.listed Part.written? Part.table Part.entries
  rw [htouched, Bool.and_true]
  cases tree.entries.get? p.name with
  | none => rfl
  | some x => cases x <;> rfl

theorem begins_eq_false (htouched : p.touched env = false) :
    ∀ e ∈ variableLayer env, p.begins e.1 = false := fun e he =>
  Bool.eq_false_iff.2 fun hbegins =>
    absurd (touched_iff.2 ⟨e, he, hbegins⟩) (by rw [htouched]; exact nofun)

theorem text?_of_not_touched (hp : p ∈ parts) (hf : f ∈ p.fields)
    (htouched : p.touched env = false) : p.text? f env = none :=
  text?_eq_none.2 fun x hx hname => by
    have hsome : p.touched env = true := List.any_eq_true.2
      ⟨x, hx, by rw [variablePath?_of_lower hp hf hname, Option.any_some, begins_path hp hf]⟩
    rw [htouched] at hsome
    exact nomatch hsome

/-- **What the layers together have under a field**: its variable, or else what the file says. -/
theorem get?_entries_overlay (henv : Known env) (hp : p ∈ parts) (hf : f ∈ p.fields) :
    (p.entries (tree.overlay (variableLayer env)).entries).get? f.key =
      ((p.text? f env).map Setting.ofVariable).or (p.inFile? f tree env) := by
  cases htouched : p.touched env with
  | false =>
      have hsame := get?_overlay_of_not_begins hp tree henv.plain_variableLayer
        (begins_eq_false htouched)
      rw [text?_of_not_touched hp hf htouched, Part.inFile?, Part.givesWay,
        htouched, Bool.and_false, if_neg nofun, Part.entries, hsame]
      rfl
  | true =>
      have htable := get?_overlay_of_begins hp tree henv.plain_variableLayer
        (touched_iff.1 htouched)
      have hvalue := get?_overlay hp tree hf henv.plain_variableLayer (Members.sorted_ofEntries _)
      rw [Part.entries, htable, ← get?_variableLayer henv hp hf, ← get?_table_of_touched htouched]
      exact hvalue

theorem readable_overlay_iff (henv : Known env) (hp : p ∈ parts) :
    p.Readable (tree.overlay (variableLayer env)).entries ↔
      p.touched env = true ∨ p.Readable tree.entries := by
  unfold Part.Readable
  cases htouched : p.touched env with
  | false =>
      rw [get?_overlay_of_not_begins hp tree henv.plain_variableLayer (begins_eq_false htouched)]
      exact (or_iff_right nofun).symm
  | true =>
      rw [get?_overlay_of_begins hp tree henv.plain_variableLayer (touched_iff.1 htouched)]
      refine iff_of_true (fun x hx => ?_) (.inl rfl)
      rw [← Option.some.inj hx]
      rfl

/-- A field of the layers together is read into its value. -/
theorem read?_overlay (henv : Known env) (hp : p ∈ parts) (hf : f ∈ p.fields) :
    f.read? (p.get {}) (p.entries (tree.overlay (variableLayer env)).entries) =
      p.value? f tree env := by
  unfold Field.read? Setting.field? Part.value?
  rw [get?_entries_overlay henv hp hf]
  cases p.text? f env with
  | some text => rfl
  | none => rfl

/-- **The layers together are read into settings** exactly if each field of those is what the layers
say of it. -/
theorem ofEntries?_merged {layer : List (String × Setting)} (henv : Known env) {s : Settings} :
    ofEntries? (merged layer (variableLayer env)) = some s ↔
      Says ((Setting.table []).overlay layer) env s := by
  unfold merged
  rw [ofEntries?_eq_some]
  constructor
  · rintro ⟨hreadable, hfields⟩
    exact ⟨fun p hp => (readable_overlay_iff henv hp).1 (hreadable p hp),
      fun p hp f hf => (read?_overlay henv hp hf).symm.trans (hfields p hp f hf)⟩
  · rintro ⟨hsections, hfields⟩
    exact ⟨fun p hp => (readable_overlay_iff henv hp).2 (hsections p hp),
      fun p hp f hf => (read?_overlay henv hp hf).trans (hfields p hp f hf)⟩

end

/-! ## Loading -/

theorem violation?_eq_none {s : Settings} :
    s.violation? = none ↔ ∀ rule, s.breaks rule = false := by
  have hrules : ∀ rule : Rule, rule ∈ rules := by
    intro rule
    cases rule <;> decide
  rw [violation?, List.find?_eq_none]
  exact ⟨fun h rule => Bool.eq_false_iff.2 (h rule (hrules rule)),
    fun h rule _ => Bool.eq_false_iff.1 (h rule)⟩

theorem exists_of_loaded {α : Type} {loaded : Except LoadFault Settings} {g : Settings → α} {a : α}
    (h : loaded.toOption.map g = some a) : ∃ s, loaded = .ok s ∧ g s = a := by
  cases loaded with
  | error fault => exact nomatch h
  | ok s => exact ⟨s, rfl, Option.some.inj h⟩

section

variable {file : Option (String × String)} {env : List (String × String)} {tree : Setting}
  {s : Settings}

/-- **Settings are loaded** exactly if the layers say them and they break no rule. -/
theorem load_eq_ok (hfile : fileTree? file = some tree) (henv : Known env) :
    load file env = .ok s ↔ Says tree env s ∧ ∀ rule, s.breaks rule = false := by
  obtain ⟨layer, hlayer, rfl⟩ := Option.map_eq_some_iff.1 hfile
  unfold load ofLayers
  rw [hlayer, ← ofEntries?_merged henv, ← violation?_eq_none]
  dsimp only
  cases ofEntries? (merged layer (variableLayer env)) with
  | none => exact iff_of_false nofun fun h => nomatch h.1
  | some t =>
      dsimp only
      constructor
      · intro h
        split at h
        · exact nomatch h
        · obtain rfl := Except.ok.inj h
          exact ⟨rfl, ‹_›⟩
      · rintro ⟨hsame, hnone⟩
        obtain rfl := Option.some.inj hsame
        rw [hnone]

/-- What the layers say determines the settings. -/
theorem Says.unique {s' : Settings} (h : Says tree env s) (h' : Says tree env s') : s = s' :=
  eq_of_parts fun p hp f hf =>
    Option.some.inj ((h.fields p hp f hf).symm.trans (h'.fields p hp f hf))

end

/-- Two inputs say the same of a field: its variable is in both or in neither, both files have the
same under it, and its section is lost in both or in neither. -/
structure Part.Alike (p : Part) (f : Field p.State) (tree tree' : Setting)
    (env env' : List (String × String)) : Prop where
  named : ∀ x, Text.lower x.1 = p.variableName f → (x ∈ env ↔ x ∈ env')
  written : p.written? f tree = p.written? f tree'
  lost : p.givesWay tree env = p.givesWay tree' env'

/-- **A field is what is said of it**, whatever is said of other fields. -/
theorem Part.Alike.value? {p : Part} {f : Field p.State} {tree tree' : Setting}
    {env env' : List (String × String)} (h : p.Alike f tree tree' env env') (henv : Known env)
    (henv' : Known env') : p.value? f tree env = p.value? f tree' env' := by
  have hvariable : p.text? f env = p.text? f env' := by
    refine Option.ext fun text => ?_
    rw [text?_eq_some henv, text?_eq_some henv']
    refine exists_congr fun x => ?_
    constructor
    · rintro ⟨hx, hname, htext⟩
      exact ⟨(h.named x hname).1 hx, hname, htext⟩
    · rintro ⟨hx, hname, htext⟩
      exact ⟨(h.named x hname).2 hx, hname, htext⟩
  unfold Part.value? Part.inFile?
  rw [hvariable, h.written, h.lost]

section

variable {file : Option (String × String)} {env : List (String × String)} {tree : Setting}

/-- **The layers of the settings.**  For every file with a tree and all known variables, settings
that are loaded have in every field the converted value of its variable, or else of what the file
says of it, which is nothing where its section gives way, or else the default, and they break no
rule.  A field has one value under all inputs that say the same of it, whatever they say of other
fields.  And where the values of the layers convert, loading fails exactly if a rule is broken. -/
theorem load_layers (hfile : fileTree? file = some tree) (henv : Known env) :
    (∀ s, load file env = .ok s →
      (∀ p ∈ parts, ∀ f ∈ p.fields, p.value? f tree env = some (f.get (p.get s))) ∧
      (∀ rule, s.breaks rule = false) ∧
      ∀ file' tree' env' s', fileTree? file' = some tree' → Known env' →
        load file' env' = .ok s' → ∀ p ∈ parts, ∀ f ∈ p.fields,
          p.Alike f tree tree' env env' → f.get (p.get s) = f.get (p.get s')) ∧
    ∀ s, Says tree env s →
      ((∃ fault, load file env = .error fault) ↔ ∃ rule, s.breaks rule = true) := by
  refine ⟨fun s hload => ?_, fun s hsaid => ?_⟩
  · obtain ⟨hsaid, hrules⟩ := (load_eq_ok hfile henv).1 hload
    refine ⟨hsaid.fields, hrules, ?_⟩
    intro file' tree' env' s' hfile' henv' hload' p hp f hf halike
    obtain ⟨hsaid', -⟩ := (load_eq_ok hfile' henv').1 hload'
    refine Option.some.inj ?_
    calc some (f.get (p.get s))
        _ = p.value? f tree env := (hsaid.fields p hp f hf).symm
        _ = p.value? f tree' env' := halike.value? henv henv'
        _ = some (f.get (p.get s')) := hsaid'.fields p hp f hf
  · constructor
    · rintro ⟨fault, hload⟩
      by_contra hbroken
      have hrules : ∀ rule, s.breaks rule = false := fun rule =>
        Bool.eq_false_iff.2 fun hbreaks => hbroken ⟨rule, hbreaks⟩
      rw [(load_eq_ok hfile henv).2 ⟨hsaid, hrules⟩] at hload
      exact nomatch hload
    · rintro ⟨rule, hbreaks⟩
      cases hload : load file env with
      | error fault => exact ⟨fault, rfl⟩
      | ok s' =>
          obtain ⟨hsaid', hrules⟩ := (load_eq_ok hfile henv).1 hload
          rw [hsaid.unique hsaid', hrules rule] at hbreaks
          exact nomatch hbreaks

/-- A section that is given in part keeps the defaults of its other fields. -/
theorem load_layers_inPart :
    ∃ tree s, fileTree? (some ("harvestd.toml", "[target]\nhost = \"jvm\"\n")) = some tree ∧
      Known [("Harvest__Target__Port", "9010"), ("PATH", "/bin")] ∧
      load (some ("harvestd.toml", "[target]\nhost = \"jvm\"\n"))
        [("Harvest__Target__Port", "9010"), ("PATH", "/bin")] = .ok s ∧
      s.target = { host := "jvm", port := 9010, connectTimeoutSecs := 5 } ∧
      (∀ p ∈ parts, ∀ f ∈ p.fields,
        p.value? f tree [("Harvest__Target__Port", "9010"), ("PATH", "/bin")] =
          some (f.get (p.get s))) ∧
      ∀ rule, s.breaks rule = false := by
  have henv : Known [("Harvest__Target__Port", "9010"), ("PATH", "/bin")] := by
    refine ⟨by decide +kernel, fun x hx path hpath => ?_⟩
    rcases List.mem_cons.1 hx with rfl | hx
    · exact .inl ⟨.target, List.mem_cons_self, _, List.mem_cons_of_mem _ List.mem_cons_self,
        by decide +kernel⟩
    · obtain rfl := List.mem_singleton.1 hx
      have hforeign : variablePath? "PATH" = none := by decide +kernel
      rw [hforeign] at hpath
      exact nomatch hpath
  obtain ⟨tree, htree⟩ := Option.isSome_iff_exists.1
    (show (fileTree? (some ("harvestd.toml", "[target]\nhost = \"jvm\"\n"))).isSome = true by
      decide +kernel)
  obtain ⟨s, hload, htarget⟩ := exists_of_loaded
    (show (load (some ("harvestd.toml", "[target]\nhost = \"jvm\"\n"))
        [("Harvest__Target__Port", "9010"), ("PATH", "/bin")]).toOption.map (·.target) =
      some { host := "jvm", port := 9010, connectTimeoutSecs := 5 } by decide +kernel)
  obtain ⟨hvalues, hrules, -⟩ := (load_layers htree henv).1 s hload
  exact ⟨tree, s, htree, henv, hload, htarget, hvalues, hrules⟩

/-- A section that is a list of values is lost once a variable sets anything in it. -/
theorem not_layered_under_list :
    ∃ s s', load (some ("harvestd.toml", "target = [\"jvm\", 9010]\n")) [] = .ok s ∧
      Known [("HARVEST__TARGET__CONNECT_TIMEOUT_SECS", "7")] ∧
      load (some ("harvestd.toml", "target = [\"jvm\", 9010]\n"))
        [("HARVEST__TARGET__CONNECT_TIMEOUT_SECS", "7")] = .ok s' ∧
      s.target.host = "jvm" ∧ s'.target.host = "localhost" := by
  have henv : Known [("HARVEST__TARGET__CONNECT_TIMEOUT_SECS", "7")] := by
    refine ⟨by decide +kernel, fun x hx path hpath => ?_⟩
    obtain rfl := List.mem_singleton.1 hx
    exact .inl ⟨.target, List.mem_cons_self, _,
      List.mem_cons_of_mem _ (List.mem_cons_of_mem _ List.mem_cons_self), by decide +kernel⟩
  obtain ⟨s, hload, hhost⟩ := exists_of_loaded
    (show (load (some ("harvestd.toml", "target = [\"jvm\", 9010]\n")) []).toOption.map
      (·.target.host) = some "jvm" by decide +kernel)
  obtain ⟨s', hload', hhost'⟩ := exists_of_loaded
    (show (load (some ("harvestd.toml", "target = [\"jvm\", 9010]\n"))
      [("HARVEST__TARGET__CONNECT_TIMEOUT_SECS", "7")]).toOption.map (·.target.host) =
        some "localhost" by decide +kernel)
  exact ⟨s, s', hload, henv, hload', hhost, hhost'⟩

end

end Settings
end RecordingHarvest
