import RecordingHarvest.Proofs.Recording.Configuring
import RecordingHarvest.Proofs.Settings.Layers
import RecordingHarvest.Settings.Plan

/-!
# How long a recording is kept

A recording is kept for one harvest interval and a padding, counted in seconds of 64 bits.  Both are
below 2^64, whatever they were read from, but their sum need not be: then the recording has no age,
and there is no run that could start it.

* `lt_of_toWord?`, `words_of_load`: settings that are loaded fit words of 64 bits.
* `maxAge?_eq_some_iff`, `maxAge?_eq_none_iff`: when there is an age, and which.
* `exists_age_of_plan`: a plan comes with the age of its recordings.
* `load_retains`: the age of all settings that are loaded, which every recording is given.
-/

namespace RecordingHarvest
namespace Settings

open Setting (toWord? field?)
open Remote (Value)

/-! ## Words of 64 bits -/

theorem lt_of_toWord? {x : Setting} {n : Nat} (h : toWord? x = some n) : n < Number.width64 := by
  rw [toWord?, Setting.toNatBelow?, Option.filter_eq_some_iff] at h
  exact of_decide_eq_true h.2

/-- A field that is read as a word is one, if its default is. -/
theorem lt_of_field? {es : Members Setting} {name : String} {default n : Nat}
    (hdefault : default < Number.width64) (h : field? es name toWord? default = some n) :
    n < Number.width64 := by
  rw [field?] at h
  split at h
  · exact lt_of_toWord? h
  · obtain rfl := Option.some.inj h
    exact hdefault

variable {file : Option (String × String)} {env : List (String × String)} {s : Settings}

/-- Settings that are loaded were read from the entries of the layers. -/
theorem exists_entries_of_load (h : load file env = .ok s) : ∃ es, ofEntries? es = some s := by
  unfold load ofLayers at h
  split at h
  · cases h
  · rename_i layer _
    refine ⟨merged layer (variableLayer env), ?_⟩
    cases hentries : ofEntries? (merged layer (variableLayer env)) with
    | none => simp [hentries] at h
    | some t =>
        cases hviolation : t.violation? with
        | none => simpa [hentries, hviolation] using h
        | some rule => simp [hentries, hviolation] at h

/-- The interval and the padding are words of 64 bits, whatever says them. -/
theorem words_of_load (h : load file env = .ok s) :
    s.recording.harvestIntervalSecs < Number.width64 ∧
      s.recording.maxAgePaddingSecs < Number.width64 := by
  obtain ⟨es, hes⟩ := exists_entries_of_load h
  have hfields := (ofEntries?_eq_some.1 hes).2 .recording (by simp [parts])
  have hdefault : 10 < Number.width64 := by decide
  constructor
  · exact lt_of_field? hdefault (hfields Part.recording.fields[0] (List.getElem_mem _))
  · exact lt_of_field? hdefault (hfields Part.recording.fields[6] (List.getElem_mem _))

/-! ## The age -/

theorem secs_ofSecs (n : Nat) : (Span.ofSecs n).secs = n := by
  simp [Span.ofSecs, Span.ofParts, Span.secs]

theorem maxAge?_eq_some_iff {r : RecordingSettings} {age : Span} :
    r.maxAge? = some age ↔
      r.harvestIntervalSecs + r.maxAgePaddingSecs < Number.width64 ∧
        .ofSecs (r.harvestIntervalSecs + r.maxAgePaddingSecs) = age := by
  simp only [RecordingSettings.maxAge?, Option.ite_none_right_eq_some, Option.some.injEq]

theorem maxAge?_eq_none_iff {r : RecordingSettings} :
    r.maxAge? = none ↔ Number.width64 ≤ r.harvestIntervalSecs + r.maxAgePaddingSecs := by
  simp only [RecordingSettings.maxAge?, ite_eq_right_iff, reduceCtorEq, imp_false, Nat.not_lt]

/-- There is a plan exactly if recordings have an age. -/
theorem controllerPlan?_eq_none_iff {s : Settings} :
    s.controllerPlan? = none ↔ s.recording.maxAge? = none := by
  simp only [controllerPlan?, sessionPlan?, Option.map_eq_none_iff]

/-- A plan gives its recordings their age. -/
theorem exists_age_of_plan {s : Settings} {plan : ControllerPlan}
    (h : s.controllerPlan? = some plan) :
    ∃ age, s.recording.maxAge? = some age ∧
      plan.session.options = .onDisk s.recording.recordingName age := by
  obtain ⟨session, hsession, rfl⟩ := Option.map_eq_some_iff.1 h
  obtain ⟨age, hage, rfl⟩ := Option.map_eq_some_iff.1 hsession
  exact ⟨age, hage, rfl⟩

/-- The options of a recording say its age in whole seconds. -/
theorem exists_maxAge (options : RecordingOptions) :
    ∃ entries, options.toValue = .table entries ∧
      entries.get? "maxAge" = some (Number.naturalText options.maxAge.secs ++ "s") :=
  ⟨_, rfl, Members.get?_put_self ..⟩

/-! ## Retention -/

/-- **How long a recording is kept.**  For all settings that are loaded, from whatever file and
variables: the interval and the padding fit words of 64 bits.  If their sum does, it is the age,
which covers the interval, and there is a plan; if it does not, there is neither an age nor a plan.
And however a run of that plan goes, each call that sets the options of a recording gives the sum. -/
theorem load_retains (h : load file env = .ok s) :
    (s.recording.harvestIntervalSecs < Number.width64 ∧
      s.recording.maxAgePaddingSecs < Number.width64) ∧
    (s.recording.harvestIntervalSecs + s.recording.maxAgePaddingSecs < Number.width64 →
      s.controllerPlan?.isSome ∧ ∃ age, s.recording.maxAge? = some age ∧
        age = .ofSecs (s.recording.harvestIntervalSecs + s.recording.maxAgePaddingSecs) ∧
        s.recording.harvestIntervalSecs ≤ age.secs) ∧
    (Number.width64 ≤ s.recording.harvestIntervalSecs + s.recording.maxAgePaddingSecs →
      s.recording.maxAge? = none ∧ s.controllerPlan? = none) ∧
    ∀ plan, s.controllerPlan? = some plan →
      ∀ (σ : Type) (holds : σ → Prop) (handle : Snapshot → Controller.Handling σ Unit) (st : σ)
        (w : World) (site t : Site) (r : Except Halt (Except Fault Unit × σ)),
        Controller.Aside holds handle → holds st → site.deeds = [] →
        ((Controller.run handle plan).run st).perform w site = (r, t) →
        ∀ c call answer, .invoked c call answer ∈ t.history →
          call.operation = "setRecordingOptions" →
          ∃ (id : Int) (entries : Members String), call.arguments = [.long id, .table entries] ∧
            entries.get? "maxAge" = some (Number.naturalText
              (s.recording.harvestIntervalSecs + s.recording.maxAgePaddingSecs) ++ "s") := by
  refine ⟨words_of_load h, fun hfits => ?_, fun hwide => ?_, fun plan hplan => ?_⟩
  · have hage := maxAge?_eq_some_iff.2 ⟨hfits, rfl⟩
    refine ⟨?_, _, hage, rfl, ?_⟩
    · rw [Option.isSome_iff_ne_none, ne_eq, controllerPlan?_eq_none_iff, hage]
      exact Option.some_ne_none _
    · rw [secs_ofSecs]
      exact Nat.le_add_right ..
  · have hnone := maxAge?_eq_none_iff.2 hwide
    exact ⟨hnone, controllerPlan?_eq_none_iff.2 hnone⟩
  · intro σ holds handle st w site t r haside hst hfresh hrun c call answer hmem hoperation
    obtain ⟨age, hage, hoptions⟩ := exists_age_of_plan hplan
    obtain ⟨-, rfl⟩ := maxAge?_eq_some_iff.1 hage
    obtain ⟨id, harguments⟩ :=
      Controller.run_configures haside hst hfresh hrun _ hmem hoperation
    obtain ⟨entries, hentries, hget⟩ := exists_maxAge plan.session.options
    rw [hoptions] at hget harguments hentries
    rw [RecordingOptions.onDisk, secs_ofSecs] at hget
    exact ⟨id, entries, by rw [harguments, hentries], hget⟩

/-- The deeds of a run of a plan against a target that falters. -/
def falteringHistory (plan : ControllerPlan) : List Deed :=
  (((Controller.run Depot.handle plan).run Controller.idleDepot).perform
    Controller.faltering Controller.smallSite).2.history

/-- Whether a deed sets the options of a recording. -/
def setsOptions : Deed → Bool
  | .invoked _ call _ => call.operation = "setRecordingOptions"
  | _ => false

/-- By default a recording is kept for twenty seconds, and a run says so. -/
theorem load_retains_twenty :
    ∃ s plan c call answer, load none [] = .ok s ∧ s.controllerPlan? = some plan ∧
      .invoked c call answer ∈ falteringHistory plan ∧ call.operation = "setRecordingOptions" ∧
      ∃ (id : Int) (entries : Members String), call.arguments = [.long id, .table entries] ∧
        entries.get? "maxAge" = some "20s" := by
  obtain ⟨s, hload, hsettings⟩ := exists_of_loaded
    (show (load none []).toOption.map (fun s =>
      (s.controllerPlan?.any fun plan => (falteringHistory plan).any setsOptions,
        s.recording.harvestIntervalSecs + s.recording.maxAgePaddingSecs)) = some (true, 20) by
      decide +kernel)
  obtain ⟨hsets, hsum⟩ := Prod.mk.inj hsettings
  obtain ⟨plan, hplan, hany⟩ := (Option.any_eq_true ..).1 hsets
  obtain ⟨d, hd, hsetting⟩ := List.any_eq_true.1 hany
  cases d with
  | invoked c call answer =>
      have hoperation : call.operation = "setRecordingOptions" := of_decide_eq_true hsetting
      rcases hrun : ((Controller.run Depot.handle plan).run Controller.idleDepot).perform
        Controller.faltering Controller.smallSite with ⟨r, t⟩
      have hmem : .invoked c call answer ∈ t.history := by
        simpa only [falteringHistory, hrun] using hd
      obtain ⟨id, entries, harguments, hget⟩ := (load_retains hload).2.2.2 plan hplan
        _ _ _ _ _ _ _ _ Controller.aside_depot Controller.writes_idleDepot rfl hrun c call answer
        hmem hoperation
      have hseconds : Number.naturalText 20 ++ "s" = "20s" := by decide +kernel
      rw [hsum, hseconds] at hget
      exact ⟨s, plan, c, call, answer, hload, hplan, hd, hoperation, id, entries, harguments, hget⟩
  | _ => exact nomatch hsetting

/-- A variable whose number is cut down to the largest of 64 bits. -/
def longInterval : List (String × String) := [("HARVEST__RECORDING__HARVEST_INTERVAL_SECS", "1e20")]

/-- Not all settings that are loaded keep a recording for the interval and the padding: the sum
of the longest interval and ten seconds is no age. -/
theorem not_retained_longInterval :
    ¬ ∀ file env s, load file env = .ok s → ∃ age, s.recording.maxAge? = some age ∧
      age.secs = s.recording.harvestIntervalSecs + s.recording.maxAgePaddingSecs := by
  intro hall
  obtain ⟨s, hload, hnone⟩ := exists_of_loaded
    (show (load none longInterval).toOption.map (·.recording.maxAge?) = some none by
      decide +kernel)
  obtain ⟨age, hage, -⟩ := hall none longInterval s hload
  rw [hnone] at hage
  exact nomatch hage

end Settings
end RecordingHarvest
