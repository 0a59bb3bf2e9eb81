import RecordingHarvest.Proofs.Recording.Composing
import RecordingHarvest.Proofs.Recording.Verdict

/-!
# How recordings are configured

Every call that sets the options of a recording has the options of the plan, on whatever recording,
over whatever connection and in whatever attempt.  `Run.Issues` says of a computation that it makes
no calls but those allowed, even where it is given up as unfinished.

* `composes_issues`: so it does if its parts do.
* `issues_rounds`: the rounds of a controller.
* `run_configures`: whole runs.
-/

namespace RecordingHarvest

open Remote (Invocation)

variable {α β : Type} {calls : Invocation → Prop}

/-- The deed is no call, or one of those allowed. -/
def Deed.Within (calls : Invocation → Prop) : Deed → Prop
  | .invoked _ call _ => calls call
  | _ => True

namespace Run

/-- A computation that makes no calls but those allowed. -/
def Issues (calls : Invocation → Prop) (x : Run α) : Prop :=
  ∀ (w : World) (s : Site), (∀ d ∈ s.deeds, d.Within calls) →
    ∀ d ∈ (x.perform w s).2.deeds, d.Within calls

/-! ## Building computations -/

theorem Issues.bind {x : Run α} {f : α → Run β} (hx : Issues calls x)
    (hf : ∀ a, Issues calls (f a)) : Issues calls (x >>= f) := by
  intro w s hs
  have hfirst := hx w s hs
  rw [perform_bind]
  rcases hrun : x.perform w s with ⟨h | a, t⟩ <;> rw [hrun] at hfirst
  · exact hfirst
  · exact hf a w t hfirst

theorem Issues.attempt {x : Run α} (hx : Issues calls x) : Issues calls (Run.attempt x) := by
  intro w s hs
  have hfirst := hx w s hs
  rw [perform_attempt]
  rcases hrun : x.perform w s with ⟨(f | _) | a, t⟩ <;> rw [hrun] at hfirst <;> exact hfirst

/-- A computation that does nothing calls nothing. -/
theorem issues_of_deeds {x : Run α} (h : ∀ w s, (x.perform w s).2.deeds = s.deeds) :
    Issues calls x := by
  intro w s hs
  rw [h]
  exact hs

theorem issues_record {d : Deed} (h : d.Within calls) : Issues calls (record d) := by
  intro w s hs e he
  rcases List.mem_cons.1 he with rfl | he
  · exact h
  · exact hs e he

theorem issues_ofExcept (r : Except Fault α) : Issues calls (ofExcept r) := by
  cases r <;> exact issues_of_deeds fun _ _ => rfl

theorem issues_noting (x : Noting α) : Issues calls (noting x) := issues_of_deeds fun _ _ => rfl

theorem issues_read : Issues calls read := issues_of_deeds fun _ _ => rfl

theorem issues_get : Issues calls get := issues_of_deeds fun _ _ => rfl

theorem issues_onShelf (step : FileStep) (act : Shelf → Except Fault α × Shelf) :
    Issues calls (onShelf step act) := by
  refine issues_read.bind fun w => ?_
  have hcarried : Issues calls (modifyGet fun s =>
      ((w.carry s.deeds step act s.shelf).1,
        { s with shelf := (w.carry s.deeds step act s.shelf).2 })) :=
    issues_of_deeds fun _ _ => rfl
  exact hcarried.bind fun result =>
    (issues_record (d := .filed ..) trivial).bind fun _ => issues_ofExcept result

theorem issues_connect : Issues calls connect :=
  issues_read.bind fun _ => issues_get.bind fun _ =>
    (issues_record (d := .attempted _) trivial).bind fun _ => issues_ofExcept _

theorem issues_invoke (c : Nat) {call : Invocation} (h : calls call) :
    Issues calls (invoke c call) :=
  issues_read.bind fun _ => issues_get.bind fun _ =>
    (issues_record (d := .invoked ..) h).bind fun _ => issues_ofExcept _

/-- A look at something else finds at most that shutdown was asked for. -/
theorem issues_of_asked {x : Run α}
    (hx : ∀ w s, ∃ a, x.perform w s = (.ok a, s) ∨ x.perform w s = (.ok a, s.asked)) :
    Issues calls x := by
  intro w s hs
  obtain ⟨a, hquiet | hasked⟩ := hx w s
  · rw [hquiet]
    exact hs
  · rw [hasked]
    exact issues_record (d := .stopped) trivial w s hs

theorem issues_pause (span : Span) : Issues calls (pause span) := by
  refine (issues_record (d := .paused _) trivial).bind fun _ => ?_
  refine Issues.bind (issues_of_deeds fun _ _ => rfl) fun _ => ?_
  exact (issues_of_asked listen_finds).bind fun _ => issues_of_deeds fun _ _ => rfl

theorem issues_rest (span : Span) : Issues calls (rest span) :=
  (issues_record (d := .rested _) trivial).bind fun _ =>
    (issues_of_asked listen_finds).bind fun _ => issues_of_deeds fun _ _ => rfl

/-- **A computation makes the calls that its parts make.** -/
theorem composes_issues : Composes (fun _ x => Issues calls x) calls where
  bind := Issues.bind
  attempt := Issues.attempt
  pure _ := issues_of_deeds fun _ _ => rfl
  fail _ := issues_of_deeds fun _ _ => rfl
  giveUp := issues_of_deeds fun _ _ => rfl
  read := issues_read
  get := issues_get
  note _ _ := issues_noting _
  reconnects := issues_noting _
  onShelf := issues_onShelf
  receive _ := issues_of_deeds fun _ _ => rfl
  clear _ := issues_of_deeds fun _ _ => rfl
  discard _ := issues_of_deeds fun _ _ => rfl
  connect := issues_connect
  invoke c _ h := issues_invoke c h
  close _ := issues_record (d := .closed _) trivial
  pause := issues_pause
  rest := issues_rest
  stopping := issues_of_asked stopping_finds
  enter _ := issues_of_deeds fun _ _ => rfl

end Run

open Run (Issues composes_issues)
open Run.Composes (Open Sets)

/-! ## The controller -/

namespace Controller

variable {plan : ControllerPlan}

theorem issues_snapshot (hopen : Open calls) (plan : SessionPlan) (s : Session) :
    Issues calls (s.snapshot plan) := by
  have hcomposes : Run.Composes (fun _ x => Issues calls x) calls := composes_issues
  refine (hcomposes.take hopen plan.method s.recording).attempt.bind fun r => ?_
  cases r with
  | error f => exact hcomposes.fail _
  | ok x =>
      refine (Run.issues_noting _).bind fun _ => Run.issues_get.bind fun site => ?_
      exact (hcomposes.note _ _).bind fun _ => hcomposes.pure x

theorem issues_queue (x : Snapshot) : Issues calls (queue x) := by
  refine (Run.issues_record (d := .captured x) trivial).bind fun _ => ?_
  refine Run.issues_get.bind fun s => ?_
  split
  · exact Run.issues_of_deeds fun _ _ => rfl
  · exact Run.issues_noting _

theorem issues_harvest (hopen : Open calls) (hsets : Sets calls plan.session.options) (fuel : Nat)
    (session : Session) : Issues calls (harvest plan fuel session) := by
  have hcomposes : Run.Composes (fun _ x => Issues calls x) calls := composes_issues
  induction fuel generalizing session with
  | zero => exact hcomposes.giveUp
  | succ fuel ih =>
      refine hcomposes.stopping.bind fun stopped => ?_
      split
      · exact hcomposes.finish hopen session
      · refine (hcomposes.rest _).bind fun completed => ?_
        split
        · refine (Run.issues_record (d := .began) trivial).bind fun _ => ?_
          refine (issues_snapshot hopen plan.session session).attempt.bind fun r => ?_
          cases r with
          | ok x => exact (issues_queue x).bind fun _ => ih session
          | error f =>
              dsimp only
              split
              · exact (hcomposes.closeSession hopen session).bind fun _ => hcomposes.fail f
              · refine (hcomposes.note _ _).bind fun _ => ?_
                exact (hcomposes.reconnect hopen hsets session).bind fun next => ih next
        · exact hcomposes.finish hopen session

/-- **The rounds of a controller make no calls but those allowed**, if these are the recorder's,
with the options of the plan. -/
theorem issues_rounds (hopen : Open calls) (hsets : Sets calls plan.session.options) :
    Issues calls (rounds plan) := by
  have hcomposes : Run.Composes (fun _ x => Issues calls x) calls := composes_issues
  refine hcomposes.stopping.bind fun stopped => ?_
  split
  · exact hcomposes.pure _
  · refine (hcomposes.connectUntilStopped true plan.initialPolicy).bind fun r => ?_
    cases r with
    | none => exact hcomposes.pure _
    | some c =>
        refine (hcomposes.enter _).bind fun _ => ?_
        refine (hcomposes.startOn hopen hsets c).bind fun session => ?_
        refine (hcomposes.enter _).bind fun _ => (hcomposes.note _ _).bind fun _ => ?_
        exact Run.issues_read.bind fun w => issues_harvest hopen hsets w.patience session

/-! ## Whole runs -/

/-- A call that sets the options of a recording sets those. -/
def Configures (options : RecordingOptions) (call : Invocation) : Prop :=
  call.operation = "setRecordingOptions" →
    ∃ id : Int, call.arguments = [.long id, options.toValue]

variable {σ : Type} {holds : σ → Prop} {handle : Snapshot → Handling σ Unit}

/-- **Every recording gets the options of the plan**, whatever comes of the run. -/
theorem run_configures (h : Aside holds handle) {st : σ} (hst : holds st) {w : World} {s t : Site}
    {r : Except Halt (Except Fault Unit × σ)} (hfresh : s.deeds = [])
    (hrun : ((Controller.run handle plan).run st).perform w s = (r, t)) :
    ∀ d ∈ t.history, d.Within (Configures plan.session.options) := by
  have hopen : Open (Configures plan.session.options) := fun _ _ hne heq => absurd heq hne
  have hsets : Sets (Configures plan.session.options) plan.session.options := fun id _ => ⟨id, rfl⟩
  have hrounds : ∀ d ∈ ((rounds plan).perform w s).2.deeds,
      d.Within (Configures plan.session.options) :=
    issues_rounds hopen hsets w s (by simp [hfresh])
  obtain ⟨later, hlater, hhandled⟩ := (perform_run_drains h hst hrun).1.history
  intro d hd
  rw [hlater, List.mem_append] at hd
  rcases hd with hd | hd
  · exact hrounds d (List.mem_reverse.1 hd)
  · obtain ⟨x, rfl⟩ := hhandled d hd
    trivial

end Controller
end RecordingHarvest
