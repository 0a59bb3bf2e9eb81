import RecordingHarvest.Proofs.Delivery.Writing
import RecordingHarvest.Proofs.Recording.Ending

/-!
# How a whole run ends

When the rounds are over the workers finish what is queued, in the state of their handler.  A
handler that keeps to its own work (`Controller.Aside`) changes nothing about how the run went.

* `aside_depot`: the uploader keeps to its own work.
* `run_ends`: a run ends because shutdown was asked for or with a fatal fault, each recoverable
  fault in it is counted once and behind it there is an attempt to connect, and behind an answer of
  the wrong shape the run only winds up.
-/

namespace RecordingHarvest
namespace Controller

variable {σ α β : Type}

/-! ## Draining -/

/-- The site `t` comes after `s` with some snapshots handled in between, and nothing else done. -/
structure Drains (s t : Site) : Prop where
  phase : t.phase = s.phase
  stopping : s.stopping = true → t.stopping = true
  reconnects : t.journal.increments .reconnects = s.journal.increments .reconnects
  history : ∃ later, t.history = s.history ++ later ∧ ∀ d ∈ later, ∃ x, d = .handled x

theorem Drains.refl (s : Site) : Drains s s :=
  ⟨rfl, id, rfl, [], (List.append_nil _).symm, nofun⟩

theorem Drains.trans {s t u : Site} (hst : Drains s t) (htu : Drains t u) : Drains s u := by
  obtain ⟨first, hfirst, hhandled⟩ := hst.history
  obtain ⟨second, hsecond, hhandled'⟩ := htu.history
  refine ⟨htu.phase.trans hst.phase, htu.stopping ∘ hst.stopping,
    htu.reconnects.trans hst.reconnects, first ++ second, ?_, fun d hd => ?_⟩
  · rw [hsecond, hfirst, List.append_assoc]
  · exact (List.mem_append.1 hd).elim (hhandled d) (hhandled' d)

theorem Drains.leads {s t : Site} (h : Drains s t) : s.Leads t := by
  obtain ⟨later, hlater, hhandled⟩ := h.history
  refine ⟨h.stopping, h.reconnects, later, hlater, fun d hd => ?_⟩
  obtain ⟨x, rfl⟩ := hhandled d hd
  rfl

/-- How a computation in the state of a handler ends that only drains: it never faults, and this
holds of what it gives and of the state it leaves. -/
structure Drained (holds : σ → Prop) (V : α → Prop) (s : Site) (r : Except Halt (α × σ))
    (t : Site) : Prop where
  gives : ∀ a st, r = .ok (a, st) → holds st ∧ V a
  faultless : ∀ f, r ≠ .error (.fault f)
  drains : Drains s t

/-- A computation that only drains, as long as the state of the handler is as it should be. -/
def Tends (holds : σ → Prop) (x : Handling σ α) (V : α → Prop) : Prop :=
  ∀ st w s, holds st →
    Drained holds V s ((x.run st).perform w s).1 ((x.run st).perform w s).2

/-- A handler that keeps to its own work: it never faults, does no deed of a session, enters no
phase, takes no request to stop back and counts no reconnect. -/
def Aside (holds : σ → Prop) (handle : Snapshot → Handling σ Unit) : Prop :=
  ∀ x, Tends holds (handle x) fun _ => True

section

variable {holds : σ → Prop} {handle : Snapshot → Handling σ Unit}

theorem tends_bind {x : Handling σ α} {f : α → Handling σ β} {U : α → Prop} {V : β → Prop}
    (hx : Tends holds x U) (hf : ∀ a, U a → Tends holds (f a) V) : Tends holds (x >>= f) V := by
  intro st w s hst
  obtain ⟨hgives, hfaultless, hdrains⟩ := hx st w s hst
  rw [StateT.run_bind, Run.perform_bind]
  rcases hrun : (x.run st).perform w s with ⟨h | ⟨a, st'⟩, t⟩ <;>
    rw [hrun] at hgives hfaultless hdrains
  · refine ⟨nofun, fun f hf => hfaultless f ?_, hdrains⟩
    obtain rfl := Except.error.inj hf
    rfl
  · obtain ⟨hst', ha⟩ := hgives a st' rfl
    obtain ⟨hgives', hfaultless', hdrains'⟩ := hf a ha st' w t hst'
    exact ⟨hgives', hfaultless', hdrains.trans hdrains'⟩

theorem tends_pure {a : α} {V : α → Prop} (h : V a) : Tends holds (pure a) V := by
  intro st w s hst
  refine ⟨fun b st' hb => ?_, nofun, .refl s⟩
  obtain ⟨rfl, rfl⟩ := Prod.mk.inj (Except.ok.inj hb)
  exact ⟨hst, h⟩

/-- What the controller does itself leaves the handler's state alone. -/
theorem tends_lift {x : Run α}
    (h : ∀ w s, ∃ a, (x.perform w s).1 = .ok a ∧ Drains s (x.perform w s).2) :
    Tends holds (liftM x : Handling σ α) fun _ => True := by
  intro st w s hst
  have hlift : (liftM x : Handling σ α).run st = x >>= fun a => pure (a, st) := rfl
  rw [hlift, Run.perform_bind]
  obtain ⟨a, hok, hdrains⟩ := h w s
  rcases hrun : x.perform w s with ⟨r, t⟩
  rw [hrun] at hok hdrains
  obtain rfl : r = .ok a := hok
  refine ⟨fun b st' hb => ?_, nofun, hdrains⟩
  obtain ⟨-, rfl⟩ := Prod.mk.inj (Except.ok.inj hb)
  exact ⟨hst, trivial⟩

theorem tends_get : Tends holds (getThe Site : Handling σ Site) fun _ => True :=
  tends_lift fun _ s => ⟨s, rfl, .refl s⟩

theorem tends_pool (f : Site → WorkerPool Snapshot) :
    Tends holds (modifyThe Site fun s => { s with pool := f s } : Handling σ PUnit)
      fun _ => True :=
  tends_lift fun _ _ => ⟨⟨⟩, rfl, rfl, id, rfl, [], (List.append_nil _).symm, nofun⟩

theorem tends_noting {x : Noting α} (h : Noting.Spares .reconnects x) :
    Tends holds (liftM (Run.noting x) : Handling σ α) fun _ => True :=
  tends_lift fun _ s => ⟨_, rfl, rfl, id, h s.journal, [], (List.append_nil _).symm, nofun⟩

theorem spares_noteDrained (c : Counter) (p : WorkerPool Snapshot) :
    Noting.Spares c p.noteDrained := by
  have hall : ∀ ns : List Nat, Noting.Spares c (ns.forM fun n =>
      note .debug ("Harvest worker " ++ Number.naturalText n ++ " stopped")) := by
    intro ns
    induction ns with
    | nil => exact fun _ => rfl
    | cons n rest ih =>
        intro j
        exact (ih _).trans (Noting.spares_note c .debug _ j)
  intro j
  exact (Noting.spares_note c .info _ _).trans (hall (List.range p.idle) j)

theorem tends_handleAll (h : Aside holds handle) (fuel : Nat) :
    Tends holds (handleAll handle fuel) fun _ => True := by
  induction fuel with
  | zero => exact tends_pure trivial
  | succ fuel ih =>
      refine tends_bind tends_get ?_
      intro s _
      dsimp only
      split
      · exact tends_pure trivial
      · rename_i x started _
        refine tends_bind (tends_pool fun _ => started) ?_
        intro _ _
        refine tends_bind (tends_lift fun _ s => ?_) ?_
        · exact ⟨⟨⟩, rfl, rfl, id, rfl, [.handled x], s.history_did _, fun d hd =>
            ⟨x, List.mem_singleton.1 hd⟩⟩
        intro _ _
        refine tends_bind (h x) ?_
        intro _ _
        exact tends_bind (tends_pool _) fun _ _ => ih

theorem tends_drain (h : Aside holds handle) : Tends holds (drain handle) fun _ => True := by
  refine tends_bind (tends_noting (Noting.spares_note _ _ _)) ?_
  intro _ _
  refine tends_bind (tends_pool _) ?_
  intro _ _
  refine tends_bind tends_get ?_
  intro s _
  refine tends_bind (tends_handleAll h _) ?_
  intro _ _
  refine tends_bind tends_get ?_
  intro t _
  exact tends_noting (spares_noteDrained .reconnects t.pool)

end

/-! ## The uploader as a handler -/

/-- Entries that count no reconnect. -/
def Unrelated (e : Entry) : Prop := ∀ n, e ≠ .count .reconnects n

theorem unrelated_of_isDelivery {e : Entry} (h : e.isDelivery = true) : Unrelated e := by
  rintro n rfl
  exact nomatch h

/-- The uploader at its desk, where what it writes does not depend on the journal. -/
theorem perform_depot {x : Snapshot} {d : Depot σ} {w : World} {s : Site} {uploader : Uploader σ}
    {shelf : Shelf} {desk : Desk} {es : List Entry}
    (h : ∀ j, Sending.perform (d.uploader.handle s.shelf x) d.desk j =
      ((uploader, shelf), desk, j.addAll es)) :
    ((Depot.handle x).run d).perform w s = (.ok ((), ⟨uploader, desk⟩),
      { s with journal := s.journal.addAll es, shelf := shelf }) := by
  show (Except.ok ((), Depot.mk
    (Sending.perform (d.uploader.handle s.shelf x) d.desk s.journal).1.1
    (Sending.perform (d.uploader.handle s.shelf x) d.desk s.journal).2.1), { s with
      journal := (Sending.perform (d.uploader.handle s.shelf x) d.desk s.journal).2.2
      shelf := (Sending.perform (d.uploader.handle s.shelf x) d.desk s.journal).1.2 }) = _
  rw [h]

/-- **The uploader keeps to its own work**, if its way out counts no reconnect. -/
theorem aside_depot : Aside (fun d : Depot σ => d.desk.outbox.Writes Unrelated) Depot.handle := by
  intro x d w s hd
  obtain ⟨⟨uploader, shelf⟩, desk, es, hes, hdesk, hperform⟩ :=
    Uploader.writes_handle (fun _ => unrelated_of_isDelivery) d.uploader s.shelf x d.desk hd
  rw [perform_depot hperform]
  refine ⟨fun a d' h => ?_, nofun, rfl, id, ?_, [], (List.append_nil _).symm, nofun⟩
  · obtain ⟨-, rfl⟩ := Prod.mk.inj (Except.ok.inj h)
    exact ⟨hdesk, trivial⟩
  · exact Journal.increments_addAll_of_forall hes s.journal

/-! ## Whole runs -/

variable {holds : σ → Prop} {handle : Snapshot → Handling σ Unit} {plan : ControllerPlan}

/-- What is done behind the rounds, whose outcome is given back. -/
def behind (handle : Snapshot → Handling σ Unit) (result : Except Fault Unit) :
    Handling σ (Except Fault Unit) := do
  drain handle
  match result with
  | .ok () => Run.note .info "Recording controller stopped"
  | .error f => Run.note .error ("Recording controller failed: " ++ f.message)
  return result

theorem tends_behind (h : Aside holds handle) (result : Except Fault Unit) :
    Tends holds (behind handle result) (· = result) := by
  refine tends_bind (tends_drain h) ?_
  intro _ _
  cases result with
  | ok _ =>
      exact tends_bind (tends_noting (Noting.spares_note _ _ _)) fun _ _ => tends_pure rfl
  | error f =>
      exact tends_bind (tends_noting (Noting.spares_note _ _ _)) fun _ _ => tends_pure rfl

/-- The rounds, then the workers, in the phase of shutdown. -/
theorem perform_run (st : σ) (w : World) (s : Site) :
    ((Controller.run handle plan).run st).perform w s =
      match (rounds plan).perform w s with
      | (.error .unfinished, t) => (.error .unfinished, t)
      | (.error (.fault f), t) =>
        ((behind handle (.error f)).run st).perform w { t with phase := .shutdown }
      | (.ok (), t) =>
        ((behind handle (.ok ())).run st).perform w { t with phase := .shutdown } := by
  unfold Controller.run
  rw [run_lift_bind, Run.perform_bind, Run.perform_attempt]
  rcases (rounds plan).perform w s with ⟨(f | _) | _, t⟩ <;> rfl

/-- What is done behind the rounds changes nothing about how they went. -/
theorem perform_run_drains (h : Aside holds handle) {st : σ} (hst : holds st) {w : World}
    {s t : Site} {r : Except Halt (Except Fault Unit × σ)}
    (hrun : ((Controller.run handle plan).run st).perform w s = (r, t)) :
    Drains { ((rounds plan).perform w s).2 with phase := t.phase } t ∧
      (∀ f, r ≠ .error (.fault f)) ∧
      ∀ result st', r = .ok (result, st') → t.phase = .shutdown ∧
        ((rounds plan).perform w s).1 = result.mapError .fault := by
  have hbehind : ∀ result (u : Site),
      ((behind handle result).run st).perform w { u with phase := .shutdown } = (r, t) →
      Drains { u with phase := t.phase } t ∧ (∀ f, r ≠ .error (.fault f)) ∧
        ∀ result' st', r = .ok (result', st') → t.phase = .shutdown ∧ result' = result := by
    intro result u hperform
    obtain ⟨hgives, hfaultless, hdrains⟩ :=
      tends_behind h result st w { u with phase := .shutdown } hst
    rw [hperform] at hgives hfaultless hdrains
    have hphase : t.phase = .shutdown := hdrains.phase
    refine ⟨?_, hfaultless, fun result' st' hr => ⟨hphase, (hgives result' st' hr).2⟩⟩
    rw [hphase]
    exact hdrains
  rw [perform_run] at hrun
  rcases hrounds : (rounds plan).perform w s with ⟨(f | _) | _, u⟩ <;> rw [hrounds] at hrun
  · obtain ⟨hdrains, hfaultless, hresult⟩ := hbehind _ u hrun
    refine ⟨hdrains, hfaultless, fun result st' hr => ?_⟩
    obtain ⟨hphase, rfl⟩ := hresult result st' hr
    exact ⟨hphase, rfl⟩
  · obtain ⟨rfl, rfl⟩ := Prod.mk.inj hrun
    exact ⟨.refl u, nofun, nofun⟩
  · obtain ⟨hdrains, hfaultless, hresult⟩ := hbehind _ u hrun
    refine ⟨hdrains, hfaultless, fun result st' hr => ?_⟩
    obtain ⟨hphase, rfl⟩ := hresult result st' hr
    exact ⟨hphase, rfl⟩

/-- A run does only what is allowed. -/
theorem run_lawful (h : Aside holds handle) {st : σ} (hst : holds st) {w : World} {s t : Site}
    {r : Except Halt (Except Fault Unit × σ)} (hfresh : s.deeds = [])
    (hrun : ((Controller.run handle plan).run st).perform w s = (r, t)) :
    Standing.Lawful Standing.restarts t.history := by
  have hempty : s.history = [] := by rw [Site.history, hfresh]; rfl
  have hshaped : s.standing.misshapen = false := by rw [Site.standing, hempty]; rfl
  obtain ⟨later, hlater, hhandled⟩ := (perform_run_drains h hst hrun).1.history
  rw [hlater]
  exact ((harvests_rounds plan w hshaped).lawful (hempty ▸ Standing.lawful_nil)).handled hhandled

/-- **Only shutdown and fatal faults end a run.**  However the target answers, whatever comes of
connecting, and whenever shutdown is asked for:

* a run that returns is in the phase of shutdown, it returns without a fault only if shutdown was
  asked for, and any fault that it returns is fatal;
* as many snapshots are begun as are `taken`, the faults among them that are not fatal are each
  counted as one reconnect, and behind each of them the session is closed and a connect attempted;
* behind an answer of the wrong shape there are only cleanups, the end of the connection, and the
  handling of what is queued: no connect, no retry, no snapshot. -/
theorem run_ends (h : Aside holds handle) {st : σ} (hst : holds st) {w : World} {s t : Site}
    {r : Except Halt (Except Fault Unit × σ)} (hfresh : s.deeds = [])
    (hrun : ((Controller.run handle plan).run st).perform w s = (r, t)) :
    ((∀ f, r ≠ .error (.fault f)) ∧
      ∀ result st', r = .ok (result, st') → t.phase = .shutdown ∧
        (result = .ok () → t.stopping = true) ∧ ∀ f, result = .error f → f.isFatal = true) ∧
    (t.history.countP Deed.isBeginning = (taken plan w s).length ∧
      t.journal.increments .reconnects = s.journal.increments .reconnects ++
        List.replicate ((taken plan w s).countP Trial.isRecoverable) 1 ∧
      ∀ trial ∈ taken plan w s, Trial.isRecoverable trial = true →
        ∃ (session : Session) (answer : Remote.Answer) (c : Except Fault Nat) (later : List Deed),
          t.history = trial.2.history ++ session.replacing answer c ++ later) ∧
    ∀ before d after, t.history = before ++ d :: after → d.isMisshapen = true →
      ∀ e ∈ after, e.windsUp = true := by
  obtain ⟨hdrains, hfaultless, hresult⟩ := perform_run_drains h hst hrun
  have hempty : s.history = [] := by rw [Site.history, hfresh]; rfl
  have hshaped : s.standing.misshapen = false := by rw [Site.standing, hempty]; rfl
  obtain ⟨haccounts, -, hends⟩ := harvests_rounds plan w hshaped
  have hleads : ((rounds plan).perform w s).2.Leads t :=
    ⟨hdrains.leads.stopping, hdrains.leads.reconnects, hdrains.leads.history⟩
  have hall := haccounts.trans (.of_leads hleads)
  rw [List.append_nil] at hall
  refine ⟨⟨hfaultless, fun result st' hr => ?_⟩, ⟨?_, hall.reconnects, hall.followed⟩, ?_⟩
  · obtain ⟨hphase, hrounds⟩ := hresult result st' hr
    refine ⟨hphase, ?_, ?_⟩
    · rintro rfl
      exact hdrains.stopping (hends.stopped hrounds)
    · rintro f rfl
      exact hends.fatal f hrounds
  · obtain ⟨later, hlater, hcount⟩ := hall.history
    rw [hlater, hempty]
    exact hcount
  · intro before d after hsplit hd
    exact (run_lawful h hst hfresh hrun).windsUp hsplit hd

/-- A way out that logs counts no reconnect. -/
theorem writes_idleDepot : idleDepot.desk.outbox.Writes Unrelated :=
  Outbox.writes_logging fun e he n heq => by
    rw [heq] at he
    exact absurd he Bool.false_ne_true

/-- A target that loses the first connection over a clone, and gives a text for an id over the
second. -/
def faltering : World where
  connect deeds := .ok (deeds.countP fun | .attempted _ => true | _ => false)
  answer _ c call :=
    if call.operation = "cloneRecording" then
      if c = 0 then .error (.connectionFailed "down") else .ok (some (.text "7"))
    else .ok (some (.long 7))
  signal _ := .quiet
  chance s := s
  logInterval := .zero
  patience := 3

/-- Whether a run gave a fault back. -/
def gaveFault : Except Halt (Except Fault Unit × Depot Aggregate) → Bool
  | .ok (.error _, _) => true
  | .ok (.ok _, _) | .error _ => false

/-- One reconnect, and the fault that ends the run is fatal. -/
theorem run_ends_faltering :
    ∃ f d t, ((Controller.run Depot.handle copying).run idleDepot).perform faltering smallSite =
        (.ok (.error f, d), t) ∧
      f.isFatal = true ∧ t.phase = .shutdown ∧ t.journal.increments .reconnects = [1] := by
  have hended : gaveFault (((Controller.run Depot.handle copying).run idleDepot).perform faltering
      smallSite).1 = true := by decide +kernel
  have htaken : (taken copying faltering smallSite).countP Trial.isRecoverable = 1 := by
    decide +kernel
  rcases hrun : ((Controller.run Depot.handle copying).run idleDepot).perform faltering
    smallSite with ⟨h | ⟨f | _, d⟩, t⟩
  · rw [hrun] at hended
    exact absurd hended Bool.false_ne_true
  · obtain ⟨⟨-, hreturns⟩, ⟨-, hreconnects, -⟩, -⟩ :=
      run_ends aside_depot writes_idleDepot rfl hrun
    obtain ⟨hphase, -, hfatal⟩ := hreturns _ d rfl
    rw [htaken] at hreconnects
    exact ⟨f, d, t, rfl, hfatal f rfl, hphase, hreconnects⟩
  · rw [hrun] at hended
    exact absurd hended Bool.false_ne_true

end Controller
end RecordingHarvest
