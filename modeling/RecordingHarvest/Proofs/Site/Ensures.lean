import RecordingHarvest.Proofs.Effects
import RecordingHarvest.Site

/-!
# What a run ensures

`Run.Ensures` says what holds of the outcome of a computation, a fault included, and of the site it
leaves.  A computation that is given up as unfinished has no outcome, and nothing is said of it.

* `ensures_bind`, `ensures_attempt`: one computation after the other, and one with its fault caught.
* One rule for each thing that a run does to its site; the ones that do not touch the deeds or the
  site's answers are stated by what they leave.
-/

namespace RecordingHarvest

/-- The site after one more deed. -/
def Site.did (s : Site) (d : Deed) : Site := { s with deeds := d :: s.deeds }

@[simp] theorem Site.deeds_did (s : Site) (d : Deed) : (s.did d).deeds = d :: s.deeds := rfl

namespace Run

variable {α β : Type} {w : World} {s : Site}

/-- What holds of the outcome and of the site when the computation ends. -/
def Ensures (w : World) (s : Site) (x : Run α) (Q : Except Fault α → Site → Prop) : Prop :=
  match x.perform w s with
  | (.ok a, t) => Q (.ok a) t
  | (.error (.fault f), t) => Q (.error f) t
  | (.error .unfinished, _) => True

/-! ## Building computations -/

theorem perform_bind (x : Run α) (f : α → Run β) (w : World) (s : Site) :
    (x >>= f).perform w s =
      match x.perform w s with
      | (.ok a, t) => (f a).perform w t
      | (.error h, t) => (.error h, t) := by
  simp only [perform, bind, ReaderT.bind, ExceptT.bind, ExceptT.run, ExceptT.mk, StateT.bind]
  rcases x w s with ⟨a | h, t⟩ <;> rfl

@[simp] theorem perform_pure (a : α) (w : World) (s : Site) :
    (pure a : Run α).perform w s = (.ok a, s) := rfl

@[simp] theorem perform_read (w : World) (s : Site) :
    (read : Run World).perform w s = (.ok w, s) := rfl

@[simp] theorem perform_get (w : World) (s : Site) :
    (get : Run Site).perform w s = (.ok s, s) := rfl

@[simp] theorem perform_modify (f : Site → Site) (w : World) (s : Site) :
    (modify f : Run PUnit).perform w s = (.ok ⟨⟩, f s) := rfl

@[simp] theorem perform_record (d : Deed) (w : World) (s : Site) :
    (record d).perform w s = (.ok (), s.did d) := rfl

theorem perform_tryCatch (x : Run α) (rescue : Halt → Run α) (w : World) (s : Site) :
    (tryCatch x rescue : Run α).perform w s =
      match x.perform w s with
      | (.ok a, t) => (.ok a, t)
      | (.error h, t) => (rescue h).perform w t := by
  simp only [perform, tryCatch, tryCatchThe, MonadExceptOf.tryCatch, ExceptT.tryCatch, ExceptT.mk,
    bind, ExceptT.run, StateT.bind]
  rcases x w s with ⟨a | h, t⟩ <;> rfl

theorem perform_attempt (x : Run α) (w : World) (s : Site) :
    (attempt x).perform w s =
      match x.perform w s with
      | (.ok a, t) => (.ok (.ok a), t)
      | (.error (.fault f), t) => (.ok (.error f), t)
      | (.error .unfinished, t) => (.error .unfinished, t) := by
  rw [attempt, perform_tryCatch, perform_bind]
  rcases x.perform w s with ⟨(_ | f) | a, t⟩ <;> rfl

theorem ensures_bind {x : Run α} {f : α → Run β} {P : Except Fault α → Site → Prop}
    {Q : Except Fault β → Site → Prop} (hx : Ensures w s x P)
    (hfault : ∀ g t, P (.error g) t → Q (.error g) t)
    (hok : ∀ a t, P (.ok a) t → Ensures w t (f a) Q) : Ensures w s (x >>= f) Q := by
  unfold Ensures at hx ⊢
  rw [perform_bind]
  rcases hrun : x.perform w s with ⟨(g | _) | a, t⟩ <;> rw [hrun] at hx
  · exact hfault g t hx
  · trivial
  · exact hok a t hx

/-- A step that cannot fail leaves its site to what comes after it. -/
theorem ensures_step {x : Run α} {f : α → Run β} {Q : Except Fault β → Site → Prop} {a : α}
    {t : Site} (hx : x.perform w s = (.ok a, t)) (h : Ensures w t (f a) Q) :
    Ensures w s (x >>= f) Q := by
  unfold Ensures at h ⊢
  rw [perform_bind, hx]
  exact h

theorem ensures_attempt {x : Run α} {Q : Except Fault α → Site → Prop} (hx : Ensures w s x Q) :
    Ensures w s (attempt x) fun r t =>
      match r with
      | .ok outcome => Q outcome t
      | .error _ => False := by
  unfold Ensures at hx ⊢
  rw [perform_attempt]
  rcases hrun : x.perform w s with ⟨(g | _) | a, t⟩ <;> rw [hrun] at hx
  · exact hx
  · trivial
  · exact hx

theorem Ensures.mono {x : Run α} {P Q : Except Fault α → Site → Prop} (hx : Ensures w s x P)
    (hPQ : ∀ r t, P r t → Q r t) : Ensures w s x Q := by
  unfold Ensures at hx ⊢
  rcases hrun : x.perform w s with ⟨(g | _) | a, t⟩ <;> rw [hrun] at hx
  · exact hPQ _ t hx
  · trivial
  · exact hPQ _ t hx

/-- What a computation ensures, read off a run that ended. -/
theorem Ensures.of_ok {x : Run α} {Q : Except Fault α → Site → Prop} (hx : Ensures w s x Q) {a : α}
    {t : Site} (hrun : x.perform w s = (.ok a, t)) : Q (.ok a) t := by
  unfold Ensures at hx
  rw [hrun] at hx
  exact hx

theorem Ensures.of_fault {x : Run α} {Q : Except Fault α → Site → Prop} (hx : Ensures w s x Q)
    {f : Fault} {t : Site} (hrun : x.perform w s = (.error (.fault f), t)) : Q (.error f) t := by
  unfold Ensures at hx
  rw [hrun] at hx
  exact hx

section

variable {Q : Except Fault α → Site → Prop}

theorem ensures_pure (a : α) (h : Q (.ok a) s) : Ensures w s (pure a) Q := h

theorem ensures_fail (f : Fault) (h : Q (.error f) s) : Ensures w s (fail f) Q := h

theorem ensures_giveUp : Ensures w s giveUp Q := trivial

theorem ensures_ofExcept (r : Except Fault α) (h : Q r s) : Ensures w s (ofExcept r) Q := by
  cases r <;> exact h

theorem ensures_noting (x : Noting α) (h : Q (.ok (Noting.perform x s.journal).1)
    { s with journal := (Noting.perform x s.journal).2 }) : Ensures w s (noting x) Q := h

/-- A step on disk changes nothing but the shelf; it is noted with what comes of it, which is passed
on. -/
theorem perform_onShelf (step : FileStep) (act : Shelf → Except Fault α × Shelf) (w : World)
    (s : Site) :
    (onShelf step act).perform w s =
      (ofExcept (w.carry s.deeds step act s.shelf).1).perform w
        ({ s with shelf := (w.carry s.deeds step act s.shelf).2 }.did
          (.filed step ((w.carry s.deeds step act s.shelf).1.map fun _ => ()))) := rfl

theorem ensures_onShelf (step : FileStep) (act : Shelf → Except Fault α × Shelf)
    (h : ∀ r shelf, Q r ({ s with shelf := shelf }.did (.filed step (r.map fun _ => ())))) :
    Ensures w s (onShelf step act) Q := by
  unfold Ensures
  rw [perform_onShelf]
  exact ensures_ofExcept _ (h _ _)

end

theorem ensures_read {Q : Except Fault World → Site → Prop} (h : Q (.ok w) s) :
    Ensures w s read Q := h

theorem ensures_get {Q : Except Fault Site → Site → Prop} (h : Q (.ok s) s) :
    Ensures w s get Q := h

theorem ensures_modify (f : Site → Site) {Q : Except Fault PUnit → Site → Prop}
    (h : Q (.ok ⟨⟩) (f s)) : Ensures w s (modify f) Q := h

/-! ## What a run does -/

section

variable {Q : Except Fault Unit → Site → Prop}

theorem ensures_record (d : Deed) (h : Q (.ok ()) (s.did d)) : Ensures w s (record d) Q := h

theorem ensures_close (connection : Nat) (h : Q (.ok ()) (s.did (.closed connection))) :
    Ensures w s (close connection) Q := h

theorem ensures_enter (phase : Phase) (h : Q (.ok ()) { s with phase := phase }) :
    Ensures w s (enter phase) Q := h

end

/-- An attempt to connect is noted with its outcome, which is passed on. -/
theorem ensures_connect {Q : Except Fault Nat → Site → Prop}
    (h : Q (w.connect s.deeds) (s.did (.attempted (w.connect s.deeds)))) :
    Ensures w s connect Q :=
  ensures_ofExcept (s := s.did (.attempted (w.connect s.deeds))) _ h

/-- A call is noted with its answer, which is passed on. -/
theorem ensures_invoke (connection : Nat) (call : Remote.Invocation)
    {Q : Except Fault (Option Remote.Value) → Site → Prop}
    (h : Q (w.answer s.deeds connection call)
      (s.did (.invoked connection call (w.answer s.deeds connection call)))) :
    Ensures w s (invoke connection call) Q :=
  ensures_ofExcept (s := s.did (.invoked connection call (w.answer s.deeds connection call))) _ h

/-- Discarding a snapshot changes the shelf and the journal. -/
theorem ensures_discard (x : Snapshot) {Q : Except Fault Unit → Site → Prop}
    (h : ∀ shelf journal, Q (.ok ()) { s with shelf := shelf, journal := journal }) :
    Ensures w s (discard x) Q := h _ _

/-- Listening for shutdown adds at most that it was asked for. -/
theorem ensures_listen {Q : Except Fault StopSignal → Site → Prop}
    (hquiet : w.signal s.deeds = .quiet → Q (.ok .quiet) s)
    (hasked : w.signal s.deeds ≠ .quiet →
      Q (.ok (w.signal s.deeds)) { s.did .stopped with stopping := true }) :
    Ensures w s listen Q := by
  unfold Ensures listen
  by_cases hsignal : w.signal s.deeds = .quiet
  · simp only [perform_bind, perform_read, perform_get, hsignal, ↓reduceIte, perform_pure]
    exact hquiet hsignal
  · simp only [perform_bind, perform_read, perform_get, hsignal, ↓reduceIte, perform_modify,
      perform_record, perform_pure]
    exact hasked hsignal

/-- A retry sleep moves the clock on, and shutdown may be asked for in it. -/
theorem ensures_pause (span : Span) {Q : Except Fault Unit → Site → Prop}
    (hquiet : Q (.ok ()) { s.did (.paused span) with now := s.now.advance span })
    (hasked : Q (.ok ()) { (s.did (.paused span)).did .stopped with
      now := s.now.advance span, stopping := true }) :
    Ensures w s (pause span) Q := by
  refine ensures_step (perform_record ..) (ensures_step (perform_modify ..) ?_)
  refine ensures_bind (P := fun r t => Q (r.map fun _ => ()) t) (ensures_listen ?_ ?_)
    (fun _ _ h => h) (fun _ _ h => h)
  · exact fun _ => hquiet
  · exact fun _ => hasked

/-- A harvest sleep, cut short only if shutdown was asked for in it. -/
theorem ensures_rest (span : Span) {Q : Except Fault Bool → Site → Prop}
    (hquiet : Q (.ok true) (s.did (.rested span)))
    (hasked : ∀ completed, Q (.ok completed)
      { (s.did (.rested span)).did .stopped with stopping := true }) :
    Ensures w s (rest span) Q := by
  refine ensures_step (perform_record ..) ?_
  refine ensures_bind (P := fun r t => Q (r.map fun signal => decide (signal ≠ StopSignal.duringSleep)) t)
    (ensures_listen ?_ ?_) (fun _ _ h => h) (fun _ _ h => h)
  · exact fun _ => hquiet
  · exact fun _ => hasked _

/-- A look at the shutdown flag adds at most that shutdown was asked for. -/
theorem ensures_stopping {Q : Except Fault Bool → Site → Prop}
    (hflag : Q (.ok s.stopping) s)
    (hasked : Q (.ok true) { s.did .stopped with stopping := true }) : Ensures w s stopping Q := by
  unfold Ensures stopping
  by_cases hasks : (!s.stopping && w.asks s.deeds) = true
  · simp only [perform_bind, perform_read, perform_get, hasks, ↓reduceIte, perform_modify,
      perform_record]
    exact hasked
  · simp only [perform_bind, perform_read, perform_get, hasks]
    exact hflag

end Run
end RecordingHarvest
