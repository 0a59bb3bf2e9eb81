import RecordingHarvest.Proofs.Site.Accounts
import RecordingHarvest.Retry

/-!
# Rules on the history of a run

`Run.Traces P x Q` says that a computation which starts when what was done since some moment
satisfies `P` ends when that goes, by `Q`, with its outcome, in every world and whatever stands on the
shelf.  A computation that is given up as unfinished has an outcome here too: what it did until then
counts.

* `Traces.bind`, `Traces.attemptBind`: one computation after the other, and with a fault caught.
* `Silent.bind`: a computation that does nothing may come before any other.
* `Retry.traces_rounds`: what waits and failed attempts keep, a retry loop keeps.
-/

namespace RecordingHarvest

namespace Run

variable {α β : Type} {P : List Deed → Prop} {Q : Except Halt α → List Deed → Prop}

/-- If the deeds since `start` satisfy `P` before, then together with the outcome they satisfy `Q`
afterwards, wherever `start` is. -/
def Traces (P : List Deed → Prop) (x : Run α) (Q : Except Halt α → List Deed → Prop) : Prop :=
  ∀ w s start since, s.history = start ++ since → P since →
    ∃ since', (x.perform w s).2.history = start ++ since' ∧ Q (x.perform w s).1 since'

/-- Such a rule is one on history and shelf that takes no notice of world and shelf. -/
theorem traces_iff {x : Run α} : Traces P x Q ↔
    ∀ w start, Accounts w start (fun ds _ => P ds) x fun r ds _ => Q r ds :=
  ⟨fun h w start s since => h w s start since, fun h w s start since => h w start s since⟩

/-- A computation that ends well and does nothing. -/
def Silent (x : Run α) : Prop :=
  ∀ w s, (x.perform w s).1.isOk = true ∧ (x.perform w s).2.history = s.history

/-! ## One computation after the other -/

theorem Traces.weaken {x : Run α} {R : List Deed → Prop} (hx : Traces P x Q)
    (h : ∀ ds, R ds → P ds) : Traces R x Q :=
  traces_iff.2 fun w start => (traces_iff.1 hx w start).weaken fun ds _ => h ds

theorem Traces.bind {x : Run α} {f : α → Run β} {R : Except Halt α → List Deed → Prop}
    {Q : Except Halt β → List Deed → Prop} (hx : Traces P x R)
    (hhalt : ∀ h ds, R (.error h) ds → Q (.error h) ds)
    (hf : ∀ a, Traces (R (.ok a)) (f a) Q) : Traces P (x >>= f) Q :=
  traces_iff.2 fun w start => (traces_iff.1 hx w start).bind (fun h ds _ => hhalt h ds) fun a =>
    traces_iff.1 (hf a) w start

/-- One computation after the other where the fault of the first one is caught. -/
theorem Traces.attemptBind {x : Run α} {f : Except Fault α → Run β}
    {R : Except Halt α → List Deed → Prop} {Q : Except Halt β → List Deed → Prop}
    (hx : Traces P x R) (hunfinished : ∀ ds, R (.error .unfinished) ds → Q (.error .unfinished) ds)
    (hf : ∀ r, Traces (R (passed r)) (f r) Q) : Traces P (attempt x >>= f) Q :=
  traces_iff.2 fun w start => (traces_iff.1 hx w start).attemptBind (fun ds _ => hunfinished ds)
    fun r => traces_iff.1 (hf r) w start

theorem Silent.bind {x : Run α} {f : α → Run β} {Q : Except Halt β → List Deed → Prop}
    (hx : Silent x) (hf : ∀ a, Traces P (f a) Q) : Traces P (x >>= f) Q := by
  intro w s start since hs hP
  obtain ⟨hok, hhistory⟩ := hx w s
  rw [perform_bind]
  rcases hrun : x.perform w s with ⟨h | a, t⟩ <;> rw [hrun] at hok hhistory
  · exact nomatch hok
  · exact hf a w t start since (hhistory.trans hs) hP

/-! ## What a run does -/

theorem silent_noting (x : Noting α) : Silent (noting x) := fun _ _ => ⟨rfl, rfl⟩

theorem silent_note (level : Level) (text : String) : Silent (note level text) := silent_noting _

theorem silent_read : Silent read := fun _ _ => ⟨rfl, rfl⟩

theorem silent_get : Silent get := fun _ _ => ⟨rfl, rfl⟩

theorem traces_pure {a : α} (h : ∀ ds, P ds → Q (.ok a) ds) : Traces P (pure a) Q :=
  traces_iff.2 fun _ _ => accounts_pure fun ds _ => h ds

theorem traces_fail {f : Fault} (h : ∀ ds, P ds → Q (.error (.fault f)) ds) :
    Traces P (fail f) Q := traces_iff.2 fun _ _ => accounts_fail fun ds _ => h ds

theorem traces_giveUp (h : ∀ ds, P ds → Q (.error .unfinished) ds) : Traces P giveUp Q :=
  traces_iff.2 fun _ _ => accounts_giveUp fun ds _ => h ds

theorem traces_ofExcept {r : Except Fault α} (h : ∀ ds, P ds → Q (passed r) ds) :
    Traces P (ofExcept r) Q := traces_iff.2 fun _ _ => accounts_ofExcept fun ds _ => h ds

theorem traces_record {d : Deed} {Q : Except Halt Unit → List Deed → Prop}
    (h : ∀ ds, P ds → Q (.ok ()) (ds ++ [d])) : Traces P (record d) Q :=
  fun _ _ _ since hs hP => ⟨since ++ [d], history_did_since hs d, h since hP⟩

theorem traces_close (c : Nat) {Q : Except Halt Unit → List Deed → Prop}
    (h : ∀ ds, P ds → Q (.ok ()) (ds ++ [.closed c])) : Traces P (close c) Q := traces_record h

/-- An attempt to connect is noted with its outcome, which is passed on. -/
theorem traces_connect {Q : Except Halt Nat → List Deed → Prop}
    (h : ∀ r ds, P ds → Q (passed r) (ds ++ [.attempted r])) : Traces P connect Q := by
  intro w s start since hs hP
  have hpassed : Traces (· = since ++ [.attempted (w.connect s.deeds)])
      (ofExcept (w.connect s.deeds)) Q := traces_ofExcept fun _ hds => hds ▸ h _ _ hP
  exact hpassed w (s.did _) start _ (history_did_since hs _) rfl

/-- A call is noted with its answer, which is passed on. -/
theorem traces_invoke (c : Nat) (call : Remote.Invocation)
    {Q : Except Halt (Option Remote.Value) → List Deed → Prop}
    (h : ∀ (answer : Remote.Answer) ds, P ds →
      Q (passed answer) (ds ++ [.invoked c call answer])) :
    Traces P (invoke c call) Q :=
  traces_iff.2 fun _ _ => accounts_invoke c call fun ds _ answer hP _ => h answer ds hP

/-- A look at something else finds at most that shutdown was asked for. -/
theorem traces_of_asked {x : Run α}
    (hx : ∀ w s, ∃ a, x.perform w s = (.ok a, s) ∨ x.perform w s = (.ok a, s.asked))
    (h : ∀ a ds, P ds → Q (.ok a) ds ∧ Q (.ok a) (ds ++ [.stopped])) : Traces P x Q := by
  intro w s start since hs hP
  obtain ⟨a, hquiet | hasked⟩ := hx w s
  · rw [hquiet]
    exact ⟨since, hs, (h a _ hP).1⟩
  · have hhistory : s.asked.history = start ++ (since ++ [.stopped]) :=
      history_did_since hs .stopped
    rw [hasked]
    exact ⟨_, hhistory, (h a _ hP).2⟩

theorem traces_listen {Q : Except Halt StopSignal → List Deed → Prop}
    (h : ∀ a ds, P ds → Q (.ok a) ds ∧ Q (.ok a) (ds ++ [.stopped])) : Traces P listen Q :=
  traces_of_asked listen_finds h

theorem traces_stopping {Q : Except Halt Bool → List Deed → Prop}
    (h : ∀ a ds, P ds → Q (.ok a) ds ∧ Q (.ok a) (ds ++ [.stopped])) : Traces P stopping Q :=
  traces_of_asked stopping_finds h

/-- What waiting keeps: a property of the history that sleeps and shutdown do not break. -/
structure Waits (P : List Deed → Prop) : Prop where
  paused : ∀ ds span, P ds → P (ds ++ [.paused span])
  stopped : ∀ ds, P ds → P (ds ++ [.stopped])

theorem traces_pause (hP : Waits P) (span : Span) :
    Traces P (pause span) fun r ds => r = .ok () ∧ P ds := by
  have hpaused : Traces P (record (.paused span)) fun r ds => r = .ok () ∧ P ds :=
    traces_record fun ds hds => ⟨rfl, hP.paused ds span hds⟩
  refine hpaused.bind (fun h ds hds => nomatch hds.1) fun _ => ?_
  have hmoved : Traces (fun ds => (.ok () : Except Halt Unit) = .ok () ∧ P ds)
      (modify fun site => { site with now := site.now.advance span }) fun r ds =>
        r = .ok ⟨⟩ ∧ P ds := fun _ _ _ since hs hds => ⟨since, hs, rfl, hds.2⟩
  refine hmoved.bind (fun h ds hds => nomatch hds.1) fun _ => ?_
  have hlistened : Traces (fun ds => (.ok ⟨⟩ : Except Halt PUnit) = .ok ⟨⟩ ∧ P ds) listen
      fun r ds => r.isOk = true ∧ P ds :=
    traces_listen fun a ds hds => ⟨⟨rfl, hds.2⟩, rfl, hP.stopped ds hds.2⟩
  exact hlistened.bind (fun h ds hds => nomatch hds.1) fun _ => traces_pure fun ds hds =>
    ⟨rfl, hds.2⟩

end Run

/-! ## Retry loops -/

namespace Retry

open Run (Traces Waits)

variable {α : Type} {P : List Deed → Prop} {done : α → List Deed → Prop} {op : Nat → Run α}

/-- What is kept until something succeeds, and what holds when it has. -/
def Until (P : List Deed → Prop) (done : α → List Deed → Prop) : Except Halt α → List Deed → Prop
  | .ok a => done a
  | .error _ => P

/-- The same for what may be left without result. -/
def UntilSome (P : List Deed → Prop) (done : α → List Deed → Prop) :
    Except Halt (Option α) → List Deed → Prop := Until P fun found => found.elim P done

/-- **What waits and failed attempts keep, a retry loop keeps**, until an attempt succeeds. -/
theorem traces_rounds (hP : Waits P)
    (hop : ∀ n, Traces P (op n) (Until P done))
    (abandon : Bool) (name : String) (fuel attempts : Nat) (backoff : Backoff)
    (throttle : LogThrottle) :
    Traces P (rounds abandon name op fuel attempts backoff throttle) (UntilSome P done) := by
  induction fuel generalizing attempts backoff throttle with
  | zero => exact Run.traces_giveUp fun _ hds => hds
  | succ fuel ih =>
      refine (hop _).attemptBind (fun _ hds => hds) ?_
      intro r
      cases r with
      | ok a =>
          by_cases hretried : 1 < min (attempts + 1) tryLimit
          · simp only [hretried, ↓reduceIte]
            exact (Run.silent_note _ _).bind fun _ => Run.traces_pure fun _ hds => hds
          · simp only [hretried, ↓reduceIte]
            exact Run.traces_pure fun _ hds => hds
      | error f =>
          by_cases hfatal : f.isFatal = true
          · simp only [hfatal, ↓reduceIte]
            exact Run.traces_fail fun _ hds => hds
          simp only [hfatal, Bool.false_eq_true, ↓reduceIte]
          refine Run.silent_read.bind ?_
          intro w
          cases hnext : backoff.next w.chance with
          | none => exact (Run.silent_note _ _).bind fun _ => Run.traces_fail fun _ hds => hds
          | some given =>
              refine Run.silent_get.bind ?_
              intro s
              refine (Run.silent_note _ _).bind ?_
              intro _
              refine (Run.traces_pause hP _).bind (fun _ _ hds => nomatch hds.1) ?_
              intro _
              have hagain : Traces P (rounds abandon name op fuel (min (attempts + 1) tryLimit)
                  given.2 (throttle.after s.now)) _ := ih _ _ _
              have hlook : Traces (fun ds => (.ok () : Except Halt Unit) = .ok () ∧ P ds)
                  Run.stopping fun r ds => r.isOk = true ∧ P ds :=
                Run.traces_stopping fun _ ds hds => ⟨⟨rfl, hds.2⟩, rfl, hP.stopped ds hds.2⟩
              refine hlook.bind (fun _ _ hds => nomatch hds.1) ?_
              intro stopped
              by_cases hleft : (abandon && stopped) = true
              · simp only [hleft, ↓reduceIte]
                exact Run.traces_pure fun _ hds => hds.2
              · simp only [hleft, Bool.false_eq_true, ↓reduceIte]
                exact hagain.weaken fun _ hds => hds.2

variable {found : Nat → List Deed → Prop}

/-- A connection is found by an attempt; what failed attempts and waits keep is kept until then, and
if there is none. -/
theorem traces_connect (hP : Waits P)
    (hfailed : ∀ f ds, P ds → P (ds ++ [.attempted (.error f)]))
    (hfound : ∀ c ds, P ds → found c (ds ++ [.attempted (.ok c)])) (policy : BackoffPolicy) :
    Traces P (connect policy) (Until P found) := by
  have hattempt : Traces P Run.connect (Until P found) := by
    refine Run.traces_connect ?_
    rintro (f | c) ds hds
    · exact hfailed f ds hds
    · exact hfound c ds hds
  have hrounds : Traces P (untilStopped false "connect to target" policy fun _ => Run.connect)
      (UntilSome P found) :=
    Run.silent_read.bind fun _ => traces_rounds hP (fun _ => hattempt) _ _ _ _ _ _
  have huntil : Traces P (connectUntilStopped false policy) (UntilSome P found) := by
    refine hrounds.bind (fun _ _ hds => hds) ?_
    rintro (_ | c)
    · exact Run.traces_pure fun _ hds => hds
    · exact (Run.silent_note _ _).bind fun _ => Run.traces_pure fun _ hds => hds
  refine huntil.bind (fun _ _ hds => hds) ?_
  rintro (_ | c)
  · exact Run.traces_giveUp fun _ hds => hds
  · exact Run.traces_pure fun _ hds => hds

end Retry
end RecordingHarvest
