import RecordingHarvest.Proofs.Workers.Turns

/-!
# Workers lost to panics

A worker whose job panics is lost, and nothing replaces it.  The jobs that were queued are taken up
in their order all the same, as long as one worker is left; the panic that costs the last worker
costs the jobs that still wait.

* `Steps.few_running`: no more jobs run at a time than there are workers.
* `Steps.winds_up`: the workers of a pool that is shut down use up what work is left.
* `Steps.takes_nothing`: a pool that lost all its workers takes no job up any more.
* `Steps.outlasts_panics`: what becomes of the jobs, whatever they do.
-/

namespace RecordingHarvest
namespace WorkerPool

variable {α : Type} {n : Nat} {moves : List (Move α)} {p q : WorkerPool α}

/-- A first move, and others after it. -/
theorem Steps.cons {p q r : WorkerPool α} {m : Move α} (hstep : Step p m q) (h : Steps q moves r) :
    Steps p (m :: moves) r := by
  induction h with
  | none => exact .snoc .none hstep
  | snoc _ hlast ih => exact .snoc ih hlast

/-- No more jobs run at a time than there are workers. -/
theorem Steps.few_running (h : Steps (new n) moves p) : p.running.length ≤ max n 1 := by
  have hstaff := h.books.staff
  omega

/-- Before shutdown every job that is offered is queued, unless all workers are lost. -/
theorem Steps.accepts (h : Steps (new n) moves p) (hkept : moves.countP Move.isPanic < max n 1)
    {during behind : List (Move α)} (hsplit : moves = during ++ behind)
    (hopen : during.any Move.isClosing = false) :
    during.filterMap Move.queued? = during.filterMap Move.offered? := by
  obtain ⟨q, hduring⟩ := h.of_append hsplit
  apply hduring.queued_eq_offered hopen
  rw [hsplit, List.countP_append] at hkept
  omega

/-- Once every worker has stopped, but not all were lost, every job that was queued was taken up
and has ended. -/
theorem Steps.all_ended (h : Steps (new n) moves p) (hkept : moves.countP Move.isPanic < max n 1)
    (hp : p.Deserted) :
    moves.filterMap Move.takenUp? = moves.filterMap Move.queued? ∧
      (moves.filterMap Move.ended?).Perm (moves.filterMap Move.queued?) := by
  obtain ⟨hjobs, htaken, -, -, -, -⟩ := h.books
  rw [(h.books.exhausted_of_deserted hkept hp).1, List.append_nil] at hjobs
  rw [hp.2, List.append_nil, hjobs] at htaken
  exact ⟨hjobs, htaken⟩

/-- Some worker makes a move, whichever way the jobs end. -/
def GoesOn (p : WorkerPool α) : Prop :=
  ∀ how : JobEnd, ∃ m q, Step p m q ∧ m.byWorker = true ∧ (m.isPanic = true → how = .panicked)

/-- While a job waits and a worker is left, the pool goes on. -/
theorem Steps.goesOn (h : Steps (new n) moves p) (hkept : moves.countP Move.isPanic < max n 1)
    (hwaits : p.waiting ≠ []) : p.GoesOn := by
  have hp : ¬p.Deserted := fun hp => hwaits (h.books.exhausted_of_deserted hkept hp).1
  exact exists_step (.inl hwaits) hp

/-- A pool that is shut down stays so, and its workers use up what work is left. -/
theorem Steps.winds_up {more : List (Move α)} (hclosed : p.accepting = false)
    (h : Steps p more q) :
    q.accepting = false ∧ more.countP Move.byWorker + q.workLeft ≤ p.workLeft := by
  induction h with
  | none => exact ⟨hclosed, by simp⟩
  | @snoc moves q r m _ hstep ih =>
      obtain ⟨hq, hwork⟩ := ih
      refine ⟨by rw [hstep.accepting, hq, Bool.false_and], ?_⟩
      rw [countP_snoc]
      cases hworker : m.byWorker with
      | true =>
          have hless := hstep.workLeft_lt hworker
          rw [Bool.toNat_true]
          omega
      | false =>
          have hsame : r.workLeft = q.workLeft := by
            cases hstep with
            | queue h => exact nomatch (submit_ok h).1.symm.trans hq
            | refuse _ | close => rfl
            | takeUp _ | finish _ _ | leave => exact nomatch hworker
          rw [Bool.toNat_false, hsame]
          exact hwork

/-- A pool is deserted once as many jobs have panicked as it had workers. -/
theorem Steps.deserted_of_lost (h : Steps (new n) moves p)
    (hlost : max n 1 ≤ moves.countP Move.isPanic) : p.Deserted := by
  have hstaff := h.books.staff
  exact ⟨by omega, List.length_eq_zero_iff.1 (by omega)⟩

/-- Nobody works in a deserted pool, and nobody comes. -/
theorem Step.deserted {m : Move α} (h : Step p m q) (hp : p.Deserted) :
    q.Deserted ∧ m.takenUp? = none := by
  obtain ⟨hidle, hrunning⟩ := hp
  cases h with
  | queue h => obtain ⟨-, rfl⟩ := submit_ok h; exact ⟨⟨hidle, hrunning⟩, rfl⟩
  | refuse _ | close => exact ⟨⟨hidle, hrunning⟩, rfl⟩
  | takeUp h =>
      obtain ⟨idle, rest, hsome, -⟩ := takeUp?_eq_some h
      exact nomatch hidle.symm.trans hsome
  | finish how h =>
      rw [hrunning] at h
      exact nomatch h
  | leave hsome _ _ => exact nomatch hidle.symm.trans hsome

/-- What waits in a deserted pool is never taken up. -/
theorem Steps.takes_nothing {more : List (Move α)} (h : Steps p more q) (hp : p.Deserted) :
    q.Deserted ∧ more.filterMap Move.takenUp? = [] := by
  induction h with
  | none => exact ⟨hp, rfl⟩
  | snoc _ hstep ih =>
      obtain ⟨hdeserted, hnone⟩ := ih
      obtain ⟨hnext, hlast⟩ := hstep.deserted hdeserted
      refine ⟨hnext, ?_⟩
      rw [filterMap_snoc, hnone, hlast]
      rfl

/-- **What becomes of jobs, whatever they do.**  Jobs are offered to a pool, its workers take turns,
and some jobs panic:

* what was taken up and what waits is what was queued, in that order; what has ended and what runs
  is what was taken up; and no more jobs run at a time than there are workers, of which there is
  one at least;
* if fewer jobs have panicked than there are workers, every job offered before shutdown was queued;
  the pool goes on as long as a job waits; and once every worker has stopped, every job that was
  queued was taken up and has ended;
* if as many have, no worker is left, and what still waits is not taken up whatever happens then;
* after shutdown the pool goes on until all workers have stopped, which they have after no more moves
  than there is work left. -/
theorem Steps.outlasts_panics (h : Steps (new n) moves p) :
    (moves.filterMap Move.takenUp? ++ p.waiting = moves.filterMap Move.queued? ∧
      (moves.filterMap Move.ended? ++ p.running).Perm (moves.filterMap Move.takenUp?) ∧
      p.running.length ≤ max n 1) ∧
    (moves.countP Move.isPanic < max n 1 →
      (∀ during behind, moves = during ++ behind → during.any Move.isClosing = false →
        during.filterMap Move.queued? = during.filterMap Move.offered?) ∧
      (p.waiting ≠ [] → p.GoesOn) ∧
      (p.Deserted → moves.filterMap Move.takenUp? = moves.filterMap Move.queued? ∧
        (moves.filterMap Move.ended?).Perm (moves.filterMap Move.queued?))) ∧
    (max n 1 ≤ moves.countP Move.isPanic → p.Deserted ∧
      ∀ more q, Steps p more q → more.filterMap Move.takenUp? = []) ∧
    (p.accepting = false → (¬p.Deserted → p.GoesOn) ∧
      ∀ more q, Steps p more q → more.countP Move.byWorker ≤ p.workLeft) := by
  refine ⟨⟨h.books.jobs, h.books.taken, h.few_running⟩, ?_, ?_, ?_⟩
  · intro hkept
    exact ⟨fun _ _ => h.accepts hkept, h.goesOn hkept, h.all_ended hkept⟩
  · intro hlost
    have hp := h.deserted_of_lost hlost
    exact ⟨hp, fun more q hmore => (hmore.takes_nothing hp).2⟩
  · intro hclosed
    refine ⟨exists_step (.inr hclosed), fun more q hmore => ?_⟩
    have hwork := (hmore.winds_up hclosed).2
    omega

/-- The first of three jobs panics in a pool of two workers; the one that is left runs the others. -/
theorem Steps.outlasts_panics_first :
    let moves : List (Move Nat) :=
      [.queued 1, .queued 2, .takenUp 1, .ended 1 .panicked, .queued 3, .takenUp 2,
        .ended 2 .returned, .closed, .refused 4, .takenUp 3, .ended 3 .returned, .left]
    ∃ p, Steps (new 2) moves p ∧ moves.countP Move.isPanic < max 2 1 ∧ p.Deserted ∧
      moves.filterMap Move.takenUp? = [1, 2, 3] ∧
      (moves.filterMap Move.ended?).Perm [1, 2, 3] := by
  intro moves
  obtain ⟨p, hmoves, hp⟩ : ∃ p, Steps (new 2) moves p ∧ p.Deserted :=
    ⟨_, .cons (.queue rfl) (.cons (.queue rfl) (.cons (.takeUp rfl) (.cons (.finish (i := 0) _ rfl)
      (.cons (.queue rfl) (.cons (.takeUp rfl) (.cons (.finish (i := 0) _ rfl) (.cons .close
      (.cons (.refuse rfl) (.cons (.takeUp rfl) (.cons (.finish (i := 0) _ rfl)
      (.cons (.leave rfl rfl rfl) .none))))))))))), rfl, rfl⟩
  have hkept : moves.countP Move.isPanic < max 2 1 := by decide
  obtain ⟨-, hfew, -⟩ := hmoves.outlasts_panics
  exact ⟨p, hmoves, hkept, hp, (hfew hkept).2.2 hp⟩

/-- **A panicking job keeps others from running.**  When the only worker of a pool is lost to the
first of two jobs that were accepted, a third one is refused before shutdown, and the second one is
not taken up whatever happens then. -/
theorem Steps.lost_to_panics :
    let moves : List (Move Nat) :=
      [.queued 1, .queued 2, .takenUp 1, .ended 1 .panicked, .refused 3, .closed]
    ∃ p, Steps (new 1) moves p ∧ p.Deserted ∧ p.waiting = [2] ∧
      ∀ more q, Steps p more q → more.filterMap Move.takenUp? = [] := by
  refine ⟨_, .cons (.queue rfl) (.cons (.queue rfl) (.cons (.takeUp rfl)
    (.cons (.finish (i := 0) _ rfl) (.cons (.refuse rfl) (.cons .close .none))))),
    ⟨rfl, rfl⟩, rfl, ?_⟩
  intro more q hmore
  exact (hmore.takes_nothing ⟨rfl, rfl⟩).2

end WorkerPool
end RecordingHarvest
