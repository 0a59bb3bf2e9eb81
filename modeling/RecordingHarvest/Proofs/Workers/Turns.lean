import Mathlib.Data.List.Perm.Basic
import RecordingHarvest.WorkerPool

/-!
# Workers taking turns

Jobs are offered to a pool while its workers take up, run and end others.  `WorkerPool.Step` is one
move of the one or the other, `WorkerPool.Steps` any number of them in any order, with the log of
what was moved.

* `Books`: what the log and the pool have to do with each other, kept by every step.  Jobs are
  taken up in the order they were queued, each once; a job that runs or has ended was taken up; a
  worker is idle, at work, lost to a panic, or has stopped.
* `Steps.attended`: jobs that all return are all taken up, in order, and have all ended once every
  worker has stopped.
* `Steps.can_stop`: and after shutdown the workers always get there.
-/

namespace RecordingHarvest
namespace WorkerPool

variable {α : Type}

/-! ## Moves -/

/-- One thing that happens to a pool. -/
inductive Move (α : Type) where
  /-- A job was offered and queued. -/
  | queued (job : α)
  /-- A job was offered and not accepted. -/
  | refused (job : α)
  /-- An idle worker took the oldest job up. -/
  | takenUp (job : α)
  | ended (job : α) (how : JobEnd)
  /-- No more jobs are accepted. -/
  | closed
  /-- An idle worker that had nothing left to wait for stopped. -/
  | left

namespace Move

def queued? : Move α → Option α
  | queued job => some job
  | _ => none

/-- The job of an offer, accepted or not. -/
def offered? : Move α → Option α
  | queued job | refused job => some job
  | _ => none

def takenUp? : Move α → Option α
  | takenUp job => some job
  | _ => none

def ended? : Move α → Option α
  | ended job _ => some job
  | _ => none

/-- Whether a job panicked, which its worker does not survive. -/
def isPanic : Move α → Bool
  | ended _ .panicked => true
  | _ => false

/-- Whether a job ended by returning. -/
def isReturn : Move α → Bool
  | ended _ .returned => true
  | _ => false

def isLeaving : Move α → Bool
  | left => true
  | _ => false

def isClosing : Move α → Bool
  | closed => true
  | _ => false

/-- Whether a worker makes the move. -/
def byWorker : Move α → Bool
  | takenUp _ | ended _ _ | left => true
  | queued _ | refused _ | closed => false

end Move

/-- One move, of whoever offers jobs or of a worker. -/
inductive Step : WorkerPool α → Move α → WorkerPool α → Prop
  | queue {p q : WorkerPool α} {job : α} (h : p.submit job = .ok q) : Step p (.queued job) q
  | refuse {p : WorkerPool α} {job : α} {f : Fault} (h : p.submit job = .error f) :
      Step p (.refused job) p
  | takeUp {p q : WorkerPool α} {job : α} (h : p.takeUp? = some (job, q)) : Step p (.takenUp job) q
  | finish {p : WorkerPool α} {i : Nat} {job : α} (how : JobEnd) (h : p.running[i]? = some job) :
      Step p (.ended job how) (p.finish i how)
  | close {p : WorkerPool α} : Step p .closed p.close
  | leave {p : WorkerPool α} {idle : Nat} (hidle : p.idle = idle + 1) (hwaiting : p.waiting = [])
      (hclosed : p.accepting = false) : Step p .left { p with idle := idle }

/-- Any number of moves, with the log of them. -/
inductive Steps (start : WorkerPool α) : List (Move α) → WorkerPool α → Prop
  | none : Steps start [] start
  | snoc {moves : List (Move α)} {p q : WorkerPool α} {m : Move α} :
      Steps start moves p → Step p m q → Steps start (moves ++ [m]) q

/-- Every worker has stopped or was lost. -/
def Deserted (p : WorkerPool α) : Prop := p.idle = 0 ∧ p.running = []

/-! ## What submitting and taking up come to -/

theorem submit_ok {p q : WorkerPool α} {job : α} (h : p.submit job = .ok q) :
    p.accepting = true ∧ q = { p with
      waiting := p.waiting ++ [job], submitted := p.submitted + 1 } := by
  unfold submit at h
  split at h
  · rename_i haccepts
    exact ⟨(Bool.and_eq_true_iff.1 haccepts).1, (Except.ok.inj h).symm⟩
  · exact nomatch h

theorem submit_error {p : WorkerPool α} {job : α} {f : Fault} (h : p.submit job = .error f) :
    p.accepting = false ∨ p.Deserted := by
  unfold submit at h
  split at h
  · exact nomatch h
  · rename_i hrefuses
    cases hopen : p.accepting with
    | false => exact .inl rfl
    | true =>
        refine .inr ?_
        simpa [hopen, manned, Deserted] using hrefuses

theorem takeUp?_eq_some {p q : WorkerPool α} {job : α} (h : p.takeUp? = some (job, q)) :
    ∃ idle rest, p.idle = idle + 1 ∧ p.waiting = job :: rest ∧
      q = { p with idle := idle, running := p.running ++ [job], waiting := rest } := by
  unfold takeUp? at h
  split at h
  · rename_i idle job' rest hidle hwaiting
    obtain ⟨rfl, rfl⟩ := Prod.mk.inj (Option.some.inj h)
    exact ⟨idle, rest, hidle, hwaiting, rfl⟩
  · exact nomatch h

/-! ## What one move changes -/

section

variable {p q : WorkerPool α} {m : Move α}

/-- A job is taken up from the front of what waits and queued behind it. -/
theorem Step.waiting (h : Step p m q) :
    m.takenUp?.toList ++ q.waiting = p.waiting ++ m.queued?.toList := by
  cases h with
  | queue h => obtain ⟨-, rfl⟩ := submit_ok h; rfl
  | takeUp h =>
      obtain ⟨idle, rest, -, hwaiting, rfl⟩ := takeUp?_eq_some h
      rw [hwaiting]
      exact (List.append_nil _).symm
  | refuse _ | close | leave => exact (List.append_nil _).symm
  | finish how _ => cases how <;> exact (List.append_nil _).symm

/-- A job that is taken up runs until it ends. -/
theorem Step.running (h : Step p m q) :
    (m.ended?.toList ++ q.running).Perm (p.running ++ m.takenUp?.toList) := by
  cases h with
  | queue h => obtain ⟨-, rfl⟩ := submit_ok h; exact .of_eq (List.append_nil _).symm
  | takeUp h => obtain ⟨idle, rest, -, -, rfl⟩ := takeUp?_eq_some h; exact .refl _
  | refuse _ | close | leave => exact .of_eq (List.append_nil _).symm
  | finish how h =>
      obtain ⟨hi, rfl⟩ := List.getElem?_eq_some_iff.1 h
      have hperm := (List.getElem_cons_eraseIdx_perm hi).trans (.of_eq (List.append_nil _).symm)
      cases how <;> exact hperm

theorem Step.completed (h : Step p m q) : q.completed = p.completed + m.isReturn.toNat := by
  cases h with
  | queue h => obtain ⟨-, rfl⟩ := submit_ok h; rfl
  | takeUp h => obtain ⟨idle, rest, -, -, rfl⟩ := takeUp?_eq_some h; rfl
  | refuse _ | close | leave => rfl
  | finish how _ => cases how <;> rfl

/-- A worker is idle or at work until it stops or is lost. -/
theorem Step.staff (h : Step p m q) :
    q.idle + q.running.length + m.isLeaving.toNat + m.isPanic.toNat =
      p.idle + p.running.length := by
  cases h with
  | queue h => obtain ⟨-, rfl⟩ := submit_ok h; rfl
  | takeUp h =>
      obtain ⟨idle, rest, hidle, -, rfl⟩ := takeUp?_eq_some h
      simp only [Move.isLeaving, Move.isPanic, List.length_append, List.length_singleton, hidle,
        Bool.toNat_false]
      omega
  | refuse _ | close => rfl
  | leave hidle _ _ =>
      simp only [Move.isLeaving, Move.isPanic, hidle, Bool.toNat_true, Bool.toNat_false]
      omega
  | @finish i _ how h =>
      obtain ⟨hi, -⟩ := List.getElem?_eq_some_iff.1 h
      have hlength := List.length_eraseIdx_of_lt hi
      cases how with
      | returned =>
          show p.idle + 1 + (p.running.eraseIdx i).length + 0 + 0 = _
          omega
      | panicked =>
          show p.idle + (p.running.eraseIdx i).length + 0 + 1 = _
          omega

theorem Step.accepting (h : Step p m q) : q.accepting = (p.accepting && !m.isClosing) := by
  cases h with
  | queue h => obtain ⟨-, rfl⟩ := submit_ok h; exact (Bool.and_true _).symm
  | takeUp h => obtain ⟨idle, rest, -, -, rfl⟩ := takeUp?_eq_some h; exact (Bool.and_true _).symm
  | close => exact (Bool.and_false _).symm
  | refuse _ | leave => exact (Bool.and_true _).symm
  | finish how _ => cases how <;> exact (Bool.and_true _).symm

/-- Workers stop only when nothing waits and nothing can come, and then nothing does. -/
theorem Step.exhausted (h : Step p m q)
    (hp : m.isLeaving = true ∨ p.waiting = [] ∧ p.accepting = false) :
    q.waiting = [] ∧ q.accepting = false := by
  cases h with
  | queue h =>
      obtain ⟨hopen, -⟩ := submit_ok h
      rcases hp with hp | ⟨-, hshut⟩
      · exact nomatch hp
      · exact absurd (hopen.symm.trans hshut) nofun
  | takeUp h =>
      obtain ⟨idle, rest, -, hwaiting, rfl⟩ := takeUp?_eq_some h
      rcases hp with hp | ⟨hnone, -⟩
      · exact nomatch hp
      · exact nomatch hwaiting.symm.trans hnone
  | leave _ hwaiting hclosed => exact ⟨hwaiting, hclosed⟩
  | refuse _ => exact hp.resolve_left nofun
  | close => exact ⟨(hp.resolve_left nofun).1, rfl⟩
  | finish how _ =>
      have hsame := hp.resolve_left nofun
      cases how <;> exact hsame

end

/-! ## The books of a pool -/

/-- What a log and the pool it leads to have to do with each other, for a number of workers. -/
structure Books (workers : Nat) (moves : List (Move α)) (p : WorkerPool α) : Prop where
  /-- What was taken up and what waits is what was queued, in that order. -/
  jobs : moves.filterMap Move.takenUp? ++ p.waiting = moves.filterMap Move.queued?
  /-- What has ended and what runs was taken up. -/
  taken : (moves.filterMap Move.ended? ++ p.running).Perm (moves.filterMap Move.takenUp?)
  completed : p.completed = moves.countP Move.isReturn
  staff : p.idle + p.running.length + moves.countP Move.isLeaving + moves.countP Move.isPanic =
    workers
  closed : p.accepting = !moves.any Move.isClosing
  exhausted : moves.any Move.isLeaving = true → p.waiting = [] ∧ p.accepting = false

theorem filterMap_snoc {β : Type} (f : α → Option β) (xs : List α) (x : α) :
    (xs ++ [x]).filterMap f = xs.filterMap f ++ (f x).toList := by
  rw [List.filterMap_append]
  cases h : f x <;> simp [h]

theorem countP_snoc (f : α → Bool) (xs : List α) (x : α) :
    (xs ++ [x]).countP f = xs.countP f + (f x).toNat := by
  rw [List.countP_append, List.countP_singleton]
  cases f x <;> rfl

/-- **Every move keeps the books.** -/
theorem Books.step {workers : Nat} {moves : List (Move α)} {p q : WorkerPool α} {m : Move α}
    (h : Books workers moves p) (hstep : Step p m q) : Books workers (moves ++ [m]) q where
  jobs := by
    rw [filterMap_snoc, filterMap_snoc, List.append_assoc, hstep.waiting, ← List.append_assoc,
      h.jobs]
  taken := by
    rw [filterMap_snoc, filterMap_snoc, List.append_assoc]
    refine (hstep.running.append_left _).trans ?_
    rw [← List.append_assoc]
    exact h.taken.append_right _
  completed := by rw [countP_snoc, hstep.completed, h.completed]
  staff := by
    have hbefore := h.staff
    have hmoved := hstep.staff
    rw [countP_snoc, countP_snoc]
    omega
  closed := by
    rw [hstep.accepting, h.closed, List.any_append, Bool.not_or, List.any_cons, List.any_nil,
      Bool.or_false]
  exhausted hleft := by
    rw [List.any_append, Bool.or_eq_true, List.any_cons, List.any_nil, Bool.or_false] at hleft
    exact hstep.exhausted (hleft.symm.imp_right h.exhausted)

theorem books_new (n : Nat) : Books (max n 1) [] (new n : WorkerPool α) :=
  ⟨rfl, .nil, rfl, rfl, rfl, nofun⟩

theorem Steps.books {n : Nat} {moves : List (Move α)} {p : WorkerPool α}
    (h : Steps (new n) moves p) : Books (max n 1) moves p := by
  induction h with
  | none => exact books_new n
  | snoc _ hstep ih => exact ih.step hstep

/-- What led to a pool led to another one on the way. -/
theorem Steps.of_append {start p : WorkerPool α} {moves : List (Move α)} (h : Steps start moves p)
    {first second : List (Move α)} (hsplit : moves = first ++ second) :
    ∃ q, Steps start first q := by
  induction h generalizing second with
  | none =>
      obtain ⟨rfl, -⟩ := List.append_eq_nil_iff.1 hsplit.symm
      exact ⟨start, .none⟩
  | @snoc moves p q m hsteps hstep ih =>
      rcases List.eq_nil_or_concat second with rfl | ⟨rest, x, rfl⟩
      · rw [List.append_nil] at hsplit
        exact ⟨q, hsplit ▸ .snoc hsteps hstep⟩
      · rw [List.concat_eq_append, ← List.append_assoc] at hsplit
        exact ih (List.append_inj' hsplit rfl).1

/-! ## Pools that keep a worker -/

/-- A pool that lost fewer workers than it had is deserted only when nothing is left and nothing can
come. -/
theorem Books.exhausted_of_deserted {n : Nat} {moves : List (Move α)} {p : WorkerPool α}
    (h : Books (max n 1) moves p) (hkept : moves.countP Move.isPanic < max n 1) (hp : p.Deserted) :
    p.waiting = [] ∧ p.accepting = false := by
  have hleft : 0 < moves.countP Move.isLeaving := by
    have hstaff := h.staff
    rw [hp.1, hp.2, List.length_nil] at hstaff
    omega
  obtain ⟨m, hm, hleaving⟩ := List.countP_pos_iff.1 hleft
  exact h.exhausted (List.any_eq_true.2 ⟨m, hm, hleaving⟩)

/-- Jobs are not turned away before shutdown, unless all workers are lost. -/
theorem Books.not_refused {n : Nat} {moves : List (Move α)} {p q : WorkerPool α} {m : Move α}
    (h : Books (max n 1) moves p) (hstep : Step p m q)
    (hopen : moves.any Move.isClosing = false) (hkept : moves.countP Move.isPanic < max n 1) :
    m.queued? = m.offered? := by
  cases hstep with
  | refuse hrefused =>
      have haccepts : p.accepting = true := by rw [h.closed, hopen]; rfl
      have hshut : p.accepting = false :=
        (submit_error hrefused).elim id fun hp => (h.exhausted_of_deserted hkept hp).2
      exact absurd (haccepts.symm.trans hshut) nofun
  | queue _ | takeUp _ | finish _ _ | close | leave => rfl

theorem Steps.queued_eq_offered {n : Nat} {moves : List (Move α)} {p : WorkerPool α}
    (h : Steps (new n) moves p) (hopen : moves.any Move.isClosing = false)
    (hkept : moves.countP Move.isPanic < max n 1) :
    moves.filterMap Move.queued? = moves.filterMap Move.offered? := by
  induction h with
  | none => rfl
  | @snoc moves p q m hsteps hstep ih =>
      rw [List.any_append, Bool.or_eq_false_iff] at hopen
      rw [countP_snoc] at hkept
      have hbefore : moves.countP Move.isPanic < max n 1 := by omega
      rw [filterMap_snoc, filterMap_snoc, ih hopen.1 hbefore,
        hsteps.books.not_refused hstep hopen.1 hbefore]

/-! ## Jobs that all return -/

/-- Jobs that all return cost no worker. -/
theorem countP_isPanic_lt {moves : List (Move α)} (h : moves.any Move.isPanic = false) (n : Nat) :
    moves.countP Move.isPanic < max n 1 := by
  have hnone : moves.countP Move.isPanic = 0 := List.countP_eq_zero.2 (List.any_eq_false.1 h)
  omega

/-- These jobs are offered one after the other, behind the last one the pool is shut down, and
every job that ends returns. -/
structure Attended (jobs : List α) (moves : List (Move α)) : Prop where
  offers : ∃ during behind, moves = during ++ .closed :: behind ∧
    during.filterMap Move.offered? = jobs ∧ during.any Move.isClosing = false ∧
    behind.filterMap Move.offered? = []
  returns : moves.any Move.isPanic = false

theorem queued?_of_offered? {m : Move α} (h : m.offered? = none) : m.queued? = none := by
  cases m with
  | queued job => exact nomatch h
  | refused _ | takenUp _ | ended _ _ | closed | left => rfl

/-- Every job offered is queued. -/
theorem Attended.queued {n : Nat} {jobs : List α} {moves : List (Move α)} {p : WorkerPool α}
    (ha : Attended jobs moves) (h : Steps (new n) moves p) :
    moves.filterMap Move.queued? = jobs := by
  obtain ⟨⟨during, behind, hsplit, rfl, hopen, hnone⟩, hreturns⟩ := ha
  obtain ⟨q, hduring⟩ := h.of_append hsplit
  have hbehind : behind.filterMap Move.queued? = [] := List.filterMap_eq_nil_iff.2 fun m hm =>
    queued?_of_offered? (List.filterMap_eq_nil_iff.1 hnone m hm)
  rw [hsplit, List.any_append, Bool.or_eq_false_iff] at hreturns
  rw [hsplit, List.filterMap_append, List.filterMap_cons, hbehind,
    hduring.queued_eq_offered hopen (countP_isPanic_lt hreturns.1 n)]
  exact List.append_nil _

theorem countP_isReturn {moves : List (Move α)} (h : moves.any Move.isPanic = false) :
    moves.countP Move.isReturn = (moves.filterMap Move.ended?).length := by
  induction moves with
  | nil => rfl
  | cons m rest ih =>
      rw [List.any_cons, Bool.or_eq_false_iff] at h
      rw [List.countP_cons, List.filterMap_cons, ih h.2]
      cases m with
      | ended job how =>
          cases how with
          | returned => rfl
          | panicked => exact absurd h.1 nofun
      | queued _ | refused _ | takenUp _ | closed | left => rfl

/-- **Jobs that all return are all run**, in whatever turns the workers take: they are taken up in
the order in which they were offered, each once and nothing else; and once every worker has stopped,
each of them has ended. -/
theorem Steps.attended {n : Nat} {jobs : List α} {moves : List (Move α)} {p : WorkerPool α}
    (h : Steps (new n) moves p) (ha : Attended jobs moves) :
    moves.filterMap Move.takenUp? ++ p.waiting = jobs ∧
      (p.Deserted → moves.filterMap Move.takenUp? = jobs ∧
        (moves.filterMap Move.ended?).Perm jobs ∧ p.completed = jobs.length) := by
  obtain ⟨hjobs, htaken, hcompleted, -, -, -⟩ := h.books
  rw [ha.queued h] at hjobs
  refine ⟨hjobs, fun hp => ?_⟩
  have hkept := countP_isPanic_lt ha.returns n
  rw [(h.books.exhausted_of_deserted hkept hp).1, List.append_nil] at hjobs
  rw [hp.2, List.append_nil, hjobs] at htaken
  exact ⟨hjobs, htaken, by rw [hcompleted, countP_isReturn ha.returns, htaken.length_eq]⟩

theorem Attended.snoc {jobs : List α} {moves : List (Move α)} {m : Move α}
    (h : Attended jobs moves) (hoffers : m.offered? = none) (hreturns : m.isPanic = false) :
    Attended jobs (moves ++ [m]) := by
  obtain ⟨⟨during, behind, rfl, hjobs, hopen, hnone⟩, hkept⟩ := h
  refine ⟨⟨during, behind ++ [m], ?_, hjobs, hopen, ?_⟩, ?_⟩
  · rw [List.append_assoc, List.cons_append]
  · rw [filterMap_snoc, hnone, hoffers]
    rfl
  · rw [List.any_append, hkept, List.any_cons, hreturns]
    rfl

/-- How far a pool without offers is from having stopped. -/
def workLeft (p : WorkerPool α) : Nat := 3 * p.waiting.length + 2 * p.running.length + p.idle

/-- A pool that is not deserted, and has a job waiting or is shut down, has a worker that makes a move;
a job that runs may end either way. -/
theorem exists_step {p : WorkerPool α} (hwork : p.waiting ≠ [] ∨ p.accepting = false)
    (hp : ¬p.Deserted) (how : JobEnd) :
    ∃ m q, Step p m q ∧ m.byWorker = true ∧ (m.isPanic = true → how = .panicked) := by
  cases hrunning : p.running with
  | cons job rest =>
      refine ⟨_, _, .finish (i := 0) how (by rw [hrunning]; rfl), rfl, ?_⟩
      cases how with
      | returned => exact nofun
      | panicked => exact fun _ => rfl
  | nil =>
      cases hidle : p.idle with
      | zero => exact absurd ⟨hidle, hrunning⟩ hp
      | succ idle =>
          cases hwaiting : p.waiting with
          | nil =>
              have hclosed := hwork.resolve_left fun hsome => hsome hwaiting
              exact ⟨_, _, .leave hidle hwaiting hclosed, rfl, nofun⟩
          | cons job rest =>
              have htaken : p.takeUp? = some (job, { p with
                  idle := idle, running := p.running ++ [job], waiting := rest }) := by
                rw [takeUp?, hidle, hwaiting]
              exact ⟨_, _, .takeUp htaken, rfl, nofun⟩

/-- Every move of a worker leaves less work. -/
theorem Step.workLeft_lt {p q : WorkerPool α} {m : Move α} (h : Step p m q)
    (hworker : m.byWorker = true) : q.workLeft < p.workLeft := by
  cases h with
  | queue _ | refuse _ | close => exact nomatch hworker
  | takeUp h =>
      obtain ⟨idle, rest, hidle, hwaiting, rfl⟩ := takeUp?_eq_some h
      simp only [workLeft, hidle, hwaiting, List.length_append, List.length_cons, List.length_nil]
      omega
  | leave hidle _ _ =>
      simp only [workLeft, hidle]
      omega
  | @finish i _ how h =>
      obtain ⟨hi, -⟩ := List.getElem?_eq_some_iff.1 h
      have hlength := List.length_eraseIdx_of_lt hi
      cases how <;> simp only [workLeft, WorkerPool.finish, hlength] <;> omega

theorem offered?_of_byWorker {m : Move α} (h : m.byWorker = true) : m.offered? = none := by
  cases m with
  | queued _ | refused _ => exact nomatch h
  | takenUp _ | ended _ _ | closed | left => rfl

/-- **After shutdown the workers can always finish**, from wherever they are. -/
theorem Steps.can_stop {n : Nat} {jobs : List α} {moves : List (Move α)} {p : WorkerPool α}
    (h : Steps (new n) moves p) (ha : Attended jobs moves) :
    ∃ more q, Steps (new n) (moves ++ more) q ∧ Attended jobs (moves ++ more) ∧ q.Deserted := by
  induction hwork : p.workLeft using Nat.strongRecOn generalizing moves p with
  | ind work ih =>
      by_cases hp : p.Deserted
      · exact ⟨[], p, by rw [List.append_nil]; exact h, by rw [List.append_nil]; exact ha, hp⟩
      · have hclosed : p.accepting = false := by
          obtain ⟨⟨during, behind, hsplit, -⟩, -⟩ := ha
          rw [h.books.closed, hsplit, List.any_append, List.any_cons]
          simp [Move.isClosing]
        obtain ⟨m, q, hstep, hworker, hpanic⟩ := exists_step (.inr hclosed) hp .returned
        have hless := hstep.workLeft_lt hworker
        have hreturns : m.isPanic = false := Bool.eq_false_iff.2 fun h => nomatch hpanic h
        obtain ⟨more, r, hsteps, hattended, hr⟩ :=
          ih q.workLeft (hwork ▸ hless) (h.snoc hstep)
            (ha.snoc (offered?_of_byWorker hworker) hreturns) rfl
        rw [List.append_assoc] at hsteps hattended
        exact ⟨m :: more, r, hsteps, hattended, hr⟩

end WorkerPool
end RecordingHarvest
