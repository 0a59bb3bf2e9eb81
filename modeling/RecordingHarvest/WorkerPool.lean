import RecordingHarvest.Fault
import RecordingHarvest.Journal

/-!
# The worker pool

A fixed number of workers take jobs up from one queue, the oldest first.  A worker runs a job from
when it took it up, and looks for the next one when the job returns; a worker whose job panics is
lost.  Jobs are accepted until shutdown, as long as a worker is left.
-/

namespace RecordingHarvest

/-- How a job ends. -/
inductive JobEnd where
  | returned
  | panicked
  deriving DecidableEq, Repr

/-- Workers, the jobs they run and the jobs that wait. -/
structure WorkerPool (α : Type) where
  /-- How many workers the pool began with. -/
  workers : Nat
  /-- How many workers look for a job. -/
  idle : Nat
  running : List α
  /-- The jobs that wait, the oldest first. -/
  waiting : List α
  submitted : Nat
  completed : Nat
  /-- Whether jobs are accepted. -/
  accepting : Bool
  deriving Repr

namespace WorkerPool

variable {α : Type}

/-- A pool of at least one worker. -/
def new (workers : Nat) : WorkerPool α := ⟨max workers 1, max workers 1, [], [], 0, 0, true⟩

/-- Whether a worker is left, idle or at work. -/
def manned (p : WorkerPool α) : Bool := p.idle != 0 || !p.running.isEmpty

/-- Queues a job. -/
def submit (p : WorkerPool α) (job : α) : Except Fault (WorkerPool α) :=
  if p.accepting && p.manned then
    .ok { p with waiting := p.waiting ++ [job], submitted := p.submitted + 1 }
  else .error .queueClosed

/-- An idle worker takes the oldest job up off the queue. -/
def takeUp? (p : WorkerPool α) : Option (α × WorkerPool α) :=
  match p.idle, p.waiting with
  | idle + 1, job :: rest =>
    some (job, { p with idle := idle, running := p.running ++ [job], waiting := rest })
  | _, _ => none

/-- The `i`-th running job ends. -/
def finish (p : WorkerPool α) (i : Nat) : JobEnd → WorkerPool α
  | .returned =>
    { p with idle := p.idle + 1, running := p.running.eraseIdx i, completed := p.completed + 1 }
  | .panicked => { p with running := p.running.eraseIdx i }

/-- Jobs submitted and not completed. -/
def pending (p : WorkerPool α) : Nat := p.submitted - p.completed

/-- Accepts no more jobs. -/
def close (p : WorkerPool α) : WorkerPool α := { p with accepting := false }

/-- Runs the waiting jobs one after another, each of which returns; gives them in the order they
were taken up. -/
def runDry (p : WorkerPool α) : Nat → List α × WorkerPool α
  | 0 => ([], p)
  | fuel + 1 =>
    match p.takeUp? with
    | none => ([], p)
    | some (job, q) =>
      let (jobs, r) := (q.finish p.running.length .returned).runDry fuel
      (job :: jobs, r)

/-- The line that opens a shutdown. -/
def noteClosing : Noting Unit := note .info "Shutting down harvest workers"

/-- The lines that end a shutdown: the workers that stop, numbered from zero, and the jobs done. -/
def noteDrained (p : WorkerPool α) : Noting Unit := do
  (List.range p.idle).forM fun n =>
    note .debug ("Harvest worker " ++ Number.naturalText n ++ " stopped")
  note .info ("Harvest workers drained (" ++ Number.naturalText p.completed ++ " jobs)")

end WorkerPool
end RecordingHarvest
