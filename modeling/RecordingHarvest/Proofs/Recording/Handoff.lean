import RecordingHarvest.Proofs.Recording.Abstaining
import RecordingHarvest.Proofs.Recording.Verdict
import RecordingHarvest.Proofs.Workers.Turns

/-!
# Every snapshot is handed on once

The rounds of a controller leave each snapshot that was taken with the workers, and when the rounds
are over, with or without a fault, the workers finish what they were left with.

* `handsOver_rounds`: what was queued is what the rounds took, and at most one snapshot is begun
  once shutdown was asked for.
* `handleAll_returns`: the workers hand on what waits, the oldest first.
* `run_hands_on`: on a whole run the handler is invoked once for each snapshot that was taken, in
  that order, and for nothing else; and so it is if the workers take turns with the rounds.
-/

namespace RecordingHarvest

/-! ## Deeds of the hand-over -/

namespace Deed

/-- The snapshot that was taken and queued. -/
def captured? : Deed → Option Snapshot
  | .captured x => some x
  | _ => none

/-- The snapshot that a worker took up. -/
def handled? : Deed → Option Snapshot
  | .handled x => some x
  | _ => none

/-- A deed that is no part of a hand-over takes, hands on and begins nothing. -/
theorem quiet_of_not_isHandover {d : Deed} (h : d.isHandover = false) :
    d.captured? = none ∧ d.handled? = none ∧ d.isBeginning = false := by
  cases d with
  | began | captured _ | handled _ => cases h
  | _ => exact ⟨rfl, rfl, rfl⟩

section

variable {deeds : List Deed} (h : ∀ d ∈ deeds, d.isHandover = false)
include h

theorem filterMap_captured?_eq_nil : deeds.filterMap captured? = [] :=
  List.filterMap_eq_nil_iff.2 fun d hd => (quiet_of_not_isHandover (h d hd)).1

theorem filterMap_handled?_eq_nil : deeds.filterMap handled? = [] :=
  List.filterMap_eq_nil_iff.2 fun d hd => (quiet_of_not_isHandover (h d hd)).2.1

theorem countP_isBeginning_eq_zero : deeds.countP isBeginning = 0 :=
  List.countP_eq_zero.2 fun d hd => by
    rw [(quiet_of_not_isHandover (h d hd)).2.2]
    exact Bool.false_ne_true

end

end Deed

/-- Shutdown is asked for by the time these deeds are done: one of them tells, or every later look
finds it. -/
def World.StopsBy (w : World) (history : List Deed) : Prop :=
  .stopped ∈ history ∨ ∀ later, w.asks (history ++ later).reverse = true

theorem World.StopsBy.append {w : World} {history : List Deed} (h : w.StopsBy history)
    (later : List Deed) : w.StopsBy (history ++ later) := by
  rcases h with h | h
  · exact .inl (List.mem_append_left _ h)
  · exact .inr fun more => by rw [List.append_assoc]; exact h _

/-- Deeds behind a history that begin no snapshot once shutdown was asked for, but for one that may
be on its way. -/
structure World.Winds (w : World) (history later : List Deed) : Prop where
  none : w.StopsBy history → later.countP Deed.isBeginning = 0
  one : ∀ before after, later = before ++ after → w.StopsBy (history ++ before) →
    after.countP Deed.isBeginning ≤ 1

namespace World.Winds

variable {w : World} {history first second : List Deed}

theorem of_none (h : first.countP Deed.isBeginning = 0) : w.Winds history first := by
  refine ⟨fun _ => h, fun before after hsplit _ => ?_⟩
  rw [hsplit, List.countP_append] at h
  omega

/-- One snapshot is begun if shutdown was not asked for before. -/
theorem of_one (hrunning : ¬w.StopsBy history) (h : first.countP Deed.isBeginning = 1) :
    w.Winds history first := by
  refine ⟨fun hstops => absurd hstops hrunning, fun before after hsplit _ => ?_⟩
  rw [hsplit, List.countP_append] at h
  omega

theorem append (hfirst : w.Winds history first) (hsecond : w.Winds (history ++ first) second) :
    w.Winds history (first ++ second) := by
  refine ⟨fun hstops => ?_, fun before after hsplit hstops => ?_⟩
  · rw [List.countP_append, hfirst.none hstops, hsecond.none (hstops.append first)]
  · rcases List.append_eq_append_iff.1 hsplit with ⟨rest, rfl, rfl⟩ | ⟨rest, rfl, rfl⟩
    · rw [← List.append_assoc] at hstops
      exact hsecond.one rest after rfl hstops
    · have hlate := hstops.append rest
      rw [List.append_assoc] at hlate
      rw [List.countP_append, hsecond.none hlate]
      exact hfirst.one before rest rfl hstops

end World.Winds

/-! ## What the workers are left with -/

namespace WorkerPool

variable {α : Type}

/-- The pool with some more jobs waiting. -/
def offer (p : WorkerPool α) (jobs : List α) : WorkerPool α :=
  { p with waiting := p.waiting ++ jobs, submitted := p.submitted + jobs.length }

theorem offer_nil (p : WorkerPool α) : p.offer [] = p := by
  rw [offer, List.append_nil]
  rfl

theorem offer_offer (p : WorkerPool α) (xs ys : List α) :
    (p.offer xs).offer ys = p.offer (xs ++ ys) := by
  simp only [offer, List.append_assoc, List.length_append, Nat.add_assoc]

/-- A pool that accepts jobs and has workers for them. -/
def IsOpen (p : WorkerPool α) : Prop := p.accepting = true ∧ p.manned = true

theorem IsOpen.offer {p : WorkerPool α} (h : p.IsOpen) (jobs : List α) : (p.offer jobs).IsOpen := h

theorem IsOpen.submit {p : WorkerPool α} (h : p.IsOpen) (job : α) :
    p.submit job = .ok (p.offer [job]) := by
  rw [WorkerPool.submit, if_pos (by rw [h.1, h.2]; rfl)]
  rfl

theorem isOpen_new (n : Nat) : (new n : WorkerPool α).IsOpen := by
  refine ⟨rfl, ?_⟩
  simp only [manned, new, List.isEmpty_nil, Bool.not_true, Bool.or_false, bne_iff_ne]
  omega

/-- A worker of an idle pool takes the oldest job up and returns to where it was. -/
theorem takeUp?_finish {p : WorkerPool α} {job : α} {rest : List α} (hidle : p.idle ≠ 0)
    (hrunning : p.running = []) (hwaiting : p.waiting = job :: rest) :
    ∃ taken, p.takeUp? = some (job, taken) ∧
      taken.finish p.running.length .returned =
        { p with waiting := rest, completed := p.completed + 1 } := by
  obtain ⟨idle, hsucc⟩ := Nat.exists_eq_add_one_of_ne_zero hidle
  refine ⟨{ p with idle := idle, running := [job], waiting := rest }, ?_, ?_⟩
  · rw [takeUp?, hsucc, hwaiting, hrunning]
    rfl
  · rw [hrunning]
    show ({ p with
      idle := idle + 1, running := [], waiting := rest, completed := p.completed + 1 } :
        WorkerPool α) = _
    rw [← hsucc, ← hrunning]

end WorkerPool

/-- The site `t` comes after `s`: these snapshots were counted and queued in between, in this order,
and none was taken up. -/
structure Site.HandsOver (w : World) (s t : Site) (xs : List Snapshot) : Prop where
  pool : t.pool = s.pool.offer xs
  stopping : s.stopping = true → t.stopping = true
  noticed : .stopped ∈ t.history → .stopped ∈ s.history ∨ t.stopping = true
  snapshots : t.journal.increments .snapshots =
    s.journal.increments .snapshots ++ List.replicate xs.length 1
  history : ∃ later, t.history = s.history ++ later ∧ later.filterMap Deed.captured? = xs ∧
    later.filterMap Deed.handled? = [] ∧ w.Winds s.history later

namespace Site.HandsOver

variable {w : World} {s t u : Site} {xs ys : List Snapshot}

theorem trans (hst : s.HandsOver w t xs) (htu : t.HandsOver w u ys) :
    s.HandsOver w u (xs ++ ys) := by
  obtain ⟨first, hfirst, rfl, hnone, hwinds⟩ := hst.history
  obtain ⟨second, hsecond, rfl, hnone', hwinds'⟩ := htu.history
  rw [hfirst] at hwinds'
  refine ⟨?_, htu.stopping ∘ hst.stopping, fun h => ?_, ?_,
    first ++ second, ?_, List.filterMap_append, ?_, hwinds.append hwinds'⟩
  · rw [htu.pool, hst.pool, WorkerPool.offer_offer]
  · exact (htu.noticed h).elim (fun h => (hst.noticed h).imp_right htu.stopping) .inr
  · rw [htu.snapshots, hst.snapshots, List.append_assoc, List.replicate_append_replicate,
      List.length_append]
  · rw [hsecond, hfirst, List.append_assoc]
  · rw [List.filterMap_append, hnone, hnone', List.append_nil]

theorem of_abstains (h : s.Abstains t) : s.HandsOver w t [] := by
  obtain ⟨later, hlater, hnone⟩ := h.history
  exact ⟨by rw [h.pool, WorkerPool.offer_nil], h.stopping, h.noticed,
    h.snapshots.trans (List.append_nil _).symm, later, hlater, Deed.filterMap_captured?_eq_nil hnone,
    Deed.filterMap_handled?_eq_nil hnone, .of_none (Deed.countP_isBeginning_eq_zero hnone)⟩

/-- A snapshot is begun, shutdown not having been asked for some time before. -/
theorem began (h : s.Abstains t) (hrunning : ¬w.StopsBy s.history) :
    s.HandsOver w (t.did .began) [] := by
  obtain ⟨later, hlater, hnone⟩ := h.history
  refine ⟨by rw [WorkerPool.offer_nil]; exact h.pool, h.stopping, fun hmem => ?_,
    h.snapshots.trans (List.append_nil _).symm, later ++ [.began], ?_, ?_, ?_, .of_one hrunning ?_⟩
  · rw [Site.history_did, List.mem_append] at hmem
    exact h.noticed (hmem.resolve_right nofun)
  · rw [Site.history_did, hlater, List.append_assoc]
  · rw [List.filterMap_append, Deed.filterMap_captured?_eq_nil hnone]; rfl
  · rw [List.filterMap_append, Deed.filterMap_handled?_eq_nil hnone]; rfl
  · rw [List.countP_append, Deed.countP_isBeginning_eq_zero hnone]; rfl

/-- A snapshot is counted and queued. -/
theorem captured (h : s.Abstains t) (x : Snapshot) {j : Journal}
    (hcounted : j.increments .snapshots = t.journal.increments .snapshots ++ [1]) :
    s.HandsOver w { t.did (.captured x) with journal := j, pool := t.pool.offer [x] } [x] := by
  obtain ⟨later, hlater, hnone⟩ := h.history
  refine ⟨congrArg (WorkerPool.offer · [x]) h.pool, h.stopping, fun hmem => ?_, ?_,
    later ++ [.captured x], ?_, ?_, ?_, .of_none ?_⟩
  · have hmem' : .stopped ∈ (t.did (.captured x)).history := hmem
    rw [Site.history_did, List.mem_append] at hmem'
    exact h.noticed (hmem'.resolve_right nofun)
  · rw [← h.snapshots]
    exact hcounted
  · show (t.did (.captured x)).history = _
    rw [Site.history_did, hlater, List.append_assoc]
  · rw [List.filterMap_append, Deed.filterMap_captured?_eq_nil hnone]; rfl
  · rw [List.filterMap_append, Deed.filterMap_handled?_eq_nil hnone]; rfl
  · rw [List.countP_append, Deed.countP_isBeginning_eq_zero hnone]; rfl

end Site.HandsOver

/-! ## The rounds -/

namespace Session

/-- A snapshot is counted when it was taken; a fault comes back collapsed. -/
theorem perform_snapshot (plan : SessionPlan) (session : Session) (w : World) (s : Site) :
    (session.snapshot plan).perform w s =
      match (Capture.take plan.method session.connection session.recording).perform w s with
      | (.ok x, t) => (.ok x, { t with
          journal := (t.journal.add (.count .snapshots 1)).add
            (.line .debug ("Snapshot written to " ++ t.shelf.filePath x)) })
      | (.error (.fault f), t) => (.error (.fault f.sessionFault), t)
      | (.error .unfinished, t) => (.error .unfinished, t) := by
  rw [snapshot, Run.perform_bind, Run.perform_attempt]
  rcases (Capture.take plan.method session.connection session.recording).perform w s with
    ⟨(f | _) | x, t⟩ <;> rfl

end Session

namespace Controller

open Run (Abstaining)

/-- The snapshot that was taken, if it was. -/
def Trial.snapshot? : Trial → Option Snapshot
  | (.ok x, _) => some x
  | (.error _, _) => none

variable {plan : ControllerPlan} {w : World}

theorem perform_queue (x : Snapshot) (w : World) {s : Site} (hopen : s.pool.IsOpen) :
    (queue x).perform w s = (.ok (), { s.did (.captured x) with pool := s.pool.offer [x] }) := by
  simp only [queue, Run.perform_bind, Run.perform_record, Run.perform_get]
  rw [show (s.did (.captured x)).pool.submit x = .ok (s.pool.offer [x]) from hopen.submit x]
  rfl

/-- A snapshot that is taken is counted, and the controller queues it. -/
theorem handsOver_snapshot {session : Session} {s t : Site} {r : Except Halt Snapshot}
    (hopen : s.pool.IsOpen) (h : (session.snapshot plan.session).perform w s = (r, t)) :
    match r with
    | .ok x => s.HandsOver w ((queue x).perform w t).2 [x]
    | .error _ => s.Abstains t := by
  have htake := Capture.abstaining_take session.connection plan.session.method session.recording w s
  rw [Session.perform_snapshot] at h
  rcases hrun : (Capture.take plan.session.method session.connection session.recording).perform w s
    with ⟨(f | _) | x, u⟩ <;> rw [hrun] at h htake <;> obtain ⟨rfl, rfl⟩ := Prod.mk.inj h
  · exact htake
  · exact htake
  · have hpool : u.pool = s.pool := htake.pool
    dsimp only
    rw [perform_queue _ _ (hpool ▸ hopen)]
    refine .captured htake x ?_
    show ((u.journal.add _).add (.line .debug _)).increments .snapshots = _
    rw [Journal.increments_add, Journal.increments_add]
    exact List.append_nil _

variable (plan) in
theorem abstaining_goesOn : Abstaining (goesOn plan) := by
  refine Run.abstaining_stopping.bind fun stopped => ?_
  split
  · exact Run.abstaining_pure false
  · exact Run.abstaining_rest _

variable (plan) in
theorem abstaining_resume (failed : Session) (f : Fault) : Abstaining (resume plan failed f) :=
  (Run.abstaining_note _ _).bind fun _ => abstaining_reconnect plan failed

variable (plan) in
/-- A round does not go on if shutdown was asked for before it. -/
theorem goesOn_of_stopsBy {s : Site} (hnoticed : .stopped ∈ s.history → s.stopping = true)
    (h : w.StopsBy s.history) : ((goesOn plan).perform w s).1 = .ok false := by
  have hlook : s.stopping = true ∨ w.asks s.deeds = true := by
    refine h.imp hnoticed fun hasks => ?_
    have hnow := hasks []
    rw [List.append_nil, Site.history, List.reverse_reverse] at hnow
    exact hnow
  have hstopped : (Run.stopping.perform w s).1 = .ok true := by
    unfold Run.stopping
    cases hflag : s.stopping with
    | true =>
        simp only [Run.perform_bind, Run.perform_get, Run.perform_read, hflag, Bool.not_true,
          Bool.false_and, Bool.false_eq_true, ↓reduceIte, Run.perform_pure]
    | false =>
        have hasks := hlook.resolve_left (by rw [hflag]; exact Bool.false_ne_true)
        simp only [Run.perform_bind, Run.perform_get, Run.perform_read, hflag, hasks,
          Bool.not_false, Bool.and_true, ↓reduceIte, Run.perform_modify, Run.perform_record,
          Run.perform_pure]
        rfl
  rw [goesOn, Run.perform_bind]
  rcases hrun : Run.stopping.perform w s with ⟨h | stopped, t⟩ <;> rw [hrun] at hstopped
  · cases hstopped
  · obtain rfl := Except.ok.inj hstopped
    rfl

/-- **The rounds hand over what they take**, and begin at most one more snapshot once shutdown was
asked for. -/
theorem handsOver_harvest (fuel : Nat) (session : Session) (s : Site) (hopen : s.pool.IsOpen)
    (hnoticed : .stopped ∈ s.history → s.stopping = true) :
    s.HandsOver w ((harvest plan fuel session).perform w s).2
      ((snapshots plan w fuel session s).filterMap Trial.snapshot?) := by
  induction fuel generalizing session s with
  | zero => exact .of_abstains (.refl s)
  | succ fuel ih =>
      have hgo := abstaining_goesOn plan w s
      rw [harvest_succ, Run.perform_bind, snapshots]
      rcases hgoesOn : (goesOn plan).perform w s with ⟨g | _ | _, t⟩ <;> rw [hgoesOn] at hgo
      · exact .of_abstains hgo
      · exact .of_abstains (hgo.trans (abstaining_finish session w t))
      · have hbegan : s.HandsOver w (t.did .began) [] := by
          refine .began hgo fun hstops => ?_
          have hfalse := goesOn_of_stopsBy plan hnoticed hstops
          rw [hgoesOn] at hfalse
          cases hfalse
        have hopen' : (t.did .began).pool.IsOpen := by
          rw [hbegan.pool]
          exact hopen.offer []
        simp only [↓reduceIte, Run.perform_bind, Run.perform_record, Run.perform_attempt]
        rcases htrial : (session.snapshot plan.session).perform w (t.did .began) with
          ⟨(f | _) | x, u⟩ <;> have htried := handsOver_snapshot hopen' htrial
        · by_cases hf : f.isFatal = true
          · simp only [goesOnWith, hf, ↓reduceIte]
            have hended : Abstaining (session.close >>= fun _ => Run.fail f : Run Unit) :=
              session.abstaining_close.bind fun _ => Run.abstaining_fail f
            exact hbegan.trans (.of_abstains (htried.trans (hended w u)))
          · have hresumed := abstaining_resume plan session f w u
            simp only [goesOnWith, hf, Bool.false_eq_true, ↓reduceIte, Run.perform_bind]
            rcases hresume : (resume plan session f).perform w u with ⟨g | next, v⟩ <;>
              rw [hresume] at hresumed
            · exact hbegan.trans (.of_abstains (htried.trans hresumed))
            · have hnext := hbegan.trans (.of_abstains (htried.trans hresumed))
              exact hnext.trans (ih next v (hnext.pool ▸ hopen.offer _) fun h =>
                (hnext.noticed h).elim (hnext.stopping ∘ hnoticed) id)
        · exact hbegan.trans (.of_abstains htried)
        · have hnext := hbegan.trans htried
          have hqueued : ((queue x).perform w u) = (.ok (), ((queue x).perform w u).2) :=
            Prod.ext (queue_ok x w u) rfl
          simp only [goesOnWith, Run.perform_bind]
          rw [hqueued]
          exact hnext.trans (ih session _ (hnext.pool ▸ hopen.offer _) fun h =>
            (hnext.noticed h).elim (hnext.stopping ∘ hnoticed) id)

variable (plan) in
theorem abstaining_opens : Abstaining (opens plan) := by
  refine Run.abstaining_stopping.bind fun stopped => ?_
  split
  · exact Run.abstaining_pure none
  · refine (Retry.abstaining_connectUntilStopped true plan.initialPolicy).bind fun r => ?_
    cases r with
    | none => exact Run.abstaining_pure none
    | some c =>
        refine (Run.abstaining_enter _).bind fun _ => ?_
        refine (Session.abstaining_startOn plan.session c).bind fun session => ?_
        refine (Run.abstaining_enter _).bind fun _ => (Run.abstaining_note _ _).bind fun _ => ?_
        exact Run.abstaining_pure _

variable (plan w) in
/-- The snapshots that a run takes, as far as they could be taken. -/
def harvested (s : Site) : List Snapshot := (taken plan w s).filterMap Trial.snapshot?

variable (plan) in
theorem handsOver_rounds {s : Site} (hopen : s.pool.IsOpen)
    (hnoticed : .stopped ∈ s.history → s.stopping = true) :
    s.HandsOver w ((rounds plan).perform w s).2 (harvested plan w s) := by
  have habstains := abstaining_opens plan w s
  rw [rounds_eq, Run.perform_bind, harvested, taken]
  rcases hopens : (opens plan).perform w s with ⟨h | _ | session, t⟩ <;> rw [hopens] at habstains
  · exact .of_abstains habstains
  · exact .of_abstains habstains
  · have hopened : s.HandsOver w t [] := .of_abstains habstains
    exact hopened.trans (handsOver_harvest w.patience session t (hopened.pool ▸ hopen.offer _)
      fun h => (hopened.noticed h).elim (hopened.stopping ∘ hnoticed) id)

/-- Nothing is done if shutdown was asked for before the start. -/
theorem perform_rounds_of_stopping {s : Site} (h : s.stopping = true) :
    (rounds plan).perform w s = (.ok (), s) := by
  have hlook : Run.stopping.perform w s = (.ok true, s) := by
    unfold Run.stopping
    simp only [Run.perform_bind, Run.perform_get, Run.perform_read, h, Bool.not_true,
      Bool.false_and, Bool.false_eq_true, ↓reduceIte, Run.perform_pure]
  rw [rounds, Run.perform_bind, hlook]
  rfl

/-! ## The workers finish -/

variable {σ α β : Type} {holds : List Snapshot → σ → Prop} {handle : Snapshot → Handling σ Unit}

/-- A handler that returns, whatever it is handed: `holds xs` tells of its state when these snapshots
were handed to it so far, in this order.  It does none of the controller's deeds and leaves the
workers and the count of snapshots alone. -/
def Returns (holds : List Snapshot → σ → Prop) (handle : Snapshot → Handling σ Unit) : Prop :=
  ∀ xs x st w (s : Site), holds xs st → ∃ st' t,
    ((handle x).run st).perform w s = (.ok ((), st'), t) ∧ holds (xs ++ [x]) st' ∧
      t.deeds = s.deeds ∧ t.pool = s.pool ∧
      t.journal.increments .snapshots = s.journal.increments .snapshots

theorem perform_handling_bind {x : Handling σ α} {f : α → Handling σ β} {st st' : σ} {s t : Site}
    {a : α} (hx : (x.run st).perform w s = (.ok (a, st'), t)) :
    ((x >>= f).run st).perform w s = ((f a).run st').perform w t := by
  rw [StateT.run_bind, Run.perform_bind, hx]

/-- The site `t` comes after `s` with these snapshots taken up by workers in between, and nothing
else done. -/
structure HandsOn (s t : Site) (xs : List Snapshot) : Prop where
  history : t.history = s.history ++ xs.map .handled
  pool : t.pool = { s.pool with waiting := [], completed := s.pool.completed + xs.length }
  snapshots : t.journal.increments .snapshots = s.journal.increments .snapshots

/-- **Workers hand on what waits**, the oldest first, each snapshot once. -/
theorem handleAll_returns (h : Returns holds handle) (xs : List Snapshot) {ys : List Snapshot}
    {st : σ} {s : Site} (hst : holds ys st) (hidle : s.pool.idle ≠ 0) (hrunning : s.pool.running = [])
    (hwaiting : s.pool.waiting = xs) :
    ∃ st' t, ((handleAll handle xs.length).run st).perform w s = (.ok ((), st'), t) ∧
      holds (ys ++ xs) st' ∧ HandsOn s t xs := by
  induction xs generalizing ys st s with
  | nil =>
      refine ⟨st, s, rfl, by rw [List.append_nil]; exact hst, (List.append_nil _).symm, ?_, rfl⟩
      show s.pool = { s.pool with waiting := [], completed := s.pool.completed }
      rw [← hwaiting]
  | cons x rest ih =>
      obtain ⟨pool, htaken, hfinish⟩ := WorkerPool.takeUp?_finish hidle hrunning hwaiting
      let u : Site := { s with pool := pool }.did (.handled x)
      obtain ⟨st', v, hperform, hst', hdeeds, hpool, hsnapshots⟩ := h ys x st w u hst
      let next : Site := { v with pool := v.pool.finish s.pool.running.length .returned }
      have hnext : next.pool = { s.pool with
          waiting := rest, completed := s.pool.completed + 1 } := by
        rw [← hfinish]
        exact congrArg (WorkerPool.finish · s.pool.running.length .returned) hpool
      obtain ⟨st'', t, hrest, hst'', hhistory, hpool', hsnapshots'⟩ :=
        ih (s := next) hst' (by rw [hnext]; exact hidle) (by rw [hnext]; exact hrunning)
          (by rw [hnext])
      refine ⟨st'', t, ?_, by rw [List.append_assoc] at hst''; exact hst'', ?_, ?_, ?_⟩
      · rw [List.length_cons, handleAll, perform_handling_bind (s := s) (t := s) rfl]
        dsimp only
        rw [htaken]
        dsimp only
        rw [perform_handling_bind (t := { s with pool := pool }) rfl,
          perform_handling_bind (t := u) rfl, perform_handling_bind hperform,
          perform_handling_bind (t := next) rfl]
        exact hrest
      · have hdone : next.history = s.history ++ [.handled x] := by
          show v.deeds.reverse = _
          rw [hdeeds]
          exact List.reverse_cons
        rw [hhistory, hdone, List.append_assoc]
        rfl
      · rw [hpool', hnext, List.length_cons, Nat.add_assoc, Nat.add_comm 1]
      · rw [hsnapshots']
        exact hsnapshots

/-- **What waits is finished behind the rounds**, however they ended. -/
theorem behind_returns (h : Returns holds handle) {xs ys : List Snapshot} {st : σ} {s : Site}
    (hst : holds ys st) (hidle : s.pool.idle ≠ 0) (hrunning : s.pool.running = [])
    (hwaiting : s.pool.waiting = xs) (result : Except Fault Unit) :
    ∃ st' t, ((behind handle result).run st).perform w s = (.ok (result, st'), t) ∧
      holds (ys ++ xs) st' ∧ HandsOn { s with pool := s.pool.close } t xs := by
  let opening : Site := { s with journal := (Noting.perform WorkerPool.noteClosing s.journal).2 }
  let closing : Site := { opening with pool := s.pool.close }
  obtain ⟨st', t, hall, hst', hhistory, hpool, hsnapshots⟩ :=
    handleAll_returns h xs (w := w) (s := closing) hst hidle hrunning hwaiting
  let drained : Site := { t with journal := (Noting.perform t.pool.noteDrained t.journal).2 }
  have hdrain : ((drain handle).run st).perform w s = (.ok ((), st'), drained) := by
    rw [drain, perform_handling_bind (t := opening) rfl, perform_handling_bind (t := closing) rfl,
      perform_handling_bind (t := closing) rfl]
    rw [show closing.pool.waiting.length = xs.length from congrArg List.length hwaiting,
      perform_handling_bind hall, perform_handling_bind (t := t) rfl]
    rfl
  have hcounted : drained.journal.increments .snapshots = s.journal.increments .snapshots := by
    refine (spares_noteDrained .snapshots t.pool t.journal).trans (hsnapshots.trans ?_)
    exact Noting.spares_note .snapshots .info _ s.journal
  rw [behind, perform_handling_bind hdrain]
  cases result with
  | ok _ =>
      exact ⟨st', _, rfl, hst', hhistory, hpool,
        (Noting.spares_note .snapshots _ _ drained.journal).trans hcounted⟩
  | error f =>
      exact ⟨st', _, rfl, hst', hhistory, hpool,
        (Noting.spares_note .snapshots _ _ drained.journal).trans hcounted⟩

/-! ## The uploader as a handler -/

/-- Entries that count no snapshot. -/
def CountsNone (e : Entry) : Prop := ∀ n, e ≠ .count .snapshots n

theorem countsNone_of_isDelivery {e : Entry} (h : e.isDelivery = true) : CountsNone e := by
  rintro n rfl
  exact nomatch h

/-- **The uploader returns from every snapshot**, if its way out counts none. -/
theorem returns_depot :
    Returns (fun _ (d : Depot σ) => d.desk.outbox.Writes CountsNone) Depot.handle := by
  intro xs x d w s hd
  obtain ⟨⟨uploader, shelf⟩, desk, es, hes, hdesk, hperform⟩ :=
    Uploader.writes_handle (fun _ => countsNone_of_isDelivery) d.uploader s.shelf x d.desk hd
  exact ⟨_, _, perform_depot hperform, hdesk, rfl, rfl,
    Journal.increments_addAll_of_forall hes s.journal⟩

theorem writes_uncounted : idleDepot.desk.outbox.Writes CountsNone :=
  Outbox.writes_logging fun e he n heq => by
    rw [heq] at he
    exact absurd he Bool.false_ne_true

/-! ## Whole runs -/

theorem filterMap_map_handled (xs : List Snapshot) :
    (xs.map Deed.handled).filterMap Deed.captured? = [] ∧
      (xs.map Deed.handled).filterMap Deed.handled? = xs ∧
      (xs.map Deed.handled).countP Deed.isBeginning = 0 := by
  refine ⟨List.filterMap_eq_nil_iff.2 fun d hd => ?_, ?_, List.countP_eq_zero.2 fun d hd => ?_⟩
  · obtain ⟨x, -, rfl⟩ := List.mem_map.1 hd
    rfl
  · rw [List.filterMap_map]
    exact List.filterMap_some
  · obtain ⟨x, -, rfl⟩ := List.mem_map.1 hd
    exact Bool.false_ne_true

/-- **Every snapshot is handed on exactly once, and shutdown stops harvesting.**  Whatever the target
answers and whenever shutdown is asked for, if the handler returns from every snapshot then, on a run
that returns, with or without a fault:

* the snapshots queued are those that were taken, in that order, each was handed to the handler once,
  in that order, and nothing else was;
* nothing waits or runs any more, and everything that was submitted is completed;
* the counter of snapshots was incremented by one for each of them;
* once shutdown was asked for at most one more snapshot is begun;
* and if the workers take turns with the rounds and with each other in any way, the pool being offered
  these snapshots one after the other and shut down behind the last one, then they take the
  snapshots up in that order, each once and nothing else, and each of them has ended when the last
  worker has stopped, which they always get to. -/
theorem run_hands_on (h : Returns holds handle) {st : σ} (hst : holds [] st) {s t : Site}
    {workers : Nat} (hfresh : s.deeds = []) (hworkers : s.pool = .new workers)
    {result : Except Fault Unit} {st' : σ}
    (hrun : ((Controller.run handle plan).run st).perform w s = (.ok (result, st'), t)) :
    (t.history.filterMap Deed.captured? = harvested plan w s ∧
      t.history.filterMap Deed.handled? = harvested plan w s ∧ holds (harvested plan w s) st') ∧
    (t.pool.waiting = [] ∧ t.pool.running = [] ∧ t.pool.accepting = false ∧
      t.pool.submitted = (harvested plan w s).length ∧
      t.pool.completed = (harvested plan w s).length) ∧
    t.journal.increments .snapshots =
      s.journal.increments .snapshots ++ List.replicate (harvested plan w s).length 1 ∧
    (∀ before after, t.history = before ++ after → s.stopping = true ∨ w.StopsBy before →
      after.countP Deed.isBeginning ≤ 1) ∧
    ∀ moves p, WorkerPool.Steps (.new workers) moves p →
      WorkerPool.Attended (harvested plan w s) moves →
      moves.filterMap WorkerPool.Move.takenUp? ++ p.waiting = harvested plan w s ∧
      (p.Deserted → moves.filterMap WorkerPool.Move.takenUp? = harvested plan w s ∧
        (moves.filterMap WorkerPool.Move.ended?).Perm (harvested plan w s) ∧
        p.completed = (harvested plan w s).length) ∧
      ∃ more q, WorkerPool.Steps (.new workers) (moves ++ more) q ∧
        WorkerPool.Attended (harvested plan w s) (moves ++ more) ∧ q.Deserted := by
  have hempty : s.history = [] := by rw [Site.history, hfresh]; rfl
  have hopen : s.pool.IsOpen := hworkers ▸ WorkerPool.isOpen_new workers
  have hover := handsOver_rounds plan (w := w) hopen fun h =>
    absurd (hempty ▸ h) List.not_mem_nil
  -- the rounds end with an outcome, and the workers finish behind them
  obtain ⟨u, outcome, hu, hbehind⟩ : ∃ u outcome, ((rounds plan).perform w s).2 = u ∧
      ((behind handle outcome).run st).perform w { u with phase := .shutdown } =
        (.ok (result, st'), t) := by
    rw [perform_run] at hrun
    rcases hrounds : (rounds plan).perform w s with ⟨(f | _) | _, u⟩ <;> rw [hrounds] at hrun
    · exact ⟨u, .error f, rfl, hrun⟩
    · cases hrun
    · exact ⟨u, .ok (), rfl, hrun⟩
  rw [hu] at hover
  obtain ⟨later, hlater, hcaptured, hhandled, hwinds⟩ := hover.history
  have hpool : u.pool = (WorkerPool.new workers).offer (harvested plan w s) :=
    hworkers ▸ hover.pool
  have hwaiting : u.pool.waiting = harvested plan w s := by rw [hpool]; rfl
  obtain ⟨st'', t', hperform, hst', hon⟩ := behind_returns h (w := w)
    (s := { u with phase := .shutdown }) hst
    (by simp only [hpool, WorkerPool.offer, WorkerPool.new]; omega) (by rw [hpool]; rfl) hwaiting
    outcome
  obtain ⟨hsame, rfl⟩ := Prod.mk.inj (hbehind.symm.trans hperform)
  obtain ⟨-, rfl⟩ := Prod.mk.inj (Except.ok.inj hsame)
  obtain ⟨hnone, hall, hcalm⟩ := filterMap_map_handled (harvested plan w s)
  have hhistory : t.history = later ++ (harvested plan w s).map .handled := by
    rw [hon.history]
    show u.history ++ _ = _
    rw [hlater, hempty]
    rfl
  refine ⟨⟨?_, ?_, hst'⟩, ?_, ?_, ?_, ?_⟩
  · rw [hhistory, List.filterMap_append, hcaptured, hnone, List.append_nil]
  · rw [hhistory, List.filterMap_append, hhandled, hall, List.nil_append]
  · rw [hon.pool, hpool]
    exact ⟨rfl, rfl, rfl, Nat.zero_add _, Nat.zero_add _⟩
  · exact hon.snapshots.trans hover.snapshots
  · intro before after hsplit hstop
    rcases hstop with hflag | hstop
    · have hidle : later = [] := by
        rw [← hu, perform_rounds_of_stopping hflag, hempty] at hlater
        exact hlater.symm
      rw [hidle, List.nil_append] at hhistory
      rw [← hhistory, hsplit, List.countP_append] at hcalm
      omega
    · have hwound := hwinds.append (.of_none hcalm)
      rw [hempty] at hwound
      exact hwound.one before after (hhistory.symm.trans hsplit) hstop
  · intro moves p hsteps hattended
    obtain ⟨htaken, hended⟩ := hsteps.attended hattended
    exact ⟨htaken, hended, hsteps.can_stop hattended⟩

/-- A target that answers one number to every call; shutdown comes at the end of the second harvest
sleep, which is completed. -/
def lateStop : World :=
  { oneAnswer with signal := fun deeds =>
      if deeds.countP (fun | .rested _ => true | _ => false) < 2 then .quiet else .afterSleep }

/-- Two snapshots are taken, the second one with the shutdown on its way, and both are handled. -/
theorem run_hands_on_lateStop :
    ∃ result d t, ((Controller.run Depot.handle copying).run idleDepot).perform lateStop smallSite =
        (.ok (result, d), t) ∧
      t.history.filterMap Deed.handled? = [⟨0⟩, ⟨1⟩] ∧ t.pool.completed = 2 ∧
      t.journal.increments .snapshots = [1, 1] := by
  have hended : (((Controller.run Depot.handle copying).run idleDepot).perform lateStop
      smallSite).1.isOk = true := by decide +kernel
  have htaken : harvested copying lateStop smallSite = [⟨0⟩, ⟨1⟩] := by decide +kernel
  rcases hrun : ((Controller.run Depot.handle copying).run idleDepot).perform lateStop smallSite with
    ⟨h | ⟨result, d⟩, t⟩
  · rw [hrun] at hended
    exact nomatch hended
  · obtain ⟨⟨-, hhandled, -⟩, ⟨-, -, -, -, hcompleted⟩, hcounted, -, -⟩ :=
      run_hands_on returns_depot writes_uncounted rfl rfl hrun
    rw [htaken] at hhandled hcompleted hcounted
    exact ⟨result, d, t, rfl, hhandled, hcompleted, hcounted⟩

end Controller
end RecordingHarvest
