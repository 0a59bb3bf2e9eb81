import RecordingHarvest.Proofs.Recording.Closing
import RecordingHarvest.Proofs.Recording.Conduct

/-!
# How the rounds of a controller end

The rounds of a controller, with what became of the snapshot that each of them took
(`Controller.snapshots`).  A recoverable fault is counted, the session is closed, and there is an
attempt to connect; every other fault that gets as far as the controller is fatal and ends the
rounds.

* `resume_replaces`: what a recoverable fault is followed by.
* `harvests_rounds`: the rounds keep account of their snapshots, do only what is allowed, and end
  because shutdown was asked for or with a fatal fault.
-/

namespace RecordingHarvest

open Run (Heeds)

variable {α β : Type}

/-! ## The first deed of a connect -/

namespace Run

/-- The first thing that a computation does is to try to connect. -/
def Tries (x : Run α) : Prop :=
  ∀ (w : World) (s : Site), 0 < w.patience → s.standing.misshapen = false →
    ∃ r, (s.did (.attempted r)).Leads (x.perform w s).2

theorem Tries.bind {x : Run α} {f : α → Run β} {P : Except Fault α → Standing → Prop}
    (h : Tries x) (hx : ∀ q, q.misshapen = false → Heeds Standing.restarts q x P)
    (hf : ∀ a q', P (.ok a) q' → ∃ Q, Heeds Standing.restarts q' (f a) Q) : Tries (x >>= f) := by
  intro w s hpatience hshaped
  obtain ⟨r, htried⟩ := h w s hpatience hshaped
  exact ⟨r, htried.trans ((hx s.standing hshaped).leads hf rfl)⟩

end Run

namespace Retry

open Run (Tries)

theorem tries_connectUntilStopped (abandon : Bool) (policy : BackoffPolicy) :
    Tries (connectUntilStopped abandon policy) := by
  have huntil : Tries (untilStopped abandon "connect to target" policy fun _ => Run.connect) := by
    intro w s hpatience hshaped
    obtain ⟨fuel, hfuel⟩ := Nat.exists_eq_add_one_of_ne_zero (Nat.ne_of_gt hpatience)
    obtain ⟨next, hnext, hheeds⟩ := rounds_succ Standing.restarts
      (fun _ => Run.connect) (·.misshapen = false) (fun _ => True) (fun c q' => q' = .fresh c)
      (fun _ h => h) abandon "connect to target" fuel 0
      (.start policy) (.new w.logInterval) fun _ _ _ q hq =>
        heeds_rounds (fun _ h => h) heeds_attempt _ _ _ _ _ _ hq
    refine ⟨w.connect s.deeds, ?_⟩
    have hleads := (heeds_attempt 0 s.standing hshaped).attempt_leads hheeds (w := w) rfl
    have hconnect : (Run.connect.perform w s).2 = s.did (.attempted (w.connect s.deeds)) := by
      show ((Run.ofExcept _).perform w (s.did _)).2 = _
      cases w.connect s.deeds <;> rfl
    rw [hconnect, ← hnext, ← hfuel] at hleads
    exact hleads
  refine huntil.bind (fun q hq => heeds_untilStopped (fun _ h => h) heeds_attempt _ _ _ hq) ?_
  intro r q' _
  refine ⟨fun _ _ => True, ?_⟩
  split
  · exact (Run.steady_note _ _).bind fun _ => Run.heeds_pure trivial
  · exact Run.heeds_pure trivial

theorem tries_connect (policy : BackoffPolicy) : Tries (Retry.connect policy) := by
  refine (tries_connectUntilStopped false policy).bind
    (fun q hq => heeds_connectUntilStopped false policy hq) ?_
  intro r q' _
  refine ⟨fun _ _ => True, ?_⟩
  cases r with
  | none => exact Run.heeds_giveUp
  | some c => exact Run.heeds_pure trivial

end Retry

namespace Session

theorem tries_start (plan : SessionPlan) (policy : BackoffPolicy) :
    Run.Tries (start plan policy) := by
  refine (Retry.tries_connect policy).bind (fun q hq => Retry.heeds_connect policy hq) ?_
  rintro c q' rfl
  exact ⟨_, heeds_startOn plan (ready_fresh c)⟩

/-- The call that closes a session's recording. -/
def closing (session : Session) : Remote.Invocation :=
  ⟨Recorder.object, "closeRecording", [.long session.recording]⟩

/-- The deeds that replacing a session begins with. -/
def replacing (session : Session) (answer : Remote.Answer) (r : Except Fault Nat) : List Deed :=
  [.invoked session.connection session.closing answer, .closed session.connection, .attempted r]

/-- Closing a session is one call and the end of the connection, whatever is answered. -/
theorem perform_close (session : Session) (w : World) (s : Site) :
    ∃ answer journal, session.close.perform w s =
      (.ok (), { (s.did (.invoked session.connection session.closing answer)).did
        (.closed session.connection) with journal := journal }) := by
  refine ⟨w.answer s.deeds session.connection session.closing, ?_⟩
  simp only [Session.close, Recorder.closeRecording, Recorder.callUnit, Recorder.call,
    Run.perform_bind, Run.perform_attempt, Run.perform_note, Run.perform_invoke, closing]
  cases w.answer s.deeds session.connection
    ⟨Recorder.object, "closeRecording", [.long session.recording]⟩ with
  | ok v => exact ⟨_, rfl⟩
  | error f => exact ⟨_, rfl⟩

end Session

/-! ## The rounds of a controller -/

namespace Controller

variable (plan : ControllerPlan)

/-- Looks whether shutdown was asked for and sleeps for an interval; tells whether to go on. -/
def goesOn : Run Bool := do
  if ← Run.stopping then return false
  else Run.rest plan.interval

/-- Notes a recoverable fault and replaces the session. -/
def resume (failed : Session) (f : Fault) : Run Session := do
  Run.note .warn ("Snapshot failed, reconnecting: " ++ f.message)
  reconnect plan failed

/-- What a round does with the snapshot that it took. -/
def goesOnWith (fuel : Nat) (session : Session) : Except Fault Snapshot → Run Unit
  | .ok x => do
    queue x
    harvest plan fuel session
  | .error f =>
    if f.isFatal then do
      session.close
      Run.fail f
    else do harvest plan fuel (← resume plan session f)

theorem harvest_succ (fuel : Nat) (session : Session) :
    harvest plan (fuel + 1) session = goesOn plan >>= fun more =>
      if more then do
        Run.record .began
        goesOnWith plan fuel session (← Run.attempt (session.snapshot plan.session))
      else finish session := by
  rw [harvest, goesOn, bind_assoc]
  congr 1
  funext stopped
  cases stopped with
  | true => rfl
  | false =>
      simp only [goesOnWith, resume, bind_assoc]
      rfl

/-- What became of a snapshot, with the site that taking it left. -/
abbrev Trial := Except Halt Snapshot × Site

/-- Whether taking the snapshot ended in a recoverable fault. -/
def Trial.isRecoverable : Trial → Bool
  | (.error (.fault f), _) => !f.isFatal
  | (.error .unfinished, _) | (.ok _, _) => false

/-- The snapshots that the rounds take, the earliest first. -/
def snapshots (w : World) : Nat → Session → Site → List Trial
  | 0, _, _ => []
  | fuel + 1, session, s =>
    match (goesOn plan).perform w s with
    | (.ok true, t) =>
      let trial := (session.snapshot plan.session).perform w (t.did .began)
      trial :: match trial with
        | (.ok x, u) => snapshots w fuel session ((queue x).perform w u).2
        | (.error (.fault f), u) =>
          if f.isFatal then []
          else
            match (resume plan session f).perform w u with
            | (.ok next, v) => snapshots w fuel next v
            | (.error _, _) => []
        | (.error .unfinished, _) => []
    | (.ok false, _) | (.error _, _) => []

/-- The site `t` comes after `s`, and in between a session was replaced: this was counted, the
session was closed, and a connect tried. -/
structure Replaces (s t : Site) : Prop where
  stopping : s.stopping = true → t.stopping = true
  reconnects : t.journal.increments .reconnects = s.journal.increments .reconnects ++ [1]
  history : ∃ (session : Session) (answer : Remote.Answer) (r : Except Fault Nat)
    (later : List Deed), t.history = s.history ++ session.replacing answer r ++ later ∧
      ∀ d ∈ later, d.isBeginning = false

/-- The site `t` comes after `s`, with these snapshots taken in between: each recoverable fault was
counted once, and behind it the session was closed and a connect tried. -/
structure Accounts (s t : Site) (trials : List Trial) : Prop where
  stopping : s.stopping = true → t.stopping = true
  reconnects : t.journal.increments .reconnects =
    s.journal.increments .reconnects ++ List.replicate (trials.countP Trial.isRecoverable) 1
  history : ∃ later, t.history = s.history ++ later ∧
    later.countP Deed.isBeginning = trials.length
  followed : ∀ trial ∈ trials, Trial.isRecoverable trial = true →
    ∃ (session : Session) (answer : Remote.Answer) (r : Except Fault Nat) (later : List Deed),
      t.history = trial.2.history ++ session.replacing answer r ++ later

namespace Accounts

variable {s t u : Site} {xs ys : List Trial}

theorem trans (hst : Accounts s t xs) (htu : Accounts t u ys) : Accounts s u (xs ++ ys) := by
  obtain ⟨first, hfirst, hcount⟩ := hst.history
  obtain ⟨second, hsecond, hcount'⟩ := htu.history
  refine ⟨htu.stopping ∘ hst.stopping, ?_, ⟨first ++ second, ?_, ?_⟩, fun trial htrial hr => ?_⟩
  · rw [htu.reconnects, hst.reconnects, List.countP_append,
      ← List.replicate_append_replicate, List.append_assoc]
  · rw [hsecond, hfirst, List.append_assoc]
  · rw [List.countP_append, hcount, hcount', List.length_append]
  · rcases List.mem_append.1 htrial with hx | hy
    · obtain ⟨session, answer, r, later, hlater⟩ := hst.followed trial hx hr
      exact ⟨session, answer, r, later ++ second, by rw [hsecond, hlater, List.append_assoc]⟩
    · exact htu.followed trial hy hr

theorem of_leads (h : s.Leads t) : Accounts s t [] := by
  obtain ⟨later, hlater, hnone⟩ := h.history
  refine ⟨h.stopping, by rw [h.reconnects]; exact (List.append_nil _).symm,
    ⟨later, hlater, List.countP_eq_zero.2 fun d hd => ?_⟩, nofun⟩
  rw [hnone d hd]
  exact Bool.false_ne_true

/-- A snapshot that needs no new session. -/
theorem of_snapshot {r : Except Halt Snapshot} (h : (s.did .began).Leads t)
    (hr : Trial.isRecoverable (r, t) = false) : Accounts s t [(r, t)] := by
  obtain ⟨later, hlater, hcount⟩ := (of_leads h).history
  refine ⟨h.stopping, ?_, ⟨.began :: later, ?_, ?_⟩, ?_⟩
  · rw [h.reconnects, List.countP_cons_of_neg (by rw [hr]; exact Bool.false_ne_true)]
    exact (List.append_nil _).symm
  · rw [hlater, Site.history_did, List.append_assoc]
    rfl
  · rw [List.countP_cons_of_pos rfl, hcount]
    rfl
  · intro trial htrial htrue
    rw [List.mem_singleton.1 htrial, hr] at htrue
    exact nomatch htrue

/-- A snapshot behind which the session was replaced. -/
theorem of_replaces {f : Fault} (h : (s.did .began).Leads t) (hf : f.isFatal = false)
    (htu : Replaces t u) : Accounts s u [(.error (.fault f), t)] := by
  obtain ⟨later, hlater, hcount⟩ := (of_leads h).history
  obtain ⟨session, answer, r, rest, hrest, hnone⟩ := htu.history
  have hr : Trial.isRecoverable (.error (.fault f), t) = true := by
    show (!f.isFatal) = true
    rw [hf]
    rfl
  have hzero : rest.countP Deed.isBeginning = 0 :=
    List.countP_eq_zero.2 fun d hd => by rw [hnone d hd]; exact Bool.false_ne_true
  refine ⟨htu.stopping ∘ h.stopping, ?_,
    ⟨.began :: later ++ session.replacing answer r ++ rest, ?_, ?_⟩, ?_⟩
  · rw [htu.reconnects, h.reconnects, List.countP_cons_of_pos hr]
    rfl
  · rw [hrest, hlater, Site.history_did]
    simp only [List.append_assoc, List.cons_append, List.nil_append]
  · rw [List.countP_append, List.countP_append, List.countP_cons_of_pos rfl, hcount, hzero]
    rfl
  · intro trial htrial _
    obtain rfl := List.mem_singleton.1 htrial
    exact ⟨session, answer, r, rest, hrest⟩

end Accounts

/-! ### One round -/

variable {plan}

variable (plan) in
/-- A round goes on unless shutdown was asked for. -/
theorem steady_goesOn {q : Standing} (hq : q.misshapen = false) :
    Run.Steady Standing.restarts q (goesOn plan) := by
  refine (Run.steady_stopping hq).bind ?_
  intro stopped
  split
  · exact Run.heeds_pure ⟨rfl, rfl⟩
  · exact Run.steady_rest hq _

theorem stopping_of_goesOn {w : World} {s t : Site}
    (h : (goesOn plan).perform w s = (.ok false, t)) : t.stopping = true := by
  have hensures : Run.Ensures w s (goesOn plan) fun r t => r = .ok false → t.stopping = true := by
    refine Run.ensures_bind (P := fun r t => r = .ok true → t.stopping = true)
      (Run.ensures_stopping ?_ ?_) nofun ?_
    · exact fun hflag => Except.ok.inj hflag
    · exact fun _ => rfl
    · intro stopped t hstopped
      cases stopped with
      | true => exact Run.ensures_pure false fun _ => hstopped rfl
      | false => exact Run.ensures_rest _ nofun fun _ _ => rfl
  exact hensures.of_ok h rfl

theorem steady_queue {q : Standing} (hq : q.misshapen = false) (x : Snapshot) :
    Run.Steady Standing.restarts q (queue x) := by
  refine (Run.heeds_record (d := .captured x) rfl hq).bind nofun ?_
  rintro _ q' ⟨-, rfl⟩
  refine Run.steady_get.bind ?_
  intro s
  split
  · refine Run.steady_modify ?_
    exact fun s => ⟨.of_eq rfl id rfl, rfl⟩
  · exact Run.steady_note _ _

/-- A snapshot that cannot be queued is noted. -/
theorem queue_ok (x : Snapshot) (w : World) (s : Site) : ((queue x).perform w s).1 = .ok () := by
  unfold queue
  simp only [Run.perform_bind, Run.perform_record, Run.perform_get]
  cases (s.did (.captured x)).pool.submit x <;> rfl

variable (plan) in
/-- Closes a session and connects again. -/
def replace (session : Session) : Run Session := do
  session.close
  Session.reacquire plan.session

variable (plan) in
theorem heeds_replace {q : Standing} {session : Session}
    (hc : q.connection = some session.connection) (hq : q.misshapen = false) :
    Heeds Standing.restarts q (replace plan session) fun r q' =>
      match r with
      | .ok next => q' = .recording next.connection
      | .error f => f.isFatal = true := by
  refine (Session.heeds_close session hc).bind ?_ ?_
  · rintro g q' ⟨hr, -⟩
    exact nomatch hr
  · rintro _ q' ⟨-, hshape⟩
    exact Session.heeds_start plan.session plan.session.policy (hshape.trans hq)

variable (plan) in
/-- What replacing a session begins with. -/
theorem replace_leads {w : World} {s : Site} {session : Session} (hpatience : 0 < w.patience)
    (hc : s.standing.connection = some session.connection) (hq : s.standing.misshapen = false) :
    ∃ answer r later, ((replace plan session).perform w s).2.history =
        s.history ++ session.replacing answer r ++ later ∧
      ∀ d ∈ later, d.isBeginning = false := by
  obtain ⟨answer, journal, hclose⟩ := session.perform_close w s
  obtain ⟨-, hshape⟩ := (Session.heeds_close session hc w s rfl).2.2.of_ok hclose
  rw [replace, Run.perform_bind, hclose]
  obtain ⟨r, htried⟩ := Session.tries_start plan.session plan.session.policy w _ hpatience
    (hshape.trans hq)
  obtain ⟨later, hlater, hnone⟩ := htried.history
  refine ⟨answer, r, later, hlater.trans ?_, hnone⟩
  show (((s.did _).did _).did _).history ++ later = _
  rw [Site.history_did, Site.history_did, Site.history_did]
  simp only [Session.replacing, List.append_assoc, List.cons_append, List.nil_append]

/-- Where resuming ends: with a session that records, or with a fatal fault. -/
structure Resumes (u : Site) (r : Except Halt Session) (t : Site) : Prop where
  replaces : Replaces u t
  lawful : Standing.Lawful Standing.restarts u.history → Standing.Lawful Standing.restarts t.history
  recording : ∀ next, r = .ok next → t.standing = .recording next.connection
  fatal : ∀ f, r = .error (.fault f) → f.isFatal = true

variable (plan) in
/-- **A recoverable fault is counted, and behind it there is a new connection**, or a fault of
connecting, which is fatal. -/
theorem resume_replaces {w : World} {u : Site} {session : Session} (f : Fault)
    (hpatience : 0 < w.patience) (hc : u.standing.connection = some session.connection)
    (hq : u.standing.misshapen = false) :
    Resumes u ((resume plan session f).perform w u).1 ((resume plan session f).perform w u).2 := by
  -- what is done before the session is closed leaves the deeds alone
  let line := Entry.line .warn ("Snapshot failed, reconnecting: " ++ f.message)
  let v : Site := { u with
    phase := .reconnecting, journal := (u.journal.add line).add (.count .reconnects 1) }
  have hcounted : v.journal.increments .reconnects = u.journal.increments .reconnects ++ [1] := by
    show ((u.journal.add line).add (.count .reconnects 1)).increments .reconnects = _
    rw [Journal.increments_add, Journal.increments_add]
    simp [line]
  obtain ⟨hleads, hlawful, hensures⟩ := heeds_replace plan hc hq w v rfl
  obtain ⟨answer, r, later, hlater, hnone⟩ := replace_leads plan (s := v) hpatience hc hq
  have hperform : (resume plan session f).perform w u =
      (replace plan session >>= fun next => do
        Run.enter .recording
        Run.note .info ("Recording reacquired (id " ++ Number.integerText next.recording ++ ")")
        return next).perform w v := by
    simp only [resume, reconnect, replace, bind_assoc]
    rfl
  rw [hperform, Run.perform_bind]
  rcases hrun : (replace plan session).perform w v with ⟨(g | _) | next, t⟩ <;>
    rw [hrun] at hleads hlawful hlater
  · have hfatal : g.isFatal = true := hensures.of_fault hrun
    refine ⟨⟨hleads.stopping, hleads.reconnects.trans hcounted, session, answer, r, later, hlater,
      hnone⟩, hlawful, nofun, fun f hf => ?_⟩
    obtain rfl := Halt.fault.inj (Except.error.inj hf)
    exact hfatal
  · exact ⟨⟨hleads.stopping, hleads.reconnects.trans hcounted, session, answer, r, later, hlater,
      hnone⟩, hlawful, nofun, nofun⟩
  · have hrecording := hensures.of_ok hrun
    have hnoted := Noting.spares_note .reconnects .info
      ("Recording reacquired (id " ++ Number.integerText next.recording ++ ")") t.journal
    refine ⟨⟨hleads.stopping, hnoted.trans (hleads.reconnects.trans hcounted), session, answer, r,
      later, hlater, hnone⟩, hlawful, fun next' hnext => ?_, nofun⟩
    obtain rfl := Except.ok.inj hnext
    exact hrecording

/-! ### All rounds -/

/-- How the rounds end: shutdown was asked for, or the fault is fatal. -/
structure Ends (r : Except Halt Unit) (t : Site) : Prop where
  stopped : r = .ok () → t.stopping = true
  fatal : ∀ f, r = .error (.fault f) → f.isFatal = true

/-- What rounds from this site come to, with the snapshots they took. -/
structure Harvests (s : Site) (trials : List Trial) (r : Except Halt Unit) (t : Site) : Prop where
  accounts : Accounts s t trials
  lawful : Standing.Lawful Standing.restarts s.history → Standing.Lawful Standing.restarts t.history
  ends : Ends r t

theorem Harvests.behind {s t u : Site} {xs ys : List Trial} {r : Except Halt Unit}
    (h : Harvests t ys r u) (haccounts : Accounts s t xs)
    (hlawful : Standing.Lawful Standing.restarts s.history →
      Standing.Lawful Standing.restarts t.history) : Harvests s (xs ++ ys) r u :=
  ⟨haccounts.trans h.accounts, h.lawful ∘ hlawful, h.ends⟩

/-- A computation that ends the rounds. -/
theorem harvests_of_heeds {w : World} {s : Site} {x : Run Unit} (outcome : Except Fault Unit)
    (hx : Heeds Standing.restarts s.standing x fun r _ => r = outcome)
    (hstopped : outcome = .ok () → s.stopping = true)
    (hfatal : ∀ f, outcome = .error f → f.isFatal = true) :
    Harvests s [] (x.perform w s).1 (x.perform w s).2 := by
  obtain ⟨hleads, hlawful, hensures⟩ := hx w s rfl
  refine ⟨.of_leads hleads, hlawful, ?_⟩
  rcases hrun : x.perform w s with ⟨(g | _) | _, t⟩ <;> rw [hrun] at hleads
  · refine ⟨nofun, fun f hf => hfatal f ?_⟩
    obtain rfl := Halt.fault.inj (Except.error.inj hf)
    exact (hensures.of_fault hrun).symm
  · exact ⟨nofun, nofun⟩
  · exact ⟨fun _ => hleads.stopping (hstopped (hensures.of_ok hrun).symm), nofun⟩

theorem harvests_finish {w : World} {s : Site} {session : Session} (hstopping : s.stopping = true)
    (hc : s.standing.connection = some session.connection) :
    Harvests s [] ((finish session).perform w s).1 ((finish session).perform w s).2 := by
  refine harvests_of_heeds (.ok ()) ?_ (fun _ => hstopping) nofun
  exact (Run.steady_note _ _).bind fun _ => (Session.heeds_close session hc).mono fun _ _ h => h.1

theorem harvests_fatal {w : World} {s : Site} {session : Session} {f : Fault}
    (hf : f.isFatal = true) (hc : s.standing.connection = some session.connection) :
    Harvests s [] ((session.close >>= fun _ => Run.fail f : Run Unit).perform w s).1
      ((session.close >>= fun _ => Run.fail f : Run Unit).perform w s).2 := by
  refine harvests_of_heeds (.error f) ?_ nofun fun g hg => Except.error.inj hg ▸ hf
  refine (Session.heeds_close session hc).bind ?_ fun _ _ _ => Run.heeds_fail rfl
  rintro g q' ⟨hr, -⟩
  exact nomatch hr

/-- A snapshot is begun. -/
theorem standing_began (s : Site) : (s.did .began).standing = s.standing := s.standing_did .began

theorem lawful_began {s : Site} (hs : s.standing.misshapen = false)
    (h : Standing.Lawful Standing.restarts s.history) :
    Standing.Lawful Standing.restarts (s.did .began).history := by
  rw [Site.history_did]
  exact h.snoc hs

/-- **The rounds keep account of their snapshots**, do only what is allowed, and end as they may. -/
theorem harvests_harvest {w : World} (hpatience : 0 < w.patience) (fuel : Nat) (session : Session)
    (s : Site) (hs : s.standing = .recording session.connection) :
    Harvests s (snapshots plan w fuel session s) ((harvest plan fuel session).perform w s).1
      ((harvest plan fuel session).perform w s).2 := by
  induction fuel generalizing session s with
  | zero => exact ⟨.of_leads (.refl s), id, nofun, nofun⟩
  | succ fuel ih =>
      obtain ⟨hleads, hlawful, hensures⟩ :=
        steady_goesOn plan (q := .recording session.connection) rfl w s hs
      rw [harvest_succ, Run.perform_bind, snapshots]
      rcases hgoesOn : (goesOn plan).perform w s with ⟨(g | _) | _ | _, t⟩ <;>
        rw [hgoesOn] at hleads hlawful
      · exact absurd (hensures.of_fault hgoesOn).1 Bool.false_ne_true
      · exact ⟨.of_leads hleads, hlawful, nofun, nofun⟩
      · have ht := (hensures.of_ok hgoesOn).2
        exact (harvests_finish (stopping_of_goesOn hgoesOn) (by rw [ht]; rfl)).behind
          (.of_leads hleads) hlawful
      · have ht := (hensures.of_ok hgoesOn).2
        have hbegan : (t.did .began).standing = .recording session.connection :=
          (standing_began t).trans ht
        obtain ⟨hsnapLeads, hsnapLawful, hsnap⟩ :=
          Session.heeds_snapshot plan.session session w (t.did .began) hbegan
        have hbefore := hsnapLawful ∘ lawful_began (by rw [ht]; rfl) ∘ hlawful
        simp only [↓reduceIte, Run.perform_bind, Run.perform_record, Run.perform_attempt]
        rcases htrial : (session.snapshot plan.session).perform w (t.did .began) with
          ⟨(f | _) | x, u⟩ <;> rw [htrial] at hsnapLeads hbefore
        · have hworked : Worked (.recording session.connection)
              (.error f : Except Fault Snapshot) u.standing := hsnap.of_fault htrial
          have hc : u.standing.connection = some session.connection := hworked.connection
          by_cases hf : f.isFatal = true
          · have htaken : Accounts t u [(.error (.fault f), u)] :=
              .of_snapshot hsnapLeads (by simp only [Trial.isRecoverable, hf, Bool.not_true])
            simp only [goesOnWith, hf, ↓reduceIte]
            exact (harvests_fatal hf hc).behind ((Accounts.of_leads hleads).trans htaken) hbefore
          · rw [Bool.not_eq_true] at hf
            obtain ⟨hreplaces, hresumed, hnext, hfatal⟩ :=
              resume_replaces plan f hpatience hc (hworked.shaped hf)
            have htaken := (Accounts.of_leads hleads).trans (.of_replaces hsnapLeads hf hreplaces)
            simp only [goesOnWith, hf, Bool.false_eq_true, ↓reduceIte, Run.perform_bind]
            rcases hresume : (resume plan session f).perform w u with ⟨g | next, v⟩ <;>
              rw [hresume] at htaken hresumed hnext hfatal
            · refine ⟨htaken, hresumed ∘ hbefore, nofun, fun g' hg => ?_⟩
              obtain rfl := Except.error.inj hg
              exact hfatal g' rfl
            · exact (ih next v (hnext next rfl)).behind htaken (hresumed ∘ hbefore)
        · exact ⟨(Accounts.of_leads hleads).trans (.of_snapshot hsnapLeads rfl), hbefore, nofun,
            nofun⟩
        · have hu := (hsnap.of_ok htrial).eq_of_ok (Standing.sound_recording _)
          obtain ⟨hqueueLeads, hqueueLawful, hqueue⟩ :=
            steady_queue (q := .recording session.connection) rfl x w u hu
          have htaken : Accounts s ((queue x).perform w u).2 [(.ok x, u)] :=
            ((Accounts.of_leads hleads).trans (.of_snapshot hsnapLeads rfl)).trans
              (.of_leads hqueueLeads)
          have hqueued : (queue x).perform w u = (.ok (), ((queue x).perform w u).2) :=
            Prod.ext (queue_ok x w u) rfl
          simp only [goesOnWith, Run.perform_bind]
          rw [hqueued]
          exact (ih session _ (hqueue.of_ok hqueued).2).behind htaken (hqueueLawful ∘ hbefore)

/-! ### Up to the first round -/

variable (plan) in
/-- Connects and starts a recording, unless shutdown is asked for before there is a connection. -/
def opens : Run (Option Session) := do
  if ← Run.stopping then return none
  match ← Retry.connectUntilStopped true plan.initialPolicy with
  | none => return none
  | some connection =>
    Run.enter .connected
    let session ← Session.startOn plan.session connection
    Run.enter .recording
    Run.note .info ("Harvesting every " ++ plan.interval.text)
    return some session

theorem rounds_eq : rounds plan = opens plan >>= fun
    | some session => do harvest plan (← read).patience session
    | none => pure () := by
  rw [rounds, opens, bind_assoc]
  congr 1
  funext stopped
  cases stopped with
  | true => rfl
  | false =>
      simp only [Bool.false_eq_true, ↓reduceIte, bind_assoc]
      congr 1
      funext connection
      cases connection with
      | none => rfl
      | some c => simp only [bind_assoc, pure_bind]

variable (plan) in
theorem heeds_opens {q : Standing} (hq : q.misshapen = false) :
    Heeds Standing.restarts q (opens plan) fun r q' =>
      match r with
      | .ok (some session) => q' = .recording session.connection
      | .ok none => True
      | .error f => f.isFatal = true := by
  refine (Run.steady_stopping hq).bind ?_
  intro stopped
  split
  · exact Run.heeds_pure trivial
  · refine (Retry.heeds_connectUntilStopped true plan.initialPolicy hq).bind (fun _ _ h => h.1) ?_
    intro r q' hr
    cases r with
    | none => exact Run.heeds_pure trivial
    | some c =>
        obtain rfl : q' = .fresh c := hr
        refine (Run.steady_enter _).bind ?_
        intro _
        refine (Session.heeds_startOn plan.session (Session.ready_fresh c)).bind (fun _ _ h => h) ?_
        intro session q' h
        refine (Run.steady_enter _).bind ?_
        intro _
        refine (Run.steady_note _ _).bind ?_
        intro _
        refine Run.heeds_pure ?_
        obtain ⟨rfl, rfl⟩ := h
        rfl

/-- What holds at the end whatever comes first. -/
theorem ensures_whatever {w : World} {s : Site} {x : Run α} {f : α → Run β}
    {Q : Except Fault β → Site → Prop} (hfault : ∀ g t, Q (.error g) t)
    (hf : ∀ a t, Run.Ensures w t (f a) Q) : Run.Ensures w s (x >>= f) Q := by
  refine Run.ensures_bind (P := fun _ _ => True) ?_ (fun g t _ => hfault g t) fun a t _ => hf a t
  unfold Run.Ensures
  rcases x.perform w s with ⟨(f | _) | a, t⟩ <;> trivial

/-- A retry loop is abandoned only when shutdown was asked for. -/
theorem stopping_of_abandoned {op : Nat → Run α} (abandon : Bool) (name : String)
    (fuel attempts : Nat) (backoff : Backoff) (throttle : LogThrottle) (w : World) (s : Site) :
    Run.Ensures w s (Retry.rounds abandon name op fuel attempts backoff throttle) fun r t =>
      r = .ok none → t.stopping = true := by
  induction fuel generalizing attempts backoff throttle s with
  | zero => exact Run.ensures_giveUp
  | succ fuel ih =>
      refine ensures_whatever (fun _ _ => nofun) fun r t => ?_
      cases r with
      | ok a =>
          have hdone : ∀ t, Run.Ensures w t (pure (some a) : Run (Option α)) fun r t =>
              r = .ok none → t.stopping = true := fun t => Run.ensures_pure (s := t) (some a) nofun
          dsimp only
          split
          · exact ensures_whatever (fun _ _ => nofun) fun _ t => hdone t
          · exact hdone t
      | error f =>
          dsimp only
          split
          · exact Run.ensures_fail f nofun
          · refine ensures_whatever (fun _ _ => nofun) fun w' t => ?_
            split
            · exact ensures_whatever (fun _ _ => nofun) fun _ t =>
                Run.ensures_fail (s := t) _ nofun
            · refine ensures_whatever (fun _ _ => nofun) fun site t => ?_
              refine ensures_whatever (fun _ _ => nofun) fun _ t => ?_
              refine ensures_whatever (fun _ _ => nofun) fun _ t => ?_
              refine Run.ensures_bind (P := fun r t => r = .ok true → t.stopping = true)
                (Run.ensures_stopping Except.ok.inj fun _ => rfl) (fun _ _ _ => nofun) ?_
              intro stopped t hstopped
              split
              · rename_i hstop
                refine Run.ensures_pure (s := t) none fun _ => hstopped ?_
                rw [(Bool.and_eq_true_iff.1 hstop).2]
              · exact ih _ _ _ t

theorem stopping_of_opens {w : World} {s t : Site}
    (h : (opens plan).perform w s = (.ok none, t)) : t.stopping = true := by
  have hconnect : ∀ s, Run.Ensures w s (Retry.connectUntilStopped true plan.initialPolicy)
      fun r t => r = .ok none → t.stopping = true := by
    intro s
    refine Run.ensures_bind (P := fun r t => r = .ok none → t.stopping = true)
      (Run.ensures_step (Run.perform_read w s) (stopping_of_abandoned ..)) (fun _ _ _ => nofun) ?_
    intro r t hr
    cases r with
    | none => exact Run.ensures_pure (s := t) none hr
    | some c =>
        exact ensures_whatever (fun _ _ => nofun) fun _ t => Run.ensures_pure (s := t) _ nofun
  have hopens : Run.Ensures w s (opens plan) fun r t => r = .ok none → t.stopping = true := by
    refine Run.ensures_bind (P := fun r t => r = .ok true → t.stopping = true)
      (Run.ensures_stopping Except.ok.inj fun _ => rfl) (fun _ _ _ => nofun) ?_
    intro stopped t hstopped
    split
    · rename_i hstop
      exact Run.ensures_pure (s := t) none fun _ => hstopped (by rw [hstop])
    · refine Run.ensures_bind (hconnect t) (fun _ _ _ => nofun) ?_
      intro r t hr
      cases r with
      | none => exact Run.ensures_pure (s := t) none fun _ => hr rfl
      | some c =>
          refine ensures_whatever (fun _ _ => nofun) fun _ t => ?_
          refine ensures_whatever (fun _ _ => nofun) fun session t => ?_
          refine ensures_whatever (fun _ _ => nofun) fun _ t => ?_
          exact ensures_whatever (fun _ _ => nofun) fun _ t => Run.ensures_pure (s := t) _ nofun
  exact hopens.of_ok h rfl

variable (plan) in
/-- The snapshots that a whole run takes. -/
def taken (w : World) (s : Site) : List Trial :=
  match (opens plan).perform w s with
  | (.ok (some session), t) => snapshots plan w w.patience session t
  | (.ok none, _) | (.error _, _) => []

variable (plan) in
theorem harvests_rounds (w : World) {s : Site} (hs : s.standing.misshapen = false) :
    Harvests s (taken plan w s) ((rounds plan).perform w s).1 ((rounds plan).perform w s).2 := by
  obtain ⟨hleads, hlawful, hensures⟩ := heeds_opens plan hs w s rfl
  rw [rounds_eq, Run.perform_bind, taken]
  rcases hopens : (opens plan).perform w s with ⟨(f | _) | _ | session, t⟩ <;>
    rw [hopens] at hleads hlawful
  · refine ⟨.of_leads hleads, hlawful, nofun, fun g hg => ?_⟩
    obtain rfl := Halt.fault.inj (Except.error.inj hg)
    exact hensures.of_fault hopens
  · exact ⟨.of_leads hleads, hlawful, nofun, nofun⟩
  · exact ⟨.of_leads hleads, hlawful, fun _ => stopping_of_opens hopens, nofun⟩
  · have ht : t.standing = .recording session.connection := hensures.of_ok hopens
    simp only [Run.perform_bind, Run.perform_read]
    cases hpatience : w.patience with
    | zero => exact ⟨.of_leads hleads, hlawful, nofun, nofun⟩
    | succ n =>
        have hpositive : 0 < w.patience := by rw [hpatience]; exact Nat.succ_pos n
        exact (harvests_harvest hpositive (n + 1) session t ht).behind (.of_leads hleads) hlawful

end Controller
end RecordingHarvest
