import RecordingHarvest.EntityGuid
import RecordingHarvest.Proofs.Recording.Verdict

/-!
# What becomes of a lost connection

A call that finds its connection lost ends a snapshot, and a read of the metadata, for good: what
comes next over that connection is cleaning up.  An attempt to start a recording that finds its
connection lost is followed by another one over the same connection, if the policy has a wait left.

* `EntityGuid.heeds_resolve`: the resolver never calls over a lost connection.
* `calls_over_lost`: the controller does so to clean up, or to begin a recording anew.
* `lost_connection_reused`: and the latter does happen.
-/

namespace RecordingHarvest

open Remote (Invocation Answer)
open Run (Heeds)

/-! ## The resolver -/

/-- Nothing is called over a lost connection. -/
def Standing.abstains (_ : Standing) (_ : Invocation) : Prop := False

/-- This is the connection at hand, and no answer had the wrong shape. -/
structure Standing.Holds (c : Nat) (q : Standing) : Prop where
  connection : q.connection = some c
  misshapen : q.misshapen = false

namespace LinkingMetadata

variable {c : Nat}

/-- A read that finds the connection lost says so. -/
theorem heeds_entityGuid {q : Standing} (hq : q.Holds c) (hfound : q.lost = false) :
    Heeds Standing.abstains q (entityGuid c) fun r q' => q'.Holds c ∧
      (q'.lost = true → ∃ text, r = .error (.connectionFailed text)) := by
  have hshape := Recorder.isMisshapen_of_not_mem ⟨object, operation, []⟩
    (show operation ∉ Recorder.shaped by decide)
  have hholds : ∀ answer, (q.after (.invoked c ⟨object, operation, []⟩ answer)).Holds c := by
    intro answer
    exact ⟨hq.connection, by simp only [Standing.after, hshape, hq.misshapen, Bool.or_self]⟩
  have hok : ∀ value, (q.after (.invoked c ⟨object, operation, []⟩ (.ok value))).lost = false := by
    intro value
    simp only [Standing.after, Remote.Answer.isLost, hfound, Bool.false_and, Bool.or_self]
  have hread : Heeds Standing.abstains q (read c) fun r q' => q'.Holds c ∧
      (q'.lost = true → ∃ text, r = .error (.connectionFailed text)) := by
    refine (Run.heeds_invoke fun answer => ⟨hq.connection, ?_, ?_⟩).bind ?_ ?_
    · exact fun h => absurd (hfound.symm.trans h) Bool.false_ne_true
    · exact fun h => absurd (hq.misshapen.symm.trans h) Bool.false_ne_true
    · rintro g q' rfl
      refine ⟨hholds _, fun hlost => ?_⟩
      simp only [Standing.after, hfound, Bool.false_and, Bool.or_false] at hlost
      cases g with
      | connectionFailed text => exact ⟨text, rfl⟩
      | _ => exact absurd hlost Bool.false_ne_true
    · rintro value q' rfl
      exact Run.heeds_ofExcept ⟨hholds _, fun hlost =>
        absurd ((hok value).symm.trans hlost) Bool.false_ne_true⟩
  refine hread.bind ?_ ?_
  · rintro g q' ⟨hholds', hlost⟩
    refine ⟨hholds', fun h => ?_⟩
    obtain ⟨text, hg⟩ := hlost h
    obtain rfl := Except.error.inj hg
    exact ⟨text, rfl⟩
  · rintro entries q' ⟨hholds', hlost⟩
    refine Run.heeds_pure ⟨hholds', fun h => ?_⟩
    obtain ⟨text, hg⟩ := hlost h
    cases hg

end LinkingMetadata

namespace EntityGuid

/-- A read over a lost connection is judged so. -/
theorem heeds_judge {q : Standing} (r : Except Fault (Option String)) :
    Heeds Standing.abstains q (judge r) fun v q' => q' = q ∧ ∃ verdict, v = .ok verdict ∧
      ∀ text, r = .error (.connectionFailed text) → verdict = .lost := by
  have hnoted : ∀ (text : String) (verdict : Verdict),
      (∀ text, r = .error (.connectionFailed text) → verdict = .lost) →
      Heeds Standing.abstains q (Run.note .info text >>= fun _ => pure verdict) fun v q' =>
        q' = q ∧ ∃ verdict, v = .ok verdict ∧
          ∀ text, r = .error (.connectionFailed text) → verdict = .lost := fun text verdict h =>
    (Run.steady_note _ _).bind fun _ => Run.heeds_pure ⟨rfl, verdict, rfl, h⟩
  rcases r with f | _ | guid
  · cases f with
    | connectionFailed text => exact hnoted _ .lost fun _ _ => rfl
    | _ => exact hnoted _ (.settled none) nofun
  · exact Run.heeds_pure ⟨rfl, .pending, rfl, nofun⟩
  · exact hnoted _ (.settled (some guid)) nofun

/-- Asking on a connection ends when that is found lost. -/
theorem heeds_ask {c : Nat} (fuel : Nat) (backoff : Backoff) {q : Standing} (hq : q.Holds c)
    (hfound : q.lost = false) :
    Heeds Standing.abstains q (ask c fuel backoff) fun r q' => r.isOk = true ∧ q'.Holds c := by
  induction fuel generalizing backoff q with
  | zero => exact Run.heeds_giveUp
  | succ fuel ih =>
      refine (LinkingMetadata.heeds_entityGuid hq hfound).attemptBind ?_
      rintro r q₁ ⟨hholds, hlost⟩
      refine (heeds_judge r).bind ?_ ?_
      · rintro g q₂ ⟨-, verdict, hv, -⟩
        exact nomatch hv
      rintro verdict q₂ ⟨rfl, _, hv, hverdict⟩
      obtain rfl := Except.ok.inj hv
      cases verdict with
      | settled guid => exact Run.heeds_pure ⟨rfl, hholds⟩
      | _ =>
          refine Run.steady_read.bind ?_
          intro w
          split
          · exact (Run.steady_note _ _).bind fun _ => Run.heeds_pure ⟨rfl, hholds⟩
          · split
            · refine (Run.steady_note _ _).bind ?_
              intro _
              exact (Run.steady_pause hholds.misshapen _).bind fun _ =>
                Run.heeds_pure ⟨rfl, hholds⟩
            · rename_i hne
              refine (Run.steady_note _ _).bind ?_
              intro _
              refine (Run.steady_pause hholds.misshapen _).bind ?_
              intro _
              refine ih _ hholds (Bool.eq_false_iff.2 fun h => ?_)
              obtain ⟨text, hr⟩ := hlost h
              exact hne (hverdict text hr)

theorem heeds_search (fuel : Nat) (backoff : Backoff) {q : Standing} (hq : q.misshapen = false) :
    Heeds Standing.abstains q (search fuel backoff) fun _ _ => True := by
  induction fuel generalizing backoff q with
  | zero => exact Run.heeds_giveUp
  | succ fuel ih =>
      refine (Retry.heeds_connect .waitForever hq).bind (fun _ _ _ => trivial) ?_
      rintro c q' rfl
      refine Run.steady_read.bind ?_
      intro w
      refine (heeds_ask (c := c) w.patience backoff ⟨rfl, rfl⟩ rfl).bind (fun _ _ _ => trivial) ?_
      rintro ⟨lookup, backoff⟩ q' ⟨-, hholds⟩
      refine (Run.heeds_close hholds.connection).bind (fun _ _ _ => trivial) ?_
      rintro _ q' ⟨-, rfl⟩
      cases lookup with
      | settled guid => exact Run.heeds_pure trivial
      | reconnect => exact ih backoff hholds.misshapen

/-- **The resolver never calls over a lost connection**, nor over one that it closed. -/
theorem heeds_resolve (policy : BackoffPolicy) (common : Attributes) {q : Standing}
    (hq : q.misshapen = false) :
    Heeds Standing.abstains q (resolve policy common) fun _ _ => True := by
  refine Run.steady_read.bind ?_
  intro w
  exact (heeds_search _ _ hq).bind (fun _ _ _ => trivial) fun _ _ _ => Run.heeds_pure trivial

end EntityGuid

/-! ## The controller -/

namespace Controller

variable {σ : Type} {holds : σ → Prop} {handle : Snapshot → Handling σ Unit}

/-- **Which calls are made over a lost connection.**  Every call goes to the connection that the
latest connect gave and that was not closed since.  If a call found that one lost, then until a
recording can be created on it the controller does no more than clean up, or try to create one while
none was started on it; the resolver makes no more calls over it at all. -/
theorem calls_over_lost (plan : ControllerPlan) (h : Aside holds handle) (st : σ) (hst : holds st)
    (w : World) {s : Site} (hfresh : s.deeds = []) :
    (∀ before c call answer after,
      (((Controller.run handle plan).run st).perform w s).2.history =
          before ++ .invoked c call answer :: after →
        (Standing.past before).connection = some c ∧
          ((Standing.past before).lost = true → call.isCleanup = true ∨
            call.operation = "newRecording" ∧ (Standing.past before).started = false)) ∧
    ∀ policy common before c call answer after,
      ((EntityGuid.resolve policy common).perform w s).2.history =
          before ++ .invoked c call answer :: after →
        (Standing.past before).connection = some c ∧ (Standing.past before).lost = false := by
  constructor
  · intro before c call answer after hsplit
    obtain ⟨hconnection, hlost, -⟩ := run_lawful h hst hfresh rfl before _ after hsplit
    exact ⟨hconnection, hlost⟩
  · intro policy common before c call answer after hsplit
    have hempty : s.history = [] := by rw [Site.history, hfresh]; rfl
    have hshaped : s.standing.misshapen = false := by rw [Site.standing, hempty]; rfl
    obtain ⟨-, hlawful, -⟩ := EntityGuid.heeds_resolve policy common hshaped w s rfl
    obtain ⟨hconnection, hlost, -⟩ :=
      hlawful (hempty ▸ Standing.lawful_nil) before _ after hsplit
    exact ⟨hconnection, Bool.eq_false_iff.2 hlost⟩

/-- A target that is gone for the first call over its connection, and answers a number to every
other call; shutdown comes in the harvest sleep. -/
def losing : World where
  connect _ := .ok 0
  answer deeds _ _ :=
    if deeds.length = 1 then .error (.connectionFailed "down") else .ok (some (.long 7))
  signal deeds := if deeds.length < 7 then .quiet else .duringSleep
  chance s := s
  logInterval := .zero
  patience := 3

/-- The deeds of a run against that target. -/
def losingHistory : List Deed :=
  (((Controller.run Depot.handle copying).run idleDepot).perform losing smallSite).2.history

/-- Whether a deed is a call that does more than clean up. -/
def isWork : Deed → Bool
  | .invoked _ call _ => !call.isCleanup
  | _ => false

/-- The fourth deed is a call over the connection that was lost. -/
theorem losingHistory_split : ∃ before c call answer after,
    losingHistory = before ++ .invoked c call answer :: after ∧
      (Standing.past before).lost = true ∧ call.isCleanup = false := by
  have hfourth : (losingHistory[3]?.map isWork).getD false = true := by decide +kernel
  have hlost : (Standing.past (losingHistory.take 3)).lost = true := by decide +kernel
  have hsplit : ∀ d, losingHistory[3]? = some d →
      losingHistory = losingHistory.take 3 ++ d :: losingHistory.drop 4 := by
    intro d hd
    obtain ⟨hlength, rfl⟩ := List.getElem?_eq_some_iff.1 hd
    rw [← List.drop_eq_getElem_cons hlength, List.take_append_drop]
  rcases hd : losingHistory[3]? with _ | d <;> rw [hd] at hfourth
  · exact absurd hfourth Bool.false_ne_true
  · cases d with
    | invoked c call answer =>
        exact ⟨_, c, call, answer, _, hsplit _ hd, hlost, by simpa [isWork] using hfourth⟩
    | _ => exact absurd hfourth Bool.false_ne_true

/-- That call creates a recording anew. -/
theorem calls_over_lost_losing : ∃ before c call answer after,
    losingHistory = before ++ .invoked c call answer :: after ∧
      (Standing.past before).lost = true ∧ call.operation = "newRecording" := by
  obtain ⟨before, c, call, answer, after, hsplit, hlost, hclean⟩ := losingHistory_split
  obtain ⟨-, hover⟩ := (calls_over_lost copying aside_depot idleDepot writes_idleDepot losing
    (s := smallSite) rfl).1 before c call answer after hsplit
  refine ⟨before, c, call, answer, after, hsplit, hlost, ?_⟩
  rcases hover hlost with h | ⟨hnew, -⟩
  · exact absurd (hclean.symm.trans h) Bool.false_ne_true
  · exact hnew

/-- **A lost connection is used for new work**: the next call over it need not clean up. -/
theorem lost_connection_reused : ¬ ∀ before c call answer after,
    losingHistory = before ++ .invoked c call answer :: after →
      (Standing.past before).lost = true → call.isCleanup = true := by
  intro hclaim
  obtain ⟨before, c, call, answer, after, hsplit, hlost, hclean⟩ := losingHistory_split
  exact absurd (hclean.symm.trans (hclaim before c call answer after hsplit hlost))
    Bool.false_ne_true

end Controller
end RecordingHarvest
