import RecordingHarvest.Proofs.Recording.Balance
import RecordingHarvest.Proofs.Retry.Course
import RecordingHarvest.Proofs.Site.Accounts
import RecordingHarvest.Recording.Session

/-!
# Starting a session

An attempt to start a recording makes four calls, and a fifth one to undo the first if one of the
others fails.  An attempt either leaves a recording that is configured as the plan has it and
started (`Session.Configured`), or gives back whatever it got (`Session.GivesBack`); and so does
every attempt of the retry loop around it.

* `accounts_startOnce`: one attempt.
* `startOn_starts`: all attempts over one connection, which is closed exactly if none succeeds.
-/

namespace RecordingHarvest

open Remote (Answer Value)

namespace Deed

/-- Whether a deed is a call for a new recording. -/
def isCreation : Deed → Bool
  | .invoked _ call _ => call.operation == "newRecording"
  | _ => false

/-- The id that a call for a new recording is answered with. -/
def created? : Deed → Option Int
  | .invoked _ call answer =>
    if call.operation = "newRecording" then Resource.answeredId? answer else none
  | _ => none

/-- The id that a call to close a recording is about, if it is about nothing else. -/
def released? : Deed → Option (Option Int)
  | .invoked _ call _ =>
    if call.operation = "closeRecording" then some (Resource.calledId? call) else none
  | _ => none

/-- Whether a deed closes a connection. -/
def isClosing : Deed → Bool
  | .closed _ => true
  | _ => false

end Deed

namespace Session

open Recorder (called)
open Retry (trail)
open Run (Accounts)

variable {plan : SessionPlan} {c : Nat} {id : Int} {w : World} {start ds : List Deed}

/-- The calls of an attempt that starts a recording, which all succeed. -/
def Configured (plan : SessionPlan) (c : Nat) (id : Int) (calls : List Deed) : Prop :=
  ∃ v₁ v₂ v₃, calls = [called c "newRecording" [] (.ok (some (.long id))),
    called c "setPredefinedConfiguration" [.long id, .text plan.profile] (.ok v₁),
    called c "setRecordingOptions" [.long id, plan.options.toValue] (.ok v₂),
    called c "startRecording" [.long id] (.ok v₃)]

/-- The calls of an attempt that fails: it closes the recordings that it created, once each. -/
structure GivesBack (c : Nat) (calls : List Deed) : Prop where
  onlyCalls : ∀ d ∈ calls, ∃ call answer, d = .invoked c call answer
  asked : calls.countP Deed.isCreation = 1
  back : calls.filterMap Deed.released? = (calls.filterMap Deed.created?).map some

/-- The calls of an attempt that has got a recording and not given it back, and the first fault
among them. -/
structure Holding (c : Nat) (id : Int) (met : Option Fault) (calls : List Deed) : Prop where
  onlyCalls : ∀ d ∈ calls, ∃ call answer, d = .invoked c call answer
  asked : calls.countP Deed.isCreation = 1
  got : calls.filterMap Deed.created? = [id]
  kept : calls.filterMap Deed.released? = []
  first : calls.findSome? Deed.fault? = met

theorem holding_created (c : Nat) (id : Int) :
    Holding c id none [called c "newRecording" [] (.ok (some (.long id)))] where
  onlyCalls _ hd := ⟨_, _, List.mem_singleton.1 hd⟩
  asked := rfl
  got := rfl
  kept := rfl
  first := rfl

/-- The operations that create or close a recording or a stream, or whose answers have a shape. -/
def eventful : List String :=
  ["newRecording", "closeRecording", "cloneRecording", "openStream", "readStream"]

/-- Calls of other operations do no more than fail. -/
theorem Holding.other (h : Holding c id none ds) (operation : String)
    (hoperation : operation ∉ eventful) (arguments : List Value) (answer : Answer) :
    Holding c id (Fault.of? answer) (ds ++ [called c operation arguments answer]) := by
  simp only [eventful, List.mem_cons, List.not_mem_nil, or_false, not_or] at hoperation
  obtain ⟨hcreate, hclose, hclone, hopen, hread⟩ := hoperation
  refine ⟨?_, ?_, ?_, ?_, ?_⟩
  · intro d hd
    rcases List.mem_append.1 hd with hd | hd
    · exact h.onlyCalls d hd
    · exact ⟨_, _, List.mem_singleton.1 hd⟩
  · simp [h.asked, called, Deed.isCreation, hcreate]
  · simp [h.got, called, Deed.created?, hcreate]
  · simp [h.kept, called, Deed.released?, hclose]
  · simp [h.first, called, Deed.fault?, Remote.Invocation.fault?, hcreate, hclone, hopen, hread]

/-- One call to close it gives a recording back, whatever the answer. -/
theorem Holding.givesBack {met : Option Fault} (h : Holding c id met ds) (answer : Answer) :
    GivesBack c (ds ++ [called c "closeRecording" [.long id] answer]) := by
  refine ⟨?_, ?_, ?_⟩
  · intro d hd
    rcases List.mem_append.1 hd with hd | hd
    · exact h.onlyCalls d hd
    · exact ⟨_, _, List.mem_singleton.1 hd⟩
  · simp [h.asked, called, Deed.isCreation]
  · simp [h.got, h.kept, called, Deed.released?, Deed.created?, Resource.calledId?]

/-! ## One attempt -/

/-- What configuring a recording may come to: `done`, or the first fault. -/
def Configuring (c : Nat) (id : Int) (done : List Deed → Prop) : Except Halt Unit → List Deed → Prop
  | .ok _, calls => done calls
  | .error (.fault f), calls => Holding c id (some f) calls
  | .error .unfinished, _ => False

/-- What an attempt may come to. -/
def Attempt (plan : SessionPlan) (c : Nat) : Except Halt Int → List Deed → Prop
  | .ok id, calls => Configured plan c id calls
  | .error (.fault f), calls => GivesBack c calls ∧ calls.findSome? Deed.fault? = some f
  | .error .unfinished, _ => False

/-- A call to configure a recording, none having failed so far. -/
theorem accounts_step (hheld : Holding c id none ds) {operation : String} (arguments : List Value)
    (hoperation : operation ∉ eventful) :
    Accounts w start (fun calls _ => calls = ds) (Recorder.callUnit c operation arguments)
      fun r calls _ => Configuring c id
        (fun calls => ∃ v, calls = ds ++ [called c operation arguments (.ok v)]) r calls := by
  refine Recorder.accounts_callUnit c operation arguments ?_
  rintro calls - (f | v) rfl
  · exact hheld.other operation hoperation arguments (.error f)
  · exact ⟨v, rfl⟩

/-- One such call after the other. -/
theorem configuring_bind {x : Run Unit} {f : Unit → Run Unit} {P done done' : List Deed → Prop}
    (hx : Accounts w start (fun calls _ => P calls) x fun r calls _ =>
      Configuring c id done r calls)
    (hf : Accounts w start (fun calls _ => done calls) (f ()) fun r calls _ =>
      Configuring c id done' r calls) :
    Accounts w start (fun calls _ => P calls) (x >>= f) fun r calls _ =>
      Configuring c id done' r calls := by
  refine hx.bind ?_ fun _ => hf
  rintro (g | _) calls - h <;> exact h

/-- The calls that configure a recording are made one by one, until one fails. -/
theorem accounts_configure (plan : SessionPlan) (c : Nat) (id : Int) : Accounts w start
    (fun calls _ => calls = [called c "newRecording" [] (.ok (some (.long id)))])
    (configure plan c id) fun r calls _ => Configuring c id (Configured plan c id) r calls := by
  have hcreated := holding_created c id
  refine configuring_bind (accounts_step hcreated _ (by decide)) (.exists fun v₁ => ?_)
  have hprofile := hcreated.other "setPredefinedConfiguration" (by decide)
    [.long id, .text plan.profile] (.ok v₁)
  refine configuring_bind (accounts_step hprofile _ (by decide)) (.exists fun v₂ => ?_)
  have hoptions := hprofile.other "setRecordingOptions" (by decide)
    [.long id, plan.options.toValue] (.ok v₂)
  refine (accounts_step hoptions _ (by decide)).mono ?_
  rintro ((f | _) | _) calls - h
  · exact h
  · exact h
  · obtain ⟨v₃, rfl⟩ := h
    exact ⟨v₁, v₂, v₃, rfl⟩

/-- A call for a recording that gives none leaves nothing to give back. -/
theorem givesBack_refused {answer : Answer} {f : Fault}
    (h : answer.bind (Recorder.expectLong "newRecording") = .error f) :
    GivesBack c [called c "newRecording" [] answer] ∧
      [called c "newRecording" [] answer].findSome? Deed.fault? = some f := by
  have hnone : Resource.answeredId? answer = none := by
    match answer with
    | .error _ => rfl
    | .ok none => rfl
    | .ok (some (.bool _)) | .ok (some (.text _)) | .ok (some (.bytes _)) | .ok (some (.table _)) =>
        rfl
  refine ⟨⟨fun d hd => ⟨_, _, List.mem_singleton.1 hd⟩, rfl, ?_⟩, ?_⟩
  · simp [called, Deed.released?, Deed.created?, hnone]
  · simp [called, Deed.fault?, Remote.Invocation.fault?, h, Fault.of?]

/-- A call for a recording gives one, or it is all that the attempt comes to. -/
theorem accounts_newRecording (plan : SessionPlan) (c : Nat) : Accounts w start
    (fun calls _ => calls = []) (Recorder.newRecording c) fun r calls _ => match r with
      | .ok id => calls = [called c "newRecording" [] (.ok (some (.long id)))]
      | .error h => Attempt plan c (.error h) calls := by
  refine Recorder.accounts_callLong c "newRecording" [] ?_
  rintro calls - answer rfl
  cases hread : answer.bind (Recorder.expectLong "newRecording") with
  | error f => exact givesBack_refused hread
  | ok id =>
      obtain rfl : answer = .ok (some (.long id)) := by
        match answer with
        | .ok (some (.long n)) =>
            obtain rfl := Except.ok.inj hread
            rfl
      rfl

/-- Whatever comes of the call to give a recording back, the attempt keeps its first fault. -/
theorem accounts_closeRecording (plan : SessionPlan) (f : Fault) : Accounts w start
    (fun calls _ => Holding c id (some f) calls) (Recorder.closeRecording c id) fun r calls _ =>
      r ≠ .error .unfinished ∧ Attempt plan c (.error (.fault f)) calls := by
  refine Recorder.accounts_callUnit c "closeRecording" [.long id] ?_
  intro calls _ answer hheld
  refine ⟨Run.passed_ne_unfinished _, hheld.givesBack answer, ?_⟩
  rw [List.findSome?_append, hheld.first]
  rfl

/-- **One attempt** starts a recording that is configured as planned, or gives back what it got. -/
theorem accounts_startOnce (plan : SessionPlan) (c : Nat) : Accounts w start
    (fun calls _ => calls = []) (startOnce plan c) fun r calls _ => Attempt plan c r calls := by
  refine (accounts_newRecording plan c).bind (fun _ _ _ h => h) fun id => ?_
  refine (accounts_configure plan c id).attemptBind (fun _ _ h => h) ?_
  rintro (f | _)
  · refine (accounts_closeRecording plan f).attemptBind (fun _ _ h => absurd rfl h.1) ?_
    rintro (g | _)
    · exact (Run.idle_note _ _).bind fun _ => Run.accounts_fail fun _ _ h => h.2
    · exact Run.accounts_fail fun _ _ h => h.2
  · exact Run.accounts_pure fun _ _ h => h

/-! ## All attempts -/

theorem leaves_startOnce (plan : SessionPlan) (c : Nat) (w : World) :
    Retry.Leaves w (fun _ => startOnce plan c) fun _ => Attempt plan c :=
  fun _ _ => (accounts_startOnce plan c).from_start rfl

theorem Configured.asked {calls : List Deed} (h : Configured plan c id calls) :
    calls.countP Deed.isCreation = 1 ∧ calls.countP Deed.isClosing = 0 := by
  obtain ⟨v₁, v₂, v₃, rfl⟩ := h
  exact ⟨rfl, rfl⟩

/-- An attempt closes no connection. -/
theorem GivesBack.isClosing {calls : List Deed} (h : GivesBack c calls) :
    calls.countP Deed.isClosing = 0 := by
  refine List.countP_eq_zero.2 fun d hd => ?_
  obtain ⟨call, answer, rfl⟩ := h.onlyCalls d hd
  exact Bool.false_ne_true

/-- What starting a session comes to after `n` attempts that failed, with `m` retries allowed: the last
attempt starts it; or it gives back what it got too, and the connection is closed. -/
def Ends (plan : SessionPlan) (c m n : Nat) (calls : List Deed) :
    Except Halt Session → List Deed → Prop
  | .ok session, last =>
    session.connection = c ∧ Configured plan c session.recording calls ∧ last = calls
  | .error (.fault f), last =>
    GivesBack c calls ∧ last = calls ++ [.closed c] ∧
      ∃ g, calls.findSome? Deed.fault? = some g ∧
        (g.isFatal = true ∧ f = g ∨
          g.isFatal = false ∧ n = m ∧
            f = .backoffExhausted "start recording" (min (m + 1) tryLimit) g)
  | .error .unfinished, last => last = []

/-- How often the connection is closed: once, if a fault ends the start. -/
def closings {α : Type} : Except Halt α → Nat
  | .error (.fault _) => 1
  | _ => 0

/-- What becomes of the outcome of the retry loop. -/
theorem perform_startOn {result : Except Halt Int} {t : Site} {s : Site}
    (h : (Retry.run "start recording" plan.policy fun _ => startOnce plan c).perform w s =
      (result, t)) :
    ∃ u, (startOn plan c).perform w s = (result.map (⟨c, ·⟩), u) ∧
      u.history = t.history ++ List.replicate (closings result) (.closed c) := by
  rw [startOn, Run.perform_bind, Run.perform_attempt, h]
  rcases result with (f | _) | id
  · exact ⟨t.did (.closed c), rfl, t.history_did _⟩
  · exact ⟨t, rfl, (List.append_nil _).symm⟩
  · exact ⟨_, rfl, (List.append_nil _).symm⟩

/-- How starting a session ends behind its last attempt. -/
theorem ends_conclusion {m n : Nat} {calls : List Deed} {outcome : Except Halt Int}
    (hattempt : Attempt plan c outcome calls)
    (hspent : ∀ f, outcome = .error (.fault f) → f.isFatal = false → n = m)
    {result : Except Halt Int}
    (hresult : result = Retry.conclusion "start recording" (min (n + 1) tryLimit) outcome) :
    Ends plan c m n calls (result.map (⟨c, ·⟩))
        (calls ++ List.replicate (closings result) (.closed c)) ∧
      result ≠ .error .unfinished := by
  subst hresult
  rcases outcome with (g | _) | id
  · refine ⟨⟨hattempt.1, rfl, g, hattempt.2, ?_⟩, nofun⟩
    cases hfatal : g.isFatal with
    | true => exact .inl ⟨rfl, if_pos rfl⟩
    | false =>
        obtain rfl := hspent g rfl hfatal
        exact .inr ⟨rfl, rfl, if_neg Bool.false_ne_true⟩
  · exact hattempt.elim
  · exact ⟨⟨rfl, hattempt, List.append_nil _⟩, nofun⟩

/-- The last attempt makes one recording at most and closes the connection only if it fails. -/
theorem Ends.counts {m n : Nat} {calls last : List Deed} {result : Except Halt Session}
    (h : Ends plan c m n calls result last) :
    last.countP Deed.isCreation ≤ 1 ∧ last.countP Deed.isClosing = closings result := by
  rcases result with (f | _) | session
  · obtain ⟨hgives, rfl, -⟩ := h
    rw [List.countP_append, List.countP_append, hgives.asked, hgives.isClosing]
    exact ⟨Nat.le_refl 1, rfl⟩
  · obtain rfl := h
    exact ⟨Nat.zero_le 1, rfl⟩
  · obtain ⟨-, hconfigured, rfl⟩ := h
    exact ⟨Nat.le_of_eq hconfigured.asked.1, hconfigured.asked.2⟩

/-- All attempts together: the recordings asked for, and the connections closed. -/
theorem counts_of_ends {m n : Nat} {calls looks : Nat → List Deed} {last : List Deed}
    {result : Except Halt Session} (hn : n ≤ m) (hback : ∀ k < n, GivesBack c (calls k))
    (hstops : ∀ k, OnlyStops (looks k)) (hends : Ends plan c m n (calls n) result last) :
    (trail plan.policy w.chance calls looks 0 n ++ last).countP Deed.isCreation ≤ m + 1 ∧
      (trail plan.policy w.chance calls looks 0 n ++ last).countP Deed.isClosing =
        closings result := by
  have hcreations : (trail plan.policy w.chance calls looks 0 n).countP Deed.isCreation = n * 1 :=
    Retry.countP_trail (fun _ => rfl) rfl hstops 0 n fun i _ hi => (hback i (by omega)).asked
  have hclosings : (trail plan.policy w.chance calls looks 0 n).countP Deed.isClosing = n * 0 :=
    Retry.countP_trail (fun _ => rfl) rfl hstops 0 n fun i _ hi => (hback i (by omega)).isClosing
  obtain ⟨hcreated, hclosed⟩ := hends.counts
  rw [List.countP_append, List.countP_append, hcreations, hclosings, hclosed]
  omega

/-- **Starting a session, attempt by attempt.**  The recording may be tried `m` times more.  Every
attempt but the last gives back what it got before the next one begins, and does so exactly once, over
the connection at hand, which stays open.  The session is the recording of the last attempt, which
was created, configured and started by four calls that all succeeded, and not closed.  If there is no
session, then the last attempt gave back what it got as well, the connection is closed, and the fault
is a fatal one of that attempt, or tells that all retries are used up. -/
theorem startOn_starts (plan : SessionPlan) {m : Nat} (hretries : plan.policy.retries = some m)
    (hm : m ≤ tryLimit) (c : Nat) (w : World) (s : Site) :
    ∃ (n : Nat) (calls looks : Nat → List Deed) (last : List Deed) (result : Except Halt Session)
      (t : Site), n ≤ m ∧ (startOn plan c).perform w s = (result, t) ∧
      t.history = s.history ++ (trail plan.policy w.chance calls looks 0 n ++ last) ∧
      (∀ k < n, GivesBack c (calls k)) ∧ (∀ k, OnlyStops (looks k)) ∧
      Ends plan c m n (calls n) result last ∧ (result = .error .unfinished → n = w.patience) ∧
      (trail plan.policy w.chance calls looks 0 n ++ last).countP Deed.isCreation ≤ m + 1 ∧
      (trail plan.policy w.chance calls looks 0 n ++ last).countP Deed.isClosing =
        closings result := by
  have hcounted := BackoffPolicy.counted_of_retries hretries hm
  obtain ⟨later, answered, t, hrun, hlater, hcourse⟩ :=
    Retry.run_course "start recording" hcounted (leaves_startOnce plan c w) s
  obtain ⟨n, calls, looks, hearlier, hstops, hends⟩ := hcourse.unroll
  obtain ⟨u, hperform, hu⟩ := perform_startOn hrun
  rw [Nat.zero_add] at hends
  have hn : n ≤ m :=
    BackoffPolicy.le_of_grants hretries fun k hk => (hearlier k (Nat.zero_le k) (by omega)).1
  have hback : ∀ k < n, GivesBack c (calls k) := fun k hk => by
    obtain ⟨-, f, hattempt, -⟩ := hearlier k (Nat.zero_le k) (by omega)
    exact hattempt.1
  rw [hlater] at hu
  rcases hends with ⟨hpatience, rfl, rfl⟩ | ⟨-, outcome, hattempt, hlast, hresult, rfl⟩
  · have hended : Ends plan c m n (calls n) (.error .unfinished) [] := rfl
    refine ⟨n, calls, looks, [], _, u, hn, hperform, ?_, hback, hstops, hended, fun _ => hpatience,
      counts_of_ends hn hback hstops hended⟩
    rw [hu, List.append_nil]
    exact List.append_nil _
  · have hspent : ∀ f, outcome = .error (.fault f) → f.isFatal = false → n = m := by
      intro f hf hfatal
      have hnone := hlast f hf hfatal
      rw [BackoffPolicy.grants_of_retries hretries, decide_eq_false_iff_not] at hnone
      omega
    obtain ⟨hended, hfinished⟩ := ends_conclusion hattempt hspent hresult
    refine ⟨n, calls, looks, _, _, u, hn, hperform, ?_, hback, hstops, hended, ?_,
      counts_of_ends hn hback hstops hended⟩
    · rw [hu]
      simp only [List.append_assoc]
    · intro hunfinished
      rcases answered with h | id
      · exact absurd (congrArg Except.error (Except.error.inj hunfinished)) hfinished
      · exact nomatch hunfinished

/-- The first recording cannot be configured, nor closed; the second one can. -/
def balky : World where
  connect _ := .ok 0
  answer deeds _ _ :=
    if deeds.length = 2 ∨ deeds.length = 3 then .error (.io "busy")
    else .ok (some (.long (7 + deeds.length / 5)))
  signal _ := .quiet
  chance s := s
  logInterval := .zero
  patience := 3

/-- A plan that allows one retry. -/
def hasty : SessionPlan :=
  ⟨"default", .onDisk "harvest" (.ofSecs 20), .copy, .new (.ofSecs 1) (.ofSecs 15) (some 1)⟩

/-- The second of two attempts starts the session, and the first gave its recording back. -/
theorem startOn_starts_balky :
    ∃ (n : Nat) (calls : Nat → List Deed) (t : Site),
      (startOn hasty 0).perform balky .blank = (.ok ⟨0, 8⟩, t) ∧ n ≤ 1 ∧
      (∀ k < n, GivesBack 0 (calls k)) ∧ Configured hasty 0 8 (calls n) ∧
      t.history.countP Deed.isClosing = 0 := by
  have hstarted : ((startOn hasty 0).perform balky .blank).1.toOption = some ⟨0, 8⟩ := by
    decide +kernel
  obtain ⟨n, calls, looks, last, result, t, hn, hperform, hhistory, hback, -, hends, -, -,
    hclosings⟩ := startOn_starts hasty rfl (by decide) 0 balky .blank
  rw [hperform] at hstarted ⊢
  cases result with
  | error h => exact nomatch hstarted
  | ok session =>
      obtain rfl := Option.some.inj hstarted
      refine ⟨n, calls, t, rfl, hn, hback, hends.2.1, ?_⟩
      rw [hhistory]
      exact hclosings

end Session
end RecordingHarvest
