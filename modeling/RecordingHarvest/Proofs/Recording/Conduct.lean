import RecordingHarvest.Proofs.Site.Standing
import RecordingHarvest.Recording.Session

/-!
# How a session goes about its connection

One rule for each operation, capture, retry loop and session, all from the standing it finds to the
standing it leaves.  Work is done on a sound connection: it may find the connection lost or an
answer misshapen, and then it ends in a fault, which is fatal in the second case (`Worked`).
Cleaning up goes ahead on any connection and forgets neither (`Cleaned`).

* `heeds_take`: a capture is work, for all that it cleans up on the way.
* `heeds_rounds`: a retry loop lets only fatal faults out.
* `heeds_startOn`: an attempt to start a recording begins anew on a connection found lost.
-/

namespace RecordingHarvest

open Remote (Invocation Answer)
open Run (Heeds)

variable {α β : Type} {q q' : Standing} {c : Nat}

/-! ## Sound connections -/

/-- Over a lost connection there is cleaning up, and a recording may be begun anew if none was
started. -/
def Standing.restarts (q : Standing) (call : Invocation) : Prop :=
  call.isCleanup = true ∨ call.operation = "newRecording" ∧ q.started = false

/-- Neither was the connection found lost, nor was an answer misshapen. -/
structure Standing.Sound (q : Standing) : Prop where
  found : q.lost = false
  shaped : q.misshapen = false

theorem Standing.sound_recording (c : Nat) : (recording c).Sound := ⟨rfl, rfl⟩

theorem Standing.sound_fresh (c : Nat) : (fresh c).Sound := ⟨rfl, rfl⟩

/-- Sound standings differ in the connection or in the recording on it. -/
theorem Standing.Sound.eq (h : q.Sound) (h' : q'.Sound) (hconnection : q'.connection = q.connection)
    (hstarted : q'.started = q.started) : q' = q := by
  have hlost : q'.lost = q.lost := h'.found.trans h.found.symm
  have hmisshapen : q'.misshapen = q.misshapen := h'.shaped.trans h.shaped.symm
  cases q
  cases q'
  simp only [Standing.mk.injEq]
  exact ⟨hconnection, hlost, hstarted, hmisshapen⟩

/-- Work with this outcome led from one standing to the other. -/
structure Worked (q : Standing) (r : Except Fault α) (q' : Standing) : Prop where
  connection : q'.connection = q.connection
  started : q'.started = q.started
  found : r.isOk = true → q'.lost = false
  fatal : q'.misshapen = true → ∃ f, r = .error f ∧ f.isFatal = true

/-- Cleaning up with this outcome led from one standing to the other. -/
structure Cleaned (q : Standing) (r : Except Fault Unit) (q' : Standing) : Prop where
  connection : q'.connection = q.connection
  started : q'.started = q.started
  found : r.isOk = true → q'.lost = q.lost
  misshapen : q'.misshapen = q.misshapen

namespace Worked

theorem refl (hq : q.Sound) (r : Except Fault α) : Worked q r q :=
  ⟨rfl, rfl, fun _ => hq.found, fun h => absurd (hq.shaped.symm.trans h) Bool.false_ne_true⟩

theorem fault {f : Fault} (h : Worked q (.error f : Except Fault α) q') :
    Worked q (.error f : Except Fault β) q' :=
  ⟨h.connection, h.started, nofun, fun hshape => by
    obtain ⟨g, hg, hfatal⟩ := h.fatal hshape
    obtain rfl := Except.error.inj hg
    exact ⟨f, rfl, hfatal⟩⟩

/-- An answer of the wrong shape makes the fault fatal. -/
theorem shaped {f : Fault} (h : Worked q (.error f : Except Fault α) q') (hf : f.isFatal = false) :
    q'.misshapen = false := by
  cases hshape : q'.misshapen with
  | false => rfl
  | true =>
      obtain ⟨g, hg, hfatal⟩ := h.fatal hshape
      obtain rfl := Except.error.inj hg
      exact absurd (hf.symm.trans hfatal) Bool.false_ne_true

theorem sound {a : α} (h : Worked q (.ok a) q') : q'.Sound := by
  refine ⟨h.found rfl, ?_⟩
  cases hshape : q'.misshapen with
  | false => rfl
  | true => obtain ⟨g, hg, -⟩ := h.fatal hshape; exact nomatch hg

/-- Work that succeeds on a sound connection leaves it so. -/
theorem eq_of_ok {a : α} (hq : q.Sound) (h : Worked q (.ok a) q') : q' = q :=
  hq.eq h.sound h.connection h.started

/-- Cleaning up after work: the fault of the work counts before that of cleaning up. -/
theorem cleaned {r : Except Fault α} {r' : Except Fault Unit} {q₁ q₂ : Standing}
    (h : Worked q r q₁) (h' : Cleaned q₁ r' q₂) :
    Worked q (r >>= fun a => r' >>= fun _ => .ok a) q₂ := by
  refine ⟨h'.connection.trans h.connection, h'.started.trans h.started, ?_, ?_⟩
  · cases r with
    | error f => exact nofun
    | ok a =>
        cases r' with
        | error g => exact nofun
        | ok _ => exact fun _ => (h'.found rfl).trans (h.found rfl)
  · intro hshape
    obtain ⟨f, rfl, hfatal⟩ := h.fatal (h'.misshapen.symm.trans hshape)
    exact ⟨f, rfl, hfatal⟩

end Worked

namespace Run

variable {excuse : Standing → Invocation → Prop}

/-- Work after work on a sound connection. -/
theorem heeds_work {x : Run α} {f : α → Run β} (hq : q.Sound) (hx : Heeds excuse q x (Worked q))
    (hf : ∀ a, Heeds excuse q (f a) (Worked q)) : Heeds excuse q (x >>= f) (Worked q) := by
  refine hx.bind (fun g q' h => h.fault) ?_
  intro a q' h
  obtain rfl := h.eq_of_ok hq
  exact hf a

theorem heeds_work_onShelf (hq : q.Sound) (step : FileStep)
    (act : Shelf → Except Fault α × Shelf) : Heeds excuse q (onShelf step act) (Worked q) :=
  (heeds_onShelf hq.shaped step act).mono fun r q' h => by rw [h]; exact .refl hq r

end Run

/-! ## Operations -/

namespace Recorder

/-- The operations whose answers have a shape that matters. -/
def shaped : List String := ["newRecording", "cloneRecording", "openStream", "readStream"]

theorem isMisshapen_of_not_mem (call : Invocation) (h : call.operation ∉ shaped) (answer : Answer) :
    call.isMisshapen answer = false := by
  have hthree :
      ["newRecording", "cloneRecording", "openStream"].contains call.operation = false := by
    simp only [shaped, List.mem_cons, List.not_mem_nil, or_false, not_or] at h
    simp [h]
  have hread : (call.operation == "readStream") = false := by
    simp only [shaped, List.mem_cons, List.not_mem_nil, or_false, not_or] at h
    simp [h]
  have hfour : shaped.contains call.operation = false := by simpa using h
  unfold Remote.Invocation.isMisshapen
  split
  · exact hfour
  · rfl
  · rw [hthree, hread]; rfl

/-- A misshapen fault is fatal. -/
theorem isFatal_of_isMisshapen {call : Invocation} {g : Fault}
    (h : call.isMisshapen (.error g) = true) : g.isFatal = true := by
  cases g with
  | protocolShape operation detail => rfl
  | _ => exact absurd h Bool.false_ne_true

/-- A value that is not the id it must be is taken for a fatal fault. -/
theorem fatal_of_expectLong {operation : String} {v : Option Remote.Value}
    (h : (expectLong operation v).isOk = false) :
    ∃ f, expectLong operation v = .error f ∧ f.isFatal = true := by
  rcases v with _ | ⟨id⟩ | _
  · exact ⟨_, rfl, rfl⟩
  · exact absurd h.symm Bool.false_ne_true
  all_goals exact ⟨_, rfl, rfl⟩

/-- A value that is not the block it must be is taken for a fatal fault. -/
theorem fatal_of_expectBytes {operation : String} {v : Option Remote.Value}
    (h : (expectBytes operation v).isOk = false) :
    ∃ f, expectBytes operation v = .error f ∧ f.isFatal = true := by
  unfold expectBytes at h ⊢
  split at h
  · exact absurd h.symm Bool.false_ne_true
  · exact absurd h.symm Bool.false_ne_true
  · exact ⟨_, rfl, rfl⟩

variable {operation : String} {arguments : List Remote.Value}

theorem heeds_call {excuse : Standing → Invocation → Prop}
    (h : ∀ answer, q.Allows excuse (.invoked c ⟨object, operation, arguments⟩ answer)) :
    Heeds excuse q (call c operation arguments) fun r q' =>
      q' = q.after (.invoked c ⟨object, operation, arguments⟩ r) :=
  (Run.steady_note _ _).bind fun _ => Run.heeds_invoke h

/-- Giving something back is allowed on any connection. -/
theorem heeds_cleanup (hop : operation = "closeStream" ∨ operation = "closeRecording")
    (hc : q.connection = some c) :
    Heeds Standing.restarts q (callUnit c operation arguments) (Cleaned q) := by
  have hclean : (⟨object, operation, arguments⟩ : Invocation).isCleanup = true := by
    rcases hop with rfl | rfl <;> rfl
  have hnot : operation ∉ shaped := by rcases hop with rfl | rfl <;> decide
  have hshape : ∀ answer,
      (⟨object, operation, arguments⟩ : Invocation).isMisshapen answer = false :=
    isMisshapen_of_not_mem _ hnot
  have hstart : (operation == "startRecording") = false := by rcases hop with rfl | rfl <;> rfl
  have hcleaned : ∀ (answer : Answer) (r : Except Fault Unit),
      (r.isOk = true → answer.isOk = true) →
      Cleaned q r (q.after (.invoked c ⟨object, operation, arguments⟩ answer)) := by
    intro answer r hr
    refine ⟨rfl, by simp [Standing.after, hstart], fun hok => ?_, by simp [Standing.after, hshape]⟩
    cases answer with
    | error f => exact absurd (hr hok) Bool.false_ne_true
    | ok v =>
        have hne : (operation == "newRecording") = false := by rcases hop with rfl | rfl <;> rfl
        simp [Standing.after, Remote.Answer.isLost, Remote.Invocation.isRenewal, hne]
  refine (heeds_call fun answer => ⟨hc, fun _ => .inl hclean, fun _ => hclean⟩).bind ?_ ?_
  · rintro g q' rfl
    exact hcleaned _ _ fun h => absurd h Bool.false_ne_true
  · rintro v q' rfl
    exact Run.heeds_pure (hcleaned _ _ fun _ => rfl)

/-- A call on a sound connection whose answer does not matter. -/
theorem heeds_callUnit (hop : operation ∉ "startRecording" :: shaped) (hc : q.connection = some c)
    (hq : q.Sound) : Heeds Standing.restarts q (callUnit c operation arguments) (Worked q) := by
  obtain ⟨hstart, hop⟩ := not_or.1 (mt List.mem_cons.2 hop)
  have hworked : ∀ (answer : Answer) (r : Except Fault Unit),
      (r.isOk = true → answer.isOk = true) →
      Worked q r (q.after (.invoked c ⟨object, operation, arguments⟩ answer)) := by
    intro answer r hr
    have hshape := isMisshapen_of_not_mem ⟨object, operation, arguments⟩ hop answer
    refine ⟨rfl, by simp [Standing.after, hstart], fun hok => ?_, fun h => ?_⟩
    · cases answer with
      | error f => exact absurd (hr hok) Bool.false_ne_true
      | ok v => simp [Standing.after, Remote.Answer.isLost, hq.found]
    · simp only [Standing.after, hshape, hq.shaped, Bool.or_self] at h
      exact absurd h Bool.false_ne_true
  refine (heeds_call fun answer => ⟨hc, ?_, ?_⟩).bind ?_ ?_
  · exact fun h => absurd (hq.found.symm.trans h) Bool.false_ne_true
  · exact fun h => absurd (hq.shaped.symm.trans h) Bool.false_ne_true
  · rintro g q' rfl
    exact hworked _ _ fun h => absurd h Bool.false_ne_true
  · rintro v q' rfl
    exact Run.heeds_pure (hworked _ _ fun _ => rfl)

/-- An operation that must give an id.  Creating a recording is allowed on a lost connection too, as
long as none was started. -/
theorem heeds_callLong
    (hop : operation ∈ ["newRecording", "cloneRecording", "openStream"])
    (hc : q.connection = some c) (hq : q.misshapen = false)
    (hlost : q.lost = true → operation = "newRecording" ∧ q.started = false) :
    Heeds Standing.restarts q (callLong c operation arguments) (Worked q) := by
  have hstart : (operation == "startRecording") = false := by
    simp only [List.mem_cons, List.not_mem_nil, or_false] at hop
    rcases hop with rfl | rfl | rfl <;> rfl
  have hread : (operation == "readStream") = false := by
    simp only [List.mem_cons, List.not_mem_nil, or_false] at hop
    rcases hop with rfl | rfl | rfl <;> rfl
  refine (heeds_call fun answer => ⟨hc, fun h => .inr (hlost h), ?_⟩).bind ?_ ?_
  · exact fun h => absurd (hq.symm.trans h) Bool.false_ne_true
  · rintro g q' rfl
    refine ⟨rfl, by simp [Standing.after, hstart], fun h => absurd h Bool.false_ne_true,
      fun h => ⟨g, rfl, ?_⟩⟩
    simp only [Standing.after, hq, Bool.false_or] at h
    exact isFatal_of_isMisshapen h
  · rintro v q' rfl
    refine Run.heeds_ofExcept ⟨rfl, by simp [Standing.after, hstart], fun _ => ?_, fun h => ?_⟩
    · simp only [Standing.after, Remote.Answer.isLost, Bool.false_or, Bool.and_eq_false_iff,
        Bool.not_eq_false']
      cases hfound : q.lost with
      | false => exact .inl rfl
      | true => exact .inr (by rw [(hlost hfound).1]; rfl)
    · simp only [Standing.after, hq, Bool.false_or, Remote.Invocation.isMisshapen, hread,
        Bool.false_and, Bool.or_false, Bool.and_eq_true, Bool.not_eq_true'] at h
      exact fatal_of_expectLong h.2

theorem heeds_readStream (stream : Int) (hc : q.connection = some c) (hq : q.Sound) :
    Heeds Standing.restarts q (readStream c stream) (Worked q) := by
  refine (heeds_call fun answer => ⟨hc, ?_, ?_⟩).bind ?_ ?_
  · exact fun h => absurd (hq.found.symm.trans h) Bool.false_ne_true
  · exact fun h => absurd (hq.shaped.symm.trans h) Bool.false_ne_true
  · rintro g q' rfl
    refine ⟨rfl, by simp [Standing.after], fun h => absurd h Bool.false_ne_true,
      fun h => ⟨g, rfl, ?_⟩⟩
    simp only [Standing.after, hq.shaped, Bool.false_or] at h
    exact isFatal_of_isMisshapen h
  · rintro v q' rfl
    refine Run.heeds_ofExcept ⟨rfl, by simp [Standing.after], fun _ => ?_, fun h => ?_⟩
    · simp [Standing.after, Remote.Answer.isLost, hq.found]
    · have hbytes : (expectBytes "readStream" v).isOk = false := by
        simpa [Standing.after, hq.shaped, Remote.Invocation.isMisshapen] using h
      exact fatal_of_expectBytes hbytes

/-- Starting a recording is what makes a connection one with a recording. -/
theorem heeds_startRecording (id : Int) :
    Heeds Standing.restarts (.fresh c) (startRecording c id) fun r q' =>
      match r with
      | .ok _ => q' = .recording c
      | .error _ => q'.connection = some c ∧ q'.started = false ∧ q'.misshapen = false := by
  have hnot : "startRecording" ∉ shaped := by decide
  have hshape := isMisshapen_of_not_mem ⟨object, "startRecording", [.long id]⟩ hnot
  refine (heeds_call fun answer => ⟨rfl, ?_, ?_⟩).bind ?_ ?_
  · exact fun h => absurd h Bool.false_ne_true
  · exact fun h => absurd h Bool.false_ne_true
  · rintro g q' rfl
    exact ⟨rfl, rfl, by simp [Standing.after, hshape, Standing.fresh]⟩
  · rintro v q' rfl
    refine Run.heeds_pure ?_
    simp [Standing.after, hshape, Standing.fresh, Standing.recording, Remote.Answer.isLost,
      Except.isOk, Except.toBool]

end Recorder

/-! ## Captures -/

namespace Capture

open Recorder (heeds_callLong heeds_callUnit heeds_cleanup heeds_readStream)

theorem heeds_readBlocks (stream : Int) (blockSize : Nat) (x : Snapshot)
    (hc : q.connection = some c) (hq : q.Sound) (fuel total : Nat) :
    Heeds Standing.restarts q (readBlocks c stream blockSize x fuel total) (Worked q) := by
  induction fuel generalizing total with
  | zero => exact Run.heeds_giveUp
  | succ fuel ih =>
      refine Run.heeds_work hq (heeds_readStream stream hc hq) ?_
      intro answer
      cases answer with
      | none => exact Run.heeds_pure (.refl hq _)
      | some block =>
          refine Run.heeds_work hq (Run.heeds_work_onShelf hq _ _) ?_
          intro _
          split
          · exact Run.heeds_pure (.refl hq _)
          · exact ih _

theorem heeds_copyBlocks (stream : Int) (blockSize : Nat) (x : Snapshot)
    (hc : q.connection = some c) (hq : q.Sound) :
    Heeds Standing.restarts q (copyBlocks c stream blockSize x) (Worked q) := by
  refine Run.heeds_work hq (Run.heeds_work_onShelf hq _ _) ?_
  intro _
  refine Run.steady_read.bind ?_
  intro w
  refine Run.heeds_work hq (heeds_readBlocks stream blockSize x hc hq w.patience 0) ?_
  intro total
  exact Run.heeds_work hq (Run.heeds_work_onShelf hq _ _) fun _ => Run.heeds_pure (.refl hq _)

/-- A stream is closed on any connection, and does not hide what reading it found. -/
theorem heeds_streamClone (clone : Int) (blockSize : Nat) (x : Snapshot)
    (hc : q.connection = some c) (hq : q.Sound) :
    Heeds Standing.restarts q (streamClone c clone blockSize x) (Worked q) := by
  refine Run.heeds_work hq (heeds_callLong (by decide) hc hq.shaped ?_) ?_
  · exact fun h => absurd (hq.found.symm.trans h) Bool.false_ne_true
  intro stream
  refine (Run.steady_note _ _).bind ?_
  intro _
  refine (heeds_copyBlocks stream blockSize x hc hq).attemptBind ?_
  intro copied q₁ hcopied
  refine (heeds_cleanup (.inl rfl) (hcopied.connection.trans hc)).attemptBind ?_
  intro closed q₂ hclosed
  have hboth := hcopied.cleaned hclosed
  cases copied with
  | error f => exact Run.heeds_fail hboth.fault
  | ok total =>
      cases closed with
      | error g => exact Run.heeds_fail hboth.fault
      | ok _ =>
          obtain rfl := hboth.eq_of_ok hq
          refine Run.heeds_work hq (Run.heeds_ofExcept (.refl hq _)) ?_
          intro _
          refine Run.heeds_work hq (Run.heeds_ofExcept (.refl hq _)) ?_
          intro _
          refine Run.steady_get.bind ?_
          intro s
          refine (Run.steady_note _ _).mono ?_
          rintro r q' ⟨-, rfl⟩
          exact .refl hq r

theorem heeds_fetch (method : CaptureMethod) (clone : Int) (x : Snapshot)
    (hc : q.connection = some c) (hq : q.Sound) :
    Heeds Standing.restarts q (fetch method c clone x) (Worked q) := by
  cases method with
  | stream blockSize => exact heeds_streamClone clone blockSize x hc hq
  | copy =>
      refine Run.steady_get.bind ?_
      intro s
      refine (Run.steady_note _ _).bind ?_
      intro _
      exact (Run.steady_receive x).bind fun _ => heeds_callUnit (by decide) hc hq

/-- A clone is closed on any connection, and does not hide what fetching it found. -/
theorem heeds_fetchCloned (method : CaptureMethod) (recording : Int) (x : Snapshot)
    (hc : q.connection = some c) (hq : q.Sound) :
    Heeds Standing.restarts q (fetchCloned method c recording x) (Worked q) := by
  refine Run.heeds_work hq (heeds_callLong (by decide) hc hq.shaped ?_) ?_
  · exact fun h => absurd (hq.found.symm.trans h) Bool.false_ne_true
  intro clone
  refine (heeds_fetch method clone x hc hq).attemptBind ?_
  intro fetched q₁ hfetched
  refine (heeds_cleanup (.inr rfl) (hfetched.connection.trans hc)).attemptBind ?_
  intro closed q₂ hclosed
  have hboth := hfetched.cleaned hclosed
  cases fetched with
  | error f => exact Run.heeds_fail hboth.fault
  | ok _ =>
      cases closed with
      | error g => exact Run.heeds_fail hboth.fault
      | ok _ =>
          obtain rfl := hboth.eq_of_ok hq
          exact Run.heeds_pure (.refl hq _)

theorem heeds_create (hq : q.Sound) : Heeds Standing.restarts q create (Worked q) := by
  refine Run.heeds_work hq (Run.heeds_work_onShelf hq _ _) ?_
  intro x
  refine (Run.heeds_work_onShelf hq .file (·.makeFile x)).attemptBind ?_
  intro made q₁ hmade
  cases made with
  | ok _ =>
      obtain rfl := hmade.eq_of_ok hq
      exact Run.heeds_pure (.refl hq _)
  | error f => exact (Run.steady_clear x).bind fun _ => Run.heeds_fail hmade.fault

/-- **A capture is work**, for all that it cleans up on the way. -/
theorem heeds_take (method : CaptureMethod) (recording : Int) (hc : q.connection = some c)
    (hq : q.Sound) : Heeds Standing.restarts q (take method c recording) (Worked q) := by
  refine Run.heeds_work hq (heeds_create hq) ?_
  intro x
  refine (heeds_fetchCloned method recording x hc hq).attemptBind ?_
  intro fetched q₁ hfetched
  cases fetched with
  | ok _ =>
      obtain rfl := hfetched.eq_of_ok hq
      exact Run.heeds_pure (.refl hq _)
  | error f => exact (Run.steady_discard x).bind fun _ => Run.heeds_fail hfetched.fault

end Capture

/-! ## Retries -/

namespace Retry

variable {excuse : Standing → Invocation → Prop}

/-- What an attempt leads to: it is done, or it failed and another attempt may follow, unless its
fault is fatal. -/
def Attempted (ready failed : Standing → Prop) (done : α → Standing → Prop) :
    Except Fault α → Standing → Prop
  | .ok a, q' => done a q'
  | .error f, q' => failed q' ∧ (f.isFatal = false → ready q')

/-- What a retry loop leads to: it is done, abandoned between two attempts, or failed for good. -/
def Settled (ready failed : Standing → Prop) (done : α → Standing → Prop) :
    Except Fault (Option α) → Standing → Prop
  | .ok (some a), q' => done a q'
  | .ok none, q' => ready q'
  | .error f, q' => f.isFatal = true ∧ failed q'

section

variable {op : Nat → Run α} {ready failed : Standing → Prop} {done : α → Standing → Prop}
variable (hready : ∀ q, ready q → q.misshapen = false)
variable (hop : ∀ n q, ready q → Heeds excuse q (op n) (Attempted ready failed done))
include hready

variable (excuse op ready failed done) in
/-- A round of a retry loop is an attempt and what follows from it. -/
theorem rounds_succ (abandon : Bool) (name : String) (fuel attempts : Nat) (backoff : Backoff)
    (throttle : LogThrottle)
    (hrounds : ∀ attempts backoff throttle q, ready q →
      Heeds excuse q (rounds abandon name op fuel attempts backoff throttle)
        (Settled ready failed done)) :
    ∃ next, rounds abandon name op (fuel + 1) attempts backoff throttle =
        Run.attempt (op (min (attempts + 1) tryLimit)) >>= next ∧
      ∀ r q, Attempted ready failed done r q →
        Heeds excuse q (next r) (Settled ready failed done) := by
  refine ⟨_, rfl, ?_⟩
  intro r q hr
  cases r with
  | ok a =>
      dsimp only
      split
      · exact (Run.steady_note _ _).bind fun _ => Run.heeds_pure hr
      · exact Run.heeds_pure hr
  | error f =>
      dsimp only
      split
      · rename_i hfatal
        exact Run.heeds_fail ⟨hfatal, hr.1⟩
      · rename_i hfatal
        have hagain : ready q := hr.2 (Bool.eq_false_iff.2 hfatal)
        refine Run.steady_read.bind ?_
        intro w
        split
        · exact (Run.steady_note _ _).bind fun _ => Run.heeds_fail ⟨rfl, hr.1⟩
        · refine Run.steady_get.bind ?_
          intro s
          refine (Run.steady_note _ _).bind ?_
          intro _
          refine (Run.steady_pause (hready q hagain) _).bind ?_
          intro _
          refine (Run.steady_stopping (hready q hagain)).bind ?_
          intro stopped
          split
          · exact Run.heeds_pure hagain
          · exact hrounds _ _ _ q hagain

include hop

/-- **A retry loop lets only fatal faults out.** -/
theorem heeds_rounds (abandon : Bool) (name : String) (fuel attempts : Nat) (backoff : Backoff)
    (throttle : LogThrottle) (hq : ready q) :
    Heeds excuse q (rounds abandon name op fuel attempts backoff throttle)
      (Settled ready failed done) := by
  induction fuel generalizing attempts backoff throttle q with
  | zero => exact Run.heeds_giveUp
  | succ fuel ih =>
      obtain ⟨next, hnext, hheeds⟩ := rounds_succ excuse op ready failed done hready abandon name
        fuel attempts backoff throttle fun attempts backoff throttle q hq =>
          ih attempts backoff throttle hq
      rw [hnext]
      exact (hop _ q hq).attemptBind hheeds

theorem heeds_untilStopped (abandon : Bool) (name : String) (policy : BackoffPolicy)
    (hq : ready q) :
    Heeds excuse q (untilStopped abandon name policy op) (Settled ready failed done) :=
  Run.steady_read.bind fun _ => heeds_rounds hready hop abandon name _ 0 _ _ hq

theorem heeds_run (name : String) (policy : BackoffPolicy) (hq : ready q) :
    Heeds excuse q (Retry.run name policy op) fun r q' =>
      Settled ready failed done (r.map some) q' := by
  refine (heeds_untilStopped hready hop false name policy hq).bind (fun _ _ h => h) ?_
  intro r q' hr
  cases r with
  | none => exact Run.heeds_giveUp
  | some a => exact Run.heeds_pure hr

end

/-- An attempt to connect gives a fresh connection, or another attempt may follow. -/
theorem heeds_attempt (_ : Nat) (q : Standing) (hq : q.misshapen = false) :
    Heeds excuse q Run.connect
      (Attempted (·.misshapen = false) (fun _ => True) fun c q' => q' = .fresh c) := by
  refine (Run.heeds_connect hq).mono ?_
  rintro r q' rfl
  cases r with
  | ok c => simp only [Attempted, Standing.after, Standing.fresh, hq]
  | error f => exact ⟨trivial, fun _ => hq⟩

/-- Connecting needs nothing but answers of the right shape. -/
theorem heeds_connectUntilStopped (abandon : Bool) (policy : BackoffPolicy)
    (hq : q.misshapen = false) :
    Heeds excuse q (connectUntilStopped abandon policy)
      (Settled (·.misshapen = false) (fun _ => True) fun c q' => q' = .fresh c) := by
  refine (heeds_untilStopped (fun _ h => h) heeds_attempt abandon _ policy hq).bind
    (fun _ _ h => h) ?_
  intro r q' hr
  dsimp only
  split
  · exact (Run.steady_note _ _).bind fun _ => Run.heeds_pure hr
  · exact Run.heeds_pure hr

theorem heeds_connect (policy : BackoffPolicy) (hq : q.misshapen = false) :
    Heeds excuse q (Retry.connect policy) fun r q' =>
      match r with
      | .ok c => q' = .fresh c
      | .error f => f.isFatal = true := by
  refine (heeds_connectUntilStopped false policy hq).bind (fun _ _ h => h.1) ?_
  intro r q' hr
  cases r with
  | none => exact Run.heeds_giveUp
  | some c => exact Run.heeds_pure hr

end Retry

/-! ## Sessions -/

namespace Session

open Recorder (heeds_callLong heeds_callUnit heeds_cleanup heeds_startRecording)

variable (plan : SessionPlan)

/-- A connection on which a recording may be created. -/
def Ready (c : Nat) (q : Standing) : Prop :=
  q.connection = some c ∧ q.started = false ∧ q.misshapen = false

theorem ready_fresh (c : Nat) : Ready c (.fresh c) := ⟨rfl, rfl, rfl⟩

/-- Work on a fresh connection that failed leaves it ready, if not misshapen. -/
theorem heeds_configure (id : Int) :
    Heeds Standing.restarts (.fresh c) (configure plan c id) fun r q' =>
      match r with
      | .ok _ => q' = .recording c
      | .error f => q'.connection = some c ∧ q'.started = false ∧
          (f.isFatal = false → q'.misshapen = false) := by
  have hsound := Standing.sound_fresh c
  refine (heeds_callUnit (by decide) rfl hsound).bind ?_ ?_
  · intro g q' h
    exact ⟨h.connection, h.started, h.shaped⟩
  intro _ q₁ h₁
  obtain rfl := h₁.eq_of_ok hsound
  refine (heeds_callUnit (by decide) rfl hsound).bind ?_ ?_
  · intro g q' h
    exact ⟨h.connection, h.started, h.shaped⟩
  intro _ q₂ h₂
  obtain rfl := h₂.eq_of_ok hsound
  refine (heeds_startRecording id).mono ?_
  intro r q' h
  cases r with
  | ok _ => exact h
  | error f => exact ⟨h.1, h.2.1, fun _ => h.2.2⟩

/-- One attempt to start a recording leaves the connection with a recording or ready for another
attempt, found lost or not. -/
theorem heeds_startOnce (hq : Ready c q) :
    Heeds Standing.restarts q (startOnce plan c)
      (Retry.Attempted (Ready c) (·.connection = some c) fun _ q' => q' = .recording c) := by
  obtain ⟨hc, hstarted, hshaped⟩ := hq
  refine (heeds_callLong (by decide) hc hshaped fun _ => ⟨rfl, hstarted⟩).bind ?_ ?_
  · intro g q' h
    exact ⟨h.connection.trans hc, fun hg => ⟨h.connection.trans hc, h.started.trans hstarted,
      h.shaped hg⟩⟩
  intro id q₁ h₁
  obtain rfl : q₁ = .fresh c :=
    (Standing.sound_fresh c).eq h₁.sound (h₁.connection.trans hc) (h₁.started.trans hstarted)
  refine (heeds_configure plan id).attemptBind ?_
  intro configured q₂ h₂
  cases configured with
  | ok _ => exact Run.heeds_pure h₂
  | error f =>
      obtain ⟨hc₂, hstarted₂, hshaped₂⟩ := h₂
      refine (heeds_cleanup (.inr rfl) hc₂).attemptBind ?_
      intro closed q₃ h₃
      have hagain : Retry.Attempted (Ready c) (·.connection = some c)
          (fun _ q' => q' = .recording c) (.error f : Except Fault Int) q₃ :=
        ⟨h₃.connection.trans hc₂, fun hf => ⟨h₃.connection.trans hc₂, h₃.started.trans hstarted₂,
          h₃.misshapen.trans (hshaped₂ hf)⟩⟩
      cases closed with
      | ok _ => exact Run.heeds_fail hagain
      | error g => exact (Run.steady_note _ _).bind fun _ => Run.heeds_fail hagain

/-- **A recording is started**, in as many attempts as it takes, or the fault is fatal. -/
theorem heeds_startOn (hq : Ready c q) :
    Heeds Standing.restarts q (startOn plan c) fun r q' =>
      match r with
      | .ok session => session.connection = c ∧ q' = .recording c
      | .error f => f.isFatal = true := by
  refine (Retry.heeds_run (show ∀ q, Ready c q → q.misshapen = false from fun _ h => h.2.2)
    (fun _ q h => heeds_startOnce plan h) _ plan.policy hq).attemptBind ?_
  intro r q' hr
  cases r with
  | ok id => exact (Run.steady_note _ _).bind fun _ => Run.heeds_pure ⟨rfl, hr⟩
  | error f =>
      refine (Run.heeds_close hr.2).bind nofun ?_
      intro _ _ _
      exact Run.heeds_fail hr.1

theorem heeds_start (policy : BackoffPolicy) (hq : q.misshapen = false) :
    Heeds Standing.restarts q (start plan policy) fun r q' =>
      match r with
      | .ok session => q' = .recording session.connection
      | .error f => f.isFatal = true := by
  refine (Retry.heeds_connect policy hq).bind (fun _ _ h => h) ?_
  rintro c q' rfl
  refine (heeds_startOn plan (ready_fresh c)).mono ?_
  intro r q' h
  cases r with
  | ok session => obtain ⟨rfl, rfl⟩ := h; rfl
  | error f => exact h

theorem heeds_snapshot (s : Session) :
    Heeds Standing.restarts (.recording s.connection) (s.snapshot plan)
      (Worked (.recording s.connection)) := by
  have hsound := Standing.sound_recording s.connection
  refine (Capture.heeds_take plan.method s.recording rfl hsound).attemptBind ?_
  intro r q₁ hr
  cases r with
  | error f =>
      -- the session's fault is fatal exactly if the capture's is
      refine Run.heeds_fail ⟨hr.connection, hr.started, nofun, fun hshape => ?_⟩
      obtain ⟨g, hg, hfatal⟩ := hr.fatal hshape
      obtain rfl := Except.error.inj hg
      exact ⟨_, rfl, by rw [Fault.isFatal_sessionFault]; exact hfatal⟩
  | ok x =>
      obtain rfl := hr.eq_of_ok hsound
      refine (Run.steady_count (by decide) 1).bind ?_
      intro _
      refine Run.steady_get.bind ?_
      intro site
      exact (Run.steady_note _ _).bind fun _ => Run.heeds_pure (.refl hsound _)

/-- A session can be closed on any connection. -/
theorem heeds_close (s : Session) (hc : q.connection = some s.connection) :
    Heeds Standing.restarts q s.close fun r q' => r = .ok () ∧ q'.misshapen = q.misshapen := by
  refine (heeds_cleanup (.inr rfl) hc).attemptBind ?_
  intro r q₁ h
  have hclose : Heeds Standing.restarts q₁ (Run.close s.connection) fun r q' =>
      r = .ok () ∧ q'.misshapen = q.misshapen := by
    refine (Run.heeds_close (h.connection.trans hc)).mono ?_
    rintro r q' ⟨hr, rfl⟩
    exact ⟨hr, h.misshapen⟩
  cases r with
  | ok _ => exact hclose
  | error f => exact (Run.steady_note _ _).bind fun _ => hclose

end Session
end RecordingHarvest
