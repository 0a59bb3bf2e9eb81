import RecordingHarvest.Proofs.Site.Ensures
import RecordingHarvest.Proofs.Writing
import RecordingHarvest.Recording.Recorder

/-!
# Where a run stands with its target

The deeds of a run tell on which connection it works, whether that connection was found lost,
whether a recording was started on it, and whether an answer had the wrong shape.  `Standing` keeps
these four, and `Standing.Allows` says which deeds may come next.  What lets work go on over a lost
connection is left open, as an *excuse*.

`Run.Heeds` says of a computation that it does only what is allowed, even where it is given up as
unfinished, and how its outcome goes with where it leaves the run.

* `Heeds.bind`, `Heeds.attemptBind`: one computation after the other, and with a fault caught.
* `Steady.bind`: a computation that leaves the run where it stands may come before any other.
-/

namespace RecordingHarvest

open Remote (Invocation Answer)

/-! ## Calls and their answers -/

/-- The calls that only give something back. -/
def Remote.Invocation.isCleanup (call : Invocation) : Bool :=
  call.operation == "closeStream" || call.operation == "closeRecording"

/-- The answer of a connection that is lost. -/
def Remote.Answer.isLost : Answer → Bool
  | .error (.connectionFailed _) => true
  | _ => false

/-- A recording that could be created shows that a connection is there again. -/
def Remote.Invocation.isRenewal (call : Invocation) (answer : Answer) : Bool :=
  call.operation == "newRecording" && answer.isOk

/-- Whether the answer to a call is, or will be taken for, a fault of its shape.  This is about the
operations that must give an id or a block. -/
def Remote.Invocation.isMisshapen (call : Invocation) (answer : Answer) : Bool :=
  match answer with
  | .error (.protocolShape ..) =>
    ["newRecording", "cloneRecording", "openStream", "readStream"].contains call.operation
  | .error _ => false
  | .ok value =>
    (["newRecording", "cloneRecording", "openStream"].contains call.operation &&
        !(Recorder.expectLong call.operation value).isOk) ||
      (call.operation == "readStream" && !(Recorder.expectBytes call.operation value).isOk)

/-! ## The standing -/

/-- Where a run stands with its target. -/
structure Standing where
  /-- The connection that the latest connect gave, until it is closed. -/
  connection : Option Nat
  /-- Whether a call found that connection lost, and no recording could be created on it since. -/
  lost : Bool
  /-- Whether a recording was started on that connection. -/
  started : Bool
  /-- Whether any answer so far had the wrong shape. -/
  misshapen : Bool
  deriving DecidableEq, Repr

namespace Standing

/-- Nothing was done yet. -/
def outset : Standing := ⟨none, false, false, false⟩

/-- A connection that was just made. -/
def fresh (c : Nat) : Standing := ⟨some c, false, false, false⟩

/-- A connection on which a recording was started. -/
def recording (c : Nat) : Standing := ⟨some c, false, true, false⟩

/-- The standing after one more deed. -/
def after (q : Standing) : Deed → Standing
  | .attempted (.ok c) => { q with connection := some c, lost := false, started := false }
  | .invoked _ call answer =>
    { q with
      lost := Remote.Answer.isLost answer || (q.lost && !call.isRenewal answer)
      started := q.started || (call.operation == "startRecording" && answer.isOk)
      misshapen := q.misshapen || call.isMisshapen answer }
  | .closed _ => { q with connection := none }
  | .attempted (.error _) | .filed .. | .paused _ | .rested _ | .stopped | .began | .captured _
  | .handled _ => q

/-- The standing after some deeds, in the order they were done. -/
def past (history : List Deed) : Standing := history.foldl after outset

/-- Which deeds may come next.  Calls go to the connection at hand; over a lost one they need an
excuse; and once an answer had the wrong shape there is only cleaning up. -/
def Allows (excuse : Standing → Invocation → Prop) (q : Standing) : Deed → Prop
  | .invoked c call _ =>
    q.connection = some c ∧ (q.lost = true → excuse q call) ∧
      (q.misshapen = true → call.isCleanup = true)
  | .closed c => q.connection = some c
  | .handled _ => True
  | .attempted _ | .filed .. | .paused _ | .rested _ | .stopped | .began | .captured _ =>
    q.misshapen = false

/-- Every deed of a history was allowed when it was done. -/
def Lawful (excuse : Standing → Invocation → Prop) (history : List Deed) : Prop :=
  ∀ before d after, history = before ++ d :: after → (past before).Allows excuse d

theorem past_snoc (history : List Deed) (d : Deed) :
    past (history ++ [d]) = (past history).after d :=
  List.foldl_append

theorem past_append (before after : List Deed) :
    past (before ++ after) = after.foldl Standing.after (past before) := List.foldl_append

theorem lawful_nil {excuse : Standing → Invocation → Prop} : Lawful excuse [] := by
  intro before d after h
  simp at h

/-- What holds of each deed and those before it, and of one more, holds of each deed with that one
added. -/
theorem forall_split_snoc {P : List Deed → Deed → Prop} {history : List Deed} {d : Deed}
    (h : ∀ before e after, history = before ++ e :: after → P before e) (hd : P history d) :
    ∀ before e after, history ++ [d] = before ++ e :: after → P before e := by
  intro before e after heq
  rcases List.eq_nil_or_concat after with rfl | ⟨rest, x, rfl⟩
  · obtain ⟨rfl, hlast⟩ := List.append_inj' heq rfl
    obtain rfl := List.head_eq_of_cons_eq hlast
    exact hd
  · rw [List.concat_eq_append, ← List.cons_append, ← List.append_assoc] at heq
    exact h before e rest (List.append_inj' heq rfl).1

/-- One more deed that is allowed keeps a history lawful. -/
theorem Lawful.snoc {excuse : Standing → Invocation → Prop} {history : List Deed} {d : Deed}
    (h : Lawful excuse history) (hd : (past history).Allows excuse d) :
    Lawful excuse (history ++ [d]) := forall_split_snoc h hd

/-- An answer of the wrong shape is not forgotten. -/
theorem misshapen_foldl {q : Standing} (h : q.misshapen = true) (deeds : List Deed) :
    (deeds.foldl after q).misshapen = true := by
  induction deeds generalizing q with
  | nil => exact h
  | cons d rest ih =>
      refine ih ?_
      cases d with
      | attempted r => cases r <;> exact h
      | invoked c call answer => simp [after, h]
      | closed c => exact h
      | filed _ _ | paused _ | rested _ | stopped | began | captured _ | handled _ => exact h

end Standing

/-- A call with an answer of the wrong shape. -/
def Deed.isMisshapen : Deed → Bool
  | .invoked _ call answer => call.isMisshapen answer
  | _ => false

/-- The deeds that wind a run up: something is given back, a connection closed, or a snapshot that
is queued handled.  Nothing new is begun. -/
def Deed.windsUp : Deed → Bool
  | .invoked _ call _ => call.isCleanup
  | .closed _ | .handled _ => true
  | _ => false

namespace Standing

variable {excuse : Standing → Invocation → Prop} {history : List Deed}

/-- **Behind an answer of the wrong shape a lawful history only winds up.** -/
theorem Lawful.windsUp (h : Lawful excuse history) {before after : List Deed} {d : Deed}
    (hsplit : history = before ++ d :: after) (hd : d.isMisshapen = true) :
    ∀ e ∈ after, e.windsUp = true := by
  intro e he
  obtain ⟨middle, rest, rfl⟩ := List.append_of_mem he
  have hallowed := h (before ++ d :: middle) e rest (by rw [hsplit, List.append_assoc]; rfl)
  have hshape : (past (before ++ d :: middle)).misshapen = true := by
    rw [past_append]
    refine misshapen_foldl ?_ middle
    cases d with
    | invoked c call answer =>
        show ((past before).misshapen || call.isMisshapen answer) = true
        rw [show call.isMisshapen answer = true from hd, Bool.or_true]
    | _ => exact nomatch hd
  cases e with
  | invoked c call answer => exact hallowed.2.2 hshape
  | closed c => rfl
  | handled x => rfl
  | attempted _ | filed _ _ | paused _ | rested _ | stopped | began | captured _ =>
      exact absurd (hallowed.symm.trans hshape) Bool.false_ne_true

/-- Handling snapshots is always allowed. -/
theorem Lawful.handled (h : Lawful excuse history) {later : List Deed}
    (hlater : ∀ d ∈ later, ∃ x, d = .handled x) : Lawful excuse (history ++ later) := by
  induction later generalizing history with
  | nil => rw [List.append_nil]; exact h
  | cons d rest ih =>
      obtain ⟨x, rfl⟩ := hlater d List.mem_cons_self
      have hrest := ih (h.snoc (d := .handled x) trivial) fun e he =>
        hlater e (List.mem_cons_of_mem _ he)
      rw [List.append_assoc] at hrest
      exact hrest

end Standing

/-- Where the run at a site stands with its target. -/
def Site.standing (s : Site) : Standing := .past s.history

namespace Site

theorem history_did (s : Site) (d : Deed) : (s.did d).history = s.history ++ [d] :=
  List.reverse_cons

theorem standing_did (s : Site) (d : Deed) : (s.did d).standing = s.standing.after d := by
  rw [standing, history_did, Standing.past_snoc, standing]

/-- The site once shutdown was asked for. -/
def asked (s : Site) : Site := { s.did .stopped with stopping := true }

end Site

/-! ## What every part of a session leaves alone -/

/-- A computation on the journal that increments a counter nowhere. -/
def Noting.Spares {α : Type} (counter : Counter) (x : Noting α) : Prop :=
  ∀ j, (Noting.perform x j).2.increments counter = j.increments counter

theorem Noting.spares_note (counter : Counter) (level : Level) (text : String) :
    Spares counter (note level text) := by
  intro j
  exact (j.increments_add (.line level text) counter).trans (List.append_nil _)

theorem Noting.spares_count {counter c : Counter} (h : c ≠ counter) (n : Nat) :
    Spares counter (count c n) := by
  intro j
  refine (j.increments_add (.count c n) counter).trans ?_
  simp only [if_neg h, List.append_nil]

/-- Whether a deed begins a snapshot. -/
def Deed.isBeginning : Deed → Bool
  | .began => true
  | _ => false

/-- The site `t` comes after `s`: no session was replaced and no snapshot begun in between, and a
shutdown that was asked for still is. -/
structure Site.Leads (s t : Site) : Prop where
  stopping : s.stopping = true → t.stopping = true
  reconnects : t.journal.increments .reconnects = s.journal.increments .reconnects
  history : ∃ later, t.history = s.history ++ later ∧ ∀ d ∈ later, d.isBeginning = false

namespace Site.Leads

variable {s t u : Site}

theorem refl (s : Site) : s.Leads s := ⟨id, rfl, [], (List.append_nil _).symm, nofun⟩

theorem trans (hst : s.Leads t) (htu : t.Leads u) : s.Leads u := by
  obtain ⟨first, hfirst, hnone⟩ := hst.history
  obtain ⟨second, hsecond, hnone'⟩ := htu.history
  refine ⟨htu.stopping ∘ hst.stopping, htu.reconnects.trans hst.reconnects, first ++ second, ?_,
    fun d hd => ?_⟩
  · rw [hsecond, hfirst, List.append_assoc]
  · exact (List.mem_append.1 hd).elim (hnone d) (hnone' d)

theorem did (s : Site) {d : Deed} (hd : d.isBeginning = false) : s.Leads (s.did d) :=
  ⟨id, rfl, [d], s.history_did d, fun e he => by rw [List.mem_singleton.1 he]; exact hd⟩

/-- A site that differs in its clock, phase, shelf or workers, and in the journal's other
entries. -/
theorem of_eq (hdeeds : t.deeds = s.deeds)
    (hstopping : s.stopping = true → t.stopping = true)
    (hreconnects : t.journal.increments .reconnects = s.journal.increments .reconnects) :
    s.Leads t :=
  ⟨hstopping, hreconnects, [], by rw [Site.history, hdeeds, List.append_nil]; rfl, nofun⟩

end Site.Leads

/-! ## Heeding the standing -/

namespace Run

variable {α β : Type} {excuse : Standing → Invocation → Prop} {q : Standing}

/-- From this standing a computation does only what is allowed, and this holds of its outcome and
of where it leaves the run.  The first part is about computations given up as unfinished too. -/
def Heeds (excuse : Standing → Invocation → Prop) (q : Standing) (x : Run α)
    (Q : Except Fault α → Standing → Prop) : Prop :=
  ∀ w s, s.standing = q →
    s.Leads (x.perform w s).2 ∧
      (Standing.Lawful excuse s.history → Standing.Lawful excuse (x.perform w s).2.history) ∧
      Ensures w s x fun r t => Q r t.standing

/-- A computation that never faults and leaves the run where it stands. -/
def Steady (excuse : Standing → Invocation → Prop) (q : Standing) (x : Run α) : Prop :=
  Heeds excuse q x fun r q' => r.isOk = true ∧ q' = q

/-- A computation that does nothing but note, look and change the shelf. -/
theorem heeds_of_eq {x : Run α} {Q : Except Fault α → Standing → Prop}
    (h : ∀ w s, s.standing = q → s.Leads (x.perform w s).2 ∧
      (x.perform w s).2.deeds = s.deeds ∧ Ensures w s x fun r _ => Q r q) : Heeds excuse q x Q := by
  intro w s hs
  obtain ⟨hleads, hdeeds, hensures⟩ := h w s hs
  have hhistory : (x.perform w s).2.history = s.history := congrArg List.reverse hdeeds
  refine ⟨hleads, fun hlawful => hhistory ▸ hlawful, ?_⟩
  have hstanding : (x.perform w s).2.standing = q := by rw [Site.standing, hhistory]; exact hs
  unfold Ensures at hensures ⊢
  rcases hrun : x.perform w s with ⟨(f | _) | a, t⟩ <;> rw [hrun] at hensures hstanding
  · show Q (.error f) t.standing
    rw [show t.standing = q from hstanding]
    exact hensures
  · trivial
  · show Q (.ok a) t.standing
    rw [show t.standing = q from hstanding]
    exact hensures

theorem Heeds.mono {x : Run α} {P Q : Except Fault α → Standing → Prop} (hx : Heeds excuse q x P)
    (h : ∀ r q', P r q' → Q r q') : Heeds excuse q x Q := by
  intro w s hs
  obtain ⟨hleads, hlawful, hensures⟩ := hx w s hs
  exact ⟨hleads, hlawful, hensures.mono fun r t => h r t.standing⟩

/-- **One computation after the other**: where the first one faults, that is all. -/
theorem Heeds.bind {x : Run α} {f : α → Run β} {P : Except Fault α → Standing → Prop}
    {Q : Except Fault β → Standing → Prop} (hx : Heeds excuse q x P)
    (hfault : ∀ g q', P (.error g) q' → Q (.error g) q')
    (hf : ∀ a q', P (.ok a) q' → Heeds excuse q' (f a) Q) : Heeds excuse q (x >>= f) Q := by
  intro w s hs
  obtain ⟨hleads, hlawful, hensures⟩ := hx w s hs
  have hafter := ensures_bind hensures (fun g t => hfault g t.standing)
    (fun a t ht => (hf a t.standing ht w t rfl).2.2)
  rw [perform_bind]
  rcases hrun : x.perform w s with ⟨h | a, t⟩ <;> rw [hrun] at hleads hlawful
  · exact ⟨hleads, hlawful, hafter⟩
  · obtain ⟨hleads', hlawful', -⟩ := hf a t.standing (hensures.of_ok hrun) w t rfl
    exact ⟨hleads.trans hleads', hlawful' ∘ hlawful, hafter⟩

/-- One computation after the other where the fault of the first one is caught. -/
theorem Heeds.attemptBind {x : Run α} {f : Except Fault α → Run β}
    {P : Except Fault α → Standing → Prop} {Q : Except Fault β → Standing → Prop}
    (hx : Heeds excuse q x P) (hf : ∀ r q', P r q' → Heeds excuse q' (f r) Q) :
    Heeds excuse q (attempt x >>= f) Q := by
  refine Heeds.bind (P := fun r q' => ∃ outcome, r = .ok outcome ∧ P outcome q') ?_ ?_ ?_
  · intro w s hs
    obtain ⟨hleads, hlawful, hensures⟩ := hx w s hs
    have hcaught := (ensures_attempt hensures).mono
      (Q := fun r t => ∃ outcome, r = .ok outcome ∧ P outcome t.standing) (by
        intro r t h
        cases r with
        | ok outcome => exact ⟨outcome, rfl, h⟩
        | error g => exact h.elim)
    rw [perform_attempt] at *
    rcases hrun : x.perform w s with ⟨(f | _) | a, t⟩ <;> rw [hrun] at hleads hlawful <;>
      exact ⟨hleads, hlawful, hcaught⟩
  · rintro g q' ⟨outcome, hr, -⟩
    exact nomatch hr
  · rintro r q' ⟨outcome, hr, h⟩
    obtain rfl := Except.ok.inj hr
    exact hf r q' h

/-- What comes after a computation leads on from where that left the run. -/
theorem Heeds.leads {x : Run α} {f : α → Run β} {P : Except Fault α → Standing → Prop}
    (hx : Heeds excuse q x P) (hf : ∀ a q', P (.ok a) q' → ∃ Q, Heeds excuse q' (f a) Q)
    {w : World} {s : Site} (hs : s.standing = q) :
    (x.perform w s).2.Leads ((x >>= f).perform w s).2 := by
  obtain ⟨-, -, hensures⟩ := hx w s hs
  rw [perform_bind]
  rcases hrun : x.perform w s with ⟨h | a, t⟩
  · exact .refl t
  · obtain ⟨Q, hheeds⟩ := hf a t.standing (hensures.of_ok hrun)
    exact (hheeds w t rfl).1

/-- What comes after a computation whose fault is caught leads on from there too. -/
theorem Heeds.attempt_leads {x : Run α} {f : Except Fault α → Run β}
    {P : Except Fault α → Standing → Prop} {Q : Except Fault β → Standing → Prop}
    (hx : Heeds excuse q x P) (hf : ∀ r q', P r q' → Heeds excuse q' (f r) Q) {w : World}
    {s : Site} (hs : s.standing = q) :
    (x.perform w s).2.Leads ((attempt x >>= f).perform w s).2 := by
  obtain ⟨-, -, hensures⟩ := hx w s hs
  unfold Ensures at hensures
  rw [perform_bind, perform_attempt]
  rcases hrun : x.perform w s with ⟨(g | _) | a, t⟩ <;> rw [hrun] at hensures
  · exact (hf _ t.standing hensures w t rfl).1
  · exact .refl t
  · exact (hf _ t.standing hensures w t rfl).1

/-- A steady computation may stand before any other. -/
theorem Steady.bind {x : Run α} {f : α → Run β} {Q : Except Fault β → Standing → Prop}
    (hx : Steady excuse q x) (hf : ∀ a, Heeds excuse q (f a) Q) : Heeds excuse q (x >>= f) Q := by
  refine Heeds.bind hx ?_ ?_
  · rintro g q' ⟨hok, -⟩
    exact nomatch hok
  · rintro a q' ⟨-, rfl⟩
    exact hf a

section

variable {Q : Except Fault α → Standing → Prop}

theorem heeds_pure {a : α} (h : Q (.ok a) q) : Heeds excuse q (pure a) Q :=
  heeds_of_eq fun _ s _ => ⟨.refl s, rfl, h⟩

theorem heeds_fail {f : Fault} (h : Q (.error f) q) : Heeds excuse q (fail f) Q :=
  heeds_of_eq fun _ s _ => ⟨.refl s, rfl, h⟩

theorem heeds_giveUp : Heeds excuse q giveUp Q :=
  heeds_of_eq fun _ s _ => ⟨.refl s, rfl, trivial⟩

theorem heeds_ofExcept {r : Except Fault α} (h : Q r q) : Heeds excuse q (ofExcept r) Q := by
  cases r with
  | ok a => exact heeds_pure h
  | error f => exact heeds_fail h

end

theorem steady_noting {x : Noting α} (h : Noting.Spares .reconnects x) :
    Steady excuse q (noting x) :=
  heeds_of_eq fun _ s _ => ⟨.of_eq rfl id (h s.journal), rfl, rfl, rfl⟩

theorem steady_note (level : Level) (text : String) : Steady excuse q (note level text) :=
  steady_noting (Noting.spares_note _ _ _)

theorem steady_count {c : Counter} (h : c ≠ .reconnects) (n : Nat) :
    Steady excuse q (count c n) := steady_noting (Noting.spares_count h n)

theorem steady_read : Steady excuse q read :=
  heeds_of_eq fun _ s _ => ⟨.refl s, rfl, rfl, rfl⟩

theorem steady_get : Steady excuse q get :=
  heeds_of_eq fun _ s _ => ⟨.refl s, rfl, rfl, rfl⟩

theorem steady_enter (phase : Phase) : Steady excuse q (enter phase) :=
  heeds_of_eq fun _ _ _ => ⟨.of_eq rfl id rfl, rfl, rfl, rfl⟩

theorem steady_receive (x : Snapshot) : Steady excuse q (receive x) :=
  heeds_of_eq fun _ _ _ => ⟨.of_eq rfl id rfl, rfl, rfl, rfl⟩

theorem steady_clear (x : Snapshot) : Steady excuse q (clear x) :=
  heeds_of_eq fun _ _ _ => ⟨.of_eq rfl id rfl, rfl, rfl, rfl⟩

theorem steady_discard (x : Snapshot) : Steady excuse q (discard x) := by
  refine heeds_of_eq fun w s _ => ⟨.of_eq rfl id ?_, rfl, rfl, rfl⟩
  show (Noting.perform (s.shelf.discard x) s.journal).2.increments .reconnects = _
  unfold Shelf.discard
  split
  · rfl
  · exact Noting.spares_note .reconnects .warn _ s.journal

/-- A deed that is allowed moves the standing. -/
theorem heeds_record {d : Deed} (hd : d.isBeginning = false) (h : q.Allows excuse d) :
    Heeds excuse q (record d) fun r q' => r = .ok () ∧ q' = q.after d := by
  rintro w s rfl
  refine ⟨.did s hd, fun hlawful => ?_, ensures_record d ⟨rfl, s.standing_did d⟩⟩
  rw [perform_record, Site.history_did]
  exact hlawful.snoc h

/-- A deed is done, and its outcome passed on. -/
theorem heeds_act {r : Except Fault α} {d : Deed} {x : Run α} {w : World} {s : Site} {shelf : Shelf}
    (hd : d.isBeginning = false) (h : s.standing.Allows excuse d)
    (hrun : x.perform w s = (ofExcept r).perform w ({ s with shelf := shelf }.did d)) :
    s.Leads (x.perform w s).2 ∧
      (Standing.Lawful excuse s.history → Standing.Lawful excuse (x.perform w s).2.history) ∧
      Ensures w s x fun r' t => r' = r ∧ t.standing = s.standing.after d := by
  obtain ⟨t, ht⟩ : ∃ t : Site, t = { s with shelf := shelf }.did d := ⟨_, rfl⟩
  have hleads : s.Leads t := by
    obtain ⟨hstopping, hreconnects, hhistory⟩ := Site.Leads.did s hd
    exact ht ▸ ⟨hstopping, hreconnects, hhistory⟩
  have hstanding : t.standing = s.standing.after d := ht ▸ s.standing_did d
  have hlawful (hs : Standing.Lawful excuse s.history) : Standing.Lawful excuse t.history := by
    rw [ht, Site.history_did]
    exact hs.snoc h
  unfold Ensures
  rw [hrun, ← ht]
  cases r <;> exact ⟨hleads, hlawful, rfl, hstanding⟩

/-- A call goes to the connection at hand, and over a lost one only with an excuse. -/
theorem heeds_invoke {c : Nat} {call : Invocation}
    (h : ∀ answer, q.Allows excuse (.invoked c call answer)) :
    Heeds excuse q (invoke c call) fun r q' => q' = q.after (.invoked c call r) := by
  rintro w s rfl
  obtain ⟨hleads, hlawful, hensures⟩ := heeds_act (r := w.answer s.deeds c call)
    (x := invoke c call) (w := w) rfl (h (w.answer s.deeds c call)) rfl
  exact ⟨hleads, hlawful, hensures.mono fun r t ht => by rw [ht.2, ht.1]⟩

/-- A step on disk leaves the run where it stands, if there is more to do than to wind up. -/
theorem heeds_onShelf (h : q.misshapen = false) (step : FileStep)
    (act : Shelf → Except Fault α × Shelf) :
    Heeds excuse q (onShelf step act) fun _ q' => q' = q := by
  rintro w s rfl
  obtain ⟨hleads, hlawful, hensures⟩ := heeds_act (r := (w.carry s.deeds step act s.shelf).1)
    (d := .filed step _) (x := onShelf step act) (w := w) rfl h (perform_onShelf step act w s)
  exact ⟨hleads, hlawful, hensures.mono fun r t ht => ht.2⟩

theorem heeds_connect (h : q.misshapen = false) :
    Heeds excuse q connect fun r q' => q' = q.after (.attempted r) := by
  rintro w s rfl
  obtain ⟨hleads, hlawful, hensures⟩ := heeds_act (r := w.connect s.deeds)
    (d := .attempted (w.connect s.deeds)) (x := connect) (w := w) rfl h rfl
  exact ⟨hleads, hlawful, hensures.mono fun r t ht => by rw [ht.2, ht.1]⟩

theorem heeds_close {c : Nat} (h : q.connection = some c) :
    Heeds excuse q (close c) fun r q' => r = .ok () ∧ q' = { q with connection := none } :=
  heeds_record rfl h

theorem perform_note (level : Level) (text : String) (w : World) (s : Site) :
    (note level text).perform w s =
      (.ok (), { s with journal := s.journal.add (.line level text) }) := rfl

theorem perform_invoke (c : Nat) (call : Invocation) (w : World) (s : Site) :
    (invoke c call).perform w s = (ofExcept (w.answer s.deeds c call)).perform w
      (s.did (.invoked c call (w.answer s.deeds c call))) := rfl

/-! ### Looking out for shutdown -/

theorem steady_modify {f : Site → Site} (h : ∀ s, s.Leads (f s) ∧ (f s).deeds = s.deeds) :
    Steady excuse q (modify f) :=
  heeds_of_eq fun _ s _ => ⟨(h s).1, (h s).2, rfl, rfl⟩

/-- A look that finds at most that shutdown was asked for. -/
theorem steady_of_asked {x : Run α} (hq : q.misshapen = false)
    (h : ∀ w s, ∃ a, x.perform w s = (.ok a, s) ∨ x.perform w s = (.ok a, s.asked)) :
    Steady excuse q x := by
  rintro w s rfl
  unfold Ensures
  obtain ⟨a, hquiet | hasked⟩ := h w s
  · rw [hquiet]
    exact ⟨.refl s, id, rfl, rfl⟩
  · rw [hasked]
    have hleads : s.Leads s.asked := by
      obtain ⟨-, hreconnects, hhistory⟩ := Site.Leads.did s (d := .stopped) rfl
      exact ⟨fun _ => rfl, hreconnects, hhistory⟩
    refine ⟨hleads, fun hlawful => ?_, rfl, s.standing_did .stopped⟩
    show Standing.Lawful excuse (s.did .stopped).history
    rw [Site.history_did]
    exact hlawful.snoc hq

/-- Listening finds nothing or that shutdown was asked for. -/
theorem listen_finds (w : World) (s : Site) :
    ∃ a, listen.perform w s = (.ok a, s) ∨ listen.perform w s = (.ok a, s.asked) := by
  refine ⟨w.signal s.deeds, ?_⟩
  unfold listen
  by_cases hsignal : w.signal s.deeds = .quiet
  · simp only [perform_bind, perform_read, perform_get, hsignal, ↓reduceIte, perform_pure]
    exact .inl trivial
  · simp only [perform_bind, perform_read, perform_get, hsignal, ↓reduceIte, perform_modify,
      perform_record, perform_pure]
    exact .inr rfl

/-- And so does a look at the shutdown flag. -/
theorem stopping_finds (w : World) (s : Site) :
    ∃ a, stopping.perform w s = (.ok a, s) ∨ stopping.perform w s = (.ok a, s.asked) := by
  unfold stopping
  by_cases hasks : (!s.stopping && w.asks s.deeds) = true
  · simp only [perform_bind, perform_read, perform_get, hasks, ↓reduceIte, perform_modify,
      perform_record, perform_pure]
    exact ⟨true, .inr rfl⟩
  · simp only [perform_bind, perform_read, perform_get, hasks]
    exact ⟨s.stopping, .inl rfl⟩

theorem steady_listen (hq : q.misshapen = false) : Steady excuse q listen :=
  steady_of_asked hq listen_finds

theorem steady_stopping (hq : q.misshapen = false) : Steady excuse q stopping :=
  steady_of_asked hq stopping_finds

theorem steady_pause (hq : q.misshapen = false) (span : Span) :
    Steady excuse q (pause span) := by
  refine (heeds_record (d := .paused span) rfl hq).bind nofun ?_
  rintro _ q' ⟨-, rfl⟩
  refine Steady.bind (steady_modify ?_) fun _ => ?_
  · exact fun s => ⟨.of_eq rfl id rfl, rfl⟩
  · exact (steady_listen hq).bind fun _ => heeds_pure ⟨rfl, rfl⟩

theorem steady_rest (hq : q.misshapen = false) (span : Span) : Steady excuse q (rest span) := by
  refine (heeds_record (d := .rested span) rfl hq).bind nofun ?_
  rintro _ q' ⟨-, rfl⟩
  exact (steady_listen hq).bind fun _ => heeds_pure ⟨rfl, rfl⟩

end Run
end RecordingHarvest
