import RecordingHarvest.Proofs.Site.Standing

/-!
# Rules on history and shelf

`Run.Accounts w start P x Q` says that a computation in the world `w`, started where what was done
behind `start` and what stands on the shelf satisfy `P`, ends where they go, by `Q`, with its outcome;
a computation given up as unfinished has an outcome here too.  As the world is at hand, so is what it
answers after the deeds so far.

* `Accounts.bind`, `Accounts.attemptBind`, `Accounts.cleanedBind`: one computation after the other, and
  with a fault caught or held back.
* `Idle.bind`: a computation that does nothing may come before any other.
* One rule for each call of the recorder and each step on disk.
-/

namespace RecordingHarvest

open Remote (Invocation Answer Value)

/-- A site before anything has happened. -/
def Site.blank : Site := .new (.new "snapshots" (fun _ => "dir") fun _ => "file") 1 false

/-! ## Faults of single deeds -/

/-- The fault that an outcome is, if it is one. -/
def Fault.of? {α : Type} : Except Fault α → Option Fault
  | .ok _ => none
  | .error f => some f

/-- The fault that a call comes to, if it does: the answer is one, or has not the shape that it must
have. -/
def Remote.Invocation.fault? (call : Invocation) (answer : Answer) : Option Fault :=
  if ["newRecording", "cloneRecording", "openStream"].contains call.operation then
    Fault.of? (answer.bind (Recorder.expectLong call.operation))
  else if call.operation == "readStream" then
    Fault.of? (answer.bind (Recorder.expectBytes call.operation))
  else Fault.of? answer

/-- The fault that a deed comes to, if it is a call or a step on disk that fails. -/
def Deed.fault? : Deed → Option Fault
  | .invoked _ call answer => call.fault? answer
  | .filed _ result => Fault.of? result
  | _ => none

namespace Run

variable {α β : Type} {w : World} {start : List Deed} {P : List Deed → Shelf → Prop}
  {Q : Except Halt α → List Deed → Shelf → Prop}

/-- A result that is gone on with, or a fault that ends the run. -/
def passed : Except Fault α → Except Halt α
  | .ok a => .ok a
  | .error f => .error (.fault f)

@[simp] theorem passed_ok (a : α) : passed (.ok a) = .ok a := rfl

@[simp] theorem passed_error (f : Fault) : passed (.error f : Except Fault α) = .error (.fault f) :=
  rfl

@[simp] theorem passed_inj {r q : Except Fault α} : passed r = passed q ↔ r = q := by
  cases r <;> cases q <;> simp

theorem passed_ne_unfinished (r : Except Fault α) : passed r ≠ .error .unfinished := by
  cases r <;> simp

/-- If the deeds behind `start` and the shelf satisfy `P` before, then together with the outcome they
satisfy `Q` afterwards. -/
def Accounts (w : World) (start : List Deed) (P : List Deed → Shelf → Prop) (x : Run α)
    (Q : Except Halt α → List Deed → Shelf → Prop) : Prop :=
  ∀ s since, s.history = start ++ since → P since s.shelf →
    ∃ since', (x.perform w s).2.history = start ++ since' ∧
      Q (x.perform w s).1 since' (x.perform w s).2.shelf

/-- A computation that ends well and touches neither history nor shelf. -/
def Idle (x : Run α) : Prop :=
  ∀ w s, (x.perform w s).1.isOk = true ∧ (x.perform w s).2.history = s.history ∧
    (x.perform w s).2.shelf = s.shelf

/-- From a site where nothing has been done yet. -/
theorem Accounts.from_start {x : Run α} {s : Site} (hx : Accounts w s.history P x Q)
    (hP : P [] s.shelf) :
    ∃ later, (x.perform w s).2.history = s.history ++ later ∧
      Q (x.perform w s).1 later (x.perform w s).2.shelf :=
  hx s [] (List.append_nil _).symm hP

/-! ## One computation after the other -/

theorem Accounts.mono {x : Run α} {R : Except Halt α → List Deed → Shelf → Prop}
    (hx : Accounts w start P x R) (h : ∀ r ds shelf, R r ds shelf → Q r ds shelf) :
    Accounts w start P x Q := by
  intro s since hs hP
  obtain ⟨since', hs', hR⟩ := hx s since hs hP
  exact ⟨since', hs', h _ _ _ hR⟩

theorem Accounts.weaken {x : Run α} {R : List Deed → Shelf → Prop} (hx : Accounts w start P x Q)
    (h : ∀ ds shelf, R ds shelf → P ds shelf) : Accounts w start R x Q :=
  fun s since hs hR => hx s since hs (h _ _ hR)

/-- What holds whatever was done may be assumed. -/
theorem Accounts.assume {fact : Prop} {x : Run α} (hx : fact → Accounts w start P x Q) :
    Accounts w start (fun ds shelf => fact ∧ P ds shelf) x Q :=
  fun s since hs ⟨hfact, hP⟩ => hx hfact s since hs hP

theorem Accounts.exists {ι : Type} {x : Run α} {R : ι → List Deed → Shelf → Prop}
    (hx : ∀ i, Accounts w start (R i) x Q) :
    Accounts w start (fun ds shelf => ∃ i, R i ds shelf) x Q :=
  fun s since hs ⟨i, hR⟩ => hx i s since hs hR

theorem Accounts.bind {x : Run α} {f : α → Run β} {R : Except Halt α → List Deed → Shelf → Prop}
    {Q : Except Halt β → List Deed → Shelf → Prop} (hx : Accounts w start P x R)
    (hhalt : ∀ h ds shelf, R (.error h) ds shelf → Q (.error h) ds shelf)
    (hf : ∀ a, Accounts w start (R (.ok a)) (f a) Q) : Accounts w start P (x >>= f) Q := by
  intro s since hs hP
  obtain ⟨since', hs', hR⟩ := hx s since hs hP
  rw [perform_bind]
  rcases hrun : x.perform w s with ⟨h | a, t⟩ <;> rw [hrun] at hs' hR
  · exact ⟨since', hs', hhalt h _ _ hR⟩
  · exact hf a t since' hs' hR

/-- One computation after the other where the fault of the first one is caught. -/
theorem Accounts.attemptBind {x : Run α} {f : Except Fault α → Run β}
    {R : Except Halt α → List Deed → Shelf → Prop} {Q : Except Halt β → List Deed → Shelf → Prop}
    (hx : Accounts w start P x R)
    (hunfinished : ∀ ds shelf, R (.error .unfinished) ds shelf → Q (.error .unfinished) ds shelf)
    (hf : ∀ r, Accounts w start (R (passed r)) (f r) Q) :
    Accounts w start P (attempt x >>= f) Q := by
  intro s since hs hP
  obtain ⟨since', hs', hR⟩ := hx s since hs hP
  rw [perform_bind, perform_attempt]
  rcases hrun : x.perform w s with ⟨(g | _) | a, t⟩ <;> rw [hrun] at hs' hR
  · exact hf (.error g) t since' hs' hR
  · exact ⟨since', hs', hunfinished _ _ hR⟩
  · exact hf (.ok a) t since' hs' hR

/-- One computation after the other where the first one's fault waits until what it leaves is
cleaned up. -/
theorem Accounts.cleanedBind {γ : Type} {x : Run α} {y : Run γ} {rest : Except Fault γ → α → Run β}
    {R : Except Halt α → List Deed → Shelf → Prop}
    {S : Except Fault α → Except Halt γ → List Deed → Shelf → Prop}
    {Q : Except Halt β → List Deed → Shelf → Prop} (hx : Accounts w start P x R)
    (hunfinished : ∀ ds shelf, R (.error .unfinished) ds shelf → Q (.error .unfinished) ds shelf)
    (hy : ∀ done, Accounts w start (R (passed done)) y fun r ds shelf =>
      r ≠ .error .unfinished ∧ S done r ds shelf)
    (hfault : ∀ f closed ds shelf, S (.error f) (passed closed) ds shelf →
      Q (.error (.fault f)) ds shelf)
    (hrest : ∀ closed a, Accounts w start (S (.ok a) (passed closed)) (rest closed a) Q) :
    Accounts w start P (attempt x >>= fun done => attempt y >>= fun closed =>
      ofExcept done >>= rest closed) Q := by
  refine hx.attemptBind hunfinished fun done => ?_
  refine (hy done).attemptBind (fun _ _ h => absurd rfl h.1) fun closed => ?_
  cases done with
  | error f => exact fun _ since hs h => ⟨since, hs, hfault f closed since _ h.2⟩
  | ok a => exact (hrest closed a).weaken fun _ _ h => h.2

theorem Idle.accounts {x : Run α} (hx : Idle x)
    (h : ∀ a ds shelf, P ds shelf → Q (.ok a) ds shelf) : Accounts w start P x Q := by
  intro s since hs hP
  obtain ⟨hok, hhistory, hshelf⟩ := hx w s
  rw [hhistory, hshelf]
  refine ⟨since, hs, ?_⟩
  cases hresult : (x.perform w s).1 with
  | error _ =>
      rw [hresult] at hok
      exact nomatch hok
  | ok a => exact h a since s.shelf hP

theorem Idle.bind {x : Run α} {f : α → Run β} {Q : Except Halt β → List Deed → Shelf → Prop}
    (hx : Idle x) (hf : ∀ a, Accounts w start P (f a) Q) : Accounts w start P (x >>= f) Q := by
  have hidle : Accounts w start P x fun r ds shelf => r.isOk = true ∧ P ds shelf :=
    hx.accounts fun _ _ _ hP => ⟨rfl, hP⟩
  exact hidle.bind (fun _ _ _ h => nomatch h.1) fun a => (hf a).weaken fun _ _ h => h.2

theorem idle_note (level : Level) (text : String) : Idle (note level text) :=
  fun _ _ => ⟨rfl, rfl, rfl⟩

theorem idle_get : Idle get := fun _ _ => ⟨rfl, rfl, rfl⟩

theorem accounts_read_bind {f : World → Run α} (hf : Accounts w start P (f w) Q) :
    Accounts w start P (read >>= f) Q := hf

theorem accounts_pure {a : α} (h : ∀ ds shelf, P ds shelf → Q (.ok a) ds shelf) :
    Accounts w start P (pure a) Q := fun _ since hs hP => ⟨since, hs, h _ _ hP⟩

theorem accounts_fail {f : Fault} (h : ∀ ds shelf, P ds shelf → Q (.error (.fault f)) ds shelf) :
    Accounts w start P (fail f) Q := fun _ since hs hP => ⟨since, hs, h _ _ hP⟩

theorem accounts_giveUp (h : ∀ ds shelf, P ds shelf → Q (.error .unfinished) ds shelf) :
    Accounts w start P giveUp Q := fun _ since hs hP => ⟨since, hs, h _ _ hP⟩

theorem accounts_ofExcept {r : Except Fault α}
    (h : ∀ ds shelf, P ds shelf → Q (passed r) ds shelf) :
    Accounts w start P (ofExcept r) Q := by
  cases r with
  | ok a => exact accounts_pure h
  | error f => exact accounts_fail h

/-! ## What a run does -/

/-- One more deed, added to what was done. -/
theorem history_did_since {s : Site} {start since : List Deed} (hs : s.history = start ++ since)
    (d : Deed) : (s.did d).history = start ++ (since ++ [d]) := by
  rw [Site.history_did, hs, List.append_assoc]

/-- A deed is done, the shelf is left so, and an outcome is passed on. -/
theorem accounts_act {x : Run α}
    (h : ∀ s since, s.history = start ++ since → P since s.shelf → ∃ d shelf r,
      x.perform w s = (ofExcept r).perform w ({ s with shelf := shelf }.did d) ∧
        Q (passed r) (since ++ [d]) shelf) :
    Accounts w start P x Q := by
  intro s since hs hP
  obtain ⟨d, shelf, r, hrun, hQ⟩ := h s since hs hP
  have hhistory : ({ s with shelf := shelf }.did d).history = start ++ (since ++ [d]) :=
    history_did_since (s := { s with shelf := shelf }) hs d
  rw [hrun]
  cases r with
  | ok a => exact ⟨since ++ [d], hhistory, hQ⟩
  | error f => exact ⟨since ++ [d], hhistory, hQ⟩

theorem deeds_of_history {s : Site} {ds : List Deed} (h : s.history = ds) :
    s.deeds = ds.reverse := by
  rw [← h, Site.history, List.reverse_reverse]

/-- A call is noted with its answer, which is passed on. -/
theorem accounts_invoke (c : Nat) (call : Invocation)
    {Q : Except Halt (Option Value) → List Deed → Shelf → Prop}
    (h : ∀ ds shelf answer, P ds shelf → w.answer (start ++ ds).reverse c call = answer →
      Q (passed answer) (ds ++ [.invoked c call answer]) shelf) :
    Accounts w start P (invoke c call) Q := by
  refine accounts_act fun s since hs hP => ?_
  refine ⟨_, s.shelf, w.answer s.deeds c call, perform_invoke c call w s, h _ _ _ hP ?_⟩
  rw [deeds_of_history hs]

/-- A step on disk is noted with what comes of it, which is passed on. -/
theorem accounts_onShelf (step : FileStep) (act : Shelf → Except Fault α × Shelf)
    (h : ∀ ds shelf r shelf', P ds shelf →
      w.carry (start ++ ds).reverse step act shelf = (r, shelf') →
      Q (passed r) (ds ++ [.filed step (r.map fun _ => ())]) shelf') :
    Accounts w start P (onShelf step act) Q := by
  refine accounts_act fun s since hs hP => ?_
  refine ⟨_, _, _, perform_onShelf step act w s, h _ _ _ _ hP ?_⟩
  rw [deeds_of_history hs]

theorem accounts_receive (x : Snapshot) {Q : Except Halt Unit → List Deed → Shelf → Prop}
    (h : ∀ ds shelf bytes, P ds shelf → Q (.ok ()) ds (shelf.receive x bytes)) :
    Accounts w start P (receive x) Q := fun _ since hs hP => ⟨since, hs, h _ _ _ hP⟩

theorem accounts_clear (x : Snapshot) {Q : Except Halt Unit → List Deed → Shelf → Prop}
    (h : ∀ ds shelf, P ds shelf → Q (.ok ()) ds (shelf.clear x)) :
    Accounts w start P (clear x) Q := fun _ since hs hP => ⟨since, hs, h _ _ hP⟩

/-- A directory is taken away if it is there. -/
theorem accounts_discard (x : Snapshot) {Q : Except Halt Unit → List Deed → Shelf → Prop}
    (h : ∀ ds shelf, P ds shelf →
      Q (.ok ()) ds (if (shelf.slot x).dir then shelf.clear x else shelf)) :
    Accounts w start P (discard x) Q := by
  intro s since hs hP
  have hrun : (discard x).perform w s = (.ok (), { s with
      journal := (Noting.perform (s.shelf.discard x) s.journal).2
      shelf := (Noting.perform (s.shelf.discard x) s.journal).1 }) := rfl
  have hshelf : (Noting.perform (s.shelf.discard x) s.journal).1 =
      if (s.shelf.slot x).dir then s.shelf.clear x else s.shelf := by
    unfold Shelf.discard
    split <;> rfl
  rw [hrun]
  exact ⟨since, hs, hshelf ▸ h _ _ hP⟩

end Run

/-! ## The recorder's operations -/

namespace Recorder

open Run (Accounts passed)

variable {w : World} {start : List Deed} {P : List Deed → Shelf → Prop}

/-- A call of one of the recorder's operations, with the answer to it. -/
def called (c : Nat) (operation : String) (arguments : List Value) (answer : Answer) : Deed :=
  .invoked c ⟨object, operation, arguments⟩ answer

theorem accounts_call (c : Nat) (operation : String) (arguments : List Value)
    {Q : Except Halt (Option Value) → List Deed → Shelf → Prop}
    (h : ∀ ds shelf answer, P ds shelf →
      w.answer (start ++ ds).reverse c ⟨object, operation, arguments⟩ = answer →
      Q (passed answer) (ds ++ [called c operation arguments answer]) shelf) :
    Accounts w start P (call c operation arguments) Q :=
  (Run.idle_note _ _).bind fun _ => Run.accounts_invoke c _ h

section

variable {β : Type} {Q : Except Halt β → List Deed → Shelf → Prop}

/-- What is expected of the answer to a call decides what becomes of the call. -/
theorem accounts_expect (expect : Option Value → Except Fault β) (c : Nat) (operation : String)
    (arguments : List Value)
    (h : ∀ ds shelf answer, P ds shelf →
      w.answer (start ++ ds).reverse c ⟨object, operation, arguments⟩ = answer →
      Q (passed (answer.bind expect)) (ds ++ [called c operation arguments answer]) shelf) :
    Accounts w start P (call c operation arguments >>= fun v => Run.ofExcept (expect v)) Q := by
  have hcall : Accounts w start P (call c operation arguments) fun r ds shelf =>
      ∃ answer, r = passed answer ∧ Q (passed (answer.bind expect)) ds shelf :=
    accounts_call c operation arguments fun ds shelf answer hP hanswer =>
      ⟨answer, rfl, h ds shelf answer hP hanswer⟩
  refine hcall.bind ?_ ?_
  · rintro g ds shelf ⟨f | v, hg, hQ⟩
    · obtain rfl : g = .fault f := Except.error.inj hg
      exact hQ
    · exact nomatch hg
  · intro v
    refine Run.accounts_ofExcept ?_
    rintro ds shelf ⟨f | u, hv, hQ⟩
    · exact nomatch hv
    · obtain rfl := Except.ok.inj hv
      exact hQ

end

theorem accounts_callLong (c : Nat) (operation : String) (arguments : List Value)
    {Q : Except Halt Int → List Deed → Shelf → Prop}
    (h : ∀ ds shelf answer, P ds shelf →
      Q (passed (answer.bind (expectLong operation)))
        (ds ++ [called c operation arguments answer]) shelf) :
    Accounts w start P (callLong c operation arguments) Q :=
  accounts_expect (expectLong operation) c operation arguments fun ds shelf answer hP _ =>
    h ds shelf answer hP

theorem accounts_callUnit (c : Nat) (operation : String) (arguments : List Value)
    {Q : Except Halt Unit → List Deed → Shelf → Prop}
    (h : ∀ ds shelf answer, P ds shelf →
      Q (passed (answer.map fun _ => ())) (ds ++ [called c operation arguments answer]) shelf) :
    Accounts w start P (callUnit c operation arguments) Q := by
  refine accounts_expect (fun _ => .ok ()) c operation arguments fun ds shelf answer hP _ => ?_
  have hmap : answer.bind (fun _ => .ok ()) = answer.map fun _ => () := by cases answer <;> rfl
  rw [hmap]
  exact h ds shelf answer hP

theorem accounts_readStream (c : Nat) (stream : Int)
    {Q : Except Halt (Option (List UInt8)) → List Deed → Shelf → Prop}
    (h : ∀ ds shelf answer, P ds shelf →
      w.answer (start ++ ds).reverse c ⟨object, "readStream", [.long stream]⟩ = answer →
      Q (passed (answer.bind (expectBytes "readStream")))
        (ds ++ [called c "readStream" [.long stream] answer]) shelf) :
    Accounts w start P (readStream c stream) Q :=
  accounts_expect (expectBytes "readStream") c "readStream" [.long stream] h

end Recorder
end RecordingHarvest
