import RecordingHarvest.Proofs.Site.Accounts
import RecordingHarvest.Recording.Capture

/-!
# What a snapshot leaves on disk

Taking a snapshot either leaves one more directory under the root, with just the snapshot's file in
it, or leaves the root as it was; and the fault that it ends with is that of the first call or step
on disk that failed, whatever became of the cleaning up behind it.

* `Shelf.listing`: what stands under the root.
* `accounts_create`, `fills_fetchCloned`: making a place for the snapshot, and filling it.
* `take_keeps_or_adds`: a snapshot as a whole.
-/

namespace RecordingHarvest

/-- A directory with just the snapshot's file in it. -/
def Slot.whole (bytes : List UInt8) : Slot := ⟨bytes, true, true, false⟩

namespace Shelf

variable (s : Shelf)

/-- What stands under the root: the path of each directory, the path of the file in it, and what is
left of them. -/
def listing : List (String × String × Slot) :=
  (s.slots.mapIdx fun i slot => (s.dirPath ⟨i⟩, s.filePath ⟨i⟩, slot)).filter (·.2.2.dir)

/-- The snapshot whose directory is made next. -/
def next : Snapshot := ⟨s.slots.length⟩

/-- The shelf with one more directory. -/
def stocked (slot : Slot) : Shelf := { s with slots := s.slots ++ [slot] }

@[simp] theorem slot_stocked (slot : Slot) : (s.stocked slot).slot s.next = slot := by
  simp [Shelf.slot, stocked, next]

@[simp] theorem set_stocked (slot slot' : Slot) :
    (s.stocked slot).set s.next slot' = s.stocked slot' := by
  simp [Shelf.set, stocked, next]

/-- A directory gets its file. -/
theorem makeFile_stocked :
    (s.stocked ⟨[], false, true, false⟩).makeFile s.next = (.ok (), s.stocked (.whole [])) := by
  simp [makeFile, Slot.whole]

@[simp] theorem append_whole (bytes more : List UInt8) :
    (s.stocked (.whole bytes)).append s.next more =
      (.ok (), s.stocked (.whole (bytes ++ more))) := by
  simp [Shelf.append, Slot.whole]

@[simp] theorem receive_whole (bytes more : List UInt8) :
    (s.stocked (.whole bytes)).receive s.next more = s.stocked (.whole more) := by
  simp [Shelf.receive, Slot.whole]

@[simp] theorem read?_whole (bytes : List UInt8) :
    (s.stocked (.whole bytes)).read? s.next = some bytes := by
  simp [Shelf.read?, Slot.whole]

@[simp] theorem listing_stocked (slot : Slot) :
    (s.stocked slot).listing =
      s.listing ++ if slot.dir then [(s.dirPath s.next, s.filePath s.next, slot)] else [] := by
  show ((s.slots ++ [slot]).mapIdx fun i slot => (s.dirPath ⟨i⟩, s.filePath ⟨i⟩, slot)).filter
    (·.2.2.dir) = _
  rw [List.mapIdx_concat, List.filter_append, List.filter_cons, List.filter_nil]
  rfl

/-- A directory that is taken away is not listed any more. -/
theorem listing_clear (slot : Slot) : ((s.stocked slot).clear s.next).listing = s.listing := by
  simp [Shelf.clear]

end Shelf

namespace Capture

open Recorder (called)
open Run (Accounts passed)

variable {α β : Type} {w : World} {start ds : List Deed} {s₀ shelf : Shelf} {c : Nat}
  {met : Option Fault}

/-- The fault that a computation ends with, if it does. -/
def faultOf : Except Halt α → Option Fault
  | .error (.fault f) => some f
  | _ => none

@[simp] theorem faultOf_passed (r : Except Fault α) : faultOf (passed r) = Fault.of? r := by
  cases r <;> rfl

/-- While a snapshot is filled its directory stands, with just its file in it.  Of the calls and
steps on disk that were made, this is the fault of the first that failed. -/
def Filling (s₀ : Shelf) (met : Option Fault) (ds : List Deed) (shelf : Shelf) : Prop :=
  ds.findSome? Deed.fault? = met ∧ ∃ bytes, shelf = s₀.stocked (.whole bytes)

/-- One more deed tells of a fault if none before it does. -/
theorem Filling.did (h : Filling s₀ met ds shelf) (d : Deed) :
    Filling s₀ (met.or d.fault?) (ds ++ [d]) shelf := by
  refine ⟨?_, h.2⟩
  rw [List.findSome?_append, h.1, List.findSome?_singleton]

/-- A part of filling a snapshot: it ends with the first fault that it meets. -/
def Fills (w : World) (start : List Deed) (s₀ : Shelf) (x : Run α) : Prop :=
  Accounts w start (Filling s₀ none) x fun r => Filling s₀ (faultOf r)

theorem Fills.bind {x : Run α} {f : α → Run β} (hx : Fills w start s₀ x)
    (hf : ∀ a, Fills w start s₀ (f a)) : Fills w start s₀ (x >>= f) := by
  refine Accounts.bind hx ?_ hf
  rintro (g | _) ds shelf h <;> exact h

theorem fills_pure (a : α) : Fills w start s₀ (pure a) := Run.accounts_pure fun _ _ h => h

theorem fills_giveUp : Fills w start s₀ (Run.giveUp : Run α) := Run.accounts_giveUp fun _ _ h => h

/-! ## Calls and steps on disk -/

/-- The operations whose answers must be an id. -/
def numbering : List String := ["newRecording", "cloneRecording", "openStream"]

theorem fault?_called_long {operation : String} (h : operation ∈ numbering)
    (arguments : List Remote.Value) (answer : Remote.Answer) :
    (called c operation arguments answer).fault? =
      Fault.of? (answer.bind (Recorder.expectLong operation)) := by
  simp only [numbering, List.mem_cons, List.not_mem_nil, or_false] at h
  rcases h with rfl | rfl | rfl <;> rfl

theorem fault?_called_unit {operation : String} (h : operation ∉ "readStream" :: numbering)
    (arguments : List Remote.Value) (answer : Remote.Answer) :
    (called c operation arguments answer).fault? = Fault.of? answer := by
  simp only [numbering, List.mem_cons, List.not_mem_nil, or_false, not_or] at h
  simp [called, Deed.fault?, Remote.Invocation.fault?, h]

theorem fills_callLong {operation : String} (h : operation ∈ numbering)
    (arguments : List Remote.Value) : Fills w start s₀ (Recorder.callLong c operation arguments) := by
  refine Recorder.accounts_callLong c operation arguments ?_
  intro ds shelf answer hfilling
  rw [faultOf_passed, ← fault?_called_long (c := c) h arguments answer]
  exact hfilling.did _

/-- A call that cleans up does not hide a fault before it. -/
theorem accounts_cleanup {operation : String} (h : operation ∉ "readStream" :: numbering)
    (arguments : List Remote.Value) (met : Option Fault) :
    Accounts w start (Filling s₀ met) (Recorder.callUnit c operation arguments) fun r ds shelf =>
      r ≠ .error .unfinished ∧ Filling s₀ (met.or (faultOf r)) ds shelf := by
  refine Recorder.accounts_callUnit c operation arguments ?_
  intro ds shelf answer hfilling
  have hfault : faultOf (passed (answer.map fun _ => ())) =
      (called c operation arguments answer).fault? := by
    rw [faultOf_passed, fault?_called_unit h]
    cases answer <;> rfl
  rw [hfault]
  exact ⟨Run.passed_ne_unfinished _, hfilling.did _⟩

theorem fills_callUnit {operation : String} (h : operation ∉ "readStream" :: numbering)
    (arguments : List Remote.Value) : Fills w start s₀ (Recorder.callUnit c operation arguments) :=
  (accounts_cleanup h arguments none).mono fun _ _ _ h => h.2

theorem fills_readStream (stream : Int) : Fills w start s₀ (Recorder.readStream c stream) := by
  refine Recorder.accounts_readStream c stream ?_
  intro ds shelf answer hfilling _
  rw [faultOf_passed]
  exact hfilling.did (called c "readStream" [.long stream] answer)

/-- A step on disk that the disk carries out leaves the file in its directory. -/
theorem fills_onShelf (step : FileStep) {act : Shelf → Except Fault α × Shelf}
    (hact : ∀ bytes, ∃ a bytes', act (s₀.stocked (.whole bytes)) =
      (.ok a, s₀.stocked (.whole bytes'))) : Fills w start s₀ (Run.onShelf step act) := by
  refine Run.accounts_onShelf step act ?_
  rintro ds shelf r shelf' ⟨hnone, bytes, rfl⟩ hcarry
  have hfirst : (ds ++ [Deed.filed step (r.map fun _ => ())]).findSome? Deed.fault? =
      Fault.of? r := by
    rw [List.findSome?_append, hnone]
    cases r <;> rfl
  unfold World.carry at hcarry
  split at hcarry
  · obtain ⟨rfl, rfl⟩ := Prod.mk.inj hcarry
    exact ⟨hfirst, bytes, rfl⟩
  · obtain ⟨a, bytes', hdone⟩ := hact bytes
    obtain ⟨rfl, rfl⟩ := Prod.mk.inj (hdone.symm.trans hcarry)
    exact ⟨hfirst, bytes', rfl⟩

/-! ## Filling a snapshot -/

/-- **Cleaning up behind a part of the work**: the first fault of the two counts. -/
theorem Fills.cleaned {x : Run α} (hx : Fills w start s₀ x) {operation : String}
    (h : operation ∉ "readStream" :: numbering) (arguments : List Remote.Value)
    {rest : Except Fault Unit → α → Run β}
    (hrest : ∀ closed a, Accounts w start (Filling s₀ (Fault.of? closed)) (rest closed a) fun r =>
      Filling s₀ (faultOf r)) :
    Fills w start s₀ (Run.attempt x >>= fun done =>
      Run.attempt (Recorder.callUnit c operation arguments) >>= fun closed =>
        Run.ofExcept done >>= rest closed) := by
  refine Accounts.cleanedBind hx (fun _ _ h => h) (fun done => accounts_cleanup h arguments _)
    (fun f closed ds shelf hfilling => hfilling) fun closed a => ?_
  rw [faultOf_passed, faultOf_passed]
  exact hrest closed a

theorem fills_readBlocks (stream : Int) (blockSize : Nat) (fuel total : Nat) :
    Fills w start s₀ (readBlocks c stream blockSize s₀.next fuel total) := by
  induction fuel generalizing total with
  | zero => exact fills_giveUp
  | succ fuel ih =>
      refine (fills_readStream stream).bind ?_
      intro answer
      cases answer with
      | none => exact fills_pure _
      | some block =>
          refine (fills_onShelf _ fun bytes => ⟨(), bytes ++ block, by simp⟩).bind ?_
          intro _
          split
          · exact fills_pure _
          · exact ih _

theorem fills_copyBlocks (stream : Int) (blockSize : Nat) :
    Fills w start s₀ (copyBlocks c stream blockSize s₀.next) := by
  refine (fills_onShelf _ fun bytes => ⟨(), bytes, by simp⟩).bind fun _ => ?_
  refine Run.accounts_read_bind ?_
  refine (fills_readBlocks stream blockSize w.patience 0).bind fun total => ?_
  exact (fills_onShelf _ fun bytes => ⟨(), bytes, rfl⟩).bind fun _ => fills_pure total

theorem fills_receive : Fills w start s₀ (Run.receive s₀.next) := by
  refine Run.accounts_receive s₀.next ?_
  rintro ds shelf more ⟨hnone, bytes, rfl⟩
  exact ⟨hnone, more, s₀.receive_whole bytes more⟩

/-- What is left to do when everything was done and closed: the fault of closing counts. -/
theorem accounts_closed (closed : Except Fault Unit) :
    Accounts w start (Filling s₀ (Fault.of? closed)) (Run.ofExcept closed) fun r =>
      Filling s₀ (faultOf r) := by
  refine Run.accounts_ofExcept fun ds shelf h => ?_
  rw [faultOf_passed]
  exact h

theorem fills_fetch (method : CaptureMethod) (clone : Int) :
    Fills w start s₀ (fetch method c clone s₀.next) := by
  cases method with
  | stream blockSize =>
      refine (fills_callLong (by decide) _).bind fun stream => ?_
      refine (Run.idle_note _ _).bind fun _ => ?_
      refine (fills_copyBlocks stream blockSize).cleaned (by decide) _ fun closed total => ?_
      refine (accounts_closed closed).bind (fun g _ _ h => ?_) fun _ => ?_
      · cases g <;> exact h
      · exact Run.idle_get.bind fun s => (Run.idle_note _ _).accounts fun _ _ _ h => h
  | copy =>
      refine Run.idle_get.bind fun s => (Run.idle_note _ _).bind fun _ => ?_
      exact fills_receive.bind fun _ => fills_callUnit (by decide) _

theorem fills_fetchCloned (method : CaptureMethod) (recording : Int) :
    Fills w start s₀ (fetchCloned method c recording s₀.next) := by
  refine (fills_callLong (by decide) _).bind fun clone => ?_
  exact (fills_fetch method clone).cleaned (by decide) _ fun closed _ => accounts_closed closed

/-! ## A snapshot as a whole -/

/-- What making a place for a snapshot may come to: the place is there, or nothing is.  No call is
made for that. -/
def Made (s₀ : Shelf) : Except Halt Snapshot → List Deed → Shelf → Prop
  | .ok x, ds, shelf => x = s₀.next ∧ ds = [.filed .directory (.ok ()), .filed .file (.ok ())] ∧
    shelf = s₀.stocked (.whole [])
  | .error (.fault f), ds, shelf => (∀ d ∈ ds, ∃ step result, d = .filed step result) ∧
    ds.findSome? Deed.fault? = some f ∧ shelf.listing = s₀.listing
  | .error .unfinished, _, _ => False

theorem accounts_create (s₀ : Shelf) :
    Accounts w start (fun ds shelf => ds = [] ∧ shelf = s₀) create (Made s₀) := by
  have hdirectory : Accounts w start (fun ds shelf => ds = [] ∧ shelf = s₀)
      (Run.onShelf .directory Shelf.makeDirectory) fun r ds shelf => match r with
        | .ok x => x = s₀.next ∧ ds = [.filed .directory (.ok ())] ∧
          shelf = s₀.stocked ⟨[], false, true, false⟩
        | .error h => Made s₀ (.error h) ds shelf := by
    refine Run.accounts_onShelf _ _ ?_
    rintro ds shelf r shelf' ⟨rfl, rfl⟩ hcarry
    unfold World.carry Shelf.makeDirectory at hcarry
    split at hcarry
    · obtain ⟨rfl, rfl⟩ := Prod.mk.inj hcarry
      exact ⟨fun d hd => ⟨_, _, List.mem_singleton.1 hd⟩, rfl, rfl⟩
    · split at hcarry
      · obtain ⟨rfl, rfl⟩ := Prod.mk.inj hcarry
        exact ⟨fun d hd => ⟨_, _, List.mem_singleton.1 hd⟩, rfl, rfl⟩
      · obtain ⟨rfl, rfl⟩ := Prod.mk.inj hcarry
        exact ⟨rfl, rfl, rfl⟩
  refine hdirectory.bind (fun _ _ _ h => h) fun x => ?_
  have hfile : Accounts w start (fun ds shelf => x = s₀.next ∧
      ds = [.filed .directory (.ok ())] ∧ shelf = s₀.stocked ⟨[], false, true, false⟩)
      (Run.onShelf .file (·.makeFile x)) fun r ds shelf => match r with
        | .ok _ => Made s₀ (.ok x) ds shelf
        | .error (.fault f) => x = s₀.next ∧
          ds = [.filed .directory (.ok ()), .filed .file (.error f)] ∧
          shelf = s₀.stocked ⟨[], false, true, false⟩
        | .error .unfinished => False := by
    refine Run.accounts_onShelf _ _ ?_
    rintro ds shelf r shelf' ⟨rfl, rfl, rfl⟩ hcarry
    unfold World.carry at hcarry
    split at hcarry
    · obtain ⟨rfl, rfl⟩ := Prod.mk.inj hcarry
      exact ⟨rfl, rfl, rfl⟩
    · obtain ⟨rfl, rfl⟩ := Prod.mk.inj ((s₀.makeFile_stocked).symm.trans hcarry)
      exact ⟨rfl, rfl, rfl⟩
  refine hfile.attemptBind (fun _ _ h => h.elim) fun r => ?_
  cases r with
  | ok _ => exact Run.accounts_pure fun _ _ h => h
  | error f =>
      have hcleared : Accounts w start (fun ds shelf => x = s₀.next ∧
          ds = [.filed .directory (.ok ()), .filed .file (.error f)] ∧
          shelf = s₀.stocked ⟨[], false, true, false⟩)
          (Run.clear x) fun r ds shelf => r = .ok () ∧ Made s₀ (.error (.fault f)) ds shelf := by
        refine Run.accounts_clear x ?_
        rintro ds shelf ⟨rfl, rfl, rfl⟩
        refine ⟨rfl, fun d hd => ?_, rfl, s₀.listing_clear _⟩
        simp only [List.mem_cons, List.not_mem_nil, or_false] at hd
        rcases hd with rfl | rfl <;> exact ⟨_, _, rfl⟩
      exact hcleared.bind (fun _ _ _ h => nomatch h.1) fun _ => Run.accounts_fail fun _ _ h => h.2

/-- A step on a disk that refuses nothing is what it does to the shelf. -/
theorem accounts_willing (hdisk : ∀ deeds step, w.disk deeds step = none) (step : FileStep)
    {act : Shelf → Except Fault α × Shelf} {r : Except Fault α} (hact : act s₀ = (r, shelf)) :
    Accounts w start (fun _ before => before = s₀) (Run.onShelf step act) fun r' _ after =>
      r' = passed r ∧ after = shelf := by
  refine Run.accounts_onShelf step act ?_
  rintro ds _ r' after rfl hcarry
  rw [World.carry, hdisk] at hcarry
  obtain ⟨rfl, rfl⟩ := Prod.mk.inj (hact.symm.trans hcarry)
  exact ⟨rfl, rfl⟩

/-- On such a disk the shelf makes the place for a snapshot in one go. -/
theorem accounts_create_willing (hdisk : ∀ deeds step, w.disk deeds step = none) (s₀ : Shelf) :
    Accounts w start (fun _ before => before = s₀) create fun r _ after =>
      r = passed s₀.create.1 ∧ after = s₀.create.2 := by
  cases hblocked : s₀.blocked with
  | true =>
      have hmade : s₀.makeDirectory = (.error (.io "cannot make a directory"), s₀) :=
        if_pos hblocked
      rw [Shelf.create, hmade]
      refine (accounts_willing hdisk _ hmade).bind (fun g _ _ h => ?_) fun x =>
        .assume fun h => nomatch h
      exact ⟨congrArg Except.error (Except.error.inj h.1), h.2⟩
  | false =>
      have hmade : s₀.makeDirectory = (.ok s₀.next, s₀.stocked ⟨[], false, true, false⟩) :=
        if_neg (Bool.eq_false_iff.1 hblocked)
      rw [Shelf.create, hmade]
      dsimp only
      rw [s₀.makeFile_stocked]
      refine (accounts_willing hdisk _ hmade).bind (fun g _ _ h => nomatch h.1) fun x =>
        .assume fun h => ?_
      obtain rfl := Except.ok.inj h
      refine (accounts_willing hdisk _ s₀.makeFile_stocked).attemptBind (fun _ _ h => nomatch h.1)
        fun r => .assume fun h => ?_
      obtain rfl : r = .ok () := Run.passed_inj.1 h
      exact Run.accounts_pure fun _ _ h => ⟨rfl, h⟩

/-- **Taking a snapshot**: a place is made for it, it is filled, and it is discarded if a fault ends
that. -/
theorem accounts_take {method : CaptureMethod} {recording : Int}
    {R : Except Halt Unit → List Deed → Shelf → Prop}
    {Q : Except Halt Snapshot → List Deed → Shelf → Prop}
    (hmade : ∀ h ds shelf, Made s₀ (.error h) ds shelf → Q (.error h) ds shelf)
    (hfetched : Accounts w start (Made s₀ (.ok s₀.next)) (fetchCloned method c recording s₀.next) R)
    (hunfinished : ∀ ds shelf, R (.error .unfinished) ds shelf → Q (.error .unfinished) ds shelf)
    (hdone : ∀ ds shelf, R (.ok ()) ds shelf → Q (.ok s₀.next) ds shelf)
    (hfault : ∀ f ds shelf, R (.error (.fault f)) ds shelf →
      Q (.error (.fault f)) ds (if (shelf.slot s₀.next).dir then shelf.clear s₀.next else shelf)) :
    Accounts w start (fun ds shelf => ds = [] ∧ shelf = s₀) (take method c recording) Q := by
  refine (accounts_create s₀).bind hmade fun x => .assume ?_
  rintro rfl
  refine (hfetched.weaken fun _ _ h => ⟨rfl, h⟩).attemptBind hunfinished fun r => ?_
  cases r with
  | ok _ => exact Run.accounts_pure hdone
  | error f =>
      have hdiscarded : Accounts w start (R (passed (.error f))) (Run.discard s₀.next)
          fun r ds shelf => r = .ok () ∧ Q (.error (.fault f)) ds shelf :=
        Run.accounts_discard _ fun ds shelf h => ⟨rfl, hfault f ds shelf h⟩
      exact hdiscarded.bind (fun _ _ _ h => nomatch h.1) fun _ => Run.accounts_fail fun _ _ h => h.2

/-- What taking a snapshot may come to. -/
def Taken (s₀ : Shelf) : Except Halt Snapshot → List Deed → Shelf → Prop
  | .ok x, ds, shelf => ds.findSome? Deed.fault? = none ∧
    ∃ bytes, shelf.listing = s₀.listing ++ [(shelf.dirPath x, shelf.filePath x, .whole bytes)]
  | .error (.fault f), ds, shelf => ds.findSome? Deed.fault? = some f ∧ shelf.listing = s₀.listing
  | .error .unfinished, ds, _ => ds.findSome? Deed.fault? = none

/-- **A snapshot is there as a whole or not at all**, and its fault is the first that was met. -/
theorem take_keeps_or_adds (method : CaptureMethod) (c : Nat) (recording : Int) (w : World)
    (s : Site) :
    ∃ later, ((take method c recording).perform w s).2.history = s.history ++ later ∧
      Taken s.shelf ((take method c recording).perform w s).1 later
        ((take method c recording).perform w s).2.shelf := by
  have hfetched : Accounts w s.history (Made s.shelf (.ok s.shelf.next))
      (fetchCloned method c recording s.shelf.next) fun r => Filling s.shelf (faultOf r) := by
    refine (fills_fetchCloned method recording).weaken ?_
    rintro ds shelf ⟨-, rfl, rfl⟩
    exact ⟨rfl, [], rfl⟩
  have htake : Accounts w s.history (fun ds shelf => ds = [] ∧ shelf = s.shelf)
      (take method c recording) (Taken s.shelf) := by
    refine accounts_take ?_ hfetched (fun _ _ h => h.1) ?_ ?_
    · rintro (f | _) ds shelf h
      · exact h.2
      · exact h.elim
    · rintro ds shelf ⟨hnone, bytes, rfl⟩
      exact ⟨hnone, bytes, s.shelf.listing_stocked _⟩
    · rintro f ds shelf ⟨hfirst, bytes, rfl⟩
      rw [Shelf.slot_stocked]
      exact ⟨hfirst, s.shelf.listing_clear _⟩
  exact htake.from_start ⟨rfl, rfl⟩

end Capture
end RecordingHarvest
