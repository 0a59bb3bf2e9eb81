import RecordingHarvest.Proofs.Delivery.Abreast

/-!
# Snapshots that cannot be processed

A snapshot that cannot be read, be it opened or decoded, changes nothing but its own place on the
shelf and some lines of the log.  So calls for such snapshots can be put into a run, or left out,
and the run goes on alike (`Bench.Agrees`).

* `Shelf.Alike`: two shelves that differ only in snapshots neither of which can be read.
* `Bench.agrees_act`: what happens at two benches that agree leaves them so.
* `Bench.failed_noop`: a run with and the same run without such calls agree at every point.
-/

namespace RecordingHarvest

variable {σ : Type}

/-! ## What is left of a snapshot -/

/-- What deleting a snapshot leaves of it. -/
def Slot.removed (slot : Slot) (refused : Option RemovalStep := none) : Slot :=
  if !slot.file || refused == some .file then slot
  else if slot.extra || !slot.dir || refused == some .directory then { slot with file := false }
  else { slot with file := false, dir := false }

/-- The file goes, unless the disk refuses that. -/
theorem Slot.file_removed (slot : Slot) (refused : Option RemovalStep)
    (h : refused ≠ some .file) : (slot.removed refused).file = false := by
  unfold removed
  cases hfile : slot.file with
  | false => exact hfile
  | true =>
      simp only [Bool.not_true, beq_eq_false_iff_ne.2 h, Bool.or_self, Bool.false_eq_true,
        ↓reduceIte]
      split <;> rfl

namespace Shelf

variable {s s' : Shelf} {x y : Snapshot}

/-- A shelf but for its slots. -/
def emptied (s : Shelf) : Shelf := { s with slots := [] }

theorem slot_set_of_ne (s : Shelf) (slot : Slot) (h : y ≠ x) :
    (s.set x slot).slot y = s.slot y := by
  have hne : x.number ≠ y.number := fun heq => h (by cases x; cases y; exact congrArg _ heq.symm)
  simp only [Shelf.slot, Shelf.set, List.getElem?_set_ne hne]

theorem slot_set_self (s : Shelf) {slot : Slot} (h : x.number < s.slots.length) :
    (s.set x slot).slot x = slot := by
  simp only [Shelf.slot, Shelf.set, List.getElem?_set_self h, Option.getD_some]

/-- A file is on the shelf only in a slot that was made. -/
theorem lt_of_file (h : (s.slot x).file = true) : x.number < s.slots.length := by
  refine Nat.lt_of_not_le fun hle => ?_
  rw [Shelf.slot, List.getElem?_eq_none hle] at h
  exact nomatch h

theorem slot_remove_of_ne (s : Shelf) (refused : Option RemovalStep) (h : y ≠ x) :
    (s.remove x refused).2.slot y = s.slot y := by
  unfold remove
  dsimp only
  split
  · rfl
  · split
    · exact slot_set_of_ne _ _ h
    · exact (slot_set_of_ne _ _ h).trans (slot_set_of_ne _ _ h)

theorem slot_remove_self (s : Shelf) (x : Snapshot) (refused : Option RemovalStep) :
    (s.remove x refused).2.slot x = (s.slot x).removed refused := by
  unfold remove Slot.removed
  dsimp only
  split
  · rfl
  · next hgone =>
      have hlt : x.number < s.slots.length := by
        refine lt_of_file ?_
        simpa using (Bool.or_eq_false_iff.1 (Bool.eq_false_iff.2 hgone)).1
      split
      · exact slot_set_self s hlt
      · exact slot_set_self _ (by rw [Shelf.set, List.length_set]; exact hlt)

theorem length_remove (s : Shelf) (x : Snapshot) (refused : Option RemovalStep) :
    (s.remove x refused).2.slots.length = s.slots.length := by
  unfold remove
  dsimp only
  split
  · rfl
  · split
    · exact List.length_set
    · exact List.length_set.trans List.length_set

theorem emptied_remove (s : Shelf) (x : Snapshot) (refused : Option RemovalStep) :
    (s.remove x refused).2.emptied = s.emptied := by
  unfold remove
  dsimp only
  split
  · rfl
  · split <;> rfl

/-- A snapshot that is laid on the shelf leaves the others alone. -/
theorem slot_stock_of_lt (slot : Slot) (h : y.number < s.slots.length) :
    ({ s with slots := s.slots ++ [slot] } : Shelf).slot y = s.slot y := by
  simp only [Shelf.slot, List.getElem?_append_left h]

/-- Reading the snapshot, be it opening or decoding it, ends in a fault. -/
def Unreadable (s : Shelf) (x : Snapshot) : Prop :=
  ∃ f, Watermark.readAll (Uploader.itemsOf s x) = .error f

theorem itemsOf_congr (hemptied : s.emptied = s'.emptied) (h : s.slot x = s'.slot x) :
    Uploader.itemsOf s x = Uploader.itemsOf s' x := by
  have hpath : s.filePath x = s'.filePath x := congrArg (fun t => t.filePath x) hemptied
  simp only [Uploader.itemsOf, read?, h, hpath]

theorem unreadable_of_file (h : (s.slot x).file = false) : s.Unreadable x := by
  refine ⟨SnapshotLines.openFault (s.filePath x), ?_⟩
  simp only [Uploader.itemsOf, read?, h, Bool.false_eq_true, ↓reduceIte]
  rfl

theorem unreadable_remove (s : Shelf) (x : Snapshot) : (s.remove x).2.Unreadable x :=
  unreadable_of_file (by rw [slot_remove_self, Slot.file_removed _ none (by decide)])

/-- Whether a snapshot can be read depends on its slot alone. -/
theorem Unreadable.congr (h : s.Unreadable x) (hslot : s'.slot x = s.slot x) : s'.Unreadable x := by
  obtain ⟨f, hf⟩ := h
  cases hfile : (s.slot x).file with
  | false => exact unreadable_of_file (by rw [hslot, hfile])
  | true =>
      refine ⟨f, ?_⟩
      simp only [Uploader.itemsOf, read?, hslot, hfile, ↓reduceIte] at hf ⊢
      exact hf

/-- Two shelves that differ only in these snapshots, of which neither can be read. -/
structure Alike (doomed : Snapshot → Prop) (s s' : Shelf) : Prop where
  emptied : s.emptied = s'.emptied
  length : s.slots.length = s'.slots.length
  slots : ∀ y, s.slot y = s'.slot y ∨ doomed y ∧ s.Unreadable y ∧ s'.Unreadable y

namespace Alike

variable {doomed : Snapshot → Prop}

theorem refl (doomed : Snapshot → Prop) (s : Shelf) : Alike doomed s s :=
  ⟨rfl, rfl, fun _ => .inl rfl⟩

theorem mono {doomed' : Snapshot → Prop} (h : Alike doomed s s')
    (hle : ∀ y, doomed y → doomed' y) : Alike doomed' s s' :=
  ⟨h.emptied, h.length, fun y => (h.slots y).imp_right fun hy => ⟨hle y hy.1, hy.2⟩⟩

theorem filePath (h : Alike doomed s s') (x : Snapshot) : s.filePath x = s'.filePath x :=
  congrArg (fun t => t.filePath x) h.emptied

theorem unreadable (h : Alike doomed s s') (hx : s.Unreadable x) : s'.Unreadable x := by
  rcases h.slots x with hslot | ⟨-, -, hx'⟩
  · exact hx.congr hslot.symm
  · exact hx'

/-- The same snapshot is deleted from both shelves. -/
theorem remove (h : Alike doomed s s') (x : Snapshot) :
    Alike doomed (s.remove x).2 (s'.remove x).2 where
  emptied := by rw [emptied_remove, emptied_remove, h.emptied]
  length := by rw [length_remove, length_remove, h.length]
  slots y := by
    by_cases hyx : y = x
    · subst hyx
      rcases h.slots y with hslot | ⟨hdoomed, -, -⟩
      · exact .inl (by rw [slot_remove_self, slot_remove_self, hslot])
      · exact .inr ⟨hdoomed, unreadable_remove s y, unreadable_remove s' y⟩
    · rcases h.slots y with hslot | ⟨hdoomed, hy, hy'⟩
      · exact .inl (by rw [slot_remove_of_ne s none hyx, slot_remove_of_ne s' none hyx, hslot])
      · exact .inr ⟨hdoomed, hy.congr (slot_remove_of_ne s none hyx),
          hy'.congr (slot_remove_of_ne s' none hyx)⟩

/-- A snapshot that cannot be read is deleted from one shelf. -/
theorem remove_left (h : Alike doomed s s') (hx : s.Unreadable x) :
    Alike (fun y => doomed y ∨ y = x) (s.remove x).2 s' where
  emptied := (emptied_remove s x none).trans h.emptied
  length := (length_remove s x none).trans h.length
  slots y := by
    by_cases hyx : y = x
    · subst hyx
      exact .inr ⟨.inr rfl, unreadable_remove s y, h.unreadable hx⟩
    · rcases h.slots y with hslot | ⟨hdoomed, hy, hy'⟩
      · exact .inl ((slot_remove_of_ne s none hyx).trans hslot)
      · exact .inr ⟨.inl hdoomed, hy.congr (slot_remove_of_ne s none hyx), hy'⟩

/-- The same snapshot is laid on both shelves. -/
theorem stock (h : Alike doomed s s') (slot : Slot) :
    Alike doomed { s with slots := s.slots ++ [slot] } { s' with slots := s'.slots ++ [slot] } where
  emptied := h.emptied
  length := by simp only [List.length_append, h.length]
  slots y := by
    rcases Nat.lt_or_ge y.number s.slots.length with hlt | hge
    · rw [slot_stock_of_lt slot hlt, slot_stock_of_lt slot (h.length ▸ hlt)]
      rcases h.slots y with hslot | ⟨hdoomed, hy, hy'⟩
      · exact .inl hslot
      · exact .inr ⟨hdoomed, hy.congr (slot_stock_of_lt slot hlt),
          hy'.congr (slot_stock_of_lt slot (h.length ▸ hlt))⟩
    · refine .inl ?_
      simp only [Shelf.slot, List.getElem?_append_right hge,
        List.getElem?_append_right (h.length ▸ hge), h.length]

end Alike
end Shelf

/-! ## Benches that agree -/

namespace Bench

/-- The two benches are at the same point of their work: the watermark, what is buffered, the
summary windows, the tallies, the flush schedule and the queue are the same, on either side of the
queue, so are the batches sent, and every counter was incremented alike.  The shelves differ at most
in these snapshots, none of which can be read. -/
structure Agrees (doomed : Snapshot → Prop) (b b' : Bench σ) : Prop where
  uploader : b.uploader = b'.uploader
  desk : b.desk = b'.desk
  underway : b.underway = b'.underway
  converter : b.converter = b'.converter
  consumerJournal : b.consumerJournal = b'.consumerJournal
  counts : ∀ c, b.journal.increments c = b'.journal.increments c
  shelf : Shelf.Alike doomed b.shelf b'.shelf

variable {doomed : Snapshot → Prop} {b b' : Bench σ} {x : Snapshot}

theorem Agrees.refl (doomed : Snapshot → Prop) (b : Bench σ) : Agrees doomed b b :=
  ⟨rfl, rfl, rfl, rfl, rfl, fun _ => rfl, .refl doomed b.shelf⟩

theorem Agrees.mono {doomed' : Snapshot → Prop} (h : Agrees doomed b b')
    (hle : ∀ y, doomed y → doomed' y) : Agrees doomed' b b' :=
  ⟨h.uploader, h.desk, h.underway, h.converter, h.consumerJournal, h.counts, h.shelf.mono hle⟩

theorem Agrees.abreast (h : Agrees doomed b b') : Abreast b b' :=
  ⟨h.uploader, h.desk, h.underway, h.converter, h.consumerJournal, h.counts⟩

theorem Abreast.agrees (h : Abreast b b') (hshelf : Shelf.Alike doomed b.shelf b'.shelf) :
    Agrees doomed b b' :=
  ⟨h.uploader, h.desk, h.underway, h.converter, h.consumerJournal, h.counts, hshelf⟩

/-- **A call for a snapshot that cannot be read** deletes it and writes lines, and that is all. -/
theorem handle_unreadable (hfree : b.underway = none) (hx : b.shelf.Unreadable x) :
    ∃ lines, (∀ e ∈ lines, Entry.isLine e = true) ∧ b.act (.handle x) =
      { b with shelf := (b.shelf.remove x).2, journal := b.journal.addAll lines } := by
  obtain ⟨f, hf⟩ := hx
  have hread : Watermark.readAll (b.items x) = .error f := hf
  have htake : Sending.perform (b.uploader.takeUp (b.shelf.filePath x) (b.items x)) b.desk
      b.journal = ((.failed f, b.uploader), b.desk, b.journal) := by
    unfold Uploader.takeUp
    cases b.uploader.delivery with
    | direct c =>
        simp only [Uploader.harvest, Watermark.scan, hread]
        rfl
    | queued q =>
        simp only [Watermark.scan, hread]
        rfl
  obtain ⟨lines, hlines, hstep⟩ := step_eq x (b.uploader.found (b.items x)) none htake
  refine ⟨lines, hlines, ?_⟩
  simp only [act, hfree]
  rw [hstep]
  simp only [Harvested.left?, Option.map_none, Uploader.cleared, ← hfree]

/-- **What happens at two benches that agree leaves them so.** -/
theorem agrees_act (h : Agrees doomed b b') (hway : b.WayWrites) (a : Act) :
    Agrees doomed (b.act a) (b'.act a) ∧ (b.act a).WayWrites := by
  -- A call for a snapshot that cannot be read at either bench is the one case in which what is read
  -- may differ.
  by_cases hdoomed : ∃ x, a = .handle x ∧ b.underway = none ∧ b.shelf.slot x ≠ b'.shelf.slot x
  · obtain ⟨x, rfl, hfree, hslot⟩ := hdoomed
    obtain ⟨-, hx, hx'⟩ := (h.shelf.slots x).resolve_left hslot
    obtain ⟨lines, hlines, hact⟩ := handle_unreadable hfree hx
    obtain ⟨lines', hlines', hact'⟩ := handle_unreadable (h.underway.symm.trans hfree) hx'
    rw [hact, hact']
    refine ⟨⟨h.uploader, h.desk, h.underway, h.converter, h.consumerJournal, fun c => ?_,
      h.shelf.remove x⟩, hway⟩
    rw [Journal.increments_addAll_of_lines hlines,
      Journal.increments_addAll_of_lines hlines', h.counts]
  · have hreads : ReadsAlike b b' a := by
      refine ⟨h.shelf.filePath, fun x ha hfree => ?_⟩
      refine Shelf.itemsOf_congr h.shelf.emptied (Decidable.byContradiction fun hslot => ?_)
      exact hdoomed ⟨x, ha, hfree, hslot⟩
    obtain ⟨habreast, hway'⟩ := abreast_act h.abreast hway hreads none none
    refine ⟨habreast.agrees ?_, hway'⟩
    exact shelves_act h.abreast hway hreads none none h.shelf
      (fun p _ => h.shelf.remove p.snapshot) fun slot _ => h.shelf.stock slot

/-- A call put in for a snapshot that cannot be read. -/
theorem agrees_inserted (h : Agrees doomed b b') (hway : b.WayWrites) (hx : b.shelf.Unreadable x) :
    Agrees (fun y => doomed y ∨ y = x) (b.act (.handle x)) b' ∧ (b.act (.handle x)).WayWrites := by
  cases hfree : b.underway with
  | some c =>
      simp only [act, hfree]
      exact ⟨h.mono fun _ => .inl, hway⟩
  | none =>
      obtain ⟨lines, hlines, hact⟩ := handle_unreadable hfree hx
      rw [hact]
      refine ⟨⟨h.uploader, h.desk, h.underway, h.converter, h.consumerJournal, fun c => ?_,
        h.shelf.remove_left hx⟩, hway⟩
      rw [Journal.increments_addAll_of_lines hlines, h.counts]

/-! ## Runs with calls put in -/

/-- What happens in a run into which calls were put. -/
inductive Turn where
  /-- It happens in the run without them too. -/
  | shared (a : Act)
  | inserted (x : Snapshot)

/-- What happens in the run with the calls put in. -/
def Turn.act : Turn → Act
  | .shared a => a
  | .inserted x => .handle x

/-- What happens in the run without the calls put in. -/
def Turn.kept? : Turn → Option Act
  | .shared a => some a
  | .inserted _ => none

/-- The snapshots of the calls put in cannot be read when they are handled. -/
def Inserts (b : Bench σ) (turns : List Turn) : Prop :=
  ∀ before x after, turns = before ++ .inserted x :: after →
    (b.run (before.map Turn.act)).shelf.Unreadable x

theorem inserts_nil (b : Bench σ) : b.Inserts [] := by
  intro before x after hsplit
  exact absurd hsplit.symm (List.append_ne_nil_of_right_ne_nil _ (List.cons_ne_nil _ _))

/-- A run may begin with anything that happens, a call put in if its snapshot cannot be read. -/
theorem inserts_cons {t : Turn} {rest : List Turn}
    (hfirst : ∀ x, t = .inserted x → b.shelf.Unreadable x)
    (hrest : (b.act t.act).Inserts rest) : b.Inserts (t :: rest) := by
  intro before x after hsplit
  cases before with
  | nil => exact hfirst x (List.cons.inj hsplit).1
  | cons u before =>
      obtain ⟨rfl, htail⟩ := List.cons.inj hsplit
      exact hrest before x after htail

/-- The runs with and without the calls put in end at benches that agree. -/
theorem agrees_run (h : Agrees doomed b b') (hway : b.WayWrites) (turns : List Turn)
    (hinserts : b.Inserts turns) :
    Agrees (fun y => doomed y ∨ .inserted y ∈ turns) (b.run (turns.map Turn.act))
      (b'.run (turns.filterMap Turn.kept?)) := by
  induction turns generalizing doomed b b' with
  | nil => exact h.mono fun _ => .inl
  | cons t rest ih =>
      have hrest : (b.act t.act).Inserts rest := by
        intro before x after hsplit
        exact hinserts (t :: before) x after (by rw [hsplit]; rfl)
      cases t with
      | shared a =>
          obtain ⟨hact, hway'⟩ := agrees_act h hway a
          exact (ih hact hway' hrest).mono fun y => .imp_right (List.mem_cons_of_mem _)
      | inserted x =>
          obtain ⟨hact, hway'⟩ := agrees_inserted h hway (hinserts [] x rest rfl)
          refine (ih hact hway' hrest).mono ?_
          rintro y ((hy | rfl) | hy)
          · exact .inl hy
          · exact .inr List.mem_cons_self
          · exact .inr (List.mem_cons_of_mem _ hy)

/-! ## Calls that a closed queue refuses -/

/-- The call for `x` that began at the bench `b` is still under way. -/
inductive Waits (b : Bench σ) (x : Snapshot) : Bench σ → Prop
  | begun (hfree : b.underway = none) (hwaits : (b.act (.handle x)).underway ≠ none) :
      Waits b x (b.act (.handle x))
  | next {c : Bench σ} (a : Act) : Waits b x c → (c.act a).underway ≠ none → Waits b x (c.act a)

/-- What a call under way has changed so far: neither the watermark, nor a counter. -/
structure Pending (b : Bench σ) (x : Snapshot) (c : Bench σ) (call : Underway) : Prop where
  underway : c.underway = some call
  snapshot : call.snapshot = x
  left : call.left <:+ call.found.accepted
  queued : ∃ q, c.uploader.delivery = .queued q
  watermark : c.uploader.watermark = b.uploader.watermark
  counts : ∀ n, c.journal.increments n = b.journal.increments n

/-- A direct uploader waits for nothing. -/
theorem left?_direct {u : Uploader σ} {c : Converter σ} (h : u.delivery = .direct c) (path : String)
    (items : List (Except Fault Event)) (d : Desk) (j : Journal) :
    (Sending.perform (u.harvest path items >>= Uploader.flushDue) d j).1.1.left? = none := by
  have hdeliver : ∀ events j, ∃ due : Option Buffer,
      (Sending.perform (Uploader.deliver path events (.direct c)) d j).1.1 =
        (due.map .due).getD .settled := fun _ _ => ⟨_, rfl⟩
  simp only [Uploader.harvest, Sending.perform_bind, Sending.perform_lift, h]
  cases (Noting.perform (u.watermark.scan items) j).1 with
  | error f => rfl
  | ok s =>
      obtain ⟨due, hdue⟩ := hdeliver s.accepted (Noting.perform (u.watermark.scan items) j).2
      simp only [Sending.perform_bind, hdue]
      cases due <;> rfl

/-- A call begins with nothing changed. -/
theorem pending_handle (hfree : b.underway = none) (hwaits : (b.act (.handle x)).underway ≠ none) :
    ∃ call, Pending b x (b.act (.handle x)) call := by
  cases hdelivery : b.uploader.delivery with
  | direct c =>
      refine absurd ?_ hwaits
      have hleft := left?_direct hdelivery (b.shelf.filePath x) (b.items x) b.desk b.journal
      rcases hwork : Sending.perform (b.uploader.harvest (b.shelf.filePath x) (b.items x) >>=
        Uploader.flushDue) b.desk b.journal with ⟨⟨harvested, u⟩, d, j⟩
      rw [hwork] at hleft
      obtain ⟨lines, -, hstep⟩ := step_eq x (b.uploader.found (b.items x)) none hwork
      simp only [act, hfree, Uploader.takeUp, hdelivery]
      rw [hstep]
      simp only [show harvested.left? = none from hleft, Option.map_none]
  | queued q =>
      cases hread : Watermark.readAll (b.items x) with
      | error f =>
          obtain ⟨lines, -, hact⟩ := handle_unreadable hfree ⟨f, hread⟩
          rw [hact] at hwaits
          exact absurd hfree hwaits
      | ok events =>
          obtain ⟨text, hscan⟩ := scan_ok b.uploader.watermark hread
          have hfound : b.uploader.found (b.items x) = b.uploader.watermark.scanEvents events := by
            simp only [Uploader.found, hread]
          rw [handle_readable none hfree hdelivery hfound (hscan b.journal)]
          refine ⟨_, rfl, rfl, List.suffix_refl _, ⟨q, rfl⟩, rfl, fun n => ?_⟩
          exact (b.journal.increments_add _ n).trans (List.append_nil _)

/-- What the consumer of a queue does leaves a call under way alone. -/
theorem Pending.consume {c : Bench σ} {call : Underway} (h : Pending b x c call)
    (work : Consumer σ → Sending (Consumer σ)) : Pending b x (c.consume work) call := by
  obtain ⟨q, hq⟩ := h.queued
  unfold Bench.consume
  rw [hq]
  exact ⟨h.underway, h.snapshot, h.left, ⟨_, rfl⟩, h.watermark, h.counts⟩

/-- **A closed queue ends the call**: its snapshot is deleted, and lines are written. -/
theorem push_refused {c : Bench σ} {call : Underway} {q : EventQueue Event}
    (hcall : c.underway = some call) (hleft : call.left <:+ call.found.accepted)
    (hne : call.left ≠ []) (hq : c.uploader.delivery = .queued q) (hclosed : q.consumed = false) :
    ∃ lines, (∀ e ∈ lines, Entry.isLine e = true) ∧ c.act .push =
      { c with
        shelf := (c.shelf.remove call.snapshot).2, journal := c.journal.addAll lines,
        underway := none } := by
  obtain ⟨x, found, left⟩ := call
  obtain ⟨e, rest, rfl⟩ := List.exists_cons_of_ne_nil hne
  have haccepted : found.accepted ≠ [] := by
    intro hnil
    rw [hnil] at hleft
    exact hne (List.suffix_nil.1 hleft)
  obtain ⟨line, hline, hwork⟩ : ∃ line, Entry.isLine line = true ∧ Sending.perform
      (c.uploader.pushOn (c.shelf.filePath x) found (e :: rest)) c.desk c.journal =
        ((.failed .queueClosed, c.uploader), c.desk, c.journal.add line) := by
    simp only [Uploader.pushOn, hq, EventQueue.push_eq_closed_iff.2 hclosed, Uploader.deliver,
      EventQueue.pushAll_closed hclosed haccepted, Sending.perform_bind, Sending.perform_lift,
      Sending.perform_pure]
    rw [← hq]
    exact ⟨.line _ _, rfl, rfl⟩
  obtain ⟨lines, hlines, hstep⟩ := step_eq x found none hwork
  refine ⟨line :: lines, fun e he => ?_, ?_⟩
  · exact (List.mem_cons.1 he).elim (fun h => h ▸ hline) (hlines e)
  · simp only [act, hcall]
    exact hstep

/-- A call that goes on waiting has pushed at most an event. -/
theorem Pending.push {c : Bench σ} {call : Underway} (h : Pending b x c call)
    (hwaits : (c.act .push).underway ≠ none) : ∃ call, Pending b x (c.act .push) call := by
  obtain ⟨x', found, left⟩ := call
  obtain ⟨q, hq⟩ := h.queued
  have hcall := h.underway
  cases left with
  | nil =>
      refine absurd ?_ hwaits
      rcases hwork : Sending.perform (c.uploader.pushOn (c.shelf.filePath x') found []) c.desk
        c.journal with ⟨⟨harvested, u⟩, d, j⟩
      have hsettled : harvested = .settled := by
        simp only [Uploader.pushOn, hq, Sending.perform_bind, Sending.perform_pure] at hwork
        exact (congrArg (fun p => p.1.1) hwork).symm
      obtain ⟨lines, -, hstep⟩ := step_eq x' found none hwork
      simp only [act, hcall]
      rw [hstep, hsettled]
      rfl
  | cons e rest =>
      cases hpush : q.push e with
      | done q' =>
          have hact : c.act .push = c.pushing q' ⟨x', found, rest⟩ := by
            simp only [act, hcall, pushing, step, Uploader.pushOn, hq, hpush, Sending.perform_pure,
              Uploader.clearUp, Noting.perform_pure, Handled.left?, Option.map_some]
          rw [hact]
          exact ⟨_, rfl, h.snapshot, (List.suffix_cons e rest).trans h.left, ⟨q', rfl⟩, h.watermark,
            h.counts⟩
      | waits =>
          have hact : c.act .push = c := by
            simp only [act, hcall, step, Uploader.pushOn, hq, hpush, Sending.perform_pure,
              Uploader.clearUp, Noting.perform_pure, Handled.left?, Option.map_some]
            rw [← hcall]
          rw [hact]
          exact ⟨_, h⟩
      | closed =>
          obtain ⟨lines, -, hact⟩ :=
            push_refused hcall h.left (List.cons_ne_nil e rest) hq
              (EventQueue.push_eq_closed_iff.1 hpush)
          exact absurd (by rw [hact]) hwaits

/-- **A call under way has changed nothing**, whatever happens around it. -/
theorem waits_pending {c : Bench σ} (h : Waits b x c) : ∃ call, Pending b x c call := by
  induction h with
  | begun hfree hwaits => exact pending_handle hfree hwaits
  | @next c a _ hwaits ih =>
      obtain ⟨call, hpending⟩ := ih
      cases a with
      | handle y =>
          simp only [act, hpending.underway]
          exact ⟨call, hpending⟩
      | push => exact hpending.push hwaits
      | finish =>
          obtain ⟨q, hq⟩ := hpending.queued
          have hfinish : c.act .finish = c := by
            simp only [act, Uploader.finish, hq, Sending.perform_pure]
          rw [hfinish]
          exact ⟨call, hpending⟩
      | look => exact ⟨call, hpending.consume fun c => do return (← c.look).2⟩
      | windUp => exact ⟨call, hpending.consume Consumer.windUp⟩
      | leave =>
          exact ⟨call, hpending.consume fun c =>
            return { c with queue := c.queue.dropConsumer }⟩
      | stock _ | tick _ | relabel _ =>
          exact ⟨call, hpending.underway, hpending.snapshot, hpending.left, hpending.queued,
            hpending.watermark, hpending.counts⟩

/-! ## Failed snapshots -/

/-- The snapshot's file is gone, and every other snapshot is as it was. -/
structure Deletes (x : Snapshot) (s t : Shelf) : Prop where
  self : (t.slot x).file = false
  others : ∀ y, y ≠ x → t.slot y = s.slot y

theorem deletes_remove (s : Shelf) (x : Snapshot) : Deletes x s (s.remove x).2 :=
  ⟨by rw [Shelf.slot_remove_self, Slot.file_removed _ none (by decide)],
    fun _ => s.slot_remove_of_ne none⟩

/-- **A snapshot that cannot be processed is a no-op.**

* Put calls into a run whose snapshots cannot be read at the time, be it that they fail to open or
  that any line of them fails to decode.  Then at every point the run is where the run without them
  is: watermark, buffered records, summary windows, tallies, flush schedule, queue, sent batches and
  all counters are the same, and so are the other snapshots on the shelf.
* Such a call deletes its own snapshot's file and no other.
* A call that finds the queue closed before all its events are pushed ends with the watermark and
  the counters that it began with, whatever happened since, and deletes only its own file. -/
theorem failed_noop (b : Bench σ) (hway : b.WayWrites) (turns : List Turn)
    (hinserts : b.Inserts turns) :
    (∀ before after, turns = before ++ after →
      Agrees (fun y => .inserted y ∈ before) (b.run (before.map Turn.act))
        (b.run (before.filterMap Turn.kept?))) ∧
    (∀ (c : Bench σ) x, c.underway = none → c.shelf.Unreadable x →
      Deletes x c.shelf (c.act (.handle x)).shelf) ∧
    ∀ (start : Bench σ) x c call q, Waits start x c → c.underway = some call → call.left ≠ [] →
      c.uploader.delivery = .queued q → q.consumed = false →
        (c.act .push).underway = none ∧
          (c.act .push).uploader.watermark = start.uploader.watermark ∧
          (∀ n, (c.act .push).journal.increments n = start.journal.increments n) ∧
          Deletes x c.shelf (c.act .push).shelf := by
  refine ⟨?_, ?_, ?_⟩
  · rintro before after rfl
    have hbefore : b.Inserts before := by
      intro first x last hsplit
      exact hinserts first x (last ++ after) (by rw [hsplit, List.append_assoc]; rfl)
    refine (agrees_run (.refl (fun _ => False) b) hway before hbefore).mono ?_
    exact fun _ hy => hy.elim False.elim id
  · intro c x hfree hx
    obtain ⟨lines, -, hact⟩ := handle_unreadable hfree hx
    rw [hact]
    exact deletes_remove c.shelf x
  · intro start x c call q hwaits hcall hne hq hclosed
    obtain ⟨call', hpending⟩ := waits_pending hwaits
    obtain rfl := Option.some.inj (hcall.symm.trans hpending.underway)
    obtain ⟨lines, hlines, hact⟩ := push_refused hcall hpending.left hne hq hclosed
    rw [hact, hpending.snapshot]
    refine ⟨rfl, hpending.watermark, fun n => ?_, deletes_remove c.shelf x⟩
    rw [Journal.increments_addAll_of_lines hlines, hpending.counts]

/-- A line of a snapshot with one event. -/
def oneEvent : List UInt8 :=
  Text.bytesOf "\x7b\"start_time\":\"1970-01-01T00:00:01Z\",\"type\":\"t\"\x7d\n"

/-- A queueing uploader with a snapshot that can be read, and one that cannot be read to its end. -/
def stocked : Bench Aggregate where
  uploader := .new (.queued (.new 1)) false
  desk := ⟨.epoch, .empty, .logging⟩
  shelf := { Shelf.new "snapshots" (fun _ => "dir") (fun _ => "file") with
    slots := [⟨oneEvent, true, true, false⟩, ⟨oneEvent ++ [120], true, true, false⟩] }
  journal := .empty
  underway := none
  converter := .new .empty .epoch (.new (.ofSecs 60) 0)
  consumerJournal := .empty

/-- Whether events go to a queue whose consumer is gone. -/
def refuses : Delivery σ → Bool
  | .queued q => !q.consumed
  | .direct _ => false

/-- The second snapshot leaves no trace, and the first one finds no consumer. -/
theorem failed_noop_stocked :
    Agrees (· = ⟨1⟩) (stocked.run [.handle ⟨1⟩, .leave, .handle ⟨0⟩])
        (stocked.run [.leave, .handle ⟨0⟩]) ∧
      (stocked.run [.leave, .handle ⟨0⟩, .push]).uploader.watermark = .initial := by
  have hunreadable : stocked.shelf.Unreadable ⟨1⟩ := by
    have hread : (Watermark.readAll (Uploader.itemsOf stocked.shelf ⟨1⟩)).isOk = false := by
      decide +kernel
    cases hitems : Watermark.readAll (Uploader.itemsOf stocked.shelf ⟨1⟩) with
    | error f => exact ⟨f, hitems⟩
    | ok events => rw [hitems] at hread; exact absurd hread.symm Bool.false_ne_true
  let turns : List Turn := [.inserted ⟨1⟩, .shared .leave, .shared (.handle ⟨0⟩)]
  have hinserts : stocked.Inserts turns := by
    refine inserts_cons ?_ (inserts_cons ?_ (inserts_cons ?_ (inserts_nil _)))
    · rintro x heq
      obtain rfl := Turn.inserted.inj heq
      exact hunreadable
    · exact fun _ heq => Turn.noConfusion heq
    · exact fun _ heq => Turn.noConfusion heq
  obtain ⟨hagrees, -, hrefused⟩ :=
    failed_noop stocked (Outbox.writes_logging fun _ _ => trivial) _ hinserts
  refine ⟨(hagrees turns [] rfl).mono ?_, ?_⟩
  · intro y hy
    simpa [turns] using hy
  · have hwaiting : (stocked.run [.leave, .handle ⟨0⟩]).underway.map (·.left.isEmpty) =
        some false := by decide +kernel
    have hclosed : refuses (stocked.run [.leave, .handle ⟨0⟩]).uploader.delivery = true := by
      decide +kernel
    obtain ⟨call, hcall, hleft⟩ := Option.map_eq_some_iff.1 hwaiting
    have hne : call.left ≠ [] := List.isEmpty_eq_false_iff.1 hleft
    cases hqueue : (stocked.run [.leave, .handle ⟨0⟩]).uploader.delivery with
    | direct c => rw [hqueue] at hclosed; exact absurd hclosed Bool.false_ne_true
    | queued q =>
        rw [hqueue] at hclosed
        have hconsumed : q.consumed = false := by simpa [refuses] using hclosed
        have hwaits : Waits (stocked.run [.leave]) ⟨0⟩ (stocked.run [.leave, .handle ⟨0⟩]) :=
          .begun rfl fun h => Option.some_ne_none call (hcall.symm.trans h)
        exact (hrefused (stocked.run [.leave]) ⟨0⟩ _ call q hwaits hcall hne hqueue hconsumed).2.1

end Bench
end RecordingHarvest
