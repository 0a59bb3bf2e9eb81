import RecordingHarvest.Proofs.Delivery.Skipping

/-!
# Clearing up behind a call

A call ends with one attempt to delete its snapshot, when all is sent.  How that goes decides what
the call answers and what is left on the shelf, and nothing else: a run in which the disk refuses
deletions, at the file or at the directory, keeps abreast of the run in which nothing is in their
way.

* `Shelf.Removable`, `Deleted`: when a deletion succeeds, and what comes of it.
* `Uploader.concludes_handleFile`, `concludes_act`: calls, and parts of calls, end with a deletion.
* `Shelf.Follows`: a shelf with what failed deletions left, beside one where they succeeded.
* `Bench.follows_run`: the two runs.
* `Bench.deletes_last`: deleting comes last and never affects delivery.
-/

namespace RecordingHarvest

variable {σ : Type}

/-! ## One deletion -/

namespace Shelf

variable {s t : Shelf} {x y : Snapshot} {refused : Option RemovalStep}

/-- The snapshot can be deleted: the file and its directory are there, nothing else lies in the
directory, and the disk refuses neither step. -/
structure Removable (s : Shelf) (x : Snapshot) (refused : Option RemovalStep) : Prop where
  file : (s.slot x).file = true
  dir : (s.slot x).dir = true
  bare : (s.slot x).extra = false
  willing : refused = none

theorem remove_of_removable (h : s.Removable x refused) :
    (s.remove x refused).1 = .ok () ∧ ((s.remove x refused).2.slot x).file = false ∧
      ((s.remove x refused).2.slot x).dir = false := by
  obtain ⟨hfile, hdir, hbare, rfl⟩ := h
  refine ⟨?_, ?_⟩
  · simp [remove, hfile, hdir, hbare]
  · simp [slot_remove_self, Slot.removed, hfile, hdir, hbare]

/-- A deletion that fails names what could not be deleted. -/
theorem remove_of_not_removable (h : ¬ s.Removable x refused) :
    ∃ path, (path = s.filePath x ∨ path = s.dirPath x) ∧
      (s.remove x refused).1 = .error (.cleanupFailed path) := by
  unfold remove
  dsimp only
  split
  · exact ⟨_, .inl rfl, rfl⟩
  · split
    · exact ⟨_, .inr rfl, rfl⟩
    · next hfile hdir =>
        refine absurd ?_ h
        simp only [Bool.or_eq_true, Bool.not_eq_true', beq_iff_eq, not_or, Bool.not_eq_true,
          Bool.not_eq_false] at hfile hdir
        refine ⟨hfile.1, hdir.1.2, hdir.1.1, ?_⟩
        cases refused with
        | none => rfl
        | some step => cases step with
          | file => exact absurd rfl hfile.2
          | directory => exact absurd rfl hdir.2

end Shelf

/-- A call has ended with one attempt to delete its snapshot. -/
structure Deleted (strict : Bool) (s : Shelf) (x : Snapshot) (refused : Option RemovalStep)
    (handled : Handled) (t : Shelf) : Prop where
  attempt : t = (s.remove x refused).2
  removed : s.Removable x refused →
    handled = .done ∧ (t.slot x).file = false ∧ (t.slot x).dir = false
  failed : ¬ s.Removable x refused →
    ∃ path, (path = s.filePath x ∨ path = s.dirPath x) ∧
      handled = if strict then .failed (.cleanupFailed path) else .done
  others : ∀ y, y ≠ x → t.slot y = s.slot y

theorem deleted_remove (strict : Bool) (s : Shelf) (x : Snapshot) (refused : Option RemovalStep) :
    Deleted strict s x refused (Uploader.ending strict (s.remove x refused).1)
      (s.remove x refused).2 where
  attempt := rfl
  removed h := by
    obtain ⟨hok, hgone⟩ := Shelf.remove_of_removable h
    exact ⟨by rw [hok]; rfl, hgone⟩
  failed h := by
    obtain ⟨path, hpath, herror⟩ := Shelf.remove_of_not_removable h
    exact ⟨path, hpath, by rw [herror]; rfl⟩
  others _ := s.slot_remove_of_ne refused

/-- What a call comes to when its work, up to the last batch it sends, comes to `worked`. -/
structure Concludes (strict : Bool) (s : Shelf) (x : Snapshot)
    (refuses : Desk → Option RemovalStep) (worked : (Harvested × Uploader σ) × Desk × Journal)
    (call : (Handled × Uploader σ × Shelf) × Desk × Journal) : Prop where
  uploader : call.1.2.1 = worked.1.2
  desk : call.2.1 = worked.2.1
  journal : ∃ lines, (∀ e ∈ lines, Entry.isLine e = true) ∧ call.2.2 = worked.2.2.addAll lines
  waits : ∀ left, worked.1.1.left? = some left → call.1.1 = .waiting left ∧ call.1.2.2 = s
  ends : worked.1.1.left? = none →
    Deleted strict s x (refuses worked.2.1) call.1.1 call.1.2.2

namespace Uploader

/-- The work of a part of a call, and clearing up behind it. -/
def conclude (shelf : Shelf) (x : Snapshot) (refuses : Desk → Option RemovalStep)
    (work : Sending (Harvested × Uploader σ)) : Sending (Handled × Uploader σ × Shelf) := do
  let (harvested, u) ← work
  let (handled, shelf) ← clearUp u.strictCleanup shelf x harvested (refuses (← get))
  return (handled, u, shelf)

theorem concludes_conclude {strict : Bool} (shelf : Shelf) (x : Snapshot)
    (refuses : Desk → Option RemovalStep) {work : Sending (Harvested × Uploader σ)} (d : Desk)
    (j : Journal) (hstrict : (Sending.perform work d j).1.2.strictCleanup = strict) :
    Concludes strict shelf x refuses (Sending.perform work d j)
      (Sending.perform (conclude shelf x refuses work) d j) := by
  rcases hwork : Sending.perform work d j with ⟨⟨harvested, u⟩, d', j'⟩
  rw [hwork] at hstrict
  subst hstrict
  obtain ⟨lines, hlines, hclear⟩ :=
    perform_clearUp u.strictCleanup shelf x harvested (refuses d') j'
  have hcall : Sending.perform (conclude shelf x refuses work) d j =
      ((concluded u.strictCleanup shelf x harvested (refuses d'), u,
        cleared shelf x harvested (refuses d')), d', j'.addAll lines) := by
    simp only [conclude, Sending.perform_bind, Sending.perform_get, Sending.perform_lift,
      Sending.perform_pure, hwork, hclear]
  rw [hcall]
  refine ⟨rfl, rfl, ⟨lines, hlines, rfl⟩, fun left hleft => ?_, fun hleft => ?_⟩
  · simp only [concluded, cleared, show harvested.left? = some left from hleft, and_self]
  · simp only [concluded, cleared, show harvested.left? = none from hleft]
    exact deleted_remove u.strictCleanup shelf x (refuses d')

/-! ## Whether a failed deletion is a fault -/

variable (u : Uploader σ)

theorem strictCleanup_flushDue (p : Harvested × Uploader σ) (d : Desk) (j : Journal) :
    (Sending.perform (flushDue p) d j).1.2.strictCleanup = p.2.strictCleanup := by
  obtain ⟨harvested, u⟩ := p
  cases harvested with
  | due b =>
      simp only [flushDue, flush, Sending.perform_bind, Sending.perform_get, Sending.perform_pure]
      unfold markSent
      cases u.delivery <;> rfl
  | settled | failed _ | waiting _ => rfl

theorem strictCleanup_harvest (path : String) (items : List (Except Fault Event)) (d : Desk)
    (j : Journal) :
    (Sending.perform (u.harvest path items) d j).1.2.strictCleanup = u.strictCleanup := by
  simp only [harvest, Sending.perform_bind, Sending.perform_lift]
  cases (Noting.perform (u.watermark.scan items) j).1 with
  | error f => rfl
  | ok s =>
      simp only [Sending.perform_bind]
      cases (Sending.perform (deliver path s.accepted u.delivery) d
        (Noting.perform (u.watermark.scan items) j).2).1.1 <;> rfl

theorem strictCleanup_takeUp (path : String) (items : List (Except Fault Event)) (d : Desk)
    (j : Journal) :
    (Sending.perform (u.takeUp path items) d j).1.2.strictCleanup = u.strictCleanup := by
  unfold takeUp
  cases u.delivery with
  | direct c => exact (strictCleanup_flushDue _ _ _).trans (u.strictCleanup_harvest path items d j)
  | queued q =>
      simp only [Sending.perform_bind, Sending.perform_lift]
      cases (Noting.perform (u.watermark.scan items) j).1 <;> rfl

theorem strictCleanup_pushOn (path : String) (found : Scan) (left : List Event) (d : Desk)
    (j : Journal) :
    (Sending.perform (u.pushOn path found left) d j).1.2.strictCleanup = u.strictCleanup := by
  unfold pushOn
  cases u.delivery with
  | direct c => rfl
  | queued q =>
      cases left with
      | nil => rfl
      | cons e rest =>
          dsimp only
          cases q.push e <;> rfl

/-- **A call ends with one attempt to delete its snapshot**, at the desk as its sends left it. -/
theorem concludes_handleFile (shelf : Shelf) (x : Snapshot) (refuses : Desk → Option RemovalStep)
    (d : Desk) (j : Journal) :
    Concludes u.strictCleanup shelf x refuses
      (Sending.perform (u.harvest (shelf.filePath x) (itemsOf shelf x) >>= flushDue) d j)
      (Sending.perform (u.handleFile shelf x refuses) d j) := by
  rw [handleFile_eq]
  refine concludes_conclude shelf x refuses d j ?_
  exact (strictCleanup_flushDue _ _ _).trans (u.strictCleanup_harvest _ _ d j)

end Uploader

namespace Bench

variable {b b' : Bench σ} {a : Act} {p : Part σ} {taken : Snapshot → Prop}

/-- The bench once a part of a call came to this. -/
def after (b : Bench σ) (p : Part σ)
    (call : (Handled × Uploader σ × Shelf) × Desk × Journal) : Bench σ :=
  { b with
    uploader := call.1.2.1, desk := call.2.1, shelf := call.1.2.2, journal := call.2.2,
    underway := call.1.1.left?.map fun left => ⟨p.snapshot, p.found, left⟩ }

/-- **A part of a call that is not the last deletes nothing, and the last one deletes.** -/
theorem concludes_act (h : b.part? a = some p) (refused : Option RemovalStep) :
    ∃ call, b.act a refused = b.after p call ∧
      Concludes b.uploader.strictCleanup b.shelf p.snapshot (fun _ => refused)
        (Sending.perform p.work b.desk b.journal) call := by
  refine ⟨Sending.perform (Uploader.conclude b.shelf p.snapshot (fun _ => refused) p.work) b.desk
    b.journal, act_part h refused, Uploader.concludes_conclude _ _ _ _ _ ?_⟩
  obtain ⟨x, -, -, rfl⟩ | ⟨c, -, -, rfl⟩ := part_cases h
  · exact b.uploader.strictCleanup_takeUp _ _ _ _
  · exact b.uploader.strictCleanup_pushOn _ _ _ _ _

/-- What is no part of a call deletes nothing. -/
theorem slot_act_no_part (h : b.part? a = none) (refused : Option RemovalStep) {y : Snapshot}
    (hy : y.number < b.shelf.slots.length) : (b.act a refused).shelf.slot y = b.shelf.slot y := by
  rw [act_no_part h, shelf_act_no_part h]
  cases a with
  | stock slot => exact Shelf.slot_stock_of_lt slot hy
  | handle _ | push | finish | look | windUp | leave | tick _ | relabel _ => rfl

end Bench

/-! ## Shelves with what failed deletions left -/

/-- The slot with nothing in the way of a deletion. -/
def Slot.tidied (slot : Slot) : Slot := { slot with dir := true, extra := false }

namespace Shelf

variable {s t : Shelf} {x y : Snapshot} {taken : Snapshot → Prop}

/-- The shelf with nothing in the way of a deletion. -/
def tidied (s : Shelf) : Shelf := { s with slots := s.slots.map Slot.tidied }

/-- The second shelf is the first with nothing in the way of a deletion: what can be read on the one
can be read on the other, but for snapshots already taken, of which deletions that failed may have
left the file on the first. -/
structure Follows (taken : Snapshot → Prop) (s t : Shelf) : Prop where
  emptied : s.emptied = t.emptied
  length : s.slots.length = t.slots.length
  reads : ∀ y, s.read? y = t.read? y ∨ taken y ∧ t.read? y = none
  clear : ∀ y, (t.slot y).file = true → t.Removable y none

theorem read?_congr (h : s.slot y = t.slot y) : s.read? y = t.read? y := by
  simp only [read?, h]

theorem read?_eq_none (h : (s.slot y).file = false) : s.read? y = none := by
  simp [read?, h]

theorem file_of_ge (h : s.slots.length ≤ y.number) : (s.slot y).file = false :=
  Bool.eq_false_iff.2 fun hfile => absurd (lt_of_file hfile) (Nat.not_lt.2 h)

theorem slot_tidied (h : y.number < s.slots.length) : s.tidied.slot y = (s.slot y).tidied := by
  simp [Shelf.slot, Shelf.tidied, List.getElem?_eq_getElem h]

theorem slot_stock_self (slot : Slot) (h : y.number = s.slots.length) :
    ({ s with slots := s.slots ++ [slot] } : Shelf).slot y = slot := by
  simp [Shelf.slot, h]

theorem Removable.congr (h : t.Removable y none) (hslot : s.slot y = t.slot y) :
    s.Removable y none :=
  ⟨by rw [hslot, h.file], by rw [hslot, h.dir], by rw [hslot, h.bare], rfl⟩

namespace Follows

theorem mono {taken' : Snapshot → Prop} (h : Follows taken s t) (hle : ∀ y, taken y → taken' y) :
    Follows taken' s t :=
  ⟨h.emptied, h.length, fun y => (h.reads y).imp_right fun hy => ⟨hle y hy.1, hy.2⟩, h.clear⟩

theorem filePath (h : Follows taken s t) (x : Snapshot) : s.filePath x = t.filePath x :=
  congrArg (fun u => u.filePath x) h.emptied

theorem tidied (s : Shelf) : Follows taken s s.tidied where
  emptied := rfl
  length := (List.length_map _).symm
  reads y := by
    refine .inl ?_
    rcases Nat.lt_or_ge y.number s.slots.length with hlt | hge
    · simp only [read?, slot_tidied hlt, Slot.tidied]
    · rw [read?_eq_none (file_of_ge hge), read?_eq_none (file_of_ge (by simpa [Shelf.tidied]))]
  clear y hfile := by
    have hlt : y.number < s.slots.length := by simpa [Shelf.tidied] using lt_of_file hfile
    exact ⟨hfile, by rw [slot_tidied hlt]; rfl, by rw [slot_tidied hlt]; rfl, rfl⟩

/-- A snapshot that was taken is deleted from both shelves, however that goes on the first. -/
theorem remove (h : Follows taken s t) (hx : taken x) (refused : Option RemovalStep) :
    Follows taken (s.remove x refused).2 (t.remove x).2 where
  emptied := by rw [emptied_remove, emptied_remove, h.emptied]
  length := by rw [length_remove, length_remove, h.length]
  reads y := by
    by_cases hyx : y = x
    · subst hyx
      refine .inr ⟨hx, read?_eq_none ?_⟩
      rw [slot_remove_self, Slot.file_removed _ none (by decide)]
    · rw [read?_congr (slot_remove_of_ne s refused hyx), read?_congr (slot_remove_of_ne t none hyx)]
      exact h.reads y
  clear y hfile := by
    by_cases hyx : y = x
    · subst hyx
      rw [slot_remove_self, Slot.file_removed _ none (by decide)] at hfile
      exact absurd hfile Bool.false_ne_true
    · have hslot := slot_remove_of_ne t none hyx
      exact (h.clear y (hslot ▸ hfile)).congr hslot

/-- A snapshot is laid on both shelves. -/
theorem stock (h : Follows taken s t) (slot : Slot) :
    Follows taken { s with slots := s.slots ++ [slot] }
      { t with slots := t.slots ++ [slot.tidied] } where
  emptied := h.emptied
  length := by simp only [List.length_append, h.length, List.length_singleton]
  reads y := by
    rcases Nat.lt_trichotomy y.number s.slots.length with hlt | heq | hgt
    · rw [read?_congr (slot_stock_of_lt slot hlt),
        read?_congr (slot_stock_of_lt slot.tidied (h.length ▸ hlt))]
      exact h.reads y
    · refine .inl ?_
      simp only [read?, slot_stock_self slot heq, slot_stock_self slot.tidied (heq.trans h.length)]
      rfl
    · have hge : s.slots.length + 1 ≤ y.number := hgt
      refine .inl ?_
      rw [read?_eq_none (file_of_ge ?_), read?_eq_none (file_of_ge ?_)]
      · simpa [← h.length] using hge
      · simpa using hge
  clear y hfile := by
    rcases Nat.lt_or_ge y.number t.slots.length with hlt | hge
    · have hslot := slot_stock_of_lt slot.tidied hlt
      exact (h.clear y (hslot ▸ hfile)).congr hslot
    · have hle : y.number ≤ t.slots.length := by
        simpa [Nat.lt_succ_iff] using lt_of_file hfile
      have hslot := slot_stock_self slot.tidied (Nat.le_antisymm hle hge)
      exact ⟨hfile, by rw [hslot]; rfl, by rw [hslot]; rfl, rfl⟩

end Follows

theorem itemsOf_of_read? (hpath : s.filePath x = t.filePath x) (h : s.read? x = t.read? x) :
    Uploader.itemsOf s x = Uploader.itemsOf t x := by
  simp only [Uploader.itemsOf, h, hpath]

end Shelf

/-! ## Runs in which deletions fail -/

/-- The act, with nothing in the way of a deletion. -/
def Act.tidied : Act → Act
  | .stock slot => .stock slot.tidied
  | a => a

/-- The snapshot that an act is a call for. -/
def Act.called? : Act → Option Snapshot
  | .handle x => some x
  | _ => none

namespace Bench

variable {b b' : Bench σ} {a : Act} {taken : Snapshot → Prop}

/-- The bench with nothing in the way of a deletion. -/
def tidied (b : Bench σ) : Bench σ := { b with shelf := b.shelf.tidied }

/-- A call for the snapshot is under way. -/
def Holds (b : Bench σ) (x : Snapshot) : Prop := ∃ c, b.underway = some c ∧ c.snapshot = x

/-- The snapshot was taken before, or one of these calls was for it. -/
def Called (taken : Snapshot → Prop) (turns : List (Act × Option RemovalStep)) (x : Snapshot) :
    Prop :=
  taken x ∨ ∃ refused, (.handle x, refused) ∈ turns

/-- A call takes its snapshot over: no later call is for it, unless its file is gone. -/
def Fresh (b : Bench σ) (taken : Snapshot → Prop) (turns : List (Act × Option RemovalStep)) :
    Prop :=
  ∀ before x refused after, turns = before ++ (.handle x, refused) :: after →
    Called taken before x → (b.runDespite before).shelf.read? x = none

/-- A call under way was under way before, or has just begun. -/
theorem holds_act (a : Act) (refused : Option RemovalStep) {x : Snapshot}
    (h : (b.act a refused).Holds x) : b.Holds x ∨ a = .handle x := by
  cases hpart : b.part? a with
  | some p =>
      obtain ⟨call, hact, -⟩ := concludes_act hpart refused
      obtain ⟨c, hcall, rfl⟩ := h
      rw [hact, after, Option.map_eq_some_iff] at hcall
      obtain ⟨left, -, rfl⟩ := hcall
      obtain ⟨x, rfl, -, rfl⟩ | ⟨c, rfl, hunder, rfl⟩ := part_cases hpart
      · exact .inr rfl
      · exact .inl ⟨c, hunder, rfl⟩
  | none =>
      refine .inl ?_
      rw [act_no_part hpart] at h
      cases a with
      | handle x => exact act_handle_idle hpart none ▸ h
      | push => exact act_push_idle hpart none ▸ h
      | look | windUp | leave =>
          obtain ⟨c, hcall, hc⟩ := h
          exact ⟨c, (b.consume_aside _).2.symm.trans hcall, hc⟩
      | finish | stock _ | tick _ | relabel _ => exact h

/-- One act: whatever the disk makes of a deletion, the benches stay abreast. -/
theorem follows_act (h : Abreast b b') (hway : b.WayWrites)
    (hshelf : Shelf.Follows taken b.shelf b'.shelf) (hheld : ∀ x, b.Holds x → taken x) (a : Act)
    (refused : Option RemovalStep)
    (hfresh : ∀ x, a = .handle x → taken x → b.shelf.read? x = none) :
    Abreast (b.act a refused) (b'.act a.tidied) ∧ (b.act a refused).WayWrites ∧
      Shelf.Follows (fun y => taken y ∨ a = .handle y) (b.act a refused).shelf
        (b'.act a.tidied).shelf := by
  have hgrown : Shelf.Follows (fun y => taken y ∨ a = .handle y) b.shelf b'.shelf :=
    hshelf.mono fun _ => .inl
  -- A snapshot laid on the shelf is the one act that is not the same at both benches.
  by_cases hstock : ∃ slot, a = .stock slot
  · obtain ⟨slot, rfl⟩ := hstock
    exact ⟨⟨h.uploader, h.desk, h.underway, h.converter, h.consumerJournal, h.counts⟩, hway,
      hgrown.stock slot⟩
  · have htidied : a.tidied = a := by
      cases a with
      | stock slot => exact absurd ⟨slot, rfl⟩ hstock
      | handle _ | push | finish | look | windUp | leave | tick _ | relabel _ => rfl
    have hreads : ReadsAlike b b' a := by
      refine ⟨hshelf.filePath, fun x ha _ => ?_⟩
      refine Shelf.itemsOf_of_read? (hshelf.filePath x) ?_
      obtain hread | ⟨htaken, hgone⟩ := hshelf.reads x
      · exact hread
      · rw [hgone, hfresh x ha htaken]
    rw [htidied]
    obtain ⟨habreast, hway'⟩ := abreast_act h hway hreads refused none
    refine ⟨habreast, hway', ?_⟩
    refine shelves_act h hway hreads refused none hgrown (fun p hpart => ?_)
      fun slot ha => absurd ⟨slot, ha⟩ hstock
    refine hgrown.remove ?_ refused
    obtain ⟨x, ha, -, rfl⟩ | ⟨c, -, hunder, rfl⟩ := part_cases hpart
    · exact .inr ha
    · exact .inl (hheld _ ⟨c, hunder, rfl⟩)

/-- **The run in which deletions fail and the run in which nothing is in their way**, begun abreast,
end abreast. -/
theorem follows_run (h : Abreast b b') (hway : b.WayWrites)
    (hshelf : Shelf.Follows taken b.shelf b'.shelf) (hheld : ∀ x, b.Holds x → taken x)
    (turns : List (Act × Option RemovalStep)) (hfresh : b.Fresh taken turns) :
    Abreast (b.runDespite turns) (b'.run (turns.map fun t => t.1.tidied)) ∧
      Shelf.Follows (Called taken turns) (b.runDespite turns).shelf
        (b'.run (turns.map fun t => t.1.tidied)).shelf := by
  induction turns generalizing b b' taken with
  | nil => exact ⟨h, hshelf.mono fun _ => .inl⟩
  | cons t rest ih =>
      obtain ⟨a, refused⟩ := t
      -- The snapshot of a call counts as taken from here on, whether the call began or not.
      obtain ⟨hact, hway', hshelf'⟩ := follows_act h hway hshelf hheld a refused fun x ha htaken =>
        hfresh [] x refused rest (by rw [ha]; rfl) (.inl htaken)
      have hcalled : ∀ first x, Called (fun y => taken y ∨ a = .handle y) first x →
          Called taken ((a, refused) :: first) x := by
        rintro first x ((htaken | rfl) | ⟨r, hmem⟩)
        · exact .inl htaken
        · exact .inr ⟨refused, List.mem_cons_self⟩
        · exact .inr ⟨r, List.mem_cons_of_mem _ hmem⟩
      have hrest : (b.act a refused).Fresh (fun y => taken y ∨ a = .handle y) rest := by
        intro before x r last hsplit hx
        exact hfresh ((a, refused) :: before) x r last (by rw [hsplit]; rfl) (hcalled before x hx)
      have hheld' : ∀ x, (b.act a refused).Holds x → taken x ∨ a = .handle x := fun x hx =>
        (holds_act a refused hx).imp_left (hheld x)
      obtain ⟨habreast, hfollows⟩ := ih hact hway' hshelf' hheld' hrest
      exact ⟨habreast, hfollows.mono (hcalled rest)⟩

theorem Fresh.of_append {before after : List (Act × Option RemovalStep)}
    (h : b.Fresh taken (before ++ after)) : b.Fresh taken before := by
  intro first x refused last hsplit
  exact h first x refused (last ++ after) (by rw [hsplit, List.append_assoc]; rfl)

/-- Calls for different snapshots are for no snapshot that an earlier call was for. -/
theorem fresh_of_nodup {turns : List (Act × Option RemovalStep)} (hfree : b.underway = none)
    (hnodup : (turns.filterMap fun t => t.1.called?).Nodup) : b.Fresh b.Holds turns := by
  rintro before x refused after rfl (⟨c, hcall, -⟩ | ⟨r, hmem⟩)
  · exact absurd (hfree.symm.trans hcall) nofun
  · rw [List.filterMap_append, List.nodup_append] at hnodup
    have hfirst : x ∈ before.filterMap fun t => t.1.called? :=
      List.mem_filterMap.2 ⟨(.handle x, r), hmem, rfl⟩
    have hsecond : x ∈ ((Act.handle x, refused) :: after).filterMap fun t => t.1.called? :=
      List.mem_filterMap.2 ⟨(.handle x, refused), List.mem_cons_self, rfl⟩
    exact absurd rfl (hnodup.2.2 x hfirst x hsecond)

/-- **A call ends with the deletion of its snapshot, and that touches nothing else.**

* Handling a snapshot, whatever is in it, wherever its events go and whatever becomes of what is
  sent, is its work up to the last batch, and then one attempt to delete the snapshot.  If file and
  directory can be removed by then, both are gone and the call is done.  If not, a strict uploader
  answers that cleaning up failed, and any other is done all the same.  It answers nothing else,
  unless it waits for room in the queue, which a direct uploader never does.
* A call that waits has deleted nothing.  The part that ends it makes the one attempt, and whatever
  happens besides deletes nothing.
* Let any deletions fail in a run, at the file or at the directory, be it that the disk refuses the
  step or that the directory is gone or holds something else.  Then at every point the run is where
  the run is in which nothing is in their way: watermark, buffered records, summary windows,
  tallies, flush schedule, queue, sent batches and all counters are the same. -/
theorem deletes_last :
    (∀ (u : Uploader σ) (shelf : Shelf) x (refuses : Desk → Option RemovalStep) d j,
      Concludes u.strictCleanup shelf x refuses
        (Sending.perform (u.harvest (shelf.filePath x) (Uploader.itemsOf shelf x) >>=
          Uploader.flushDue) d j)
        (Sending.perform (u.handleFile shelf x refuses) d j) ∧
      ∀ c, u.delivery = .direct c →
        (Sending.perform (u.harvest (shelf.filePath x) (Uploader.itemsOf shelf x) >>=
          Uploader.flushDue) d j).1.1.left? = none) ∧
    (∀ (b : Bench σ) a refused,
      match b.part? a with
      | some p => ∃ call, b.act a refused = b.after p call ∧
          Concludes b.uploader.strictCleanup b.shelf p.snapshot (fun _ => refused)
            (Sending.perform p.work b.desk b.journal) call
      | none => ∀ y, y.number < b.shelf.slots.length →
          (b.act a refused).shelf.slot y = b.shelf.slot y) ∧
    ∀ (b : Bench σ) turns, b.WayWrites → b.Fresh b.Holds turns →
      ∀ before after, turns = before ++ after →
        Abreast (b.runDespite before) (b.tidied.run (before.map fun t => t.1.tidied)) ∧
        ∀ y, ((b.tidied.run (before.map fun t => t.1.tidied)).shelf.slot y).file = true →
          (b.tidied.run (before.map fun t => t.1.tidied)).shelf.Removable y none := by
  refine ⟨fun u shelf x refuses d j => ⟨u.concludes_handleFile shelf x refuses d j, ?_⟩, ?_, ?_⟩
  · exact fun c hdelivery => left?_direct hdelivery _ _ d j
  · intro b a refused
    cases hpart : b.part? a with
    | some p => exact concludes_act hpart refused
    | none => exact fun y => slot_act_no_part hpart refused
  · rintro b turns hway hfresh before after rfl
    have hstart : Abreast b b.tidied := ⟨rfl, rfl, rfl, rfl, rfl, fun _ => rfl⟩
    obtain ⟨habreast, hfollows⟩ :=
      follows_run hstart hway (.tidied b.shelf) (fun _ => id) before hfresh.of_append
    exact ⟨habreast, hfollows.clear⟩

/-- The directory of the one snapshot and the file of the other cannot be removed. -/
def obstructed : List (Act × Option RemovalStep) :=
  [(.handle ⟨1⟩, some .directory), (.handle ⟨0⟩, none), (.push, none), (.push, some .file)]

/-- The file is left on the shelf, and that is all. -/
theorem deletes_last_obstructed :
    Abreast (stocked.runDespite obstructed)
        (stocked.tidied.run (obstructed.map fun t => t.1.tidied)) ∧
      ((stocked.runDespite obstructed).shelf.slot ⟨0⟩).file = true ∧
      ((stocked.tidied.run (obstructed.map fun t => t.1.tidied)).shelf.slot ⟨0⟩).file = false := by
  have hfresh : stocked.Fresh stocked.Holds obstructed := fresh_of_nodup rfl (by decide)
  refine ⟨?_, by decide +kernel, by decide +kernel⟩
  exact (deletes_last.2.2 stocked obstructed (Outbox.writes_logging fun _ _ => trivial) hfresh
    obstructed [] (List.append_nil _).symm).1

end Bench
end RecordingHarvest
