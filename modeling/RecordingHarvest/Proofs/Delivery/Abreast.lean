import RecordingHarvest.Proofs.Delivery.Bench

/-!
# Benches abreast of each other

Of a shelf, an uploader sees what it reads.  Two benches that are at the same point of their work
and read the same stay at the same point, whatever each disk makes of the deletions.

* `part?`: the part of a call that an act is.
* `abreast_act`: what happens at two benches that are abreast leaves them so.
* `shelves_act`: what it does to their shelves.
-/

namespace RecordingHarvest
namespace Bench

variable {σ : Type}

/-! ## Parts of calls -/

/-- A part of a call: the snapshot it is for, what was found in it, and what is to be done. -/
structure Part (σ : Type) where
  snapshot : Snapshot
  found : Scan
  work : Sending (Harvested × Uploader σ)

/-- The part of a call that an act is, if it is one. -/
def part? (b : Bench σ) : Act → Option (Part σ)
  | .handle x =>
    match b.underway with
    | some _ => none
    | none =>
      some ⟨x, b.uploader.found (b.items x), b.uploader.takeUp (b.shelf.filePath x) (b.items x)⟩
  | .push =>
    b.underway.map fun c =>
      ⟨c.snapshot, c.found, b.uploader.pushOn (b.shelf.filePath c.snapshot) c.found c.left⟩
  | .finish | .look | .windUp | .leave | .stock _ | .tick _ | .relabel _ => none

variable {b b' : Bench σ} {a : Act} {p : Part σ}

/-- A part of a call is the beginning of one that may begin, or a push of the one under way. -/
theorem part_cases (h : b.part? a = some p) :
    (∃ x, a = .handle x ∧ b.underway = none ∧
      p = ⟨x, b.uploader.found (b.items x),
        b.uploader.takeUp (b.shelf.filePath x) (b.items x)⟩) ∨
    (∃ c, a = .push ∧ b.underway = some c ∧
      p = ⟨c.snapshot, c.found,
        b.uploader.pushOn (b.shelf.filePath c.snapshot) c.found c.left⟩) := by
  cases a with
  | handle x =>
      cases hcall : b.underway with
      | some c => simp [part?, hcall] at h
      | none => exact .inl ⟨x, rfl, rfl, by simpa [part?, hcall] using h.symm⟩
  | push =>
      cases hcall : b.underway with
      | none => simp [part?, hcall] at h
      | some c => exact .inr ⟨c, rfl, rfl, by simpa [part?, hcall] using h.symm⟩
  | finish | look | windUp | leave | stock _ | tick _ | relabel _ => exact nomatch h

theorem act_part (h : b.part? a = some p) (refused : Option RemovalStep) :
    b.act a refused = b.step p.snapshot p.found p.work refused := by
  obtain ⟨x, rfl, hcall, rfl⟩ | ⟨c, rfl, hcall, rfl⟩ := part_cases h
  · simp only [act, hcall]
  · simp only [act, hcall]

/-- A call that comes while another is under way does nothing. -/
theorem act_handle_idle {x : Snapshot} (h : b.part? (.handle x) = none)
    (refused : Option RemovalStep) : b.act (.handle x) refused = b := by
  cases hcall : b.underway with
  | some c => simp only [act, hcall]
  | none => simp [part?, hcall] at h

/-- Without a call under way there is nothing to push. -/
theorem act_push_idle (h : b.part? .push = none) (refused : Option RemovalStep) :
    b.act .push refused = b := by
  cases hcall : b.underway with
  | none => simp only [act, hcall]
  | some c => simp [part?, hcall] at h

/-- A disk has no say in anything else. -/
theorem act_no_part (h : b.part? a = none) (refused : Option RemovalStep) :
    b.act a refused = b.act a := by
  cases a with
  | handle x => rw [act_handle_idle h, act_handle_idle h]
  | push => rw [act_push_idle h, act_push_idle h]
  | finish | look | windUp | leave | stock _ | tick _ | relabel _ => simp only [act]

/-- A part of a call only writes. -/
theorem writes_part (h : b.part? a = some p) : Sending.Writes (fun _ => True) p.work := by
  obtain ⟨x, -, -, rfl⟩ | ⟨c, -, -, rfl⟩ := part_cases h
  · exact Uploader.writes_takeUp (fun _ _ => trivial) _ _ _
  · exact Uploader.writes_pushOn (fun _ _ => trivial) _ _ _ _

/-! ## Abreast -/

/-- The two benches are at the same point of their work: the watermark, what is buffered, the
summary windows, the tallies, the flush schedule and the queue are the same, on either side of the
queue, so are the batches sent, and every counter was incremented alike. -/
structure Abreast (b b' : Bench σ) : Prop where
  uploader : b.uploader = b'.uploader
  desk : b.desk = b'.desk
  underway : b.underway = b'.underway
  converter : b.converter = b'.converter
  consumerJournal : b.consumerJournal = b'.consumerJournal
  counts : ∀ c, b.journal.increments c = b'.journal.increments c

/-- The way out only writes, whatever that is. -/
def WayWrites (b : Bench σ) : Prop := b.desk.outbox.Writes fun _ => True

/-- What is read of the snapshots at the two benches, and what they are called, is the same. -/
structure ReadsAlike (b b' : Bench σ) (a : Act) : Prop where
  paths : ∀ x, b.shelf.filePath x = b'.shelf.filePath x
  items : ∀ x, a = .handle x → b.underway = none → b.items x = b'.items x

/-- At both benches an act is the same part of a call. -/
theorem Abreast.part? (h : Abreast b b') (hreads : ReadsAlike b b' a) : b'.part? a = b.part? a := by
  cases a with
  | handle x =>
      simp only [Bench.part?, ← h.underway]
      cases hcall : b.underway with
      | some c => simp only
      | none => simp only [← h.uploader, ← hreads.items x rfl hcall, ← hreads.paths x]
  | push =>
      simp only [Bench.part?, ← h.underway, ← h.uploader]
      cases b.underway with
      | none => simp only [Option.map_none]
      | some c => simp only [Option.map_some, ← hreads.paths c.snapshot]
  | finish | look | windUp | leave | stock _ | tick _ | relabel _ => rfl

/-- The same part of a call leaves the benches abreast, and the snapshot is deleted from both
shelves or from neither. -/
theorem abreast_step (h : Abreast b b') (hway : b.WayWrites) (x : Snapshot) (found : Scan)
    {work : Sending (Harvested × Uploader σ)} (hwork : Sending.Writes (fun _ => True) work)
    (refused refused' : Option RemovalStep) :
    Abreast (b.step x found work refused) (b'.step x found work refused') ∧
      (b.step x found work refused).WayWrites ∧
      ∃ harvested : Harvested,
        (b.step x found work refused).shelf = Uploader.cleared b.shelf x harvested refused ∧
        (b'.step x found work refused').shelf = Uploader.cleared b'.shelf x harvested refused' := by
  obtain ⟨⟨harvested, u⟩, d, es, -, hd, hperform⟩ := hwork b.desk hway
  obtain ⟨lines, hlines, hstep⟩ := step_eq x found refused (hperform b.journal)
  have hperform' := hperform b'.journal
  rw [h.desk] at hperform'
  obtain ⟨lines', hlines', hstep'⟩ := step_eq x found refused' hperform'
  rw [hstep, hstep']
  refine ⟨⟨rfl, rfl, rfl, h.converter, h.consumerJournal, fun c => ?_⟩, hd, harvested, rfl, rfl⟩
  rw [Journal.increments_addAll_of_lines hlines, Journal.increments_addAll_of_lines hlines',
    Journal.increments_addAll, h.counts, ← Journal.increments_addAll]

/-- What a consumer does is the same at both benches. -/
theorem abreast_consume (h : Abreast b b') (hway : b.WayWrites)
    {work : Consumer σ → Sending (Consumer σ)}
    (hwork : ∀ c, Sending.Writes (fun _ => True) (work c)) :
    Abreast (b.consume work) (b'.consume work) ∧ (b.consume work).WayWrites := by
  unfold consume
  rw [← h.uploader]
  cases b.uploader.delivery with
  | direct c => exact ⟨h, hway⟩
  | queued q =>
      obtain ⟨c, d, es, -, hd, hperform⟩ := hwork ⟨q, b.converter⟩ b.desk hway
      dsimp only
      rw [← h.converter, ← h.desk, ← h.consumerJournal, hperform]
      exact ⟨⟨rfl, rfl, h.underway, rfl, rfl, h.counts⟩, hd⟩

/-- **What happens at two benches that are abreast leaves them so**, whatever the disks refuse. -/
theorem abreast_act (h : Abreast b b') (hway : b.WayWrites) (hreads : ReadsAlike b b' a)
    (refused refused' : Option RemovalStep) :
    Abreast (b.act a refused) (b'.act a refused') ∧ (b.act a refused).WayWrites := by
  have hmay : ∀ e, Entry.isDelivery e = true → (fun _ => True) e := fun _ _ => trivial
  cases hpart : b.part? a with
  | some p =>
      rw [act_part hpart, act_part ((h.part? hreads).trans hpart)]
      obtain ⟨habreast, hway', -⟩ :=
        abreast_step h hway p.snapshot p.found (writes_part hpart) refused refused'
      exact ⟨habreast, hway'⟩
  | none =>
      have hpart' := (h.part? hreads).trans hpart
      rw [act_no_part hpart, act_no_part hpart']
      cases a with
      | handle x =>
          rw [act_handle_idle hpart, act_handle_idle hpart']
          exact ⟨h, hway⟩
      | push =>
          rw [act_push_idle hpart, act_push_idle hpart']
          exact ⟨h, hway⟩
      | finish =>
          obtain ⟨u, d, es, -, hd, hperform⟩ := Uploader.writes_finish hmay b.uploader b.desk hway
          simp only [act, ← h.uploader, ← h.desk, hperform]
          refine ⟨⟨rfl, rfl, h.underway, h.converter, h.consumerJournal, fun c => ?_⟩, hd⟩
          rw [Journal.increments_addAll, h.counts, ← Journal.increments_addAll]
      | look =>
          exact abreast_consume h hway fun c =>
            (Consumer.writes_look hmay c).bind fun p => Sending.writes_pure p.2
      | windUp => exact abreast_consume h hway (Consumer.writes_windUp hmay)
      | leave =>
          exact abreast_consume h hway fun c =>
            Sending.writes_pure { c with queue := c.queue.dropConsumer }
      | stock slot =>
          exact ⟨⟨h.uploader, h.desk, h.underway, h.converter, h.consumerJournal, h.counts⟩, hway⟩
      | tick now =>
          refine ⟨⟨h.uploader, ?_, h.underway, h.converter, h.consumerJournal, h.counts⟩, hway⟩
          simp only [act, h.desk]
      | relabel common =>
          refine ⟨⟨h.uploader, ?_, h.underway, h.converter, h.consumerJournal, h.counts⟩, hway⟩
          simp only [act, h.desk]

/-! ## What becomes of the shelves -/

/-- What a consumer does leaves the shelf and the call under way alone. -/
theorem consume_aside (b : Bench σ) (work : Consumer σ → Sending (Consumer σ)) :
    (b.consume work).shelf = b.shelf ∧ (b.consume work).underway = b.underway := by
  unfold consume
  cases b.uploader.delivery <;> exact ⟨rfl, rfl⟩

/-- What is no part of a call leaves the shelf alone, but for snapshots laid on it. -/
theorem shelf_act_no_part (h : b.part? a = none) :
    (b.act a).shelf = match a with
      | .stock slot => { b.shelf with slots := b.shelf.slots ++ [slot] }
      | _ => b.shelf := by
  cases a with
  | handle x => rw [act_handle_idle h]
  | push => rw [act_push_idle h]
  | look | windUp | leave => exact (b.consume_aside _).1
  | finish | stock _ | tick _ | relabel _ => simp only [act]

/-- **What an act does to two shelves**: the snapshot of a call that ends is deleted from both, a
snapshot is laid on both, or both stay as they are. -/
theorem shelves_act {R : Shelf → Shelf → Prop} (h : Abreast b b') (hway : b.WayWrites)
    (hreads : ReadsAlike b b' a) (refused refused' : Option RemovalStep)
    (hsame : R b.shelf b'.shelf)
    (hremove : ∀ p, b.part? a = some p →
      R (b.shelf.remove p.snapshot refused).2 (b'.shelf.remove p.snapshot refused').2)
    (hstock : ∀ slot, a = .stock slot → R { b.shelf with slots := b.shelf.slots ++ [slot] }
      { b'.shelf with slots := b'.shelf.slots ++ [slot] }) :
    R (b.act a refused).shelf (b'.act a refused').shelf := by
  cases hpart : b.part? a with
  | some p =>
      obtain ⟨-, -, harvested, hshelf, hshelf'⟩ :=
        abreast_step h hway p.snapshot p.found (writes_part hpart) refused refused'
      rw [act_part hpart, act_part ((h.part? hreads).trans hpart), hshelf, hshelf']
      unfold Uploader.cleared
      cases harvested.left? with
      | some left => exact hsame
      | none => exact hremove p hpart
  | none =>
      have hpart' := (h.part? hreads).trans hpart
      rw [act_no_part hpart, act_no_part hpart', shelf_act_no_part hpart, shelf_act_no_part hpart']
      cases a with
      | stock slot => exact hstock slot rfl
      | handle _ | push | finish | look | windUp | leave | tick _ | relabel _ => exact hsame

end Bench
end RecordingHarvest
