import RecordingHarvest.Proofs.Delivery.Crew

/-!
# Interleaved calls deliver every record once

Whatever order the calls of a crew move in, three things stay as they are.

* **The flow of records** (`Crew.Flow`).  What was sent, what is in flight and what is buffered are,
  one after the other, the production of the conversion so far; and only one call at a time has a
  flush in flight.
* **The line at the filter** (`Crew.Line`).  Calls go through the filter one at a time, so what was
  converted is what a single filter accepts from the snapshots in the order of the calls.
* **The last call** (`Crew.Last`).  Once it has handed out the buffer nothing is converted anymore.

Each is kept by every step, and together they give `delivered_once`: when all calls have returned,
the batches sent hold the production, each record once and in its place.
-/

namespace RecordingHarvest
namespace Crew

open Conversion (Turn)

variable {σ : Type}

/-! ## Moving one call -/

/-- What holds of every call before a call moves, and of the stage it moves to, holds after. -/
theorem move_eq {α : Type} {s : Crew σ} {i : Nat} {c : Call} (view : Call → α)
    (h : view c = view (s.calls i)) (k : Nat) :
    view ((s.move i c).calls k) = view (s.calls k) := by
  by_cases hk : k = i
  · subst hk; rw [calls_move_self, h]
  · rw [calls_move_of_ne s c hk]

/-! ## The flow of records -/

/-- The records in flight. -/
def airborne : Option (Nat × Buffer) → Buffer
  | some (_, b) => b
  | none => Buffer.empty

/-- Where the records of a conversion are, with the flush in flight and the call that sends it. -/
structure Flow (c₀ : Conversion σ) (s : Crew σ) (flight : Option (Nat × Buffer)) : Prop where
  unsent : ∀ k b, (s.calls k).unsent? = some b ↔ flight = some (k, b)
  outstanding : flight ≠ none → s.converter.outstanding = true
  keeps : s.converter.Keeps c₀ s.book (Batch.load s.desk.outbox.sent ++ airborne flight)
  nonempty : ∀ x ∈ s.desk.outbox.sent, 0 < x.size

namespace Flow

variable {c₀ : Conversion σ} {s t : Crew σ} {flight : Option (Nat × Buffer)}

/-- A step that leaves the flushes, the converter and the batches alone. -/
theorem of_eq (h : Flow c₀ s flight) (hcalls : ∀ k, (t.calls k).unsent? = (s.calls k).unsent?)
    (hconverter : t.converter = s.converter) (hbook : t.book = s.book)
    (hsent : t.desk.outbox.sent = s.desk.outbox.sent) : Flow c₀ t flight where
  unsent k b := by rw [hcalls]; exact h.unsent k b
  outstanding := by rw [hconverter]; exact h.outstanding
  keeps := by rw [hconverter, hbook, hsent]; exact h.keeps
  nonempty := by rw [hsent]; exact h.nonempty

/-- The flushes once a call has moved and no other holds one. -/
theorem unsent_move {i : Nat} (hothers : ∀ k, k ≠ i → (s.calls k).unsent? = none) (c : Call)
    (k : Nat) (b : Buffer) :
    ((s.move i c).calls k).unsent? = some b ↔ c.unsent?.map (i, ·) = some (k, b) := by
  by_cases hk : k = i
  · subst hk
    rw [calls_move_self]
    cases c.unsent? <;> simp
  · rw [calls_move_of_ne s c hk, hothers k hk]
    cases c.unsent? <;> simp [Ne.symm hk]

theorem others (h : Flow c₀ s (some (i, b))) {k : Nat} (hk : k ≠ i) :
    (s.calls k).unsent? = none := by
  cases hcall : (s.calls k).unsent? with
  | none => rfl
  | some b' => exact absurd (congrArg Prod.fst (Option.some.inj ((h.unsent k b').1 hcall))).symm hk

theorem grounded (h : Flow c₀ s none) (k : Nat) : (s.calls k).unsent? = none := by
  cases hcall : (s.calls k).unsent? with
  | none => rfl
  | some b => exact absurd ((h.unsent k b).1 hcall) nofun

/-- Converting an event appends what it yields to the buffer and to the production alike. -/
theorem convert (h : Flow c₀ s flight) {i : Nat} {c : Call} (e : Event) (j : Journal)
    (hcall : c.unsent? = (s.calls i).unsent?) :
    Flow c₀ { s.move i c with
      converter := (Noting.perform (s.converter.convert e) j).1,
      book := s.book ++ [.converted e] } flight where
  unsent k b := by
    show ((s.move i c).calls k).unsent? = some b ↔ _
    rw [move_eq Call.unsent? hcall k]
    exact h.unsent k b
  outstanding := by rw [Converter.convert_value]; exact h.outstanding
  keeps := h.keeps.convert e j
  nonempty := h.nonempty

/-- Handing a flush out puts everything that left the converter in flight. -/
theorem handOut (h : Flow c₀ s none) {i : Nat} {c : Call} (now : Instant) (j : Journal)
    (hcall : c.unsent? = some (Noting.perform (s.converter.take now) j).1.1) :
    Flow c₀ { s.move i c with
      converter := (Noting.perform (s.converter.take now) j).1.2,
      book := s.book ++ [.closed now] }
      (some (i, (Noting.perform (s.converter.take now) j).1.1)) where
  unsent k b := by
    show ((s.move i c).calls k).unsent? = some b ↔ _
    rw [unsent_move (fun k _ => h.grounded k) c k b, hcall]
    rfl
  outstanding _ := by rw [Converter.take_value]
  keeps := by
    have hkeeps := h.keeps.take now j
    rw [airborne, Buffer.append_empty] at hkeeps
    exact hkeeps
  nonempty := h.nonempty

/-- Sending a part of the flush in flight moves that part behind the batches sent. -/
theorem ship {i : Nat} {b part rest : Buffer} (h : Flow c₀ s (some (i, b))) {c : Call}
    (hsplit : part ++ rest = b) (j : Journal) (hcall : c.unsent? = some rest) :
    Flow c₀ { s.move i c with desk := (Sending.perform (Desk.ship part) s.desk j).2.1 }
      (some (i, rest)) where
  unsent k x := by
    show ((s.move i c).calls k).unsent? = some x ↔ _
    rw [unsent_move (fun k hk => h.others hk) c k x, hcall]
    rfl
  outstanding _ := h.outstanding nofun
  keeps := by
    have hload : Batch.load (s.desk.outbox.sent ++ part.batches s.desk.common) ++ rest =
        Batch.load s.desk.outbox.sent ++ b := by
      rw [Batch.load_append, Buffer.load_batches, ← hsplit, Buffer.append_assoc]
    have hkeeps := h.keeps
    rw [airborne, ← hload, ← Desk.sent_ship part s.desk j] at hkeeps
    exact hkeeps
  nonempty x hx := by
    rw [Desk.sent_ship, List.mem_append] at hx
    exact hx.elim (h.nonempty x) Buffer.size_pos_of_mem_batches

/-- A flush of which nothing is left to send can be marked as sent. -/
theorem mark {i : Nat} (h : Flow c₀ s (some (i, Buffer.empty))) (now : Instant) :
    Flow c₀ { s.move i .returned with converter := s.converter.markSent now } none where
  unsent k b := by
    show ((s.move i .returned).calls k).unsent? = some b ↔ _
    rw [unsent_move (fun k hk => h.others hk) .returned k b]
    rfl
  outstanding hne := absurd rfl hne
  keeps := h.keeps.markSent now
  nonempty := h.nonempty

/-- **Every step keeps the flow of records.** -/
theorem step (h : Flow c₀ s flight) (hstep : Step s t) : ∃ flight, Flow c₀ t flight := by
  cases hstep with
  | scan j hcall hfree hread =>
      exact ⟨flight, h.of_eq (move_eq Call.unsent? (by rw [hcall]; rfl)) rfl rfl rfl⟩
  | skip j hcall hfree hread =>
      exact ⟨flight, h.of_eq (move_eq Call.unsent? (by rw [hcall]; rfl)) rfl rfl rfl⟩
  | convert j hcall => exact ⟨flight, h.convert _ j (by rw [hcall]; rfl)⟩
  | hold j hcall htake =>
      rcases s.converter.takeIfReady_cases s.desk.now j with hnone | ⟨-, hsome⟩
      · obtain rfl := congrArg Prod.snd (hnone.symm.trans htake)
        exact ⟨flight, h.of_eq (move_eq Call.unsent? (by rw [hcall]; rfl)) rfl rfl rfl⟩
      · exact absurd (congrArg Prod.fst (hsome.symm.trans htake)) nofun
  | take j hcall htake =>
      rcases s.converter.takeIfReady_cases s.desk.now j with hnone | ⟨hout, hsome⟩
      · exact absurd (congrArg Prod.fst (hnone.symm.trans htake)) nofun
      · obtain ⟨hb, rfl⟩ := Prod.mk.inj (hsome.symm.trans htake)
        -- a flush in flight would still be outstanding
        cases flight with
        | none => exact ⟨_, h.handOut _ j hb.symm⟩
        | some f => exact absurd (hout.symm.trans (h.outstanding nofun)) nofun
  | settle j hcall =>
      refine ⟨flight, h.of_eq (move_eq Call.unsent? ?_) rfl rfl rfl⟩
      rw [hcall, Call.unsent?_afterSettling]
      rfl
  | shipMetrics j hcall =>
      obtain rfl := (h.unsent _ _).1 (congrArg Call.unsent? hcall)
      exact ⟨_, h.ship (Buffer.metricsOnly_append_eventsOnly _) j rfl⟩
  | shipEvents j hcall =>
      obtain rfl := (h.unsent _ _).1 (congrArg Call.unsent? hcall)
      exact ⟨_, h.ship (Buffer.append_empty _) j rfl⟩
  | mark hcall =>
      obtain rfl := (h.unsent _ _).1 (congrArg Call.unsent? hcall)
      exact ⟨none, h.mark _⟩
  | @close i j hcall hlast =>
      have hflight : flight = none := by
        refine Option.eq_none_iff_forall_ne_some.2 fun f hf => ?_
        have hheld := (h.unsent f.1 f.2).2 hf
        by_cases hi : f.1 = i
        · rw [hi, hcall] at hheld; exact nomatch hheld
        · rw [hlast _ hi] at hheld; exact nomatch hheld
      subst hflight
      exact ⟨_, h.handOut _ j (Call.unsent?_afterClosing _)⟩
  | tick now => exact ⟨flight, h.of_eq (fun _ => rfl) rfl rfl rfl⟩
  | relabel common => exact ⟨flight, h.of_eq (fun _ => rfl) rfl rfl rfl⟩

end Flow

/-! ## The line at the filter -/

/-- The snapshots in the order in which the calls took the filter. -/
def harvested (s : Crew σ) (snapshots : List (List (Except Fault Event))) :
    List (List (Except Fault Event)) :=
  s.order.map fun i => snapshots.getD i []

/-- Where the filter stands: free, it stands past the snapshots of all calls that took it, and what
they accepted is converted; held, it will once its holder has converted what it found. -/
structure Line (w₀ : Watermark) (snapshots : List (List (Except Fault Event))) (s : Crew σ) :
    Prop where
  held : ∀ k, s.holder = some k ↔ (s.calls k).found?.isSome = true
  free : s.holder = none → s.watermark = w₀.pastAll (s.harvested snapshots) ∧
    Turn.events s.book = w₀.acceptedFrom (s.harvested snapshots)
  taken : ∀ k found, (s.calls k).found? = some found →
    s.watermark.past found = w₀.pastAll (s.harvested snapshots) ∧
    Turn.events s.book ++ (s.calls k).left = w₀.acceptedFrom (s.harvested snapshots)
  waiting : ∀ k items, (s.calls k).items? = some items → snapshots[k]? = some items
  ordered : ∀ k, k ∈ s.order ↔ k < snapshots.length ∧ (s.calls k).items? = none
  nodup : s.order.Nodup

namespace Line

variable {w₀ : Watermark} {snapshots : List (List (Except Fault Event))} {s t : Crew σ}

/-- A step that leaves the filter and what it accepted alone. -/
theorem of_eq (h : Line w₀ snapshots s)
    (hcalls : ∀ k, (t.calls k).atFilter = (s.calls k).atFilter)
    (hwatermark : t.watermark = s.watermark) (hholder : t.holder = s.holder)
    (horder : t.order = s.order) (hbook : Turn.events t.book = Turn.events s.book) :
    Line w₀ snapshots t := by
  have hitems : ∀ k, (t.calls k).items? = (s.calls k).items? := fun k => congrArg (·.1) (hcalls k)
  have hfound : ∀ k, (t.calls k).found? = (s.calls k).found? := fun k =>
    congrArg (·.2.1) (hcalls k)
  have hleft : ∀ k, (t.calls k).left = (s.calls k).left := fun k => congrArg (·.2.2) (hcalls k)
  have hharvested : t.harvested snapshots = s.harvested snapshots := by
    rw [harvested, harvested, horder]
  refine ⟨fun k => ?_, fun hfree => ?_, fun k found hk => ?_, fun k items hk => ?_, fun k => ?_, ?_⟩
  · rw [hholder, hfound]; exact h.held k
  · rw [hwatermark, hbook, hharvested]; exact h.free (hholder ▸ hfree)
  · rw [hwatermark, hbook, hharvested, hleft]; exact h.taken k found (hfound k ▸ hk)
  · exact h.waiting k items (hitems k ▸ hk)
  · rw [horder, hitems]; exact h.ordered k
  · rw [horder]; exact h.nodup

/-- The calls that wait once one of them took the filter. -/
theorem ordered_snoc (h : Line w₀ snapshots s) {i : Nat} {items : List (Except Fault Event)}
    (hi : (s.calls i).items? = some items) {c : Call} (hc : c.items? = none) (k : Nat) :
    k ∈ s.order ++ [i] ↔ k < snapshots.length ∧ ((s.move i c).calls k).items? = none := by
  have hlen := (List.getElem?_eq_some_iff.1 (h.waiting i items hi)).1
  by_cases hk : k = i
  · subst hk; simp [hlen, hc]
  · rw [List.mem_append, List.mem_singleton, calls_move_of_ne s c hk, h.ordered k]
    simp [hk]

theorem nodup_snoc (h : Line w₀ snapshots s) {i : Nat} {items : List (Except Fault Event)}
    (hi : (s.calls i).items? = some items) : (s.order ++ [i]).Nodup := by
  have hnot : i ∉ s.order := fun hmem => by
    rw [((h.ordered i).1 hmem).2] at hi
    exact nomatch hi
  refine List.nodup_append.2 ⟨h.nodup, by simp, ?_⟩
  rintro a ha b hb rfl
  exact hnot (List.mem_singleton.1 hb ▸ ha)

theorem waiting_move (h : Line w₀ snapshots s) {i : Nat} {c : Call} (hc : c.items? = none) (k : Nat)
    (items : List (Except Fault Event)) (hk : ((s.move i c).calls k).items? = some items) :
    snapshots[k]? = some items := by
  by_cases hki : k = i
  · subst hki; rw [calls_move_self, hc] at hk; exact nomatch hk
  · exact h.waiting k items (calls_move_of_ne s c hki ▸ hk)

/-- The filter after one more snapshot, and everything accepted so far. -/
theorem harvested_snoc (h : Line w₀ snapshots s) {i : Nat} {items : List (Except Fault Event)}
    (hi : (s.calls i).items? = some items) (hfree : s.holder = none) :
    w₀.pastAll ((s.order ++ [i]).map fun k => snapshots.getD k []) =
        (s.watermark.outcome items).2 ∧
      w₀.acceptedFrom ((s.order ++ [i]).map fun k => snapshots.getD k []) =
        Turn.events s.book ++ Watermark.acceptedOf [(s.watermark.outcome items).1] := by
  obtain ⟨hwatermark, hevents⟩ := h.free hfree
  have hget : snapshots.getD i [] = items := by
    rw [List.getD_eq_getElem?_getD, h.waiting i items hi]; rfl
  rw [List.map_append, List.map_singleton, hget, Watermark.pastAll_snoc,
    Watermark.acceptedFrom_snoc, hevents, hwatermark]
  exact ⟨rfl, rfl⟩

/-- Nobody holds a free filter. -/
theorem nobody (h : Line w₀ snapshots s) (hfree : s.holder = none) (k : Nat) :
    (s.calls k).found? = none := by
  cases hfound : (s.calls k).found? with
  | none => rfl
  | some found =>
      have hholder := (h.held k).2 (by rw [hfound]; rfl)
      exact absurd (hfree.symm.trans hholder) nofun

/-- Only one call holds the filter. -/
theorem nobodyElse (h : Line w₀ snapshots s) {i : Nat} (hi : (s.calls i).found?.isSome = true)
    {k : Nat} (hk : k ≠ i) : (s.calls k).found? = none := by
  cases hfound : (s.calls k).found? with
  | none => rfl
  | some found =>
      have hholder := (h.held k).2 (by rw [hfound]; rfl)
      exact absurd (Option.some.inj (hholder.symm.trans ((h.held i).2 hi))) hk

/-- What the holder found once a call has moved and no other holds the filter. -/
theorem found_move {i : Nat} (hothers : ∀ k, k ≠ i → (s.calls k).found? = none) (c : Call)
    (k : Nat) (found : Scan) :
    ((s.move i c).calls k).found? = some found ↔ k = i ∧ c.found? = some found := by
  by_cases hk : k = i
  · subst hk; simp
  · rw [calls_move_of_ne s c hk, hothers k hk]
    simp [hk]

/-- The holder of the filter once a call has moved and no other holds it. -/
theorem held_move {i : Nat} (hothers : ∀ k, k ≠ i → (s.calls k).found? = none) (c : Call)
    (k : Nat) : ((s.move i c).calls k).found?.isSome = true ↔ k = i ∧ c.found?.isSome = true := by
  simp only [Option.isSome_iff_exists, found_move hothers, exists_and_left]

/-- A free filter is taken by a call that can read its snapshot. -/
theorem scan (h : Line w₀ snapshots s) {i : Nat} {items : List (Except Fault Event)} {found : Scan}
    (j : Journal) (hcall : s.calls i = .waiting items) (hfree : s.holder = none)
    (hread : (Noting.perform (s.watermark.scan items) j).1 = .ok found) :
    Line w₀ snapshots { s.move i (.converting found found.accepted) with
      holder := some i, order := s.order ++ [i] } := by
  have hi : (s.calls i).items? = some items := by rw [hcall]; rfl
  obtain ⟨hpast, haccepted⟩ := h.harvested_snoc hi hfree
  rw [Watermark.outcome_of_scan hread] at hpast haccepted
  have hothers : ∀ k, k ≠ i → (s.calls k).found? = none := fun k _ => h.nobody hfree k
  refine ⟨fun k => ?_, nofun, fun k x hk => ?_, h.waiting_move rfl, h.ordered_snoc hi rfl,
    h.nodup_snoc hi⟩
  · refine Iff.trans ?_ (held_move hothers (.converting found found.accepted) k).symm
    simp [Call.found?, eq_comm]
  · obtain ⟨rfl, hx⟩ := (found_move hothers (.converting found found.accepted) k x).1 hk
    obtain rfl := Option.some.inj hx
    refine ⟨hpast.symm, ?_⟩
    show Turn.events s.book ++ ((s.move k _).calls k).left = _
    rw [calls_move_self]
    exact (haccepted.trans (by rw [Watermark.acceptedOf_ok]; rfl)).symm

/-- A snapshot that cannot be read leaves the filter where it is. -/
theorem skip (h : Line w₀ snapshots s) {i : Nat} {items : List (Except Fault Event)} {f : Fault}
    (j : Journal) (hcall : s.calls i = .waiting items) (hfree : s.holder = none)
    (hread : (Noting.perform (s.watermark.scan items) j).1 = .error f) :
    Line w₀ snapshots { s.move i .returned with order := s.order ++ [i] } := by
  have hi : (s.calls i).items? = some items := by rw [hcall]; rfl
  obtain ⟨hpast, haccepted⟩ := h.harvested_snoc hi hfree
  rw [Watermark.outcome_of_fault hread] at hpast haccepted
  have hothers : ∀ k, k ≠ i → (s.calls k).found? = none := fun k _ => h.nobody hfree k
  refine ⟨fun k => ?_, fun _ => ⟨hpast.symm, ?_⟩, fun k x hk => ?_, h.waiting_move rfl,
    h.ordered_snoc hi rfl, h.nodup_snoc hi⟩
  · refine Iff.trans ?_ (held_move hothers .returned k).symm
    show s.holder = some k ↔ _
    simp [Call.found?, hfree]
  · exact (haccepted.trans (List.append_nil _)).symm
  · exact nomatch ((found_move hothers .returned k x).1 hk).2

/-- The holder converts the next of the events it found. -/
theorem convert (h : Line w₀ snapshots s) {i : Nat} {found : Scan} {e : Event} {left : List Event}
    (c : Converter σ) (hcall : s.calls i = .converting found (e :: left)) :
    Line w₀ snapshots { s.move i (.converting found left) with
      converter := c, book := s.book ++ [.converted e] } := by
  have hi : (s.calls i).found? = some found := by rw [hcall]; rfl
  have hsome : (s.calls i).found?.isSome = true := by rw [hi]; rfl
  have hothers : ∀ k, k ≠ i → (s.calls k).found? = none := fun k hk => h.nobodyElse hsome hk
  obtain ⟨hpast, hevents⟩ := h.taken i found hi
  have hitems := move_eq (s := s) (i := i) (c := .converting found left) Call.items?
    (by rw [hcall]; rfl)
  refine ⟨fun k => ?_, fun hfree => ?_, fun k x hk => ?_, fun k items hk => ?_, fun k => ?_, h.nodup⟩
  · show s.holder = some k ↔ ((s.move i _).calls k).found?.isSome = true
    rw [move_eq Call.found? (by rw [hcall]; rfl) k]
    exact h.held k
  · exact absurd (((h.held i).2 hsome).symm.trans hfree) nofun
  · obtain ⟨rfl, hx⟩ := (found_move hothers (.converting found left) k x).1 hk
    obtain rfl := Option.some.inj hx
    refine ⟨hpast, ?_⟩
    show Turn.events (s.book ++ [.converted e]) ++ ((s.move k _).calls k).left = _
    rw [hcall] at hevents
    rw [calls_move_self, Turn.events_append, List.append_assoc]
    exact hevents
  · exact h.waiting k items (hitems k ▸ hk)
  · show k ∈ s.order ↔ _ ∧ ((s.move i _).calls k).items? = none
    rw [hitems k]
    exact h.ordered k

/-- The holder moves the filter on and lets go of it. -/
theorem settle (h : Line w₀ snapshots s) {i : Nat} {found : Scan} {due : Option Buffer}
    (j : Journal) (hcall : s.calls i = .settling found due) :
    Line w₀ snapshots { s.move i (.afterSettling due) with
      watermark := (Noting.perform (s.watermark.advance found) j).1, holder := none } := by
  have hi : (s.calls i).found? = some found := by rw [hcall]; rfl
  have hothers : ∀ k, k ≠ i → (s.calls k).found? = none := fun k hk =>
    h.nobodyElse (by rw [hi]; rfl) hk
  obtain ⟨hpast, hevents⟩ := h.taken i found hi
  have hitems := move_eq (s := s) (i := i) (c := .afterSettling due) Call.items?
    (by rw [hcall]; cases due <;> rfl)
  have hnone : (Call.afterSettling due).found? = none := by cases due <;> rfl
  refine ⟨fun k => ?_, fun _ => ⟨hpast, ?_⟩, fun k x hk => ?_, fun k items hk => ?_, fun k => ?_,
    h.nodup⟩
  · refine Iff.trans ?_ (held_move hothers (.afterSettling due) k).symm
    simp [hnone]
  · rw [hcall] at hevents
    exact (List.append_nil _).symm.trans hevents
  · exact nomatch hnone.symm.trans ((found_move hothers _ k x).1 hk).2
  · exact h.waiting k items (hitems k ▸ hk)
  · show k ∈ s.order ↔ _ ∧ ((s.move i _).calls k).items? = none
    rw [hitems k]
    exact h.ordered k

/-- **Every step keeps the line at the filter.** -/
theorem step (h : Line w₀ snapshots s) (hstep : Step s t) : Line w₀ snapshots t := by
  cases hstep with
  | scan j hcall hfree hread => exact h.scan j hcall hfree hread
  | skip j hcall hfree hread => exact h.skip j hcall hfree hread
  | convert j hcall => exact h.convert _ hcall
  | hold j hcall htake =>
      exact h.of_eq (move_eq Call.atFilter (by rw [hcall]; rfl)) rfl rfl rfl rfl
  | take j hcall htake =>
      refine h.of_eq (move_eq Call.atFilter (by rw [hcall]; rfl)) rfl rfl rfl ?_
      show Turn.events (s.book ++ [.closed s.desk.now]) = _
      simp
  | settle j hcall => exact h.settle j hcall
  | shipMetrics j hcall =>
      exact h.of_eq (move_eq Call.atFilter (by rw [hcall]; rfl)) rfl rfl rfl rfl
  | shipEvents j hcall =>
      exact h.of_eq (move_eq Call.atFilter (by rw [hcall]; rfl)) rfl rfl rfl rfl
  | mark hcall => exact h.of_eq (move_eq Call.atFilter (by rw [hcall]; rfl)) rfl rfl rfl rfl
  | close j hcall hlast =>
      refine h.of_eq (move_eq Call.atFilter ?_) rfl rfl rfl ?_
      · rw [hcall]; unfold Call.afterClosing; split <;> rfl
      · show Turn.events (s.book ++ [.closed s.desk.now]) = _
        simp
  | tick now => exact h.of_eq (fun _ => rfl) rfl rfl rfl rfl
  | relabel common => exact h.of_eq (fun _ => rfl) rfl rfl rfl rfl

end Line

/-! ## The last call -/

/-- The call behind all snapshots is the only last call, and nothing is converted once it has
handed out the buffer. -/
structure Last (n : Nat) (s : Crew σ) : Prop where
  only : ∀ k, s.calls k = .closing → k = n
  ended : s.calls n = .closing ∨
    (∀ k, k ≠ n → s.calls k = .returned) ∧ (s.calls n).isDelivering = true ∧
      s.converter.buffer = Buffer.empty ∧ ∃ ts now, s.book = ts ++ [.closed now]

namespace Last

variable {n : Nat} {s t : Crew σ}

theorem only_move (h : Last n s) {i : Nat} {c : Call} (hc : c ≠ .closing) (k : Nat)
    (hk : (s.move i c).calls k = .closing) : k = n := by
  by_cases hki : k = i
  · subst hki; exact absurd ((calls_move_self s k c).symm.trans hk) hc
  · exact h.only k (calls_move_of_ne s c hki ▸ hk)

/-- A call that moves before the last one has handed out the buffer. -/
theorem early (h : Last n s) {i : Nat} {c : Call} (hi : s.calls i ≠ .closing)
    (hbusy : (s.calls i).isDelivering = false) (hcalls : t.calls = (s.move i c).calls)
    (hc : c ≠ .closing) : Last n t where
  only k hk := h.only_move hc k (hcalls ▸ hk)
  ended := by
    rw [hcalls]
    rcases h.ended with hn | ⟨hreturned, hdelivering, -⟩
    · have hne : n ≠ i := fun hni => hi (hni ▸ hn)
      exact .inl ((calls_move_of_ne s c hne).trans hn)
    · by_cases hin : i = n
      · rw [← hin, hbusy] at hdelivering; exact nomatch hdelivering
      · rw [hreturned i hin] at hbusy; exact nomatch hbusy

/-- A call on its way to the sender moves on. -/
theorem sending (h : Last n s) {i : Nat} {c : Call} (hi : (s.calls i).isDelivering = true)
    (hlive : s.calls i ≠ .returned) (hcalls : t.calls = (s.move i c).calls)
    (hc : c.isDelivering = true) (hbuffer : t.converter.buffer = s.converter.buffer)
    (hbook : t.book = s.book) : Last n t where
  only k hk := h.only_move (by rintro rfl; exact nomatch hc) k (hcalls ▸ hk)
  ended := by
    rw [hcalls, hbuffer, hbook]
    rcases h.ended with hn | ⟨hreturned, hdelivering, hrest⟩
    · have hne : n ≠ i := by rintro rfl; rw [hn] at hi; exact nomatch hi
      exact .inl ((calls_move_of_ne s c hne).trans hn)
    · by_cases hin : i = n
      · subst hin
        refine .inr ⟨fun k hk => ?_, ?_, hrest⟩
        · rw [calls_move_of_ne s c hk]; exact hreturned k hk
        · rw [calls_move_self]; exact hc
      · exact absurd (hreturned i hin) hlive

theorem close (h : Last n s) {i : Nat} (j : Journal) (hcall : s.calls i = .closing)
    (hlast : ∀ k, k ≠ i → s.calls k = .returned) :
    Last n { s.move i (.afterClosing (Noting.perform (s.converter.take s.desk.now) j).1.1) with
      converter := (Noting.perform (s.converter.take s.desk.now) j).1.2,
      book := s.book ++ [.closed s.desk.now] } := by
  obtain rfl := h.only i hcall
  refine ⟨h.only_move ?_, .inr ⟨fun k hk => ?_, ?_, ?_, _, _, rfl⟩⟩
  · unfold Call.afterClosing; split <;> nofun
  · exact (calls_move_of_ne s _ hk).trans (hlast k hk)
  · show ((s.move i _).calls i).isDelivering = true
    rw [calls_move_self]
    unfold Call.afterClosing
    split <;> rfl
  · rw [Converter.take_value]

/-- **Every step keeps the last call last.** -/
theorem step (h : Last n s) (hstep : Step s t) : Last n t := by
  cases hstep with
  | scan j hcall => exact h.early (by rw [hcall]; nofun) (by rw [hcall]; rfl) rfl nofun
  | skip j hcall => exact h.early (by rw [hcall]; nofun) (by rw [hcall]; rfl) rfl nofun
  | convert j hcall => exact h.early (by rw [hcall]; nofun) (by rw [hcall]; rfl) rfl nofun
  | hold j hcall => exact h.early (by rw [hcall]; nofun) (by rw [hcall]; rfl) rfl nofun
  | take j hcall => exact h.early (by rw [hcall]; nofun) (by rw [hcall]; rfl) rfl nofun
  | @settle i found due j hcall =>
      exact h.early (by rw [hcall]; nofun) (by rw [hcall]; rfl) rfl (by cases due <;> nofun)
  | shipMetrics j hcall =>
      exact h.sending (by rw [hcall]; rfl) (by rw [hcall]; nofun) rfl rfl rfl rfl
  | shipEvents j hcall =>
      exact h.sending (by rw [hcall]; rfl) (by rw [hcall]; nofun) rfl rfl rfl rfl
  | mark hcall => exact h.sending (by rw [hcall]; rfl) (by rw [hcall]; nofun) rfl rfl rfl rfl
  | close j hcall hlast => exact h.close j hcall hlast
  | tick now => exact ⟨h.only, h.ended⟩
  | relabel common => exact ⟨h.only, h.ended⟩

end Last

/-! ## Whole runs -/

variable {registry : Registry σ} {start : Instant} {schedule : FlushSchedule} {w : Watermark}
variable {d : Desk} {snapshots : List (List (Except Fault Event))} {s : Crew σ}

theorem opening_calls (c : Converter σ) (w : Watermark) (d : Desk)
    (snapshots : List (List (Except Fault Event))) (k : Nat) :
    (∃ items, snapshots[k]? = some items ∧
        (opening c w d snapshots).calls k = .waiting items) ∨
      snapshots.length ≤ k ∧ (opening c w d snapshots).calls k =
        if k = snapshots.length then .closing else .returned := by
  simp only [opening]
  cases hget : snapshots[k]? with
  | some items => exact .inl ⟨items, rfl, rfl⟩
  | none => exact .inr ⟨List.getElem?_eq_none_iff.1 hget, rfl⟩

theorem flow_of_reachable (hfresh : d.outbox.sent = [])
    (h : Reachable (opening (Converter.new registry start schedule) w d snapshots) s) :
    ∃ flight, Flow (Conversion.new registry start) s flight := by
  induction h with
  | refl =>
      refine ⟨none, fun k b => ?_, absurd rfl, ?_, ?_⟩
      · rcases opening_calls (Converter.new registry start schedule) w d snapshots k with
          ⟨items, -, hk⟩ | ⟨-, hk⟩
        · rw [hk]; exact ⟨nofun, nofun⟩
        · rw [hk]; split <;> exact ⟨nofun, nofun⟩
      · show Converter.Keeps _ [] (Batch.load d.outbox.sent ++ Buffer.empty) _
        rw [hfresh]
        exact Converter.keeps_new registry start schedule
      · show ∀ x ∈ d.outbox.sent, _
        rw [hfresh]
        exact nofun
  | tail _ hstep ih => obtain ⟨flight, hflow⟩ := ih; exact hflow.step hstep

theorem line_of_reachable {c : Converter σ} (h : Reachable (opening c w d snapshots) s) :
    Line w snapshots s := by
  induction h with
  | refl =>
      refine ⟨fun k => ?_, fun _ => ⟨rfl, rfl⟩, fun k x => ?_, fun k items => ?_, fun k => ?_,
        List.Pairwise.nil⟩
      all_goals
        rcases opening_calls c w d snapshots k with ⟨items', hitems, hk⟩ | ⟨hlen, hk⟩ <;> rw [hk]
      · exact ⟨nofun, nofun⟩
      · split <;> exact ⟨nofun, nofun⟩
      · exact nofun
      · split <;> exact nofun
      · exact fun heq => hitems.trans heq
      · split <;> exact nofun
      · exact ⟨nofun, fun hnone => nomatch hnone.2⟩
      · exact ⟨nofun, fun hlt => absurd hlt.1 (Nat.not_lt.2 hlen)⟩
  | tail _ hstep ih => exact ih.step hstep

theorem last_of_reachable {c : Converter σ} (h : Reachable (opening c w d snapshots) s) :
    Last snapshots.length s := by
  induction h with
  | refl =>
      refine ⟨fun k hclosing => ?_, .inl ?_⟩
      · rcases opening_calls c w d snapshots k with ⟨items, -, hk⟩ | ⟨-, hk⟩
        · exact nomatch hk.symm.trans hclosing
        · by_cases hlast : k = snapshots.length
          · exact hlast
          · rw [hk, if_neg hlast] at hclosing; exact nomatch hclosing
      · rcases opening_calls c w d snapshots snapshots.length with ⟨items, hitems, -⟩ | ⟨-, hk⟩
        · simp at hitems
        · rw [hk, if_pos rfl]
  | tail _ hstep ih => exact ih.step hstep

/-- **Direct delivery sends every record once and in order.**  However the calls interleave and
whatever the sender answers, at most one call holds a flush that is not marked as sent; and when all
calls have returned, the batches sent hold exactly what the conversion made of the events that the
filter accepted, snapshot by snapshot in the order in which the calls took it, with the summaries
where a flush closed the window; no batch sent is empty. -/
theorem delivered_once (hfresh : d.outbox.sent = [])
    (h : Reachable (opening (Converter.new registry start schedule) w d snapshots) s) :
    (∀ i k, s.HoldsFlush i → s.HoldsFlush k → i = k) ∧
    (s.Done →
      s.order.Perm (List.range snapshots.length) ∧
      Turn.events s.book = w.acceptedFrom (s.harvested snapshots) ∧
      (∃ turns now, s.book = turns ++ [.closed now]) ∧
      s.desk.outbox.sent.flatMap Batch.metricRecords =
        ((Conversion.new registry start).production s.book).metrics ∧
      s.desk.outbox.sent.flatMap Batch.eventRecords =
        ((Conversion.new registry start).production s.book).events ∧
      ∀ x ∈ s.desk.outbox.sent, 0 < x.size) := by
  obtain ⟨flight, hflow⟩ := flow_of_reachable hfresh h
  have hline := line_of_reachable h
  have hlast := last_of_reachable h
  refine ⟨fun i k hi hk => ?_, fun hdone => ?_⟩
  · obtain ⟨b, hb⟩ := Option.isSome_iff_exists.1 hi
    obtain ⟨b', hb'⟩ := Option.isSome_iff_exists.1 hk
    have hsame := ((hflow.unsent i b).1 hb).symm.trans ((hflow.unsent k b').1 hb')
    exact congrArg Prod.fst (Option.some.inj hsame)
  · have hflight : flight = none := Option.eq_none_iff_forall_ne_some.2 fun f hf =>
      nomatch (congrArg Call.unsent? (hdone f.1)).symm.trans ((hflow.unsent f.1 f.2).2 hf)
    have hfree : s.holder = none := Option.eq_none_iff_forall_ne_some.2 fun k hk =>
      nomatch (congrArg (Option.isSome ∘ Call.found?) (hdone k)).symm.trans ((hline.held k).1 hk)
    obtain ⟨-, -, hempty, hclosed⟩ : _ ∧ _ ∧ s.converter.buffer = Buffer.empty ∧
        ∃ ts now, s.book = ts ++ [.closed now] :=
      hlast.ended.resolve_left (by rw [hdone]; nofun)
    have hload : Batch.load s.desk.outbox.sent = (Conversion.new registry start).production s.book := by
      rw [← hflow.keeps.records, hflight, hempty, airborne, Buffer.append_empty,
        Buffer.append_empty]
    refine ⟨?_, (hline.free hfree).2, hclosed, congrArg Buffer.metrics hload,
      congrArg Buffer.events hload, hflow.nonempty⟩
    refine (List.perm_ext_iff_of_nodup hline.nodup List.nodup_range).2 fun k => ?_
    rw [hline.ordered k, hdone k, List.mem_range]
    exact and_iff_left rfl

/-! ## Two calls that overlap -/

/-- Every event becomes a telemetry event of its type. -/
def echoing : Registry Aggregate where
  metrics := []
  events := [⟨fun _ => .ok true, fun e => .ok [⟨e.eventType, e.start, Attributes.empty⟩]⟩]
  summarizers := []

/-- A flush is due as soon as anything is buffered. -/
def eager : FlushSchedule := ⟨Span.ofSecs 60, 0, Instant.epoch⟩

/-- A desk whose transport refuses the first batch. -/
def reluctant : Desk where
  now := ⟨20, 0⟩
  common := Attributes.empty
  outbox :=
    { transport := fun n _ =>
        pure (if n = 0 then .error (.sendFailed "refused") else .ok ())
      delay := .zero
      sent := [] }

/-- Two snapshots that share an event. -/
def sharing : List (List (Except Fault Event)) :=
  [[.ok (Event.new "first" ⟨10, 0⟩)],
    [.ok (Event.new "first" ⟨10, 0⟩), .ok (Event.new "second" ⟨11, 0⟩)]]

/-- The second call harvests while the first one sends. -/
theorem sharing_run :
    ∃ s, Reachable (opening (Converter.new echoing Instant.epoch eager) Watermark.initial reluctant
        sharing) s ∧ s.Done ∧ ∃ t u, s.book =
      [.converted (Event.new "first" ⟨10, 0⟩), .closed t,
        .converted (Event.new "second" ⟨11, 0⟩), .closed u] := by
  let j := Journal.empty
  have ready : Reachable (opening (Converter.new echoing Instant.epoch eager) Watermark.initial
    reluctant sharing) _ := .refl
  have harvestFirst := ((((ready.tail (.scan (i := 0) j rfl rfl rfl)).tail
    (.convert (i := 0) j rfl)).tail (.take (i := 0) j rfl rfl)).tail (.settle (i := 0) j rfl))
  have harvestSecond := ((((harvestFirst.tail (.scan (i := 1) j rfl rfl rfl)).tail
    (.convert (i := 1) j rfl)).tail (.hold (i := 1) j rfl rfl)).tail (.settle (i := 1) j rfl))
  have shipFirst := ((harvestSecond.tail (.shipMetrics (i := 0) j rfl)).tail
    (.shipEvents (i := 0) j rfl)).tail (.mark (i := 0) rfl)
  have close := shipFirst.tail (.close (i := 2) j rfl (by
    intro k hk
    match k with
    | 0 | 1 => rfl
    | 2 => exact absurd rfl hk
    | _ + 3 => rfl))
  have shipLast := ((close.tail (.shipMetrics (i := 2) j rfl)).tail
    (.shipEvents (i := 2) j rfl)).tail (.mark (i := 2) rfl)
  refine ⟨_, shipLast, ?_, _, _, rfl⟩
  intro k
  match k with
  | 0 | 1 | 2 => rfl
  | _ + 3 => rfl

/-- Both events leave, the second one with the last call, though the first batch is refused. -/
theorem delivered_once_sharing :
    ∃ s, Reachable (opening (Converter.new echoing Instant.epoch eager) Watermark.initial reluctant
        sharing) s ∧ s.Done ∧
      (s.desk.outbox.sent.flatMap Batch.eventRecords).map (·.eventType) = ["first", "second"] := by
  obtain ⟨s, hrun, hdone, t, u, hbook⟩ := sharing_run
  obtain ⟨-, hdelivered⟩ := delivered_once rfl hrun
  obtain ⟨-, -, -, -, hsent, -⟩ := hdelivered hdone
  refine ⟨s, hrun, hdone, ?_⟩
  rw [hsent, hbook]
  rfl

end Crew
end RecordingHarvest
