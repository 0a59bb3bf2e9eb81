import RecordingHarvest.Proofs.Effects

/-!
# Computations that only write

What a computation gives, and what it adds to the journal, does not depend on what the journal
holds.  `Noting.Writes` and `Sending.Writes` say so, together with which entries may be added: two
runs that begin alike but with different journals then stay alike, and a counter that may not be
counted stays as it is.

* `Noting.Writes.bind`, `Sending.Writes.bind`: one computation after the other.
* `Journal.increments_addAll_of_forall`: entries that do not count a counter leave it as it is.
-/

namespace RecordingHarvest

variable {α β : Type}

/-! ## Adding entries -/

namespace Journal

/-- The increments of a counter with one more entry. -/
theorem increments_add (j : Journal) (e : Entry) (c : Counter) :
    (j.add e).increments c = j.increments c ++
      match e with
      | .count d n => if d = c then [n] else []
      | .line .. => [] := by
  simp only [increments, entries_add, List.filterMap_append, List.filterMap_cons,
    List.filterMap_nil]
  congr 1
  cases e with
  | line level text => rfl
  | count d n => by_cases h : d = c <;> simp [h]

/-- The total of a counter with one more entry. -/
theorem total_add (j : Journal) (e : Entry) (c : Counter) :
    (j.add e).total c = j.total c +
      match e with
      | .count d n => if d = c then n else 0
      | .line .. => 0 := by
  have hsum : ∀ (ns : List Nat) (n : Nat),
      (ns ++ [n]).foldr (· + ·) 0 = ns.foldr (· + ·) 0 + n := by
    intro ns n
    induction ns with
    | nil => simp
    | cons m rest ih => simp only [List.cons_append, List.foldr_cons, ih]; omega
  rw [total, increments_add, total]
  cases e with
  | line level text => simp
  | count d n =>
      by_cases h : d = c
      · simp only [h, if_true]
        exact hsum _ n
      · simp [h]

/-- Adds entries, one after the other. -/
def addAll (j : Journal) (es : List Entry) : Journal := es.foldl add j

theorem addAll_append (j : Journal) (es fs : List Entry) :
    j.addAll (es ++ fs) = (j.addAll es).addAll fs := List.foldl_append

theorem entries_addAll (j : Journal) (es : List Entry) :
    (j.addAll es).entries = j.entries ++ es := by
  induction es generalizing j with
  | nil => exact (List.append_nil _).symm
  | cons e rest ih =>
      rw [addAll, List.foldl_cons, ← addAll, ih, entries_add, List.append_assoc]
      rfl

/-- What entries add to a counter is the same on every journal. -/
theorem increments_addAll (j : Journal) (es : List Entry) (c : Counter) :
    (j.addAll es).increments c = j.increments c ++ (empty.addAll es).increments c := by
  rw [increments, entries_addAll, List.filterMap_append, ← increments]
  congr 1
  rw [increments, entries_addAll]
  rfl

/-- Entries that do not count a counter add nothing to it. -/
theorem increments_addAll_of_forall {es : List Entry} {c : Counter}
    (h : ∀ e ∈ es, ∀ n, e ≠ .count c n) (j : Journal) :
    (j.addAll es).increments c = j.increments c := by
  have hnone : (empty.addAll es).increments c = [] := by
    rw [increments, entries_addAll]
    refine List.filterMap_eq_nil_iff.2 fun e he => ?_
    cases e with
    | line level text => rfl
    | count d n =>
        have hne : d ≠ c := fun heq => h _ he n (by rw [heq])
        simp [hne]
  rw [increments_addAll, hnone, List.append_nil]

end Journal

/-- Whether an entry is a log line. -/
def Entry.isLine : Entry → Bool
  | .line .. => true
  | .count .. => false

/-- Log lines add to no counter. -/
theorem Journal.increments_addAll_of_lines {es : List Entry} (h : ∀ e ∈ es, e.isLine = true)
    (j : Journal) (c : Counter) : (j.addAll es).increments c = j.increments c := by
  refine increments_addAll_of_forall (fun e he n heq => ?_) j
  rw [heq] at he
  exact nomatch h _ he

/-! ## Writing to the journal -/

/-- The same is given and written whatever the journal holds, and only these entries are. -/
def Noting.Writes (may : Entry → Prop) (x : Noting α) : Prop :=
  ∃ a es, (∀ e ∈ es, may e) ∧ ∀ j, Noting.perform x j = (a, j.addAll es)

namespace Noting

variable {may : Entry → Prop}

theorem writes_pure (a : α) : Writes may (pure a) := ⟨a, [], nofun, fun _ => rfl⟩

theorem writes_note {level : Level} {text : String} (h : may (.line level text)) :
    Writes may (note level text) :=
  ⟨(), [.line level text], fun _ he => List.mem_singleton.1 he ▸ h, fun _ => rfl⟩

theorem writes_count {c : Counter} {n : Nat} (h : may (.count c n)) : Writes may (count c n) :=
  ⟨(), [.count c n], fun _ he => List.mem_singleton.1 he ▸ h, fun _ => rfl⟩

/-- One computation after the other. -/
theorem Writes.bind {x : Noting α} {f : α → Noting β} (hx : Writes may x)
    (hf : ∀ a, Writes may (f a)) : Writes may (x >>= f) := by
  obtain ⟨a, es, hes, hperform⟩ := hx
  obtain ⟨b, fs, hfs, hperform'⟩ := hf a
  refine ⟨b, es ++ fs, fun e he => (List.mem_append.1 he).elim (hes e) (hfs e), fun j => ?_⟩
  rw [perform_bind, hperform, hperform', Journal.addAll_append]

end Noting

/-! ## Sending -/

/-- A way out that only writes these entries when it is handed a batch. -/
def Outbox.Writes (may : Entry → Prop) (o : Outbox) : Prop :=
  ∀ n b, Noting.Writes may (o.transport n b)

/-- With a way out that only writes, a computation does too: what it gives, where it leaves the
desk and what it writes are the same whatever the journal holds. -/
def Sending.Writes (may : Entry → Prop) (x : Sending α) : Prop :=
  ∀ d, d.outbox.Writes may → ∃ a d' es, (∀ e ∈ es, may e) ∧ d'.outbox.Writes may ∧
    ∀ j, Sending.perform x d j = (a, d', j.addAll es)

namespace Sending

variable {may : Entry → Prop}

theorem writes_pure (a : α) : Writes may (pure a) := fun d hd => ⟨a, d, [], nofun, hd, fun _ => rfl⟩

/-- One computation after the other. -/
theorem Writes.bind {x : Sending α} {f : α → Sending β} (hx : Writes may x)
    (hf : ∀ a, Writes may (f a)) : Writes may (x >>= f) := by
  intro d hd
  obtain ⟨a, d', es, hes, hd', hperform⟩ := hx d hd
  obtain ⟨b, d'', fs, hfs, hd'', hperform'⟩ := hf a d' hd'
  refine ⟨b, d'', es ++ fs, fun e he => (List.mem_append.1 he).elim (hes e) (hfs e), hd'',
    fun j => ?_⟩
  rw [perform_bind, hperform, hperform', Journal.addAll_append]

theorem writes_lift {x : Noting α} (hx : Noting.Writes may x) :
    Writes may (liftM x : Sending α) := by
  intro d hd
  obtain ⟨a, es, hes, hperform⟩ := hx
  exact ⟨a, d, es, hes, hd, fun j => by rw [perform_lift, hperform]⟩

theorem writes_get : Writes may (get : Sending Desk) :=
  fun d hd => ⟨d, d, [], nofun, hd, fun _ => rfl⟩

/-- Handing a batch over writes what the way out writes. -/
theorem writes_handOver (b : Batch) : Writes may (Desk.handOver b) := by
  intro d hd
  obtain ⟨r, es, hes, hperform⟩ := hd d.outbox.sent.length b
  refine ⟨r, { d with
    now := d.now.advance d.outbox.delay, outbox := { d.outbox with sent := d.outbox.sent ++ [b] } },
    es, hes, hd, fun j => ?_⟩
  simp only [Desk.handOver, perform_bind, perform_get, perform_lift, perform_set, perform_pure,
    hperform]

end Sending
end RecordingHarvest
