import RecordingHarvest.BuiltinCapability
import RecordingHarvest.Proofs.Conversion.Yield

/-!
# What the windows count

A summarizer counts the events it accepts in its open window, and the window's count leaves with the
records it emits when the window closes.  Nothing else changes a count, so over any turns
what was counted at first and what was accepted since is what has left and what is still open
(`countAll_summariesOf`).

* `registry_turns`: no turn changes a capability.
* `production_events`, `production_filter`: the records that are not summaries are those of the events
  that were converted, in their order.
* `production_filter_marks`: the records of one summarizer are what it emits, window by window.
* `Summarizer.default_faithful`: the shipped summarizers count what they accept.
-/

namespace RecordingHarvest

/-! ## Counts of records -/

namespace Metric

/-- How many values a record sums up. -/
def counts : Metric → Nat
  | gauge .. => 0
  | summary _ values .. => values.count

/-- How many values some records sum up together. -/
def countAll : List Metric → Nat
  | [] => 0
  | m :: rest => m.counts + countAll rest

theorem countAll_append (ms ns : List Metric) :
    countAll (ms ++ ns) = countAll ms + countAll ns := by
  induction ms with
  | nil => exact (Nat.zero_add _).symm
  | cons m rest ih => rw [List.cons_append, countAll, countAll, ih, Nat.add_assoc]

end Metric

/-! ## Summarizers -/

variable {σ : Type}

namespace Summarizer

/-- A reading of a summarizer's state as the number of events it has accepted since it last emitted:
none at first, one more with each event that it accepts, no more with one that it fails on.  It
always emits, and what it emits counts these events. -/
structure Counts (s : Summarizer σ) (counted : σ → Nat) : Prop where
  initial : counted s.initial = 0
  accept : ∀ window e, counted (s.accept window e).2 =
    counted window + (s.accept window e).1.result.isOk.toNat
  emit : ∀ window start finish, ∃ ms,
    (s.emit window start finish).1.result = .ok ms ∧ Metric.countAll ms = counted window
  restart : ∀ window start finish, counted (s.emit window start finish).2 = 0

/-- A summarizer that keeps count of the events it accepts. -/
def Faithful (s : Summarizer σ) : Prop := ∃ counted, s.Counts counted

theorem ofValues_counts (eventType metric : String) (value : Event → Except Fault Float) :
    (ofValues eventType metric value).Counts Aggregate.count where
  initial := rfl
  accept window e := by
    simp only [ofValues]
    cases value e <;> rfl
  emit window start finish := ⟨_, rfl, Nat.add_zero _⟩
  restart _ _ _ := rfl

theorem default_faithful : ∀ s ∈ Registry.default.summarizers, s.Faithful := by
  intro s hs
  simp only [Registry.default, List.mem_cons, List.not_mem_nil, or_false] at hs
  rcases hs with rfl | rfl | rfl | rfl <;> exact ⟨_, ofValues_counts ..⟩

/-- No record that a summarizer emits passes a test. -/
def Shuns (mark : Metric → Bool) (s : Summarizer σ) : Prop :=
  ∀ window start finish ms, (s.emit window start finish).1.result = .ok ms →
    ∀ m ∈ ms, mark m = false

/-- All records that a summarizer emits pass a test. -/
def Bears (mark : Metric → Bool) (s : Summarizer σ) : Prop :=
  ∀ window start finish ms, (s.emit window start finish).1.result = .ok ms →
    ∀ m ∈ ms, mark m = true

end Summarizer

namespace Registry

/-- The `k`-th summarizer, if there is one, counts what it accepts so. -/
def Counts (r : Registry σ) (k : Nat) (counted : σ → Nat) : Prop :=
  ∀ s, r.summarizers[k]? = some s → s.Counts counted

theorem exists_counts {r : Registry σ} (h : ∀ s ∈ r.summarizers, s.Faithful) (k : Nat) :
    ∃ counted, r.Counts k counted := by
  cases hk : r.summarizers[k]? with
  | none =>
      refine ⟨fun _ => 0, fun s hs => ?_⟩
      rw [hk] at hs
      exact nomatch hs
  | some s =>
      obtain ⟨counted, hcounts⟩ := h s (List.mem_of_getElem? hk)
      refine ⟨counted, fun s' hs' => ?_⟩
      rw [hk] at hs'
      exact Option.some.inj hs' ▸ hcounts

end Registry

/-- A test that tells the records of the `k`-th summarizer from those of all other capabilities. -/
structure Registry.Marks (r : Registry σ) (mark : Metric → Bool) (k : Nat) : Prop where
  mappers : ∀ m ∈ r.metrics, ∀ e ms, (m.apply e).result = .ok ms → ∀ x ∈ ms, mark x = false
  own : ∀ s, r.summarizers[k]? = some s → s.Bears mark
  others : ∀ i s, i ≠ k → r.summarizers[i]? = some s → s.Shuns mark

namespace Conversion

/-! ## Capabilities never change -/

/-- The capabilities of a conversion. -/
def registry (c : Conversion σ) : Registry σ := ⟨c.metrics, c.events, c.windows.map (·.1)⟩

theorem registry_new (r : Registry σ) (now : Instant) : (new r now).registry = r := by
  rw [registry, new, List.map_map]
  exact congrArg (Registry.mk r.metrics r.events) (List.map_id _)

theorem summarizers_acceptAll (e : Event) (windows : List (Summarizer σ × σ)) :
    (acceptAll e windows).1.map (·.1) = windows.map (·.1) := by
  induction windows with
  | nil => rfl
  | cons z rest ih =>
      obtain ⟨s, window⟩ := z
      unfold acceptAll
      cases (s.handles window e).result with
      | error f => rfl
      | ok handled =>
          cases handled with
          | false => exact congrArg (s :: ·) ih
          | true =>
              simp only
              cases (s.accept window e).1.result with
              | error f => rfl
              | ok _ => exact congrArg (s :: ·) ih

theorem summarizers_reopened (start finish : Instant) (windows : List (Summarizer σ × σ)) :
    (reopened start finish windows).map (·.1) = windows.map (·.1) := by
  rw [reopened, List.map_map]
  rfl

/-- The windows after an event: changed only if no mapper failed on it. -/
theorem windows_after (c : Conversion σ) (e : Event) :
    (c.after e).windows =
      if (applyAll e c.metrics).2.isNone && (applyAll e c.events).2.isNone then
        (acceptAll e c.windows).1
      else c.windows := by
  simp only [after, convert, counted]
  cases (applyAll e c.metrics).2 with
  | some f => rfl
  | none => cases (applyAll e c.events).2 <;> rfl

theorem registry_turn (c : Conversion σ) (t : Turn) : (c.turn t).registry = c.registry := by
  cases t with
  | converted e =>
      obtain ⟨hmetrics, hevents⟩ := c.after_mappers e
      have hsummarizers : (c.after e).windows.map (·.1) = c.windows.map (·.1) := by
        rw [windows_after]
        split
        · exact summarizers_acceptAll e c.windows
        · rfl
      simp only [turn, registry, hmetrics, hevents, hsummarizers]
  | closed now =>
      simp only [turn, closed, registry, summarizers_reopened]

/-- **No turn changes a capability.** -/
theorem registry_turns (c : Conversion σ) (ts : List Turn) :
    (c.turns ts).registry = c.registry := by
  induction ts generalizing c with
  | nil => rfl
  | cons t rest ih => exact (ih (c.turn t)).trans (c.registry_turn t)

/-- What an event yields is up to the mappers alone. -/
theorem yield_congr {c c' : Conversion σ} (h : c.registry = c'.registry) (e : Event) :
    c.yield e = c'.yield e := by
  obtain ⟨hmetrics, hevents, -⟩ := Registry.mk.inj h
  simp only [yield, convert, hmetrics, hevents]
  cases (applyAll e c'.metrics).2 with
  | some f => rfl
  | none => cases (applyAll e c'.events).2 <;> rfl

/-! ## Records that are not summaries -/

/-- The telemetry events produced are those of the events, in their order. -/
theorem production_events (c : Conversion σ) (ts : List Turn) :
    (c.production ts).events = (Turn.events ts).flatMap fun e => (c.yield e).events := by
  induction ts generalizing c with
  | nil => rfl
  | cons t rest ih =>
      have hyield : (fun e => ((c.turn t).yield e).events) = fun e => (c.yield e).events :=
        funext fun e => congrArg Buffer.events (yield_congr (c.registry_turn t) e)
      rw [production, Buffer.events_append, ih, hyield]
      cases t <;> rfl

theorem exists_of_mem_given {r : Except Fault (List Metric)} {m : Metric}
    (h : m ∈ r.toOption.getD []) : ∃ ms, r = .ok ms ∧ m ∈ ms := by
  cases r with
  | error f => exact absurd h List.not_mem_nil
  | ok ms => exact ⟨ms, rfl, h⟩

theorem filter_emitted_of_shuns {mark : Metric → Bool} {windows : List (Summarizer σ × σ)}
    (h : ∀ z ∈ windows, z.1.Shuns mark) (start finish : Instant) :
    (emitted start finish windows).filter mark = [] := by
  refine List.filter_eq_nil_iff.2 ?_
  intro m hm
  obtain ⟨⟨s, window⟩, hz, hgiven⟩ := List.mem_flatMap.1 hm
  obtain ⟨ms, hemit, hmem⟩ := exists_of_mem_given hgiven
  simp [h _ hz window start finish ms hemit m hmem]

/-- What passes a test that no summary passes is what the events yield and passes it. -/
theorem production_filter {c : Conversion σ} {mark : Metric → Bool}
    (h : ∀ s ∈ c.registry.summarizers, s.Shuns mark) (ts : List Turn) :
    (c.production ts).metrics.filter mark =
      (Turn.events ts).flatMap fun e => (c.yield e).metrics.filter mark := by
  induction ts generalizing c with
  | nil => rfl
  | cons t rest ih =>
      have hyield : (fun e => ((c.turn t).yield e).metrics.filter mark) =
          fun e => (c.yield e).metrics.filter mark :=
        funext fun e => by rw [yield_congr (c.registry_turn t) e]
      rw [production, Buffer.metrics_append, List.filter_append,
        ih (by rw [registry_turn]; exact h), hyield]
      cases t with
      | converted e => rfl
      | closed now =>
          have hwindows : ∀ z ∈ c.windows, z.1.Shuns mark :=
            fun z hz => h z.1 (List.mem_map_of_mem hz)
          show (emitted c.windowStart now c.windows).filter mark ++ _ = _
          rw [filter_emitted_of_shuns hwindows]
          rfl

/-! ## Open counts -/

/-- What the `k`-th of some windows counts, as its state is read. -/
def openCount (counted : σ → Nat) (windows : List (Summarizer σ × σ)) (k : Nat) : Nat :=
  ((windows[k]?).map fun z => counted z.2).getD 0

/-- Whether the `k`-th of some windows takes an event in. -/
def takesIn (e : Event) : List (Summarizer σ × σ) → Nat → Bool
  | [], _ => false
  | (s, window) :: rest, k =>
    match (s.handles window e).result, k with
    | .error _, _ => false
    | .ok false, 0 => false
    | .ok false, k + 1 => takesIn e rest k
    | .ok true, k =>
      match (s.accept window e).1.result, k with
      | .error _, _ => false
      | .ok _, 0 => true
      | .ok _, k + 1 => takesIn e rest k

variable {counted : σ → Nat} {k : Nat}

theorem openCount_acceptAll {windows : List (Summarizer σ × σ)}
    (h : ∀ z, windows[k]? = some z → z.1.Counts counted) (e : Event) :
    openCount counted (acceptAll e windows).1 k =
      openCount counted windows k + (takesIn e windows k).toNat := by
  induction windows generalizing k with
  | nil => rfl
  | cons z rest ih =>
      obtain ⟨s, window⟩ := z
      unfold acceptAll takesIn
      cases (s.handles window e).result with
      | error f => rfl
      | ok handled =>
          cases handled with
          | false =>
              cases k with
              | zero => rfl
              | succ k => exact ih h
          | true =>
              have hcounted : k = 0 → counted (s.accept window e).2 =
                  counted window + (s.accept window e).1.result.isOk.toNat := by
                rintro rfl
                exact (h _ rfl).accept window e
              simp only
              cases haccept : (s.accept window e).1.result with
              | error f =>
                  rw [haccept] at hcounted
                  cases k with
                  | zero => exact hcounted rfl
                  | succ k => rfl
              | ok _ =>
                  rw [haccept] at hcounted
                  cases k with
                  | zero => exact hcounted rfl
                  | succ k => exact ih h

/-- Whether a conversion's `k`-th summarizer accepts an event: no mapper fails on it, and neither
does a summarizer before. -/
def accepts (c : Conversion σ) (e : Event) (k : Nat) : Bool :=
  (applyAll e c.metrics).2.isNone && (applyAll e c.events).2.isNone && takesIn e c.windows k

theorem counts_window {c : Conversion σ} (h : c.registry.Counts k counted) (z : Summarizer σ × σ)
    (hz : c.windows[k]? = some z) : z.1.Counts counted :=
  h z.1 (by rw [registry, List.getElem?_map, hz]; rfl)

theorem openCount_after {c : Conversion σ} (h : c.registry.Counts k counted) (e : Event) :
    openCount counted (c.after e).windows k =
      openCount counted c.windows k + (c.accepts e k).toNat := by
  rw [windows_after, accepts]
  split
  · rename_i hmapped
    rw [hmapped, openCount_acceptAll (counts_window h), Bool.true_and]
  · rename_i hfailed
    simp [hfailed]

/-- Closing empties every window. -/
theorem openCount_closed {c : Conversion σ} (h : c.registry.Counts k counted) (now : Instant) :
    openCount counted (c.closed now).windows k = 0 := by
  rw [openCount, closed, reopened, List.getElem?_map]
  cases hget : c.windows[k]? with
  | none => rfl
  | some z => exact (counts_window h z hget).restart z.2 c.windowStart now

/-- Right after its construction no window counts anything. -/
theorem openCount_new {r : Registry σ} (h : r.Counts k counted) (now : Instant) :
    openCount counted (new r now).windows k = 0 := by
  rw [openCount, new, List.getElem?_map]
  cases hget : r.summarizers[k]? with
  | none => rfl
  | some s => exact (h s hget).initial

/-! ## The records of one summarizer -/

/-- What the `k`-th summarizer emits for its window. -/
def emittedBy (start finish : Instant) (windows : List (Summarizer σ × σ)) (k : Nat) :
    List Metric :=
  ((windows[k]?).map fun (s, window) =>
    (s.emit window start finish).1.result.toOption.getD []).getD []

/-- The records of a summarizer that keeps count are what its window counted. -/
theorem countAll_emittedBy {windows : List (Summarizer σ × σ)}
    (h : ∀ z, windows[k]? = some z → z.1.Counts counted) (start finish : Instant) :
    Metric.countAll (emittedBy start finish windows k) = openCount counted windows k := by
  rw [emittedBy, openCount]
  cases hget : windows[k]? with
  | none => rfl
  | some z =>
      obtain ⟨ms, hemit, hcount⟩ := (h z hget).emit z.2 start finish
      simp [hemit, Except.toOption, hcount]

/-- A test that tells the `k`-th summarizer from the others picks its records. -/
theorem filter_emitted {mark : Metric → Bool} {windows : List (Summarizer σ × σ)} {k : Nat}
    (hown : ∀ z, windows[k]? = some z → z.1.Bears mark)
    (hothers : ∀ i z, i ≠ k → windows[i]? = some z → z.1.Shuns mark) (start finish : Instant) :
    (emitted start finish windows).filter mark = emittedBy start finish windows k := by
  induction windows generalizing k with
  | nil => rfl
  | cons z rest ih =>
      obtain ⟨s, window⟩ := z
      have hsplit : emitted start finish ((s, window) :: rest) =
          (s.emit window start finish).1.result.toOption.getD [] ++ emitted start finish rest := rfl
      rw [hsplit, List.filter_append]
      cases k with
      | zero =>
          have hself : ((s.emit window start finish).1.result.toOption.getD []).filter mark =
              (s.emit window start finish).1.result.toOption.getD [] := by
            refine List.filter_eq_self.2 ?_
            intro m hm
            obtain ⟨ms, hemit, hmem⟩ := exists_of_mem_given hm
            exact hown _ rfl window start finish ms hemit m hmem
          have hshuns : ∀ z ∈ rest, z.1.Shuns mark := by
            intro z hz
            obtain ⟨i, hi⟩ := List.mem_iff_getElem?.1 hz
            exact hothers (i + 1) z (Nat.succ_ne_zero i) hi
          rw [hself, filter_emitted_of_shuns hshuns, List.append_nil]
          rfl
      | succ k =>
          have hshuns : ∀ z ∈ [(s, window)], z.1.Shuns mark := by
            intro z hz
            obtain rfl := List.mem_singleton.1 hz
            exact hothers 0 _ (Nat.succ_ne_zero k).symm rfl
          have hnone :
              ((s.emit window start finish).1.result.toOption.getD []).filter mark = [] := by
            have hfilter := filter_emitted_of_shuns hshuns start finish
            rwa [emitted, List.flatMap_singleton] at hfilter
          rw [hnone, ih (fun z hz => hown z hz)
            (fun i z hne hz => hothers (i + 1) z (fun heq => hne (Nat.succ.inj heq)) hz)]
          rfl

theorem mem_applyAll {α : Type} {e : Event} {mappers : List (Mapper α)} {x : α}
    (h : x ∈ (applyAll e mappers).1) :
    ∃ m ∈ mappers, ∃ records, (m.apply e).result = .ok records ∧ x ∈ records := by
  induction mappers with
  | nil => exact absurd h List.not_mem_nil
  | cons m rest ih =>
      unfold applyAll at h
      cases hhandles : (m.handles e).result with
      | error f => simp [hhandles] at h
      | ok handled =>
          cases handled with
          | false =>
              obtain ⟨m', hm', hx⟩ := ih (by simpa [hhandles] using h)
              exact ⟨m', List.mem_cons_of_mem _ hm', hx⟩
          | true =>
              cases happly : (m.apply e).result with
              | error f => simp [hhandles, happly] at h
              | ok records =>
                  have hmem : x ∈ records ∨ x ∈ (applyAll e rest).1 := by
                    simpa [hhandles, happly] using h
                  rcases hmem with hx | hx
                  · exact ⟨m, List.mem_cons_self .., records, happly, hx⟩
                  · obtain ⟨m', hm', hx'⟩ := ih hx
                    exact ⟨m', List.mem_cons_of_mem _ hm', hx'⟩

/-- The metrics of an event come from the metric mappers. -/
theorem yield_metrics (c : Conversion σ) (e : Event) :
    (c.yield e).metrics = (applyAll e c.metrics).1 := by
  simp only [yield, convert]
  cases (applyAll e c.metrics).2 with
  | some f => rfl
  | none => cases (applyAll e c.events).2 <;> rfl

theorem filter_yield {c : Conversion σ} {mark : Metric → Bool} {k : Nat}
    (h : c.registry.Marks mark k) (e : Event) : (c.yield e).metrics.filter mark = [] := by
  refine List.filter_eq_nil_iff.2 ?_
  intro x hx
  rw [yield_metrics] at hx
  obtain ⟨m, hm, records, happly, hmem⟩ := mem_applyAll hx
  simp [h.mappers m hm e records happly x hmem]

/-- What the `k`-th summarizer emits over some turns. -/
def summariesOf (c : Conversion σ) : List Turn → Nat → List Metric
  | [], _ => []
  | .converted e :: rest, k => (c.after e).summariesOf rest k
  | .closed now :: rest, k =>
    emittedBy c.windowStart now c.windows k ++ (c.closed now).summariesOf rest k

/-- **A test that tells a summarizer from all other capabilities picks its records.** -/
theorem production_filter_marks {c : Conversion σ} {mark : Metric → Bool} {k : Nat}
    (h : c.registry.Marks mark k) (ts : List Turn) :
    (c.production ts).metrics.filter mark = c.summariesOf ts k := by
  induction ts generalizing c with
  | nil => rfl
  | cons t rest ih =>
      have hrest := ih (c := c.turn t) (by rw [registry_turn]; exact h)
      rw [production, Buffer.metrics_append, List.filter_append, hrest]
      cases t with
      | converted e =>
          show (c.yield e).metrics.filter mark ++ _ = _
          rw [filter_yield h]
          rfl
      | closed now =>
          have hown : ∀ z, c.windows[k]? = some z → z.1.Bears mark := by
            intro z hz
            exact h.own z.1 (by rw [registry, List.getElem?_map, hz]; rfl)
          have hothers : ∀ i z, i ≠ k → c.windows[i]? = some z → z.1.Shuns mark := by
            intro i z hne hz
            exact h.others i z.1 hne (by rw [registry, List.getElem?_map, hz]; rfl)
          show (emitted c.windowStart now c.windows).filter mark ++ _ = _
          rw [filter_emitted hown hothers]
          rfl

/-! ## Counts over turns -/

/-- How many events the `k`-th summarizer accepts over some turns. -/
def accepted (c : Conversion σ) : List Turn → Nat → Nat
  | [], _ => 0
  | .converted e :: rest, k => (c.accepts e k).toNat + (c.after e).accepted rest k
  | .closed now :: rest, k => (c.closed now).accepted rest k

theorem accepted_append (c : Conversion σ) (ts us : List Turn) (k : Nat) :
    c.accepted (ts ++ us) k = c.accepted ts k + (c.turns ts).accepted us k := by
  induction ts generalizing c with
  | nil => exact (Nat.zero_add _).symm
  | cons t rest ih =>
      cases t with
      | converted e =>
          rw [List.cons_append, accepted, accepted, ih, Nat.add_assoc]
          rfl
      | closed now =>
          rw [List.cons_append, accepted, accepted, ih]
          rfl

/-- **Counts are conserved**: what a summarizer counted at first and has accepted since is what its
records counted and what its window still counts. -/
theorem countAll_summariesOf {c : Conversion σ} (h : c.registry.Counts k counted) (ts : List Turn) :
    Metric.countAll (c.summariesOf ts k) + openCount counted (c.turns ts).windows k =
      openCount counted c.windows k + c.accepted ts k := by
  induction ts generalizing c with
  | nil => exact Nat.add_comm 0 _
  | cons t rest ih =>
      have hrest := ih (c := c.turn t) (by rw [registry_turn]; exact h)
      have hturns : (c.turns (t :: rest)).windows = ((c.turn t).turns rest).windows := rfl
      rw [hturns]
      cases t with
      | converted e =>
          have hcount := openCount_after h e
          simp only [turn, summariesOf, accepted] at hrest ⊢
          omega
      | closed now =>
          have hemitted := countAll_emittedBy (counts_window h) c.windowStart now
          have hclosed := openCount_closed h now
          simp only [turn, summariesOf, accepted, Metric.countAll_append] at hrest ⊢
          omega

end Conversion
end RecordingHarvest
