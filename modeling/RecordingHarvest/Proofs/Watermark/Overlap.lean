import Mathlib.Data.List.Chain
import RecordingHarvest.Proofs.Watermark.Run

/-!
# Overlapping snapshots

A recording's log is a list of events with increasing starts, and a snapshot that can be read shows
a stretch of it.  Successive stretches overlap or at least touch, and neither end moves back; any
number of snapshots that cannot be read may lie between them.

* `Stands`: the one remembered instant marks a position in the log, for every event from the start
  of the newest stretch on.
* `stands_past`: reading one more stretch moves that position to the end of the stretch.
* `accepted_overlapping`: a whole run forwards the log from the first start to the last end, each
  event once and in order.
-/

namespace RecordingHarvest
namespace Watermark

/-- What one call reads of a log: a stretch of it to its end, or anything with a fault in it. -/
inductive Reading where
  | stretch (first count : Nat)
  | broken (before : List Event) (f : Fault) (after : List (Except Fault Event))

/-- The events of a log from one position to before another. -/
def stretchOf (log : List Event) (first last : Nat) : List Event := (log.take last).drop first

namespace Reading

/-- What the reader yields. -/
def items (log : List Event) : Reading → List (Except Fault Event)
  | stretch first count => (stretchOf log first (first + count)).map .ok
  | broken before f after => before.map .ok ++ .error f :: after

/-- Where a stretch that was read to its end begins and ends. -/
def ends? : Reading → Option (Nat × Nat)
  | stretch first count => some (first, first + count)
  | broken .. => none

end Reading

/-- The stretches among some readings, in their order. -/
def stretches (readings : List Reading) : List (Nat × Nat) := readings.filterMap Reading.ends?

/-- A stretch follows another: neither end moves back, and no gap is left between the two. -/
def Follows (p q : Nat × Nat) : Prop := p.1 ≤ q.1 ∧ p.2 ≤ q.2 ∧ q.1 ≤ p.2

instance (p q : Nat × Nat) : Decidable (Follows p q) := by unfold Follows; infer_instance

/-- From `first` on, exactly the events before `last` are not later than the watermark. -/
def Stands (log : List Event) (w : Watermark) (first last : Nat) : Prop :=
  ∀ i e, log[i]? = some e → first ≤ i → (w.at_ < e.start ↔ last ≤ i)

section Log

variable {log : List Event}

/-! ## Positions in a log -/

theorem start_lt_of_lt (hlog : log.Pairwise fun x y => x.start < y.start) {i k : Nat} {d e : Event}
    (hd : log[i]? = some d) (he : log[k]? = some e) (h : i < k) : d.start < e.start := by
  obtain ⟨hi, rfl⟩ := List.getElem?_eq_some_iff.1 hd
  obtain ⟨hk, rfl⟩ := List.getElem?_eq_some_iff.1 he
  exact List.pairwise_iff_getElem.1 hlog i k hi hk h

theorem getElem?_stretchOf (first last i : Nat) :
    (stretchOf log first last)[i]? = if first + i < last then log[first + i]? else none := by
  rw [stretchOf, List.getElem?_drop, List.getElem?_take]

/-- Two stretches that touch make one. -/
theorem stretchOf_append {a b c : Nat} (hab : a ≤ b) (hbc : b ≤ c) :
    stretchOf log a b ++ stretchOf log b c = stretchOf log a c := by
  have hsplit : log.take c = log.take b ++ (log.take c).drop b := by
    have h := List.take_append_drop b (log.take c)
    rw [List.take_take, Nat.min_eq_left hbc] at h
    exact h.symm
  have hfar : ((log.take c).drop b).drop (a - (log.take b).length) = (log.take c).drop b := by
    by_cases hlen : b ≤ log.length
    · rw [List.length_take, Nat.min_eq_left hlen, Nat.sub_eq_zero_of_le hab, List.drop_zero]
    · have hnil : (log.take c).drop b = [] := by
        rw [List.drop_eq_nil_iff, List.length_take]; omega
      rw [hnil, List.drop_nil]
  calc stretchOf log a b ++ stretchOf log b c
      = (log.take b).drop a ++ ((log.take c).drop b).drop (a - (log.take b).length) := by rw [hfar]; rfl
    _ = (log.take b ++ (log.take c).drop b).drop a := List.drop_append.symm
    _ = stretchOf log a c := by rw [← hsplit]; rfl

/-- A position that a watermark stands at splits a stretch into what is dropped and what is
accepted. -/
theorem filter_stretchOf {w : Watermark} {a b c d : Nat} (hw : Stands log w a b) (hac : a ≤ c)
    (hcb : c ≤ b) (hbd : b ≤ d) :
    (stretchOf log c d).filter (fun e => w.at_ < e.start) = stretchOf log b d := by
  have hold : (stretchOf log c b).filter (fun e => w.at_ < e.start) = [] := by
    rw [List.filter_eq_nil_iff]
    intro e he
    obtain ⟨i, hi⟩ := List.getElem?_of_mem he
    rw [getElem?_stretchOf] at hi
    split at hi
    · rename_i hib
      have hlater := hw _ _ hi (by omega)
      simp only [decide_eq_true_eq, hlater]
      omega
    · exact absurd hi (by simp)
  have hnew : (stretchOf log b d).filter (fun e => w.at_ < e.start) = stretchOf log b d := by
    rw [List.filter_eq_self]
    intro e he
    obtain ⟨i, hi⟩ := List.getElem?_of_mem he
    rw [getElem?_stretchOf] at hi
    split at hi
    · exact decide_eq_true ((hw _ _ hi (by omega)).2 (by omega))
    · exact absurd hi (by simp)
  rw [← stretchOf_append hcb hbd, List.filter_append, hold, hnew, List.nil_append]

/-! ## One stretch -/

/-- **One more stretch moves the position to its end.** -/
theorem stands_past (hlog : log.Pairwise fun x y => x.start < y.start) {w : Watermark}
    {a b c d : Nat} (hw : Stands log w a b) (hac : a ≤ c) (hbd : b ≤ d) :
    Stands log (w.past (w.scanEvents (stretchOf log c d))) c d := by
  intro i e he hi
  have hbefore := hw i e he (by omega)
  cases hlast : (stretchOf log c d).getLast? with
  | none =>
      -- an empty stretch: the position was already there, or the log ends before it
      have hnil : stretchOf log c d = [] := List.getLast?_eq_none_iff.1 hlast
      have hdrop : (log.take d).length ≤ c := List.drop_eq_nil_iff.1 hnil
      obtain ⟨hlen, -⟩ := List.getElem?_eq_some_iff.1 he
      rw [List.length_take] at hdrop
      simp only [past, scanEvents, hlast, Option.map_none, hbefore]
      omega
  | some z =>
      -- `z` is the event before position `d`, or the last one of the log
      obtain ⟨k, hk⟩ : ∃ k, log[k]? = some z ∧ c ≤ k ∧ k < d ∧ (k + 1 = d ∨ k + 1 = log.length) := by
        rw [List.getLast?_eq_getElem?, getElem?_stretchOf] at hlast
        split at hlast
        · rename_i hlt
          refine ⟨_, hlast, by omega, hlt, ?_⟩
          obtain ⟨hlen, -⟩ := List.getElem?_eq_some_iff.1 hlast
          simp only [stretchOf, List.length_drop, List.length_take] at hlt hlen ⊢
          omega
        · exact absurd hlast (by simp)
      obtain ⟨hz, hck, hkd, hend⟩ := hk
      obtain ⟨hlen, -⟩ := List.getElem?_eq_some_iff.1 he
      simp only [past, scanEvents, hlast, Option.map_some, Instant.latest_lt_iff, hbefore]
      constructor
      · rintro ⟨-, hlt⟩
        by_cases hik : k < i
        · omega
        · rcases Nat.lt_or_eq_of_le (Nat.le_of_not_lt hik) with hlt' | rfl
          · exact absurd hlt (Instant.lt_asymm (start_lt_of_lt hlog he hz hlt'))
          · rw [he] at hz
            cases hz
            exact absurd hlt (Instant.lt_irrefl _)
      · intro hdi
        exact ⟨by omega, start_lt_of_lt hlog hz he (by omega)⟩

/-! ## A run -/

/-- A run from position `b` on forwards the log from there to the end of its last stretch. -/
theorem acceptedFrom_readings (hlog : log.Pairwise fun x y => x.start < y.start)
    (readings : List Reading) {w : Watermark} {a b : Nat} (hw : Stands log w a b)
    (hchain : ((a, b) :: stretches readings).IsChain Follows) :
    b ≤ (((a, b) :: stretches readings).getLast (by simp)).2 ∧
      w.acceptedFrom (readings.map (·.items log)) =
        stretchOf log b (((a, b) :: stretches readings).getLast (by simp)).2 := by
  induction readings generalizing w a b with
  | nil =>
      refine ⟨Nat.le_refl b, ?_⟩
      simp [acceptedFrom, stretches, stretchOf]
  | cons r rest ih =>
      cases r with
      | broken before f after =>
          have hcall : w.outcome ((Reading.broken before f after).items log) = (.error f, w) := by
            rw [outcome, Reading.items, readAll_broken]
          obtain ⟨hle, hrest⟩ := ih hw hchain
          refine ⟨hle, ?_⟩
          rw [List.map_cons, acceptedFrom, hcall, hrest]
          rfl
      | stretch c n =>
          generalize hd : c + n = d
          have hcall : w.outcome ((Reading.stretch c n).items log) =
              (.ok (w.scanEvents (stretchOf log c d)),
                w.past (w.scanEvents (stretchOf log c d))) := by
            rw [outcome, Reading.items, readAll_ok, hd]
          have hstretches : stretches (Reading.stretch c n :: rest) = (c, d) :: stretches rest := by
            rw [← hd]; rfl
          rw [hstretches, List.isChain_cons_cons] at hchain
          obtain ⟨⟨hac, hbd, hcb⟩, hchain⟩ := hchain
          obtain ⟨hle, hrest⟩ := ih (stands_past hlog hw hac hbd) hchain
          simp only [hstretches, List.getLast_cons_cons]
          refine ⟨Nat.le_trans hbd hle, ?_⟩
          rw [List.map_cons, acceptedFrom, hcall, hrest]
          simp only [acceptedOf, List.flatMap_cons, List.flatMap_nil, List.append_nil, scanEvents]
          rw [filter_stretchOf hw hac hcb hbd, stretchOf_append hbd hle]

theorem le_of_mem_stretches {readings : List Reading} {p : Nat × Nat}
    (h : p ∈ stretches readings) : p.1 ≤ p.2 := by
  obtain ⟨r, -, hr⟩ := List.mem_filterMap.1 h
  cases r with
  | stretch first count => cases hr; exact Nat.le_add_right ..
  | broken before f after => cases hr

/-- Before anything was read the watermark stands at the start of every stretch. -/
theorem stands_of_forall_lt {w : Watermark} (hafter : ∀ e ∈ log, w.at_ < e.start) (first : Nat) :
    Stands log w first first :=
  fun _ e he hi => ⟨fun _ => hi, fun _ => hafter e (List.mem_of_getElem? he)⟩

/-- **Overlapping snapshots forward the log, each event once.**  Whatever lies between them and
cannot be read, the calls together accept the log from the start of the first stretch to the end of
the last one, in order. -/
theorem accepted_overlapping {w : Watermark} (readings : List Reading) (j : Journal)
    (hlog : log.Pairwise fun x y => x.start < y.start) (hafter : ∀ e ∈ log, w.at_ < e.start)
    (hoverlap : (stretches readings).IsChain Follows) :
    acceptedOf (Noting.perform (w.filterAll (readings.map (·.items log))) j).1.1 =
      match (stretches readings).head?, (stretches readings).getLast? with
      | some first, some last => stretchOf log first.1 last.2
      | _, _ => [] := by
  rw [(w.filterAll_value _ j).1]
  cases hs : stretches readings with
  | nil =>
      obtain ⟨-, hrun⟩ := acceptedFrom_readings hlog readings (stands_of_forall_lt hafter 0)
        (by rw [hs]; exact .singleton _)
      simpa [hs, stretchOf] using hrun
  | cons p rest =>
      -- the first stretch follows an empty one at its own start
      have hchain : ((p.1, p.1) :: stretches readings).IsChain Follows := by
        rw [hs, List.isChain_cons_cons]
        have hp : p.1 ≤ p.2 := le_of_mem_stretches (hs ▸ List.mem_cons_self ..)
        exact ⟨⟨Nat.le_refl _, hp, Nat.le_refl _⟩, hs ▸ hoverlap⟩
      obtain ⟨-, hrun⟩ := acceptedFrom_readings hlog readings (stands_of_forall_lt hafter p.1) hchain
      rw [hrun]
      simp only [hs, List.getLast_cons_cons, List.head?_cons, List.getLast?_eq_some_getLast
        (List.cons_ne_nil p rest)]

end Log

/-- Three events, a second apart. -/
def threeEvents : List Event :=
  [Event.new "first" ⟨10, 0⟩, Event.new "second" ⟨11, 0⟩, Event.new "third" ⟨12, 0⟩]

/-- Two stretches of three events share the second one, and a snapshot that breaks off after it lies
between them. -/
theorem accepted_overlapping_threeEvents :
    (threeEvents.Pairwise fun x y => x.start < y.start) ∧
      (∀ e ∈ threeEvents, initial.at_ < e.start) ∧
      acceptedOf (Noting.perform (initial.filterAll
        ([.stretch 0 2, .broken [Event.new "second" ⟨11, 0⟩] (.decodeFailed "line 2") [],
          .stretch 1 2].map (Reading.items threeEvents))) Journal.empty).1.1 = threeEvents :=
  ⟨by decide, by decide, accepted_overlapping _ _ (by decide) (by decide) (by decide)⟩

end Watermark
end RecordingHarvest
