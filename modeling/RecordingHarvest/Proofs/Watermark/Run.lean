import RecordingHarvest.Watermark
import RecordingHarvest.Proofs.Effects
import RecordingHarvest.Proofs.Time.Order

/-!
# Runs of the watermark filter

One filter reads snapshot after snapshot.  What a call accepts and where it leaves the watermark
does not depend on the journal (`filterSnapshot_value`), so a run is a fold over what the calls
read: `Watermark.pastAll` is where it ends, `Watermark.acceptedFrom` everything it accepts.
-/

namespace RecordingHarvest
namespace Watermark

/-! ## One call -/

/-- What a call gives and where it leaves the watermark. -/
def outcome (w : Watermark) (items : List (Except Fault Event)) : Except Fault Scan × Watermark :=
  match readAll items with
  | .error f => (.error f, w)
  | .ok events => (.ok (w.scanEvents events), w.past (w.scanEvents events))

/-- Reading to the first fault, in one go. -/
theorem scan_value (w : Watermark) (items : List (Except Fault Event)) (j : Journal) :
    (Noting.perform (w.scan items) j).1 = (readAll items).map w.scanEvents := by
  unfold scan
  cases readAll items <;> rfl

theorem filterSnapshot_value (w : Watermark) (items : List (Except Fault Event)) (j : Journal) :
    (Noting.perform (w.filterSnapshot items) j).1 = w.outcome items := by
  have hscan := w.scan_value items j
  simp only [filterSnapshot, outcome, Noting.perform_bind, hscan]
  cases readAll items <;> rfl

theorem outcome_of_scan {w : Watermark} {items : List (Except Fault Event)} {j : Journal} {s : Scan}
    (h : (Noting.perform (w.scan items) j).1 = .ok s) : w.outcome items = (.ok s, w.past s) := by
  rw [scan_value] at h
  unfold outcome
  cases hread : readAll items with
  | error f => rw [hread] at h; exact nomatch h
  | ok events => rw [hread] at h; obtain rfl := Except.ok.inj h; rfl

theorem outcome_of_fault {w : Watermark} {items : List (Except Fault Event)} {j : Journal}
    {f : Fault} (h : (Noting.perform (w.scan items) j).1 = .error f) :
    w.outcome items = (.error f, w) := by
  rw [scan_value] at h
  unfold outcome
  cases hread : readAll items with
  | error g => rw [hread] at h; obtain rfl := Except.error.inj h; rfl
  | ok events => rw [hread] at h; exact nomatch h

theorem readAll_ok (events : List Event) : readAll (events.map .ok) = .ok events := by
  induction events with
  | nil => rfl
  | cons e rest ih => rw [List.map_cons, readAll, ih]; rfl

/-- A fault anywhere in what is read is what reading ends with. -/
theorem readAll_broken (before : List Event) (f : Fault) (after : List (Except Fault Event)) :
    readAll (before.map .ok ++ .error f :: after) = .error f := by
  induction before with
  | nil => rfl
  | cons e rest ih => rw [List.map_cons, List.cons_append, readAll, ih]; rfl

/-! ## A run -/

/-- Filters one snapshot after the other. -/
def filterAll (w : Watermark) :
    List (List (Except Fault Event)) → Noting (List (Except Fault Scan) × Watermark)
  | [] => return ([], w)
  | items :: rest => do
    let (result, w) ← w.filterSnapshot items
    let (results, w) ← w.filterAll rest
    return (result :: results, w)

/-- The events that calls accepted, one call after the other. -/
def acceptedOf (results : List (Except Fault Scan)) : List Event :=
  results.flatMap fun
    | .ok s => s.accepted
    | .error _ => []

/-- Where a filter stands after reading some snapshots. -/
def pastAll (w : Watermark) (snapshots : List (List (Except Fault Event))) : Watermark :=
  snapshots.foldl (fun w items => (w.outcome items).2) w

/-- What a filter accepts from one snapshot after the other. -/
def acceptedFrom (w : Watermark) : List (List (Except Fault Event)) → List Event
  | [] => []
  | items :: rest => acceptedOf [(w.outcome items).1] ++ (w.outcome items).2.acceptedFrom rest

theorem acceptedOf_ok (s : Scan) : acceptedOf [.ok s] = s.accepted := List.append_nil _

theorem acceptedOf_cons (r : Except Fault Scan) (rs : List (Except Fault Scan)) :
    acceptedOf (r :: rs) = acceptedOf [r] ++ acceptedOf rs := by
  rw [acceptedOf, List.flatMap_cons, acceptedOf, List.flatMap_cons, List.flatMap_nil,
    List.append_nil, acceptedOf]

/-- **A run accepts what its calls accept**, and stands where the last of them left it. -/
theorem filterAll_value (w : Watermark) (snapshots : List (List (Except Fault Event)))
    (j : Journal) :
    acceptedOf (Noting.perform (w.filterAll snapshots) j).1.1 = w.acceptedFrom snapshots ∧
      (Noting.perform (w.filterAll snapshots) j).1.2 = w.pastAll snapshots := by
  induction snapshots generalizing w j with
  | nil => exact ⟨rfl, rfl⟩
  | cons items rest ih =>
      have hcall := w.filterSnapshot_value items j
      obtain ⟨haccepted, hpast⟩ := ih (w.outcome items).2 (Noting.perform (w.filterSnapshot items) j).2
      simp only [filterAll, Noting.perform_bind, Noting.perform_pure, hcall]
      exact ⟨by rw [acceptedOf_cons, haccepted, acceptedFrom], by rw [hpast, pastAll, pastAll]; rfl⟩

theorem pastAll_snoc (w : Watermark) (snapshots : List (List (Except Fault Event)))
    (items : List (Except Fault Event)) :
    w.pastAll (snapshots ++ [items]) = ((w.pastAll snapshots).outcome items).2 := by
  simp [pastAll]

theorem acceptedFrom_snoc (w : Watermark) (snapshots : List (List (Except Fault Event)))
    (items : List (Except Fault Event)) :
    w.acceptedFrom (snapshots ++ [items]) =
      w.acceptedFrom snapshots ++ acceptedOf [((w.pastAll snapshots).outcome items).1] := by
  induction snapshots generalizing w with
  | nil => exact List.append_nil _
  | cons first rest ih =>
      rw [List.cons_append, acceptedFrom, ih, acceptedFrom, List.append_assoc]
      rfl

end Watermark
end RecordingHarvest
