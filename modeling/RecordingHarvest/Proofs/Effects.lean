import RecordingHarvest.Delivery.Desk

/-!
# What computations come to

`Noting.perform` carries a computation out on a journal, `Sending.perform` at a desk with a
journal.  The laws below take a computation apart at its binds, so that later proofs state what a
step returns and never look at how the effects are stacked.
-/

namespace RecordingHarvest

variable {α β : Type}

/-! ## Computations that write to the journal -/

namespace Noting

/-- Carries a computation out on a journal. -/
def perform (x : Noting α) (j : Journal) : α × Journal := x.run j

@[simp] theorem perform_pure (a : α) (j : Journal) : perform (pure a) j = (a, j) := rfl

@[simp] theorem perform_bind (x : Noting α) (f : α → Noting β) (j : Journal) :
    perform (x >>= f) j = perform (f (perform x j).1) (perform x j).2 := rfl

end Noting

/-! ## Computations that send -/

namespace Sending

/-- Carries a computation out at a desk with a journal. -/
def perform (x : Sending α) (d : Desk) (j : Journal) : α × Desk × Journal :=
  (((x.run d).run j).1.1, ((x.run d).run j).1.2, ((x.run d).run j).2)

@[simp] theorem perform_pure (a : α) (d : Desk) (j : Journal) :
    perform (pure a) d j = (a, d, j) := rfl

@[simp] theorem perform_bind (x : Sending α) (f : α → Sending β) (d : Desk) (j : Journal) :
    perform (x >>= f) d j =
      perform (f (perform x d j).1) (perform x d j).2.1 (perform x d j).2.2 := rfl

@[simp] theorem perform_get (d : Desk) (j : Journal) :
    perform (get : Sending Desk) d j = (d, d, j) := rfl

@[simp] theorem perform_set (d' d : Desk) (j : Journal) :
    perform (set d' : Sending PUnit) d j = (⟨⟩, d', j) := rfl

@[simp] theorem perform_modify (f : Desk → Desk) (d : Desk) (j : Journal) :
    perform (modify f : Sending PUnit) d j = (⟨⟩, f d, j) := rfl

/-- A computation that only writes to the journal leaves the desk as it is. -/
@[simp] theorem perform_lift (x : Noting α) (d : Desk) (j : Journal) :
    perform (liftM x : Sending α) d j = ((Noting.perform x j).1, d, (Noting.perform x j).2) := rfl

end Sending
end RecordingHarvest
