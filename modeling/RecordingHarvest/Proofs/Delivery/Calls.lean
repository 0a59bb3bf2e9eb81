import Mathlib.Logic.Function.Basic
import Mathlib.Logic.Relation
import RecordingHarvest.Delivery.Uploader
import RecordingHarvest.Proofs.Delivery.Handover

/-!
# The calls of an uploader

Several workers call the uploader at the same time, each with a snapshot.  Where one of their calls
stands is its *stage*; what moves it from one stage to the next depends on where the accepted events
go, and so does what the calls share.

* `Call`: the stages, and what a call holds at each of them.
* `Moved`: steps in which one call moves on while all others stand still.
-/

namespace RecordingHarvest

/-! ## The stages of a call -/

/-- Where a call stands. -/
inductive Call where
  /-- It has not looked at what its snapshot yields. -/
  | waiting (items : List (Except Fault Event))
  /-- It holds the filter and has these accepted events left to convert. -/
  | converting (found : Scan) (left : List Event)
  /-- It holds the filter, with a flush if it handed one out. -/
  | settling (found : Scan) (due : Option Buffer)
  /-- It sends a flush, the metrics first. -/
  | shipping (b : Buffer)
  /-- It has sent the metrics of a flush. -/
  | shippingEvents (b : Buffer)
  /-- It has sent its flush and not marked it as sent. -/
  | marking
  | returned
  /-- It is the last call and waits for all others to return. -/
  | closing

namespace Call

/-- What a call handed out, has not marked as sent and has yet to pass to the sender. -/
def unsent? : Call → Option Buffer
  | settling _ due => due
  | shipping b => some b
  | shippingEvents b => some b.eventsOnly
  | marking => some Buffer.empty
  | waiting _ | converting .. | returned | closing => none

/-- What a call that holds the filter found in its snapshot. -/
def found? : Call → Option Scan
  | converting found _ | settling found _ => some found
  | _ => none

/-- The accepted events that a call has yet to convert. -/
def left : Call → List Event
  | converting _ left => left
  | _ => []

/-- The snapshot a call has yet to look at. -/
def items? : Call → Option (List (Except Fault Event))
  | waiting items => some items
  | _ => none

/-- All that the line at the filter knows of a call. -/
def atFilter (c : Call) : Option (List (Except Fault Event)) × Option Scan × List Event :=
  (c.items?, c.found?, c.left)

/-- A call at work on a flush, or done with it. -/
def isDelivering : Call → Bool
  | shipping _ | shippingEvents _ | marking | returned => true
  | _ => false

/-- How a call goes on after letting go of the filter. -/
def afterSettling : Option Buffer → Call
  | some b => shipping b
  | none => returned

/-- How a call goes on after harvesting its snapshot. -/
def afterHarvest : Harvested → Call
  | .due b => shipping b
  | .settled | .failed _ | .waiting _ => returned

/-- How the last call goes on with what it handed out. -/
def afterClosing (b : Buffer) : Call := if b.isEmpty then marking else shipping b

@[simp] theorem unsent?_afterSettling (due : Option Buffer) : (afterSettling due).unsent? = due := by
  cases due <;> rfl

@[simp] theorem unsent?_afterClosing (b : Buffer) : (afterClosing b).unsent? = some b := by
  unfold afterClosing
  split
  · rename_i h
    exact congrArg some (Buffer.eq_empty_of_size (by simpa [Buffer.isEmpty] using h)).symm
  · rfl

end Call

/-! ## One call on the move -/

section

variable {σ : Type} {Step : σ → σ → Prop} {calls : σ → Nat → Call}
variable {s t u : σ} {i : Nat} {c c' : Call}

/-- The state `t` is reached from `s` by steps in which call `i` alone moves, and which leave it at
stage `c`. -/
structure Moved (Step : σ → σ → Prop) (calls : σ → Nat → Call) (s : σ) (i : Nat) (c : Call)
    (t : σ) : Prop where
  reachable : Relation.ReflTransGen Step s t
  self : calls t i = c
  others : ∀ k, k ≠ i → calls t k = calls s k

namespace Moved

theorem refl (hcall : calls s i = c) : Moved Step calls s i c s := ⟨.refl, hcall, fun _ _ => rfl⟩

theorem single (h : Step s t) (hcalls : calls t = Function.update (calls s) i c) :
    Moved Step calls s i c t where
  reachable := .single h
  self := by rw [hcalls, Function.update_self]
  others k hk := by rw [hcalls, Function.update_of_ne hk]

theorem trans (hst : Moved Step calls s i c t) (htu : Moved Step calls t i c' u) :
    Moved Step calls s i c' u where
  reachable := hst.reachable.trans htu.reachable
  self := htu.self
  others k hk := (htu.others k hk).trans (hst.others k hk)

/-- If all other calls have returned, and this one does, then all have. -/
theorem all_returned (h : Moved Step calls s i .returned t)
    (hothers : ∀ k, k ≠ i → calls s k = .returned) (k : Nat) : calls t k = .returned := by
  by_cases hk : k = i
  · rw [hk]; exact h.self
  · exact (h.others k hk).trans (hothers k hk)

end Moved

end

end RecordingHarvest
