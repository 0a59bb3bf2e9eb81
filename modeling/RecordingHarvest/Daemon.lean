import RecordingHarvest.Delivery.Consumer
import RecordingHarvest.Delivery.Uploader
import RecordingHarvest.Recording.Controller

/-!
# From recording to delivery

The controller's snapshots go to an uploader that works at a desk.  When the controller has ended,
what is still on the way is sent: the records that the direct path buffers, or the events that are
queued, by way of a consumer.
-/

namespace RecordingHarvest

/-- An uploader at its desk. -/
structure Depot (σ : Type) where
  uploader : Uploader σ
  desk : Desk

namespace Depot

variable {σ : Type}

/-- Carries a computation out at the desk. -/
def atDesk {α : Type} (x : Sending α) : Controller.Handling (Depot σ) α := do
  let d ← getThe (Depot σ)
  let (a, desk) ← Run.noting (x.run d.desk)
  modifyThe (Depot σ) fun d => { d with desk := desk }
  return a

/-- Handles a snapshot of the controller. -/
def handle (x : Snapshot) : Controller.Handling (Depot σ) Unit := do
  let d ← getThe (Depot σ)
  let (uploader, shelf) ← atDesk (d.uploader.handle (← getThe Site).shelf x)
  modifyThe (Depot σ) fun d => { d with uploader := uploader }
  modifyThe Site fun s => { s with shelf := shelf }

/-- Nothing more is pushed. -/
def lastTide : Tide := ⟨fun _ => false, fun _ q => { q with producers := 0 }, fun _ t => t⟩

/-- Sends what is still on the way; a consumer of the queue begins with the given converter. -/
def conclude (d : Depot σ) (converter : Converter σ) : Noting (Depot σ) := do
  let (uploader, desk) ← d.uploader.finish.run d.desk
  match uploader.delivery with
  | .direct _ => return ⟨uploader, desk⟩
  | .queued q =>
    let (consumer, desk) ← (Consumer.run lastTide (q.size + 1) ⟨q, converter⟩).run desk
    let delivery := match consumer with
      | some c => .queued c.queue
      | none => uploader.delivery
    return ⟨{ uploader with delivery := delivery }, desk⟩

/-- The controller's run with the uploader as its handler. -/
def run (plan : ControllerPlan) : Controller.Handling (Depot σ) (Except Fault Unit) :=
  Controller.run handle plan

end Depot
end RecordingHarvest
