import RecordingHarvest.Recording.Controller

/-!
# Properties that computations have by their parts

Much of what is said of a run holds of every computation whose parts it holds of, and of each single
thing that a run does.  `Run.Composes` lists what that takes, with the calls that may be made left
open.  From it follows the same of retry loops, captures and sessions.

* `Run.Composes`: what a property needs for all of this.
* `Composes.rounds`: retrying has it if the operation has.
* `Composes.take`, `Composes.startOn`, `Composes.reconnect`: snapshots and sessions have it.
-/

namespace RecordingHarvest

open Remote (Invocation Value)

namespace Run

/-- A property of computations that is built up from their parts, where only some calls may be
made. -/
structure Composes (P : ∀ α : Type, Run α → Prop) (calls : Invocation → Prop) : Prop where
  bind : ∀ {α β : Type} {x : Run α} {f : α → Run β}, P α x → (∀ a, P β (f a)) → P β (x >>= f)
  attempt : ∀ {α : Type} {x : Run α}, P α x → P _ (Run.attempt x)
  pure : ∀ {α : Type} (a : α), P α (pure a)
  fail : ∀ {α : Type} (f : Fault), P α (fail f)
  giveUp : ∀ {α : Type}, P α giveUp
  read : P World read
  get : P Site get
  note : ∀ level text, P Unit (note level text)
  reconnects : P Unit (count .reconnects 1)
  onShelf : ∀ {α : Type} (step : FileStep) (act : Shelf → Except Fault α × Shelf),
    P α (onShelf step act)
  receive : ∀ x, P Unit (receive x)
  clear : ∀ x, P Unit (clear x)
  discard : ∀ x, P Unit (discard x)
  connect : P Nat connect
  invoke : ∀ c call, calls call → P _ (invoke c call)
  close : ∀ c, P Unit (close c)
  pause : ∀ span, P Unit (pause span)
  rest : ∀ span, P Bool (rest span)
  stopping : P Bool stopping
  enter : ∀ phase, P Unit (enter phase)

end Run

namespace Run.Composes

variable {P : ∀ α : Type, Run α → Prop} {calls : Invocation → Prop} {α : Type}

theorem ofExcept (h : Composes P calls) (r : Except Fault α) : P α (Run.ofExcept r) := by
  cases r with
  | ok a => exact h.pure a
  | error f => exact h.fail f

/-! ## Retries -/

/-- **Retrying has what the operation has.** -/
theorem rounds (h : Composes P calls) {op : Nat → Run α} (hop : ∀ n, P α (op n)) (abandon : Bool)
    (name : String) (fuel attempts : Nat) (backoff : Backoff) (throttle : LogThrottle) :
    P _ (Retry.rounds abandon name op fuel attempts backoff throttle) := by
  induction fuel generalizing attempts backoff throttle with
  | zero => exact h.giveUp
  | succ fuel ih =>
      refine h.bind (h.attempt (hop _)) fun r => ?_
      cases r with
      | ok a =>
          dsimp only
          split
          · exact h.bind (h.note _ _) fun _ => h.pure _
          · exact h.pure _
      | error f =>
          dsimp only
          split
          · exact h.fail f
          · refine h.bind h.read fun w => ?_
            split
            · exact h.bind (h.note _ _) fun _ => h.fail _
            · refine h.bind h.get fun s => h.bind (h.note _ _) fun _ => ?_
              refine h.bind (h.pause _) fun _ => h.bind h.stopping fun stopped => ?_
              split
              · exact h.pure _
              · exact ih _ _ _

theorem untilStopped (h : Composes P calls) {op : Nat → Run α} (hop : ∀ n, P α (op n))
    (abandon : Bool) (name : String) (policy : BackoffPolicy) :
    P _ (Retry.untilStopped abandon name policy op) :=
  h.bind h.read fun _ => h.rounds hop abandon name _ 0 _ _

theorem retry (h : Composes P calls) {op : Nat → Run α} (hop : ∀ n, P α (op n)) (name : String)
    (policy : BackoffPolicy) : P α (Retry.run name policy op) := by
  refine h.bind (h.untilStopped hop false name policy) fun r => ?_
  cases r with
  | none => exact h.giveUp
  | some a => exact h.pure a

theorem connectUntilStopped (h : Composes P calls) (abandon : Bool) (policy : BackoffPolicy) :
    P _ (Retry.connectUntilStopped abandon policy) := by
  refine h.bind (h.untilStopped (fun _ => h.connect) abandon _ policy) fun r => ?_
  dsimp only
  split
  · exact h.bind (h.note _ _) fun _ => h.pure _
  · exact h.pure _

theorem connectUnder (h : Composes P calls) (policy : BackoffPolicy) :
    P Nat (Retry.connect policy) := by
  refine h.bind (h.connectUntilStopped false policy) fun r => ?_
  cases r with
  | none => exact h.giveUp
  | some c => exact h.pure c

/-! ## Calls of the recorder -/

variable {c : Nat} {operation : String} {arguments : List Value}

theorem call (h : Composes P calls) (hcall : calls ⟨Recorder.object, operation, arguments⟩) :
    P _ (Recorder.call c operation arguments) :=
  h.bind (h.note _ _) fun _ => h.invoke c _ hcall

theorem callLong (h : Composes P calls) (hcall : calls ⟨Recorder.object, operation, arguments⟩) :
    P _ (Recorder.callLong c operation arguments) :=
  h.bind (h.call hcall) fun _ => h.ofExcept _

theorem callUnit (h : Composes P calls) (hcall : calls ⟨Recorder.object, operation, arguments⟩) :
    P _ (Recorder.callUnit c operation arguments) :=
  h.bind (h.call hcall) fun _ => h.pure _

/-! ## Captures -/

/-- The recorder's operations may be called as they are, all but `setRecordingOptions`. -/
def Open (calls : Invocation → Prop) : Prop :=
  ∀ operation arguments, operation ≠ "setRecordingOptions" →
    calls ⟨Recorder.object, operation, arguments⟩

theorem readBlocks (h : Composes P calls) (hopen : Open calls) (stream : Int) (blockSize : Nat)
    (x : Snapshot) (fuel total : Nat) :
    P Nat (Capture.readBlocks c stream blockSize x fuel total) := by
  have hread : P _ (Recorder.readStream c stream) :=
    h.bind (h.call (hopen _ _ (by decide))) fun _ => h.ofExcept _
  induction fuel generalizing total with
  | zero => exact h.giveUp
  | succ fuel ih =>
      refine h.bind hread fun answer => ?_
      cases answer with
      | none => exact h.pure _
      | some block =>
          refine h.bind (h.onShelf _ _) fun _ => ?_
          split
          · exact h.pure _
          · exact ih _

theorem fetch (h : Composes P calls) (hopen : Open calls) (method : CaptureMethod) (clone : Int)
    (x : Snapshot) : P Unit (Capture.fetch method c clone x) := by
  cases method with
  | copy =>
      refine h.bind h.get fun s => h.bind (h.note _ _) fun _ => ?_
      exact h.bind (h.receive x) fun _ => h.callUnit (hopen _ _ (by decide))
  | stream blockSize =>
      have hcopy (stream : Int) : P Nat (Capture.copyBlocks c stream blockSize x) :=
        h.bind (h.onShelf _ _) fun _ => h.bind h.read fun w =>
          h.bind (h.readBlocks hopen stream blockSize x w.patience 0) fun _ =>
            h.bind (h.onShelf _ _) fun _ => h.pure _
      refine h.bind (h.callLong (hopen _ _ (by decide))) fun stream => ?_
      refine h.bind (h.note _ _) fun _ => h.bind (h.attempt (hcopy stream)) fun copied => ?_
      refine h.bind (h.attempt (h.callUnit (hopen _ _ (by decide)))) fun closed => ?_
      refine h.bind (h.ofExcept copied) fun _ => h.bind (h.ofExcept closed) fun _ => ?_
      exact h.bind h.get fun s => h.note _ _

theorem create (h : Composes P calls) : P Snapshot Capture.create := by
  refine h.bind (h.onShelf _ _) fun x => ?_
  refine h.bind (h.attempt (h.onShelf .file (·.makeFile x))) fun made => ?_
  cases made with
  | ok _ => exact h.pure x
  | error f => exact h.bind (h.clear x) fun _ => h.fail f

/-- **Taking a snapshot has it.** -/
theorem take (h : Composes P calls) (hopen : Open calls) (method : CaptureMethod)
    (recording : Int) : P Snapshot (Capture.take method c recording) := by
  have hfetch (x : Snapshot) : P Unit (Capture.fetchCloned method c recording x) := by
    refine h.bind (h.callLong (hopen _ _ (by decide))) fun clone => ?_
    refine h.bind (h.attempt (h.fetch hopen method clone x)) fun fetched => ?_
    refine h.bind (h.attempt (h.callUnit (hopen _ _ (by decide)))) fun closed => ?_
    exact h.bind (h.ofExcept fetched) fun _ => h.ofExcept closed
  refine h.bind h.create fun x => h.bind (h.attempt (hfetch x)) fun fetched => ?_
  cases fetched with
  | ok _ => exact h.pure x
  | error f => exact h.bind (h.discard x) fun _ => h.fail f

/-! ## Sessions -/

variable {plan : SessionPlan}

/-- The options of a plan may be set on any recording. -/
def Sets (calls : Invocation → Prop) (options : RecordingOptions) : Prop :=
  ∀ id : Int, calls ⟨Recorder.object, "setRecordingOptions", [.long id, options.toValue]⟩

theorem startOnce (h : Composes P calls) (hopen : Open calls) (hsets : Sets calls plan.options)
    (c : Nat) : P Int (Session.startOnce plan c) := by
  have hconfigure (id : Int) : P Unit (Session.configure plan c id) :=
    h.bind (h.callUnit (hopen _ _ (by decide))) fun _ =>
      h.bind (h.callUnit (hsets id)) fun _ => h.callUnit (hopen _ _ (by decide))
  refine h.bind (h.callLong (hopen _ _ (by decide))) fun id => ?_
  refine h.bind (h.attempt (hconfigure id)) fun configured => ?_
  cases configured with
  | ok _ => exact h.pure id
  | error f =>
      refine h.bind (h.attempt (h.callUnit (hopen _ _ (by decide)))) fun closed => ?_
      cases closed with
      | ok _ => exact h.fail f
      | error g => exact h.bind (h.note _ _) fun _ => h.fail f

/-- **Starting a session has it.** -/
theorem startOn (h : Composes P calls) (hopen : Open calls) (hsets : Sets calls plan.options)
    (c : Nat) : P Session (Session.startOn plan c) := by
  refine h.bind (h.attempt (h.retry (fun _ => h.startOnce hopen hsets c) _ _)) fun r => ?_
  cases r with
  | ok id => exact h.bind (h.note _ _) fun _ => h.pure _
  | error f => exact h.bind (h.close c) fun _ => h.fail f

theorem closeSession (h : Composes P calls) (hopen : Open calls) (s : Session) :
    P Unit s.close := by
  refine h.bind (h.attempt (h.callUnit (hopen _ _ (by decide)))) fun r => ?_
  cases r with
  | ok _ => exact h.close _
  | error f => exact h.bind (h.note _ _) fun _ => h.close _

theorem finish (h : Composes P calls) (hopen : Open calls) (session : Session) :
    P Unit (Controller.finish session) :=
  h.bind (h.note _ _) fun _ => h.closeSession hopen session

/-- **Replacing a session has it.** -/
theorem reconnect (h : Composes P calls) (hopen : Open calls) {plan : ControllerPlan}
    (hsets : Sets calls plan.session.options) (failed : Session) :
    P Session (Controller.reconnect plan failed) := by
  refine h.bind (h.enter _) fun _ => h.bind h.reconnects fun _ => ?_
  refine h.bind (h.closeSession hopen failed) fun _ => ?_
  refine h.bind (h.bind (h.connectUnder _) fun c => h.startOn hopen hsets c) fun session => ?_
  exact h.bind (h.enter _) fun _ => h.bind (h.note _ _) fun _ => h.pure _

end Run.Composes
end RecordingHarvest
