import RecordingHarvest.Daemon
import RecordingHarvest.Proofs.Recording.Balance

/-!
# Everything opened is closed

Each operation of the recorder has its balance, and from there up every computation of the
controller: a capture gives back its clone and its stream, an attempt to start a recording gives the
recording back unless it succeeds, closing a session gives back what the session holds, and so
does harvesting with it.

* `nets_rounds`: retrying keeps what the last attempt holds and nothing of the others.
* `nets_harvest`: the rounds of a controller end with everything closed that the session held.
* `run_closes`: on a whole run, deeds that open a resource and deeds that close it come in equal
  numbers.
-/

namespace RecordingHarvest

open Run
open Remote (Value)

variable {ρ : Resource} {α : Type}

/-- The balance of a computation that holds what it gives, and nothing when it faults. -/
def heldBy (held : α → Int) : Except Fault α → Int
  | .ok a => held a
  | .error _ => 0

/-! ## The recorder's operations -/

namespace Recorder

variable (c : Nat)

theorem nets_call (operation : String) (arguments : List Value) :
    Nets ρ (call c operation arguments)
      fun r => ρ.change (.invoked c ⟨object, operation, arguments⟩ r) :=
  (calm_note _ _).bind fun _ => nets_invoke c _

/-- Calls of other operations hold nothing, whatever is made of their answers. -/
theorem balanced_call {operation : String} (arguments : List Value)
    (h : operation ∉ Resource.operations) : Balanced ρ (call c operation arguments) :=
  (nets_call c operation arguments).congr fun r => ρ.change_invoked_of_not_mem c r h

theorem balanced_callUnit {operation : String} (arguments : List Value)
    (h : operation ∉ Resource.operations) : Balanced ρ (callUnit c operation arguments) :=
  (balanced_call c arguments h).bind (fun _ => rfl) fun _ => nets_pure rfl

/-- A call for an id holds the id that is answered. -/
theorem nets_callLong {operation : String} (arguments : List Value) {held : Int → Int}
    (h : ∀ answer, ρ.change (.invoked c ⟨object, operation, arguments⟩ answer) =
      ((Resource.answeredId? answer).map held).getD 0) :
    Nets ρ (callLong c operation arguments) (heldBy held) := by
  refine (nets_call c operation arguments).bind ?_ ?_
  · intro g
    rw [h]
    rfl
  · intro answer
    refine nets_ofExcept ?_
    rw [h]
    match answer with
    | none => rfl
    | some (.long n) => exact Int.sub_self _
    | some (.bool _) | some (.text _) | some (.bytes _) | some (.table _) => rfl

theorem nets_newRecording : Nets ρ (newRecording c) (heldBy (ρ.ofRecording c)) :=
  nets_callLong c _ fun answer => ρ.change_opening_recording c answer (.inl rfl)

theorem nets_cloneRecording (id : Int) : Nets ρ (cloneRecording c id) (heldBy (ρ.ofRecording c)) :=
  nets_callLong c _ fun answer => ρ.change_opening_recording c answer (.inr rfl)

theorem nets_openStream (id : Int) (blockSize : Nat) :
    Nets ρ (openStream c id blockSize) (heldBy (ρ.ofStream c)) :=
  nets_callLong c _ fun answer => ρ.change_opening_stream c answer rfl

/-- A call that gives something back does so even if it faults. -/
theorem nets_callUnit {operation : String} {arguments : List Value} {n : Int}
    (h : ∀ answer, ρ.change (.invoked c ⟨object, operation, arguments⟩ answer) = n) :
    Nets ρ (callUnit c operation arguments) fun _ => n := by
  refine (nets_call c operation arguments).bind (fun g => h _) ?_
  intro answer
  refine nets_pure ?_
  rw [h]
  exact Int.sub_self n

theorem nets_closeRecording (id : Int) :
    Nets ρ (closeRecording c id) fun _ => -ρ.ofRecording c id :=
  nets_callUnit c fun answer => ρ.change_closing_recording c object id answer

theorem nets_closeStream (id : Int) : Nets ρ (closeStream c id) fun _ => -ρ.ofStream c id :=
  nets_callUnit c fun answer => ρ.change_closing_stream c object id answer

theorem balanced_readStream (stream : Int) : Balanced ρ (readStream c stream) :=
  (balanced_call c _ (by decide)).bind (fun _ => rfl) fun _ => nets_ofExcept rfl

end Recorder

/-! ## Captures -/

namespace Capture

variable (c : Nat)

theorem balanced_readBlocks (stream : Int) (blockSize : Nat) (x : Snapshot) (fuel total : Nat) :
    Balanced ρ (readBlocks c stream blockSize x fuel total) := by
  induction fuel generalizing total with
  | zero => exact nets_giveUp
  | succ fuel ih =>
      refine (Recorder.balanced_readStream c stream).bind (fun _ => rfl) ?_
      intro answer
      cases answer with
      | none => exact nets_pure rfl
      | some block =>
          refine (balanced_onShelf _ _).bind (fun _ => rfl) ?_
          intro _
          split
          · exact nets_pure rfl
          · exact ih _

theorem balanced_copyBlocks (stream : Int) (blockSize : Nat) (x : Snapshot) :
    Balanced ρ (copyBlocks c stream blockSize x) := by
  refine (balanced_onShelf _ _).bind (fun _ => rfl) ?_
  intro _
  refine calm_read.bind ?_
  intro w
  refine (balanced_readBlocks c stream blockSize x w.patience 0).bind (fun _ => rfl) ?_
  intro total
  exact (balanced_onShelf _ _).bind (fun _ => rfl) fun _ => nets_pure rfl

/-- A stream is closed whether or not it could be read to its end. -/
theorem balanced_streamClone (clone : Int) (blockSize : Nat) (x : Snapshot) :
    Balanced ρ (streamClone c clone blockSize x) := by
  refine (Recorder.nets_openStream c clone blockSize).bind (fun _ => rfl) ?_
  intro stream
  refine (calm_note _ _).bind ?_
  intro _
  refine (balanced_copyBlocks c stream blockSize x).attemptBind ?_
  intro copied
  refine (Recorder.nets_closeStream c stream).attemptBind ?_
  intro closed
  -- from here on nothing is held
  refine Nets.congr (n := fun _ => 0) ?_ ?_
  · refine Balanced.bind (nets_ofExcept rfl) (fun _ => rfl) ?_
    intro total
    refine Balanced.bind (nets_ofExcept rfl) (fun _ => rfl) ?_
    intro _
    exact calm_get.bind fun s => (calm_note _ _).balanced
  · intro r
    simp [heldBy]

theorem balanced_fetch (method : CaptureMethod) (clone : Int) (x : Snapshot) :
    Balanced ρ (fetch method c clone x) := by
  cases method with
  | stream blockSize => exact balanced_streamClone c clone blockSize x
  | copy =>
      refine calm_get.bind ?_
      intro s
      refine (calm_note _ _).bind ?_
      intro _
      refine (calm_receive x).bind ?_
      intro _
      exact Recorder.balanced_callUnit c _ (by decide)

/-- A clone is closed whether or not it could be fetched. -/
theorem balanced_fetchCloned (method : CaptureMethod) (recording : Int) (x : Snapshot) :
    Balanced ρ (fetchCloned method c recording x) := by
  refine (Recorder.nets_cloneRecording c recording).bind (fun _ => rfl) ?_
  intro clone
  refine (balanced_fetch c method clone x).attemptBind ?_
  intro fetched
  refine (Recorder.nets_closeRecording c clone).attemptBind ?_
  intro closed
  refine Nets.congr (n := fun _ => 0) ?_ ?_
  · exact Balanced.bind (nets_ofExcept rfl) (fun _ => rfl) fun _ => nets_ofExcept rfl
  · intro r
    simp [heldBy]

theorem balanced_create : Balanced ρ create := by
  refine (balanced_onShelf _ _).bind (fun _ => rfl) ?_
  intro x
  refine (balanced_onShelf .file (·.makeFile x)).attemptBind ?_
  intro made
  cases made with
  | ok _ => exact nets_pure rfl
  | error f => exact (calm_clear x).bind fun _ => nets_fail rfl

theorem balanced_take (method : CaptureMethod) (recording : Int) :
    Balanced ρ (take method c recording) := by
  refine balanced_create.bind (fun _ => rfl) ?_
  intro x
  refine (balanced_fetchCloned c method recording x).attemptBind ?_
  intro fetched
  cases fetched with
  | ok _ => exact nets_pure rfl
  | error f => exact (calm_discard x).bind fun _ => nets_fail rfl

end Capture

/-! ## Retries -/

namespace Retry

/-- **Retrying holds what the last attempt gives**, if an attempt holds nothing when it faults. -/
theorem nets_rounds {op : Nat → Run α} {held : α → Int} (hop : ∀ n, Nets ρ (op n) (heldBy held))
    (abandon : Bool) (name : String) (fuel attempts : Nat) (backoff : Backoff)
    (throttle : LogThrottle) :
    Nets ρ (rounds abandon name op fuel attempts backoff throttle)
      (heldBy fun r => (r.map held).getD 0) := by
  induction fuel generalizing attempts backoff throttle with
  | zero => exact nets_giveUp
  | succ fuel ih =>
      refine (hop _).attemptBind ?_
      intro r
      cases r with
      | ok a =>
          have hheld : Nets ρ (pure (some a)) fun q =>
              heldBy (fun r => (Option.map held r).getD 0) q - heldBy held (.ok a) :=
            nets_pure (Int.sub_self _)
          dsimp only
          split
          · exact (calm_note _ _).bind fun _ => hheld
          · exact hheld
      | error f =>
          refine Nets.congr ?_ fun _ => (Int.sub_zero _).symm
          dsimp only
          split
          · exact nets_fail rfl
          · refine calm_read.bind ?_
            intro w
            split
            · exact (calm_note _ _).bind fun _ => nets_fail rfl
            · refine calm_get.bind ?_
              intro s
              refine (calm_note _ _).bind ?_
              intro _
              refine (calm_pause _).bind ?_
              intro _
              refine calm_stopping.bind ?_
              intro stopped
              split
              · exact nets_pure rfl
              · exact ih _ _ _

theorem nets_untilStopped {op : Nat → Run α} {held : α → Int}
    (hop : ∀ n, Nets ρ (op n) (heldBy held)) (abandon : Bool) (name : String)
    (policy : BackoffPolicy) :
    Nets ρ (untilStopped abandon name policy op) (heldBy fun r => (r.map held).getD 0) :=
  calm_read.bind fun _ => nets_rounds hop abandon name _ 0 _ _

theorem nets_run {op : Nat → Run α} {held : α → Int} (hop : ∀ n, Nets ρ (op n) (heldBy held))
    (name : String) (policy : BackoffPolicy) : Nets ρ (Retry.run name policy op) (heldBy held) := by
  refine (nets_untilStopped hop false name policy).bind (fun _ => rfl) ?_
  intro r
  cases r with
  | none => exact nets_giveUp
  | some a => exact nets_pure (Int.sub_self _)

theorem nets_connectUntilStopped (abandon : Bool) (policy : BackoffPolicy) :
    Nets ρ (connectUntilStopped abandon policy)
      (heldBy fun r => (r.map ρ.ofConnection).getD 0) := by
  have hconnect : Nets ρ Run.connect (heldBy ρ.ofConnection) :=
    nets_connect.congr fun r => by cases r <;> simp [heldBy]
  refine (nets_untilStopped (fun _ => hconnect) abandon _ policy).bind (fun _ => rfl) ?_
  intro r
  dsimp only
  split
  · exact (calm_note _ _).bind fun _ => nets_pure (Int.sub_self _)
  · exact nets_pure (Int.sub_self _)

theorem nets_connect (policy : BackoffPolicy) :
    Nets ρ (Retry.connect policy) (heldBy ρ.ofConnection) := by
  refine (nets_connectUntilStopped false policy).bind (fun _ => rfl) ?_
  intro r
  cases r with
  | none => exact nets_giveUp
  | some c => exact nets_pure (Int.sub_self _)

end Retry

/-! ## Sessions -/

/-- What holding a session counts: its recording and its connection. -/
def Resource.ofSession (ρ : Resource) (s : Session) : Int :=
  ρ.ofRecording s.connection s.recording + ρ.ofConnection s.connection

namespace Session

variable (plan : SessionPlan) (c : Nat)

theorem balanced_configure (id : Int) : Balanced ρ (configure plan c id) := by
  refine (Recorder.balanced_callUnit c _ (by decide)).bind (fun _ => rfl) ?_
  intro _
  refine (Recorder.balanced_callUnit c _ (by decide)).bind (fun _ => rfl) ?_
  intro _
  exact Recorder.balanced_callUnit c _ (by decide)

/-- An attempt that cannot configure its recording closes it again. -/
theorem nets_startOnce : Nets ρ (startOnce plan c) (heldBy (ρ.ofRecording c)) := by
  refine (Recorder.nets_newRecording c).bind (fun _ => rfl) ?_
  intro id
  refine (balanced_configure plan c id).attemptBind ?_
  intro configured
  cases configured with
  | ok _ => exact nets_pure (by simp [heldBy])
  | error f =>
      refine (Recorder.nets_closeRecording c id).attemptBind ?_
      intro closed
      have hfail : Nets ρ (fail f : Run Int) fun q =>
          heldBy (ρ.ofRecording c) q - heldBy (ρ.ofRecording c) (.ok id) - 0 -
            -ρ.ofRecording c id := nets_fail (by simp [heldBy])
      cases closed with
      | ok _ => exact hfail
      | error g => exact (calm_note _ _).bind fun _ => hfail

/-- A connection on which no recording can be started is closed. -/
theorem nets_startOn :
    Nets ρ (startOn plan c) fun r => heldBy ρ.ofSession r - ρ.ofConnection c := by
  refine (Retry.nets_run (fun _ => nets_startOnce plan c) _ plan.policy).attemptBind ?_
  intro r
  cases r with
  | ok id => exact (calm_note _ _).bind fun _ => nets_pure (by simp [heldBy, Resource.ofSession])
  | error f =>
      refine (nets_close c).bind ?_ ?_
      · intro g; simp [heldBy]
      · intro _; exact nets_fail (by simp [heldBy])

/-- Whatever a start acquires is in the session it gives. -/
theorem nets_start (policy : BackoffPolicy) : Nets ρ (start plan policy) (heldBy ρ.ofSession) :=
  (Retry.nets_connect policy).bind (fun _ => rfl) fun c => nets_startOn plan c

theorem balanced_snapshot (s : Session) : Balanced ρ (s.snapshot plan) := by
  refine (Capture.balanced_take s.connection plan.method s.recording).attemptBind ?_
  intro r
  cases r with
  | error f => exact nets_fail rfl
  | ok x =>
      refine (calm_count _ _).bind ?_
      intro _
      refine calm_get.bind ?_
      intro site
      exact (calm_note _ _).bind fun _ => nets_pure rfl

/-- Closing a session gives its recording and its connection back, whatever is answered. -/
theorem nets_close (s : Session) : Nets ρ s.close fun _ => -ρ.ofSession s := by
  refine (Recorder.nets_closeRecording s.connection s.recording).attemptBind ?_
  intro r
  have hclose : Nets ρ (Run.close s.connection) fun _ =>
      -ρ.ofSession s - -ρ.ofRecording s.connection s.recording :=
    (Run.nets_close s.connection).congr fun _ => by simp only [Resource.ofSession]; omega
  cases r with
  | ok _ => exact hclose
  | error f => exact (calm_note _ _).bind fun _ => hclose

end Session

/-! ## The controller -/

namespace Controller

variable (plan : ControllerPlan)

theorem calm_queue (x : Snapshot) : Calm ρ (queue x) := by
  refine calm_bind (calm_record (by cases ρ <;> rfl)) ?_
  intro _
  refine calm_bind calm_get ?_
  intro s
  split
  · exact calm_modify fun _ => rfl
  · exact calm_note _ _

/-- A failed session is closed before there is another one. -/
theorem nets_reconnect (failed : Session) :
    Nets ρ (reconnect plan failed) fun r => heldBy ρ.ofSession r - ρ.ofSession failed := by
  refine (calm_enter _).bind ?_
  intro _
  refine (calm_count _ _).bind ?_
  intro _
  refine (Session.nets_close failed).bind ?_ ?_
  · intro g; simp [heldBy]
  · intro _
    refine Nets.congr (n := heldBy ρ.ofSession) ?_ fun r => by omega
    refine (Session.nets_start plan.session plan.session.policy).bind (fun _ => rfl) ?_
    intro session
    refine (calm_enter _).bind ?_
    intro _
    exact (calm_note _ _).bind fun _ => nets_pure (Int.sub_self _)

theorem nets_finish (session : Session) : Nets ρ (finish session) fun _ => -ρ.ofSession session :=
  (calm_note _ _).bind fun _ => Session.nets_close session

/-- **Harvesting closes the session it was given**, or the one that replaced it, on every way out. -/
theorem nets_harvest (fuel : Nat) (session : Session) :
    Nets ρ (harvest plan fuel session) fun _ => -ρ.ofSession session := by
  induction fuel generalizing session with
  | zero => exact nets_giveUp
  | succ fuel ih =>
      refine calm_stopping.bind ?_
      intro stopped
      split
      · exact nets_finish session
      · refine (calm_rest _).bind ?_
        intro completed
        split
        · refine (calm_record (by cases ρ <;> rfl)).bind ?_
          intro _
          refine (Session.balanced_snapshot plan.session session).attemptBind ?_
          intro r
          refine Nets.congr (n := fun _ => -ρ.ofSession session) ?_ fun _ => (Int.sub_zero _).symm
          cases r with
          | ok x => exact (calm_queue x).bind fun _ => ih session
          | error f =>
              dsimp only
              split
              · refine (Session.nets_close session).bind (fun _ => rfl) ?_
                intro _
                exact nets_fail (Int.sub_self _)
              · refine (calm_note _ _).bind ?_
                intro _
                refine (nets_reconnect plan session).bind ?_ ?_
                · intro g; simp [heldBy]
                · intro next
                  refine (ih next).congr ?_
                  intro r
                  simp only [heldBy]
                  omega
        · exact nets_finish session

theorem balanced_rounds : Balanced ρ (rounds plan) := by
  refine calm_stopping.bind ?_
  intro stopped
  split
  · exact nets_pure rfl
  · refine (Retry.nets_connectUntilStopped true plan.initialPolicy).bind (fun _ => rfl) ?_
    intro r
    cases r with
    | none => exact nets_pure rfl
    | some c =>
        refine (calm_enter _).bind ?_
        intro _
        refine (Session.nets_startOn plan.session c).bind ?_ ?_
        · intro g; simp [heldBy]
        · intro session
          refine (calm_enter _).bind ?_
          intro _
          refine (calm_note _ _).bind ?_
          intro _
          refine calm_read.bind ?_
          intro w
          refine (nets_harvest plan w.patience session).congr ?_
          intro r
          simp only [heldBy, Option.map_some, Option.getD_some]
          omega

/-! ## Whole runs -/

variable {σ : Type} {handle : Snapshot → Handling σ Unit}

/-- A handler that does nothing on a connection. -/
def Detached (handle : Snapshot → Handling σ Unit) : Prop :=
  ∀ x st w s, Ensures w s ((handle x).run st) fun _ t => t.deeds = s.deeds

/-- A computation in the state of a handler that leaves the balance as it is. -/
def Undisturbed (ρ : Resource) (x : Handling σ α) : Prop := ∀ st, Balanced ρ (x.run st)

theorem undisturbed_bind {β : Type} {x : Handling σ α} {f : α → Handling σ β}
    (hx : Undisturbed ρ x) (hf : ∀ a, Undisturbed ρ (f a)) : Undisturbed ρ (x >>= f) := by
  intro st
  rw [StateT.run_bind]
  exact (hx st).bind (fun _ => rfl) fun p => hf p.1 p.2

theorem undisturbed_lift {x : Run α} (hx : Calm ρ x) : Undisturbed ρ (liftM x : Handling σ α) :=
  fun _ => hx.bind fun _ => nets_pure rfl

theorem undisturbed_site : Undisturbed ρ (getThe Site : Handling σ Site) := undisturbed_lift calm_get

theorem undisturbed_modify {f : Site → Site} (h : ∀ s, (f s).deeds = s.deeds) :
    Undisturbed ρ (modifyThe Site f : Handling σ PUnit) := undisturbed_lift (calm_modify h)

theorem undisturbed_handle (h : Detached handle) (x : Snapshot) : Undisturbed ρ (handle x) := by
  intro st w s
  refine (h x st w s).mono ?_
  intro r t ht
  rw [ht, Int.add_zero]

theorem undisturbed_handleAll (h : Detached handle) (fuel : Nat) :
    Undisturbed ρ (handleAll handle fuel) := by
  induction fuel with
  | zero => exact fun _ => nets_pure rfl
  | succ fuel ih =>
      refine undisturbed_bind undisturbed_site ?_
      intro s
      dsimp only
      split
      · exact fun _ => nets_pure rfl
      · refine undisturbed_bind (undisturbed_modify fun _ => rfl) ?_
        intro _
        refine undisturbed_bind (undisturbed_lift (calm_record (by cases ρ <;> rfl))) ?_
        intro _
        refine undisturbed_bind (undisturbed_handle h _) ?_
        intro _
        exact undisturbed_bind (undisturbed_modify fun _ => rfl) fun _ => ih

theorem undisturbed_drain (h : Detached handle) : Undisturbed ρ (drain handle) := by
  refine undisturbed_bind (undisturbed_lift (calm_noting _)) ?_
  intro _
  refine undisturbed_bind (undisturbed_modify fun _ => rfl) ?_
  intro _
  refine undisturbed_bind undisturbed_site ?_
  intro s
  refine undisturbed_bind (undisturbed_handleAll h _) ?_
  intro _
  exact undisturbed_bind undisturbed_site fun _ => undisturbed_lift (calm_noting _)

/-- The state of a handler is untouched by what the controller does itself. -/
theorem run_lift_bind {β : Type} (x : Run α) (f : α → Handling σ β) (st : σ) :
    ((liftM x : Handling σ α) >>= f).run st = x >>= fun a => (f a).run st := by
  have hlift : (liftM x : Handling σ α).run st = x >>= fun a => pure (a, st) := rfl
  rw [StateT.run_bind, hlift, bind_assoc]
  simp only [pure_bind]

/-- The workers that finish behind the controller disturb nothing. -/
theorem balanced_run (h : Detached handle) (st : σ) :
    Balanced ρ ((Controller.run handle plan).run st) := by
  unfold Controller.run
  rw [run_lift_bind]
  refine (balanced_rounds plan).attemptBind ?_
  intro result
  refine undisturbed_bind (undisturbed_lift (calm_enter _)) ?_ st
  intro _
  refine undisturbed_bind (undisturbed_drain h) ?_
  intro _
  cases result with
  | ok _ => exact undisturbed_bind (undisturbed_lift (calm_note _ _)) fun _ _ => nets_pure rfl
  | error f => exact undisturbed_bind (undisturbed_lift (calm_note _ _)) fun _ _ => nets_pure rfl

/-- **A run closes everything it opens.**  However the world answers and whenever shutdown is asked
for, if the run returns, with or without a fault, then each connection was closed as often as a
connect gave it; the recordings of each id were closed as often as a call that creates or clones one
answered it; and likewise the streams. -/
theorem run_closes (h : Detached handle) {st st' : σ} {w : World} {s t : Site}
    {result : Except Fault Unit} (hfresh : s.deeds = [])
    (hrun : ((Controller.run handle plan).run st).perform w s = (.ok (result, st'), t))
    (ρ : Resource) : t.history.countP ρ.opens = t.history.countP ρ.closes := by
  have hbalance := (balanced_run plan h st (ρ := ρ) w s).of_ok hrun
  simp only [hfresh, Resource.balance, List.countP_nil] at hbalance
  rw [Site.history, List.countP_reverse, List.countP_reverse]
  omega

/-- The uploader works on snapshots and at its desk alone. -/
theorem detached_depot : Detached (Depot.handle : Snapshot → Handling (Depot σ) Unit) :=
  fun _ _ _ _ => rfl

/-- A target that answers one number to every call; shutdown comes in the second harvest sleep. -/
def oneAnswer : World where
  connect _ := .ok 0
  answer _ _ _ := .ok (some (.long 7))
  signal deeds := if deeds.length < 10 then .quiet else .duringSleep
  chance s := s
  logInterval := .zero
  patience := 3

/-- A plan whose snapshots the target copies. -/
def copying : ControllerPlan where
  session := ⟨"default", .onDisk "harvest" (.ofSecs 20), .copy, .bounded⟩
  initialPolicy := .waitForever
  interval := .ofSecs 10

/-- A direct uploader without capabilities. -/
def idleDepot : Depot Aggregate where
  uploader := .new (.direct (.new .empty .epoch (.new (.ofSecs 60) 0))) false
  desk := ⟨.epoch, .empty, .logging⟩

/-- A site with one worker. -/
def smallSite : Site := .new (.new "snapshots" (fun _ => "dir") fun _ => "file") 1 false

/-- The recording and its one clone share the id, and both are closed. -/
theorem run_closes_oneAnswer :
    ∃ result d t, ((Controller.run Depot.handle copying).run idleDepot).perform oneAnswer smallSite =
        (.ok (result, d), t) ∧
      t.history.countP (Resource.recording (fun _ => true) 7).opens = 2 ∧
      t.history.countP (Resource.recording (fun _ => true) 7).closes = 2 := by
  have hended : (((Controller.run Depot.handle copying).run idleDepot).perform oneAnswer
      smallSite).1.isOk = true := by decide +kernel
  have hopened : (((Controller.run Depot.handle copying).run idleDepot).perform oneAnswer
      smallSite).2.history.countP (Resource.recording (fun _ => true) 7).opens = 2 := by
    decide +kernel
  rcases hrun : ((Controller.run Depot.handle copying).run idleDepot).perform oneAnswer smallSite with
    ⟨h | ⟨result, d⟩, t⟩
  · rw [hrun] at hended
    exact nomatch hended
  · rw [hrun] at hopened
    have hclosed := run_closes copying detached_depot rfl hrun (.recording (fun _ => true) 7)
    exact ⟨result, d, t, rfl, hopened, hclosed.symm.trans hopened⟩

end Controller
end RecordingHarvest
