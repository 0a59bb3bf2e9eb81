import RecordingHarvest.Proofs.Recording.Composing
import RecordingHarvest.Proofs.Site.Standing

/-!
# What leaves the snapshots alone

Everything that a run does between its snapshots, and within one, leaves the hand-over of snapshots
alone: none is begun, queued, taken up by a worker or counted, and the workers are as they were.
`Run.Abstaining` says so of a computation, whatever its outcome.

* `Abstaining.bind`, `Abstaining.attempt`: one computation after the other, and with a fault caught.
* `composes_abstaining`: so all computations abstain that have nothing else in them.
* `Capture.abstaining_take`: taking a snapshot queues nothing; that is left to the controller.
-/

namespace RecordingHarvest

variable {α β : Type}

/-- Whether a deed is part of handing a snapshot over. -/
def Deed.isHandover : Deed → Bool
  | .began | .captured _ | .handled _ => true
  | _ => false

/-- The site `t` comes after `s`, no snapshot was begun, queued, taken up or counted in between, and
a shutdown that was asked for was noticed. -/
structure Site.Abstains (s t : Site) : Prop where
  pool : t.pool = s.pool
  stopping : s.stopping = true → t.stopping = true
  snapshots : t.journal.increments .snapshots = s.journal.increments .snapshots
  history : ∃ later, t.history = s.history ++ later ∧ ∀ d ∈ later, d.isHandover = false
  noticed : .stopped ∈ t.history → .stopped ∈ s.history ∨ t.stopping = true

namespace Site.Abstains

variable {s t u : Site}

theorem refl (s : Site) : s.Abstains s :=
  ⟨rfl, id, rfl, ⟨[], (List.append_nil _).symm, nofun⟩, .inl⟩

theorem trans (hst : s.Abstains t) (htu : t.Abstains u) : s.Abstains u := by
  obtain ⟨first, hfirst, hnone⟩ := hst.history
  obtain ⟨second, hsecond, hnone'⟩ := htu.history
  refine ⟨htu.pool.trans hst.pool, htu.stopping ∘ hst.stopping,
    htu.snapshots.trans hst.snapshots, ⟨first ++ second, ?_, fun d hd => ?_⟩, fun hstopped => ?_⟩
  · rw [hsecond, hfirst, List.append_assoc]
  · exact (List.mem_append.1 hd).elim (hnone d) (hnone' d)
  · exact (htu.noticed hstopped).elim (fun h => (hst.noticed h).imp_right htu.stopping) .inr

/-- A site that differs in its clock, phase or shelf, and in the journal's other entries. -/
theorem of_eq (hdeeds : t.deeds = s.deeds) (hpool : t.pool = s.pool)
    (hstopping : t.stopping = s.stopping)
    (hsnapshots : t.journal.increments .snapshots = s.journal.increments .snapshots) :
    s.Abstains t := by
  have hhistory : t.history = s.history := congrArg List.reverse hdeeds
  exact ⟨hpool, fun h => hstopping.trans h, hsnapshots,
    ⟨[], by rw [hhistory, List.append_nil], nofun⟩, fun h => .inl (hhistory ▸ h)⟩

/-- One more deed that is no part of a hand-over. -/
theorem did (s : Site) {d : Deed} (hd : d.isHandover = false) (hstopped : d ≠ .stopped) :
    s.Abstains (s.did d) := by
  refine ⟨rfl, id, rfl, ⟨[d], s.history_did d, ?_⟩, fun h => .inl ?_⟩
  · intro e he
    rw [List.mem_singleton.1 he, hd]
  · rw [history_did, List.mem_append] at h
    exact h.resolve_right fun he => hstopped (List.mem_singleton.1 he).symm

theorem asked (s : Site) : s.Abstains s.asked := by
  refine ⟨rfl, fun _ => rfl, rfl, ⟨[.stopped], s.history_did .stopped, ?_⟩, fun _ => .inr rfl⟩
  intro e he
  rw [List.mem_singleton.1 he]
  rfl

end Site.Abstains

namespace Run

/-- A computation that leaves the hand-over of snapshots alone, whatever its outcome. -/
def Abstaining (x : Run α) : Prop := ∀ (w : World) (s : Site), s.Abstains (x.perform w s).2

/-! ## Building computations -/

theorem Abstaining.bind {x : Run α} {f : α → Run β} (hx : Abstaining x)
    (hf : ∀ a, Abstaining (f a)) : Abstaining (x >>= f) := by
  intro w s
  have hfirst := hx w s
  rw [perform_bind]
  rcases hrun : x.perform w s with ⟨h | a, t⟩ <;> rw [hrun] at hfirst
  · exact hfirst
  · exact hfirst.trans (hf a w t)

theorem Abstaining.attempt {x : Run α} (hx : Abstaining x) : Abstaining (Run.attempt x) := by
  intro w s
  have hfirst := hx w s
  rw [perform_attempt]
  rcases hrun : x.perform w s with ⟨(f | _) | a, t⟩ <;> rw [hrun] at hfirst <;> exact hfirst

theorem abstaining_pure (a : α) : Abstaining (pure a) := fun _ s => .refl s

theorem abstaining_fail (f : Fault) : Abstaining (fail f : Run α) := fun _ s => .refl s

theorem abstaining_giveUp : Abstaining (giveUp : Run α) := fun _ s => .refl s

theorem abstaining_ofExcept (r : Except Fault α) : Abstaining (ofExcept r) := by
  cases r with
  | ok a => exact abstaining_pure a
  | error f => exact abstaining_fail f

theorem abstaining_read : Abstaining read := fun _ s => .refl s

theorem abstaining_get : Abstaining get := fun _ s => .refl s

/-! ## What a run does -/

theorem abstaining_note (level : Level) (text : String) : Abstaining (note level text) :=
  fun _ s => .of_eq rfl rfl rfl (Noting.spares_note .snapshots level text s.journal)

theorem abstaining_count {c : Counter} (h : c ≠ .snapshots) (n : Nat) : Abstaining (count c n) :=
  fun _ s => .of_eq rfl rfl rfl (Noting.spares_count h n s.journal)

theorem abstaining_onShelf (step : FileStep) (act : Shelf → Except Fault α × Shelf) :
    Abstaining (onShelf step act) := by
  refine abstaining_read.bind fun w => ?_
  have hcarried : Abstaining (modifyGet fun s =>
      ((w.carry s.deeds step act s.shelf).1,
        { s with shelf := (w.carry s.deeds step act s.shelf).2 })) :=
    fun _ _ => .of_eq rfl rfl rfl rfl
  refine hcarried.bind fun result => ?_
  exact Abstaining.bind (fun _ s => .did s rfl nofun) fun _ => abstaining_ofExcept result

theorem abstaining_receive (x : Snapshot) : Abstaining (receive x) :=
  fun _ _ => .of_eq rfl rfl rfl rfl

theorem abstaining_clear (x : Snapshot) : Abstaining (clear x) := fun _ _ => .of_eq rfl rfl rfl rfl

theorem abstaining_discard (x : Snapshot) : Abstaining (discard x) := by
  refine fun w s => .of_eq rfl rfl rfl ?_
  show (Noting.perform (s.shelf.discard x) s.journal).2.increments .snapshots = _
  unfold Shelf.discard
  split
  · rfl
  · exact Noting.spares_note .snapshots .warn _ s.journal

theorem abstaining_record {d : Deed} (hd : d.isHandover = false) (hstopped : d ≠ .stopped) :
    Abstaining (record d) := fun _ s => .did s hd hstopped

theorem abstaining_connect : Abstaining connect := by
  refine abstaining_read.bind fun w => abstaining_get.bind fun s => ?_
  exact (abstaining_record (d := .attempted _) rfl nofun).bind fun _ => abstaining_ofExcept _

theorem abstaining_invoke (connection : Nat) (call : Remote.Invocation) :
    Abstaining (invoke connection call) := by
  refine abstaining_read.bind fun w => abstaining_get.bind fun s => ?_
  exact (abstaining_record (d := .invoked ..) rfl nofun).bind fun _ => abstaining_ofExcept _

theorem abstaining_close (connection : Nat) : Abstaining (close connection) :=
  abstaining_record (d := .closed _) rfl nofun

theorem abstaining_enter (phase : Phase) : Abstaining (enter phase) :=
  fun _ _ => .of_eq rfl rfl rfl rfl

/-- Listening finds nothing or that shutdown was asked for. -/
theorem abstaining_listen : Abstaining listen := by
  intro w s
  obtain ⟨a, hquiet | hasked⟩ := listen_finds w s
  · rw [hquiet]; exact .refl s
  · rw [hasked]; exact .asked s

theorem abstaining_stopping : Abstaining stopping := by
  intro w s
  obtain ⟨a, hquiet | hasked⟩ := stopping_finds w s
  · rw [hquiet]; exact .refl s
  · rw [hasked]; exact .asked s

theorem abstaining_pause (span : Span) : Abstaining (pause span) := by
  refine (abstaining_record (d := .paused _) rfl nofun).bind fun _ => ?_
  refine Abstaining.bind (fun _ _ => .of_eq rfl rfl rfl rfl) fun _ => ?_
  exact abstaining_listen.bind fun _ => abstaining_pure _

theorem abstaining_rest (span : Span) : Abstaining (rest span) := by
  refine (abstaining_record (d := .rested _) rfl nofun).bind fun _ => ?_
  exact abstaining_listen.bind fun _ => abstaining_pure _

end Run

/-! ## Captures, retries, sessions -/

namespace Run

/-- Whether the hand-over is left alone is told by the parts of a computation. -/
theorem composes_abstaining : Composes (fun _ x => Abstaining x) fun _ => True where
  bind := Abstaining.bind
  attempt := Abstaining.attempt
  pure := abstaining_pure
  fail := abstaining_fail
  giveUp := abstaining_giveUp
  read := abstaining_read
  get := abstaining_get
  note := abstaining_note
  reconnects := abstaining_count (c := .reconnects) nofun 1
  onShelf := abstaining_onShelf
  receive := abstaining_receive
  clear := abstaining_clear
  discard := abstaining_discard
  connect := abstaining_connect
  invoke c call _ := abstaining_invoke c call
  close := abstaining_close
  pause := abstaining_pause
  rest := abstaining_rest
  stopping := abstaining_stopping
  enter := abstaining_enter

end Run

open Run (Abstaining composes_abstaining)

/-- **Taking a snapshot queues nothing.** -/
theorem Capture.abstaining_take (c : Nat) (method : CaptureMethod) (recording : Int) :
    Abstaining (take method c recording) :=
  composes_abstaining.take (fun _ _ _ => trivial) method recording

theorem Retry.abstaining_connectUntilStopped (abandon : Bool) (policy : BackoffPolicy) :
    Abstaining (connectUntilStopped abandon policy) :=
  composes_abstaining.connectUntilStopped abandon policy

namespace Session

theorem abstaining_startOn (plan : SessionPlan) (c : Nat) : Abstaining (startOn plan c) :=
  composes_abstaining.startOn (fun _ _ _ => trivial) (fun _ => trivial) c

theorem abstaining_close (s : Session) : Abstaining s.close :=
  composes_abstaining.closeSession (fun _ _ _ => trivial) s

end Session

namespace Controller

variable (plan : ControllerPlan)

theorem abstaining_finish (session : Session) : Abstaining (finish session) :=
  composes_abstaining.finish (fun _ _ _ => trivial) session

theorem abstaining_reconnect (failed : Session) : Abstaining (reconnect plan failed) :=
  composes_abstaining.reconnect (fun _ _ _ => trivial) (fun _ => trivial) failed

end Controller
end RecordingHarvest
