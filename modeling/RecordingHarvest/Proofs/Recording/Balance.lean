import RecordingHarvest.Proofs.Site.Ensures

/-!
# What a run holds and gives back

Connections, recordings and streams are opened and must be closed.  `Resource.opens` and
`Resource.closes` tell the deeds that do so, and the *balance* of a run is how many more of the
first kind than of the second it has done.  `Run.Nets` says by how much a computation changes the
balance, for each of its outcomes.

* `Nets.bind`, `Nets.attemptBind`: the balances of two computations add up, also where the fault of
  the first one is caught.
* `Calm` computations change no balance and never fault, so they may stand anywhere.
-/

namespace RecordingHarvest

/-! ## Resources -/

/-- What a run can hold.  Recordings and streams are known by their id, on a set of connections. -/
inductive Resource where
  | connection (number : Nat)
  | recording (on : Nat → Bool) (id : Int)
  | stream (on : Nat → Bool) (id : Int)

namespace Resource

/-- The id that a call answers, if it answers one. -/
def answeredId? : Remote.Answer → Option Int
  | .ok (some (.long n)) => some n
  | _ => none

/-- The id that a call is about, if it is about nothing else. -/
def calledId? (call : Remote.Invocation) : Option Int :=
  match call.arguments with
  | [.long n] => some n
  | _ => none

/-- The deeds that open a resource: a connect that succeeds, and a call that answers the id. -/
def opens : Resource → Deed → Bool
  | connection number, .attempted (.ok c) => c == number
  | recording on id, .invoked c call answer =>
    on c && (call.operation == "newRecording" || call.operation == "cloneRecording") &&
      answeredId? answer == some id
  | stream on id, .invoked c call answer =>
    on c && call.operation == "openStream" && answeredId? answer == some id
  | _, _ => false

/-- The deeds that close a resource, whatever the target answers. -/
def closes : Resource → Deed → Bool
  | connection number, .closed c => c == number
  | recording on id, .invoked c call _ =>
    on c && call.operation == "closeRecording" && calledId? call == some id
  | stream on id, .invoked c call _ =>
    on c && call.operation == "closeStream" && calledId? call == some id
  | _, _ => false

/-- How often a resource was opened and not closed. -/
def balance (ρ : Resource) (deeds : List Deed) : Int := deeds.countP ρ.opens - deeds.countP ρ.closes

/-- What a deed adds to the balance. -/
def change (ρ : Resource) (d : Deed) : Int := (ρ.opens d).toNat - (ρ.closes d).toNat

@[simp] theorem balance_cons (ρ : Resource) (d : Deed) (deeds : List Deed) :
    ρ.balance (d :: deeds) = ρ.balance deeds + ρ.change d := by
  simp only [balance, change, List.countP_cons]
  cases ρ.opens d <;> cases ρ.closes d <;> simp <;> omega

@[simp] theorem balance_snoc (ρ : Resource) (deeds : List Deed) (d : Deed) :
    ρ.balance (deeds ++ [d]) = ρ.balance deeds + ρ.change d := by
  simp only [balance, change, List.countP_append, List.countP_singleton]
  cases ρ.opens d <;> cases ρ.closes d <;> simp <;> omega

/-- What holding a connection counts. -/
def ofConnection : Resource → Nat → Int
  | connection number, c => (c == number).toNat
  | _, _ => 0

/-- What holding a recording on a connection counts. -/
def ofRecording : Resource → Nat → Int → Int
  | recording on id, c, n => (on c && n == id).toNat
  | _, _, _ => 0

/-- What holding a stream on a connection counts. -/
def ofStream : Resource → Nat → Int → Int
  | stream on id, c, n => (on c && n == id).toNat
  | _, _, _ => 0

/-- The operations that open or close anything. -/
def operations : List String :=
  ["newRecording", "cloneRecording", "openStream", "closeRecording", "closeStream"]

/-- Every other operation opens and closes nothing. -/
theorem change_invoked_of_not_mem (ρ : Resource) (c : Nat) {call : Remote.Invocation}
    (answer : Remote.Answer) (h : call.operation ∉ operations) :
    ρ.change (.invoked c call answer) = 0 := by
  simp only [operations, List.mem_cons, List.not_mem_nil, or_false, not_or,
    ← beq_eq_false_iff_ne] at h
  cases ρ <;> simp [change, opens, closes, h]

@[simp] theorem change_attempted_ok (ρ : Resource) (c : Nat) :
    ρ.change (.attempted (.ok c)) = ρ.ofConnection c := by
  cases ρ <;> simp [change, opens, closes, ofConnection]

@[simp] theorem change_attempted_error (ρ : Resource) (f : Fault) :
    ρ.change (.attempted (.error f)) = 0 := by
  cases ρ <;> rfl

@[simp] theorem change_closed (ρ : Resource) (c : Nat) :
    ρ.change (.closed c) = -ρ.ofConnection c := by
  cases ρ <;> simp [change, opens, closes, ofConnection]

/-- Creating or cloning a recording opens the id it answers. -/
theorem change_opening_recording (ρ : Resource) (c : Nat) {call : Remote.Invocation}
    (answer : Remote.Answer)
    (h : call.operation = "newRecording" ∨ call.operation = "cloneRecording") :
    ρ.change (.invoked c call answer) =
      ((answeredId? answer).map (ρ.ofRecording c)).getD 0 := by
  rcases h with h | h <;> cases ρ <;> cases hid : answeredId? answer <;>
    simp [change, opens, closes, ofRecording, h, hid]

theorem change_opening_stream (ρ : Resource) (c : Nat) {call : Remote.Invocation}
    (answer : Remote.Answer) (h : call.operation = "openStream") :
    ρ.change (.invoked c call answer) = ((answeredId? answer).map (ρ.ofStream c)).getD 0 := by
  cases ρ <;> cases hid : answeredId? answer <;> simp [change, opens, closes, ofStream, h, hid]

/-- Closing a recording counts whatever is answered. -/
theorem change_closing_recording (ρ : Resource) (c : Nat) (target : String) (n : Int)
    (answer : Remote.Answer) :
    ρ.change (.invoked c ⟨target, "closeRecording", [.long n]⟩ answer) = -ρ.ofRecording c n := by
  cases ρ <;> simp [change, opens, closes, ofRecording, calledId?]

theorem change_closing_stream (ρ : Resource) (c : Nat) (target : String) (n : Int)
    (answer : Remote.Answer) :
    ρ.change (.invoked c ⟨target, "closeStream", [.long n]⟩ answer) = -ρ.ofStream c n := by
  cases ρ <;> simp [change, opens, closes, ofStream, calledId?]

end Resource

namespace Run

variable {ρ : Resource} {α β : Type}

/-! ## Computations that change no balance -/

/-- A computation that never faults and leaves the balance as it is. -/
def Calm (ρ : Resource) (x : Run α) : Prop :=
  ∀ w s, Ensures w s x fun r t => r.isOk = true ∧ ρ.balance t.deeds = ρ.balance s.deeds

theorem calm_bind {x : Run α} {f : α → Run β} (hx : Calm ρ x) (hf : ∀ a, Calm ρ (f a)) :
    Calm ρ (x >>= f) := by
  intro w s
  refine ensures_bind (hx w s) (fun _ _ h => nomatch h.1) ?_
  intro a t ht
  refine (hf a w t).mono ?_
  intro r u hu
  exact ⟨hu.1, hu.2.trans ht.2⟩

theorem calm_noting (x : Noting α) : Calm ρ (noting x) := fun _ _ => ensures_noting x ⟨rfl, rfl⟩

theorem calm_note (level : Level) (text : String) : Calm ρ (note level text) := calm_noting _

theorem calm_count (counter : Counter) (n : Nat) : Calm ρ (count counter n) := calm_noting _

theorem calm_read : Calm ρ read := fun _ _ => ensures_read ⟨rfl, rfl⟩

theorem calm_get : Calm ρ get := fun _ _ => ensures_get ⟨rfl, rfl⟩

theorem calm_modify {f : Site → Site} (h : ∀ s, (f s).deeds = s.deeds) : Calm ρ (modify f) :=
  fun _ s => ensures_modify f ⟨rfl, congrArg ρ.balance (h s)⟩

theorem calm_enter (phase : Phase) : Calm ρ (enter phase) := fun _ _ => ensures_enter _ ⟨rfl, rfl⟩

theorem calm_discard (x : Snapshot) : Calm ρ (discard x) :=
  fun _ _ => ensures_discard x fun _ _ => ⟨rfl, rfl⟩

theorem calm_receive (x : Snapshot) : Calm ρ (receive x) := fun _ _ => ⟨rfl, rfl⟩

theorem calm_clear (x : Snapshot) : Calm ρ (clear x) := fun _ _ => ⟨rfl, rfl⟩

theorem calm_record {d : Deed} (h : ρ.change d = 0) : Calm ρ (record d) :=
  fun _ s => ensures_record d ⟨rfl, by simp [h]⟩

theorem calm_pause (span : Span) : Calm ρ (pause span) := by
  intro w s
  have hpaused : ρ.change (.paused span) = 0 := by cases ρ <;> rfl
  have hstopped : ρ.change .stopped = 0 := by cases ρ <;> rfl
  exact ensures_pause span ⟨rfl, by simp [hpaused]⟩ ⟨rfl, by simp [hpaused, hstopped]⟩

theorem calm_rest (span : Span) : Calm ρ (rest span) := by
  intro w s
  have hrested : ρ.change (.rested span) = 0 := by cases ρ <;> rfl
  have hstopped : ρ.change .stopped = 0 := by cases ρ <;> rfl
  exact ensures_rest span ⟨rfl, by simp [hrested]⟩ fun _ => ⟨rfl, by simp [hrested, hstopped]⟩

theorem calm_stopping : Calm ρ stopping := by
  intro w s
  have hstopped : ρ.change .stopped = 0 := by cases ρ <;> rfl
  exact ensures_stopping ⟨rfl, rfl⟩ ⟨rfl, by simp [hstopped]⟩

/-! ## The balance of a computation -/

/-- By how much a computation changes the balance, for each of its outcomes. -/
def Nets (ρ : Resource) (x : Run α) (net : Except Fault α → Int) : Prop :=
  ∀ w s, Ensures w s x fun r t => ρ.balance t.deeds = ρ.balance s.deeds + net r

/-- A computation that gives everything back, whatever its outcome. -/
def Balanced (ρ : Resource) (x : Run α) : Prop := Nets ρ x fun _ => 0

theorem Nets.congr {x : Run α} {n m : Except Fault α → Int} (hx : Nets ρ x n)
    (h : ∀ r, n r = m r) : Nets ρ x m := by
  intro w s
  refine (hx w s).mono ?_
  intro r t ht
  rw [ht, h]

theorem Calm.balanced {x : Run α} (hx : Calm ρ x) : Balanced ρ x := by
  intro w s
  refine (hx w s).mono ?_
  intro r t ht
  rw [ht.2, Int.add_zero]

section

variable {net : Except Fault α → Int}

theorem nets_pure {a : α} (h : net (.ok a) = 0) : Nets ρ (pure a) net :=
  fun _ _ => ensures_pure a (by rw [h, Int.add_zero])

theorem nets_fail {f : Fault} (h : net (.error f) = 0) : Nets ρ (fail f) net :=
  fun _ _ => ensures_fail f (by rw [h, Int.add_zero])

theorem nets_giveUp : Nets ρ giveUp net := fun _ _ => ensures_giveUp

theorem nets_ofExcept {r : Except Fault α} (h : net r = 0) : Nets ρ (ofExcept r) net :=
  fun _ _ => ensures_ofExcept r (by rw [h, Int.add_zero])

end

theorem balanced_onShelf (step : FileStep) (act : Shelf → Except Fault α × Shelf) :
    Balanced ρ (onShelf step act) := by
  intro w s
  have hfiled : ∀ r, ρ.change (.filed step r) = 0 := by cases ρ <;> intro r <;> rfl
  exact ensures_onShelf step act fun r shelf => by simp [hfiled]

/-- A call changes the balance as the deed of making it does. -/
theorem nets_invoke (connection : Nat) (call : Remote.Invocation) :
    Nets ρ (invoke connection call) fun r => ρ.change (.invoked connection call r) :=
  fun _ _ => ensures_invoke connection call (by simp)

theorem nets_connect : Nets ρ connect fun r => ρ.change (.attempted r) :=
  fun _ _ => ensures_connect (by simp)

theorem nets_close (connection : Nat) :
    Nets ρ (close connection) fun _ => -ρ.ofConnection connection :=
  fun _ _ => ensures_close connection (by simp)

/-- **Balances add up** along two computations; where the first one faults, its balance is all. -/
theorem Nets.bind {x : Run α} {f : α → Run β} {first : Except Fault α → Int}
    {net : Except Fault β → Int} (hx : Nets ρ x first)
    (hfault : ∀ g, first (.error g) = net (.error g))
    (hf : ∀ a, Nets ρ (f a) fun r => net r - first (.ok a)) : Nets ρ (x >>= f) net := by
  intro w s
  refine ensures_bind (hx w s) ?_ ?_
  · intro g t ht
    rw [ht, hfault]
  · intro a t ht
    refine (hf a w t).mono ?_
    intro r u hu
    simp only [hu, ht]
    omega

/-- The balances also add up where the fault of the first computation is caught. -/
theorem Nets.attemptBind {x : Run α} {f : Except Fault α → Run β} {first : Except Fault α → Int}
    {net : Except Fault β → Int} (hx : Nets ρ x first)
    (hf : ∀ r, Nets ρ (f r) fun q => net q - first r) : Nets ρ (attempt x >>= f) net := by
  intro w s
  refine ensures_bind (ensures_attempt (hx w s)) (fun _ _ => False.elim) ?_
  intro r t ht
  refine (hf r w t).mono ?_
  intro q u hu
  simp only [hu, ht]
  omega

/-- A calm computation may stand before any other. -/
theorem Calm.bind {x : Run α} {f : α → Run β} {net : Except Fault β → Int} (hx : Calm ρ x)
    (hf : ∀ a, Nets ρ (f a) net) : Nets ρ (x >>= f) net := by
  intro w s
  refine ensures_bind (hx w s) (fun _ _ h => nomatch h.1) ?_
  intro a t ht
  refine (hf a w t).mono ?_
  intro r u hu
  rw [hu, ht.2]

/-- What gives everything back stands before what may fault without holding anything. -/
theorem Balanced.bind {x : Run α} {f : α → Run β} {net : Except Fault β → Int}
    (hx : Balanced ρ x) (hfault : ∀ g, net (.error g) = 0) (hf : ∀ a, Nets ρ (f a) net) :
    Nets ρ (x >>= f) net :=
  Nets.bind hx (fun g => (hfault g).symm) fun a => (hf a).congr fun _ => (Int.sub_zero _).symm

end Run
end RecordingHarvest
