import RecordingHarvest.EntityGuid
import RecordingHarvest.Proofs.Recording.Balance
import RecordingHarvest.Proofs.Site.Traces

/-!
# What a resolution asks for and what it leaves

A resolution reads the metadata over one connection after another.  Its outcome is in the replies:
it ends with the first one that does not leave the question open, or when the poll policy gives no
more waits.  `Stands` is what it keeps while the question is open, with every read but the last paid
for by a wait; `Accounts` is what can be told when it ends.

* `Stands.read`, `Stands.wait`, `Stands.opened`, `Stands.closed`: what each step keeps.
* `traces_ask`, `traces_search`: what the two loops keep.
* `resolve_accounts`: a resolution is bounded, gives the guid it was told, sets nothing else, and
  closes every connection it obtained.
-/

namespace RecordingHarvest
namespace EntityGuid

open Remote (Answer Value)
open Run (Traces Waits passed passed_inj)
open Retry (Until)

/-! ## Replies -/

/-- The guid in a reply, if that is a table with one. -/
def guid? : Answer → Option String
  | .ok (some (.table entries)) => entries.get? LinkingMetadata.guidKey
  | _ => none

/-- Replies that leave the question open: a lost connection, or a table without the guid. -/
def isOpen : Answer → Bool
  | .error (.connectionFailed _) => true
  | .ok (some (.table entries)) => (entries.get? LinkingMetadata.guidKey).isNone
  | _ => false

/-- What a deed that reads the metadata was replied. -/
def reply? : Deed → Option Answer
  | .invoked _ call answer =>
    if call.operation = LinkingMetadata.operation then some answer else none
  | _ => none

/-- The replies to the reads of the metadata. -/
def replies (deeds : List Deed) : List Answer := deeds.filterMap reply?

/-- The guid in the first reply that does not leave the question open. -/
def told? (deeds : List Deed) : Option String := ((replies deeds).find? (!isOpen ·)).bind guid?

theorem replies_snoc (deeds : List Deed) (d : Deed) :
    replies (deeds ++ [d]) = replies deeds ++ (reply? d).toList := by
  cases h : reply? d <;> simp [replies, h]

/-- While the question is open, nothing was told. -/
theorem told?_of_isOpen {deeds : List Deed} (h : ∀ answer ∈ replies deeds, isOpen answer = true) :
    told? deeds = none := by
  have hnone : (replies deeds).find? (!isOpen ·) = none := by
    rw [List.find?_eq_none]
    intro answer hmem
    simp [h answer hmem]
  rw [told?, hnone]
  rfl

/-! ## Connections -/

/-- Every connection was closed as often as it was obtained. -/
def AllClosed (deeds : List Deed) : Prop := ∀ c, (Resource.connection c).balance deeds = 0

/-- Whenever a connection is asked for, all earlier ones are closed. -/
def OneByOne (deeds : List Deed) : Prop :=
  ∀ before r after, deeds = before ++ .attempted r :: after → AllClosed before

theorem OneByOne.snoc {deeds : List Deed} {d : Deed} (h : OneByOne deeds)
    (hd : ∀ r, d = .attempted r → AllClosed deeds) : OneByOne (deeds ++ [d]) := by
  have hearlier : ∀ before e after, deeds = before ++ e :: after →
      ∀ r, e = .attempted r → AllClosed before := by
    rintro before e after heq r rfl
    exact h before r after heq
  intro before r after heq
  exact Standing.forall_split_snoc hearlier hd before _ after heq r rfl

/-! ## While the question is open -/

/-- How a resolution stands while the question is open: `held` is the connection at hand, and the
schedule has given a wait for each read but `owed` of them. -/
structure Stands (policy : BackoffPolicy) (held : Option Nat) (owed : Nat) (backoff : Backoff)
    (deeds : List Deed) : Prop where
  isOpen : ∀ answer ∈ replies deeds, isOpen answer = true
  schedule : backoff.policy = policy
  paid : ∀ m, policy.retries = some m → m < Number.width32 →
    (replies deeds).length ≤ backoff.tries + owed ∧ backoff.tries ≤ m
  oneByOne : OneByOne deeds
  holds : ∀ c, (Resource.connection c).balance deeds = (held == some c).toNat

/-- What can be told of a resolution that ends with `guid`. -/
structure Accounts (policy : BackoffPolicy) (held : Option Nat) (guid : Option String)
    (deeds : List Deed) : Prop where
  told : told? deeds = guid
  bounded : ∀ m, policy.retries = some m → m < Number.width32 → (replies deeds).length ≤ m + 1
  oneByOne : OneByOne deeds
  holds : ∀ c, (Resource.connection c).balance deeds = (held == some c).toNat

variable {policy : BackoffPolicy} {held held' : Option Nat} {owed : Nat} {backoff : Backoff}
  {guid : Option String} {deeds : List Deed} {d : Deed}

theorem stands_start (policy : BackoffPolicy) : Stands policy none 0 (.start policy) [] where
  isOpen := nofun
  schedule := rfl
  paid := fun _ _ _ => ⟨Nat.le_refl 0, Nat.zero_le _⟩
  oneByOne := by
    intro before r after h
    simp at h
  holds := fun _ => rfl

/-- A resolution that ends while the question is open was told nothing. -/
theorem Stands.accounts (h : Stands policy held owed backoff deeds) (howed : owed ≤ 1) :
    Accounts policy held none deeds where
  told := told?_of_isOpen h.isOpen
  bounded := by
    intro m hm hlimit
    have hpaid := h.paid m hm hlimit
    omega
  oneByOne := h.oneByOne
  holds := h.holds

/-- What is no read changes at most the connection at hand, and that while none is asked for. -/
theorem Stands.snoc (h : Stands policy held owed backoff deeds) (hreply : reply? d = none)
    (hd : ∀ r, d = .attempted r → held = none)
    (hheld : ∀ c, (held == some c).toNat + (Resource.connection c).change d =
      (held' == some c).toNat) :
    Stands policy held' owed backoff (deeds ++ [d]) where
  isOpen := by simpa [replies_snoc, hreply] using h.isOpen
  schedule := h.schedule
  paid := by simpa [replies_snoc, hreply] using h.paid
  oneByOne := h.oneByOne.snoc fun r hr c => by rw [h.holds c, hd r hr]; rfl
  holds := fun c => by rw [Resource.balance_snoc, h.holds c, hheld c]

theorem Stands.opened (h : Stands policy none owed backoff deeds) (c : Nat) :
    Stands policy (some c) owed backoff (deeds ++ [.attempted (.ok c)]) :=
  h.snoc rfl (fun _ _ => rfl) fun n => by simp [Resource.ofConnection]

/-- Waits and failed attempts to connect leave it where it stands. -/
theorem Stands.refused (h : Stands policy none owed backoff deeds) (f : Fault) :
    Stands policy none owed backoff (deeds ++ [.attempted (.error f)]) :=
  h.snoc rfl (fun _ _ => rfl) fun n => by simp

theorem waits_stands : Waits (Stands policy held owed backoff) where
  paused _ _ h := h.snoc rfl nofun fun _ => by
    simp [Resource.change, Resource.opens, Resource.closes]
  stopped _ h := h.snoc rfl nofun fun _ => by
    simp [Resource.change, Resource.opens, Resource.closes]

theorem Stands.closed {c : Nat} (h : Stands policy (some c) owed backoff deeds) :
    Stands policy none owed backoff (deeds ++ [.closed c]) :=
  h.snoc rfl nofun fun n => by
    rw [Resource.change_closed]
    exact Int.add_right_neg _

theorem Accounts.closed {c : Nat} (h : Accounts policy (some c) guid deeds) :
    Accounts policy none guid (deeds ++ [.closed c]) where
  told := by simpa [told?, replies_snoc, reply?] using h.told
  bounded := by simpa [replies_snoc, reply?] using h.bounded
  oneByOne := h.oneByOne.snoc nofun
  holds := fun n => by
    rw [Resource.balance_snoc, Resource.change_closed, h.holds n]
    exact Int.add_right_neg _

/-- The deed of reading the metadata. -/
def reading (c : Nat) (answer : Answer) : Deed :=
  .invoked c ⟨LinkingMetadata.object, LinkingMetadata.operation, []⟩ answer

@[simp] theorem replies_reading (deeds : List Deed) (c : Nat) (answer : Answer) :
    replies (deeds ++ [reading c answer]) = replies deeds ++ [answer] := replies_snoc ..

theorem balance_reading (n : Nat) (deeds : List Deed) (c : Nat) (answer : Answer) :
    (Resource.connection n).balance (deeds ++ [reading c answer]) =
      (Resource.connection n).balance deeds := by
  have hchange : (Resource.connection n).change (reading c answer) = 0 := rfl
  simp [hchange]

/-- A read whose reply leaves the question open owes a wait. -/
theorem Stands.read (h : Stands policy held owed backoff deeds) (c : Nat) {answer : Answer}
    (hopen : EntityGuid.isOpen answer = true) :
    Stands policy held (owed + 1) backoff (deeds ++ [reading c answer]) where
  isOpen := by
    intro earlier hmem
    rw [replies_reading, List.mem_append, List.mem_singleton] at hmem
    rcases hmem with hmem | rfl
    · exact h.isOpen earlier hmem
    · exact hopen
  schedule := h.schedule
  paid := by
    intro m hm hlimit
    have hpaid := h.paid m hm hlimit
    simp
    omega
  oneByOne := h.oneByOne.snoc nofun
  holds := fun n => by rw [balance_reading, h.holds n]

/-- A read whose reply does not leave the question open settles it. -/
theorem Stands.settled (h : Stands policy held 0 backoff deeds) (c : Nat) {answer : Answer}
    (hopen : EntityGuid.isOpen answer = false) :
    Accounts policy held (guid? answer) (deeds ++ [reading c answer]) where
  told := by
    have hnone : (replies deeds).find? (!EntityGuid.isOpen ·) = none := by
      rw [List.find?_eq_none]
      intro earlier hmem
      simp [h.isOpen earlier hmem]
    simp [told?, List.find?_append, hnone, hopen]
  bounded := by
    intro m hm hlimit
    have hpaid := h.paid m hm hlimit
    simp
    omega
  oneByOne := h.oneByOne.snoc nofun
  holds := fun n => by rw [balance_reading, h.holds n]

/-- A wait pays for a read. -/
theorem Stands.charged (h : Stands policy held 1 backoff deeds) {chance : Span → Span}
    {wait : Span} {backoff' : Backoff} (hnext : backoff.next chance = some (wait, backoff')) :
    Stands policy held 0 backoff' deeds := by
  by_cases hspent : backoff.exhausted = true
  · simp [Backoff.next, hspent] at hnext
  simp only [Backoff.next, hspent, Bool.false_eq_true, ↓reduceIte, Option.some.injEq,
    Prod.mk.injEq] at hnext
  obtain ⟨-, rfl⟩ := hnext
  refine ⟨h.isOpen, h.schedule, ?_, h.oneByOne, h.holds⟩
  intro m hm hlimit
  have hpaid := h.paid m hm hlimit
  have hleft : backoff.tries < m := by
    simpa [Backoff.exhausted, h.schedule, hm] using hspent
  have hcount : min (backoff.tries + 1) tryLimit = backoff.tries + 1 := by
    rw [tryLimit]
    omega
  simp only [hcount]
  omega

/-! ## The loops -/

/-- What a reply is judged to be. -/
def Judges (answer : Answer) : Verdict → Prop
  | .settled guid => isOpen answer = false ∧ guid = guid? answer
  | .pending | .lost => isOpen answer = true

/-- The table in a reply. -/
def tableIn (answer : Answer) : Except Fault (Members String) :=
  answer >>= LinkingMetadata.expectTable LinkingMetadata.operation

/-- What a reply says of the guid. -/
def outcome (answer : Answer) : Except Fault (Option String) :=
  (tableIn answer).map (·.get? LinkingMetadata.guidKey)

/-- A read passes on what its reply says. -/
theorem traces_entityGuid {P : List Deed → Prop} (c : Nat) :
    Traces P (LinkingMetadata.entityGuid c) fun r ds => ∃ before answer,
      P before ∧ ds = before ++ [reading c answer] ∧ r = passed (outcome answer) := by
  have hcall : Traces P (Run.invoke c ⟨LinkingMetadata.object, LinkingMetadata.operation, []⟩)
      fun r ds => ∃ before answer,
        P before ∧ ds = before ++ [reading c answer] ∧ r = passed answer :=
    Run.traces_invoke c _ fun answer ds hds => ⟨ds, answer, hds, rfl, rfl⟩
  have hread : Traces P (LinkingMetadata.read c) fun r ds => ∃ before answer,
      P before ∧ ds = before ++ [reading c answer] ∧ r = passed (tableIn answer) := by
    refine hcall.bind ?_ ?_
    · rintro h ds ⟨before, f | value, hbefore, rfl, hr⟩
      · cases hr
        exact ⟨before, .error f, hbefore, rfl, rfl⟩
      · cases hr
    · intro value
      refine Run.traces_ofExcept ?_
      rintro ds ⟨before, f | replied, hbefore, rfl, hr⟩
      · cases hr
      · cases hr
        exact ⟨before, .ok value, hbefore, rfl, rfl⟩
  refine hread.bind ?_ ?_
  · rintro h ds ⟨before, answer, hbefore, rfl, hr⟩
    refine ⟨before, answer, hbefore, rfl, ?_⟩
    cases htable : tableIn answer with
    | error f => simpa [outcome, htable, Except.map] using hr
    | ok entries => simp [htable] at hr
  · intro entries
    refine Run.traces_pure ?_
    rintro ds ⟨before, answer, hbefore, rfl, hr⟩
    refine ⟨before, answer, hbefore, rfl, ?_⟩
    cases htable : tableIn answer with
    | error f => simp [htable] at hr
    | ok replied =>
        obtain rfl : entries = replied := by simpa [htable] using hr
        simp [outcome, htable, Except.map]

/-- Judging a reply is done in the journal alone. -/
theorem traces_judge {P : List Deed → Prop} (answer : Answer) :
    Traces P (judge (outcome answer)) fun v ds =>
      ∃ verdict, v = .ok verdict ∧ Judges answer verdict ∧ P ds := by
  have hnoted : ∀ (text : String) (verdict : Verdict), Judges answer verdict →
      Traces P (Run.note .info text >>= fun _ => pure verdict) fun v ds =>
        ∃ verdict, v = .ok verdict ∧ Judges answer verdict ∧ P ds := fun text verdict h =>
    (Run.silent_note _ _).bind fun _ => Run.traces_pure fun _ hds => ⟨verdict, rfl, h, hds⟩
  rcases answer with f | _ | value
  · cases f with
    | connectionFailed text => exact hnoted _ .lost rfl
    | _ => exact hnoted _ (.settled none) ⟨rfl, rfl⟩
  · exact hnoted _ (.settled none) ⟨rfl, rfl⟩
  · cases value with
    | table entries =>
        cases hguid : entries.get? LinkingMetadata.guidKey with
        | none =>
            have hopen : isOpen (.ok (some (.table entries))) = true := by simp [isOpen, hguid]
            have houtcome : outcome (.ok (some (.table entries))) = .ok none :=
              congrArg Except.ok hguid
            rw [houtcome]
            exact Run.traces_pure fun _ hds => ⟨.pending, rfl, hopen, hds⟩
        | some guid =>
            have hopen : isOpen (.ok (some (.table entries))) = false := by simp [isOpen, hguid]
            have houtcome : outcome (.ok (some (.table entries))) = .ok (some guid) :=
              congrArg Except.ok hguid
            rw [houtcome]
            exact hnoted _ (.settled (some guid)) ⟨hopen, hguid.symm⟩
    | _ => exact hnoted _ (.settled none) ⟨rfl, rfl⟩

/-- How a resolution stands with a verdict on its last read. -/
def Judged (policy : BackoffPolicy) (held : Option Nat) (backoff : Backoff) :
    Except Halt Verdict → List Deed → Prop
  | .ok (.settled guid) => Accounts policy held guid
  | .ok .pending | .ok .lost => Stands policy held 1 backoff
  | .error _ => fun _ => False

/-- A read and its verdict, while the question was open before. -/
theorem traces_judge_read (c : Nat) (r : Except Fault (Option String)) :
    Traces (fun ds => ∃ before answer, Stands policy held 0 backoff before ∧
        ds = before ++ [reading c answer] ∧ passed r = passed (outcome answer))
      (judge r) (Judged policy held backoff) := by
  rintro w s start _ hs ⟨before, answer, hstands, rfl, hr⟩
  obtain rfl := passed_inj.1 hr
  obtain ⟨_, hs', verdict, hv, hjudges, rfl⟩ :=
    traces_judge (P := (· = before ++ [reading c answer])) answer w s start _ hs rfl
  refine ⟨_, hs', ?_⟩
  rw [hv]
  cases verdict with
  | settled guid =>
      obtain ⟨hclosed, rfl⟩ := hjudges
      exact hstands.settled c hclosed
  | pending => exact hstands.read c hjudges
  | lost => exact hstands.read c hjudges

/-- What is kept while asking on one connection. -/
def Asked (policy : BackoffPolicy) (held : Option Nat) :
    Except Halt (Lookup × Backoff) → List Deed → Prop
  | .ok (.settled guid, _) => Accounts policy held guid
  | .ok (.reconnect, backoff) => Stands policy held 0 backoff
  | .error (.fault _) => fun _ => False
  | .error .unfinished => Accounts policy held none

/-- A schedule that has no wait left settles for nothing. -/
theorem traces_exhausted {text : String} :
    Traces (Stands policy held 1 backoff)
      (Run.note .info text >>= fun _ => pure (.settled none, backoff)) (Asked policy held) :=
  (Run.silent_note _ _).bind fun _ => Run.traces_pure fun _ hds => hds.accounts (Nat.le_refl 1)

/-- A wait pays for the last read. -/
theorem traces_waited {chance : Span → Span} {given : Span × Backoff}
    (hnext : backoff.next chance = some given) {text : String} {x : Run (Lookup × Backoff)}
    (hx : Traces (Stands policy held 0 given.2) x (Asked policy held)) :
    Traces (Stands policy held 1 backoff)
      (Run.note .info text >>= fun _ => Run.pause given.1 >>= fun _ => x) (Asked policy held) := by
  refine (Run.silent_note _ _).bind ?_
  intro _
  refine ((Run.traces_pause waits_stands given.1).weaken fun _ h => h.charged hnext).bind ?_ ?_
  · exact fun _ _ h => nomatch h.1
  · exact fun _ => hx.weaken fun _ h => h.2

/-- **Asking on one connection** keeps it, and every read that leaves the question open is paid for
before the next one. -/
theorem traces_ask (c fuel : Nat) (backoff : Backoff) :
    Traces (Stands policy held 0 backoff) (ask c fuel backoff) (Asked policy held) := by
  induction fuel generalizing backoff with
  | zero => exact Run.traces_giveUp fun _ hds => hds.accounts (Nat.zero_le _)
  | succ fuel ih =>
      refine (traces_entityGuid c).attemptBind ?_ ?_
      · rintro ds ⟨before, answer, -, -, hr⟩
        exact absurd hr.symm (Run.passed_ne_unfinished _)
      intro r
      refine (traces_judge_read c r).bind (fun _ _ => False.elim) ?_
      intro verdict
      cases verdict with
      | settled guid => exact Run.traces_pure fun _ hds => hds
      | pending =>
          refine Run.silent_read.bind ?_
          intro w
          cases hnext : backoff.next w.chance with
          | none => exact traces_exhausted
          | some given => exact traces_waited hnext (ih _)
      | lost =>
          refine Run.silent_read.bind ?_
          intro w
          cases hnext : backoff.next w.chance with
          | none => exact traces_exhausted
          | some given => exact traces_waited hnext (Run.traces_pure fun _ hds => hds)

theorem Asked.closed {c : Nat} {answered : Lookup × Backoff}
    (h : Asked policy (some c) (.ok answered) deeds) :
    Asked policy none (.ok answered) (deeds ++ [.closed c]) := by
  obtain ⟨guid | _, backoff⟩ := answered
  · exact Accounts.closed h
  · exact Stands.closed h

/-- What is kept while searching over one connection after the other. -/
def Searched (policy : BackoffPolicy) : Except Halt (Option String) → List Deed → Prop
  | .ok guid => Accounts policy none guid
  | .error (.fault _) => Accounts policy none none
  | .error .unfinished => fun ds => ∃ held, Accounts policy held none ds

/-- **Searching** closes each connection before it obtains the next one, and takes the schedule
over from one to the next. -/
theorem traces_search (fuel : Nat) (backoff : Backoff) :
    Traces (Stands policy none 0 backoff) (search fuel backoff) (Searched policy) := by
  induction fuel generalizing backoff with
  | zero => exact Run.traces_giveUp fun _ hds => ⟨none, hds.accounts (Nat.zero_le _)⟩
  | succ fuel ih =>
      have hconnect := Retry.traces_connect (P := Stands policy none 0 backoff) waits_stands
        (fun f _ hds => hds.refused f) (fun c _ hds => hds.opened c) .waitForever
      refine hconnect.bind ?_ ?_
      · rintro (f | _) ds hds
        · exact hds.accounts (Nat.zero_le _)
        · exact ⟨none, hds.accounts (Nat.zero_le _)⟩
      intro c
      refine Run.silent_read.bind ?_
      intro w
      refine (traces_ask c w.patience backoff).bind ?_ ?_
      · rintro (f | _) ds hds
        · exact hds.elim
        · exact ⟨some c, hds⟩
      rintro ⟨lookup, backoff⟩
      have hclose : Traces (Asked policy (some c) (.ok (lookup, backoff))) (Run.close c) fun r ds =>
          r = .ok () ∧ Asked policy none (.ok (lookup, backoff)) ds :=
        Run.traces_close c fun _ hds => ⟨rfl, hds.closed⟩
      refine hclose.bind (fun _ _ hds => nomatch hds.1) ?_
      intro _
      cases lookup with
      | settled guid => exact Run.traces_pure fun _ hds => hds.2
      | reconnect => exact (ih backoff).weaken fun _ hds => hds.2

/-! ## A resolution -/

/-- The common attributes after a resolution: what that gave, or what they were if it faulted. -/
def commonAfter (common : Attributes) : Except Halt (Option String × Attributes) → Attributes
  | .ok (_, published) => published
  | .error _ => common

/-- What can be told of a resolution. -/
def Resolved (policy : BackoffPolicy) (common : Attributes) :
    Except Halt (Option String × Attributes) → List Deed → Prop
  | .ok (guid, published) => fun ds =>
    Accounts policy none guid ds ∧ published = publish common guid
  | .error (.fault f) => Searched policy (.error (.fault f))
  | .error .unfinished => Searched policy (.error .unfinished)

theorem traces_resolve (policy : BackoffPolicy) (common : Attributes) :
    Traces (· = []) (resolve policy common) (Resolved policy common) := by
  refine Run.silent_read.bind ?_
  intro w
  have hsearch : Traces (· = []) (search w.patience (.start policy)) (Searched policy) := by
    refine (traces_search w.patience (.start policy)).weaken ?_
    rintro _ rfl
    exact stands_start policy
  refine hsearch.bind ?_ ?_
  · rintro (f | _) ds hds
    · exact hds
    · exact hds
  · exact fun guid => Run.traces_pure fun _ hds => ⟨hds, rfl⟩

theorem publish_get? (common : Attributes) (guid name : String) :
    (publish common (some guid)).get? name =
      if name = Attributes.entityGuid then some (.str guid) else common.get? name := by
  by_cases hname : name = Attributes.entityGuid
  · rw [if_pos hname, hname]
    exact Members.get?_put_self ..
  · rw [if_neg hname]
    exact Members.get?_put_of_ne _ _ hname

/-- **Entity resolution is bounded, leaves nothing open and sets the guid or nothing.**  A policy
with `m` retries reads the metadata at most `m + 1` times.  A guid is given exactly if it is in the
first reply that is neither a lost connection nor a table without one; then it alone is set in the
common attributes, and otherwise these stay as they were.  Every connection is closed before the
next one is asked for, and at the end. -/
theorem resolve_accounts (policy : BackoffPolicy) (common : Attributes) (w : World) (s : Site) :
    ∃ r t later, (resolve policy common).perform w s = (r, t) ∧ t.history = s.history ++ later ∧
      (∀ m, policy.retries = some m → m < Number.width32 → (replies later).length ≤ m + 1) ∧
      (∀ guid, (∃ published, r = .ok (some guid, published)) ↔ told? later = some guid) ∧
      (∀ guid, told? later = some guid → ∀ name, (commonAfter common r).get? name =
        if name = Attributes.entityGuid then some (.str guid) else common.get? name) ∧
      (told? later = none → commonAfter common r = common) ∧
      OneByOne later ∧ (r ≠ .error .unfinished → AllClosed later) := by
  obtain ⟨later, hlater, hresolved⟩ :=
    traces_resolve policy common w s s.history [] (List.append_nil _).symm rfl
  rcases hrun : (resolve policy common).perform w s with ⟨r, t⟩
  rw [hrun] at hlater hresolved
  refine ⟨r, t, later, rfl, hlater, ?_⟩
  rcases r with (f | _) | ⟨guid, published⟩
  · have haccounts : Accounts policy none none later := hresolved
    refine ⟨haccounts.bounded, ?_, ?_, fun _ => rfl, haccounts.oneByOne, fun _ => haccounts.holds⟩
    · simp [haccounts.told]
    · simp [haccounts.told]
  · obtain ⟨held, haccounts⟩ := hresolved
    refine ⟨haccounts.bounded, ?_, ?_, fun _ => rfl, haccounts.oneByOne, fun h => absurd rfl h⟩
    · simp [haccounts.told]
    · simp [haccounts.told]
  · obtain ⟨haccounts, rfl⟩ := hresolved
    refine ⟨haccounts.bounded, ?_, ?_, ?_, haccounts.oneByOne, fun _ => haccounts.holds⟩
    · simp [haccounts.told]
    · intro found hfound name
      obtain rfl : guid = some found := haccounts.told.symm.trans hfound
      exact publish_get? common found name
    · intro hnone
      obtain rfl : guid = none := haccounts.told.symm.trans hnone
      rfl

/-- A target that is gone for the first read; over the next connection it has a guid. -/
def flaky : World where
  connect deeds := .ok deeds.length
  answer deeds _ _ :=
    if deeds.length = 1 then .error (.connectionFailed "reset")
    else .ok (some (.tableOf [(LinkingMetadata.guidKey, "abc")]))
  signal _ := .quiet
  chance s := s
  logInterval := .zero
  patience := 3

/-- A site before anything has happened. -/
def idleSite : Site := .new (.new "snapshots" (fun _ => "dir") fun _ => "file") 1 false

/-- One wait is enough for it, and two reads are made. -/
theorem resolve_accounts_flaky : ∃ published later,
    ((resolve (.new .zero .zero (some 1)) .empty).perform flaky idleSite).1.toOption =
        some (some "abc", published) ∧
      (replies later).length = 2 ∧ (replies later).length ≤ 1 + 1 ∧ OneByOne later ∧
      published.get? Attributes.entityGuid = some (.str "abc") := by
  obtain ⟨r, t, later, hrun, hlater, hbounded, htold, hset, -, honeByOne, -⟩ :=
    resolve_accounts (.new .zero .zero (some 1)) .empty flaky idleSite
  have hhistory : t.history = later := hlater
  have hreads : (replies t.history).length = 2 ∧ told? t.history = some "abc" := by
    have ht : t = ((resolve (.new .zero .zero (some 1)) .empty).perform flaky idleSite).2 := by
      rw [hrun]
    rw [ht]
    decide +kernel
  rw [hhistory] at hreads
  obtain ⟨published, rfl⟩ := (htold "abc").2 hreads.2
  refine ⟨published, later, by rw [hrun]; rfl, hreads.1, hbounded 1 rfl (by decide), honeByOne, ?_⟩
  exact hset "abc" hreads.2 Attributes.entityGuid

end EntityGuid
end RecordingHarvest
