import RecordingHarvest.Proofs.Recording.Discarding

/-!
# Streaming writes the stream

The replies to the reads of a stream are a row of full blocks up to the reply that ends it: nothing,
a block that is not full, or something that is no block at all.  A snapshot that is streamed has the
bytes of that row, the last block included; it reads as often as that takes, and fails if the row is
broken off.

* `Capture.Reply`: what a reply means for the stream.
* `accounts_readBlocks`: the loop that reads the blocks, reply by reply.
* `take_streams`: the snapshot's file.
-/

namespace RecordingHarvest

open Remote (Answer Value)
open Run (Accounts passed)

/-- Whether a deed is a read of a stream. -/
def Deed.isRead : Deed → Bool
  | .invoked _ call _ => call.operation == "readStream"
  | _ => false

namespace Capture

/-- What a reply to a read means for the stream. -/
inductive Reply where
  /-- A block, and there may be more. -/
  | full
  /-- The end: nothing, or a block that is not full. -/
  | last
  /-- A fault, or something that is no block. -/
  | broken
  deriving DecidableEq, Repr

namespace Reply

/-- What this reply means for blocks of this size. -/
def of (blockSize : Nat) : Answer → Reply
  | .ok none => .last
  | .ok (some (.bytes block)) => if block.length < blockSize then .last else .full
  | .ok (some _) | .error _ => .broken

/-- The bytes of a reply. -/
def bytes : Answer → List UInt8
  | .ok (some (.bytes block)) => block
  | _ => []

/-- The bytes of the first `n` replies. -/
def content (replies : Nat → Answer) (n : Nat) : List UInt8 :=
  (List.range n).flatMap fun k => bytes (replies k)

theorem content_succ (replies : Nat → Answer) (n : Nat) :
    content replies (n + 1) = content replies n ++ bytes (replies n) := by
  rw [content, List.range_succ, List.flatMap_append, List.flatMap_singleton, content]

/-- The stream comes to this with the reply after `k` full blocks. -/
def ComesTo (kind : Reply) (blockSize : Nat) (replies : Nat → Answer) (k : Nat) : Prop :=
  of blockSize (replies k) = kind ∧ ∀ j < k, of blockSize (replies j) = .full

/-- A stream comes to one thing only, and once. -/
theorem ComesTo.unique {blockSize : Nat} {replies : Nat → Answer} {kind kind' : Reply} {k k' : Nat}
    (h : ComesTo kind blockSize replies k) (h' : ComesTo kind' blockSize replies k')
    (hkind : kind ≠ .full) (hkind' : kind' ≠ .full) : kind = kind' ∧ k = k' := by
  rcases Nat.lt_trichotomy k k' with hlt | rfl | hlt
  · exact absurd (h.1.symm.trans (h'.2 k hlt)) hkind
  · exact ⟨h.1.symm.trans h'.1, rfl⟩
  · exact absurd (h'.1.symm.trans (h.2 k' hlt)) hkind'

end Reply

/-- The target gives these replies to the reads over this connection, from here on. -/
def Replies (w : World) (start : List Deed) (c : Nat) (replies : Nat → Answer) : Prop :=
  ∀ later call, call.operation = "readStream" →
    w.answer (start ++ later).reverse c call = replies (later.countP Deed.isRead)

section

variable {α β : Type} {w : World} {start ds : List Deed} {s₀ shelf : Shelf} {c n : Nat}
  {blockSize : Nat} {replies : Nat → Answer} {P : List Deed → Shelf → Prop}

/-- After `n` full blocks, which are in the file. -/
def Reading (s₀ : Shelf) (blockSize : Nat) (replies : Nat → Answer) (n : Nat) (ds : List Deed)
    (shelf : Shelf) : Prop :=
  (∀ j < n, Reply.of blockSize (replies j) = .full) ∧ ds.countP Deed.isRead = n ∧
    shelf = s₀.stocked (.whole (Reply.content replies n))

/-- Every read but the last one was answered with a full block. -/
def Eager (blockSize : Nat) (replies : Nat → Answer) (ds : List Deed) : Prop :=
  ∃ n, (∀ j < n, Reply.of blockSize (replies j) = .full) ∧ ds.countP Deed.isRead ≤ n + 1

/-- What reading a stream to its end may come to, with patience for `limit` blocks. -/
def Streamed (s₀ : Shelf) (blockSize : Nat) (replies : Nat → Answer) (limit : Nat) :
    Except Halt α → List Deed → Shelf → Prop
  | .ok _, ds, shelf => ∃ k, Reply.ComesTo .last blockSize replies k ∧
    ds.countP Deed.isRead = k + 1 ∧ shelf = s₀.stocked (.whole (Reply.content replies (k + 1)))
  | .error (.fault _), ds, _ => Eager blockSize replies ds
  | .error .unfinished, ds, _ => Eager blockSize replies ds ∧
    ∀ j < limit, Reply.of blockSize (replies j) = .full

theorem Reading.eager (h : Reading s₀ blockSize replies n ds shelf) : Eager blockSize replies ds :=
  ⟨n, h.1, Nat.le_succ_of_le (Nat.le_of_eq h.2.1)⟩

/-- Whatever becomes of a stream, it is not read on behind its end. -/
theorem Streamed.eager {limit : Nat} {r : Except Halt α}
    (h : Streamed s₀ blockSize replies limit r ds shelf) : Eager blockSize replies ds := by
  rcases r with (f | _) | a
  · exact h
  · exact h.1
  · obtain ⟨k, hk, hreads, -⟩ := h
    exact ⟨k, hk.2, Nat.le_of_eq hreads⟩

/-- A part that fails has not read on. -/
theorem Streamed.of_error {h : Halt} {limit : Nat}
    (hh : (.error h : Except Halt α) ≠ .error .unfinished) (hds : Eager blockSize replies ds) :
    Streamed s₀ blockSize replies limit (.error h : Except Halt β) ds shelf := by
  cases h with
  | fault f => exact hds
  | unfinished => exact absurd rfl hh

/-! ## Reading the blocks -/

/-- The reply that a read finds. -/
theorem accounts_read (hreplies : Replies w start c replies) (stream : Int) :
    Accounts w start (Reading s₀ blockSize replies n) (Recorder.readStream c stream)
      fun r ds shelf => r = passed ((replies n).bind (Recorder.expectBytes "readStream")) ∧
        (∀ j < n, Reply.of blockSize (replies j) = .full) ∧ ds.countP Deed.isRead = n + 1 ∧
        shelf = s₀.stocked (.whole (Reply.content replies n)) := by
  refine Recorder.accounts_readStream c stream ?_
  rintro ds shelf answer ⟨hfull, hreads, hshelf⟩ rfl
  refine ⟨?_, hfull, ?_, hshelf⟩
  · rw [hreplies ds _ rfl, hreads]
  · rw [List.countP_append, hreads]
    rfl

theorem eq_of_expectBytes {answer : Answer} {block : Option (List UInt8)}
    (h : passed (answer.bind (Recorder.expectBytes "readStream")) = .ok block) :
    answer = .ok (block.map .bytes) := by
  match answer with
  | .ok none | .ok (some (.bytes _)) =>
      obtain rfl := Except.ok.inj h
      rfl

/-- A step on disk is no read, and if the disk carries it out, it leaves these bytes in the file. -/
theorem accounts_store (step : FileStep) {act : Shelf → Except Fault α × Shelf} {a : α}
    {old new : List UInt8}
    (hact : act (s₀.stocked (.whole old)) = (.ok a, s₀.stocked (.whole new))) :
    Accounts w start
      (fun ds shelf => ds.countP Deed.isRead = n ∧ shelf = s₀.stocked (.whole old))
      (Run.onShelf step act) fun r ds shelf => r ≠ .error .unfinished ∧
        ds.countP Deed.isRead = n ∧ (r.isOk = true → shelf = s₀.stocked (.whole new)) := by
  refine Run.accounts_onShelf step act ?_
  rintro ds shelf r shelf' ⟨hreads, rfl⟩ hcarry
  refine ⟨Run.passed_ne_unfinished r, ?_, fun hok => ?_⟩
  · rw [List.countP_append, hreads]
    rfl
  · unfold World.carry at hcarry
    split at hcarry
    · obtain ⟨rfl, -⟩ := Prod.mk.inj hcarry
      exact nomatch hok
    · exact (Prod.mk.inj (hact.symm.trans hcarry)).2.symm

/-- One more full block. -/
theorem forall_full_succ (hfull : ∀ j < n, Reply.of blockSize (replies j) = .full)
    (hreply : Reply.of blockSize (replies n) = .full) :
    ∀ j < n + 1, Reply.of blockSize (replies j) = .full := by
  intro j hj
  rcases Nat.lt_succ_iff_lt_or_eq.1 hj with hj | rfl
  · exact hfull j hj
  · exact hreply

/-- **The loop that reads the blocks** has read `n` of them and may read `fuel` more. -/
theorem accounts_readBlocks (hreplies : Replies w start c replies) (stream : Int)
    (fuel n total : Nat) :
    Accounts w start (Reading s₀ blockSize replies n)
      (readBlocks c stream blockSize s₀.next fuel total)
      (Streamed s₀ blockSize replies (n + fuel)) := by
  induction fuel generalizing n total with
  | zero => exact Run.accounts_giveUp fun ds shelf h => ⟨h.eager, h.1⟩
  | succ fuel ih =>
      refine (accounts_read hreplies stream).bind ?_ fun answer => ?_
      · rintro h ds shelf ⟨hr, hfull, hreads, -⟩
        exact .of_error (hr ▸ Run.passed_ne_unfinished _) ⟨n, hfull, Nat.le_of_eq hreads⟩
      cases answer with
      | none =>
          refine .assume fun hr => .assume fun hfull => ?_
          have hreply : replies n = .ok none := eq_of_expectBytes hr.symm
          have hcontent : Reply.content replies (n + 1) = Reply.content replies n := by
            rw [Reply.content_succ, hreply]
            exact List.append_nil _
          refine Run.accounts_pure fun ds shelf h => ⟨n, ⟨?_, hfull⟩, h.1, hcontent ▸ h.2⟩
          rw [hreply, Reply.of]
      | some block =>
          refine .assume fun hr => .assume fun hfull => ?_
          have hreply : replies n = .ok (some (.bytes block)) := eq_of_expectBytes hr.symm
          have hcontent : Reply.content replies (n + 1) = Reply.content replies n ++ block := by
            rw [Reply.content_succ, hreply]
            rfl
          refine (accounts_store _ (s₀.append_whole _ block)).bind
            (fun _ _ _ h => .of_error h.1 ⟨n, hfull, Nat.le_of_eq h.2.1⟩) fun _ => ?_
          rw [← hcontent]
          by_cases hshort : block.length < blockSize
          · have hlast : Reply.of blockSize (replies n) = .last := by
              rw [hreply]
              exact if_pos hshort
            rw [if_pos hshort]
            exact Run.accounts_pure fun ds shelf h => ⟨n, ⟨hlast, hfull⟩, h.2.1, h.2.2 rfl⟩
          · have hmore : Reply.of blockSize (replies n) = .full := by
              rw [hreply]
              exact if_neg hshort
            have hcount : n + (fuel + 1) = n + 1 + fuel := by omega
            rw [if_neg hshort, hcount]
            exact (ih (n + 1) _).weaken fun _ _ h =>
              ⟨forall_full_succ hfull hmore, h.2.1, h.2.2 rfl⟩

/-! ## Everything around the loop -/

/-- A condition that only reads can break. -/
def Aside (P : List Deed → Shelf → Prop) : Prop :=
  ∀ ds shelf d, d.isRead = false → P ds shelf → P (ds ++ [d]) shelf

theorem aside_reading : Aside (Reading s₀ blockSize replies n) := by
  rintro ds shelf d hd ⟨hfull, hreads, hshelf⟩
  refine ⟨hfull, ?_, hshelf⟩
  rw [List.countP_append, hreads, List.countP_singleton, hd]
  rfl

theorem aside_streamed {limit : Nat} (r : Except Halt α) :
    Aside (Streamed s₀ blockSize replies limit r) := by
  intro ds shelf d hd h
  have hcount : (ds ++ [d]).countP Deed.isRead = ds.countP Deed.isRead := by
    rw [List.countP_append, List.countP_singleton, hd]
    rfl
  rcases r with (f | _) | a
  · obtain ⟨n, hfull, hreads⟩ := h
    exact ⟨n, hfull, hcount ▸ hreads⟩
  · obtain ⟨⟨n, hfull, hreads⟩, hlimit⟩ := h
    exact ⟨⟨n, hfull, hcount ▸ hreads⟩, hlimit⟩
  · obtain ⟨k, hk, hreads, hshelf⟩ := h
    exact ⟨k, hk, hcount.trans hreads, hshelf⟩

/-- A call of another operation leaves such a condition as it is. -/
theorem Aside.callLong (hP : Aside P) {operation : String} (h : operation ≠ "readStream")
    (arguments : List Value) :
    Accounts w start P (Recorder.callLong c operation arguments) fun r ds shelf =>
      r ≠ .error .unfinished ∧ P ds shelf :=
  Recorder.accounts_callLong c operation arguments fun ds shelf _ hds =>
    ⟨Run.passed_ne_unfinished _, hP ds shelf _ (beq_eq_false_iff_ne.2 h) hds⟩

theorem Aside.callUnit (hP : Aside P) {operation : String} (h : operation ≠ "readStream")
    (arguments : List Value) :
    Accounts w start P (Recorder.callUnit c operation arguments) fun r ds shelf =>
      r ≠ .error .unfinished ∧ P ds shelf :=
  Recorder.accounts_callUnit c operation arguments fun ds shelf _ hds =>
    ⟨Run.passed_ne_unfinished _, hP ds shelf _ (beq_eq_false_iff_ne.2 h) hds⟩

/-- The file is opened before the first block and flushed behind the last. -/
theorem accounts_copyBlocks (hreplies : Replies w start c replies) (stream : Int) :
    Accounts w start (Reading s₀ blockSize replies 0) (copyBlocks c stream blockSize s₀.next)
      (Streamed s₀ blockSize replies w.patience) := by
  refine Accounts.bind ((accounts_store .opening (s₀.append_whole [] [])).weaken fun _ _ h => h.2)
    (fun _ _ _ h => .of_error h.1 ⟨0, by omega, by omega⟩) fun _ =>
    Run.accounts_read_bind ?_
  have hread : Accounts w start (Reading s₀ blockSize replies 0)
      (readBlocks c stream blockSize s₀.next w.patience 0)
      (Streamed s₀ blockSize replies w.patience) :=
    (accounts_readBlocks hreplies stream w.patience 0 0).mono fun r ds shelf h => by
      rwa [Nat.zero_add] at h
  refine (hread.weaken fun _ _ h => ⟨by omega, h.2.1, h.2.2 rfl⟩).bind ?_ fun total => ?_
  · rintro (f | _) ds shelf h <;> exact h
  refine .exists fun k => .assume fun hk => ?_
  refine (accounts_store .flushing rfl).bind
    (fun _ _ _ h => .of_error h.1 ⟨k, hk.2, Nat.le_of_eq h.2.1⟩) fun _ => ?_
  exact Run.accounts_pure fun ds shelf h => ⟨k, hk, h.2.1, h.2.2 rfl⟩

/-- Closing what was read from changes nothing of what was read. -/
theorem accounts_cleaned {limit : Nat} {x : Run α}
    (hx : Accounts w start P x (Streamed s₀ blockSize replies limit)) {operation : String}
    (h : operation ≠ "readStream") (arguments : List Value) {rest : Except Fault Unit → α → Run β}
    (hrest : ∀ closed a, Accounts w start
      (Streamed s₀ blockSize replies limit (.ok a : Except Halt α)) (rest closed a) (Streamed s₀ blockSize replies limit)) :
    Accounts w start P (Run.attempt x >>= fun done =>
      Run.attempt (Recorder.callUnit c operation arguments) >>= fun closed =>
        Run.ofExcept done >>= rest closed) (Streamed s₀ blockSize replies limit) := by
  exact hx.cleanedBind (fun _ _ h => h)
    (fun done => (aside_streamed (passed done)).callUnit h arguments)
    (fun _ _ _ _ h => h) hrest

/-- What is left to do once the stream was read: the outcome of closing counts. -/
theorem accounts_shut {limit : Nat} (closed : Except Fault Unit) (a : α) :
    Accounts w start (Streamed s₀ blockSize replies limit (.ok a : Except Halt α))
      (Run.ofExcept closed) (Streamed s₀ blockSize replies limit) := by
  refine Run.accounts_ofExcept fun ds shelf h => ?_
  cases closed with
  | ok _ => exact h
  | error f => exact h.eager

theorem accounts_streamClone (hreplies : Replies w start c replies) (clone : Int) :
    Accounts w start (Reading s₀ blockSize replies 0) (streamClone c clone blockSize s₀.next)
      (Streamed s₀ blockSize replies w.patience) := by
  refine (aside_reading.callLong (by decide) _).bind
    (fun _ _ _ h => .of_error h.1 h.2.eager) fun stream => ?_
  refine (Run.idle_note _ _).bind fun _ => ?_
  refine accounts_cleaned ((accounts_copyBlocks hreplies stream).weaken fun _ _ h => h.2)
    (by decide) _ fun closed total => ?_
  refine (accounts_shut closed total).bind ?_ fun _ => ?_
  · rintro (f | _) ds shelf h <;> exact h
  · exact Run.idle_get.bind fun s => (Run.idle_note _ _).accounts fun _ _ _ h => h

theorem accounts_fetchCloned (hreplies : Replies w start c replies) (recording : Int) :
    Accounts w start (Reading s₀ blockSize replies 0)
      (fetchCloned (.stream blockSize) c recording s₀.next)
      (Streamed s₀ blockSize replies w.patience) := by
  refine (aside_reading.callLong (by decide) _).bind
    (fun _ _ _ h => .of_error h.1 h.2.eager) fun clone => ?_
  exact accounts_cleaned ((accounts_streamClone hreplies clone).weaken fun _ _ h => h.2)
    (by decide) _ fun closed a => accounts_shut closed a

/-! ## A snapshot as a whole -/

theorem accounts_takeStream (hreplies : Replies w start c replies) (recording : Int) (s₀ : Shelf) :
    Accounts w start (fun ds shelf => ds = [] ∧ shelf = s₀) (take (.stream blockSize) c recording)
      fun r ds shelf => (∀ x, r = .ok x → x = s₀.next) ∧
        Streamed s₀ blockSize replies w.patience r ds shelf := by
  have hfetched : Accounts w start (Made s₀ (.ok s₀.next))
      (fetchCloned (.stream blockSize) c recording s₀.next)
      (Streamed s₀ blockSize replies w.patience) := by
    refine (accounts_fetchCloned hreplies recording).weaken ?_
    rintro ds shelf ⟨-, rfl, rfl⟩
    exact ⟨by omega, rfl, rfl⟩
  refine accounts_take ?_ hfetched (fun _ _ h => ⟨nofun, h⟩)
    (fun _ _ h => ⟨fun x hx => (Except.ok.inj hx).symm, h⟩) fun f _ _ h => ⟨nofun, h.eager⟩
  rintro (f | _) ds shelf h
  · have hreads : ds.countP Deed.isRead = 0 := List.countP_eq_zero.2 fun d hd => by
      obtain ⟨step, result, rfl⟩ := h.1 d hd
      exact Bool.false_ne_true
    exact ⟨nofun, 0, by omega, by omega⟩
  · exact h.elim

end

/-! ## A snapshot as a whole -/

/-- **A streamed snapshot has the bytes of the stream.** -/
theorem take_streams (blockSize : Nat) (c : Nat) (recording : Int) (w : World) (s : Site)
    (replies : Nat → Answer) (hreplies : Replies w s.history c replies) :
    ∃ later r t, (take (.stream blockSize) c recording).perform w s = (r, t) ∧
      t.history = s.history ++ later ∧
      (∀ x, r = .ok x → ∃ k, Reply.ComesTo .last blockSize replies k ∧
        t.shelf.read? x = some (Reply.content replies (k + 1)) ∧
        later.countP Deed.isRead = k + 1) ∧
      (∀ k, Reply.ComesTo .broken blockSize replies k →
        (∀ x, r ≠ .ok x) ∧ (k < w.patience → ∃ f, r = .error (.fault f))) ∧
      ∀ kind k, kind ≠ .full → Reply.ComesTo kind blockSize replies k →
        later.countP Deed.isRead ≤ k + 1 := by
  have htake : Accounts w s.history (fun ds shelf => ds = [] ∧ shelf = s.shelf)
      (take (.stream blockSize) c recording) _ := accounts_takeStream hreplies recording s.shelf
  obtain ⟨later, hhistory, hnext, hstreamed⟩ := htake.from_start ⟨rfl, rfl⟩
  rcases hrun : (take (.stream blockSize) c recording).perform w s with ⟨r, t⟩
  rw [hrun] at hhistory hnext hstreamed
  refine ⟨later, r, t, rfl, hhistory, ?_, ?_, ?_⟩
  · rintro x rfl
    obtain ⟨k, hlast, hreads, hshelf⟩ := hstreamed
    obtain rfl := hnext x rfl
    refine ⟨k, hlast, ?_, hreads⟩
    show t.shelf.read? s.shelf.next = _
    rw [show t.shelf = _ from hshelf, Shelf.read?_whole]
  · intro k hbroken
    rcases r with (f | _) | x
    · exact ⟨nofun, fun _ => ⟨f, rfl⟩⟩
    · refine ⟨nofun, fun hk => ?_⟩
      have hfull : Reply.of blockSize (replies k) = .full := hstreamed.2 k hk
      exact nomatch hbroken.1.symm.trans hfull
    · obtain ⟨k', hlast, -, -⟩ := hstreamed
      exact nomatch (hlast.unique hbroken (by decide) (by decide)).1
  · intro kind k hkind hk
    obtain ⟨n, hfull, hreads⟩ := hstreamed.eager
    have hn : n ≤ k := Nat.le_of_not_lt fun hlt => hkind (hk.1.symm.trans (hfull k hlt))
    omega

/-- Answers to reads, one after the other; every other call is answered with a number. -/
def brook (replies : Nat → Answer) : World where
  connect _ := .ok 0
  answer deeds _ call :=
    if call.operation = "readStream" then replies (deeds.countP Deed.isRead)
    else .ok (some (.long 7))
  signal _ := .quiet
  chance s := s
  logInterval := .zero
  patience := 5

theorem replies_brook (replies : Nat → Answer) (c : Nat) :
    Replies (brook replies) Site.blank.history c replies := by
  intro later call hread
  have hhistory : Site.blank.history = [] := rfl
  simp [brook, hread, hhistory]

/-- A full block and one that is not full. -/
def trickle : Nat → Answer
  | 0 => .ok (some (.bytes [1, 2]))
  | 1 => .ok (some (.bytes [3]))
  | _ => .ok none

/-- A full block and a text. -/
def muddied : Nat → Answer
  | 0 => .ok (some (.bytes [1, 2]))
  | _ => .ok (some (.text "gone"))

/-- One stream is written to the file with both its blocks, the other makes the snapshot fail. -/
theorem take_streams_trickle :
    (∃ t, (take (.stream 2) 0 1).perform (brook trickle) .blank = (.ok ⟨0⟩, t) ∧
      t.shelf.read? ⟨0⟩ = some [1, 2, 3]) ∧
    ∃ f t, (take (.stream 2) 0 1).perform (brook muddied) .blank = (.error (.fault f), t) := by
  have htaken : ((take (.stream 2) 0 1).perform (brook trickle) .blank).1.toOption = some ⟨0⟩ := by
    decide +kernel
  obtain ⟨later, r, t, hrun, -, hstreamed, -, -⟩ :=
    take_streams 2 0 1 (brook trickle) .blank trickle (replies_brook trickle 0)
  obtain ⟨later', r', t', hrun', -, -, hbroken, -⟩ :=
    take_streams 2 0 1 (brook muddied) .blank muddied (replies_brook muddied 0)
  refine ⟨⟨t, ?_⟩, ?_⟩
  · rw [hrun] at htaken ⊢
    cases r with
    | error h => exact nomatch htaken
    | ok x =>
        obtain rfl := Option.some.inj htaken
        obtain ⟨k, hlast, hread, -⟩ := hstreamed _ rfl
        have hshort : Reply.ComesTo .last 2 trickle 1 := ⟨by decide, by decide⟩
        obtain ⟨-, rfl⟩ := hlast.unique hshort (by decide) (by decide)
        exact ⟨rfl, hread⟩
  · have htext : Reply.ComesTo .broken 2 muddied 1 := ⟨by decide, by decide⟩
    obtain ⟨f, rfl⟩ := (hbroken 1 htext).2 (by decide)
    exact ⟨f, t', hrun'⟩

end Capture
end RecordingHarvest
