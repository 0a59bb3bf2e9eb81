import RecordingHarvest.Proofs.Delivery.Relay
import RecordingHarvest.Proofs.Delivery.Writing

/-!
# Calls to an uploader, one after the other

An uploader with its desk and its shelf, to which calls come one at a time.  A direct uploader
handles a snapshot in one go.  A queueing one pushes the accepted events one by one, and between two
of them anything else may happen: the consumer looks at the queue, winds up or goes, time passes,
snapshots are laid on the shelf.  A call that comes while another is under way finds the watermark
filter taken, and nothing happens.

* `handleFile_eq`: handling a snapshot is harvesting it, sending a flush that is due, and clearing
  up.
* `handle_pushes`: a call and its pushes do what handling the snapshot does.
-/

namespace RecordingHarvest

variable {σ : Type}

/-! ## The parts of handling a snapshot -/

/-- The events for which a harvest waits. -/
def Harvested.left? : Harvested → Option (List Event)
  | .waiting left => some left
  | .due _ | .settled | .failed _ => none

/-- The events for which a call waits. -/
def Handled.left? : Handled → Option (List Event)
  | .waiting left => some left
  | .done | .failed _ => none

namespace Uploader

/-- Sends a flush that is due. -/
def flushDue : Harvested × Uploader σ → Sending (Harvested × Uploader σ)
  | (.due b, u) => do return (.settled, ← u.flush b)
  | (harvested, u) => return (harvested, u)

/-- Notes a fault, and deletes a snapshot unless its harvest waits. -/
def clearUp (strict : Bool) (shelf : Shelf) (x : Snapshot) (harvested : Harvested)
    (refused : Option RemovalStep := none) : Noting (Handled × Shelf) :=
  match harvested with
  | .waiting left => return (.waiting left, shelf)
  | .due _ | .settled => cleanUp strict shelf x refused
  | .failed f => do
    note .warn ("Skipping snapshot " ++ shelf.filePath x ++ ": " ++ f.message)
    cleanUp strict shelf x refused

theorem handleFile_eq (u : Uploader σ) (shelf : Shelf) (x : Snapshot)
    (refuses : Desk → Option RemovalStep) :
    u.handleFile shelf x refuses = do
      let (harvested, u) ← u.harvest (shelf.filePath x) (itemsOf shelf x) >>= flushDue
      let (handled, shelf) ← clearUp u.strictCleanup shelf x harvested (refuses (← get))
      return (handled, u, shelf) := by
  unfold handleFile
  rw [bind_assoc]
  refine congrArg (u.harvest (shelf.filePath x) (itemsOf shelf x) >>= ·) ?_
  funext p
  obtain ⟨harvested, u⟩ := p
  cases harvested <;> rfl

/-- Begins a call.  A direct uploader harvests all of it; a queueing one scans, and is left with the
accepted events to push. -/
def takeUp (u : Uploader σ) (path : String) (items : List (Except Fault Event)) :
    Sending (Harvested × Uploader σ) :=
  match u.delivery with
  | .direct _ => u.harvest path items >>= flushDue
  | .queued _ => do
    match ← u.watermark.scan items with
    | .error f => return (.failed f, u)
    | .ok s => return (.waiting s.accepted, u)

/-- Goes on with a call: it pushes one event, or moves the watermark when all are pushed.  A closed
queue is the end of it. -/
def pushOn (u : Uploader σ) (path : String) (found : Scan) (left : List Event) :
    Sending (Harvested × Uploader σ) :=
  match u.delivery, left with
  | .queued q, e :: rest =>
    match q.push e with
    | .done q => return (.waiting rest, { u with delivery := .queued q })
    | .waits => return (.waiting (e :: rest), u)
    | .closed => do
      let (harvested, delivery) ← deliver path found.accepted (.queued q)
      return (harvested, { u with delivery := delivery })
  | _, _ => do return (.settled, ← u.settle path found)

/-- What a filter finds in a snapshot that can be read. -/
def found (u : Uploader σ) (items : List (Except Fault Event)) : Scan :=
  match Watermark.readAll items with
  | .ok events => u.watermark.scanEvents events
  | .error _ => .empty

section

open Sending

variable {may : Entry → Prop} (hmay : ∀ e, Entry.isDelivery e = true → may e)

include hmay

theorem writes_flushDue (p : Harvested × Uploader σ) : Writes may (flushDue p) := by
  obtain ⟨harvested, u⟩ := p
  cases harvested with
  | due b => exact (writes_flush hmay u b).bind fun _ => writes_pure _
  | settled => exact writes_pure _
  | failed f => exact writes_pure _
  | waiting left => exact writes_pure _

theorem writes_takeUp (u : Uploader σ) (path : String) (items : List (Except Fault Event)) :
    Writes may (u.takeUp path items) := by
  unfold takeUp
  cases u.delivery with
  | direct c => exact (writes_harvest hmay u path items).bind (writes_flushDue hmay)
  | queued q =>
      refine (writes_lift (writes_scan hmay u.watermark items)).bind fun r => ?_
      cases r <;> exact writes_pure _

theorem writes_pushOn (u : Uploader σ) (path : String) (found : Scan) (left : List Event) :
    Writes may (u.pushOn path found left) := by
  have hsettle : Writes may (do return (.settled, ← liftM (u.settle path found)) :
      Sending (Harvested × Uploader σ)) :=
    (writes_lift (writes_settle hmay u path found)).bind fun _ => writes_pure _
  unfold pushOn
  cases u.delivery with
  | direct c => exact hsettle
  | queued q =>
      cases left with
      | nil => exact hsettle
      | cons e rest =>
          dsimp only
          cases q.push e with
          | done q => exact writes_pure _
          | waits => exact writes_pure _
          | closed => exact (writes_deliver hmay path _ _).bind fun _ => writes_pure _

end

/-- How a call ends, by how deleting its snapshot went. -/
def ending (strict : Bool) : Except Fault Unit → Handled
  | .ok () => .done
  | .error f => if strict then .failed f else .done

/-- Deleting a snapshot writes lines, and what is left of the shelf does not depend on them. -/
theorem perform_cleanUp (strict : Bool) (shelf : Shelf) (x : Snapshot)
    (refused : Option RemovalStep) (j : Journal) :
    ∃ lines, (∀ e ∈ lines, Entry.isLine e = true) ∧
      Noting.perform (cleanUp strict shelf x refused) j =
        ((ending strict (shelf.remove x refused).1, (shelf.remove x refused).2),
          j.addAll lines) := by
  unfold cleanUp
  rcases shelf.remove x refused with ⟨f | _, shelf'⟩
  · cases strict with
    | true => exact ⟨[], nofun, rfl⟩
    | false => exact ⟨[_], fun e he => List.mem_singleton.1 he ▸ rfl, rfl⟩
  · exact ⟨[], nofun, rfl⟩

/-- The shelf once a harvest was cleared up. -/
def cleared (shelf : Shelf) (x : Snapshot) (harvested : Harvested)
    (refused : Option RemovalStep := none) : Shelf :=
  match harvested.left? with
  | some _ => shelf
  | none => (shelf.remove x refused).2

/-- Where a call stands once its harvest was cleared up. -/
def concluded (strict : Bool) (shelf : Shelf) (x : Snapshot) (harvested : Harvested)
    (refused : Option RemovalStep) : Handled :=
  match harvested.left? with
  | some left => .waiting left
  | none => ending strict (shelf.remove x refused).1

theorem left?_concluded (strict : Bool) (shelf : Shelf) (x : Snapshot) (harvested : Harvested)
    (refused : Option RemovalStep) :
    (concluded strict shelf x harvested refused).left? = harvested.left? := by
  unfold concluded
  cases harvested.left? with
  | some left => rfl
  | none =>
      rcases (shelf.remove x refused).1 with f | _
      · cases strict <;> rfl
      · rfl

theorem perform_clearUp (strict : Bool) (shelf : Shelf) (x : Snapshot) (harvested : Harvested)
    (refused : Option RemovalStep) (j : Journal) :
    ∃ lines, (∀ e ∈ lines, Entry.isLine e = true) ∧
      Noting.perform (clearUp strict shelf x harvested refused) j =
        ((concluded strict shelf x harvested refused, cleared shelf x harvested refused),
          j.addAll lines) := by
  cases harvested with
  | waiting left => exact ⟨[], nofun, rfl⟩
  | due b => exact perform_cleanUp strict shelf x refused j
  | settled => exact perform_cleanUp strict shelf x refused j
  | failed f =>
      let line := Entry.line .warn
        ("Skipping snapshot " ++ shelf.filePath x ++ ": " ++ f.message)
      obtain ⟨lines, hlines, hperform⟩ := perform_cleanUp strict shelf x refused (j.add line)
      refine ⟨line :: lines, fun e he => ?_, hperform⟩
      exact (List.mem_cons.1 he).elim (fun h => h ▸ rfl) (hlines e)

end Uploader

/-! ## The bench -/

/-- A call that has yet to push these events. -/
structure Underway where
  snapshot : Snapshot
  found : Scan
  left : List Event

/-- An uploader at work, with what is around it. -/
structure Bench (σ : Type) where
  uploader : Uploader σ
  desk : Desk
  shelf : Shelf
  /-- What the calls wrote. -/
  journal : Journal
  /-- The call that holds the watermark filter. -/
  underway : Option Underway
  /-- The converter of the queue's consumer. -/
  converter : Converter σ
  /-- What the consumer wrote. -/
  consumerJournal : Journal

/-- What happens at a bench. -/
inductive Act where
  /-- A call for a snapshot begins. -/
  | handle (x : Snapshot)
  /-- The call under way goes on. -/
  | push
  /-- The uploader sends what it still buffers. -/
  | finish
  /-- The consumer looks at the queue. -/
  | look
  /-- The consumer converts what is queued and sends what it buffers. -/
  | windUp
  /-- The consumer goes. -/
  | leave
  /-- A snapshot is laid on the shelf. -/
  | stock (slot : Slot)
  | tick (now : Instant)
  | relabel (common : Attributes)

namespace Bench

/-- Does a part of a call for a snapshot, and clears up behind it. -/
def step (b : Bench σ) (x : Snapshot) (found : Scan) (work : Sending (Harvested × Uploader σ))
    (refused : Option RemovalStep := none) : Bench σ :=
  let ((harvested, u), desk, journal) := Sending.perform work b.desk b.journal
  let ((handled, shelf), journal) :=
    Noting.perform (Uploader.clearUp u.strictCleanup b.shelf x harvested refused) journal
  { b with
    uploader := u, desk := desk, shelf := shelf, journal := journal,
    underway := handled.left?.map fun left => ⟨x, found, left⟩ }

/-- Lets the consumer of a queue do something. -/
def consume (b : Bench σ) (work : Consumer σ → Sending (Consumer σ)) : Bench σ :=
  match b.uploader.delivery with
  | .direct _ => b
  | .queued q =>
    let (c, desk, journal) := Sending.perform (work ⟨q, b.converter⟩) b.desk b.consumerJournal
    { b with
      uploader := { b.uploader with delivery := .queued c.queue }, converter := c.converter,
      desk := desk, consumerJournal := journal }

/-- What reading a snapshot on the shelf yields. -/
def items (b : Bench σ) (x : Snapshot) : List (Except Fault Event) := Uploader.itemsOf b.shelf x

/-- Does one act.  If a call ends with it, the disk may refuse a step of the deletion. -/
def act (b : Bench σ) (a : Act) (refused : Option RemovalStep := none) : Bench σ :=
  match a with
  | .handle x =>
    match b.underway with
    | some _ => b
    | none =>
      b.step x (b.uploader.found (b.items x)) (b.uploader.takeUp (b.shelf.filePath x) (b.items x))
        refused
  | .push =>
    match b.underway with
    | none => b
    | some c =>
      b.step c.snapshot c.found
        (b.uploader.pushOn (b.shelf.filePath c.snapshot) c.found c.left) refused
  | .finish =>
    let (u, desk, journal) := Sending.perform b.uploader.finish b.desk b.journal
    { b with uploader := u, desk := desk, journal := journal }
  | .look => b.consume fun c => do return (← c.look).2
  | .windUp => b.consume Consumer.windUp
  | .leave => b.consume fun c => return { c with queue := c.queue.dropConsumer }
  | .stock slot => { b with shelf := { b.shelf with slots := b.shelf.slots ++ [slot] } }
  | .tick now => { b with desk := { b.desk with now := now } }
  | .relabel common => { b with desk := { b.desk with common := common } }

/-- Does one act after the other, each with the step of a deletion that the disk refuses then. -/
def runDespite (b : Bench σ) (turns : List (Act × Option RemovalStep)) : Bench σ :=
  turns.foldl (fun b t => b.act t.1 t.2) b

/-- Does one act after the other. -/
def run (b : Bench σ) (acts : List Act) : Bench σ := b.runDespite (acts.map (·, none))

theorem runDespite_append (b : Bench σ) (before after : List (Act × Option RemovalStep)) :
    b.runDespite (before ++ after) = (b.runDespite before).runDespite after := List.foldl_append

/-- What a part of a call comes to. -/
theorem step_eq {b : Bench σ} (x : Snapshot) (found : Scan)
    {work : Sending (Harvested × Uploader σ)} {harvested : Harvested} {u : Uploader σ} {d : Desk} {j : Journal}
    (refused : Option RemovalStep)
    (h : Sending.perform work b.desk b.journal = ((harvested, u), d, j)) :
    ∃ lines, (∀ e ∈ lines, Entry.isLine e = true) ∧ b.step x found work refused =
      { b with
        uploader := u, desk := d, shelf := Uploader.cleared b.shelf x harvested refused,
        journal := j.addAll lines,
        underway := harvested.left?.map fun left => ⟨x, found, left⟩ } := by
  obtain ⟨lines, hlines, hclear⟩ :=
    Uploader.perform_clearUp u.strictCleanup b.shelf x harvested refused j
  refine ⟨lines, hlines, ?_⟩
  simp only [step, h, hclear, Uploader.left?_concluded]

/-! ## A call and its pushes -/

/-- The bench once a snapshot was handled in one go. -/
def handled (b : Bench σ) (x : Snapshot) (refused : Option RemovalStep) : Bench σ :=
  let ((handled, u, shelf), desk, journal) :=
    Sending.perform (b.uploader.handleFile b.shelf x fun _ => refused) b.desk b.journal
  { b with
    uploader := u, desk := desk, shelf := shelf, journal := journal,
    underway := handled.left?.map fun left => ⟨x, b.uploader.found (b.items x), left⟩ }

/-- The bench while a call has yet to push these events. -/
def pushing (b : Bench σ) (q : EventQueue Event) (c : Underway) : Bench σ :=
  { b with uploader := { b.uploader with delivery := .queued q }, underway := some c }

/-- Work that comes to what harvesting comes to. -/
theorem step_eq_handled {b c : Bench σ} {x : Snapshot} {work : Sending (Harvested × Uploader σ)}
    (refused : Option RemovalStep) (hshelf : c.shelf = b.shelf)
    (hconverter : c.converter = b.converter)
    (hconsumer : c.consumerJournal = b.consumerJournal)
    (hwork : Sending.perform work c.desk c.journal =
      Sending.perform (b.uploader.harvest (b.shelf.filePath x) (b.items x) >>= Uploader.flushDue)
        b.desk b.journal) :
    c.step x (b.uploader.found (b.items x)) work refused = b.handled x refused := by
  unfold step handled
  rw [hwork, Uploader.handleFile_eq, Sending.perform_bind, hshelf]
  simp only [Sending.perform_bind, Sending.perform_get, Sending.perform_lift,
    Sending.perform_pure, hconverter, hconsumer]
  rfl

/-- Pushing goes on until nothing is left, the queue is full, or it is closed. -/
theorem pushes (b : Bench σ) (x : Snapshot) (found : Scan) (left : List Event)
    (q : EventQueue Event) (refused : Option RemovalStep) :
    ∃ n left', (b.pushing q ⟨x, found, left⟩).runDespite (List.replicate n (.push, refused)) =
        b.pushing (q.pushAll left).1 ⟨x, found, left'⟩ ∧
      match (q.pushAll left).2 with
      | .ok rest => left' = rest
      | .error f => f = .queueClosed ∧ (q.pushAll left).1.consumed = false ∧ left' ≠ [] := by
  induction left generalizing q with
  | nil => exact ⟨0, [], rfl, rfl⟩
  | cons e rest ih =>
      rw [EventQueue.pushAll]
      cases hpush : q.push e with
      | done q' =>
          obtain ⟨n, left', hrun, hrest⟩ := ih q'
          refine ⟨n + 1, left', ?_, hrest⟩
          have hact : (b.pushing q ⟨x, found, e :: rest⟩).act .push refused =
              b.pushing q' ⟨x, found, rest⟩ := by
            simp only [act, pushing, step, Uploader.pushOn, hpush, Sending.perform_pure,
              Uploader.clearUp, Noting.perform_pure, Handled.left?, Option.map_some]
          rw [List.replicate_succ, runDespite, List.foldl_cons, hact, ← runDespite]
          exact hrun
      | waits => exact ⟨0, e :: rest, rfl, rfl⟩
      | closed =>
          exact ⟨0, e :: rest, rfl, rfl, EventQueue.push_eq_closed_iff.1 hpush,
            List.cons_ne_nil _ _⟩

/-- Harvesting a snapshot that can be read is a scan, the pushes, and the last part of a call. -/
theorem harvest_queued {u : Uploader σ} {q : EventQueue Event} (path : String)
    {items : List (Except Fault Event)} {s : Scan} (d : Desk) {j j' : Journal}
    (hdelivery : u.delivery = .queued q)
    (hscan : Noting.perform (u.watermark.scan items) j = (.ok s, j')) :
    Sending.perform (u.harvest path items >>= Uploader.flushDue) d j =
      match q.pushAll s.accepted with
      | (q', .ok []) =>
        Sending.perform (({ u with delivery := .queued q' } : Uploader σ).pushOn path s []) d j'
      | (q', .ok (e :: rest)) => ((.waiting (e :: rest), { u with delivery := .queued q' }), d, j')
      | (_, .error _) => Sending.perform (do
          let (harvested, delivery) ← Uploader.deliver path s.accepted (.queued q)
          return (harvested, { u with delivery := delivery })) d j' := by
  simp only [Uploader.harvest, Sending.perform_bind, Sending.perform_lift, hscan, hdelivery,
    Uploader.deliver]
  rcases q.pushAll s.accepted with ⟨q', f | _ | ⟨e, rest⟩⟩ <;> rfl

/-- A snapshot that can be read is scanned with one line. -/
theorem scan_ok (w : Watermark) {items : List (Except Fault Event)} {events : List Event}
    (hread : Watermark.readAll items = .ok events) : ∃ text, ∀ j, Noting.perform (w.scan items) j =
      (.ok (w.scanEvents events), j.add (.line .debug text)) := by
  unfold Watermark.scan
  rw [hread]
  exact ⟨_, fun _ => rfl⟩

/-- A call to a queueing uploader begins with the scan. -/
theorem handle_readable {b : Bench σ} {x : Snapshot} {q : EventQueue Event} {s : Scan} {j : Journal}
    (refused : Option RemovalStep) (hfree : b.underway = none)
    (hdelivery : b.uploader.delivery = .queued q)
    (hfound : b.uploader.found (b.items x) = s)
    (hscan : Noting.perform (b.uploader.watermark.scan (b.items x)) b.journal = (.ok s, j)) :
    b.act (.handle x) refused =
      ({ b with journal := j } : Bench σ).pushing q ⟨x, s, s.accepted⟩ := by
  simp only [act, hfree, step, Uploader.takeUp, hdelivery, Sending.perform_bind,
    Sending.perform_lift, hscan, Sending.perform_pure, Uploader.clearUp, Noting.perform_pure,
    Handled.left?, Option.map_some, hfound, pushing]
  rw [← hdelivery]

/-- A queue that refused an event refuses them all when they are pushed again. -/
theorem deliver_refused {q q' : EventQueue Event} {events : List Event} (path : String)
    (hall : q.pushAll events = (q', .error .queueClosed)) (hclosed : q'.consumed = false) :
    Uploader.deliver path events (.queued q' : Delivery σ) =
      Uploader.deliver path events (.queued q) := by
  have hne : events ≠ [] := by
    rintro rfl
    exact nomatch (Prod.mk.inj hall).2
  simp only [Uploader.deliver, hall, EventQueue.pushAll_closed hclosed hne]

/-- The bench once a snapshot was harvested of which some events wait for room. -/
theorem handled_waiting {b : Bench σ} {x : Snapshot} {left : List Event} {u : Uploader σ}
    {j : Journal} (refused : Option RemovalStep)
    (h : Sending.perform (b.uploader.harvest (b.shelf.filePath x) (b.items x) >>= Uploader.flushDue)
      b.desk b.journal = ((.waiting left, u), b.desk, j)) :
    b.handled x refused = { b with
      uploader := u, journal := j,
      underway := some ⟨x, b.uploader.found (b.items x), left⟩ } := by
  rw [items] at h
  rw [handled, Uploader.handleFile_eq, Sending.perform_bind, h]
  rfl

/-- A call for a snapshot that can be read, to a queueing uploader.  The scan and the pushes that
go in leave the call with the rest of the events; one more push does the last part of it, unless it
waits for room. -/
theorem handle_pushes_readable {b : Bench σ} {x : Snapshot} {q : EventQueue Event}
    {events : List Event} (refused : Option RemovalStep) (hfree : b.underway = none)
    (hdelivery : b.uploader.delivery = .queued q)
    (hread : Watermark.readAll (b.items x) = .ok events) :
    ∃ n, b.runDespite ((.handle x, refused) :: List.replicate n (.push, refused)) =
      b.handled x refused := by
  let s := b.uploader.watermark.scanEvents events
  have hfound : b.uploader.found (b.items x) = s := by simp only [Uploader.found, hread]; rfl
  obtain ⟨text, hscans⟩ := scan_ok b.uploader.watermark hread
  let c : Bench σ := { b with journal := b.journal.add (.line .debug text) }
  have hscan : Noting.perform (b.uploader.watermark.scan (b.items x)) b.journal =
      (.ok s, c.journal) := hscans b.journal
  obtain ⟨n, left', hpushes, hend⟩ := pushes c x s s.accepted q refused
  have hrun : ∀ m,
      b.runDespite ((.handle x, refused) :: List.replicate (n + m) (.push, refused)) =
        (c.pushing (q.pushAll s.accepted).1 ⟨x, s, left'⟩).runDespite
          (List.replicate m (.push, refused)) := by
    intro m
    rw [runDespite, List.foldl_cons, handle_readable refused hfree hdelivery hfound hscan,
      ← List.replicate_append_replicate, ← runDespite, runDespite_append, hpushes]
  have hlast : Sending.perform (({ b.uploader with
        delivery := .queued (q.pushAll s.accepted).1 } : Uploader σ).pushOn
          (b.shelf.filePath x) s left') b.desk c.journal =
        Sending.perform (b.uploader.harvest (b.shelf.filePath x) (b.items x) >>=
          Uploader.flushDue) b.desk b.journal →
      ∃ n, b.runDespite ((.handle x, refused) :: List.replicate n (.push, refused)) =
        b.handled x refused := by
    intro hwork
    refine ⟨n + 1, (hrun 1).trans ?_⟩
    rw [← hfound] at hwork ⊢
    exact step_eq_handled refused rfl rfl rfl hwork
  have hharvest := harvest_queued (b.shelf.filePath x) b.desk hdelivery hscan
  rcases hall : q.pushAll s.accepted with ⟨q', f | rest⟩ <;> rw [hall] at hend hharvest hlast hrun
  · obtain ⟨rfl, hclosed, hne⟩ := hend
    obtain ⟨e, rest, rfl⟩ := List.exists_cons_of_ne_nil hne
    refine hlast (Eq.trans ?_ hharvest.symm)
    simp only [Uploader.pushOn, EventQueue.push_eq_closed_iff.2 hclosed,
      deliver_refused _ hall hclosed]
  · obtain rfl := hend
    cases left' with
    | nil => exact hlast hharvest.symm
    | cons e rest =>
        refine ⟨n, (hrun 0).trans ?_⟩
        rw [handled_waiting refused hharvest, hfound]
        rfl

/-- **A call and its pushes do what handling the snapshot does**, as far as that gets without
anything else happening in between, and whatever the disk refuses. -/
theorem handle_pushes (b : Bench σ) (x : Snapshot) (refused : Option RemovalStep)
    (hfree : b.underway = none) :
    ∃ n, b.runDespite ((.handle x, refused) :: List.replicate n (.push, refused)) =
      b.handled x refused := by
  have hbegin : b.act (.handle x) refused = b.step x (b.uploader.found (b.items x))
      (b.uploader.takeUp (b.shelf.filePath x) (b.items x)) refused := by
    simp only [act, hfree]
  cases hdelivery : b.uploader.delivery with
  | direct c =>
      refine ⟨0, hbegin.trans (step_eq_handled refused rfl rfl rfl ?_)⟩
      simp only [Uploader.takeUp, hdelivery]
  | queued q =>
      cases hread : Watermark.readAll (b.items x) with
      | error f =>
          refine ⟨0, hbegin.trans (step_eq_handled refused rfl rfl rfl ?_)⟩
          simp only [Uploader.takeUp, Uploader.harvest, hdelivery, Watermark.scan, hread]
          rfl
      | ok events => exact handle_pushes_readable refused hfree hdelivery hread

end Bench
end RecordingHarvest
