import Mathlib.Data.List.Forall2
import RecordingHarvest.Remote.Channel
import RecordingHarvest.Proofs.Json.Members
import RecordingHarvest.Proofs.Remote.Fields
import RecordingHarvest.Proofs.Text.Utf8

/-!
# Messages read back

Every message is the bytes of its fields, so it is read back field by field, from the parts up to
the whole: texts, entries, tables, values, requests and responses.  A table is a map on the wire and
its entries may come in any order (`Value.Arranged`); the reader sorts them.

* `Value.Sound`, `Response.Sound`: what a value must be to have a form on the wire.
* `Message.readValue?_write`, `Message.readRequest?_write`, `Message.readResponse?_write`: each
  message comes back, however its tables were arranged.
* `Message.null_iff`: which responses answer nothing.
* `Channel.carries`: calls and answers get through whole, and no two of them look alike.
-/

namespace RecordingHarvest
namespace Remote

/-! ## Values and their arrangements -/

/-- A value as it is kept: a long of 64 bits, and a table sorted by name. -/
def Value.Sound : Value → Prop
  | .long n => -(Number.width63 : Int) ≤ n ∧ n < Number.width63
  | .table entries => Members.Sorted entries
  | _ => True

/-- The value, with the entries of a table in some order. -/
inductive Value.Arranged : Value → Value → Prop where
  | same (v : Value) : Value.Arranged v v
  | table {entries order : List (String × String)} (h : order.Perm entries) :
      Value.Arranged (.table entries) (.table order)

/-- The call, with the tables among its arguments in some order. -/
structure Invocation.Arranged (call sent : Invocation) : Prop where
  target : sent.target = call.target
  operation : sent.operation = call.operation
  arguments : List.Forall₂ Value.Arranged call.arguments sent.arguments

/-- A response as it is kept. -/
def Response.Sound (r : Response) : Prop := ∀ v ∈ r.value?, v.Sound

/-- The response, with the entries of a table in some order. -/
def Response.Arranged (r sent : Response) : Prop :=
  Option.Rel (Option.Rel Value.Arranged) r.result sent.result

namespace Message

/-! ## Texts -/

@[simp] theorem text?_bytesOf (s : String) : text? (.block (Text.bytesOf s)) = some s := by
  simp [text?, Text.bytesOf, Text.decode?_encode]

/-- The field of a plain text, unless it is left out. -/
def plainFields (number : Nat) (s : String) : List Field :=
  if s.isEmpty then [] else [⟨number, .block (Text.bytesOf s)⟩]

theorem writePlain_eq (number : Nat) (s : String) :
    writePlain number s = (plainFields number s).flatMap Field.write := by
  by_cases hs : s = "" <;> simp [writePlain, plainFields, Field.write, hs]

theorem isBlock_of_mem_plainFields {number : Nat} {s : String} (hpos : 1 ≤ number)
    (hlt : number < 16) {f : Field} (h : f ∈ plainFields number s) : f.IsBlock := by
  by_cases hs : s = ""
  · simp [plainFields, hs] at h
  · obtain rfl : f = ⟨number, .block (Text.bytesOf s)⟩ := by simpa [plainFields, hs] using h
    exact ⟨hpos, hlt, _, rfl⟩

/-! ## Tables -/

/-- The fields of an entry. -/
def entryFields (entry : String × String) : List Field :=
  plainFields 1 entry.1 ++ plainFields 2 entry.2

theorem isBlock_of_mem_entryFields {entry : String × String} :
    ∀ f ∈ entryFields entry, f.IsBlock := by
  intro f h
  rcases List.mem_append.1 h with h | h
  · exact isBlock_of_mem_plainFields (by omega) (by omega) h
  · exact isBlock_of_mem_plainFields (by omega) (by omega) h

theorem readPair?_write {entry : String × String}
    (hfit : ((entryFields entry).flatMap Field.write).length < Number.width64) :
    readPair? ((entryFields entry).flatMap Field.write) = some entry := by
  obtain ⟨key, value⟩ := entry
  rw [readPair?, fields?_write_of_isBlock hfit isBlock_of_mem_entryFields]
  by_cases hkey : key = "" <;> by_cases hvalue : value = "" <;>
    simp [entryFields, plainFields, hkey, hvalue]

/-- The field of an entry in its table. -/
def entryField (entry : String × String) : Field :=
  ⟨1, .block ((entryFields entry).flatMap Field.write)⟩

theorem writeTable_eq (entries : List (String × String)) :
    writeTable entries = (entries.map entryField).flatMap Field.write := by
  have hentry : writeEntry = fun entry => (entryField entry).write := by
    funext entry
    simp [writeEntry, entryField, entryFields, Field.write, writePlain_eq]
  rw [writeTable, List.flatMap_map, hentry]

/-- **A table comes back**: its entries are put one after the other. -/
theorem readTable?_write {entries : List (String × String)} (soFar : Members String)
    (hfit : (writeTable entries).length < Number.width64) :
    readTable? soFar (writeTable entries) = some (soFar.putAll entries) := by
  rw [writeTable_eq] at hfit ⊢
  have hentry : ∀ entry ∈ entries,
      ((entryFields entry).flatMap Field.write).length < Number.width64 := by
    intro entry hmem
    have hfield : entryField entry ∈ entries.map entryField := List.mem_map_of_mem hmem
    exact Nat.lt_trans (length_lt_of_mem hfield) hfit
  have hblock : ∀ f ∈ entries.map entryField, f.IsBlock := by
    intro f hf
    obtain ⟨entry, -, rfl⟩ := List.mem_map.1 hf
    exact ⟨by simp [entryField], by simp [entryField], _, rfl⟩
  rw [readTable?, fields?_write_of_isBlock hfit hblock]
  clear hfit hblock
  simp only [Option.bind_eq_bind, Option.bind_some, List.foldlM_map]
  induction entries generalizing soFar with
  | nil => rfl
  | cons entry rest ih =>
      have hread := readPair?_write (hentry entry List.mem_cons_self)
      simpa [entryField, block?, hread, Members.putAll] using
        ih (soFar.put entry.1 entry.2) fun e he => hentry e (List.mem_cons_of_mem entry he)

/-! ## Values -/

/-- The field of a value. -/
def valueField : Value → Field
  | .long n => ⟨1, .number (n % (Number.width64 : Int)).toNat⟩
  | .bool b => ⟨2, .number b.toNat⟩
  | .text s => ⟨3, .block (Text.bytesOf s)⟩
  | .bytes bs => ⟨4, .block bs⟩
  | .table entries => ⟨5, .block (writeTable entries)⟩

theorem writeValue_eq (v : Value) : writeValue v = [valueField v].flatMap Field.write := by
  cases v <;> simp [writeValue, valueField, Field.write]

theorem plain_valueField {v : Value} (hfit : (writeValue v).length < Number.width64) :
    (valueField v).Plain fun _ => false := by
  rw [writeValue_eq] at hfit
  cases v with
  | long n =>
      refine ⟨by simp [valueField], by simp [valueField], ?_, rfl⟩
      simp only [Number.width64]
      omega
  | bool b =>
      refine ⟨by simp [valueField], by simp [valueField], ?_, rfl⟩
      cases b <;> decide
  | text | bytes | table =>
      exact plain_of_isBlock hfit List.mem_cons_self
        ⟨by simp [valueField], by simp [valueField], _, rfl⟩

/-- A number of 64 bits keeps its sign. -/
theorem signed_of_sound {n : Int} (h : (Value.long n).Sound) :
    signed (n % (Number.width64 : Int)).toNat = n := by
  obtain ⟨hlow, hhigh⟩ := h
  have hhalf : Number.width63 = 9223372036854775808 := rfl
  have hwhole : Number.width64 = 18446744073709551616 := rfl
  rw [hhalf] at hlow hhigh
  rw [signed, hwhole, hhalf]
  by_cases hsign : 0 ≤ n
  · rw [if_pos (by omega)]
    omega
  · rw [if_neg (by omega)]
    omega

/-- A table comes back, however it was arranged. -/
theorem readValue?_write_table {entries order : List (String × String)}
    (hsound : Members.Sorted entries) (h : order.Perm entries)
    (hfit : (writeValue (.table order)).length < Number.width64) :
    readValue? none (writeValue (.table order)) = some (some (.table entries)) := by
  have hplain : ∀ f ∈ [valueField (.table order)], f.Plain fun _ => false := by
    simpa using plain_valueField hfit
  have hinner : readTable? [] (writeTable order) = some entries := by
    rw [readTable?_write [] (Nat.lt_trans (Field.length_lt_writeBlock 5 _) hfit)]
    exact congrArg some (Members.ofEntries_of_perm hsound h)
  rw [readValue?, writeValue_eq, fields?_write hplain]
  simp [valueField, block?, entriesOf, hinner]

/-- **A value comes back**, however a table in it was arranged. -/
theorem readValue?_write {v sent : Value} (hsound : v.Sound) (h : v.Arranged sent)
    (hfit : (writeValue sent).length < Number.width64) :
    readValue? none (writeValue sent) = some (some v) := by
  cases h with
  | table h => exact readValue?_write_table hsound h hfit
  | same =>
      have hplain : ∀ f ∈ [valueField v], f.Plain fun _ => false := by
        simpa using plain_valueField hfit
      have hfields := fields?_write hplain (nestingLimit - 1)
      rw [← writeValue_eq] at hfields
      cases v with
      | long n => simp [readValue?, hfields, valueField, number?, signed_of_sound hsound]
      | bool b => cases b <;> simp [readValue?, hfields, valueField, number?]
      | text s => simp [readValue?, hfields, valueField]
      | bytes bs => simp [readValue?, hfields, valueField, block?]
      | table entries => exact readValue?_write_table hsound (.refl entries) hfit

/-- A value that is missing comes back as missing. -/
theorem readValue?_write? {v sent : Option Value} (hsound : ∀ w ∈ v, w.Sound)
    (h : Option.Rel Value.Arranged v sent) (hfit : (writeValue? sent).length < Number.width64) :
    readValue? none (writeValue? sent) = some v := by
  cases h with
  | none => simp [writeValue?, readValue?, fields?, fieldsWithin?]
  | some h => exact readValue?_write (hsound _ rfl) h hfit

/-! ## Requests and responses -/

/-- The fields of the request for a call. -/
def requestFields (call : Invocation) : List Field :=
  plainFields 1 call.target ++ plainFields 2 call.operation ++
    call.arguments.map fun v => ⟨3, .block (writeValue v)⟩

theorem writeRequest_eq (call : Invocation) :
    writeRequest (.ofInvocation call) = (requestFields call).flatMap Field.write := by
  simp [writeRequest, Request.ofInvocation, requestFields, writePlain_eq, List.flatMap_map,
    Field.write, writeValue?]

theorem isBlock_of_mem_requestFields {call : Invocation} :
    ∀ f ∈ requestFields call, f.IsBlock := by
  intro f h
  simp only [requestFields, List.mem_append, List.mem_map] at h
  rcases h with (h | h) | ⟨v, -, rfl⟩
  · exact isBlock_of_mem_plainFields (by omega) (by omega) h
  · exact isBlock_of_mem_plainFields (by omega) (by omega) h
  · exact ⟨by simp, by simp, _, rfl⟩

/-- The arguments come back one behind the other, each from a field of its own. -/
theorem foldlM_arguments {values sent : List Value} (hsound : ∀ v ∈ values, v.Sound)
    (h : List.Forall₂ Value.Arranged values sent)
    (hfit : ∀ v ∈ sent, (writeValue v).length < Number.width64) (r : Request) :
    (sent.map fun v => (⟨3, .block (writeValue v)⟩ : Field)).foldlM readField? r =
      some { r with arguments := r.arguments ++ values.map some } := by
  induction h generalizing r with
  | nil => simp
  | @cons v w values sent hv _ ih =>
      have hread := readValue?_write (hsound v List.mem_cons_self) hv (hfit w List.mem_cons_self)
      have hrest := ih (fun u hu => hsound u (List.mem_cons_of_mem v hu))
        (fun u hu => hfit u (List.mem_cons_of_mem w hu))
      simp [readField?, block?, hread, hrest]

/-- The texts of a request come back, and nothing is left where one was left out. -/
theorem foldlM_plainFields (target operation : String) :
    (plainFields 1 target ++ plainFields 2 operation).foldlM readField? ⟨"", "", []⟩ =
      some ⟨target, operation, []⟩ := by
  by_cases htarget : target = "" <;> by_cases hoperation : operation = "" <;>
    simp [plainFields, readField?, htarget, hoperation]

/-- **A request comes back**, however the tables among its arguments were arranged. -/
theorem readRequest?_write {call sent : Invocation} (hsound : ∀ v ∈ call.arguments, v.Sound)
    (h : call.Arranged sent)
    (hfit : (writeRequest (.ofInvocation sent)).length < Number.width64) :
    readRequest? (writeRequest (.ofInvocation sent)) = some (.ofInvocation call) := by
  obtain ⟨htarget, hoperation, harguments⟩ := h
  rw [writeRequest_eq] at hfit ⊢
  have hvalues : ∀ v ∈ sent.arguments, (writeValue v).length < Number.width64 := by
    intro v hv
    have hfield : ⟨3, .block (writeValue v)⟩ ∈ requestFields sent :=
      List.mem_append_right _ (List.mem_map_of_mem hv)
    exact Nat.lt_trans (length_lt_of_mem hfield) hfit
  rw [readRequest?, fields?_write_of_isBlock hfit isBlock_of_mem_requestFields]
  simp only [Option.bind_eq_bind, Option.bind_some, requestFields]
  rw [List.foldlM_append, foldlM_plainFields, Option.bind_eq_bind, Option.bind_some,
    foldlM_arguments hsound harguments hvalues, htarget, hoperation]
  rfl

/-- **A response comes back**, however a table in it was arranged. -/
theorem readResponse?_write {r sent : Response} (hsound : r.Sound) (h : r.Arranged sent)
    (hfit : (writeResponse sent).length < Number.width64) :
    readResponse? (writeResponse sent) = some r := by
  obtain ⟨result⟩ := r
  obtain ⟨sentResult⟩ := sent
  cases h with
  | none => simp [writeResponse, readResponse?, fields?, fieldsWithin?]
  | @some v w hv =>
      have heq : writeResponse ⟨some w⟩ = [⟨1, .block (writeValue? w)⟩].flatMap Field.write := by
        simp [writeResponse, Field.write]
      have hread := readValue?_write? (v := v) hsound hv
        (Nat.lt_trans (Field.length_lt_writeBlock 1 (writeValue? w)) hfit)
      rw [heq] at hfit ⊢
      rw [readResponse?, fields?_write_of_isBlock hfit (by simpa using ⟨by simp, by simp, _, rfl⟩)]
      simp [block?, hread]

/-- **Which responses answer nothing**: those without a result, or with one that is no value. -/
theorem value?_eq_none_iff (r : Response) :
    r.value? = none ↔ r.result = none ∨ r.result = some none := by
  obtain ⟨result⟩ := r
  rcases result with _ | _ | v <;> simp [Response.value?]

end Message

theorem Request.ofInvocation_injective {call other : Invocation}
    (h : Request.ofInvocation call = Request.ofInvocation other) : call = other := by
  obtain ⟨target, operation, arguments⟩ := call
  obtain ⟨target', operation', arguments'⟩ := other
  simp only [ofInvocation, mk.injEq] at h
  obtain ⟨rfl, rfl, harguments⟩ := h
  rw [List.map_injective_iff.2 (fun _ _ => Option.some.inj) harguments]

/-! ## Calls and answers -/

namespace Channel

variable {call sent : Invocation} {response reply : Response} {bytes : List UInt8}

/-- A response within the limit that can be read is answered by its value. -/
theorem answer_of_read (c : Channel) (operation : String) (hlimit : bytes.length ≤ c.limit)
    (h : Message.readResponse? bytes = some response) :
    c.answer operation (.response bytes) = .ok response.value? := by
  simp [answer, Nat.not_lt.2 hlimit, h]

/-- **Calls and answers get through whole.**  Whatever order the tables among them are sent in, the
target reads the call that was made, argument for argument, and the caller reads the response that
was given, and gets its value if the bytes are within the limit of the channel.  An answer is
nothing exactly if the response has no result or a result that is no value, and what is sent for one
call or response is sent for no other. -/
theorem carries (c : Channel) (operation : String) (hcall : ∀ v ∈ call.arguments, v.Sound)
    (hsent : call.Arranged sent)
    (hfit : (Message.writeRequest (.ofInvocation sent)).length < Number.width64)
    (hresponse : response.Sound) (hreply : response.Arranged reply)
    (hback : (Message.writeResponse reply).length < Number.width64) :
    Message.readRequest? (Message.writeRequest (.ofInvocation sent)) = some (.ofInvocation call) ∧
      Message.readResponse? (Message.writeResponse reply) = some response ∧
      ((Message.writeResponse reply).length ≤ c.limit →
        c.answer operation (.response (Message.writeResponse reply)) = .ok response.value?) ∧
      (∀ bytes received, Message.readResponse? bytes = some received → bytes.length ≤ c.limit →
        (c.answer operation (.response bytes) = .ok none ↔
          received.result = none ∨ received.result = some none)) ∧
      (∀ other otherSent : Invocation, (∀ v ∈ other.arguments, v.Sound) →
        other.Arranged otherSent →
        Message.writeRequest (.ofInvocation otherSent) = Message.writeRequest (.ofInvocation sent) →
        other = call) ∧
      ∀ other otherReply : Response, other.Sound → other.Arranged otherReply →
        Message.writeResponse otherReply = Message.writeResponse reply → other = response := by
  have hread := Message.readRequest?_write hcall hsent hfit
  have hanswer := Message.readResponse?_write hresponse hreply hback
  refine ⟨hread, hanswer, fun hlimit => c.answer_of_read operation hlimit hanswer, ?_, ?_, ?_⟩
  · intro bytes received hreceived hbytes
    rw [c.answer_of_read operation hbytes hreceived]
    simp [← Message.value?_eq_none_iff]
  · intro other otherSent hother harranged hsame
    have hother := Message.readRequest?_write hother harranged (hsame ▸ hfit)
    rw [hsame, hread] at hother
    exact (Request.ofInvocation_injective (Option.some.inj hother)).symm
  · intro other otherReply hother harranged hsame
    have hother := Message.readResponse?_write hother harranged (hsame ▸ hback)
    rw [hsame, hanswer] at hother
    exact (Option.some.inj hother).symm

/-- A call with every kind of argument, each as empty as it can be but a table of two entries. -/
def bareCall : Invocation :=
  ⟨"t", "o", [.long 0, .long (-1), .bool false, .text "", .bytes [], .table [],
    .table [("a", ""), ("b", "x")]]⟩

/-- The same call, its table the other way about. -/
def bareCallSent : Invocation :=
  ⟨"t", "o", [.long 0, .long (-1), .bool false, .text "", .bytes [], .table [],
    .table [("b", "x"), ("a", "")]]⟩

theorem carries_bareCall :
    Message.readRequest? (Message.writeRequest (.ofInvocation bareCallSent)) =
        some (.ofInvocation bareCall) ∧
      (Channel.mk "" 0).answer "" (.response (Message.writeResponse ⟨some (some (.table []))⟩)) =
        .ok (some (.table [])) := by
  let reply : Response := ⟨some (some (.table []))⟩
  have hsorted : Members.Sorted [("a", ""), ("b", "x")] := List.pairwise_pair.2 (by decide)
  have hcall : ∀ v ∈ bareCall.arguments, v.Sound := by
    simp [bareCall, Value.Sound, Members.sorted_nil, hsorted, Number.width63]
  have hsent : bareCall.Arranged bareCallSent :=
    ⟨rfl, rfl, .cons (.same _) <| .cons (.same _) <| .cons (.same _) <| .cons (.same _) <|
      .cons (.same _) <| .cons (.same _) <| .cons (.table (.swap ..)) .nil⟩
  have hresponse : reply.Sound := by
    simp [reply, Response.Sound, Response.value?, Value.Sound, Members.sorted_nil]
  have hreply : reply.Arranged reply := .some (.some (.same _))
  have h := carries ⟨"", 0⟩ "" hcall hsent (by decide +kernel) hresponse hreply (by decide +kernel)
  exact ⟨h.1, h.2.2.1 (by decide +kernel)⟩

end Channel
end Remote
end RecordingHarvest
