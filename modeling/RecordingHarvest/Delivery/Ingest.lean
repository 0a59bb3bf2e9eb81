import RecordingHarvest.Delivery.Desk
import RecordingHarvest.Number.Shortest
import RecordingHarvest.Settings.Basic
import RecordingHarvest.Text.Utf8
import RecordingHarvest.Web
import RecordingHarvest.Zstd.Frame

/-!
# The ingest service

Batches go to the backend as documents, each posted once to the address of its channel.  A batch
whose channel has no address is dropped with a warning.
-/

namespace RecordingHarvest

/-! ## Who asks -/

namespace Release

def programName : String := "harvestd"

def version : String := "0.1.0"

/-- How the program introduces itself in requests. -/
def userAgent : String := programName ++ "/" ++ version

end Release

/-! ## What goes out -/

namespace Compression

/-- The name of the encoding that a receiver has to undo. -/
def encoding? : Compression → Option String
  | .none => Option.none
  | .zstd => some "zstd"

/-- The bytes that go out for the given ones. -/
def pack (c : Compression) (bytes : List UInt8) : Noting (List UInt8) :=
  match c with
  | .none => return bytes
  | .zstd => do
    let packed := Zstd.writeFrame (Zstd.Block.cover bytes)
    let length (bs : List UInt8) := Number.naturalText bs.length ++ " bytes"
    note .debug ("Compressed payload " ++ length bytes ++ " -> " ++ length packed ++ " (ratio: " ++
      Number.twoPlacesText (Float.ofNat bytes.length / Float.ofNat (max packed.length 1)) ++ "x)")
    return packed

end Compression

/-! ## The way to the backend -/

/-- A request to the backend. -/
structure Post where
  address : Web.Address
  contentType : String
  userAgent : String
  encoding : Option String
  apiKey : Option String
  body : List UInt8
  deriving Repr

/-- What becomes of a request. -/
inductive Exchange where
  /-- It did not get through. -/
  | lost
  /-- No response came in time. -/
  | late
  | response (status : Nat) (body : List UInt8)
  deriving Repr

/-- Where batches are posted, and how. -/
structure Ingest where
  metricsAddress : Option Web.Address
  eventsAddress : Option Web.Address
  apiKey : Option String
  compression : Compression
  timeout : Span

namespace Ingest

/-- The address that a setting spells, if it is set. -/
def address? : Option String → Except Fault (Option Web.Address)
  | none => .ok none
  | some s =>
    match Web.Address.ofText? true s with
    | some address => .ok (some address)
    | none => .error (.configError ("Invalid ingest URI " ++ s))

/-- The way to the backend that the settings describe. -/
def ofSettings (t : TelemetrySettings) : Except Fault Ingest := do
  let metricsAddress ← address? t.metricsUri
  let eventsAddress ← address? t.eventsUri
  return ⟨metricsAddress, eventsAddress, t.apiKey, t.compression, .ofSecs t.requestTimeoutSecs⟩

/-- The address of a batch's channel. -/
def addressFor (i : Ingest) : Batch → Option Web.Address
  | .metrics .. => i.metricsAddress
  | .events .. => i.eventsAddress

/-- Texts that can stand in a header: those free of control characters but the tab. -/
def headerOk (s : String) : Bool :=
  s.toList.all fun c => c == '\t' || (32 ≤ c.toNat && c.toNat != 127)

/-- Plain requests go to full addresses of one scheme. -/
def reachable (a : Web.Address) : Bool := a.scheme == some "http"

/-- What an exchange means for a batch. -/
def conclude (i : Ingest) (kind : String) : Exchange → Noting (Except Fault Unit)
  | .lost => return .error (.sendFailed (kind ++ " request failed"))
  | .late => return .error (.sendFailed (kind ++ " request timed out after " ++ i.timeout.text))
  | .response status body => do
    if Web.isSuccess status then
      count .batchesSent 1
      note .debug (kind ++ " batch accepted (" ++ Web.statusText status ++ ")")
      return .ok ()
    else
      return .error (.sendFailed (kind ++ " rejected with " ++ Web.statusText status ++ ": " ++
        String.ofList (Text.decodeLenient body)))

/-- Posts a batch over a network. -/
def send (i : Ingest) (network : Post → Exchange) (b : Batch) : Noting (Except Fault Unit) := do
  match i.addressFor b with
  | none =>
    note .warn ("Dropping " ++ Number.naturalText b.size ++ " " ++ b.kind ++ ": no " ++ b.kind ++
      " URI configured")
    return .ok ()
  | some address =>
    let body ← i.compression.pack (Text.bytesOf (Json.arr [b.toJson]).text)
    if (i.apiKey.map headerOk).getD true then
      let post : Post := ⟨address, "application/json", Release.userAgent, i.compression.encoding?,
        i.apiKey, body⟩
      i.conclude b.kind (if reachable address then network post else .lost)
    else return .error (.sendFailed "Request build error")

/-- A way out over a network that answers the requests by number. -/
def outbox (i : Ingest) (network : Nat → Post → Exchange) : Outbox where
  transport n b := i.send (network n) b
  delay := .zero
  sent := []

end Ingest
end RecordingHarvest
