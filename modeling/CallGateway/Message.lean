/-
  CallGateway.Message
  ───────────────────
  **THE MESSAGES OF THE WIRE.**

  Requests and responses of the gateway's own services, and the frames of
  its streams.  Every message is written as an object with its fields in a
  fixed order; it is read from an object, where unknown members are passed
  over and a field may not be given twice, or from an array of the fields
  in that order.
-/
import CallGateway.Failure
import CallGateway.Json.Printer
import CallGateway.Json.Reader

namespace CallGateway

open Json (Surface Value renderObject renderInt renderNat renderString)

/-! ## §1. The messages. -/

/-- A message that has nothing to say. -/
structure Nothing where
  dummy : Bool := false
  deriving DecidableEq, Inhabited

/-- One call as the log stream shows it. -/
structure Event where
  -- Seconds of the Unix clock.
  timestamp : Int64
  consumer : String
  method : String
  -- The address that the call came from.
  host : String
  deriving DecidableEq, Inhabited

/-- How often a statistics stream is to report. -/
structure StatInterval where
  -- Seconds between two reports.
  intervalSeconds : UInt64 := 0
  deriving DecidableEq, Inhabited

/-- The calls since the last report, counted in two ways. -/
structure Stat where
  -- Seconds of the Unix clock.
  timestamp : Int64 := 0
  byMethod : Dict UInt64 := .empty
  byConsumer : Dict UInt64 := .empty
  deriving DecidableEq, Inhabited

/-- The last line of a stream that failed. -/
structure ErrorFrame where
  error : String
  message : String
  deriving DecidableEq, Inhabited

/-- The frame for a failure. -/
def ErrorFrame.ofFailure (e : Failure) : ErrorFrame := ⟨e.code.label, e.publicMessage⟩

/-! ## §2. Fields of a written message. -/

namespace Json.Surface

/-- The one value under a name; fails where there are several. -/
def unique? (name : String) (members : List (String × Surface)) : Option (Option Surface) :=
  match members.filter (·.1 = name) with
  | [] => some none
  | [m] => some (some m.2)
  | _ => none

/-- What stands for each of some fields.  In an array the fields stand in
order, and those at the end may be missing. -/
def fields? (names : List String) : Surface → Option (List (Option Surface))
  | array items =>
    if items.length ≤ names.length then
      some (items.map some ++ List.replicate (names.length - items.length) none)
    else none
  | object members => do
    let members ← members.mapM fun (name, v) => return (← contentText? name, v)
    names.mapM (unique? · members)
  | _ => none

/-- A field that may be missing. -/
def optional? {α : Type} (default : α) (read? : Surface → Option α) : Option Surface → Option α
  | none => some default
  | some s => read? s

/-- A field that must be there. -/
def required? {α : Type} (read? : Surface → Option α) : Option Surface → Option α
  | none => none
  | some s => read? s

end Json.Surface

/-! ## §3. Writing and reading. -/

/-- What can be written on the wire and read from it. -/
class Wire (α : Type) where
  render : α → Bytes
  /-- How many arrays and objects may be open at a time in its text; no
  bound where whatever is nested deeper would be passed over. -/
  nestingLimit : Option Nat
  -- The message that a text stands for.
  ofSurface? : Surface → Option α

open Json.Surface

/-- The text of a truth value. -/
def renderBool (b : Bool) : Bytes := (Value.bool b).render

/-- The text of counts under names. -/
def renderCounts (d : Dict UInt64) : Bytes :=
  renderObject (d.entries.map fun e => (e.1, renderNat e.2.toNat))

instance : Wire Nothing where
  render m := renderObject [("dummy", renderBool m.dummy)]
  nestingLimit := none
  ofSurface? s := do
    let [dummy] ← fields? ["dummy"] s | none
    return ⟨← optional? false bool? dummy⟩

instance : Wire Event where
  render m := renderObject [
    ("timestamp", renderInt m.timestamp.toInt), ("consumer", renderString m.consumer),
    ("method", renderString m.method), ("host", renderString m.host)]
  nestingLimit := none
  ofSurface? s := do
    let [timestamp, consumer, method, host] ←
      fields? ["timestamp", "consumer", "method", "host"] s | none
    return ⟨← required? int64? timestamp, ← required? text? consumer, ← required? text? method,
      ← required? text? host⟩

instance : Wire StatInterval where
  render m := renderObject [("interval_seconds", renderNat m.intervalSeconds.toNat)]
  nestingLimit := none
  ofSurface? s := do
    let [seconds] ← fields? ["interval_seconds"] s | none
    return ⟨← required? uint64? seconds⟩

instance : Wire Stat where
  render m := renderObject [
    ("timestamp", renderInt m.timestamp.toInt), ("by_method", renderCounts m.byMethod),
    ("by_consumer", renderCounts m.byConsumer)]
  nestingLimit := none
  ofSurface? s := do
    let [timestamp, byMethod, byConsumer] ←
      fields? ["timestamp", "by_method", "by_consumer"] s | none
    return ⟨← required? int64? timestamp, ← optional? .empty (dict? uint64?) byMethod,
      ← optional? .empty (dict? uint64?) byConsumer⟩

instance : Wire ErrorFrame where
  render m := renderObject [("error", renderString m.error), ("message", renderString m.message)]
  nestingLimit := none
  ofSurface? s := do
    let [error, message] ← fields? ["error", "message"] s | none
    return ⟨← required? text? error, ← required? text? message⟩

instance : Wire Value where
  render := Value.render
  nestingLimit := some Value.nestingLimit
  ofSurface? := value?

end CallGateway
