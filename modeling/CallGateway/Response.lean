/-
  CallGateway.Response
  ────────────────────
  **HOW A REQUEST IS ANSWERED.**
-/
import CallGateway.Message

namespace CallGateway

open Json (Value)

/-- What a response carries. -/
inductive Body where
  | bytes (content : Bytes)
  -- The frames of an open stream, by its number.
  | stream (number : Nat)
  deriving DecidableEq, Repr

/-- A response. -/
structure Response where
  status : Nat
  contentType : Option String
  -- The verbs that the address allows, where another one was used.
  allow : Option String := none
  body : Body
  deriving DecidableEq, Repr

namespace Response

/-- The type of JSON content. -/
def jsonType : String := "application/json"

/-- The type of lines of JSON. -/
def linesType : String := "application/x-ndjson"

/-- The type of plain text. -/
def textType : String := "text/plain; charset=utf-8"

/-- The type of the metrics. -/
def metricsType : String := "text/plain; version=0.0.4; charset=utf-8"

/-- A response that carries a text. -/
def ofText (status : Nat) (contentType : String) (text : String) : Response :=
  { status, contentType := some contentType, body := .bytes (Bytes.ofText text) }

/-- A response that carries nothing. -/
def empty (status : Nat) : Response := { status, contentType := none, body := .bytes [] }

/-- A response that carries a value. -/
def ofJson (status : Nat) (v : Value) : Response :=
  { status, contentType := some jsonType, body := .bytes v.render }

/-- The answer to a call that failed: its code and its public message. -/
def ofFailure (e : Failure) : Response :=
  ofJson e.code.status
    (.object [("error", .string e.code.label), ("message", .string e.publicMessage)])

/-- The answer to a unary call. -/
def ofValue (v : Value) : Response := ofJson 200 v

/-- The answer to a streaming call. -/
def ofStream (number : Nat) : Response :=
  { status := 200, contentType := some linesType, body := .stream number }

/-- The same response without its content. -/
def withoutBody (r : Response) : Response := { r with body := .bytes [] }

end Response

end CallGateway
