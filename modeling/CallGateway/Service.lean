/-
  CallGateway.Service
  ───────────────────
  **SERVICES AND THE METHODS THEY OFFER.**

  A service answers a unary call with a value.  It answers a streaming call
  with a `Handler`, which says what is to be done for as long as the stream
  lasts: follow one of the gateway's feeds, or a finite course of action.
-/
import CallGateway.Call
import CallGateway.RequestBody

namespace CallGateway

open Json (Value)

/-- How a method answers. -/
inductive MethodKind where
  | unary
  | serverStreaming
  deriving DecidableEq, Repr, Inhabited

/-- The name of a kind. -/
def MethodKind.label : MethodKind → String
  | unary => "Unary"
  | serverStreaming => "ServerStreaming"

/-- One thing that a handler does with its stream. -/
inductive Action where
  | accept
  -- Send a message, which accepts the stream if need be.
  | send (msg : Value)

/-- What is to be done for a streaming call. -/
inductive Handler where
  -- Some actions, and then an end, good or bad.
  | perform (actions : List Action) (ending : Outcome Unit)
  -- Send the log feed's events for as long as it lasts.
  | followLog
  -- Send a report on the calls every so many seconds.
  | followStats (seconds : Nat)

/-- Fail before anything is sent. -/
def Handler.fail (e : Failure) : Handler := .perform [] (.error e)

/-- A service. -/
structure Service where
  name : String
  methods : List (String × MethodKind)
  unary : Call → Value → Outcome Value
  -- What is to be done for a streaming call.
  stream : Call → Value → Handler

namespace Service

/-- The failure of a call that a service does not know. -/
def unknownMethod (call : Call) : Failure := .notFound ("unknown method: " ++ call.method.full)

/-- The service of methods that no service offers. -/
def unimplemented : Service where
  name := ""
  methods := []
  unary call _ := .error (unknownMethod call)
  stream call _ := .fail (unknownMethod call)

/-! ## The gateway's own services. -/

/-- The business service: three methods that take and give nothing. -/
def business : Service where
  name := "main.Biz"
  methods := [("Check", .unary), ("Add", .unary), ("Test", .unary)]
  unary call req := do
    let _ ← parseRequest Nothing req
    if ["Check", "Add", "Test"].contains call.method.method then return respond (α := Nothing) {}
    else .error (.notFound ("unknown biz method: " ++ call.method.method))
  stream call _ := .fail (unknownMethod call)

/-- What is to be done for a call that asks for statistics: the interval
must be at least one second and at most the longest that is allowed. -/
def statistics (maxIntervalSecs : Nat) (m : StatInterval) : Handler :=
  let seconds := m.intervalSeconds.toNat
  if seconds = 0 ∨ maxIntervalSecs < seconds then
    .fail (.badRequest ("interval_seconds must be between 1 and " ++ toString maxIntervalSecs))
  else .followStats seconds

/-- The administration service: the log stream and the statistics stream. -/
def admin (maxIntervalSecs : Nat) : Service where
  name := "main.Admin"
  methods := [("Logging", .serverStreaming), ("Statistics", .serverStreaming)]
  unary call _ := .error (unknownMethod call)
  stream call req :=
    if call.method.method = "Logging" then
      match parseRequest Nothing req with
      | .ok _ => .followLog
      | .error e => .fail e
    else if call.method.method = "Statistics" then
      match parseRequest StatInterval req with
      | .ok m => statistics maxIntervalSecs m
      | .error e => .fail e
    else .fail (.notFound ("unknown admin method: " ++ call.method.method))

end Service

end CallGateway
