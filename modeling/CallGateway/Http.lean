/-
  CallGateway.Http
  ────────────────
  **WHERE REQUESTS LEAD.**

  Three addresses are for operations: whether the server lives, whether it
  takes calls, and its metrics.  Every other address of two segments, the
  last of them not empty, is the name of a method to be called.
-/
import CallGateway.Gateway

namespace CallGateway

/-- Where an address leads. -/
inductive Destination where
  | health
  | readiness
  | metrics
  -- A method, by a name that may still prove to be none.
  | method (name : String)
  | nowhere
  deriving DecidableEq, Repr

namespace Destination

/-- A path has exactly two segments, and the last one is not empty. -/
def isMethodPath (path : String) : Bool :=
  match path.toList with
  | '/' :: rest => match splitSlash? rest with
    | some (_, m) => m ≠ [] && !m.contains '/'
    | none => false
  | _ => false

/-- Where a path leads. -/
def ofPath (path : String) : Destination :=
  if path = "/healthz" then health
  else if path = "/readyz" then readiness
  else if path = "/metrics" then metrics
  else if isMethodPath path then method path
  else nowhere

end Destination

namespace Gateway

/-- The largest body of a call. -/
def bodyLimit : Nat := 2097152

/-- The answer where an operations address is looked at. -/
def report (g : Gateway) : Destination → Response
  | .readiness =>
    if g.isDraining then .ofText 503 Response.textType "draining" else .ofText 200 Response.textType "ready"
  | .metrics => .ofText 200 Response.metricsType g.hub.render
  | _ => .ofText 200 Response.textType "ok"

/-- The answer where the verb is not one of those that are allowed. -/
def notAllowed (verbs : String) : Response := { Response.empty 405 with allow := some verbs }

/-- The answer to a body that is too large. -/
def tooLarge : Response :=
  .ofText 413 Response.textType "Failed to buffer the request body: length limit exceeded"

/-- Answer a call, if the name in its path is a method's. -/
def answerCall (g : Gateway) (now : Instant) (r : Request) (name : String) : Response × Gateway :=
  if bodyLimit < r.body.length then (tooLarge, g)
  else match MethodName.parse name with
    | .error e => (.ofFailure e, g)
    | .ok method => g.answer now (Call.ofRequest method r.headers r.peer) r.body

/-- Answer a request. -/
def serve (g : Gateway) (now : Instant) (r : Request) : Response × Gateway :=
  match Destination.ofPath r.path with
  | .nowhere => (.empty 404, g)
  | .method name =>
    if r.verb = "POST" then g.answerCall now r name else (notAllowed "POST", g)
  | d =>
    if r.verb = "GET" then (g.report d, g)
    else if r.verb = "HEAD" then ((g.report d).withoutBody, g)
    else (notAllowed "GET,HEAD", g)

end Gateway

end CallGateway
