/-
  CallGateway.Gateway
  ───────────────────
  **THE GATEWAY.**

  A call passes through fixed stages, and between any two of them other
  calls, the log's worker and a shutdown may do their steps:

      arrived   — it is observed, whatever becomes of it
      observed  — it is turned away if the gateway is shutting down
      admitted  — its body is decoded
      decoded   — the access policy judges it, and a unary one is served
      granted   — a streaming call's handler begins
      answered  — its response is known

  The response to a streaming call is a stream once the handler has
  accepted it; if the handler fails before that, it is a plain response.
-/
import CallGateway.Chain
import CallGateway.Config
import CallGateway.OpenStream
import CallGateway.Response
import CallGateway.Routes

namespace CallGateway

open Json (Value)

/-! ## §1. The gateway. -/

/-- The gateway: what it was started with, and what has become of it. -/
structure Gateway where
  config : Config
  policy : AccessPolicy
  routes : Routes
  hub : Hub
  -- The streams that were answered, by number.
  streams : List OpenStream := []

namespace Gateway

/-- The services of every gateway. -/
def standardRoutes (c : ServerConfig) : Routes :=
  [Service.business, Service.admin c.maxStatsIntervalSecs].foldl Routes.register Dict.empty

/-- A gateway with the standard services. -/
def start (c : Config) : Outcome Gateway := do
  let policy ← AccessPolicy.compile c.acl
  return { config := c, policy, routes := standardRoutes c.server
           hub := .start c.server.eventBuffer c.server.subscriberBuffer }

/-- The gateway is shutting down. -/
def isDraining (g : Gateway) : Bool := g.hub.metrics.draining

/-- How many frames of a stream may wait for the caller. -/
def frameBuffer : Nat := 64

/-- The chain of every call: it is observed, and judged by the policy. -/
def chain (g : Gateway) (wall : Int64) : Chain (StateM Hub) Handler :=
  let counting (judge : Metrics → Outcome Unit × Metrics) : StateM Hub (Outcome Unit) :=
    modifyGet fun hub =>
      let (r, metrics) := judge hub.metrics
      (r, { hub with metrics })
  { taps := [fun call => modify (·.observe (g.routes.contains call.method.full) wall call)]
    unary := [(g.policy.link counting).interceptor]
    stream := [(g.policy.link counting).interceptor] }

/-! ## §2. What is at work between calls. -/

/-- Change the stream with a number. -/
def modifyStream (g : Gateway) (n : Nat) (f : OpenStream → OpenStream) : Gateway :=
  { g with streams := g.streams.modify n f }

/-- The streams work one after the other, each until it waits. -/
def runStreams (g : Gateway) (now : Instant) : Gateway :=
  go g.streams g.hub []
where
  -- The streams that have worked are in `done`, the latest first.
  go : List OpenStream → Hub → List OpenStream → Gateway
    | [], hub, done => { g with hub, streams := done.reverse }
    | s :: rest, hub, done => let (s, hub) := s.run now hub; go rest hub (s :: done)

/-- The log's worker takes one turn, and then the streams work. -/
def round (g : Gateway) (now : Instant) : Gateway :=
  { g with hub := g.hub.dispatchTurn }.runStreams now

/-- So many rounds. -/
def rounds : Nat → Gateway → Instant → Gateway
  | 0, g, _ => g
  | n + 1, g, now => rounds n (g.round now) now

/-- Let the log's worker hand out everything and the streams work until all
of them wait.  Between two turns of the worker the streams catch up, so one
that reads on has room for what the next turn brings. -/
def settle (g : Gateway) (now : Instant) : Gateway :=
  g.rounds (max g.hub.log.turnsLeft 1) now

/-- What the caller of a stream finds; it takes the frame. -/
def receive (g : Gateway) (n : Nat) : Received Bytes × Gateway :=
  match g.streams[n]? with
  | none => (.gone, g)
  | some s =>
    let (r, s) := s.receive
    (r, { g with streams := g.streams.set n s })

/-- The caller of a stream goes. -/
def dropStream (g : Gateway) (n : Nat) : Gateway := g.modifyStream n OpenStream.drop

/-- Shut down: new calls are turned away, and both feeds end. -/
def drain (g : Gateway) : Gateway := { g with hub := g.hub.drain }

/-! ## §3. A call, stage by stage. -/

/-- How far a call has come. -/
inductive Stage where
  | arrived
  | observed
  | admitted
  | decoded (req : Value)
  -- It is a streaming call that may go on.
  | granted (handler : Handler)
  | answered (r : Response)

/-- A call on its way. -/
structure InFlight where
  call : Call
  body : Bytes
  stage : Stage := .arrived

/-- Answer a call that failed, and count it. -/
def refuse (g : Gateway) (e : Failure) : Stage × Gateway :=
  (.answered (.ofFailure e), { g with hub := g.hub.countError e.code })

/-- The route of a call; an unknown method leads to a service that offers
none. -/
def routeOf (g : Gateway) (call : Call) : Route :=
  (g.routes.resolve? call.method.full).getD ⟨.unary, Service.unimplemented⟩

/-- Judge a decoded call, and serve it if it is unary. -/
def judge (g : Gateway) (wall : Int64) (call : Call) (req : Value) : Stage × Gateway :=
  let route := g.routeOf call
  let chain := g.chain wall
  match route.kind with
  | .unary =>
    let (r, hub) := (chain.runUnary (fun call req => return route.service.unary call req) call req).run g.hub
    match r with
    | .ok v => (.answered (.ofValue v), { g with hub })
    | .error e => { g with hub }.refuse e
  | .serverStreaming =>
    let (r, hub) :=
      (chain.runStream (fun call req => return .ok (route.service.stream call req)) call req).run g.hub
    match r with
    | .ok handler => (.granted handler, { g with hub })
    | .error e => { g with hub }.refuse e

/-- Begin a handler and let it work until it waits or ends.  Its stream is
the answer if it was accepted, or if it ended well. -/
def beginStream (g : Gateway) (now : Instant) (handler : Handler) : Stage × Gateway :=
  let (task, hub) := StreamTask.start handler frameBuffer now g.hub
  let (task, hub) := task.run now hub
  let g := { g with hub }
  match task.answer? with
  | some (.error e) => g.refuse e
  | _ => (.answered (.ofStream g.streams.length), { g with streams := g.streams ++ [{ task := task }] })

/-- Take a call one stage further. -/
def advance (g : Gateway) (now : Instant) (f : InFlight) : InFlight × Gateway :=
  let (stage, g) : Stage × Gateway := match f.stage with
    | .arrived => (.observed, { g with hub := (((g.chain now.wall).observe f.call).run g.hub).2 })
    | .observed => if g.isDraining then g.refuse .shuttingDown else (.admitted, g)
    | .admitted =>
      match decodeBody f.body with
      | .ok req => (.decoded req, g)
      | .error e => g.refuse e
    | .decoded req => g.judge now.wall f.call req
    | .granted handler => g.beginStream now handler
    | .answered r => (.answered r, g)
  ({ f with stage }, g)

/-- A call on its way has its route, and it leads to a stream. -/
def isStreaming (g : Gateway) (f : InFlight) : Bool :=
  match f.stage with
  | .decoded _ => (g.routeOf f.call).kind = .serverStreaming
  | _ => false

/-- Take a call so many stages further with no other call coming meanwhile.
A streaming call is judged and served in a task of its own, which waits
until all others have worked. -/
def advanceN : Nat → Gateway → Instant → InFlight → InFlight × Gateway
  | 0, g, _, f => (f, g)
  | n + 1, g, now, f =>
    let (f, g) := (if g.isStreaming f then g.settle now else g).advance now f
    advanceN n g now f

/-- No call passes through more stages than these. -/
def stages : Nat := 5

/-- Answer a call with no other call coming meanwhile. -/
def answer (g : Gateway) (now : Instant) (call : Call) (body : Bytes) : Response × Gateway :=
  let (f, g) := advanceN stages g now { call, body }
  match f.stage with
  | .answered r => (r, g)
  | _ => (.ofFailure (.internal "unfinished call"), g)

end Gateway

end CallGateway
