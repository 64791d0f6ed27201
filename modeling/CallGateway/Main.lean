/-
  CallGateway.Main
  ────────────────
  **THE PROGRAM.**

  The program reads the configuration file that it is given, starts the
  server that it describes, and runs until it is told to stop.  What becomes
  of a request is decided by the library; here bytes are carried between the
  library, the network and the clock.
-/
import CallGateway.Server
import Std.Http

namespace CallGateway.Program

open Std.Async (Async ContextAsync Selectable)

/-! ## §1. What runs. -/

/-- A server at work. -/
structure Running where
  server : Server
  -- How many requests are not answered to the end.
  inFlight : Nat := 0

/-- A server at work, shared by all who work for it. -/
structure Shared where
  running : Std.Mutex Running
  -- When it was started, by a clock that is never set.
  began : Nat

namespace Shared

/-- The time. -/
def now (s : Shared) : IO Instant := do
  let wall ← Std.Time.Timestamp.now
  return ⟨(← IO.monoMsNow) - s.began, wall.toSecondsSinceUnixEpoch.val.toInt64⟩

/-- Use the gateway, and let all that is at work in it go on. -/
def useGateway {α : Type} (s : Shared) (f : Instant → Gateway → α × Gateway) : IO α := do
  let t ← s.now
  s.running.atomically do
    let r ← get
    let (a, gateway) := f t (r.server.gateway.settle t)
    set { r with server := { r.server with gateway := gateway.settle t } }
    return a

/-- Something happens to the server. -/
def step (s : Shared) (e : LifecycleEvent) : IO Unit :=
  s.running.atomically (modify fun r => { r with server := r.server.step e })

/-- A request comes. -/
def enter (s : Shared) : IO Unit :=
  s.running.atomically (modify fun r => { r with inFlight := r.inFlight + 1 })

/-- A request is answered to the end. -/
def leave (s : Shared) : IO Unit :=
  s.running.atomically (modify fun r => { r with inFlight := r.inFlight - 1 })

/-- All requests are answered to the end. -/
def isIdle (s : Shared) : IO Bool := s.running.atomically do return (← get).inFlight = 0

end Shared

/-! ## §2. Addresses, requests and responses of the network. -/

/-- An address of the network. -/
def addressOf : Std.Net.SocketAddress → SocketAddress
  | .v4 a => .v4 a.addr.octets.toList a.port
  | .v6 a => .v6 a.addr.segments.toList 0 a.port

/-- The address as the network takes it. -/
def endpoint? : SocketAddress → Option Std.Net.SocketAddress
  | .v4 [a, b, c, d] port => some (.v4 ⟨.ofParts a b c d, port⟩)
  | .v6 [a, b, c, d, e, f, g, h] _ port => some (.v6 ⟨.ofParts a b c d e f g h, port⟩)
  | _ => none

/-- A request of the network, with its whole body. -/
def requestOf (r : Std.Http.Request Std.Http.Body.Stream) (body : ByteArray) : Request where
  verb := toString r.line.method
  target := toString r.line.uri
  headers := r.line.headers.toList.map fun h => (h.1.value, Bytes.ofText h.2.value)
  body := body.toList
  peer := (r.extensions.get Std.Http.Server.RemoteAddr).map fun a => addressOf a.addr

/-- How long to wait before looking again for what has not come yet. -/
def pause : Async Unit := Std.Async.sleep 20

/-- Send the frames of a stream as they come, until the stream ends or the
caller goes. -/
def sendFrames (s : Shared) (number : Nat) (out : Std.Http.Body.Stream) : Async Unit := do
  repeat
    match ← s.useGateway fun _ g => g.receive number with
    | .item frame =>
      try out.send (.ofByteArray ⟨frame.toArray⟩)
      catch _ =>
        s.useGateway fun _ g => ((), g.dropStream number)
        break
    | .empty =>
      if ← out.isClosed then
        s.useGateway fun _ g => ((), g.dropStream number)
        break
      pause
    | _ => break
  s.leave

/-- A response as the network takes it. -/
def respond (s : Shared) (r : Response) : Async (Std.Http.Response Std.Http.Body.Any) := do
  let status := (Std.Http.Status.ofCode none r.status.toUInt16).getD .internalServerError
  let head := Std.Http.Response.withStatus status
  let head := (r.contentType.bind (head.header? "content-type")).getD head
  let head := (r.allow.bind (head.header? "allow")).getD head
  match r.body with
  | .bytes content =>
    s.leave
    return head.body (Std.Http.Body.Any.ofBody (← Std.Http.Body.fromBytes ⟨content.toArray⟩))
  | .stream number =>
    return head.body (Std.Http.Body.Any.ofBody (← Std.Http.Body.stream (sendFrames s number)))

/-- Answer a request. -/
def handle (s : Shared) (r : Std.Http.Request Std.Http.Body.Stream) :
    ContextAsync (Std.Http.Response Std.Http.Body.Any) := do
  s.enter
  try
    let body : ByteArray ← r.body.readAll
    let response ← s.useGateway fun t g => g.serve t (requestOf r body)
    respond s response
  catch e =>
    s.leave
    throw e

/-! ## §3. From start to end. -/

/-- What the file holds, if it can be read. -/
def readFile (path : String) : IO (Option Bytes) := do
  try return some (← IO.FS.readBinFile path).toList
  catch _ => return none

/-- Wait until the program is told to stop. -/
def awaitSignal : Async Unit := do
  let interrupt ← Std.Async.Signal.Waiter.mk .sigint false
  let terminate ← Std.Async.Signal.Waiter.mk .sigterm false
  Selectable.one #[.case interrupt.selector pure, .case terminate.selector pure]

/-- Wait until all requests are answered to the end, for some time at most. -/
def awaitIdle (s : Shared) (limitMs : Nat) : Async Unit := do
  let began ← IO.monoMsNow
  repeat
    if ← s.isIdle then break
    if limitMs ≤ (← IO.monoMsNow) - began then
      s.step .timeout
      break
    pause

/-- Let no request in, let those that are in have their time, and end. -/
def shutDown (s : Shared) (listener : Std.Http.Server) (limitMs : Nat) : Async Unit := do
  s.step .signal
  awaitIdle s limitMs
  listener.shutdownAndWait
  s.step .listenerEnds

/-- Say why the program ends, if it could not do its work. -/
def farewell (e : Server.Exit) : IO UInt32 := do
  match e with
  | .configFailed failure => IO.eprintln ("config load failed: " ++ failure.message)
  | .startFailed failure => IO.eprintln ("startup failed: " ++ failure.message)
  | .stopped => pure ()
  return e.status.toUInt32

/-- Listen for requests on an address. -/
def listen (address : SocketAddress) (s : Shared) : Async (Option Std.Http.Server) := do
  match endpoint? address with
  | none => return none
  | some endpoint =>
    try return some (← Std.Http.Server.serve endpoint (Std.Http.Server.Handler.ofFn (handle s)))
    catch _ => return none

/-- Run the server that a configuration describes until it is told to
stop. -/
def run (content : Option Bytes) : Async Server.Exit := do
  match Server.launch content some with
  | .error e => return e
  | .ok server =>
    let s : Shared := ⟨← Std.Mutex.new { server := server }, ← IO.monoMsNow⟩
    match ← listen server.address s with
    | none =>
      match Server.launch content fun _ => none with
      | .error e => return e
      | .ok _ => return .stopped
    | some listener =>
      awaitSignal
      shutDown s listener server.gateway.config.server.drainTimeoutMs
      return .stopped

end CallGateway.Program

/-- The program: its argument names the configuration file. -/
def main (args : List String) : IO UInt32 := do
  let path := args.head?.getD CallGateway.Server.defaultConfigPath
  let content ← CallGateway.Program.readFile path
  CallGateway.Program.farewell (← (CallGateway.Program.run content).block)
