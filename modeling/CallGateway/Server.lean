/-
  CallGateway.Server
  ──────────────────
  **STARTING AND STOPPING.**

  A server starts only with a sound configuration, whose patterns compile
  and whose address can be taken; the first of these that fails is the
  failure of the start.
-/
import CallGateway.Config.Yaml
import CallGateway.Http
import CallGateway.Lifecycle

namespace CallGateway

/-- A gateway that listens on an address. -/
structure Server where
  gateway : Gateway
  address : SocketAddress
  lifecycle : Lifecycle

namespace Server

/-- Start a server; `bind` says which address is taken when one is asked
for, if it can be. -/
def start (c : Config) (bind : SocketAddress → Option SocketAddress) : Outcome Server := do
  c.validate
  match SocketAddress.parse? c.server.listen with
  | none => .error (.badRequest "server.listen is not a SocketAddr")
  | some listen =>
    let gateway ← Gateway.start c
    match bind listen with
    | none => .error (.internal "bind failed")
    | some address => .ok { gateway, address, lifecycle := .start c.server.drainTimeoutMs }

/-- Start a server with an access table in JSON, and for the rest as it is
without configuration. -/
def startWithTable (listen table : String) (bind : SocketAddress → Option SocketAddress) :
    Outcome Server := do
  let acl ← AccessPolicy.tableOfJson table
  start { version := 1, server := { listen := listen }, acl } bind

/-- The phase of a server. -/
def phase (s : Server) : Phase := s.lifecycle.phase

/-- Something happens to a server.  When draining begins the gateway is
drained at once. -/
def step (s : Server) (e : LifecycleEvent) : Server :=
  let lifecycle := s.lifecycle.step e
  let gateway := if s.lifecycle.drains < lifecycle.drains then s.gateway.drain else s.gateway
  let s := { s with gateway, lifecycle }
  -- draining takes no time, so its end follows at once
  if lifecycle.watch = .drainingOnSignal ∨ lifecycle.watch = .drainingOnExit then
    { s with lifecycle := lifecycle.step .drained }
  else s

/-- Tell a server to stop while no call is in flight. -/
def stop (s : Server) : Server := (s.step .signal).step .listenerEnds

/-! ## The command line. -/

/-- The file that holds the configuration where none is named. -/
def defaultConfigPath : String := "rpcgate.yaml"

/-- How the program ends. -/
inductive Exit where
  -- It was told to stop, and has.
  | stopped
  | startFailed (e : Failure)
  | configFailed (e : Failure)
  deriving DecidableEq, Repr

/-- The exit status of the program. -/
def Exit.status : Exit → Nat
  | stopped => 0
  | startFailed _ => 1
  | configFailed _ => 2

/-- Start a server with the configuration that a file holds. -/
def launch (content : Option Bytes) (bind : SocketAddress → Option SocketAddress) : Except Exit Server := do
  let c ← (Config.ofFile content).mapError Exit.configFailed
  (start c bind).mapError Exit.startFailed

end Server

end CallGateway
