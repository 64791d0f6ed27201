/-
  CallGateway.Config
  ──────────────────
  **THE CONFIGURATION AND ITS BOUNDS.**

  A configuration names its version, how the server listens and how much it
  buffers, and who may call what.  `Config.validate` says whether a gateway
  can be started with it, short of compiling the access patterns and of
  taking the address.
-/
import CallGateway.Net.SocketAddress
import CallGateway.Policy.Access

namespace CallGateway

/-- How the server listens, buffers and stops. -/
structure ServerConfig where
  listen : String := "127.0.0.1:8082"
  -- How many records may wait for dispatch to the log streams.
  eventBuffer : Nat := 1024
  -- How many records may wait for one subscriber.
  subscriberBuffer : Nat := 256
  -- The longest interval of a statistics stream, in seconds.
  maxStatsIntervalSecs : Nat := 3600
  -- How long calls in flight may take after the shutdown signal.
  drainTimeoutMs : Nat := 0
  deriving DecidableEq, Repr, Inhabited

/-- The configuration of a gateway. -/
structure Config where
  version : Nat
  -- How the server listens, buffers and stops.
  server : ServerConfig := {}
  acl : AccessTable := []
  deriving DecidableEq, Repr, Inhabited

/-- What can be wrong with a configuration. -/
inductive ConfigFault where
  -- The version is not the one that the gateway reads.
  | version
  -- A consumer of the access table has no name.
  | emptyConsumer
  -- The address to listen on is none.
  | listen (text : String)
  -- The buffer for dispatch is empty or too large.
  | eventBuffer
  -- The buffer of a subscriber is empty or too large.
  | subscriberBuffer
  -- The longest interval is zero or too long.
  | maxStatsInterval
  -- The time for calls in flight is too long.
  | drainTimeout
  deriving DecidableEq, Repr

namespace ConfigFault

/-- What the owner of the configuration is told. -/
def failure : ConfigFault → Failure
  | version => .unsupportedVersion
  | emptyConsumer => .badRequest "acl consumer must not be empty"
  | listen text => .badRequest ("server.listen must be a valid SocketAddr: " ++ text)
  | eventBuffer => .badRequest "server.event_buffer must be between 1 and 65536"
  | subscriberBuffer => .badRequest "server.subscriber_buffer must be between 1 and 65536"
  | maxStatsInterval => .badRequest "server.max_stats_interval_secs must be between 1 and 86400"
  | drainTimeout => .badRequest "server.drain_timeout_ms must not exceed 60000"

end ConfigFault

namespace ServerConfig

/-- The first thing that is wrong with how the server is set up. -/
def fault? (s : ServerConfig) : Option ConfigFault :=
  if (SocketAddress.parse? s.listen).isNone then some (.listen s.listen)
  else if ¬(1 ≤ s.eventBuffer ∧ s.eventBuffer ≤ 65536) then some .eventBuffer
  else if ¬(1 ≤ s.subscriberBuffer ∧ s.subscriberBuffer ≤ 65536) then some .subscriberBuffer
  else if ¬(1 ≤ s.maxStatsIntervalSecs ∧ s.maxStatsIntervalSecs ≤ 86400) then some .maxStatsInterval
  else if 60000 < s.drainTimeoutMs then some .drainTimeout
  else none

end ServerConfig

namespace Config

/-- The first thing that is wrong with a configuration. -/
def fault? (c : Config) : Option ConfigFault :=
  if c.version ≠ 1 then some .version
  else if c.acl.any (·.1 = "") then some .emptyConsumer
  else c.server.fault?

/-- Accepts a configuration that has nothing wrong. -/
def validate (c : Config) : Outcome Unit :=
  match c.fault? with
  | some fault => .error fault.failure
  | none => .ok ()

end Config

end CallGateway
