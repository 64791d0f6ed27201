/-
  CallGateway.Instant
  ───────────────────
  **THE TIME.**

  Feeds measure time from the start of the gateway; what they tell their
  subscribers carries the time of the Unix clock.
-/

namespace CallGateway

/-- The time, as the feeds and as their messages know it. -/
structure Instant where
  -- Milliseconds since the gateway started.
  ms : Nat
  -- Seconds of the Unix clock.
  wall : Int64

end CallGateway
