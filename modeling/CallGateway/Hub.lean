/-
  CallGateway.Hub
  ───────────────
  **WHAT ALL CALLS SHARE.**

  The metrics and the two feeds.  Every call leaves its trace here before
  anything is decided about it, and streams follow the feeds from here.
-/
import CallGateway.LogFeed
import CallGateway.StatsFeed

namespace CallGateway

/-- The metrics and the feeds. -/
structure Hub where
  metrics : Metrics := {}
  log : LogFeed
  stats : StatsFeed
  deriving Inhabited

namespace Hub

/-- A hub without subscribers. -/
def start (eventBuffer subscriberBuffer : Nat) : Hub :=
  { log := .start eventBuffer subscriberBuffer, stats := .start subscriberBuffer }

/-- The label of methods that are not registered. -/
def unregistered : String := "unregistered"

/-- Observe a call: count it, and offer its record to the statistics
subscribers and to the log.  A method that is not registered is counted
under one label for all of them. -/
def observe (h : Hub) (known : Bool) (wall : Int64) (call : Call) : Hub :=
  let r := CallRecord.ofCall wall call
  let metrics := h.metrics.countCall (if known then r.method else unregistered)
  let (_, stats, metrics) := h.stats.publish r metrics
  let (_, log, metrics) := h.log.publish r metrics
  { metrics, log, stats }

/-- Count a call that failed. -/
def countError (h : Hub) (code : Code) : Hub := { h with metrics := h.metrics.countError code }

/-- The log's worker takes one turn. -/
def dispatchTurn (h : Hub) : Hub :=
  let (log, metrics) := h.log.dispatchTurn h.metrics
  { h with log, metrics }

/-- The subscriber counts that go with the metrics. -/
def gauges (h : Hub) : List (String × Nat) :=
  [("rpcgate_log_subscribers", h.log.size), ("rpcgate_stats_subscribers", h.stats.size)]

/-- The text of the metrics. -/
def render (h : Hub) : String := h.metrics.render h.gauges

/-! ## Shutting down, in three steps. -/

/-- New calls are turned away from here on. -/
def setDraining (h : Hub) : Hub := { h with metrics := h.metrics.setDraining }

/-- The log feed ends. -/
def stopLog (h : Hub) : Hub := { h with log := h.log.shutdown }

/-- The statistics feed ends. -/
def stopStats (h : Hub) : Hub := { h with stats := h.stats.shutdown.2 }

/-- All three steps. -/
def drain (h : Hub) : Hub := h.setDraining.stopLog.stopStats

end Hub

end CallGateway
