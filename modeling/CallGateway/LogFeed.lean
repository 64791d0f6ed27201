/-
  CallGateway.LogFeed
  ───────────────────
  **THE FEED OF CALL RECORDS.**

  Whoever observes a call puts its record into a bounded intake and goes on
  at once.  A single worker takes the records from there, one by one, and
  hands each to all subscribers.  It works in turns, so that a long intake
  does not keep the subscribers from taking theirs.  After shutdown nothing
  more is handed out or taken in; what a subscriber has in its queue stays
  there for it.
-/
import CallGateway.Call
import CallGateway.Exchange
import CallGateway.Metrics

namespace CallGateway

/-- The intake, its worker, and the subscribers. -/
structure LogFeed where
  -- The records that wait for the worker.
  intake : Queue CallRecord
  exchange : Exchange CallRecord := {}
  -- How many records may wait for one subscriber.
  subscriberBuffer : Nat
  -- The subscribers that were taken, in order.
  handles : List Entry := []
  running : Bool := true
  deriving Inhabited

/-- What comes of an attempt to subscribe to a feed. -/
inductive Admission where
  -- There is a new subscriber at this place.
  | taken (place : Nat)
  -- No subscriber is taken, for this reason.
  | refused (reason : Failure)
  -- The attempt broke off in the middle.
  | brokenOff
  deriving DecidableEq, Repr

/-- What a subscriber of a feed finds. -/
inductive Polled (α : Type) where
  | ready (a : α)
  | pending
  | ended
  deriving DecidableEq, Repr

namespace LogFeed

/-- A feed without subscribers; both buffers have room for one record at
least. -/
def start (intakeCapacity subscriberBuffer : Nat) : LogFeed :=
  { intake := { capacity := max intakeCapacity 1 }, subscriberBuffer := max subscriberBuffer 1 }

/-- How many subscribers are registered. -/
def size (f : LogFeed) : Nat := f.exchange.size

/-- Put a record into the intake; says whether it was taken.  A record that
a full intake does not take is counted. -/
def publish (r : CallRecord) (f : LogFeed) (m : Metrics) : Bool × LogFeed × Metrics :=
  match f.intake.verdict with
  | .delivered => (true, { f with intake := f.intake.offer r }, m)
  | .full => (false, f, m.countDropped .eventIntake 1)
  | .refused => (false, f, m)

/-- The worker hands the oldest record to all subscribers and counts those
who missed it. -/
def dispatch (f : LogFeed) (m : Metrics) : LogFeed × Metrics :=
  if !f.running then (f, m)
  else match f.intake.receive true with
    | (.item r, intake) =>
      let (out, exchange) := f.exchange.fanOut r
      ({ f with intake, exchange }, m.countDropped .logSubscriber out.lagged)
    | _ => (f, m)

/-- The worker hands out so many records, or all that there are. -/
def dispatchMany : Nat → LogFeed → Metrics → LogFeed × Metrics
  | 0, f, m => (f, m)
  | n + 1, f, m => let (f, m) := f.dispatch m; dispatchMany n f m

/-- The worker hands out all that is in the intake. -/
def dispatchAll (f : LogFeed) (m : Metrics) : LogFeed × Metrics :=
  dispatchMany f.intake.items.length f m

/-- How many records the worker hands out in one turn, before it lets the
subscribers catch up. -/
def turnLength : Nat := 128

/-- How many turns it takes the worker to empty the intake. -/
def turnsLeft (f : LogFeed) : Nat := (f.intake.items.length + turnLength - 1) / turnLength

/-- The worker takes one turn. -/
def dispatchTurn (f : LogFeed) (m : Metrics) : LogFeed × Metrics :=
  dispatchMany (min turnLength f.intake.items.length) f m

/-- Take a new subscriber; its place is that of its handle.  The attempt
breaks off, before the exchange is asked, where no queue can be as large as
a subscriber's should be. -/
def subscribe (f : LogFeed) : Admission × LogFeed :=
  if Queue.maxCapacity < f.subscriberBuffer then (.brokenOff, f)
  else match f.exchange.subscribe? f.subscriberBuffer with
    | none => (.refused .shuttingDown, f)
    | some (e, exchange) => (.taken f.handles.length, { f with exchange, handles := f.handles ++ [e] })

/-- What a subscriber finds; it takes the record. -/
def receive (f : LogFeed) (s : Nat) : Polled CallRecord × LogFeed :=
  match f.handles[s]? with
  | none => (.ended, f)
  | some e =>
    match f.exchange.receive e.queue with
    | (.item r, exchange) => (.ready r, { f with exchange })
    | (.empty, _) => (.pending, f)
    | _ => (.ended, f)

/-- A subscriber goes. -/
def drop (f : LogFeed) (s : Nat) : LogFeed :=
  match f.handles[s]? with
  | none => f
  | some e => { f with exchange := (f.exchange.remove e.id).2.dropReader e.queue }

/-- Stop the worker and part with all subscribers; what is left in the
intake goes nowhere. -/
def shutdown (f : LogFeed) : LogFeed :=
  { f with running := false, intake := f.intake.drop, exchange := f.exchange.close.2 }

end LogFeed

end CallGateway
