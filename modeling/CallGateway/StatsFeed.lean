/-
  CallGateway.StatsFeed
  ─────────────────────
  **THE FEED OF CALL STATISTICS.**

  Every subscriber counts the calls for itself, by method and by consumer,
  and reports at its own interval.  Each report starts the counts anew, and
  covers all records that were queued for the subscriber when it was made.

  A subscriber that waits for its next report listens to two things, the
  queue of records and its ticker.  Where both have something for it, either
  may come first: `poll` takes the choices as an argument.
-/
import CallGateway.LogFeed
import CallGateway.StatsFeed.Snapshot
import CallGateway.StatsFeed.Ticker

namespace CallGateway

/-! ## §1. The feed. -/

/-- A subscriber with what it has counted since its last report. -/
structure StatsSubscriber where
  -- Its id and the place of its queue.
  entry : Entry
  ticker : Ticker
  -- The counts since the last report.
  live : Snapshot := {}
  deriving Inhabited

/-- The subscribers of the feed. -/
structure StatsFeed where
  exchange : Exchange CallRecord := {}
  -- How many records may wait for one subscriber.
  subscriberBuffer : Nat
  -- The subscribers that were taken, in order.
  subscribers : List StatsSubscriber := []
  deriving Inhabited

namespace StatsFeed

/-- A feed without subscribers; a buffer has room for one record at least. -/
def start (subscriberBuffer : Nat) : StatsFeed := { subscriberBuffer := max subscriberBuffer 1 }

/-- How many subscribers are registered. -/
def size (f : StatsFeed) : Nat := f.exchange.size

/-- Hand a record to all subscribers, and count those who missed it. -/
def publish (r : CallRecord) (f : StatsFeed) (m : Metrics) : FanOut × StatsFeed × Metrics :=
  let (out, exchange) := f.exchange.fanOut r
  (out, { f with exchange }, m.countDropped .statsSubscriber out.lagged)

/-- Take a new subscriber that reports at an interval.  The attempt breaks
off where no queue can be as large as the subscriber's should be, and where
its first report would come after the end of the clock.  In that case the
subscriber is gone, but it stays registered until the next record finds out
that it is. -/
def subscribe (f : StatsFeed) (now period : Nat) : Admission × StatsFeed :=
  if period = 0 then (.refused (.badRequest "stats interval must be positive"), f)
  else if Queue.maxCapacity < f.subscriberBuffer then (.brokenOff, f)
  else match f.exchange.subscribe? f.subscriberBuffer with
    | none => (.refused .shuttingDown, f)
    | some (entry, exchange) =>
      match Ticker.start? now period with
      | none => (.brokenOff, { f with exchange := exchange.dropReader entry.queue })
      | some ticker =>
        let subscribers := f.subscribers ++ [{ entry := entry, ticker := ticker }]
        (.taken f.subscribers.length, { f with exchange, subscribers })

/-- A subscriber goes. -/
def drop (f : StatsFeed) (s : Nat) : StatsFeed :=
  match f.subscribers[s]? with
  | none => f
  | some sub => { f with exchange := (f.exchange.remove sub.entry.id).2.dropReader sub.entry.queue }

/-- Part with all subscribers, and count them. -/
def shutdown (f : StatsFeed) : Nat × StatsFeed :=
  let (n, exchange) := f.exchange.close
  (n, { f with exchange })

/-! ## §2. Waiting for a report. -/

/-- Put a subscriber in its place. -/
def set (f : StatsFeed) (s : Nat) (sub : StatsSubscriber) : StatsFeed :=
  { f with subscribers := f.subscribers.set s sub }

/-- The records in a subscriber's queue, all taken at once. -/
def takeQueued (f : StatsFeed) (e : Entry) : List CallRecord × StatsFeed :=
  match f.exchange.queue? e.queue with
  | none => ([], f)
  | some q => (q.items, { f with exchange := f.exchange.modifyQueue e.queue fun q => { q with items := [] } })

/-- Report: count what is queued, hand out the counts, and start anew. -/
def report (f : StatsFeed) (s : Nat) (sub : StatsSubscriber) (now : Nat) : Snapshot × StatsFeed :=
  let (queued, f) := f.takeQueued sub.entry
  (queued.foldl Snapshot.count sub.live,
    f.set s { sub with ticker := sub.ticker.take now, live := {} })

/-- What one turn of a waiting subscriber comes to. -/
inductive Turn where
  -- It counted a record and goes on waiting.
  | counted
  | done (p : Polled Snapshot)

/-- One turn of a waiting subscriber.  `tickFirst` decides where a record,
or the end of the feed, and a tick are there at the same time. -/
def turn (tickFirst : Bool) (f : StatsFeed) (s now : Nat) : Turn × StatsFeed :=
  match f.subscribers[s]? with
  | none => (.done .ended, f)
  | some sub =>
    let due := sub.ticker.isDue now
    let tick : Turn × StatsFeed :=
      let (snapshot, f) := f.report s sub now
      (.done (.ready snapshot), f)
    if tickFirst && due then tick
    -- a record comes before a tick, and a tick before waiting
    else match f.exchange.receive sub.entry.queue with
      | (.item r, exchange) =>
        (.counted, { f with exchange }.set s { sub with live := sub.live.count r })
      | (.empty, _) => if due then tick else (.done .pending, f)
      | _ => (.done .ended, f)

/-- How many records wait for a subscriber. -/
def queued (f : StatsFeed) (s : Nat) : Nat :=
  match f.subscribers[s]? with
  | none => 0
  | some sub => ((f.exchange.queue? sub.entry.queue).map (·.items.length)).getD 0

/-- Look once for the next report, taking turns for as long as there are
records to count.  The choices say for each turn whether the tick is looked
at first; without a choice it is not. -/
def poll (choices : List Bool) (f : StatsFeed) (s now : Nat) : Polled Snapshot × StatsFeed :=
  go (f.queued s + 1) choices f
where
  /-- Takes turns while the fuel lasts; a turn that counts a record takes it
  from the queue. -/
  go : (fuel : Nat) → List Bool → StatsFeed → Polled Snapshot × StatsFeed
    | 0, _, f => (.pending, f)
    | fuel + 1, choices, f =>
      match turn (choices.head?.getD false) f s now with
      | (.counted, f) => go fuel choices.tail f
      | (.done p, f) => (p, f)

/-- Wait for the next report: look for it now and, where there is nothing
yet, when the tick comes.  Also yields the time then. -/
def next (f : StatsFeed) (s now : Nat) : Polled Snapshot × Nat × StatsFeed :=
  match f.poll [] s now with
  | (.pending, f) =>
    let later := max now (((f.subscribers[s]?).map (·.ticker.comes)).getD now)
    let (p, f) := f.poll [] s later
    (p, later, f)
  | (p, f) => (p, now, f)

end StatsFeed

end CallGateway
