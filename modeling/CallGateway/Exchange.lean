/-
  CallGateway.Exchange
  ────────────────────
  **SUBSCRIBERS AND THEIR QUEUES.**

  An exchange hands every item to all of its subscribers.  Each of them has
  an id of its own and a bounded queue; one whose queue is full misses the
  item, and one whose reader wants no more is struck off.

  Handing out an item takes three kinds of steps, and anything may happen
  between them: the subscribers of the moment are noted down, the item is
  offered to one after the other, and those who refused it are struck off.
  Whoever has noted down a subscriber can still reach its queue, so a queue
  has come to its end only when no one is left who could fill it.
-/
import CallGateway.Queue

namespace CallGateway

/-! ## §1. The exchange. -/

/-- A subscriber: its id and the number of its queue. -/
structure Entry where
  -- The id that the subscriber was given.
  id : Nat
  queue : Nat
  deriving DecidableEq, Repr, Inhabited

/-- Subscribers, queues, and lists of subscribers that someone has noted. -/
structure Exchange (α : Type) where
  -- The id for the next subscriber.  Fewer than 2 ^ 64 of them are taken to
  -- come, so that a word of 64 bits would not overflow either.
  nextId : Nat := 1
  isOpen : Bool := true
  -- The subscribers in the order in which they came.
  entries : List Entry := []
  queues : List (Queue α) := []
  -- The lists of subscribers that are noted down somewhere.
  held : List (List Entry) := []
  deriving DecidableEq, Repr, Inhabited

/-- How an item was received by the subscribers. -/
structure FanOut where
  delivered : Nat := 0
  lagged : Nat := 0
  removed : Nat := 0
  deriving DecidableEq, Repr, Inhabited

namespace Exchange

variable {α : Type}

/-- How many subscribers there are. -/
def size (x : Exchange α) : Nat := x.entries.length

/-- The ids of the subscribers. -/
def ids (x : Exchange α) : List Nat := x.entries.map (·.id)

/-- Someone could still put an item into a queue. -/
def hasSender (x : Exchange α) (q : Nat) : Bool :=
  x.entries.any (·.queue == q) || x.held.any fun es => es.any (·.queue == q)

/-- The queue at a place. -/
def queue? (x : Exchange α) (q : Nat) : Option (Queue α) := x.queues[q]?

/-- Change the queue at a place. -/
def modifyQueue (x : Exchange α) (q : Nat) (f : Queue α → Queue α) : Exchange α :=
  { x with queues := x.queues.modify q f }

/-! ## §2. Coming and going. -/

/-- Set up a new queue, and subscribe it unless the exchange is closed. -/
def add (x : Exchange α) (capacity : Nat) : Option Nat × Exchange α :=
  let x' := { x with queues := x.queues ++ [{ capacity := capacity }] }
  if x.isOpen then
    (some x.nextId, { x' with
      nextId := x.nextId + 1, entries := x.entries ++ [⟨x.nextId, x.queues.length⟩] })
  else (none, x')

/-- Set up a new queue and subscribe it; a closed exchange stays as it is. -/
def subscribe? (x : Exchange α) (capacity : Nat) : Option (Entry × Exchange α) :=
  match x.add capacity with
  | (some id, x') => some (⟨id, x.queues.length⟩, x')
  | (none, _) => none

/-- Strike off the subscriber with an id; says whether there was one. -/
def remove (x : Exchange α) (id : Nat) : Bool × Exchange α :=
  let entries := x.entries.filter (·.id != id)
  (entries.length != x.entries.length, { x with entries })

/-- Strike off the subscribers with some ids, and count them. -/
def removeAll (x : Exchange α) (failed : List Nat) : Nat × Exchange α :=
  let entries := x.entries.filter fun e => !failed.contains e.id
  (x.entries.length - entries.length, { x with entries })

/-- Strike off all subscribers, count them, and take no more. -/
def close (x : Exchange α) : Nat × Exchange α :=
  (x.entries.length, { x with isOpen := false, entries := [] })

/-- Note down the subscribers of the moment. -/
def hold (x : Exchange α) : Exchange α := { x with held := x.entries :: x.held }

/-- Forget one of the lists that are noted down; the latest is at place
zero. -/
def release (x : Exchange α) (i : Nat) : Exchange α := { x with held := x.held.eraseIdx i }

/-! ## §3. Readers. -/

/-- What the reader of a queue finds, and the exchange after it took it. -/
def receive (x : Exchange α) (q : Nat) : Received α × Exchange α :=
  match x.queue? q with
  | none => (.gone, x)
  | some queue =>
    let (r, queue) := queue.receive (x.hasSender q)
    (r, x.modifyQueue q fun _ => queue)

/-- The reader of a queue wants no more. -/
def closeReader (x : Exchange α) (q : Nat) : Exchange α := x.modifyQueue q Queue.close

/-- The reader of a queue goes. -/
def dropReader (x : Exchange α) (q : Nat) : Exchange α := x.modifyQueue q Queue.drop

/-! ## §4. Handing out an item, step by step. -/

/-- An item that is being handed out. -/
structure Flight (α : Type) where
  item : α
  -- The subscribers to whom it is still to be offered.
  todo : List Entry
  -- The ids of those who refused it.
  failed : List Nat := []
  tally : FanOut := {}
  deriving DecidableEq, Repr

/-- Note down the subscribers of the moment for an item. -/
def launch (x : Exchange α) (a : α) : Flight α := { item := a, todo := x.entries }

/-- Offer the item to one subscriber. -/
def offerTo (f : Flight α) (e : Entry) (x : Exchange α) : Flight α × Exchange α :=
  match (x.queue? e.queue).map Queue.verdict with
  | some .delivered =>
    ({ f with tally := { f.tally with delivered := f.tally.delivered + 1 } },
      x.modifyQueue e.queue (·.offer f.item))
  | some .full => ({ f with tally := { f.tally with lagged := f.tally.lagged + 1 } }, x)
  | _ => ({ f with failed := f.failed ++ [e.id] }, x)

/-- Offer the item to the next subscriber. -/
def offerNext (f : Flight α) (x : Exchange α) : Flight α × Exchange α :=
  match f.todo with
  | [] => (f, x)
  | e :: todo => offerTo { f with todo } e x

/-- Offer the item to all subscribers that are left. -/
def offerAll (f : Flight α) (x : Exchange α) : Flight α × Exchange α :=
  go f.todo f x
where
  -- Takes as many steps as there are subscribers left.
  go : List Entry → Flight α → Exchange α → Flight α × Exchange α
    | [], f, x => (f, x)
    | _ :: rest, f, x => let (f, x) := offerNext f x; go rest f x

/-- Strike off those who refused the item. -/
def land (f : Flight α) (x : Exchange α) : FanOut × Exchange α :=
  let (removed, x) := x.removeAll f.failed
  ({ f.tally with removed }, x)

/-- Hand out an item with nothing happening between the steps. -/
def fanOut (x : Exchange α) (a : α) : FanOut × Exchange α :=
  let (f, x) := offerAll (x.launch a) x
  land f x

end Exchange

end CallGateway
