/-
  CallGateway.Queue
  ─────────────────
  **A BOUNDED QUEUE WITH ONE READER.**

  Whoever has something for the reader offers it and never waits: a full
  queue does not take it, and neither does one whose reader wants no more.
  A reader that closes its queue can still take what is in it; one that is
  gone leaves nothing behind.
-/

namespace CallGateway

/-- The state of a queue's reader. -/
inductive Reader where
  | listening
  -- It wants no more, but may take what is queued.
  | closed
  | gone
  deriving DecidableEq, Repr, Inhabited

/-- A bounded queue. -/
structure Queue (α : Type) where
  -- How many items it holds at most.
  capacity : Nat
  -- The items, the oldest first.
  items : List α := []
  reader : Reader := .listening
  deriving DecidableEq, Repr

/-- What became of an item that was offered. -/
inductive Verdict where
  | delivered
  | full
  | refused
  deriving DecidableEq, Repr

/-- What a queue's reader finds. -/
inductive Received (α : Type) where
  -- The oldest item.
  | item (a : α)
  | empty
  -- Nothing, and nothing can come any more.
  | disconnected
  | gone
  deriving DecidableEq, Repr

namespace Queue

variable {α : Type}

/-- The most items that a queue can be made for. -/
def maxCapacity : Nat := UInt64.size / 8 - 1

instance : Inhabited (Queue α) := ⟨{ capacity := 1 }⟩

/-- What becomes of an item that is offered. -/
def verdict (q : Queue α) : Verdict :=
  if q.reader ≠ .listening then .refused
  else if q.capacity ≤ q.items.length then .full
  else .delivered

/-- The queue after an item was offered. -/
def offer (q : Queue α) (a : α) : Queue α :=
  if q.verdict = .delivered then { q with items := q.items ++ [a] } else q

/-- What the reader finds, and the queue after it took it.  `hasSender`
says whether someone could still put something in. -/
def receive (q : Queue α) (hasSender : Bool) : Received α × Queue α :=
  match q.reader, q.items with
  | .gone, _ => (.gone, q)
  | _, a :: rest => (.item a, { q with items := rest })
  | .closed, [] => (.disconnected, q)
  | .listening, [] => (if hasSender then .empty else .disconnected, q)

/-- The reader wants no more. -/
def close (q : Queue α) : Queue α :=
  if q.reader = .listening then { q with reader := .closed } else q

/-- The reader goes, and what is queued with it. -/
def drop (q : Queue α) : Queue α := { q with items := [], reader := .gone }

end Queue

end CallGateway
