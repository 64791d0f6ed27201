/-
  CallGateway.Proofs.LogFeed.Journal
  ──────────────────────────────────
  **WHAT HAPPENED TO A FEED OF CALL RECORDS.**

  A feed does not remember what it has taken in, handed out or missed.  A
  journal does: it goes through any actions with the feed, in any order, and
  notes what they answered.  It keeps an account for each subscriber, with
  the records that were handed out while it was registered, and for each of
  them whether the subscriber's queue was full at that time.
-/
import CallGateway.LogFeed
import CallGateway.Proofs.Exchange.Roll

namespace CallGateway

namespace LogFeed

/-! ## §1. Actions. -/

/-- What can be done with a feed. -/
inductive Action where
  -- A record is published.
  | publish (r : CallRecord)
  -- The worker takes one step.
  | dispatch
  | subscribe
  -- The subscriber at a place looks for a record.
  | receive (s : Nat)
  -- The subscriber at a place goes.
  | drop (s : Nat)
  -- The feed is shut down.
  | shutdown

/-- The record that the worker takes with its next step. -/
def due? (f : LogFeed) : Option CallRecord :=
  match f.running, (f.intake.receive true).1 with
  | true, .item r => some r
  | _, _ => none

/-- The queue of the subscriber at a place. -/
def queueOf? (f : LogFeed) (s : Nat) : Option (Queue CallRecord) :=
  (f.handles[s]?).bind fun e => f.exchange.queue? e.queue

theorem publish_of_delivered {f : LogFeed} (h : f.intake.verdict = .delivered) (r : CallRecord) (m : Metrics) :
    f.publish r m = (true, { f with intake := { f.intake with items := f.intake.items ++ [r] } }, m) := by
  unfold publish
  rw [h, Queue.offer_of_delivered r h]

/-- A full intake counts the record that it does not take. -/
theorem publish_of_full {f : LogFeed} (h : f.intake.verdict = .full) (r : CallRecord) (m : Metrics) :
    f.publish r m = (false, f, m.countDropped .eventIntake 1) := by
  unfold publish
  rw [h]

theorem publish_of_refused {f : LogFeed} (h : f.intake.verdict = .refused) (r : CallRecord) (m : Metrics) :
    f.publish r m = (false, f, m) := by
  unfold publish
  rw [h]

/-- What the worker takes is the oldest record of the intake. -/
theorem of_due?_eq_some {f : LogFeed} {r : CallRecord} (h : f.due? = some r) :
    f.running = true ∧ ∃ rest, f.intake.items = r :: rest
      ∧ f.intake.receive true = (.item r, { f.intake with items := rest }) := by
  unfold due? at h
  cases hrunning : f.running with
  | false =>
    rw [hrunning] at h
    cases h
  | true =>
    rw [hrunning] at h
    cases hfound : f.intake.receive true with
    | mk found intake =>
      rw [hfound] at h
      cases found with
      | item r' =>
        obtain rfl := Option.some.inj h
        obtain ⟨rest, hitems, -, rfl⟩ := Queue.of_receive_eq_item hfound
        exact ⟨rfl, rest, hitems, rfl⟩
      | empty => cases h
      | disconnected => cases h
      | gone => cases h

/-- The worker hands it to all subscribers, and those who miss it are
counted. -/
theorem dispatch_of_due {f : LogFeed} {r : CallRecord} {rest : List CallRecord} (hrunning : f.running = true)
    (hreceive : f.intake.receive true = (.item r, { f.intake with items := rest })) (m : Metrics) :
    f.dispatch m
      = ({ f with intake := { f.intake with items := rest }, exchange := (f.exchange.fanOut r).2 },
        m.countDropped .logSubscriber (f.exchange.fanOut r).1.lagged) := by
  unfold dispatch
  simp only [hrunning, hreceive]
  rfl

/-- With nothing to take, the worker changes nothing. -/
theorem dispatch_of_idle {f : LogFeed} (h : f.due? = none) (m : Metrics) : f.dispatch m = (f, m) := by
  unfold due? at h
  unfold dispatch
  cases hrunning : f.running with
  | false => rfl
  | true =>
    rw [hrunning] at h
    cases hfound : f.intake.receive true with
    | mk found intake =>
      rw [hfound] at h
      cases found with
      | item r' => cases h
      | empty => rfl
      | disconnected => rfl
      | gone => rfl

/-- A closed feed takes nobody. -/
theorem subscribe_of_closed {f : LogFeed} (h : f.exchange.isOpen = false) :
    f.subscribe = (if Queue.maxCapacity < f.subscriberBuffer then .brokenOff else .refused .shuttingDown, f) := by
  unfold subscribe Exchange.subscribe? Exchange.add
  split
  · rfl
  · simp [h]

/-- A subscriber is taken unless its queue would be too large. -/
theorem subscribe_of_open {f : LogFeed} {e : Entry} {x : Exchange CallRecord}
    (h : f.exchange.subscribe? f.subscriberBuffer = some (e, x)) :
    f.subscribe = if Queue.maxCapacity < f.subscriberBuffer then (.brokenOff, f)
      else (.taken f.handles.length, { f with exchange := x, handles := f.handles ++ [e] }) := by
  unfold subscribe
  rw [h]

/-- What comes of an attempt to subscribe: nobody is taken and nothing changes, or
a subscriber is registered and there is a handle for it. -/
theorem subscribe_cases (f : LogFeed) :
    (∃ reason, f.subscribe = (.refused reason, f)) ∨ f.subscribe = (.brokenOff, f)
      ∨ f.exchange.isOpen = true ∧ f.subscribe = (.taken f.handles.length, { f with
          exchange := (f.exchange.add f.subscriberBuffer).2
          handles := f.handles ++ [⟨f.exchange.nextId, f.exchange.queues.length⟩] }) := by
  unfold subscribe
  by_cases hlarge : Queue.maxCapacity < f.subscriberBuffer
  · rw [if_pos hlarge]
    exact .inr (.inl rfl)
  · rw [if_neg hlarge]
    cases hopen : f.exchange.isOpen with
    | false =>
      rw [Exchange.subscribe?_of_closed hopen]
      exact .inl ⟨_, rfl⟩
    | true =>
      rw [Exchange.subscribe?_of_open hopen]
      exact .inr (.inr ⟨rfl, rfl⟩)

/-- Where no subscriber is taken, nothing changes. -/
theorem subscribe_of_not_taken {f : LogFeed} (h : ∀ place, f.subscribe.1 ≠ .taken place) : f.subscribe.2 = f := by
  obtain ⟨reason, heq⟩ | heq | ⟨-, heq⟩ := f.subscribe_cases
  · rw [heq]
  · rw [heq]
  · exact absurd (congrArg Prod.fst heq) (h _)

/-- A subscriber takes the oldest record of its queue, or changes nothing. -/
theorem receive_cases (f : LogFeed) (s : Nat) :
    (∃ r e x', f.handles[s]? = some e ∧ f.exchange.receive e.queue = (.item r, x')
        ∧ f.receive s = (.ready r, { f with exchange := x' }))
      ∨ f.receive s = (.pending, f) ∨ f.receive s = (.ended, f) := by
  unfold receive
  cases hhandle : f.handles[s]? with
  | none => exact .inr (.inr rfl)
  | some e =>
    cases hfound : f.exchange.receive e.queue with
    | mk found x' =>
      cases found with
      | item r => exact .inl ⟨r, e, x', rfl, hfound, by simp only [hfound]⟩
      | empty => exact .inr (.inl (by simp only [hfound]))
      | disconnected => exact .inr (.inr (by simp only [hfound]))
      | gone => exact .inr (.inr (by simp only [hfound]))

/-! ## §2. Accounts. -/

/-- What is known of a subscriber. -/
structure Account where
  -- How many records had been handed out when it came.
  since : Nat
  -- How many had been handed out when it was struck off, because it went
  -- or because the feed was shut down.
  upTo : Option Nat := none
  -- The records that were handed out meanwhile; with each, whether the
  -- subscriber's queue was full.
  share : List (CallRecord × Bool) := []
  -- The records that it has received.
  received : List CallRecord := []
  -- The records that were in its queue when it went.
  left : Option (List CallRecord) := none

namespace Account

/-- The subscriber has not been struck off. -/
def registered (a : Account) : Bool := a.upTo.isNone

/-- Those of the records handed out that fall into the time in which the
subscriber was registered. -/
def period (a : Account) (dispatched : List CallRecord) : List CallRecord :=
  (dispatched.take (a.upTo.getD dispatched.length)).drop a.since

/-- The records that found room. -/
def kept (a : Account) : List CallRecord := (a.share.filter (!·.2)).map (·.1)

/-- The records that found the queue full. -/
def missed (a : Account) : List CallRecord := (a.share.filter (·.2)).map (·.1)

/-- A record is handed out. -/
def offered (r : CallRecord) (full : Bool) (a : Account) : Account :=
  if a.registered then { a with share := a.share ++ [(r, full)] } else a

/-- The subscriber is struck off, after so many records. -/
def close (n : Nat) (a : Account) : Account := { a with upTo := a.upTo.or (some n) }

/-- The subscriber goes, with these records in its queue. -/
def leave (items : List CallRecord) (a : Account) : Account := { a with left := a.left.or (some items) }

/-- The subscriber receives a record. -/
def receive (r : CallRecord) (a : Account) : Account := { a with received := a.received ++ [r] }

end Account

/-! ## §3. The journal. -/

/-- A feed with its counters, and what happened to it. -/
structure Journal where
  feed : LogFeed
  metrics : Metrics
  -- The records that were taken in.
  accepted : List CallRecord := []
  -- The records that the worker has handed out.
  dispatched : List CallRecord := []
  -- How many records were not taken in while the worker was running.
  turnedAway : Nat := 0
  -- The accounts of the subscribers, by their places.
  accounts : List Account := []

namespace Journal

/-- The journal of a new feed. -/
def start (intakeCapacity subscriberBuffer : Nat) (m : Metrics) : Journal :=
  { feed := LogFeed.start intakeCapacity subscriberBuffer, metrics := m }

/-- The queue of a subscriber has no room. -/
def isFull (j : Journal) (s : Nat) : Bool :=
  (j.feed.queueOf? s).any fun q => q.capacity ≤ q.items.length

/-- The records in the queue of a subscriber; where it has gone, those that
were in it then. -/
def queued (j : Journal) (s : Nat) : List CallRecord :=
  (j.accounts[s]?.bind (·.left)).getD (((j.feed.queueOf? s).map (·.items)).getD [])

/-- The journal after an action. -/
def next (j : Journal) : Action → Journal
  | .publish r =>
    let (taken, feed, metrics) := j.feed.publish r j.metrics
    { j with
      feed, metrics
      accepted := if taken then j.accepted ++ [r] else j.accepted
      turnedAway := if !taken && j.feed.running then j.turnedAway + 1 else j.turnedAway }
  | .dispatch =>
    let (feed, metrics) := j.feed.dispatch j.metrics
    match j.feed.due? with
    | none => { j with feed, metrics }
    | some r => { j with
        feed, metrics
        dispatched := j.dispatched ++ [r]
        accounts := j.accounts.mapIdx fun s => Account.offered r (j.isFull s) }
  | .subscribe =>
    match j.feed.subscribe with
    | (.taken _, feed) => { j with feed, accounts := j.accounts ++ [{ since := j.dispatched.length }] }
    | (_, feed) => { j with feed }
  | .receive s =>
    match j.feed.receive s with
    | (.ready r, feed) => { j with feed, accounts := j.accounts.modify s (Account.receive r) }
    | (_, feed) => { j with feed }
  | .drop s =>
    { j with
      feed := j.feed.drop s
      accounts := j.accounts.modify s fun a => (a.close j.dispatched.length).leave (j.queued s) }
  | .shutdown =>
    { j with
      feed := j.feed.shutdown
      accounts := j.accounts.map (Account.close j.dispatched.length) }

/-- The journal after some actions. -/
def run (j : Journal) (actions : List Action) : Journal := actions.foldl next j

end Journal

end LogFeed

end CallGateway
