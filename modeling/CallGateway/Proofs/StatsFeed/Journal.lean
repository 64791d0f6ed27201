/-
  CallGateway.Proofs.StatsFeed.Journal
  ────────────────────────────────────
  **WHAT HAPPENED TO A FEED OF CALL STATISTICS.**

  A feed of statistics does not remember which records it handed out, nor
  what it has reported.  A journal does: it goes through any actions with the
  feed, in any order, and keeps an account for each subscriber.  Waiting for
  a report is done turn by turn, so that whatever else happens may happen
  between two turns, and a subscriber may stop waiting after any of them.
-/
import CallGateway.StatsFeed
import CallGateway.Proofs.Exchange.Roll

namespace CallGateway

namespace StatsFeed

/-! ## §1. Actions. -/

/-- What can be done with a feed. -/
inductive Action where
  -- A record is published.
  | publish (r : CallRecord)
  -- A subscriber comes that reports at this interval.
  | subscribe (period : Nat)
  -- Time passes.
  | advance (ms : Nat)
  /-- The subscriber at a place takes one turn of waiting, and the tick is
  looked at first or not. -/
  | turn (s : Nat) (tickFirst : Bool)
  -- The subscriber at a place looks once for its next report.
  | poll (s : Nat) (choices : List Bool)
  -- The subscriber at a place goes.
  | drop (s : Nat)
  -- The feed is shut down.
  | shutdown

/-- The queue of a subscriber. -/
def queueOf? (f : StatsFeed) (sub : StatsSubscriber) : Option (Queue CallRecord) :=
  f.exchange.queue? sub.entry.queue

/-- A subscriber is registered. -/
def isRegistered (f : StatsFeed) (sub : StatsSubscriber) : Bool := f.exchange.entries.contains sub.entry

/-- The queue of a subscriber has no room. -/
def isFull (f : StatsFeed) (sub : StatsSubscriber) : Bool :=
  (f.queueOf? sub).any fun q => q.capacity ≤ q.items.length

/-- The subscriber at a place has counted nothing since its last report, and
nothing waits for it. -/
def IsFresh (f : StatsFeed) (s : Nat) : Prop :=
  ∃ sub, f.subscribers[s]? = some sub ∧ sub.live = {} ∧ f.queued s = 0

theorem publish_eq (r : CallRecord) (f : StatsFeed) (m : Metrics) :
    (f.publish r m).2
      = ({ f with exchange := (f.exchange.fanOut r).2 },
        m.countDropped .statsSubscriber (f.exchange.fanOut r).1.lagged) := rfl

/-- A closed feed takes nobody. -/
theorem subscribe_of_closed {f : StatsFeed} (h : f.exchange.isOpen = false) (now : Nat) {period : Nat}
    (hperiod : period ≠ 0) :
    f.subscribe now period
      = (if Queue.maxCapacity < f.subscriberBuffer then .brokenOff else .refused .shuttingDown, f) := by
  unfold subscribe
  rw [if_neg hperiod, Exchange.subscribe?_of_closed h]
  split
  · rfl
  · rfl

/-- What comes of an attempt to subscribe: nobody is taken, or a subscriber is
registered.  Where its first report would come after the end of the clock, it is
gone at once, and otherwise there is a handle for it. -/
theorem subscribe_cases (f : StatsFeed) (now period : Nat) :
    (∃ reason, f.subscribe now period = (.refused reason, f)) ∨ f.subscribe now period = (.brokenOff, f)
      ∨ (f.exchange.isOpen = true ∧ Ticker.start? now period = none ∧ f.subscribe now period
          = (.brokenOff, { f with
              exchange := (f.exchange.add f.subscriberBuffer).2.dropReader f.exchange.queues.length }))
      ∨ ∃ ticker, f.exchange.isOpen = true ∧ Ticker.start? now period = some ticker ∧ f.subscribe now period
          = (.taken f.subscribers.length, { f with
              exchange := (f.exchange.add f.subscriberBuffer).2
              subscribers := f.subscribers ++ [⟨⟨f.exchange.nextId, f.exchange.queues.length⟩, ticker, {}⟩] }) := by
  unfold subscribe
  by_cases hperiod : period = 0
  · rw [if_pos hperiod]
    exact .inl ⟨_, rfl⟩
  · rw [if_neg hperiod]
    by_cases hlarge : Queue.maxCapacity < f.subscriberBuffer
    · rw [if_pos hlarge]
      exact .inr (.inl rfl)
    · rw [if_neg hlarge]
      cases hopen : f.exchange.isOpen with
      | false =>
        rw [Exchange.subscribe?_of_closed hopen]
        exact .inl ⟨_, rfl⟩
      | true =>
        rw [Exchange.subscribe?_of_open hopen]
        cases hticker : Ticker.start? now period with
        | none => exact .inr (.inr (.inl ⟨rfl, rfl, rfl⟩))
        | some ticker => exact .inr (.inr (.inr ⟨ticker, rfl, rfl, rfl⟩))

/-- A report covers what was counted and what is queued, and starts anew. -/
theorem report_eq {f : StatsFeed} {sub : StatsSubscriber} {q : Queue CallRecord} (h : f.queueOf? sub = some q)
    (s now : Nat) :
    f.report s sub now
      = (q.items.foldl Snapshot.count sub.live,
        { f with
          exchange := f.exchange.modifyQueue sub.entry.queue fun q => { q with items := [] }
          subscribers := f.subscribers.set s { sub with ticker := sub.ticker.take now, live := {} } }) := by
  unfold report takeQueued
  unfold queueOf? at h
  rw [h]
  rfl

/-- A subscriber's turn: it reports, it counts one record, or it changes
nothing. -/
theorem turn_cases (tickFirst : Bool) (f : StatsFeed) (s now : Nat) :
    (∃ sub, f.subscribers[s]? = some sub
        ∧ f.turn tickFirst s now = (.done (.ready (f.report s sub now).1), (f.report s sub now).2))
      ∨ (∃ sub r x', f.subscribers[s]? = some sub ∧ f.exchange.receive sub.entry.queue = (.item r, x')
        ∧ f.turn tickFirst s now
          = (.counted, { f with
              exchange := x'
              subscribers := f.subscribers.set s { sub with live := sub.live.count r } }))
      ∨ f.turn tickFirst s now = (.done .pending, f) ∨ f.turn tickFirst s now = (.done .ended, f) := by
  unfold turn
  cases hsub : f.subscribers[s]? with
  | none => exact .inr (.inr (.inr rfl))
  | some sub =>
    simp only
    by_cases hfirst : (tickFirst && sub.ticker.isDue now) = true
    · rw [if_pos hfirst]
      exact .inl ⟨sub, rfl, rfl⟩
    · rw [if_neg hfirst]
      cases hfound : f.exchange.receive sub.entry.queue with
      | mk found x' =>
        cases found with
        | item r => exact .inr (.inl ⟨sub, r, x', rfl, hfound, rfl⟩)
        | empty =>
          by_cases hdue : sub.ticker.isDue now = true
          · exact .inl ⟨sub, rfl, by simp only [hdue, if_true]⟩
          · exact .inr (.inr (.inl (by simp only [hdue]; rfl)))
        | disconnected => exact .inr (.inr (.inr rfl))
        | gone => exact .inr (.inr (.inr rfl))

/-! ### Subscribers on a roll. -/

section
variable {f : StatsFeed} {roll : List Entry} {s t : Nat} {sub sub' : StatsSubscriber}

/-- A subscriber keeps its entry. -/
theorem entries_set (hsub : f.subscribers[s]? = some sub) (hentry : sub'.entry = sub.entry) :
    (f.subscribers.set s sub').map (·.entry) = f.subscribers.map (·.entry) := by
  refine List.ext_getElem? fun t => ?_
  rw [List.getElem?_map, List.getElem?_map]
  by_cases hst : s = t
  · subst hst
    rw [List.getElem?_set_self (List.getElem?_eq_some_iff.1 hsub).1, hsub]
    exact congrArg some hentry
  · rw [List.getElem?_set_ne hst]

theorem mem_roll_of_sublist (hhandles : (f.subscribers.map (·.entry)).Sublist roll)
    (hsub : f.subscribers[s]? = some sub) : sub.entry ∈ roll :=
  hhandles.subset (List.mem_map_of_mem (List.mem_of_getElem? hsub))

/-- Every subscriber has a queue for itself. -/
theorem queue_ne_of_sublist (hroll : f.exchange.Roll roll) (hhandles : (f.subscribers.map (·.entry)).Sublist roll)
    (hsub : f.subscribers[s]? = some sub) (hsub' : f.subscribers[t]? = some sub') (hne : s ≠ t) :
    sub.entry.queue ≠ sub'.entry.queue := by
  intro heq
  have hnodup : ((f.subscribers.map (·.entry)).map (·.queue)).Nodup :=
    hroll.queues_nodup.sublist (hhandles.map (·.queue))
  refine hne ((List.getElem?_inj ?_ hnodup).1 ?_)
  · simpa using (List.getElem?_eq_some_iff.1 hsub).1
  · simp [hsub, hsub', heq]

end

/-! ## §2. Accounts. -/

/-- What is known of a subscriber. -/
structure Account where
  /-- The records that were published while it was registered; with each,
  whether the subscriber's queue was full. -/
  share : List (CallRecord × Bool) := []
  -- The reports that it has made.
  reports : List Snapshot := []
  -- The records that were in its queue when it went.
  left : Option (List CallRecord) := none

namespace Account

/-- The records that found room. -/
def kept (a : Account) : List CallRecord := (a.share.filter (!·.2)).map (·.1)

/-- The records that found the queue full. -/
def missed (a : Account) : List CallRecord := (a.share.filter (·.2)).map (·.1)

/-- A record is published while the subscriber is registered. -/
def offered (r : CallRecord) (full : Bool) (a : Account) : Account := { a with share := a.share ++ [(r, full)] }

/-- The subscriber makes a report. -/
def report (snapshot : Snapshot) (a : Account) : Account := { a with reports := a.reports ++ [snapshot] }

/-- The subscriber goes, with these records in its queue. -/
def leave (items : List CallRecord) (a : Account) : Account := { a with left := a.left.or (some items) }

end Account

/-- How many records were missed by all subscribers together. -/
def missedBy (accounts : List Account) : Nat := (accounts.flatMap (·.missed)).length

/-! ## §3. The journal. -/

/-- A feed with its counters and the time, and what happened to it. -/
structure Journal where
  feed : StatsFeed
  metrics : Metrics
  now : Nat := 0
  -- The accounts of the subscribers, by their places.
  accounts : List Account := []

namespace Journal

/-- The journal of a new feed. -/
def start (subscriberBuffer : Nat) (m : Metrics) : Journal :=
  { feed := StatsFeed.start subscriberBuffer, metrics := m }

/-- The records in the queue of the subscriber at a place; where it has gone,
those that were in it then. -/
def queued (j : Journal) (s : Nat) : List CallRecord :=
  (j.accounts[s]?.bind (·.left)).getD
    ((((j.feed.subscribers[s]?).bind j.feed.queueOf?).map (·.items)).getD [])

/-- The journal after the subscriber at a place looked for a report, which
left the feed like this. -/
def note (j : Journal) (s : Nat) (feed : StatsFeed) : Polled Snapshot → Journal
  | .ready snapshot => { j with feed, accounts := j.accounts.modify s (Account.report snapshot) }
  | .pending | .ended => { j with feed }

/-- The journal after an action. -/
def next (j : Journal) : Action → Journal
  | .publish r =>
    let (_, feed, metrics) := j.feed.publish r j.metrics
    { j with
      feed, metrics
      accounts := List.zipWith
        (fun sub a => if j.feed.isRegistered sub then a.offered r (j.feed.isFull sub) else a)
        j.feed.subscribers j.accounts }
  | .subscribe period =>
    match j.feed.subscribe j.now period with
    | (.taken _, feed) => { j with feed, accounts := j.accounts ++ [{}] }
    | (_, feed) => { j with feed }
  | .advance ms => { j with now := j.now + ms }
  | .turn s tickFirst =>
    match j.feed.turn tickFirst s j.now with
    | (.counted, feed) => { j with feed }
    | (.done p, feed) => j.note s feed p
  | .poll s choices =>
    let (p, feed) := j.feed.poll choices s j.now
    j.note s feed p
  | .drop s =>
    { j with feed := j.feed.drop s, accounts := j.accounts.modify s (Account.leave (j.queued s)) }
  | .shutdown => { j with feed := j.feed.shutdown.2 }

/-- The journal after some actions. -/
def run (j : Journal) (actions : List Action) : Journal := actions.foldl next j

theorem next_turn (j : Journal) (s : Nat) (tickFirst : Bool) :
    j.next (.turn s tickFirst) = match j.feed.turn tickFirst s j.now with
      | (.counted, feed) => { j with feed }
      | (.done p, feed) => j.note s feed p := rfl

/-- Taking turns while there are records to count. -/
theorem note_poll_go (s : Nat) (fuel : Nat) : ∀ (choices : List Bool) (j : Journal), ∃ ticks : List Bool,
    j.note s (poll.go s j.now fuel choices j.feed).2 (poll.go s j.now fuel choices j.feed).1
      = j.run (ticks.map (.turn s)) := by
  induction fuel with
  | zero => exact fun choices j => ⟨[], rfl⟩
  | succ fuel ih =>
    intro choices j
    have hnext := j.next_turn s (choices.head?.getD false)
    unfold poll.go
    rcases hturn : j.feed.turn (choices.head?.getD false) s j.now with ⟨_ | p, feed⟩
    · rw [hturn] at hnext
      obtain ⟨ticks, hrest⟩ := ih choices.tail { j with feed }
      refine ⟨choices.head?.getD false :: ticks, ?_⟩
      show _ = (j.next (.turn s (choices.head?.getD false))).run (ticks.map (.turn s))
      rw [hnext, ← hrest]
      rfl
    · rw [hturn] at hnext
      exact ⟨[choices.head?.getD false], hnext.symm⟩

/-- Looking for a report once is taking some turns. -/
theorem next_poll (j : Journal) (s : Nat) (choices : List Bool) :
    ∃ ticks : List Bool, j.next (.poll s choices) = j.run (ticks.map (.turn s)) :=
  note_poll_go s (j.feed.queued s + 1) choices j

end Journal

end StatsFeed

end CallGateway
