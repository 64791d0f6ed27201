/-
  CallGateway.Proofs.StatsFeed.Conservation
  ─────────────────────────────────────────
  **EVERY CALL IS COUNTED ONCE.**

  However turns, ticks, new records and the coming and going of subscribers
  follow one another: of the records that found room at a subscriber, each is
  counted in one of its reports, or in its live counts, or is in its queue;
  a report leaves nothing behind; and the counter of missed records is right.

  The invariant is `Consistent`.  Each action keeps it, and with it every
  run.
-/
import CallGateway.Proofs.Metrics
import CallGateway.Proofs.StatsFeed.Books

namespace CallGateway.StatsFeed

open Snapshot (countOf total)

/-! ## §1. A report leaves nothing behind. -/

section
variable {f f' : StatsFeed} {accounts : List Account} {roll : List Entry} {snapshot : Snapshot}

theorem Books.isFresh_report (h : Books f accounts roll) {s : Nat} {sub : StatsSubscriber}
    (hsub : f.subscribers[s]? = some sub) (now : Nat) : (f.report s sub now).2.IsFresh s := by
  obtain ⟨a, q, -, hq⟩ := h.exists_account hsub
  have hs : (f.subscribers.set s { sub with ticker := sub.ticker.take now, live := {} })[s]?
      = some { sub with ticker := sub.ticker.take now, live := {} } :=
    List.getElem?_set_self (List.getElem?_eq_some_iff.1 hsub).1
  rw [report_eq hq.queue]
  refine ⟨_, hs, rfl, ?_⟩
  unfold queued
  simp only [hs, Exchange.queue?_modifyQueue, hq.queue]
  rfl

/-- A turn that ends with a report leaves nothing behind. -/
theorem Books.isFresh_turn (h : Books f accounts roll) {tickFirst : Bool} {s now : Nat}
    (hturn : f.turn tickFirst s now = (.done (.ready snapshot), f')) : f'.IsFresh s := by
  obtain ⟨sub, hsub, heq⟩ | ⟨sub, r, x', -, -, heq⟩ | heq | heq := f.turn_cases tickFirst s now
  · rw [heq] at hturn
    obtain ⟨-, rfl⟩ := Prod.mk.inj hturn
    exact h.isFresh_report hsub now
  · rw [heq] at hturn
    cases hturn
  · rw [heq] at hturn
    cases hturn
  · rw [heq] at hturn
    cases hturn

/-- So does looking for a report until there is one. -/
theorem Books.isFresh_poll {s now : Nat} (fuel : Nat) : ∀ {f : StatsFeed} (choices : List Bool),
    Books f accounts roll → poll.go s now fuel choices f = (.ready snapshot, f') → f'.IsFresh s := by
  induction fuel with
  | zero =>
    intro f choices _ hpoll
    cases hpoll
  | succ fuel ih =>
    intro f choices h hpoll
    unfold poll.go at hpoll
    obtain ⟨sub, hsub, heq⟩ | ⟨sub, r, x', hsub, hreceive, heq⟩ | heq | heq :=
      f.turn_cases (choices.head?.getD false) s now
    · rw [heq] at hpoll
      obtain ⟨-, rfl⟩ := Prod.mk.inj hpoll
      exact h.isFresh_report hsub now
    · rw [heq] at hpoll
      exact ih choices.tail (h.count hsub hreceive) hpoll
    · rw [heq] at hpoll
      cases hpoll
    · rw [heq] at hpoll
      cases hpoll

end

/-! ## §2. The invariant. -/

namespace Journal

/-- The journal agrees with the feed, and with what was counted since the
counters were these. -/
structure Consistent (m₀ : Metrics) (j : Journal) : Prop where
  books : ∃ roll, Books j.feed j.accounts roll
  missed : j.metrics.dropped .statsSubscriber = m₀.dropped .statsSubscriber + UInt64.ofNat (missedBy j.accounts)

variable {m₀ : Metrics} {j : Journal}

theorem consistent_start (subscriberBuffer : Nat) (m₀ : Metrics) : (start subscriberBuffer m₀).Consistent m₀ where
  books := ⟨[], books_start subscriberBuffer⟩
  missed := (UInt64.add_zero _).symm

/-- Those who miss a record are counted. -/
theorem Consistent.publish (h : j.Consistent m₀) (r : CallRecord) : (j.next (.publish r)).Consistent m₀ := by
  obtain ⟨roll, hbooks⟩ := h.books
  refine ⟨⟨roll, hbooks.publish r⟩, ?_⟩
  show (j.metrics.countDropped .statsSubscriber (j.feed.exchange.fanOut r).1.lagged).dropped .statsSubscriber
    = m₀.dropped .statsSubscriber + UInt64.ofNat (missedBy (List.zipWith _ j.feed.subscribers j.accounts))
  rw [Metrics.dropped_countDropped, if_pos rfl, h.missed,
    missedBy_offered r j.feed.isRegistered j.feed.isFull j.feed.subscribers j.accounts hbooks.length,
    hbooks.lagged, UInt64.ofNat_add, UInt64.add_assoc]

theorem Consistent.subscribe (h : j.Consistent m₀) (period : Nat) :
    (j.next (.subscribe period)).Consistent m₀ := by
  obtain ⟨roll, hbooks⟩ := h.books
  unfold next
  obtain ⟨reason, heq⟩ | heq | ⟨hopen, -, heq⟩ | ⟨ticker, hopen, -, heq⟩ := j.feed.subscribe_cases j.now period
  · simp only [heq]
    exact h
  · simp only [heq]
    exact h
  · simp only [heq]
    exact ⟨⟨_, hbooks.brokenOff hopen j.feed.subscriberBuffer⟩, h.missed⟩
  · simp only [heq]
    refine ⟨⟨_, hbooks.taken hopen j.feed.subscriberBuffer ticker⟩, ?_⟩
    show _ = m₀.dropped .statsSubscriber + UInt64.ofNat (missedBy (j.accounts ++ [({} : Account)]))
    have hmissed : missedBy (j.accounts ++ [({} : Account)]) = missedBy j.accounts := by
      simp [missedBy, Account.missed]
    rw [hmissed]
    exact h.missed

/-- A turn moves records from the queue to the live counts, or from both of
them into a report. -/
theorem Consistent.turn (h : j.Consistent m₀) (s : Nat) (tickFirst : Bool) :
    (j.next (.turn s tickFirst)).Consistent m₀ := by
  obtain ⟨roll, hbooks⟩ := h.books
  rw [next_turn]
  obtain ⟨sub, hsub, heq⟩ | ⟨sub, r, x', hsub, hreceive, heq⟩ | heq | heq :=
    j.feed.turn_cases tickFirst s j.now
  · rw [heq]
    refine ⟨⟨roll, hbooks.report hsub j.now⟩, ?_⟩
    have hmissed := missedBy_modify j.accounts s (g := Account.report (j.feed.report s sub j.now).1) fun a => rfl
    show _ = m₀.dropped .statsSubscriber + UInt64.ofNat (missedBy (j.accounts.modify s _))
    rw [hmissed]
    exact h.missed
  · rw [heq]
    exact ⟨⟨roll, hbooks.count hsub hreceive⟩, h.missed⟩
  · rw [heq]
    exact h
  · rw [heq]
    exact h

theorem Consistent.turns (h : j.Consistent m₀) (s : Nat) (ticks : List Bool) :
    (j.run (ticks.map (.turn s))).Consistent m₀ := by
  induction ticks generalizing j with
  | nil => exact h
  | cons tick ticks ih => exact ih (h.turn s tick)

/-- What waits for a subscriber that is there is what is in its queue. -/
theorem queued_eq {s : Nat} {sub : StatsSubscriber} {a : Account} {q : Queue CallRecord}
    (hsub : j.feed.subscribers[s]? = some sub) (ha : j.accounts[s]? = some a)
    (hq : j.feed.queueOf? sub = some q) : j.queued s = a.left.getD q.items := by
  unfold queued
  simp [hsub, ha, hq]

theorem Consistent.drop (h : j.Consistent m₀) (s : Nat) : (j.next (.drop s)).Consistent m₀ := by
  obtain ⟨roll, hbooks⟩ := h.books
  have hmissed := missedBy_modify j.accounts s (g := Account.leave (j.queued s)) fun a => rfl
  cases hsub : j.feed.subscribers[s]? with
  | none =>
    have hdrop : j.feed.drop s = j.feed := by
      unfold StatsFeed.drop
      rw [hsub]
    have hs : j.accounts.length ≤ s := by
      rw [hbooks.length]
      exact List.getElem?_eq_none_iff.1 hsub
    unfold next
    simp only [hdrop, List.modify_eq_self hs]
    exact h
  | some sub =>
    refine ⟨⟨roll, hbooks.drop hsub (j.queued s) fun a q ha hq => queued_eq hsub ha hq⟩, ?_⟩
    show _ = m₀.dropped .statsSubscriber + UInt64.ofNat (missedBy (j.accounts.modify s _))
    rw [hmissed]
    exact h.missed

/-- **Every action keeps the invariant.** -/
theorem Consistent.next (h : j.Consistent m₀) (a : Action) : (j.next a).Consistent m₀ := by
  obtain ⟨roll, hbooks⟩ := h.books
  cases a with
  | publish r => exact h.publish r
  | subscribe period => exact h.subscribe period
  | advance ms => exact ⟨⟨roll, hbooks⟩, h.missed⟩
  | turn s tickFirst => exact h.turn s tickFirst
  | poll s choices =>
    obtain ⟨ticks, hticks⟩ := j.next_poll s choices
    rw [hticks]
    exact h.turns s ticks
  | drop s => exact h.drop s
  | shutdown => exact ⟨⟨roll, hbooks.shutdown⟩, h.missed⟩

theorem Consistent.run (h : j.Consistent m₀) (actions : List Action) : (j.run actions).Consistent m₀ := by
  induction actions generalizing j with
  | nil => exact h
  | cons a actions ih => exact ih (h.next a)

/-! ## §3. What every run comes to. -/

/-- What a table of a subscriber has counted, in its reports and since, and
what waits for it, are the records that found room. -/
theorem Consistent.conserved (h : j.Consistent m₀) {s : Nat} {sub : StatsSubscriber} {a : Account}
    (hsub : j.feed.subscribers[s]? = some sub) (ha : j.accounts[s]? = some a) {table : Snapshot → Dict Nat}
    {nameOf : CallRecord → String}
    (htable : ∀ (snapshot : Snapshot) rs, snapshot.Tallies rs → Snapshot.Counts (table snapshot) (rs.map nameOf))
    (name : String) :
    (a.reports.map fun report => countOf (table report) name).sum + countOf (table sub.live) name
        + (j.queued s).countP (nameOf · = name)
      = a.kept.countP (nameOf · = name) := by
  obtain ⟨roll, hbooks⟩ := h.books
  obtain ⟨q, hq⟩ := hbooks.agrees s sub a hsub ha
  obtain ⟨periods, since, hreports, hlive, hkept⟩ := hq.counted
  have hsum := Snapshot.sum_countOf (hreports.imp htable) name
  rw [hsum, (htable _ _ hlive).countOf_eq_countP, queued_eq hsub ha hq.queue, ← hkept, List.countP_append,
    List.countP_append]

/-- The two tables of a report are of the same records. -/
theorem Consistent.report (h : j.Consistent m₀) {s : Nat} {sub : StatsSubscriber} {a : Account}
    (hsub : j.feed.subscribers[s]? = some sub) (ha : j.accounts[s]? = some a) {report : Snapshot}
    (hreport : report ∈ a.reports) : ∃ rs, report.Tallies rs := by
  obtain ⟨roll, hbooks⟩ := h.books
  obtain ⟨q, hq⟩ := hbooks.agrees s sub a hsub ha
  obtain ⟨periods, -, hreports, -⟩ := hq.counted
  obtain ⟨n, hn, rfl⟩ := List.getElem_of_mem hreport
  exact ⟨_, hreports.get hn (hreports.length_eq ▸ hn)⟩

/-- **Every call is counted once.** Take a new feed through any actions in
any order; a subscriber may take its turns one by one, and stop after any.

* There is an account for every subscriber.  For every method, the counts of
  its reports, its live count and the records in its queue add up to the
  records of that method that were published while it was registered and its
  queue had room; and so for every consumer.
* In every report as many calls are counted by method as by consumer, and
  what is counted at all is counted once at least.
* Whenever the subscriber reports, its live counts and its queue are empty
  afterwards.
* The count of missed deliveries is the number of records that found the
  queue of a registered subscriber full, over all subscribers. -/
theorem run_counts_each_once (subscriberBuffer : Nat) (m₀ : Metrics) (actions : List Action) :
    let j := (start subscriberBuffer m₀).run actions
    (∀ (s : Nat) (sub : StatsSubscriber), j.feed.subscribers[s]? = some sub → ∃ a, j.accounts[s]? = some a
      ∧ (∀ method, (a.reports.map fun report => countOf report.byMethod method).sum
            + countOf sub.live.byMethod method + (j.queued s).countP (·.method = method)
          = a.kept.countP (·.method = method))
      ∧ (∀ consumer, (a.reports.map fun report => countOf report.byConsumer consumer).sum
            + countOf sub.live.byConsumer consumer + (j.queued s).countP (·.consumer = consumer)
          = a.kept.countP (·.consumer = consumer))
      ∧ ∀ report ∈ a.reports, total report.byMethod = total report.byConsumer
          ∧ (∀ e ∈ report.byMethod.entries, 1 ≤ e.2) ∧ ∀ e ∈ report.byConsumer.entries, 1 ≤ e.2)
    ∧ (∀ s tickFirst snapshot feed, j.feed.turn tickFirst s j.now = (.done (.ready snapshot), feed) →
        feed.IsFresh s)
    ∧ (∀ s choices snapshot feed, j.feed.poll choices s j.now = (.ready snapshot, feed) → feed.IsFresh s)
    ∧ j.metrics.dropped .statsSubscriber
        = m₀.dropped .statsSubscriber + UInt64.ofNat (missedBy j.accounts) := by
  intro j
  have h : j.Consistent m₀ := (consistent_start subscriberBuffer m₀).run actions
  obtain ⟨roll, hbooks⟩ := h.books
  refine ⟨?_, ?_, ?_, h.missed⟩
  · intro s sub hsub
    obtain ⟨a, q, ha, -⟩ := hbooks.exists_account hsub
    refine ⟨a, ha, ?_, ?_, ?_⟩
    · exact h.conserved hsub ha fun snapshot rs htallies => htallies.methods
    · exact h.conserved hsub ha fun snapshot rs htallies => htallies.consumers
    · intro report hreport
      obtain ⟨rs, htallies⟩ := h.report hsub ha hreport
      exact ⟨htallies.total_eq, htallies.methods.positive, htallies.consumers.positive⟩
  · intro s tickFirst snapshot feed hturn
    exact hbooks.isFresh_turn hturn
  · intro s choices snapshot feed hpoll
    exact Books.isFresh_poll _ choices hbooks hpoll

/-- Of four records the third finds a queue with room for two full; the other
three are in the report, the last of them straight from the queue. -/
theorem third_record_is_missed : ∃ j : Journal,
    j = (start 2 {}).run [.subscribe 1000, .publish ⟨1, "a", "/b/C", "h"⟩, .publish ⟨2, "c", "/b/C", "h"⟩,
      .publish ⟨3, "c", "/b/C", "h"⟩, .poll 0 [], .publish ⟨4, "c", "/b/C", "h"⟩, .advance 1000, .poll 0 [true]]
    ∧ j.accounts.map (fun a => (a.reports.map (·.byMethod.entries), a.kept.length, a.missed.length))
        = [([[("/b/C", 3)]], 3, 1)]
    ∧ j.queued 0 = [] ∧ j.metrics.dropped .statsSubscriber = 1 := by
  obtain ⟨-, -, -, hmissed⟩ := run_counts_each_once 2 {} [.subscribe 1000, .publish ⟨1, "a", "/b/C", "h"⟩,
    .publish ⟨2, "c", "/b/C", "h"⟩, .publish ⟨3, "c", "/b/C", "h"⟩, .poll 0 [],
    .publish ⟨4, "c", "/b/C", "h"⟩, .advance 1000, .poll 0 [true]]
  exact ⟨_, rfl, rfl, rfl, hmissed⟩

end Journal

end CallGateway.StatsFeed
