/-
  CallGateway.Proofs.LogFeed.Delivery
  ───────────────────────────────────
  **EVERY RECORD IS ACCOUNTED FOR.**

  However publishing, the worker's steps, and the coming, receiving and
  going of subscribers follow one another: the worker hands out what was
  taken in, in its order; a subscriber has or misses each record of its
  period, and misses it only where its queue was full; and the two counters
  of missed records are right.

  The invariant is `Consistent`.  Each action keeps it, and with it every
  run.
-/
import CallGateway.Proofs.Exchange.Registry
import CallGateway.Proofs.LogFeed.Account
import CallGateway.Proofs.Metrics

namespace CallGateway.LogFeed

open Exchange (entryAt)

/-! ## §1. Accounts and subscribers. -/

/-- The accounts are those of the subscribers of an exchange. -/
structure Books (x : Exchange CallRecord) (handles : List Entry) (accounts : List Account)
    (dispatched : List CallRecord) : Prop where
  handles : handles = (List.range accounts.length).map entryAt
  registers : x.Registers accounts.length (registeredAt accounts)
  agrees : ∀ k a q, accounts[k]? = some a → x.queue? k = some q → a.Agrees dispatched q

section
variable {x : Exchange CallRecord} {handles : List Entry} {accounts : List Account}
  {dispatched : List CallRecord}

theorem registeredAt_of_eq {a : Account} {k : Nat} (h : accounts[k]? = some a) :
    registeredAt accounts k = a.registered := by
  unfold registeredAt
  rw [h]
  rfl

/-- The handle of a subscriber leads to its queue. -/
theorem Books.getElem?_handles (h : Books x handles accounts dispatched) (k : Nat) :
    handles[k]? = if k < accounts.length then some (entryAt k) else none := by
  rw [h.handles, List.getElem?_map]
  by_cases hk : k < accounts.length
  · rw [if_pos hk, List.getElem?_range hk]
    rfl
  · rw [if_neg hk, List.getElem?_eq_none (by simpa using hk)]
    rfl

theorem Books.queueOf?_eq (h : Books x handles accounts dispatched) (k : Nat) :
    (handles[k]?).bind (fun e => x.queue? e.queue) = x.queue? k := by
  rw [h.getElem?_handles]
  by_cases hk : k < accounts.length
  · rw [if_pos hk]
    rfl
  · rw [if_neg hk]
    have hnone : x.queue? k = none := by
      unfold Exchange.queue?
      rw [List.getElem?_eq_none]
      rw [h.registers.queues]
      omega
    rw [hnone]
    rfl

theorem Books.exists_queue (h : Books x handles accounts dispatched) {k : Nat} (hk : k < accounts.length) :
    ∃ a q, accounts[k]? = some a ∧ x.queue? k = some q ∧ a.Agrees dispatched q := by
  have hq : k < x.queues.length := by
    rw [h.registers.queues]
    exact hk
  have ha := List.getElem?_eq_getElem hk
  have hqueue : x.queue? k = some x.queues[k] := List.getElem?_eq_getElem hq
  exact ⟨_, _, ha, hqueue, h.agrees k _ _ ha hqueue⟩

/-- Registered subscribers want more. -/
theorem Books.listens (h : Books x handles accounts dispatched) : x.Listens (registeredAt accounts) := by
  intro k q hk hq
  unfold registeredAt at hk
  obtain ⟨a, ha, hregistered⟩ := Option.any_eq_true .. |>.1 hk
  have hagrees := h.agrees k a q ha hq
  refine hagrees.listening (hagrees.stays ?_)
  simpa [Account.registered] using hregistered

/-! ## §2. What each operation does to the books. -/

theorem books_empty : Books {} [] [] dispatched where
  handles := rfl
  registers := Exchange.registers_empty
  agrees := by simp

/-- A new subscriber has an account without entries. -/
theorem Books.subscribe (h : Books x handles accounts dispatched) (hopen : x.isOpen = true) (capacity : Nat) :
    ∃ x', x.subscribe? capacity = some (entryAt accounts.length, x') ∧ x'.isOpen = true
      ∧ Books x' (handles ++ [entryAt accounts.length]) (accounts ++ [{ since := dispatched.length }])
          dispatched := by
  have hbefore : ∀ k < accounts.length, registeredAt accounts k
      = registeredAt (accounts ++ [({ since := dispatched.length } : Account)]) k := by
    intro k hk
    unfold registeredAt
    rw [List.getElem?_append_left hk]
  obtain ⟨x', hx', hregisters, hopen', hqueue⟩ := h.registers.subscribe? hopen capacity hbefore (by
    simp [registeredAt, Account.registered])
  refine ⟨x', hx', hopen', ⟨?_, ?_, ?_⟩⟩
  · rw [h.handles, List.length_append, List.length_singleton, List.range_succ, List.map_append]
    rfl
  · rw [List.length_append]
    exact hregisters
  · intro k a q ha hq
    rw [hqueue] at hq
    by_cases hk : k = accounts.length
    · rw [if_pos hk] at hq
      obtain rfl := Option.some.inj hq
      subst hk
      rw [List.getElem?_concat_length] at ha
      obtain rfl := Option.some.inj ha
      exact Account.agrees_start dispatched capacity
    · rw [if_neg hk] at hq
      have hlt := (List.getElem?_eq_some_iff.1 ha).1
      rw [List.length_append, List.length_singleton] at hlt
      rw [List.getElem?_append_left (by omega)] at ha
      exact h.agrees k a q ha hq

/-- One account and its queue change together. -/
theorem Books.modify {x' : Exchange CallRecord} (h : Books x handles accounts dispatched) (s : Nat)
    (f : Account → Account) (g : Queue CallRecord → Queue CallRecord)
    (hregisters : x'.Registers accounts.length (registeredAt (accounts.modify s f)))
    (hqueue : ∀ k, x'.queue? k = if s = k then (x.queue? k).map g else x.queue? k)
    (hs : ∀ a q, accounts[s]? = some a → x.queue? s = some q → (f a).Agrees dispatched (g q)) :
    Books x' handles (accounts.modify s f) dispatched := by
  refine ⟨?_, ?_, ?_⟩
  · rw [List.length_modify]
    exact h.handles
  · rw [List.length_modify]
    exact hregisters
  · intro k a q ha hq
    rw [hqueue] at hq
    rw [List.getElem?_modify] at ha
    by_cases hk : s = k
    · subst hk
      rw [if_pos rfl] at hq
      obtain ⟨q', hq', rfl⟩ := Option.map_eq_some_iff.1 hq
      simp only [if_pos] at ha
      obtain ⟨a', ha', rfl⟩ := Option.map_eq_some_iff.1 ha
      exact hs a' q' ha' hq'
    · rw [if_neg hk] at hq
      simp only [if_neg hk, id_map'] at ha
      exact h.agrees k a q (by simpa using ha) hq

/-- The oldest record of a queue moves to the account of its subscriber. -/
theorem Books.receive (h : Books x handles accounts dispatched) {s : Nat} {r : CallRecord}
    {x' : Exchange CallRecord} (hreceive : x.receive s = (.item r, x')) :
    Books x' handles (accounts.modify s (Account.receive r)) dispatched ∧ x'.isOpen = x.isOpen := by
  obtain ⟨q, rest, hq, hitems, hreader, rfl⟩ := Exchange.of_receive_eq_item hreceive
  refine ⟨h.modify s _ (fun _ => { q with items := rest }) ?_ ?_ ?_, rfl⟩
  · refine (h.registers.modifyQueue s _).congr fun k _ => ?_
    rw [registeredAt_modify]
    split
    · rfl
    · rfl
  · exact fun k => Exchange.queue?_modifyQueue x s k _
  · intro a q' ha hq'
    obtain rfl := Option.some.inj (hq.symm.trans hq')
    exact (h.agrees s a q ha hq).receive hitems hreader

/-- A subscriber is struck off and goes, and its queue with it. -/
theorem Books.drop (h : Books x handles accounts dispatched) (s : Nat) (items : List CallRecord)
    (hitems : ∀ a q, accounts[s]? = some a → x.queue? s = some q → items = a.left.getD q.items) :
    Books ((x.remove (s + 1)).2.dropReader s) handles
      (accounts.modify s fun a => (a.close dispatched.length).leave items) dispatched := by
  refine h.modify s _ Queue.drop ?_ ?_ ?_
  · refine ((h.registers.remove s).modifyQueue s _).congr fun k _ => ?_
    rw [registeredAt_modify]
    by_cases hk : s = k
    · subst hk
      have hclosed : ∀ a : Account, ((a.close dispatched.length).leave items).registered = false :=
        fun a => a.registered_close _
      simp [hclosed]
    · have hne : (k != s) = true := by simpa using Ne.symm hk
      rw [if_neg hk, hne, Bool.and_true]
  · exact fun k => Exchange.queue?_modifyQueue _ s k _
  · intro a q ha hq
    rw [hitems a q ha hq]
    exact (h.agrees s a q ha hq).close.drop (Account.upTo_ne_none (a.registered_close _))

/-- With the shutdown all subscribers are struck off. -/
theorem Books.close (h : Books x handles accounts dispatched) :
    Books x.close.2 handles (accounts.map (Account.close dispatched.length)) dispatched := by
  refine ⟨?_, ?_, ?_⟩
  · rw [List.length_map]
    exact h.handles
  · rw [List.length_map]
    exact h.registers.close.congr fun k _ => (registeredAt_close accounts _ k).symm
  · intro k a q ha hq
    rw [List.getElem?_map] at ha
    obtain ⟨a', ha', rfl⟩ := Option.map_eq_some_iff.1 ha
    exact (h.agrees k a' q ha' hq).close

/-- A record goes to all registered subscribers, and those whose queue was
full miss it. -/
theorem Books.dispatch (h : Books x handles accounts dispatched) (r : CallRecord) :
    Books (x.fanOut r).2 handles (accounts.mapIdx fun k => Account.offered r (x.isFullAt k))
        (dispatched ++ [r])
      ∧ (x.fanOut r).2.isOpen = x.isOpen
      ∧ missedBy (accounts.mapIdx fun k => Account.offered r (x.isFullAt k))
        = missedBy accounts + (x.fanOut r).1.lagged := by
  obtain ⟨hregisters, hopen, hlagged, hqueue⟩ := h.registers.fanOut h.listens r
  refine ⟨⟨?_, ?_, ?_⟩, hopen, ?_⟩
  · rw [List.length_mapIdx]
    exact h.handles
  · rw [List.length_mapIdx]
    exact hregisters.congr fun k _ => (registeredAt_offered accounts r x.isFullAt k).symm
  · intro k a q ha hq
    rw [List.getElem?_mapIdx] at ha
    obtain ⟨a', ha', rfl⟩ := Option.map_eq_some_iff.1 ha
    have hk := (List.getElem?_eq_some_iff.1 ha').1
    rw [hqueue, registeredAt_of_eq ha'] at hq
    unfold Account.offered
    cases hregistered : a'.registered with
    | false =>
      obtain ⟨n, hn⟩ := Option.ne_none_iff_exists'.1 (Account.upTo_ne_none hregistered)
      rw [hregistered, if_neg (by simp)] at hq
      exact (h.agrees k a' q ha' hq).passed hn r
    | true =>
      rw [hregistered, if_pos ⟨hk, rfl⟩] at hq
      obtain ⟨q', hq', rfl⟩ := Option.map_eq_some_iff.1 hq
      have hfull : x.isFullAt k = decide (q'.capacity ≤ q'.items.length) := by
        rw [Exchange.isFullAt, hq']
        rfl
      rw [hfull]
      exact (h.agrees k a' q' ha' hq').offered (by simpa [Account.registered] using hregistered) r
  · rw [missedBy_offered, hlagged]

end

/-! ## §3. The invariant. -/

namespace Journal

/-- The journal agrees with the feed, and with what was counted since the
counters were these. -/
structure Consistent (m₀ : Metrics) (j : Journal) : Prop where
  waiting : ∃ rest, j.accepted = j.dispatched ++ rest ∧ (j.feed.running = true → rest = j.feed.intake.items)
  reader : j.feed.intake.reader = if j.feed.running then .listening else .gone
  isOpen : j.feed.exchange.isOpen = j.feed.running
  books : Books j.feed.exchange j.feed.handles j.accounts j.dispatched
  missed : j.metrics.dropped .logSubscriber = m₀.dropped .logSubscriber + UInt64.ofNat (missedBy j.accounts)
  turnedAway : j.metrics.dropped .eventIntake = m₀.dropped .eventIntake + UInt64.ofNat j.turnedAway

variable {m₀ : Metrics} {j : Journal}

theorem consistent_start (intakeCapacity subscriberBuffer : Nat) (m₀ : Metrics) :
    (start intakeCapacity subscriberBuffer m₀).Consistent m₀ where
  waiting := ⟨[], rfl, fun _ => rfl⟩
  reader := rfl
  isOpen := rfl
  books := books_empty
  missed := (UInt64.add_zero _).symm
  turnedAway := (UInt64.add_zero _).symm

theorem Consistent.queueOf?_eq (h : j.Consistent m₀) (s : Nat) : j.feed.queueOf? s = j.feed.exchange.queue? s :=
  h.books.queueOf?_eq s

theorem Consistent.isFull_eq (h : j.Consistent m₀) : j.isFull = j.feed.exchange.isFullAt := by
  funext s
  unfold isFull
  rw [h.queueOf?_eq]
  rfl

theorem Consistent.queued_eq (h : j.Consistent m₀) {s : Nat} {a : Account} {q : Queue CallRecord}
    (ha : j.accounts[s]? = some a) (hq : j.feed.exchange.queue? s = some q) :
    j.queued s = a.left.getD q.items := by
  unfold queued
  rw [h.queueOf?_eq, ha, hq]
  rfl

/-- A record that is not taken in is counted while the worker is running. -/
theorem Consistent.publish (h : j.Consistent m₀) (r : CallRecord) : (j.next (.publish r)).Consistent m₀ := by
  obtain ⟨rest, haccepted, hrest⟩ := h.waiting
  have hreader := h.reader
  unfold next
  cases hrunning : j.feed.running with
  | false =>
    rw [hrunning, if_neg (by simp)] at hreader
    have hverdict := Queue.verdict_of_gone hreader
    simp only [publish_of_refused hverdict]
    exact h
  | true =>
    rw [hrunning, if_pos rfl] at hreader
    have hverdict := Queue.verdict_of_listening hreader
    by_cases hfull : j.feed.intake.capacity ≤ j.feed.intake.items.length
    · rw [if_pos hfull] at hverdict
      simp only [publish_of_full hverdict]
      refine ⟨h.waiting, h.reader, h.isOpen, h.books, ?_, ?_⟩
      · show (j.metrics.countDropped .eventIntake 1).dropped .logSubscriber = _
        rw [Metrics.dropped_countDropped, if_neg (by decide), UInt64.add_zero]
        exact h.missed
      · show (j.metrics.countDropped .eventIntake 1).dropped .eventIntake
          = m₀.dropped .eventIntake + UInt64.ofNat (j.turnedAway + 1)
        rw [Metrics.dropped_countDropped, if_pos rfl, h.turnedAway, UInt64.ofNat_add, UInt64.add_assoc]
    · rw [if_neg hfull] at hverdict
      simp only [publish_of_delivered hverdict]
      refine ⟨⟨rest ++ [r], ?_, ?_⟩, h.reader, h.isOpen, h.books, h.missed, h.turnedAway⟩
      · show j.accepted ++ [r] = j.dispatched ++ (rest ++ [r])
        rw [haccepted, List.append_assoc]
      · intro _
        show rest ++ [r] = j.feed.intake.items ++ [r]
        rw [hrest hrunning]

/-- The record that is handed out is the oldest of those that were taken in
and not handed out yet. -/
theorem Consistent.dispatch (h : j.Consistent m₀) : (j.next .dispatch).Consistent m₀ := by
  cases hdue : j.feed.due? with
  | none =>
    unfold next
    simp only [hdue, dispatch_of_idle hdue]
    exact h
  | some r =>
    obtain ⟨rest, haccepted, hrest⟩ := h.waiting
    obtain ⟨hrunning, tail, hitems, hintake⟩ := of_due?_eq_some hdue
    have hdispatch := dispatch_of_due hrunning hintake j.metrics
    obtain ⟨hbooks, hopen, hmissed⟩ := h.books.dispatch r
    unfold next
    simp only [hdue, hdispatch, h.isFull_eq]
    refine ⟨⟨tail, ?_, fun _ => rfl⟩, h.reader, hopen.trans h.isOpen, hbooks, ?_, ?_⟩
    · show j.accepted = j.dispatched ++ [r] ++ tail
      rw [haccepted, hrest hrunning, hitems, List.append_assoc]
      rfl
    · show (j.metrics.countDropped .logSubscriber _).dropped .logSubscriber
        = m₀.dropped .logSubscriber + UInt64.ofNat (missedBy _)
      rw [Metrics.dropped_countDropped, if_pos rfl, h.missed, hmissed, UInt64.ofNat_add, UInt64.add_assoc]
    · show (j.metrics.countDropped .logSubscriber _).dropped .eventIntake = _
      rw [Metrics.dropped_countDropped, if_neg (by decide), UInt64.add_zero]
      exact h.turnedAway

theorem Consistent.subscribe (h : j.Consistent m₀) : (j.next .subscribe).Consistent m₀ := by
  unfold next
  cases hopen : j.feed.exchange.isOpen with
  | false =>
    have hsubscribe := subscribe_of_closed hopen
    split at hsubscribe
    · simp only [hsubscribe]
      exact h
    · simp only [hsubscribe]
      exact h
  | true =>
    obtain ⟨x', hx', hopen', hbooks⟩ := h.books.subscribe hopen j.feed.subscriberBuffer
    have hsubscribe := subscribe_of_open hx'
    by_cases hlarge : Queue.maxCapacity < j.feed.subscriberBuffer
    · rw [if_pos hlarge] at hsubscribe
      simp only [hsubscribe]
      exact h
    · rw [if_neg hlarge] at hsubscribe
      simp only [hsubscribe]
      refine ⟨h.waiting, h.reader, hopen'.trans (hopen.symm.trans h.isOpen), hbooks, ?_, h.turnedAway⟩
      show _ = m₀.dropped .logSubscriber + UInt64.ofNat (missedBy (j.accounts ++ [_]))
      rw [missedBy_concat]
      exact h.missed

theorem Consistent.receive (h : j.Consistent m₀) (s : Nat) : (j.next (.receive s)).Consistent m₀ := by
  obtain ⟨r, e, x', hhandle, hfound, hreceive⟩ | hreceive | hreceive := j.feed.receive_cases s
  · -- the handle is that of the subscriber at this place
    obtain rfl : e = entryAt s := by
      rw [h.books.getElem?_handles] at hhandle
      split at hhandle
      · exact (Option.some.inj hhandle).symm
      · cases hhandle
    obtain ⟨hbooks, hopen⟩ := h.books.receive hfound
    unfold next
    simp only [hreceive]
    refine ⟨h.waiting, h.reader, hopen.trans h.isOpen, hbooks, ?_, h.turnedAway⟩
    have hmissed : missedBy (j.accounts.modify s (Account.receive r)) = missedBy j.accounts :=
      missedBy_modify j.accounts s fun a => rfl
    show _ = m₀.dropped .logSubscriber + UInt64.ofNat (missedBy _)
    rw [hmissed]
    exact h.missed
  · unfold next
    simp only [hreceive]
    exact h
  · unfold next
    simp only [hreceive]
    exact h

theorem Consistent.drop (h : j.Consistent m₀) (s : Nat) : (j.next (.drop s)).Consistent m₀ := by
  have hmissed : missedBy (j.accounts.modify s fun a => (a.close j.dispatched.length).leave (j.queued s))
      = missedBy j.accounts := missedBy_modify j.accounts s fun a => rfl
  have hhandle := h.books.getElem?_handles s
  by_cases hs : s < j.accounts.length
  · rw [if_pos hs] at hhandle
    have hdrop : j.feed.drop s
        = { j.feed with exchange := (j.feed.exchange.remove (s + 1)).2.dropReader s } := by
      unfold LogFeed.drop
      rw [hhandle]
      rfl
    have hbooks := h.books.drop s (j.queued s) fun a q ha hq => h.queued_eq ha hq
    unfold next
    simp only [hdrop]
    refine ⟨h.waiting, h.reader, h.isOpen, hbooks, ?_, h.turnedAway⟩
    show _ = m₀.dropped .logSubscriber + UInt64.ofNat (missedBy _)
    rw [hmissed]
    exact h.missed
  · rw [if_neg hs] at hhandle
    have hdrop : j.feed.drop s = j.feed := by
      unfold LogFeed.drop
      rw [hhandle]
    unfold next
    simp only [hdrop, List.modify_eq_self (Nat.le_of_not_lt hs)]
    exact h

theorem Consistent.shutdown (h : j.Consistent m₀) : (j.next .shutdown).Consistent m₀ := by
  obtain ⟨rest, haccepted, -⟩ := h.waiting
  refine ⟨⟨rest, haccepted, fun hrunning => ?_⟩, rfl, rfl, h.books.close, ?_, h.turnedAway⟩
  · cases hrunning
  · show _ = m₀.dropped .logSubscriber + UInt64.ofNat (missedBy (j.accounts.map (Account.close _)))
    rw [missedBy_close]
    exact h.missed

/-- **Every action keeps the invariant.** -/
theorem Consistent.next (h : j.Consistent m₀) (a : Action) : (j.next a).Consistent m₀ := by
  cases a with
  | publish r => exact h.publish r
  | dispatch => exact h.dispatch
  | subscribe => exact h.subscribe
  | receive s => exact h.receive s
  | drop s => exact h.drop s
  | shutdown => exact h.shutdown

theorem Consistent.run (h : j.Consistent m₀) (actions : List Action) : (j.run actions).Consistent m₀ := by
  induction actions generalizing j with
  | nil => exact h
  | cons a actions ih => exact ih (h.next a)

/-! ## §4. What every run comes to. -/

/-- **What a subscriber has is what it did not miss.** -/
theorem Consistent.account (h : j.Consistent m₀) {s : Nat} {a : Account} (ha : j.accounts[s]? = some a) :
    a.share.map (·.1) = a.period j.dispatched ∧ a.received ++ j.queued s = a.kept := by
  obtain ⟨a', q, ha', hq, hagrees⟩ := h.books.exists_queue (List.getElem?_eq_some_iff.1 ha).1
  obtain rfl := Option.some.inj (ha.symm.trans ha')
  rw [h.queued_eq ha hq]
  exact ⟨hagrees.share_eq, hagrees.kept_eq⟩

/-- **Every record is accounted for.** Take a new feed through any actions
in any order.

* What was handed out is the first part of what was taken in.
* To a subscriber came, one after the other, the records that were handed
  out from its coming on until it was struck off.  Those that found its
  queue full are missing; all others, and each of them once, it has received
  or has still in its queue, in their order.
* The count of missed deliveries is that of all subscribers together, and
  the count of the intake is that of the records that were turned away while
  the worker was running.
* Two subscribers that were registered over the same time were handed the
  same records; if neither missed one, they have the same. -/
theorem received_append_queued_eq_kept (intakeCapacity subscriberBuffer : Nat) (m₀ : Metrics) (actions : List Action) :
    let j := (start intakeCapacity subscriberBuffer m₀).run actions
    j.dispatched <+: j.accepted
      ∧ (∀ s a, j.accounts[s]? = some a → a.share.map (·.1) = a.period j.dispatched
          ∧ a.received ++ j.queued s = a.kept
          ∧ (a.received ++ j.queued s).Sublist (a.period j.dispatched))
      ∧ j.metrics.dropped .logSubscriber = m₀.dropped .logSubscriber + UInt64.ofNat (missedBy j.accounts)
      ∧ j.metrics.dropped .eventIntake = m₀.dropped .eventIntake + UInt64.ofNat j.turnedAway
      ∧ ∀ s t a b, j.accounts[s]? = some a → j.accounts[t]? = some b → a.since = b.since → a.upTo = b.upTo →
          a.share.map (·.1) = b.share.map (·.1)
          ∧ (a.missed = [] → b.missed = [] → a.received ++ j.queued s = b.received ++ j.queued t) := by
  intro j
  have h : j.Consistent m₀ := (consistent_start intakeCapacity subscriberBuffer m₀).run actions
  refine ⟨?_, ?_, h.missed, h.turnedAway, ?_⟩
  · obtain ⟨rest, haccepted, -⟩ := h.waiting
    exact ⟨rest, haccepted.symm⟩
  · intro s a ha
    obtain ⟨hshare, hkept⟩ := h.account ha
    refine ⟨hshare, hkept, ?_⟩
    rw [hkept, ← hshare]
    exact a.kept_sublist
  · intro s t a b ha hb hsince hupTo
    obtain ⟨hshare, hkept⟩ := h.account ha
    obtain ⟨hshare', hkept'⟩ := h.account hb
    have hsame : a.share.map (·.1) = b.share.map (·.1) := by
      rw [hshare, hshare']
      unfold Account.period
      rw [hsince, hupTo]
    refine ⟨hsame, fun hmissed hmissed' => ?_⟩
    rw [hkept, hkept', Account.kept_of_missed_nil hmissed, Account.kept_of_missed_nil hmissed', hsame]

/-- A subscriber with room for one record misses the second one, and an
intake with room for two turns the third one away. -/
theorem slow_subscriber_misses_second : ∃ j : Journal,
    j = (start 2 1 {}).run [.subscribe, .publish ⟨1, "a", "/b/C", "h"⟩, .publish ⟨2, "a", "/b/C", "h"⟩,
      .publish ⟨3, "a", "/b/C", "h"⟩, .dispatch, .dispatch, .receive 0]
    ∧ j.dispatched = [⟨1, "a", "/b/C", "h"⟩, ⟨2, "a", "/b/C", "h"⟩]
    ∧ (j.accounts.map (·.received)) = [[⟨1, "a", "/b/C", "h"⟩]] ∧ j.queued 0 = []
    ∧ j.metrics.dropped .logSubscriber = 1 ∧ j.metrics.dropped .eventIntake = 1 := by
  obtain ⟨-, -, hlog, hintake, -⟩ := received_append_queued_eq_kept 2 1 {} [.subscribe, .publish ⟨1, "a", "/b/C", "h"⟩,
    .publish ⟨2, "a", "/b/C", "h"⟩, .publish ⟨3, "a", "/b/C", "h"⟩, .dispatch, .dispatch, .receive 0]
  exact ⟨_, rfl, rfl, rfl, rfl, hlog, hintake⟩

end Journal

end CallGateway.LogFeed
