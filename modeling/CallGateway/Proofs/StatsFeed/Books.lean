/-
  CallGateway.Proofs.StatsFeed.Books
  ──────────────────────────────────
  **WHAT EVERY SUBSCRIBER OF THE STATISTICS HAS.**

  A record that finds room at a subscriber goes from the queue to the live
  counts and from there into a report, or from the queue into the report at
  once.  `Account.Agrees` says of one subscriber that none is lost on the way
  and none is counted twice, and `Books` says so of all of them.  Each thing
  that can happen to a feed keeps the books.
-/
import CallGateway.Proofs.StatsFeed.Journal
import CallGateway.Proofs.StatsFeed.Tally

namespace CallGateway.StatsFeed

open Snapshot (Tallies)

/-! ## §1. One subscriber. -/

namespace Account

/-- The account of a subscriber and its queue agree: the records that found
room are those of its reports, those that it has counted since, and those
that are queued. -/
structure Agrees (x : Exchange CallRecord) (sub : StatsSubscriber) (a : Account) (q : Queue CallRecord) :
    Prop where
  queue : x.queue? sub.entry.queue = some q
  counted : ∃ periods since, List.Forall₂ Tallies a.reports periods ∧ sub.live.Tallies since
    ∧ periods.flatten ++ since ++ a.left.getD q.items = a.kept
  listening : a.left = none → q.reader = .listening
  gone : a.left ≠ none → q.items = [] ∧ q.reader = .gone ∧ sub.entry ∉ x.entries

variable {x x' : Exchange CallRecord} {sub : StatsSubscriber} {a : Account} {q : Queue CallRecord}

/-- Nothing has happened to a subscriber but that others were struck off. -/
theorem Agrees.mono (h : a.Agrees x sub q) (hqueue : x'.queue? sub.entry.queue = x.queue? sub.entry.queue)
    (hentries : sub.entry ∈ x'.entries → sub.entry ∈ x.entries) : a.Agrees x' sub q where
  queue := hqueue.trans h.queue
  counted := h.counted
  listening := h.listening
  gone := fun hleft => ⟨(h.gone hleft).1, (h.gone hleft).2.1, fun he => (h.gone hleft).2.2 (hentries he)⟩

theorem agrees_start (capacity : Nat) (hqueue : x.queue? sub.entry.queue = some { capacity := capacity })
    (hlive : sub.live = {}) : ({} : Account).Agrees x sub { capacity := capacity } where
  queue := hqueue
  counted := ⟨[], [], .nil, hlive ▸ Snapshot.tallies_empty, rfl⟩
  listening := fun _ => rfl
  gone := fun h => absurd rfl h

/-- A record is published while the subscriber is registered: it is queued if
there is room. -/
theorem Agrees.offered (h : a.Agrees x sub q) (hentry : sub.entry ∈ x.entries) (r : CallRecord)
    (hqueue : x'.queue? sub.entry.queue = some (q.offer r)) :
    (a.offered r (decide (q.capacity ≤ q.items.length))).Agrees x' sub (q.offer r) := by
  have hleft : a.left = none := by
    by_contra hne
    exact (h.gone hne).2.2 hentry
  have hreader := h.listening hleft
  obtain ⟨periods, since, hreports, hlive, hkept⟩ := h.counted
  rw [hleft] at hkept
  refine ⟨hqueue, ⟨periods, since, hreports, hlive, ?_⟩, fun _ => ?_, fun hne => absurd hleft hne⟩
  · show periods.flatten ++ since ++ a.left.getD (q.offer r).items = _
    rw [hleft]
    by_cases hfull : q.capacity ≤ q.items.length
    · have hverdict : q.verdict ≠ .delivered := by simp [Queue.verdict_of_listening hreader, hfull]
      rw [Queue.offer_of_ne r hverdict]
      simpa [hfull, kept, Account.offered] using hkept
    · have hverdict : q.verdict = .delivered := by simp [Queue.verdict_of_listening hreader, hfull]
      rw [Queue.offer_of_delivered r hverdict]
      show periods.flatten ++ since ++ (q.items ++ [r]) = _
      have hkept : periods.flatten ++ since ++ q.items = a.kept := hkept
      rw [← List.append_assoc, hkept]
      simp [hfull, kept, Account.offered]
  · unfold Queue.offer
    split
    · exact hreader
    · exact hreader

/-- The subscriber takes a record from its queue and counts it. -/
theorem Agrees.count {r : CallRecord} {rest : List CallRecord} (h : a.Agrees x sub q)
    (hitems : q.items = r :: rest) (hqueue : x'.queue? sub.entry.queue = some { q with items := rest }) :
    a.Agrees x' { sub with live := sub.live.count r } { q with items := rest } := by
  have hleft : a.left = none := by
    by_contra hne
    rw [(h.gone hne).1] at hitems
    cases hitems
  obtain ⟨periods, since, hreports, hlive, hkept⟩ := h.counted
  refine ⟨hqueue, ⟨periods, since ++ [r], hreports, hlive.count r, ?_⟩, h.listening, fun hne => absurd hleft hne⟩
  rw [hleft, hitems] at hkept
  rw [hleft, ← hkept]
  simp

/-- The subscriber reports: what is queued belongs to the report. -/
theorem Agrees.report (h : a.Agrees x sub q) (ticker : Ticker)
    (hqueue : x'.queue? sub.entry.queue = some { q with items := [] }) (hentries : x'.entries = x.entries) :
    (a.report (q.items.foldl Snapshot.count sub.live)).Agrees x' { sub with ticker := ticker, live := {} }
      { q with items := [] } := by
  obtain ⟨periods, since, hreports, hlive, hkept⟩ := h.counted
  refine ⟨hqueue, ⟨periods ++ [since ++ q.items], [], ?_, Snapshot.tallies_empty, ?_⟩, h.listening, ?_⟩
  · exact List.rel_append hreports (.cons (hlive.foldl q.items) .nil)
  · show (periods ++ [since ++ q.items]).flatten ++ [] ++ a.left.getD [] = a.kept
    rw [← hkept]
    cases hleft : a.left with
    | none => simp
    | some items =>
      have hne : a.left ≠ none := by simp [hleft]
      simp [(h.gone hne).1]
  · intro hne
    obtain ⟨-, hreader, hentry⟩ := h.gone hne
    exact ⟨rfl, hreader, hentries ▸ hentry⟩

/-- The subscriber goes, and what is queued with it. -/
theorem Agrees.leave (h : a.Agrees x sub q) (hqueue : x'.queue? sub.entry.queue = some q.drop)
    (hentries : sub.entry ∉ x'.entries) : (a.leave (a.left.getD q.items)).Agrees x' sub q.drop := by
  have hleft : (a.leave (a.left.getD q.items)).left = some (a.left.getD q.items) := by
    unfold Account.leave
    cases a.left with
    | none => rfl
    | some items => rfl
  obtain ⟨periods, since, hreports, hlive, hkept⟩ := h.counted
  refine ⟨hqueue, ⟨periods, since, hreports, hlive, ?_⟩, fun hnone => ?_, fun _ => ⟨rfl, rfl, hentries⟩⟩
  · rw [hleft]
    exact hkept
  · rw [hleft] at hnone
    cases hnone

end Account

/-! ## §2. Records that were missed. -/

/-- A record that is published is missed once more by every registered
subscriber whose queue is full, and by no other. -/
theorem missedBy_offered (r : CallRecord) (registered full : StatsSubscriber → Bool) (subs : List StatsSubscriber)
    (accounts : List Account) (h : accounts.length = subs.length) :
    missedBy (List.zipWith (fun sub a => if registered sub then a.offered r (full sub) else a) subs accounts)
      = missedBy accounts + subs.countP fun sub => registered sub && full sub := by
  induction subs generalizing accounts with
  | nil =>
    obtain rfl := List.length_eq_zero_iff.1 h
    rfl
  | cons sub subs ih =>
    cases accounts with
    | nil => cases h
    | cons a accounts =>
      have hrest := ih accounts (Nat.succ.inj h)
      have ha : (if registered sub then a.offered r (full sub) else a).missed.length
          = a.missed.length + if registered sub && full sub then 1 else 0 := by
        cases registered sub with
        | false => rfl
        | true => cases full sub <;> simp [Account.offered, Account.missed]
      unfold missedBy at hrest ⊢
      rw [List.zipWith_cons_cons, List.flatMap_cons, List.flatMap_cons, List.length_append, List.length_append,
        hrest, ha, List.countP_cons]
      omega

/-- Nothing is missed by a change to one account that leaves its misses
alone. -/
theorem missedBy_modify (accounts : List Account) (s : Nat) {g : Account → Account}
    (hg : ∀ a, (g a).missed = a.missed) : missedBy (accounts.modify s g) = missedBy accounts := by
  unfold missedBy
  induction accounts generalizing s with
  | nil => cases s <;> rfl
  | cons a accounts ih =>
    cases s with
    | zero => simp [hg]
    | succ s =>
      rw [List.modify_succ_cons, List.flatMap_cons, List.flatMap_cons, List.length_append, List.length_append, ih]

/-! ## §3. All subscribers. -/

/-- The accounts are those of the subscribers of a feed. -/
structure Books (f : StatsFeed) (accounts : List Account) (roll : List Entry) : Prop where
  onRoll : f.exchange.Roll roll
  handles : (f.subscribers.map (·.entry)).Sublist roll
  length : accounts.length = f.subscribers.length
  -- The others that are registered are those whose coming broke off.
  others : ∀ e ∈ f.exchange.entries, e ∉ f.subscribers.map (·.entry) → f.exchange.verdictOf e = .refused
  agrees : ∀ (s : Nat) (sub : StatsSubscriber) (a : Account), f.subscribers[s]? = some sub →
    accounts[s]? = some a → ∃ q, a.Agrees f.exchange sub q

section
variable {f : StatsFeed} {accounts : List Account} {roll : List Entry}

theorem books_start (subscriberBuffer : Nat) : Books (StatsFeed.start subscriberBuffer) [] [] where
  onRoll := Exchange.roll_empty
  handles := .slnil
  length := rfl
  others := by simp [StatsFeed.start]
  agrees := by simp [StatsFeed.start]

theorem Books.mem_roll (h : Books f accounts roll) {s : Nat} {sub : StatsSubscriber}
    (hsub : f.subscribers[s]? = some sub) : sub.entry ∈ roll := mem_roll_of_sublist h.handles hsub

theorem Books.queue_ne (h : Books f accounts roll) {s t : Nat} {sub sub' : StatsSubscriber}
    (hsub : f.subscribers[s]? = some sub) (hsub' : f.subscribers[t]? = some sub') (hne : s ≠ t) :
    sub.entry.queue ≠ sub'.entry.queue := queue_ne_of_sublist h.onRoll h.handles hsub hsub' hne

/-- A subscriber, its account and its queue change together. -/
theorem Books.modify (h : Books f accounts roll) {s : Nat} {sub : StatsSubscriber}
    (hsub : f.subscribers[s]? = some sub) (sub' : StatsSubscriber) (hentry : sub'.entry = sub.entry)
    (g : Account → Account) (put : Queue CallRecord → Queue CallRecord) {es : List Entry}
    (hes : es.Sublist f.exchange.entries)
    (hs : ∀ a q, accounts[s]? = some a → a.Agrees f.exchange sub q →
      (g a).Agrees { f.exchange.modifyQueue sub.entry.queue put with entries := es } sub' (put q)) :
    Books { f with
        exchange := { f.exchange.modifyQueue sub.entry.queue put with entries := es }
        subscribers := f.subscribers.set s sub' } (accounts.modify s g) roll := by
  have hqueue : ∀ e ∈ roll, e ≠ sub.entry →
      (f.exchange.modifyQueue sub.entry.queue put).queue? e.queue = f.exchange.queue? e.queue := by
    intro e he hne
    have hqueues : sub.entry.queue ≠ e.queue := by
      intro heq
      exact hne (h.onRoll.eq_of_queue he (h.mem_roll hsub) heq.symm)
    rw [Exchange.queue?_modifyQueue, if_neg hqueues]
  have hhandles := entries_set hsub hentry
  refine ⟨h.onRoll.mono (Nat.le_refl _) ?_ hes, ?_, ?_, ?_, ?_⟩
  · show f.exchange.queues.length ≤ (f.exchange.queues.modify sub.entry.queue put).length
    exact Nat.le_of_eq (List.length_modify ..).symm
  · show ((f.subscribers.set s sub').map (·.entry)).Sublist roll
    rw [hhandles]
    exact h.handles
  · rw [List.length_modify, List.length_set]
    exact h.length
  · intro e he hother
    have hother' : e ∉ f.subscribers.map (·.entry) := by
      rw [← hhandles]
      exact hother
    have hne : e ≠ sub.entry := by
      rintro rfl
      exact hother' (List.mem_map_of_mem (List.mem_of_getElem? hsub))
    have hrefused := h.others e (hes.subset he) hother'
    unfold Exchange.verdictOf at hrefused
    rw [← hqueue e (h.onRoll.entries.subset (hes.subset he)) hne] at hrefused
    exact hrefused
  · intro t sub'' a hsub'' ha
    rw [List.getElem?_modify] at ha
    by_cases hst : s = t
    · subst hst
      obtain rfl : sub' = sub'' := by
        have hlt := (List.getElem?_eq_some_iff.1 hsub).1
        rw [List.getElem?_set_self hlt] at hsub''
        exact Option.some.inj hsub''
      obtain ⟨a', ha', rfl⟩ := Option.map_eq_some_iff.1 ha
      obtain ⟨q, hq⟩ := h.agrees s sub a' hsub ha'
      simp only [if_true]
      exact ⟨put q, hs a' q ha' hq⟩
    · have hsub'' : f.subscribers[t]? = some sub'' := by
        rw [← hsub'', List.getElem?_set_ne hst]
      have ha : accounts[t]? = some a := by simpa [hst] using ha
      obtain ⟨q, hq⟩ := h.agrees t sub'' a hsub'' ha
      have hne : sub''.entry ≠ sub.entry := by
        intro heq
        exact h.queue_ne hsub hsub'' hst (by rw [heq])
      exact ⟨q, hq.mono (hqueue _ (h.mem_roll hsub'') hne) fun he => hes.subset he⟩

theorem isRegistered_iff (f : StatsFeed) (sub : StatsSubscriber) :
    f.isRegistered sub = true ↔ sub.entry ∈ f.exchange.entries := by
  unfold isRegistered
  rw [List.contains_iff_mem]

/-- There is an account for every subscriber. -/
theorem Books.exists_account (h : Books f accounts roll) {s : Nat} {sub : StatsSubscriber}
    (hsub : f.subscribers[s]? = some sub) : ∃ a q, accounts[s]? = some a ∧ a.Agrees f.exchange sub q := by
  have hs : s < accounts.length := by
    rw [h.length]
    exact (List.getElem?_eq_some_iff.1 hsub).1
  have ha := List.getElem?_eq_getElem hs
  obtain ⟨q, hq⟩ := h.agrees s sub _ hsub ha
  exact ⟨_, q, ha, hq⟩

/-- A registered subscriber misses the next record just where its queue has
no room. -/
theorem Books.verdictOf_eq_full_iff (h : Books f accounts roll) {s : Nat} {sub : StatsSubscriber}
    (hsub : f.subscribers[s]? = some sub) (hentry : sub.entry ∈ f.exchange.entries) :
    f.exchange.verdictOf sub.entry = .full ↔ f.isFull sub = true := by
  obtain ⟨a, q, -, hq⟩ := h.exists_account hsub
  have hleft : a.left = none := by
    by_contra hne
    exact (hq.gone hne).2.2 hentry
  unfold Exchange.verdictOf isFull queueOf?
  rw [hq.queue]
  show q.verdict = .full ↔ decide (q.capacity ≤ q.items.length) = true
  rw [Queue.verdict_of_listening (hq.listening hleft), decide_eq_true_iff]
  split
  · exact iff_of_true rfl ‹_›
  · exact iff_of_false nofun ‹_›

/-- Those who miss a record are registered subscribers whose queues are
full. -/
theorem Books.lagged (h : Books f accounts roll) (r : CallRecord) :
    (f.exchange.fanOut r).1.lagged = f.subscribers.countP fun sub => f.isRegistered sub && f.isFull sub := by
  have hhandles : (f.subscribers.map (·.entry)).Nodup := h.onRoll.nodup.sublist h.handles
  have hperm : (f.exchange.entries.filter fun e => f.exchange.verdictOf e = .full).Perm
      ((f.subscribers.filter fun sub => f.isRegistered sub && f.isFull sub).map (·.entry)) := by
    refine (List.perm_ext_iff_of_nodup ?_ ?_).2 fun e => ?_
    · exact (h.onRoll.nodup.sublist h.onRoll.entries).filter _
    · exact hhandles.sublist (List.filter_sublist.map _)
    · simp only [List.mem_filter, List.mem_map, Bool.and_eq_true, decide_eq_true_eq, isRegistered_iff]
      constructor
      · rintro ⟨he, hfull⟩
        have hmem : e ∈ f.subscribers.map (·.entry) := by
          by_contra hother
          rw [h.others e he hother] at hfull
          cases hfull
        obtain ⟨sub, hsub, rfl⟩ := List.mem_map.1 hmem
        obtain ⟨s, hs⟩ := List.getElem?_of_mem hsub
        exact ⟨sub, ⟨hsub, he, (h.verdictOf_eq_full_iff hs he).1 hfull⟩, rfl⟩
      · rintro ⟨sub, ⟨hsub, he, hfull⟩, rfl⟩
        obtain ⟨s, hs⟩ := List.getElem?_of_mem hsub
        exact ⟨he, (h.verdictOf_eq_full_iff hs he).2 hfull⟩
  rw [h.onRoll.lagged_fanOut, hperm.length_eq, List.length_map, List.countP_eq_length_filter]

/-- A record goes to all registered subscribers, and those whose queue was
full miss it. -/
theorem Books.publish (h : Books f accounts roll) (r : CallRecord) :
    Books { f with exchange := (f.exchange.fanOut r).2 }
      (List.zipWith (fun sub a => if f.isRegistered sub then a.offered r (f.isFull sub) else a)
        f.subscribers accounts) roll := by
  have hsublist := f.exchange.fanOut_entries_sublist r
  refine ⟨h.onRoll.fanOut r, h.handles, ?_, ?_, ?_⟩
  · rw [List.length_zipWith, h.length]
    exact Nat.min_self _
  · intro e he hother
    have hrefused := h.others e (hsublist.subset he) hother
    have hverdict := h.onRoll.verdictOf_of_mem_fanOut r he
    exact absurd hrefused hverdict
  · intro s sub a hsub ha
    obtain ⟨a', q, ha', hq⟩ := h.exists_account hsub
    rw [List.getElem?_zipWith, hsub, ha'] at ha
    obtain rfl := Option.some.inj ha
    have hqueue := h.onRoll.queue?_fanOut r (h.mem_roll hsub)
    by_cases hentry : sub.entry ∈ f.exchange.entries
    · rw [if_pos hentry, hq.queue] at hqueue
      have hfull : f.isFull sub = decide (q.capacity ≤ q.items.length) := by
        unfold isFull queueOf?
        rw [hq.queue]
        rfl
      rw [if_pos ((f.isRegistered_iff sub).2 hentry), hfull]
      exact ⟨_, hq.offered hentry r hqueue⟩
    · rw [if_neg hentry] at hqueue
      rw [if_neg (mt (f.isRegistered_iff sub).1 hentry)]
      exact ⟨q, hq.mono hqueue fun he => hsublist.subset he⟩

/-- A new subscriber has an account without entries. -/
theorem Books.taken (h : Books f accounts roll) (hopen : f.exchange.isOpen = true) (capacity : Nat)
    (ticker : Ticker) :
    Books { f with
        exchange := (f.exchange.add capacity).2
        subscribers := f.subscribers ++ [⟨⟨f.exchange.nextId, f.exchange.queues.length⟩, ticker, {}⟩] }
      (accounts ++ [({} : Account)]) (roll ++ [⟨f.exchange.nextId, f.exchange.queues.length⟩]) := by
  refine ⟨h.onRoll.add hopen capacity, ?_, ?_, ?_, ?_⟩
  · rw [List.map_append]
    exact h.handles.append_right _
  · rw [List.length_append, List.length_append, h.length]
    rfl
  · intro e he hother
    rw [List.map_append, List.mem_append, not_or] at hother
    have he' : e ∈ f.exchange.entries := by
      rw [Exchange.add_of_open hopen] at he
      rcases List.mem_append.1 he with he | he
      · exact he
      · exact absurd he hother.2
    have hqueue := h.onRoll.queue?_add_of_mem capacity (h.onRoll.entries.subset he')
    have hrefused := h.others e he' hother.1
    unfold Exchange.verdictOf at hrefused
    rw [← hqueue] at hrefused
    exact hrefused
  · intro s sub a hsub ha
    by_cases hs : s < f.subscribers.length
    · rw [List.getElem?_append_left hs] at hsub
      rw [List.getElem?_append_left (by rw [h.length]; exact hs)] at ha
      obtain ⟨q, hq⟩ := h.agrees s sub a hsub ha
      have hmem := h.mem_roll hsub
      exact ⟨q, hq.mono (h.onRoll.queue?_add_of_mem capacity hmem) (h.onRoll.mem_entries_add_iff capacity hmem).1⟩
    · rw [List.getElem?_append_right (by omega)] at hsub
      rw [List.getElem?_append_right (by rw [h.length]; omega)] at ha
      obtain rfl := List.mem_singleton.1 (List.mem_of_getElem? hsub)
      obtain rfl := List.mem_singleton.1 (List.mem_of_getElem? ha)
      refine ⟨_, Account.agrees_start capacity ?_ rfl⟩
      rw [Exchange.queue?_add, if_pos rfl]

/-- A coming that breaks off leaves an entry behind that will refuse the next
record. -/
theorem Books.brokenOff (h : Books f accounts roll) (hopen : f.exchange.isOpen = true) (capacity : Nat) :
    Books { f with exchange := (f.exchange.add capacity).2.dropReader f.exchange.queues.length } accounts
      (roll ++ [⟨f.exchange.nextId, f.exchange.queues.length⟩]) := by
  have hroll := h.onRoll.add hopen capacity
  have hqueue : ∀ e ∈ roll, ((f.exchange.add capacity).2.dropReader f.exchange.queues.length).queue? e.queue
      = f.exchange.queue? e.queue := by
    intro e he
    have hlt := (h.onRoll.below e he).2
    unfold Exchange.dropReader
    rw [Exchange.queue?_modifyQueue, if_neg (by omega), h.onRoll.queue?_add_of_mem capacity he]
  refine ⟨hroll.mono (Nat.le_refl _) ?_ (List.Sublist.refl _), h.handles.trans (List.sublist_append_left _ _),
    h.length, ?_, ?_⟩
  · show _ ≤ ((f.exchange.add capacity).2.queues.modify _ _).length
    exact Nat.le_of_eq (List.length_modify ..).symm
  · intro e he hother
    have he : e ∈ (f.exchange.add capacity).2.entries := he
    rw [Exchange.add_of_open hopen] at he
    rcases List.mem_append.1 he with he | he
    · have hrefused := h.others e he hother
      unfold Exchange.verdictOf at hrefused
      rw [← hqueue e (h.onRoll.entries.subset he)] at hrefused
      exact hrefused
    · obtain rfl := List.mem_singleton.1 he
      show ((((f.exchange.add capacity).2.dropReader f.exchange.queues.length).queue?
        f.exchange.queues.length).map Queue.verdict).getD .refused = .refused
      unfold Exchange.dropReader
      rw [Exchange.queue?_modifyQueue, if_pos rfl, Exchange.queue?_add, if_pos rfl]
      rfl
  · intro s sub a hsub ha
    obtain ⟨q, hq⟩ := h.agrees s sub a hsub ha
    have hmem := h.mem_roll hsub
    exact ⟨q, hq.mono (hqueue _ hmem) (h.onRoll.mem_entries_add_iff capacity hmem).1⟩

/-- After the shutdown nobody is registered, and all queues are as they
were. -/
theorem Books.shutdown (h : Books f accounts roll) : Books f.shutdown.2 accounts roll where
  onRoll := h.onRoll.mono (Nat.le_refl _) (Nat.le_refl _) (List.nil_sublist _)
  handles := h.handles
  length := h.length
  others := nofun
  agrees := by
    intro s sub a hsub ha
    obtain ⟨q, hq⟩ := h.agrees s sub a hsub ha
    exact ⟨q, hq.mono rfl nofun⟩

/-- A subscriber goes, and its queue with it. -/
theorem Books.drop (h : Books f accounts roll) {s : Nat} {sub : StatsSubscriber}
    (hsub : f.subscribers[s]? = some sub) (items : List CallRecord)
    (hitems : ∀ a q, accounts[s]? = some a → f.queueOf? sub = some q → items = a.left.getD q.items) :
    Books (f.drop s) (accounts.modify s (Account.leave items)) roll := by
  have hsame : f.subscribers.set s sub = f.subscribers := by
    obtain ⟨hs, hat⟩ := List.getElem?_eq_some_iff.1 hsub
    rw [← hat, List.set_getElem_self]
  have hdrop : f.drop s = { f with
      exchange := { f.exchange.modifyQueue sub.entry.queue Queue.drop with
        entries := f.exchange.entries.filter (·.id != sub.entry.id) }
      subscribers := f.subscribers.set s sub } := by
    unfold StatsFeed.drop
    rw [hsub, hsame]
    rfl
  rw [hdrop]
  refine h.modify hsub sub rfl _ Queue.drop List.filter_sublist fun a q ha hq => ?_
  rw [hitems a q ha hq.queue]
  refine hq.leave ?_ ?_
  · show (f.exchange.modifyQueue sub.entry.queue Queue.drop).queue? sub.entry.queue = _
    rw [Exchange.queue?_modifyQueue, if_pos rfl, hq.queue]
    rfl
  · intro he
    simpa using (List.mem_filter.1 he).2

/-- A record moves from a queue to the live counts. -/
theorem Books.count (h : Books f accounts roll) {s : Nat} {sub : StatsSubscriber}
    (hsub : f.subscribers[s]? = some sub) {r : CallRecord} {x' : Exchange CallRecord}
    (hreceive : f.exchange.receive sub.entry.queue = (.item r, x')) :
    Books { f with exchange := x', subscribers := f.subscribers.set s { sub with live := sub.live.count r } }
      accounts roll := by
  obtain ⟨q, rest, hqueue, hitems, -, rfl⟩ := Exchange.of_receive_eq_item hreceive
  have hbooks := h.modify hsub { sub with live := sub.live.count r } rfl id
    (fun _ => { q with items := rest }) (List.Sublist.refl _) fun a q' ha hq => ?_
  · rw [List.modify_id] at hbooks
    exact hbooks
  · obtain rfl := Option.some.inj (hqueue.symm.trans hq.queue)
    refine hq.count hitems ?_
    show (f.exchange.modifyQueue sub.entry.queue fun _ => { q with items := rest }).queue? sub.entry.queue = _
    rw [Exchange.queue?_modifyQueue, if_pos rfl, hqueue]
    rfl

/-- What was counted and what is queued move into a report. -/
theorem Books.report (h : Books f accounts roll) {s : Nat} {sub : StatsSubscriber}
    (hsub : f.subscribers[s]? = some sub) (now : Nat) :
    Books (f.report s sub now).2 (accounts.modify s (Account.report (f.report s sub now).1)) roll := by
  obtain ⟨a, q, -, hq⟩ := h.exists_account hsub
  rw [report_eq hq.queue]
  refine h.modify hsub { sub with ticker := sub.ticker.take now, live := {} } rfl _
    (fun q => { q with items := [] }) (List.Sublist.refl _) fun a' q' ha' hq' => ?_
  obtain rfl := Option.some.inj (hq.queue.symm.trans hq'.queue)
  refine hq'.report _ ?_ rfl
  show (f.exchange.modifyQueue sub.entry.queue fun q => { q with items := [] }).queue? sub.entry.queue = _
  rw [Exchange.queue?_modifyQueue, if_pos rfl, hq.queue]
  rfl

end

end CallGateway.StatsFeed
