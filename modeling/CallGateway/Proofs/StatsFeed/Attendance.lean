/-
  CallGateway.Proofs.StatsFeed.Attendance
  ───────────────────────────────────────
  **ONE SUBSCRIBER OF THE STATISTICS, WHATEVER THE OTHERS DO.**

  A subscriber attends an open feed as long as it does not go: it is
  registered, and its queue listens (`Orderly.attends`).  What a turn of it
  comes to is settled by its queue and its ticker (`Attends.turn_eq`), and so
  is what a look comes to (`Attends.poll_of_due`, `Attends.poll_of_not_due`).
-/
import CallGateway.Proofs.StatsFeed.Journal

namespace CallGateway

/-! ## §1. Taking from a queue. -/

namespace Exchange

variable {α : Type} {x : Exchange α} {p : Nat} {q : Queue α}

/-- Changing a queue twice is changing it once. -/
theorem modifyQueue_modifyQueue (x : Exchange α) (p : Nat) (f g : Queue α → Queue α) :
    (x.modifyQueue p f).modifyQueue p g = x.modifyQueue p (g ∘ f) := by
  unfold modifyQueue
  simp only [List.modify_modify_eq]

/-- A queue is changed as it is, and not as others might be. -/
theorem modifyQueue_congr (h : x.queue? p = some q) {f g : Queue α → Queue α} (hfg : f q = g q) :
    x.modifyQueue p f = x.modifyQueue p g := by
  have hqueues : x.queues.modify p f = x.queues.modify p g := by
    refine List.ext_getElem? fun i => ?_
    rw [List.getElem?_modify, List.getElem?_modify]
    by_cases hi : p = i
    · subst hi
      have hat : x.queues[p]? = some q := h
      simp [hat, hfg]
    · simp [hi]
  rw [modifyQueue, hqueues]
  rfl

/-- The oldest item is found as long as the reader is there. -/
theorem receive_of_cons {a : α} {rest : List α} (h : x.queue? p = some q) (hitems : q.items = a :: rest)
    (hreader : q.reader = .listening) :
    x.receive p = (.item a, x.modifyQueue p fun q => { q with items := rest }) := by
  have hfound : q.receive (x.hasSender p) = (.item a, { q with items := rest }) := by
    unfold Queue.receive
    rw [hreader, hitems]
  have hsame : (x.modifyQueue p fun _ => { q with items := rest })
      = x.modifyQueue p fun q => { q with items := rest } :=
    modifyQueue_congr h rfl
  unfold receive
  rw [h]
  simp only [hfound, hsame]

/-- An empty queue of a registered subscriber has not come to its end. -/
theorem receive_of_nil {e : Entry} (h : x.queue? e.queue = some q) (hitems : q.items = [])
    (hreader : q.reader = .listening) (he : e ∈ x.entries) : (x.receive e.queue).1 = .empty := by
  have hsender : x.hasSender e.queue = true := by
    unfold hasSender
    rw [Bool.or_eq_true, List.any_eq_true]
    exact .inl ⟨e, he, beq_self_eq_true _⟩
  have hfound : q.receive (x.hasSender e.queue) = (.empty, q) := by
    unfold Queue.receive
    rw [hreader, hitems, hsender]
    rfl
  unfold receive
  rw [h]
  simp only [hfound]

/-- Who was registered and listens is registered after an item was handed out,
and nobody else is. -/
theorem Roll.mem_fanOut_iff {roll : List Entry} (h : x.Roll roll) (a : α) (e : Entry) :
    e ∈ (x.fanOut a).2.entries ↔ e ∈ x.entries ∧ x.IsListening e := by
  rw [fanOut_eq x a h.entries_ids_nodup h.entries_queues_nodup]
  show e ∈ x.entries.filter (fun e => x.verdictOf e ≠ .refused) ↔ _
  rw [List.mem_filter, decide_eq_true_iff, ne_eq, verdictOf_eq_refused_iff, not_not]

end Exchange

namespace StatsFeed

/-! ## §2. Feeds. -/

/-- The subscribers of a feed have come one after the other, and while it is
open, those who listen are registered. -/
structure Orderly (f : StatsFeed) (roll : List Entry) : Prop where
  onRoll : f.exchange.Roll roll
  handles : (f.subscribers.map (·.entry)).Sublist roll
  registered : f.exchange.isOpen = true → ∀ e ∈ f.subscribers.map (·.entry), f.exchange.IsListening e →
    e ∈ f.exchange.entries

section
variable {f : StatsFeed} {roll : List Entry} {s t : Nat} {sub sub' : StatsSubscriber}

theorem orderly_start (subscriberBuffer : Nat) : (StatsFeed.start subscriberBuffer).Orderly [] where
  onRoll := Exchange.roll_empty
  handles := .slnil
  registered := by simp [StatsFeed.start]

theorem Orderly.mem_roll (h : f.Orderly roll) (hsub : f.subscribers[s]? = some sub) : sub.entry ∈ roll :=
  mem_roll_of_sublist h.handles hsub

theorem Orderly.queue_ne (h : f.Orderly roll) (hsub : f.subscribers[s]? = some sub)
    (hsub' : f.subscribers[t]? = some sub') (hne : s ≠ t) : sub.entry.queue ≠ sub'.entry.queue :=
  queue_ne_of_sublist h.onRoll h.handles hsub hsub' hne

theorem Orderly.exists_queue (h : f.Orderly roll) (hsub : f.subscribers[s]? = some sub) :
    ∃ q, f.queueOf? sub = some q := h.onRoll.exists_queue (h.mem_roll hsub)

/-- A subscriber and its queue change, and its reader does not begin to
listen. -/
theorem Orderly.modify (h : f.Orderly roll) (hsub : f.subscribers[s]? = some sub) (sub' : StatsSubscriber)
    (hentry : sub'.entry = sub.entry) (put : Queue CallRecord → Queue CallRecord)
    (hput : ∀ q, (put q).reader = .listening → q.reader = .listening) :
    Orderly { f with
      exchange := f.exchange.modifyQueue sub.entry.queue put
      subscribers := f.subscribers.set s sub' } roll := by
  refine ⟨h.onRoll.modifyQueue _ _, ?_, ?_⟩
  · show ((f.subscribers.set s sub').map (·.entry)).Sublist roll
    rw [entries_set hsub hentry]
    exact h.handles
  · intro hopen e he hlistening
    have he : e ∈ (f.subscribers.set s sub').map (·.entry) := he
    rw [entries_set hsub hentry] at he
    exact h.registered hopen e he (Exchange.isListening_of_modifyQueue (fun q _ => hput q) hlistening)

theorem Orderly.publish (h : f.Orderly roll) (r : CallRecord) :
    Orderly { f with exchange := (f.exchange.fanOut r).2 } roll := by
  refine ⟨h.onRoll.fanOut r, h.handles, ?_⟩
  intro hopen e he hlistening
  obtain ⟨-, hsame, -, -⟩ := f.exchange.fanOut_frame r
  have hbefore : f.exchange.IsListening e := by
    obtain ⟨q, hq, hreader⟩ := hlistening
    have hq : (f.exchange.fanOut r).2.queue? e.queue = some q := hq
    rw [h.onRoll.queue?_fanOut r (h.handles.subset he)] at hq
    split at hq
    · obtain ⟨q', hq', rfl⟩ := Option.map_eq_some_iff.1 hq
      rw [Queue.reader_offer] at hreader
      exact ⟨q', hq', hreader⟩
    · exact ⟨q, hq, hreader⟩
  exact (h.onRoll.mem_fanOut_iff r e).2 ⟨h.registered (hsame ▸ hopen) e he hbefore, hbefore⟩

/-- Whoever comes makes nobody listen again. -/
theorem Orderly.registered_add (h : f.Orderly roll) (capacity : Nat) (hopen : f.exchange.isOpen = true) {e : Entry}
    (he : e ∈ f.subscribers.map (·.entry)) (hlistening : (f.exchange.add capacity).2.IsListening e) :
    e ∈ (f.exchange.add capacity).2.entries := by
  have hmem := h.handles.subset he
  have hbefore := h.onRoll.isListening_add capacity hmem hlistening
  exact (h.onRoll.mem_entries_add_iff capacity hmem).2 (h.registered hopen e he hbefore)

theorem Orderly.subscribe (h : f.Orderly roll) (now period : Nat) :
    ∃ roll', (f.subscribe now period).2.Orderly roll' := by
  obtain ⟨reason, heq⟩ | heq | ⟨hopen, -, heq⟩ | ⟨ticker, hopen, -, heq⟩ := f.subscribe_cases now period
  · exact ⟨roll, by rw [heq]; exact h⟩
  · exact ⟨roll, by rw [heq]; exact h⟩
  · rw [heq]
    refine ⟨_, (h.onRoll.add hopen f.subscriberBuffer).modifyQueue _ _,
      h.handles.trans (List.sublist_append_left _ _), ?_⟩
    intro _ e he hlistening
    refine h.registered_add _ hopen he (Exchange.isListening_of_modifyQueue ?_ hlistening)
    intro q _ hreader
    cases hreader
  · rw [heq]
    refine ⟨_, h.onRoll.add hopen f.subscriberBuffer, ?_, ?_⟩
    · show (List.map (fun sub : StatsSubscriber => sub.entry) (f.subscribers ++ [_])).Sublist _
      rw [List.map_append]
      exact h.handles.append_right _
    · intro _ e he hlistening
      have he : e ∈ List.map (fun sub : StatsSubscriber => sub.entry) (f.subscribers ++ [_]) := he
      rw [List.map_append, List.mem_append] at he
      rcases he with he | he
      · exact h.registered_add _ hopen he hlistening
      · obtain rfl := List.mem_singleton.1 he
        show _ ∈ (f.exchange.add f.subscriberBuffer).2.entries
        rw [Exchange.add_of_open hopen]
        exact List.mem_append_right _ List.mem_cons_self

/-- Who goes is registered no more, and listens no more. -/
theorem Orderly.drop (h : f.Orderly roll) (s : Nat) : (f.drop s).Orderly roll := by
  unfold StatsFeed.drop
  cases hsub : f.subscribers[s]? with
  | none => exact h
  | some sub =>
    have hremove : (f.exchange.remove sub.entry.id).2.Roll roll :=
      h.onRoll.mono (Nat.le_refl _) (Nat.le_refl _) List.filter_sublist
    refine ⟨hremove.modifyQueue _ _, h.handles, ?_⟩
    intro hopen e he hlistening
    have hne : e ≠ sub.entry := by
      rintro rfl
      obtain ⟨q, hq, hreader⟩ := hlistening
      have hq : ((f.exchange.remove sub.entry.id).2.modifyQueue sub.entry.queue Queue.drop).queue?
        sub.entry.queue = some q := hq
      rw [Exchange.queue?_modifyQueue, if_pos rfl] at hq
      obtain ⟨q', -, rfl⟩ := Option.map_eq_some_iff.1 hq
      cases hreader
    have hid : e.id ≠ sub.entry.id := fun hid =>
      hne (h.onRoll.eq_of_id (h.handles.subset he) (h.mem_roll hsub) hid)
    have hbefore : f.exchange.IsListening e := by
      refine Exchange.isListening_of_modifyQueue ?_ hlistening
      intro q _ hreader
      cases hreader
    refine List.mem_filter.2 ⟨h.registered hopen e he hbefore, ?_⟩
    exact bne_iff_ne.2 hid

theorem Orderly.shutdown (h : f.Orderly roll) : f.shutdown.2.Orderly roll where
  onRoll := h.onRoll.mono (Nat.le_refl _) (Nat.le_refl _) (List.nil_sublist _)
  handles := h.handles
  registered := nofun

/-- Whoever takes a turn keeps the order. -/
theorem Orderly.turn (h : f.Orderly roll) (tickFirst : Bool) (t now : Nat) :
    (f.turn tickFirst t now).2.Orderly roll := by
  obtain ⟨sub, hsub, heq⟩ | ⟨sub, r, x', hsub, hreceive, heq⟩ | heq | heq := f.turn_cases tickFirst t now
  · obtain ⟨q, hq⟩ := h.exists_queue hsub
    rw [heq, report_eq hq]
    exact h.modify hsub { sub with ticker := sub.ticker.take now, live := {} } rfl
      (fun q => { q with items := [] }) fun q hreader => hreader
  · obtain ⟨q, rest, hq, -, -, rfl⟩ := Exchange.of_receive_eq_item hreceive
    have hsame : (f.exchange.modifyQueue sub.entry.queue fun _ => { q with items := rest })
        = f.exchange.modifyQueue sub.entry.queue fun q => { q with items := rest } :=
      Exchange.modifyQueue_congr hq rfl
    rw [heq, hsame]
    exact h.modify hsub { sub with live := sub.live.count r } rfl
      (fun q => { q with items := rest }) fun q hreader => hreader
  · rw [heq]
    exact h
  · rw [heq]
    exact h

end

/-! ## §3. Attending. -/

/-- The subscriber at a place is registered and listens; this is it, and this
is its queue. -/
structure Attends (f : StatsFeed) (s : Nat) (sub : StatsSubscriber) (q : Queue CallRecord) : Prop where
  found : f.subscribers[s]? = some sub
  queue : f.queueOf? sub = some q
  listening : q.reader = .listening
  registered : sub.entry ∈ f.exchange.entries

/-- What a subscriber would report: what it has counted, and all that is
queued. -/
def covered (sub : StatsSubscriber) (q : Queue CallRecord) : Snapshot := q.items.foldl Snapshot.count sub.live

/-- The feed after the subscriber at a place counted some of its records, with
its counts and what is left in its queue. -/
def counted (f : StatsFeed) (s : Nat) (sub : StatsSubscriber) (live : Snapshot) (rest : List CallRecord) :
    StatsFeed :=
  { f with
    exchange := f.exchange.modifyQueue sub.entry.queue fun q => { q with items := rest }
    subscribers := f.subscribers.set s { sub with live } }

section
variable {f : StatsFeed} {roll : List Entry} {s t now : Nat} {sub : StatsSubscriber} {q : Queue CallRecord}

/-- **A subscriber of an open feed attends it** as long as it listens. -/
theorem Orderly.attends (h : f.Orderly roll) (hopen : f.exchange.isOpen = true)
    (hsub : f.subscribers[s]? = some sub) (hq : f.queueOf? sub = some q) (hreader : q.reader = .listening) :
    f.Attends s sub q where
  found := hsub
  queue := hq
  listening := hreader
  registered := h.registered hopen _ (List.mem_map_of_mem (List.mem_of_getElem? hsub)) ⟨q, hq, hreader⟩

theorem Attends.lt (h : f.Attends s sub q) : s < f.subscribers.length := (List.getElem?_eq_some_iff.1 h.found).1

theorem Attends.queued_eq (h : f.Attends s sub q) : f.queued s = q.items.length := by
  unfold queued
  have hq : f.exchange.queue? sub.entry.queue = some q := h.queue
  simp [h.found, hq]

/-- A queue at another place, and what else concerns others, does not
matter. -/
theorem Attends.congr {f' : StatsFeed} (h : f.Attends s sub q) (hfound : f'.subscribers[s]? = f.subscribers[s]?)
    (hqueue : f'.queueOf? sub = f.queueOf? sub)
    (hentries : sub.entry ∈ f.exchange.entries → sub.entry ∈ f'.exchange.entries) : f'.Attends s sub q where
  found := hfound.trans h.found
  queue := hqueue.trans h.queue
  listening := h.listening
  registered := hentries h.registered

/-- The subscriber itself and its queue change. -/
theorem Attends.modify (h : f.Attends s sub q) (sub' : StatsSubscriber) (hentry : sub'.entry = sub.entry)
    (items : List CallRecord) :
    Attends { f with
      exchange := f.exchange.modifyQueue sub.entry.queue fun q => { q with items := items }
      subscribers := f.subscribers.set s sub' } s sub' { q with items := items } where
  found := List.getElem?_set_self h.lt
  queue := by
    show (f.exchange.modifyQueue sub.entry.queue _).queue? sub'.entry.queue = _
    rw [hentry, Exchange.queue?_modifyQueue, if_pos rfl]
    exact congrArg (Option.map _) h.queue
  listening := h.listening
  registered := hentry ▸ h.registered

theorem Attends.counted (h : f.Attends s sub q) (live : Snapshot) (rest : List CallRecord) :
    (f.counted s sub live rest).Attends s { sub with live } { q with items := rest } :=
  h.modify { sub with live } rfl rest

/-- Counting twice is counting once. -/
theorem counted_counted (f : StatsFeed) (s : Nat) (sub : StatsSubscriber) (live live' : Snapshot)
    (rest rest' : List CallRecord) :
    (f.counted s sub live rest).counted s { sub with live } live' rest' = f.counted s sub live' rest' := by
  unfold StatsFeed.counted
  simp only [Exchange.modifyQueue_modifyQueue, List.set_set]
  rfl

/-- Counting nothing changes nothing. -/
theorem Attends.counted_self (h : f.Attends s sub q) : f.counted s sub sub.live q.items = f := by
  have hqueue : (f.exchange.modifyQueue sub.entry.queue fun q' => { q' with items := q.items }) = f.exchange := by
    have hid := Exchange.modifyQueue_congr (f := fun q' => { q' with items := q.items }) (g := id) h.queue rfl
    rw [hid]
    unfold Exchange.modifyQueue
    rw [List.modify_id]
  have hsame : f.subscribers.set s sub = f.subscribers := by
    obtain ⟨hs, hat⟩ := List.getElem?_eq_some_iff.1 h.found
    rw [← hat, List.set_getElem_self]
  unfold StatsFeed.counted
  rw [hqueue]
  show { f with subscribers := f.subscribers.set s sub } = f
  rw [hsame]

/-! ### Reports. -/

theorem Attends.report_fst (h : f.Attends s sub q) (now : Nat) : (f.report s sub now).1 = covered sub q := by
  rw [report_eq h.queue]
  rfl

/-- After a report the subscriber attends with nothing counted and nothing
queued. -/
theorem Attends.report (h : f.Attends s sub q) (now : Nat) :
    (f.report s sub now).2.Attends s { sub with ticker := sub.ticker.take now, live := {} } { q with items := [] } := by
  rw [report_eq h.queue]
  exact h.modify { sub with ticker := sub.ticker.take now, live := {} } rfl []

theorem Attends.isFresh_report (h : f.Attends s sub q) (now : Nat) : (f.report s sub now).2.IsFresh s :=
  ⟨_, (h.report now).found, rfl, (h.report now).queued_eq⟩

/-- What was counted before a report makes no difference after it. -/
theorem Attends.report_counted (h : f.Attends s sub q) (live : Snapshot) (rest : List CallRecord) (now : Nat) :
    ((f.counted s sub live rest).report s { sub with live } now).2 = (f.report s sub now).2 := by
  rw [report_eq (h.counted live rest).queue, report_eq h.queue]
  unfold StatsFeed.counted
  simp only [Exchange.modifyQueue_modifyQueue, List.set_set]
  rfl

/-! ### Turns. -/

/-- **A turn of a subscriber** is settled by its queue and its ticker. -/
theorem Attends.turn_eq (h : f.Attends s sub q) (tickFirst : Bool) (now : Nat) :
    f.turn tickFirst s now =
      if (tickFirst && sub.ticker.isDue now) = true then
        (.done (.ready (covered sub q)), (f.report s sub now).2)
      else match q.items with
        | r :: rest => (.counted, f.counted s sub (sub.live.count r) rest)
        | [] =>
          if sub.ticker.isDue now = true then (.done (.ready (covered sub q)), (f.report s sub now).2)
          else (.done .pending, f) := by
  have hreport : f.report s sub now = (covered sub q, (f.report s sub now).2) :=
    Prod.ext (h.report_fst now) rfl
  unfold turn
  rw [h.found]
  simp only
  by_cases hfirst : (tickFirst && sub.ticker.isDue now) = true
  · rw [if_pos hfirst, if_pos hfirst, hreport]
  · rw [if_neg hfirst, if_neg hfirst]
    cases hitems : q.items with
    | nil =>
      have hempty := Exchange.receive_of_nil h.queue hitems h.listening h.registered
      cases hfound : f.exchange.receive sub.entry.queue with
      | mk found x' =>
        obtain rfl : found = .empty := by rw [← hempty, hfound]
        simp only
        rw [hreport]
    | cons r rest =>
      rw [Exchange.receive_of_cons h.queue hitems h.listening]
      rfl

/-- Once its tick is due, a subscriber reports all that it has counted and all
that is queued, and it does not matter which of the two it looks at first. -/
theorem Attends.go_of_due (fuel : Nat) : ∀ {f : StatsFeed} {sub : StatsSubscriber} {q : Queue CallRecord}
    (choices : List Bool), f.Attends s sub q → sub.ticker.isDue now = true → q.items.length < fuel →
    poll.go s now fuel choices f = (.ready (covered sub q), (f.report s sub now).2) := by
  induction fuel with
  | zero =>
    intro f sub q choices _ _ hfuel
    omega
  | succ fuel ih =>
    intro f sub q choices h hdue hfuel
    unfold poll.go
    rw [h.turn_eq]
    by_cases hfirst : ((choices.head?.getD false) && sub.ticker.isDue now) = true
    · rw [if_pos hfirst]
    · rw [if_neg hfirst]
      cases hitems : q.items with
      | nil => simp only [hdue, if_true]
      | cons r rest =>
        have hrest := ih choices.tail (h.counted (sub.live.count r) rest) hdue (by
          show rest.length < fuel
          rw [hitems, List.length_cons] at hfuel
          omega)
        have hcovered : covered { sub with live := sub.live.count r } { q with items := rest } = covered sub q := by
          unfold covered
          rw [hitems]
          rfl
        rw [hcovered, h.report_counted] at hrest
        exact hrest

theorem Attends.poll_of_due (h : f.Attends s sub q) (hdue : sub.ticker.isDue now = true) (choices : List Bool) :
    f.poll choices s now = (.ready (covered sub q), (f.report s sub now).2) := by
  unfold poll
  exact Attends.go_of_due _ choices h hdue (by rw [h.queued_eq]; omega)

/-- Before its tick is due, a subscriber counts all that is queued and waits. -/
theorem Attends.go_of_not_due (fuel : Nat) : ∀ {f : StatsFeed} {sub : StatsSubscriber} {q : Queue CallRecord}
    (choices : List Bool), f.Attends s sub q → sub.ticker.isDue now = false → q.items.length < fuel →
    poll.go s now fuel choices f = (.pending, f.counted s sub (covered sub q) []) := by
  induction fuel with
  | zero =>
    intro f sub q choices _ _ hfuel
    omega
  | succ fuel ih =>
    intro f sub q choices h hdue hfuel
    unfold poll.go
    rw [h.turn_eq]
    simp only [hdue, Bool.and_false]
    cases hitems : q.items with
    | nil =>
      have hsame := h.counted_self
      unfold covered
      rw [hitems] at hsame ⊢
      simp only [Bool.false_eq_true, if_false, List.foldl_nil]
      rw [hsame]
    | cons r rest =>
      have hrest := ih choices.tail (h.counted (sub.live.count r) rest) hdue (by
        show rest.length < fuel
        rw [hitems, List.length_cons] at hfuel
        omega)
      rw [counted_counted] at hrest
      have hcovered : covered { sub with live := sub.live.count r } { q with items := rest } = covered sub q := by
        unfold covered
        rw [hitems]
        rfl
      rw [hcovered] at hrest
      exact hrest

theorem Attends.poll_of_not_due (h : f.Attends s sub q) (hdue : sub.ticker.isDue now = false)
    (choices : List Bool) : f.poll choices s now = (.pending, f.counted s sub (covered sub q) []) := by
  unfold poll
  exact Attends.go_of_not_due _ choices h hdue (by rw [h.queued_eq]; omega)

end

end StatsFeed

end CallGateway
