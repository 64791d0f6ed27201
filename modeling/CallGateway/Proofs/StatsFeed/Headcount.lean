/-
  CallGateway.Proofs.StatsFeed.Headcount
  ──────────────────────────────────────
  **HOW MANY SUBSCRIBERS THE STATISTICS HAVE.**

  Before the shutdown, the subscribers that are registered are those who have
  come and have not gone, and the strays (`Manned.ids_perm`).  Handing out a
  record strikes off strays and nobody else, at whatever moment others come and
  go (`Manned.land`).  There are strays only where the first report of a
  subscriber would come after the end of the clock (`strays_run`).
-/
import CallGateway.Proofs.StatsFeed.Rush

namespace CallGateway.StatsFeed

open Exchange (Flight)

/-! ## §1. One record on its way. -/

/-- A record will strike off no one but strays, and all strays that were noted
down for it. -/
structure Delivery.Sound (x : Exchange CallRecord) (roll strays : List Entry) (d : Delivery) : Prop where
  noted : d.noted ⊆ roll
  fair : x.Fair d.noted d.flight
  thorough : ∀ e ∈ d.noted, e ∈ strays → e ∈ d.flight.todo ∨ e.id ∈ d.flight.failed

section

variable {x x' : Exchange CallRecord} {roll roll' here strays strays' : List Entry} {d : Delivery}

/-- Others come and go, and nobody listens again who had stopped. -/
theorem Delivery.Sound.mono (h : d.Sound x roll strays) (hroll : roll ⊆ roll')
    (hx : ∀ e ∈ roll, x'.IsListening e → x.IsListening e) (hstrays : ∀ e ∈ roll, e ∈ strays' → e ∈ strays) :
    d.Sound x' roll' strays' where
  noted := List.Subset.trans h.noted hroll
  fair := h.fair.mono (List.Subset.refl _) fun e he => hx e (h.noted he)
  thorough := fun e he hstray => h.thorough e he (hstrays e (h.noted he) hstray)

/-- A stray refuses the record that it is offered. -/
theorem Delivery.Sound.offer (h : d.Sound x roll strays) (hx : x.Presence roll here strays) {e : Entry}
    {es : List Entry} (htodo : d.flight.todo = e :: es) :
    ({ d with flight := ({ d.flight with todo := es } : Flight CallRecord).note e (x.verdictOf e) } :
      Delivery).Sound (x.modifyQueue e.queue (·.offer d.flight.item)) roll strays := by
  have hfair := h.fair.offerNext htodo
  rw [Exchange.offerNext_eq htodo] at hfair
  refine ⟨h.noted, hfair, fun e' he' hstray => ?_⟩
  rw [Flight.note_todo, Flight.note_failed, List.mem_append]
  rcases h.thorough e' he' hstray with hmem | hmem
  · rw [htodo] at hmem
    rcases List.mem_cons.1 hmem with rfl | hmem
    · have hrefused : x.verdictOf e' = .refused := (x.verdictOf_eq_refused_iff e').2 (hx.silent e' hstray)
      rw [if_pos hrefused]
      exact .inr (.inr List.mem_cons_self)
    · exact .inl hmem
  · exact .inr (.inl hmem)

/-- Once it was offered to all, those who will be struck off are the strays that
were noted down. -/
theorem Delivery.Sound.mem_failed_iff (h : d.Sound x roll strays) (hx : x.Presence roll here strays)
    (htodo : d.flight.todo = []) {e : Entry} (he : e ∈ strays) : e.id ∈ d.flight.failed ↔ e ∈ d.noted := by
  constructor
  · intro hid
    obtain ⟨e', he', heq, -⟩ := h.fair.failed e.id hid
    rwa [← hx.onRoll.eq_of_id (h.noted he') (hx.others.subset he) heq]
  · intro hnoted
    refine (h.thorough e hnoted he).resolve_left ?_
    rw [htodo]
    exact List.not_mem_nil

end

/-! ## §2. The invariant. -/

namespace Rush

/-- Registered are those who have come and have not gone, and the strays; and no
record will strike off any other. -/
structure Manned (v : Rush) (roll : List Entry) : Prop where
  presence : v.feed.exchange.Presence roll v.live v.strays
  handles : v.handles.Sublist roll
  apart : ∀ e ∈ v.handles, e ∉ v.strays
  fresh : ∀ s ∈ v.left, s < v.handles.length
  deliveries : ∀ d ∈ v.deliveries, d.Sound v.feed.exchange roll v.strays

theorem manned_start (subscriberBuffer : Nat) (m : Metrics) : (start subscriberBuffer m).Manned [] where
  presence := Exchange.presence_empty
  handles := .slnil
  apart := nofun
  fresh := nofun
  deliveries := nofun

section

variable {v : Rush} {roll : List Entry}

/-- Items are put into a queue or taken from it, subscribers count and report,
and nobody comes or goes. -/
theorem Manned.modify (h : v.Manned roll) (p : Nat) {f : Queue CallRecord → Queue CallRecord}
    (hf : ∀ q, v.feed.exchange.queue? p = some q → (f q).reader = q.reader) {subscribers : List StatsSubscriber}
    (hsubscribers : subscribers.map (·.entry) = v.feed.subscribers.map (·.entry)) :
    ({ v with feed := { v.feed with
      exchange := v.feed.exchange.modifyQueue p f, subscribers } } : Rush).Manned roll := by
  have hx : ∀ e ∈ roll, (v.feed.exchange.modifyQueue p f).IsListening e → v.feed.exchange.IsListening e :=
    fun e _ => Exchange.isListening_of_modifyQueue fun q hq hreader => (hf q hq).symm.trans hreader
  have hhandles : ({ v with feed := { v.feed with
      exchange := v.feed.exchange.modifyQueue p f, subscribers } } : Rush).handles = v.handles := hsubscribers
  refine ⟨?_, ?_, ?_, ?_, fun d hd => (h.deliveries d hd).mono (List.Subset.refl _) hx fun e _ he => he⟩
  · unfold live
    rw [hhandles]
    exact h.presence.modifyQueue p hf
  · rw [hhandles]
    exact h.handles
  · rw [hhandles]
    exact h.apart
  · rw [hhandles]
    exact h.fresh

/-- A record is launched for all who are registered. -/
theorem Manned.launch (h : v.Manned roll) (r : CallRecord) : (v.next (.launch r)).Manned roll := by
  refine ⟨h.presence.held _, h.handles, h.apart, h.fresh, fun d hd => ?_⟩
  rcases List.mem_cons.1 hd with rfl | hd
  · have hfair := v.feed.exchange.fair_launch r
    exact ⟨h.presence.onRoll.entries.subset, hfair.mono (List.Subset.refl _) fun e _ hx => hx, fun e he _ => .inl he⟩
  · exact (h.deliveries d hd).mono (List.Subset.refl _) (fun e _ hx => hx) fun e _ he => he

theorem Manned.offer (h : v.Manned roll) (i : Nat) : (v.next (.offer i)).Manned roll := by
  rcases v.next_offer_cases i with hsame | ⟨d, e, es, hd, htodo⟩
  · rw [hsame]
    exact h
  · have hsound := (h.deliveries d (List.mem_of_getElem? hd)).offer h.presence htodo
    have hpresence := h.presence.modifyQueue e.queue fun q _ => q.reader_offer d.flight.item
    rw [next_offer hd htodo]
    refine ⟨hpresence.held _, h.handles, h.apart, h.fresh, fun d' hd' => ?_⟩
    rcases List.mem_or_eq_of_mem_set hd' with hd' | rfl
    · exact (h.deliveries d' hd').mono (List.Subset.refl _) (fun e _ => Exchange.isListening_of_offer)
        fun e _ he => he
    · exact hsound.mono (List.Subset.refl _) (fun e _ hx => hx) fun e _ he => he

/-- **A record strikes off the strays that were noted down for it**, and nobody
else. -/
theorem Manned.land (h : v.Manned roll) (i : Nat) : (v.next (.land i)).Manned roll := by
  rcases v.next_land_cases i with hsame | ⟨d, hd, htodo⟩
  · rw [hsame]
    exact h
  · have hsound := h.deliveries d (List.mem_of_getElem? hd)
    have hspares : ∀ e ∈ v.live, e.id ∉ d.flight.failed := fun e he =>
      hsound.fair.spares h.presence hsound.noted he
    have hstrays : ∀ e ∈ v.strays, e.id ∈ d.flight.failed ↔ e ∉ v.strays.filter (· ∉ d.noted) := by
      intro e he
      rw [hsound.mem_failed_iff h.presence htodo he]
      simp [he]
    rw [next_land hd htodo]
    refine ⟨(h.presence.strike hspares List.filter_sublist hstrays).held _, h.handles,
      fun e he hstray => h.apart e he (List.mem_filter.1 hstray).1, h.fresh, fun d' hd' => ?_⟩
    exact (h.deliveries d' (List.mem_of_mem_eraseIdx hd')).mono (List.Subset.refl _) (fun e _ hx => hx)
      fun e _ he => (List.mem_filter.1 he).1

/-- Whoever was registered before is none of those who come. -/
theorem Manned.notMem_of_roll (h : v.Manned roll) {e : Entry} (he : e ∈ roll) :
    e ≠ ⟨v.feed.exchange.nextId, v.feed.exchange.queues.length⟩ := by
  rintro rfl
  exact Nat.lt_irrefl _ (h.presence.onRoll.below _ he).1

theorem Manned.subscribe (h : v.Manned roll) (period : Nat) : ∃ roll', (v.next (.subscribe period)).Manned roll' := by
  have hlistening : ∀ e ∈ roll, (v.feed.exchange.add v.feed.subscriberBuffer).2.IsListening e →
      v.feed.exchange.IsListening e := fun e he => (h.presence.onRoll.isListening_add_iff _ he).1
  rcases v.next_subscribe_cases period with hsame | ⟨hopen, -, hnext⟩ | ⟨ticker, hopen, hnext⟩
  · rw [hsame]
    exact ⟨roll, h⟩
  · -- the subscriber is registered and gone
    rw [hnext]
    refine ⟨roll ++ [⟨v.feed.exchange.nextId, v.feed.exchange.queues.length⟩],
      h.presence.stray hopen v.feed.subscriberBuffer, h.handles.trans (List.sublist_append_left _ _),
      fun e he => ?_, h.fresh, fun d hd => ?_⟩
    · rw [List.mem_append, List.mem_singleton, not_or]
      exact ⟨h.apart e he, h.notMem_of_roll (h.handles.subset he)⟩
    · refine (h.deliveries d hd).mono (List.subset_append_left _ _) (fun e he hx => hlistening e he ?_)
        fun e he hstray => ?_
      · refine Exchange.isListening_of_modifyQueue (f := Queue.drop) (fun q _ hreader => ?_) hx
        cases hreader
      · rw [List.mem_append, List.mem_singleton] at hstray
        exact hstray.resolve_right (h.notMem_of_roll he)
  · -- there is a handle for the subscriber
    have hhandles : ∀ sub : StatsSubscriber, ({ v with feed := { v.feed with
        exchange := (v.feed.exchange.add v.feed.subscriberBuffer).2
        subscribers := v.feed.subscribers ++ [sub] } } : Rush).handles = v.handles ++ [sub.entry] :=
      fun sub => List.map_append
    rw [hnext]
    refine ⟨roll ++ [⟨v.feed.exchange.nextId, v.feed.exchange.queues.length⟩], ?_, ?_, fun e he => ?_,
      fun s hs => ?_, fun d hd => ?_⟩
    · unfold live
      rw [hhandles, Exchange.present_concat fun hmem => Nat.lt_irrefl _ (h.fresh _ hmem)]
      exact h.presence.add hopen v.feed.subscriberBuffer
    · rw [hhandles]
      exact h.handles.append (.refl _)
    · rw [hhandles] at he
      rcases List.mem_append.1 he with he | he
      · exact h.apart e he
      · obtain rfl := List.mem_singleton.1 he
        exact fun hstray => h.notMem_of_roll (h.presence.others.subset hstray) rfl
    · rw [hhandles, List.length_append]
      exact Nat.lt_add_right _ (h.fresh s hs)
    · exact (h.deliveries d hd).mono (List.subset_append_left _ _) hlistening fun e _ he => he

theorem Manned.turn (h : v.Manned roll) (s : Nat) (tickFirst : Bool) :
    (v.next (.turn s tickFirst)).Manned roll := by
  show ({ v with feed := (v.feed.turn tickFirst s v.now).2 } : Rush).Manned roll
  rcases v.feed.turn_cases tickFirst s v.now with
    ⟨sub, hsub, heq⟩ | ⟨sub, r, x', hsub, hreceive, heq⟩ | heq | heq
  · obtain ⟨q, hq⟩ := h.presence.onRoll.exists_queue (mem_roll_of_sublist h.handles hsub)
    let sub' : StatsSubscriber := { sub with ticker := sub.ticker.take v.now, live := {} }
    have hentries : (v.feed.subscribers.set s sub').map (·.entry) = v.feed.subscribers.map (·.entry) :=
      entries_set hsub rfl
    rw [heq, report_eq hq]
    exact h.modify sub.entry.queue (f := fun q => { q with items := [] }) (fun _ _ => rfl) hentries
  · obtain ⟨q, rest, hq, -, -, rfl⟩ := Exchange.of_receive_eq_item hreceive
    rw [heq]
    refine h.modify sub.entry.queue (fun q' hq' => ?_) (entries_set hsub rfl)
    obtain rfl := Option.some.inj (hq.symm.trans hq')
    rfl
  · rw [heq]
    exact h
  · rw [heq]
    exact h

/-- Looking for a report is taking some turns. -/
theorem Manned.poll (h : v.Manned roll) (s : Nat) (choices : List Bool) :
    (v.next (.poll s choices)).Manned roll := by
  have hgo : ∀ (fuel : Nat) (choices : List Bool) (v' : Rush), v'.Manned roll →
      ({ v' with feed := (poll.go s v'.now fuel choices v'.feed).2 } : Rush).Manned roll := by
    intro fuel
    induction fuel with
    | zero => exact fun _ v' hv' => hv'
    | succ fuel ih =>
      intro choices v' hv'
      have hturn : ({ v' with
          feed := (v'.feed.turn (choices.head?.getD false) s v'.now).2 } : Rush).Manned roll :=
        hv'.turn s (choices.head?.getD false)
      unfold poll.go
      rcases heq : v'.feed.turn (choices.head?.getD false) s v'.now with ⟨_ | p, feed⟩
      · rw [heq] at hturn
        exact ih choices.tail _ hturn
      · rw [heq] at hturn
        exact hturn
  exact hgo _ choices v h

theorem Manned.drop (h : v.Manned roll) (s : Nat) : (v.next (.drop s)).Manned roll := by
  cases hsub : v.feed.subscribers[s]? with
  | none =>
    have hs : ¬s < v.feed.subscribers.length := Nat.not_lt.2 (List.getElem?_eq_none_iff.1 hsub)
    unfold next StatsFeed.drop
    simp only [hsub, if_neg hs]
    exact h
  | some sub =>
    have hs : s < v.feed.subscribers.length := (List.getElem?_eq_some_iff.1 hsub).1
    have he : v.handles[s]? = some sub.entry := by
      show (v.feed.subscribers.map (·.entry))[s]? = some sub.entry
      rw [List.getElem?_map, hsub]
      rfl
    have hmem := List.mem_of_getElem? he
    have hlive := Exchange.present_leave v.left (h.presence.onRoll.nodup.sublist h.handles) he
    unfold next StatsFeed.drop
    simp only [hsub, if_pos hs]
    refine ⟨?_, h.handles, h.apart, fun t ht => ?_, fun d hd => ?_⟩
    · show Exchange.Presence _ roll (Exchange.present v.handles (v.left ++ [s])) v.strays
      rw [hlive]
      exact h.presence.leave (h.handles.subset hmem) (h.apart _ hmem)
    · rcases List.mem_append.1 ht with ht | ht
      · exact h.fresh t ht
      · obtain rfl := List.mem_singleton.1 ht
        exact (List.getElem?_eq_some_iff.1 he).1
    · refine (h.deliveries d hd).mono (List.Subset.refl _) (fun e _ => ?_) fun e _ hstray => hstray
      refine Exchange.isListening_of_modifyQueue (x := (v.feed.exchange.remove sub.entry.id).2) (f := Queue.drop) ?_
      intro q _ hreader
      cases hreader

/-- **Every step keeps the invariant**, -/
theorem Manned.next (h : v.Manned roll) (e : Event) : ∃ roll', (v.next e).Manned roll' := by
  cases e with
  | launch r => exact ⟨roll, h.launch r⟩
  | offer i => exact ⟨roll, h.offer i⟩
  | land i => exact ⟨roll, h.land i⟩
  | subscribe period => exact h.subscribe period
  | advance ms => exact ⟨roll, h.presence, h.handles, h.apart, h.fresh, h.deliveries⟩
  | turn s tickFirst => exact ⟨roll, h.turn s tickFirst⟩
  | poll s choices => exact ⟨roll, h.poll s choices⟩
  | drop s => exact ⟨roll, h.drop s⟩
  | shutdown =>
    exact ⟨roll, h.presence.close, h.handles, fun _ _ => List.not_mem_nil, h.fresh,
      fun d hd => (h.deliveries d hd).mono (List.Subset.refl _) (fun e _ hx => hx) nofun⟩

/-- and so does every run. -/
theorem Manned.run (h : v.Manned roll) (events : List Event) : ∃ roll', (v.run events).Manned roll' := by
  induction events generalizing v roll with
  | nil => exact ⟨roll, h⟩
  | cons e events ih =>
    obtain ⟨roll', h'⟩ := h.next e
    exact ih h'

/-! ## §3. What it comes to. -/

/-- **Before the shutdown, registered are those who have come and have not gone,
and the strays**, -/
theorem Manned.ids_perm (h : v.Manned roll) (hopen : v.feed.exchange.isOpen = true) :
    v.feed.exchange.ids.Perm (v.live.map (·.id) ++ v.strays.map (·.id)) := by
  unfold Exchange.ids
  rw [← List.map_append]
  exact (h.presence.perm hopen).map _

/-- and after it nobody is. -/
theorem Manned.size_eq (h : v.Manned roll) :
    v.feed.size = if v.feed.exchange.isOpen then v.live.length + v.strays.length else 0 := by
  unfold StatsFeed.size
  cases hopen : v.feed.exchange.isOpen with
  | true => exact h.presence.size_eq hopen
  | false =>
    unfold Exchange.size
    rw [h.presence.closed hopen]
    rfl

/-- A record that is handed out with nothing in between leaves no stray behind. -/
theorem Manned.strays_publish (h : v.Manned roll) (hopen : v.feed.exchange.isOpen = true) (r : CallRecord) :
    (v.run (.launch r :: List.replicate v.feed.size (.offer 0) ++ [.land 0])).strays = [] := by
  have hrun := v.run_publish r
  unfold StatsFeed.size Exchange.size
  rw [hrun]
  refine List.filter_eq_nil_iff.2 fun e he => ?_
  have hmem : e ∈ v.feed.exchange.entries := (h.presence.registered hopen e).2 (.inr he)
  simpa using hmem

/-- Whoever takes a turn opens or closes nothing, -/
theorem isOpen_turn (tickFirst : Bool) (f : StatsFeed) (s now : Nat) :
    (f.turn tickFirst s now).2.exchange.isOpen = f.exchange.isOpen := by
  rcases f.turn_cases tickFirst s now with ⟨sub, -, heq⟩ | ⟨sub, r, x', -, hreceive, heq⟩ | heq | heq
  · rw [heq]
    show (f.takeQueued sub.entry).2.exchange.isOpen = _
    unfold takeQueued
    split <;> rfl
  · obtain ⟨q, rest, -, -, -, rfl⟩ := Exchange.of_receive_eq_item hreceive
    rw [heq]
    rfl
  · rw [heq]
  · rw [heq]

/-- and neither does whoever takes some turns. -/
theorem isOpen_poll_go (s now fuel : Nat) (choices : List Bool) (f : StatsFeed) :
    (poll.go s now fuel choices f).2.exchange.isOpen = f.exchange.isOpen := by
  induction fuel generalizing choices f with
  | zero => rfl
  | succ fuel ih =>
    have hturn := isOpen_turn (choices.head?.getD false) f s now
    unfold poll.go
    rcases heq : f.turn (choices.head?.getD false) s now with ⟨_ | p, feed⟩
    · rw [heq] at hturn
      exact (ih choices.tail feed).trans hturn
    · rw [heq] at hturn
      exact hturn

/-- Nothing but a shutdown closes a feed, and nothing opens it. -/
theorem isOpen_next (v : Rush) {e : Event} (he : e ≠ .shutdown) :
    (v.next e).feed.exchange.isOpen = v.feed.exchange.isOpen := by
  cases e with
  | shutdown => exact absurd rfl he
  | launch r => rfl
  | advance ms => rfl
  | turn s tickFirst => exact isOpen_turn tickFirst v.feed s v.now
  | poll s choices => exact isOpen_poll_go s v.now _ choices v.feed
  | offer i =>
    rcases v.next_offer_cases i with hsame | ⟨d, e, es, hd, htodo⟩
    · rw [hsame]
    · rw [next_offer hd htodo]
      rfl
  | land i =>
    rcases v.next_land_cases i with hsame | ⟨d, hd, htodo⟩
    · rw [hsame]
    · rw [next_land hd htodo]
      rfl
  | subscribe period =>
    rcases v.next_subscribe_cases period with hsame | ⟨hopen, -, hnext⟩ | ⟨ticker, hopen, hnext⟩
    · rw [hsame]
    · rw [hnext]
      show (v.feed.exchange.add _).2.isOpen = _
      rw [Exchange.add_of_open hopen]
    · rw [hnext, Exchange.add_of_open hopen]
  | drop s =>
    show (v.feed.drop s).exchange.isOpen = _
    unfold StatsFeed.drop
    split <;> rfl

/-- A feed is open until it is shut down. -/
theorem isOpen_run (v : Rush) (events : List Event) :
    (v.run events).feed.exchange.isOpen = (v.feed.exchange.isOpen && decide (.shutdown ∉ events)) := by
  induction events generalizing v with
  | nil => simp
  | cons e events ih =>
    rw [run_cons, ih]
    by_cases he : e = .shutdown
    · subst he
      rw [show (v.next .shutdown).feed.exchange.isOpen = false from rfl]
      simp
    · rw [v.isOpen_next he]
      simp [Ne.symm he]

/-- Handing out a record strikes off nobody who has a handle, however much it
lags behind. -/
theorem Manned.stays (h : v.Manned roll) (hopen : v.feed.exchange.isOpen = true) {e : Event}
    (he : e.handsOut = true) {entry : Entry} (hentry : entry ∈ v.live) :
    entry.id ∈ (v.next e).feed.exchange.ids := by
  have hlive : (v.next e).live = v.live := by
    cases e with
    | launch r => rfl
    | offer i =>
      rcases v.next_offer_cases i with hsame | ⟨d, e, es, hd, htodo⟩
      · rw [hsame]
      · rw [next_offer hd htodo]
        rfl
    | land i =>
      rcases v.next_land_cases i with hsame | ⟨d, hd, htodo⟩
      · rw [hsame]
      · rw [next_land hd htodo]
        rfl
    | _ => cases he
  have hne : e ≠ .shutdown := by
    rintro rfl
    cases he
  obtain ⟨roll', h'⟩ := h.next e
  refine List.mem_map_of_mem ((h'.presence.registered ((v.isOpen_next hne).trans hopen) entry).2 (.inl ?_))
  rw [hlive]
  exact hentry

/-- Who goes is struck off at once, and nobody else is. -/
theorem Manned.ids_drop (h : v.Manned roll) (hopen : v.feed.exchange.isOpen = true) {s : Nat} {e : Entry}
    (he : v.handles[s]? = some e) (hs : s ∉ v.left) :
    (v.feed.exchange.remove e.id).1 = true
      ∧ (v.next (.drop s)).feed.exchange.ids = v.feed.exchange.ids.erase e.id := by
  obtain ⟨hfound, hids⟩ := h.presence.remove_of_mem hopen (Exchange.mem_present_iff.2 ⟨s, he, hs⟩)
  obtain ⟨sub, hsub, rfl⟩ : ∃ sub, v.feed.subscribers[s]? = some sub ∧ sub.entry = e := by
    rw [Rush.handles, List.getElem?_map] at he
    exact Option.map_eq_some_iff.1 he
  refine ⟨hfound, Eq.trans ?_ hids⟩
  unfold Rush.next StatsFeed.drop
  simp only [hsub]
  rfl

/-! ### Strays. -/

/-- Time does not go back. -/
theorem now_le_next (v : Rush) (e : Event) : v.now ≤ (v.next e).now := by
  cases e with
  | advance ms => exact Nat.le_add_right v.now ms
  | offer i =>
    refine Nat.le_of_eq ?_
    rcases v.next_offer_cases i with hsame | ⟨d, e, es, hd, htodo⟩
    · rw [hsame]
    · rw [next_offer hd htodo]
  | land i =>
    refine Nat.le_of_eq ?_
    rcases v.next_land_cases i with hsame | ⟨d, hd, htodo⟩
    · rw [hsame]
    · rw [next_land hd htodo]
      rfl
  | subscribe period =>
    refine Nat.le_of_eq ?_
    rcases v.next_subscribe_cases period with hsame | ⟨-, -, hnext⟩ | ⟨ticker, -, hnext⟩
    · rw [hsame]
    · rw [hnext]
    · rw [hnext]
  | _ => exact Nat.le_refl _

theorem now_le_run (v : Rush) (events : List Event) : v.now ≤ (v.run events).now := by
  induction events generalizing v with
  | nil => exact Nat.le_refl _
  | cons e events ih => exact Nat.le_trans (v.now_le_next e) (ih (v.next e))

/-- A new subscriber is a stray only where the clock does not reach its first
report. -/
theorem strays_next (h : v.strays = []) {e : Event}
    (hclock : ∀ period, e = .subscribe period → v.now + period < Ticker.clockEnd) : (v.next e).strays = [] := by
  cases e with
  | shutdown => rfl
  | offer i =>
    rcases v.next_offer_cases i with hsame | ⟨d, e, es, hd, htodo⟩
    · rw [hsame, h]
    · rw [next_offer hd htodo]
      exact h
  | land i =>
    rcases v.next_land_cases i with hsame | ⟨d, hd, htodo⟩
    · rw [hsame, h]
    · rw [next_land hd htodo]
      show v.strays.filter _ = []
      rw [h]
      rfl
  | subscribe period =>
    rcases v.next_subscribe_cases period with hsame | ⟨-, hticker, -⟩ | ⟨ticker, -, hnext⟩
    · rw [hsame, h]
    · unfold Ticker.start? at hticker
      rw [if_pos (hclock period rfl)] at hticker
      cases hticker
    · rw [hnext]
      exact h
  | _ => exact h

/-- **Where the clock reaches the first report of everybody, there are no
strays.** -/
theorem strays_run (events : List Event) (h : v.strays = [])
    (hclock : ∀ period, .subscribe period ∈ events → (v.run events).now + period < Ticker.clockEnd) :
    (v.run events).strays = [] := by
  induction events generalizing v with
  | nil => exact h
  | cons e events ih =>
    have hnow : v.now ≤ ((v.next e).run events).now := Nat.le_trans (v.now_le_next e) (now_le_run _ events)
    refine ih (strays_next h fun period heq => ?_) fun period hmem => hclock period (List.mem_cons_of_mem _ hmem)
    subst heq
    have hperiod := hclock period List.mem_cons_self
    rw [run_cons] at hperiod
    omega

end

end Rush

end CallGateway.StatsFeed
