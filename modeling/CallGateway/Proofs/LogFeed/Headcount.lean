/-
  CallGateway.Proofs.LogFeed.Headcount
  ────────────────────────────────────
  **HOW MANY SUBSCRIBERS A FEED HAS.**

  Before the shutdown, the subscribers that are registered are those who have
  come and have not gone, in the order in which they came, at every moment of a
  shift (`Manned.ids_eq`).  The worker strikes off nobody, however much a
  subscriber lags behind, since those who refused its record have gone before.
-/
import CallGateway.Proofs.Exchange.Presence
import CallGateway.Proofs.LogFeed.Closing

namespace CallGateway.LogFeed.Shift

open Exchange (Flight)

/-- The entries of the subscribers that have come and have not gone. -/
def live (w : Shift) : List Entry := Exchange.present w.feed.handles w.left

/-! ## §1. The invariant. -/

/-- Registered are those who have come and have not gone, and the worker will
strike off none of them. -/
structure Manned (w : Shift) : Prop where
  presence : w.feed.exchange.Presence w.feed.handles w.live []
  fair : ∀ f, w.inHand = some f → w.feed.exchange.Fair w.feed.handles f

theorem manned_start (intakeCapacity subscriberBuffer : Nat) (m : Metrics) :
    (start intakeCapacity subscriberBuffer m).Manned where
  presence := Exchange.presence_empty
  fair := nofun

section

variable {w : Shift}

/-- The intake, the metrics and the notes make no difference. -/
theorem Manned.congr (h : w.Manned) {w' : Shift} (hexchange : w'.feed.exchange = w.feed.exchange)
    (hhandles : w'.feed.handles = w.feed.handles) (hleft : w'.left = w.left) (hinHand : w'.inHand = w.inHand) :
    w'.Manned where
  presence := by
    unfold live
    rw [hexchange, hhandles, hleft]
    exact h.presence
  fair := by
    rw [hexchange, hhandles, hinHand]
    exact h.fair

theorem Manned.publish (h : w.Manned) (r : CallRecord) : (w.next (.publish r)).Manned := by
  have hframe : (w.feed.publish r w.metrics).2.1.exchange = w.feed.exchange
      ∧ (w.feed.publish r w.metrics).2.1.handles = w.feed.handles := by
    unfold LogFeed.publish
    split <;> exact ⟨rfl, rfl⟩
  exact h.congr hframe.1 hframe.2 rfl rfl

/-- The worker offers its record to the next subscriber. -/
theorem Manned.offer (h : w.Manned) {f : Flight CallRecord} {e : Entry} {es : List Entry} (hf : w.inHand = some f)
    (htodo : f.todo = e :: es) : w.work.Manned := by
  have hfair := (h.fair f hf).offerNext htodo
  have hpresence := (h.presence.modifyQueue e.queue fun q _ => q.reader_offer f.item).held [es]
  rw [Exchange.offerNext_eq htodo] at hfair
  rw [work_of_offer hf htodo]
  refine ⟨hpresence, fun f' hf' => ?_⟩
  obtain rfl := Option.some.inj hf'
  exact hfair.mono (List.Subset.refl _) fun e _ hx => hx

/-- The worker has offered its record to all, and strikes off nobody. -/
theorem Manned.land (h : w.Manned) {f : Flight CallRecord} (hf : w.inHand = some f) (htodo : f.todo = []) :
    w.work.Manned := by
  have hspares : ∀ e ∈ w.live, e.id ∉ f.failed := fun e he =>
    (h.fair f hf).spares h.presence (List.Subset.refl _) he
  rw [work_of_land hf htodo]
  exact ⟨(h.presence.strike hspares (.refl _) nofun).held [], nofun⟩

theorem Manned.work (h : w.Manned) : w.work.Manned := by
  cases hf : w.inHand with
  | some f =>
    cases htodo : f.todo with
    | nil => exact h.land hf htodo
    | cons e es => exact h.offer hf htodo
  | none =>
    by_cases hdue : w.feed.running = true ∧ w.told = true
    · rw [work_of_told hf hdue.1 hdue.2]
      exact h.congr rfl rfl rfl rfl
    · have htold : w.feed.running = true → w.told = false := fun hrunning => by
        simpa [hrunning] using hdue
      cases hdue : w.feed.due? with
      | none =>
        rw [work_of_idle hf hdue htold]
        exact h
      | some r =>
        obtain ⟨hrunning, rest, -, hreceive⟩ := of_due?_eq_some hdue
        rw [work_of_due hf hrunning (htold hrunning) hreceive]
        refine ⟨h.presence.held _, fun f hf => ?_⟩
        obtain rfl := Option.some.inj hf
        exact (w.feed.exchange.fair_launch r).mono h.presence.onRoll.entries.subset fun e _ hx => hx

theorem Manned.subscribe (h : w.Manned) (hs : w.Sound) : (w.next .subscribe).Manned := by
  show ({ w with feed := w.feed.subscribe.2 } : Shift).Manned
  obtain ⟨reason, heq⟩ | heq | ⟨hopen, heq⟩ := w.feed.subscribe_cases
  · rw [heq]
    exact h
  · rw [heq]
    exact h
  · have hpresence := h.presence.add hopen w.feed.subscriberBuffer
    rw [heq]
    refine ⟨?_, fun f hf => ?_⟩
    · unfold live
      rw [Exchange.present_concat (hs.fresh _ (Nat.le_refl _)).2]
      exact hpresence
    · refine (h.fair f hf).mono (List.subset_append_left _ _) fun e he => ?_
      exact (h.presence.onRoll.isListening_add_iff _ he).1

theorem Manned.receive (h : w.Manned) (s : Nat) : (w.next (.receive s)).Manned := by
  unfold next
  rcases w.feed.receive_cases s with ⟨r, e, x', -, hfound, hreceive⟩ | hreceive | hreceive
  · have hpresence := h.presence.receive e.queue
    rw [hfound] at hpresence
    simp only [hreceive]
    refine ⟨hpresence, fun f hf => (h.fair f hf).mono (List.Subset.refl _) fun e' _ => ?_⟩
    obtain ⟨q, rest, hq, -, -, rfl⟩ := Exchange.of_receive_eq_item hfound
    refine Exchange.isListening_of_modifyQueue fun q' hq' hreader => ?_
    obtain rfl := Option.some.inj (hq.symm.trans hq')
    exact hreader
  · simp only [hreceive]
    exact h
  · simp only [hreceive]
    exact h

theorem Manned.drop (h : w.Manned) (s : Nat) : (w.next (.drop s)).Manned := by
  cases he : w.feed.handles[s]? with
  | none =>
    have hs : ¬s < w.feed.handles.length := Nat.not_lt.2 (List.getElem?_eq_none_iff.1 he)
    unfold next LogFeed.drop
    simp only [he, if_neg hs]
    exact h
  | some e =>
    have hs : s < w.feed.handles.length := (List.getElem?_eq_some_iff.1 he).1
    have hpresence := h.presence.leave (List.mem_of_getElem? he) List.not_mem_nil
    have hlive := Exchange.present_leave w.left h.presence.onRoll.nodup he
    unfold next LogFeed.drop
    simp only [he, if_pos hs]
    refine ⟨?_, fun f hf => (h.fair f hf).mono (List.Subset.refl _) fun e' _ => ?_⟩
    · unfold live
      rw [hlive]
      exact hpresence
    · refine Exchange.isListening_of_modifyQueue (x := (w.feed.exchange.remove e.id).2) (f := Queue.drop) ?_
      intro q _ hreader
      cases hreader

/-- **Every step keeps the invariant.** -/
theorem Manned.next (h : w.Manned) (hs : w.Sound) (e : Event) : (w.next e).Manned := by
  cases e with
  | publish r => exact h.publish r
  | work => exact h.work
  | subscribe => exact h.subscribe hs
  | receive s => exact h.receive s
  | drop s => exact h.drop s
  | tell => exact h.congr rfl rfl rfl rfl
  | close => exact ⟨h.presence.close, fun f hf => (h.fair f hf).mono (List.Subset.refl _) fun e _ hx => hx⟩

theorem Manned.run (h : w.Manned) (hs : w.Sound) (events : List Event) : (w.run events).Manned := by
  induction events generalizing w with
  | nil => exact h
  | cons e events ih => exact ih (h.next hs e) (hs.next e)

/-! ## §2. What it comes to. -/

/-- Nothing but a shutdown closes a feed, and nothing opens it. -/
theorem isOpen_next (w : Shift) {e : Event} (he : e ≠ .close) :
    (w.next e).feed.exchange.isOpen = w.feed.exchange.isOpen := by
  cases e with
  | close => exact absurd rfl he
  | tell => rfl
  | work => exact w.work_isOpen
  | publish r =>
    show (w.feed.publish r w.metrics).2.1.exchange.isOpen = _
    unfold LogFeed.publish
    split <;> rfl
  | subscribe =>
    show w.feed.subscribe.2.exchange.isOpen = _
    obtain ⟨reason, heq⟩ | heq | ⟨hopen, heq⟩ := w.feed.subscribe_cases
    · rw [heq]
    · rw [heq]
    · rw [heq]
      show (w.feed.exchange.add w.feed.subscriberBuffer).2.isOpen = _
      rw [Exchange.add_of_open hopen]
  | receive s =>
    unfold next
    rcases w.feed.receive_cases s with ⟨r, e, x', -, hfound, hreceive⟩ | hreceive | hreceive
    · obtain ⟨q, rest, -, -, -, rfl⟩ := Exchange.of_receive_eq_item hfound
      simp only [hreceive]
      rfl
    · simp only [hreceive]
    · simp only [hreceive]
  | drop s =>
    show (w.feed.drop s).exchange.isOpen = _
    unfold LogFeed.drop
    split <;> rfl

/-- A feed is open until a shutdown closes it. -/
theorem isOpen_run (w : Shift) (events : List Event) :
    (w.run events).feed.exchange.isOpen = (w.feed.exchange.isOpen && decide (.close ∉ events)) := by
  induction events generalizing w with
  | nil => simp
  | cons e events ih =>
    rw [run_cons, ih]
    by_cases he : e = .close
    · subst he
      rw [show (w.next .close).feed.exchange.isOpen = false from rfl]
      simp
    · rw [w.isOpen_next he]
      simp [Ne.symm he]

/-- **Before the shutdown, registered are those who have come and have not gone**, in
the order in which they came. -/
theorem Manned.ids_eq (h : w.Manned) (hopen : w.feed.exchange.isOpen = true) :
    w.feed.exchange.ids = w.live.map (·.id) := by
  unfold Exchange.ids
  rw [h.presence.entries_eq hopen]

/-- The worker strikes off nobody. -/
theorem Manned.ids_work (h : w.Manned) (hopen : w.feed.exchange.isOpen = true) :
    (w.next .work).feed.exchange.ids = w.feed.exchange.ids := by
  have hlive : w.work.live = w.live := by
    unfold Shift.work
    split
    · split <;> rfl
    · split
      · rfl
      · split
        · rfl
        · split <;> rfl
  show w.work.feed.exchange.ids = _
  rw [h.work.ids_eq (w.work_isOpen.trans hopen), h.ids_eq hopen, hlive]

/-- Who goes is struck off at once, and nobody else is. -/
theorem Manned.ids_drop (h : w.Manned) (hopen : w.feed.exchange.isOpen = true) {s : Nat} {e : Entry}
    (he : w.feed.handles[s]? = some e) (hs : s ∉ w.left) :
    (w.feed.exchange.remove e.id).1 = true
      ∧ (w.next (.drop s)).feed.exchange.ids = w.feed.exchange.ids.erase e.id := by
  obtain ⟨hfound, hids⟩ := h.presence.remove_of_mem hopen (Exchange.mem_present_iff.2 ⟨s, he, hs⟩)
  refine ⟨hfound, Eq.trans ?_ hids⟩
  unfold Shift.next LogFeed.drop
  simp only [he]
  rfl

/-- After the shutdown nobody is registered. -/
theorem Manned.size_eq (h : w.Manned) :
    w.feed.size = if w.feed.exchange.isOpen then w.live.length else 0 := by
  unfold LogFeed.size
  cases hopen : w.feed.exchange.isOpen with
  | true => exact h.presence.size_eq hopen
  | false =>
    unfold Exchange.size
    rw [h.presence.closed hopen]
    rfl

end

end CallGateway.LogFeed.Shift
