/-
  CallGateway.Proofs.LogFeed.Custody
  ──────────────────────────────────
  **WHERE A RECORD IS, WHILE THE WORKER HANDS IT OUT.**

  A record is in the intake, then the worker has it in hand and owes it to
  those on its list, then it is in the queues of those who had room for it,
  and then it is received.  So a subscriber never has anything but what the
  worker has taken, in its order and once (`Sound.served`).  The invariant is
  `Sound`; every step of a shift keeps it, and with it every run.
-/
import CallGateway.Proofs.Gateway.Shut
import CallGateway.Proofs.LogFeed.Shift

namespace CallGateway

namespace LogFeed

open Exchange (Flight)

/-! ## §1. The queues of the subscribers. -/

/-- Nobody has two places. -/
theorem place_inj {x : Exchange CallRecord} {handles : List Entry} (h : x.Roll handles) {s t : Nat} {e : Entry}
    (hs : handles[s]? = some e) (ht : handles[t]? = some e) : s = t :=
  (List.getElem?_inj (List.getElem?_eq_some_iff.1 hs).1 h.nodup).1 (hs.trans ht.symm)

/-- Where one subscriber's queue changes, those of the others do not. -/
theorem queueOf?_modifyQueue {f : LogFeed} (h : f.exchange.Roll f.handles) {s : Nat} {e : Entry}
    (he : f.handles[s]? = some e) (g : Queue CallRecord → Queue CallRecord) (t : Nat) :
    ({ f with exchange := f.exchange.modifyQueue e.queue g } : LogFeed).queueOf? t
      = if s = t then (f.queueOf? t).map g else f.queueOf? t := by
  unfold queueOf?
  show (f.handles[t]?).bind (fun e' => (f.exchange.modifyQueue e.queue g).queue? e'.queue) = _
  cases he' : f.handles[t]? with
  | none => simp
  | some e' =>
    simp only [Option.bind_some, Exchange.queue?_modifyQueue]
    by_cases hst : s = t
    · subst hst
      obtain rfl := Option.some.inj (he.symm.trans he')
      rw [if_pos rfl, if_pos rfl]
    · rw [if_neg hst, if_neg]
      intro hqueue
      -- a queue belongs to one subscriber
      have hsame := h.eq_of_queue (List.mem_of_getElem? he) (List.mem_of_getElem? he') hqueue
      exact hst (place_inj h he (hsame ▸ he'))

/-- The feed after a subscriber has come. -/
def enter (f : LogFeed) (capacity : Nat) : LogFeed :=
  { f with
    exchange := (f.exchange.add capacity).2
    handles := f.handles ++ [⟨f.exchange.nextId, f.exchange.queues.length⟩] }

theorem queueOf?_enter {f : LogFeed} (h : f.exchange.Roll f.handles) (capacity t : Nat) :
    (f.enter capacity).queueOf? t
      = if t = f.handles.length then some { capacity := capacity } else f.queueOf? t := by
  unfold queueOf? enter
  rcases Nat.lt_trichotomy t f.handles.length with ht | rfl | ht
  · rw [if_neg (Nat.ne_of_lt ht)]
    simp only [List.getElem?_append_left ht]
    rw [List.getElem?_eq_getElem ht, Option.bind_some, Option.bind_some,
      h.queue?_add_of_mem capacity (List.getElem_mem ht)]
  · simp [Exchange.queue?_add]
  · rw [if_neg (Nat.ne_of_gt ht), List.getElem?_eq_none (by simp; omega), List.getElem?_eq_none (by omega)]
    rfl

namespace Shift

/-! ## §2. The invariant. -/

/-- The record that the worker still has for a subscriber. -/
def owed (w : Shift) (s : Nat) : List CallRecord :=
  match w.inHand with
  | some f => if (w.feed.handles[s]?).any (· ∈ f.todo) then [f.item] else []
  | none => []

/-- What is noted of a shift is what happened. -/
structure Sound (w : Shift) : Prop where
  enrolled : w.feed.exchange.Enrolled w.feed.handles
  held : w.feed.exchange.held = w.inHand.toList.map (·.todo)
  closed : w.feed.exchange.isOpen = false → w.feed.exchange.entries = []
  stopped : w.feed.running = false → w.told = true ∧ w.inHand = none ∧ w.feed.intake.drop = w.feed.intake
  -- What came into the intake was taken by the worker, or is still there.
  waiting : ∃ rest, w.accepted = w.taken ++ rest ∧ (w.feed.running = true → rest = w.feed.intake.items)
  -- A subscriber has nothing that the worker has not taken, and each record once.
  served : ∀ s, (w.receivedBy s ++ w.queued s ++ w.owed s).Sublist w.taken
  listens : ∀ s, w.IsLive s → ∃ q, w.feed.queueOf? s = some q ∧ q.reader = .listening
  -- Nobody receives anything or goes before it has come.
  fresh : ∀ s, w.feed.handles.length ≤ s → w.receivedBy s = [] ∧ s ∉ w.left

theorem sound_start (intakeCapacity subscriberBuffer : Nat) (m : Metrics) :
    (start intakeCapacity subscriberBuffer m).Sound where
  enrolled := Exchange.enrolled_empty
  held := rfl
  closed := fun h => by cases h
  stopped := fun h => by cases h
  waiting := ⟨[], rfl, fun _ => rfl⟩
  served := fun s => .refl _
  listens := fun s h => absurd h.1 (Nat.not_lt_zero s)
  fresh := fun s _ => ⟨rfl, List.not_mem_nil⟩

section

variable {w : Shift}

theorem itemsAt_concat (items : List (Nat × CallRecord)) (s : Nat) (r : CallRecord) (t : Nat) :
    Exchange.itemsAt (items ++ [(s, r)]) t = Exchange.itemsAt items t ++ if s = t then [r] else [] := by
  rw [Exchange.itemsAt_append]
  by_cases hst : s = t
  · simp [Exchange.itemsAt, hst]
  · simp [Exchange.itemsAt, hst]

/-! ## §3. Every step keeps it. -/

theorem Sound.publish (h : w.Sound) (r : CallRecord) : (w.next (.publish r)).Sound := by
  obtain ⟨rest, haccepted, hrest⟩ := h.waiting
  unfold next
  cases hverdict : w.feed.intake.verdict with
  | delivered =>
    have hrunning : w.feed.running = true := by
      by_contra hnot
      obtain ⟨-, -, hdropped⟩ := h.stopped (Bool.eq_false_iff.2 hnot)
      rw [(of_dropped hdropped).1] at hverdict
      cases hverdict
    simp only [publish_of_delivered hverdict]
    refine ⟨h.enrolled, h.held, h.closed, fun hnot => ?_, ⟨rest ++ [r], ?_, fun _ => ?_⟩, h.served, h.listens,
      h.fresh⟩
    · rw [hrunning] at hnot
      cases hnot
    · show w.accepted ++ [r] = w.taken ++ (rest ++ [r])
      rw [haccepted, List.append_assoc]
    · rw [hrest hrunning]
  | full =>
    simp only [publish_of_full hverdict]
    exact ⟨h.enrolled, h.held, h.closed, h.stopped, h.waiting, h.served, h.listens, h.fresh⟩
  | refused =>
    simp only [publish_of_refused hverdict]
    exact ⟨h.enrolled, h.held, h.closed, h.stopped, h.waiting, h.served, h.listens, h.fresh⟩

theorem Sound.tell (h : w.Sound) : (w.next .tell).Sound :=
  ⟨h.enrolled, h.held, h.closed, fun hnot => ⟨rfl, (h.stopped hnot).2⟩, h.waiting, h.served, h.listens, h.fresh⟩

theorem Sound.close (h : w.Sound) : (w.next .close).Sound :=
  ⟨h.enrolled.mono (Nat.le_refl _) (Nat.le_refl _) (List.nil_sublist _)
      fun es hes => ⟨es, List.mem_append_left _ hes, .refl es⟩,
    h.held, fun _ => rfl, h.stopped, h.waiting, h.served, h.listens, h.fresh⟩

/-- Where one subscriber's queue changes, it is enough to look at that
subscriber: it does not get more than was there for it. -/
theorem Sound.touch (h : w.Sound) (w' : Shift) {s : Nat} {e : Entry} (he : w.feed.handles[s]? = some e)
    {g : Queue CallRecord → Queue CallRecord}
    (hqueue : ∀ t, w'.feed.queueOf? t = if s = t then (w.feed.queueOf? t).map g else w.feed.queueOf? t)
    (hhandles : w'.feed.handles = w.feed.handles) (htaken : w'.taken = w.taken)
    (hothers : ∀ t, s ≠ t → w'.receivedBy t = w.receivedBy t ∧ w'.owed t = w.owed t ∧ (t ∈ w'.left ↔ t ∈ w.left))
    (hown : ∀ q, w.feed.queueOf? s = some q →
      (w'.receivedBy s ++ (g q).items ++ w'.owed s).Sublist (w.receivedBy s ++ q.items ++ w.owed s)
        ∧ (s ∉ w'.left → s ∉ w.left ∧ (q.reader = .listening → (g q).reader = .listening))) :
    (∀ t, (w'.receivedBy t ++ w'.queued t ++ w'.owed t).Sublist w'.taken)
      ∧ (∀ t, w'.IsLive t → ∃ q, w'.feed.queueOf? t = some q ∧ q.reader = .listening)
      ∧ ∀ t, w'.feed.handles.length ≤ t → w'.receivedBy t = [] ∧ t ∉ w'.left := by
  have hs : s < w.feed.handles.length := (List.getElem?_eq_some_iff.1 he).1
  obtain ⟨q, hq⟩ : ∃ q, w.feed.queueOf? s = some q := by
    obtain ⟨q, hq⟩ := h.enrolled.ordered.exists_queue (List.mem_of_getElem? he)
    exact ⟨q, by unfold queueOf?; rw [he]; exact hq⟩
  obtain ⟨hserved, hleft⟩ := hown q hq
  refine ⟨fun t => ?_, fun t ht => ?_, fun t ht => ?_⟩
  · have hold := h.served t
    unfold queued at hold ⊢
    rw [htaken, hqueue]
    by_cases hst : s = t
    · subst hst
      rw [hq] at hold
      rw [if_pos rfl, hq]
      exact hserved.trans hold
    · obtain ⟨hreceived, howed, -⟩ := hothers t hst
      rw [if_neg hst, hreceived, howed]
      exact hold
  · obtain ⟨hlt, hnot⟩ := ht
    rw [hhandles] at hlt
    rw [hqueue]
    by_cases hst : s = t
    · subst hst
      obtain ⟨hnot, hlistening⟩ := hleft hnot
      obtain ⟨q', hq', hreader⟩ := h.listens s ⟨hlt, hnot⟩
      obtain rfl := Option.some.inj (hq.symm.trans hq')
      rw [if_pos rfl, hq]
      exact ⟨g q, rfl, hlistening hreader⟩
    · rw [if_neg hst]
      exact h.listens t ⟨hlt, fun hmem => hnot ((hothers t hst).2.2.2 hmem)⟩
  · rw [hhandles] at ht
    have hst : s ≠ t := by omega
    obtain ⟨hreceived, -, hmem⟩ := hothers t hst
    obtain ⟨hnone, hnot⟩ := h.fresh t ht
    exact ⟨hreceived.trans hnone, fun hleft => hnot (hmem.1 hleft)⟩

theorem Sound.receive (h : w.Sound) (s : Nat) : (w.next (.receive s)).Sound := by
  unfold next
  rcases w.feed.receive_cases s with ⟨r, e, x', he, hfound, hreceive⟩ | hreceive | hreceive
  · obtain ⟨q, rest, hq, hitems, -, rfl⟩ := Exchange.of_receive_eq_item hfound
    have hq : w.feed.queueOf? s = some q := by
      unfold queueOf?
      rw [he]
      exact hq
    simp only [hreceive]
    have hreceived := itemsAt_concat w.received s r
    obtain ⟨hserved, hlistens, hfresh⟩ := h.touch
      { w with
        feed := { w.feed with exchange := w.feed.exchange.modifyQueue e.queue fun _ => { q with items := rest } }
        received := w.received ++ [(s, r)] }
      he (queueOf?_modifyQueue h.enrolled.ordered he _) rfl rfl
      (fun t hst => ⟨(hreceived t).trans (by rw [if_neg hst, List.append_nil]; rfl), rfl, Iff.rfl⟩)
      (fun q' hq' => by
        obtain rfl := Option.some.inj (hq.symm.trans hq')
        refine ⟨List.Sublist.append_right ?_ _, fun hnot => ⟨hnot, id⟩⟩
        show (Exchange.itemsAt (w.received ++ [(s, r)]) s ++ rest).Sublist (w.receivedBy s ++ q.items)
        rw [hreceived, if_pos rfl, hitems, List.append_assoc]
        exact .refl _)
    exact ⟨h.enrolled.modifyQueue e.queue _, h.held, h.closed, h.stopped, h.waiting, hserved, hlistens, hfresh⟩
  · simp only [hreceive]
    exact h
  · simp only [hreceive]
    exact h

/-- Nobody is struck off by mistake, and it makes no difference to the queues. -/
theorem Sound.filter (h : w.Sound) (p : Entry → Bool) : ({ w with
    feed := { w.feed with exchange := { w.feed.exchange with entries := w.feed.exchange.entries.filter p } } } :
    Shift).Sound where
  enrolled := h.enrolled.mono (Nat.le_refl _) (Nat.le_refl _) List.filter_sublist
    fun es hes => ⟨es, List.mem_append_left _ hes, .refl es⟩
  held := h.held
  closed := fun hclosed => by
    show w.feed.exchange.entries.filter p = []
    rw [h.closed hclosed]
    rfl
  stopped := h.stopped
  waiting := h.waiting
  served := h.served
  listens := h.listens
  fresh := h.fresh

theorem Sound.drop (h : w.Sound) (s : Nat) : (w.next (.drop s)).Sound := by
  cases he : w.feed.handles[s]? with
  | none =>
    have hs : ¬s < w.feed.handles.length := Nat.not_lt.2 (List.getElem?_eq_none_iff.1 he)
    have hdrop : w.feed.drop s = w.feed := by
      unfold LogFeed.drop
      rw [he]
    unfold next
    simp only [hdrop, if_neg hs]
    exact h
  | some e =>
    have hs : s < w.feed.handles.length := (List.getElem?_eq_some_iff.1 he).1
    have hdrop : w.feed.drop s
        = { w.feed with exchange := (w.feed.exchange.remove e.id).2.dropReader e.queue } := by
      unfold LogFeed.drop
      rw [he]
    unfold next
    simp only [hdrop, if_pos hs]
    have hfilter := h.filter (·.id != e.id)
    obtain ⟨hserved, hlistens, hfresh⟩ := h.touch
      { w with
        feed := { w.feed with exchange := (w.feed.exchange.remove e.id).2.dropReader e.queue }
        left := w.left ++ [s] }
      he (queueOf?_modifyQueue h.enrolled.ordered he Queue.drop) rfl rfl
      (fun t hst => ⟨rfl, rfl, by simp [Ne.symm hst]⟩)
      (fun q _ => ⟨((List.nil_sublist _).append_left _).append_right _,
        fun hnot => absurd (List.mem_append_right _ List.mem_cons_self) hnot⟩)
    exact ⟨hfilter.enrolled.modifyQueue e.queue _, h.held, hfilter.closed, h.stopped, h.waiting, hserved,
      hlistens, hfresh⟩

/-- Nobody is noted down for a record before it has come. -/
theorem Sound.todo_sublist (h : w.Sound) {f : Flight CallRecord} (hf : w.inHand = some f) :
    f.todo.Sublist w.feed.handles := by
  have hheld := h.held
  rw [hf] at hheld
  exact h.enrolled.held f.todo (by rw [hheld]; exact List.mem_cons_self)

/-- A subscriber that comes finds an empty queue, and the worker has nothing for
it yet. -/
theorem Sound.enter (h : w.Sound) (hopen : w.feed.exchange.isOpen = true) (capacity : Nat) :
    ({ w with feed := w.feed.enter capacity } : Shift).Sound := by
  have hroll := h.enrolled.ordered
  have hadd := Exchange.add_of_open hopen capacity
  have hqueue := queueOf?_enter hroll capacity
  have hqueued : ∀ t, ({ w with feed := w.feed.enter capacity } : Shift).queued t = w.queued t := by
    intro t
    unfold queued
    rw [hqueue]
    split
    · rename_i ht
      have hnone : w.feed.handles[t]? = none := List.getElem?_eq_none (Nat.le_of_eq ht.symm)
      unfold queueOf?
      rw [hnone]
      rfl
    · rfl
  have howed : ∀ t, ({ w with feed := w.feed.enter capacity } : Shift).owed t = w.owed t := by
    intro t
    unfold owed
    cases hf : w.inHand with
    | none => rfl
    | some f =>
      have hnot : ⟨w.feed.exchange.nextId, w.feed.exchange.queues.length⟩ ∉ f.todo := fun hmem =>
        Nat.lt_irrefl _ (hroll.below _ ((h.todo_sublist hf).subset hmem)).1
      show (if ((w.feed.handles ++ [_])[t]?).any (· ∈ f.todo) then [f.item] else []) = _
      rcases Nat.lt_trichotomy t w.feed.handles.length with ht | rfl | ht
      · rw [List.getElem?_append_left ht]
      · simp [hnot]
      · rw [List.getElem?_eq_none (by simp; omega), List.getElem?_eq_none (by omega)]
  refine ⟨?_, ?_, ?_, h.stopped, h.waiting, fun t => ?_, fun t ht => ?_, fun t ht => ?_⟩
  · have henrolled := h.enrolled.add capacity
    rw [if_pos hopen] at henrolled
    exact henrolled
  · show (w.feed.exchange.add capacity).2.held = _
    rw [hadd]
    exact h.held
  · intro hclosed
    have hclosed : (w.feed.exchange.add capacity).2.isOpen = false := hclosed
    rw [hadd] at hclosed
    rw [hopen] at hclosed
    cases hclosed
  · rw [hqueued, howed]
    exact h.served t
  · show ∃ q, (w.feed.enter capacity).queueOf? t = some q ∧ q.reader = .listening
    rw [hqueue]
    split
    · exact ⟨_, rfl, rfl⟩
    · rename_i hne
      have hlt : t < (w.feed.handles ++ [_]).length := ht.1
      rw [List.length_append, List.length_singleton] at hlt
      exact h.listens t ⟨by omega, ht.2⟩
  · refine h.fresh t (Nat.le_trans ?_ ht)
    show w.feed.handles.length ≤ (w.feed.handles ++ [_]).length
    simp

theorem Sound.subscribe (h : w.Sound) : (w.next .subscribe).Sound := by
  show ({ w with feed := w.feed.subscribe.2 } : Shift).Sound
  obtain ⟨reason, heq⟩ | heq | ⟨hopen, heq⟩ := w.feed.subscribe_cases
  · rw [heq]
    exact h
  · rw [heq]
    exact h
  · rw [heq]
    exact h.enter hopen w.feed.subscriberBuffer

theorem owed_of_inHand {f : Flight CallRecord} (hf : w.inHand = some f) (t : Nat) :
    w.owed t = if (w.feed.handles[t]?).any (· ∈ f.todo) then [f.item] else [] := by
  unfold owed
  rw [hf]

/-- The worker offers its record to the next subscriber, and owes it to the
others on its list. -/
theorem Sound.offer (h : w.Sound) {f : Flight CallRecord} {e : Entry} {es : List Entry} (hf : w.inHand = some f)
    (htodo : f.todo = e :: es) : w.work.Sound := by
  have hsublist := h.todo_sublist hf
  rw [htodo] at hsublist
  have hroll := h.enrolled.ordered
  obtain ⟨hnot, -⟩ := List.nodup_cons.1 (hroll.nodup.sublist hsublist)
  obtain ⟨s, he⟩ := List.mem_iff_getElem?.1 (hsublist.subset List.mem_cons_self)
  have hheld := h.held
  rw [hf] at hheld
  -- the subscriber itself is owed the record until now, and the others still are
  have howed : ∀ t, (if (w.feed.handles[t]?).any (· ∈ es) then [f.item] else [])
      = if s = t then [] else w.owed t := by
    intro t
    rw [owed_of_inHand hf, htodo]
    by_cases hst : s = t
    · subst hst
      rw [if_pos rfl, he]
      exact if_neg (by simpa using hnot)
    · rw [if_neg hst]
      cases he' : w.feed.handles[t]? with
      | none => rfl
      | some e' =>
        have hne : e' ≠ e := fun heq => hst (place_inj hroll he (heq ▸ he'))
        simp [hne]
  obtain ⟨hserved, hlistens, hfresh⟩ := h.touch
    { w with
      feed := { w.feed with
        exchange := { w.feed.exchange.modifyQueue e.queue (·.offer f.item) with held := [es] } }
      inHand := some ({ f with todo := es }.note e (w.feed.exchange.verdictOf e)) }
    he (queueOf?_modifyQueue hroll he (·.offer f.item)) rfl rfl
    (fun t hst =>
      ⟨rfl, by rw [owed_of_inHand rfl, Flight.note_todo, Flight.note_item, howed, if_neg hst], Iff.rfl⟩)
    (fun q hq => by
      refine ⟨?_, fun hnot => ⟨hnot, (q.reader_offer f.item).trans⟩⟩
      rw [owed_of_inHand rfl, Flight.note_todo, Flight.note_item, howed, if_pos rfl, q.items_offer,
        List.append_nil, ← List.append_assoc]
      refine List.Sublist.append_left ?_ _
      have howe : w.owed s = [f.item] := by
        rw [owed_of_inHand hf, he, htodo]
        exact if_pos (by simp)
      rw [howe]
      split
      · exact .refl _
      · exact List.nil_sublist _)
  rw [work_of_offer hf htodo]
  refine ⟨(h.enrolled.modifyQueue e.queue _).mono (Nat.le_refl _) (Nat.le_refl _) (.refl _) fun es' hes' => ?_,
    ?_, h.closed, fun hstopped => ?_, h.waiting, hserved, hlistens, hfresh⟩
  · obtain rfl := List.mem_singleton.1 hes'
    refine ⟨e :: es', List.mem_append_left _ ?_, List.sublist_cons_self e es'⟩
    show e :: es' ∈ w.feed.exchange.held
    rw [hheld, ← htodo]
    exact List.mem_cons_self
  · show [es] = [(Flight.note { f with todo := es } e (w.feed.exchange.verdictOf e)).todo]
    rw [Flight.note_todo]
  · rw [(h.stopped hstopped).2.1] at hf
    cases hf

/-- The worker is done with a record that it owes to nobody any more. -/
theorem Sound.land (h : w.Sound) {f : Flight CallRecord} (hf : w.inHand = some f) (htodo : f.todo = []) :
    w.work.Sound := by
  rw [work_of_land hf htodo]
  have howed : ∀ t, w.owed t = [] := by
    intro t
    rw [owed_of_inHand hf, htodo]
    cases w.feed.handles[t]? <;> simp
  have hfilter := h.filter fun e => !f.failed.contains e.id
  refine ⟨hfilter.enrolled.mono (Nat.le_refl _) (Nat.le_refl _) (.refl _)
      (fun es hes => absurd hes List.not_mem_nil),
    rfl, hfilter.closed, fun hstopped => ?_, h.waiting, fun t => ?_, h.listens, h.fresh⟩
  · rw [(h.stopped hstopped).2.1] at hf
    cases hf
  · have hserved := h.served t
    rw [howed] at hserved
    exact hserved

/-- The worker takes a record and owes it to all who are registered. -/
theorem Sound.launch (h : w.Sound) {r : CallRecord} (hinHand : w.inHand = none) (htold : w.told = false)
    (hdue : w.feed.due? = some r) : w.work.Sound := by
  obtain ⟨hrunning, rest, hitems, hreceive⟩ := of_due?_eq_some hdue
  obtain ⟨more, haccepted, hmore⟩ := h.waiting
  rw [work_of_due hinHand hrunning htold hreceive]
  have hheld := h.held
  rw [hinHand] at hheld
  refine ⟨h.enrolled.mono (Nat.le_refl _) (Nat.le_refl _) (.refl _) fun es hes => ?_, ?_, h.closed,
    fun hstopped => ?_, ⟨rest, ?_, fun _ => rfl⟩, fun t => ?_, h.listens, h.fresh⟩
  · refine ⟨es, ?_, .refl es⟩
    rw [List.mem_append, List.mem_singleton]
    exact (List.mem_cons.1 hes).symm
  · show w.feed.exchange.entries :: w.feed.exchange.held = [w.feed.exchange.entries]
    rw [hheld]
    rfl
  · exact absurd (hrunning.symm.trans hstopped) nofun
  · show w.accepted = w.taken ++ [r] ++ rest
    rw [haccepted, hmore hrunning, hitems, List.append_assoc]
    rfl
  · have hserved := h.served t
    have hnone : w.owed t = [] := by
      unfold owed
      rw [hinHand]
    rw [hnone, List.append_nil] at hserved
    rw [owed_of_inHand rfl]
    refine hserved.append ?_
    split
    · exact .refl _
    · exact List.nil_sublist _

/-- **Every step of the worker keeps it.** -/
theorem Sound.work (h : w.Sound) : w.work.Sound := by
  cases hf : w.inHand with
  | some f =>
    cases htodo : f.todo with
    | nil => exact h.land hf htodo
    | cons e es => exact h.offer hf htodo
  | none =>
    by_cases hdue : w.feed.running = true ∧ w.told = true
    · rw [work_of_told hf hdue.1 hdue.2]
      exact ⟨h.enrolled, h.held, h.closed, fun _ => ⟨hdue.2, hf, rfl⟩, by
        obtain ⟨rest, haccepted, -⟩ := h.waiting
        exact ⟨rest, haccepted, nofun⟩, h.served, h.listens, h.fresh⟩
    · have htold : w.feed.running = true → w.told = false := fun hrunning => by
        simpa [hrunning] using hdue
      cases hdue : w.feed.due? with
      | some r => exact h.launch hf (htold (of_due?_eq_some hdue).1) hdue
      | none =>
        rw [work_of_idle hf hdue htold]
        exact h

/-- **Every step keeps the invariant**, -/
theorem Sound.next (h : w.Sound) (e : Event) : (w.next e).Sound := by
  cases e with
  | publish r => exact h.publish r
  | work => exact h.work
  | subscribe => exact h.subscribe
  | receive s => exact h.receive s
  | drop s => exact h.drop s
  | tell => exact h.tell
  | close => exact h.close

/-- and so does every run. -/
theorem Sound.run (h : w.Sound) (events : List Event) : (w.run events).Sound :=
  run_induction (fun _ e hw => hw.next e) events h

end

end Shift

end LogFeed

end CallGateway
