/-
  CallGateway.Proofs.LogFeed.Closing
  ──────────────────────────────────
  **A SHUTDOWN IS CLEAN, WHEREVER THE WORKER WAS.**

  The worker of a feed may be in the middle of a record when it is told to
  stop, with more in the intake, and the subscribers may be struck off before
  it is done.  It takes no other record from then on and stops after so many
  steps (`Sound.run_of_told`).  Once it has stopped and the feed is closed,
  nobody is registered or noted down (`Sound.unreachable`): only the
  subscribers themselves change anything, each of them its own queue
  (`Sound.next_of_over`).
-/
import CallGateway.Proofs.LogFeed.Custody

namespace CallGateway

namespace LogFeed

open Exchange (Flight)

namespace Shift

section

variable {w : Shift}

/-! ## §1. The worker comes to its end. -/

/-- Only the worker has a record in hand, takes one, or stops. -/
theorem next_of_ne_work (w : Shift) {e : Event} (he : e ≠ .work) :
    (w.next e).inHand = w.inHand ∧ (w.next e).feed.running = w.feed.running ∧ (w.next e).taken = w.taken
      ∧ (w.told = true → (w.next e).told = true) := by
  cases e with
  | work => exact absurd rfl he
  | publish r =>
    refine ⟨rfl, ?_, rfl, id⟩
    show (w.feed.publish r w.metrics).2.1.running = w.feed.running
    unfold LogFeed.publish
    split <;> rfl
  | subscribe =>
    refine ⟨rfl, ?_, rfl, id⟩
    show w.feed.subscribe.2.running = w.feed.running
    unfold LogFeed.subscribe
    split
    · rfl
    · split <;> rfl
  | receive s =>
    obtain ⟨exchange, received, -, hnext⟩ := w.next_receive s
    rw [hnext]
    exact ⟨rfl, rfl, rfl, id⟩
  | drop s =>
    refine ⟨rfl, ?_, rfl, id⟩
    show (w.feed.drop s).running = w.feed.running
    unfold LogFeed.drop
    split <;> rfl
  | tell => exact ⟨rfl, rfl, rfl, fun _ => rfl⟩
  | close => exact ⟨rfl, rfl, rfl, id⟩

/-- A worker that was told to stop takes no other record, and is one step
nearer to its end. -/
theorem Sound.work_of_told (h : w.Sound) (htold : w.told = true) :
    w.work.told = true ∧ w.work.taken = w.taken ∧ w.work.stepsLeft = w.stepsLeft - 1 := by
  cases hf : w.inHand with
  | some f =>
    have hrunning : w.feed.running = true := by
      by_contra hnot
      rw [(h.stopped (Bool.eq_false_iff.2 hnot)).2.1] at hf
      cases hf
    cases htodo : f.todo with
    | nil =>
      rw [work_of_land hf htodo]
      refine ⟨htold, rfl, ?_⟩
      show (if w.feed.running then 1 else 0) + 0 = _
      rw [stepsLeft, hf, hrunning]
      simp [htodo]
    | cons e es =>
      rw [work_of_offer hf htodo]
      refine ⟨htold, rfl, ?_⟩
      show (if w.feed.running then 1 else 0)
        + ((Flight.note { f with todo := es } e (w.feed.exchange.verdictOf e)).todo.length + 1) = _
      rw [Flight.note_todo, stepsLeft, hf, hrunning]
      simp only [htodo, List.length_cons]
      omega
  | none =>
    cases hrunning : w.feed.running with
    | true =>
      rw [LogFeed.Shift.work_of_told hf hrunning htold]
      refine ⟨htold, rfl, ?_⟩
      simp [stepsLeft, hf, hrunning]
    | false =>
      have hidle : w.work = w := by
        unfold Shift.work
        rw [hf]
        simp [hrunning]
      rw [hidle]
      refine ⟨htold, rfl, ?_⟩
      simp [stepsLeft, hf, hrunning]

theorem Sound.next_of_told (h : w.Sound) (htold : w.told = true) (e : Event) :
    (w.next e).told = true ∧ (w.next e).taken = w.taken
      ∧ (w.next e).stepsLeft = w.stepsLeft - if e = .work then 1 else 0 := by
  by_cases he : e = .work
  · subst he
    exact h.work_of_told htold
  · obtain ⟨hinHand, hrunning, htaken, hkept⟩ := w.next_of_ne_work he
    refine ⟨hkept htold, htaken, ?_⟩
    rw [if_neg he, stepsLeft, hinHand, hrunning]
    rfl

/-- **A worker that was told to stop** takes no other record, and stops after
so many steps of its own. -/
theorem Sound.run_of_told (h : w.Sound) (htold : w.told = true) (events : List Event) :
    (w.run events).told = true ∧ (w.run events).taken = w.taken
      ∧ (w.run events).stepsLeft = w.stepsLeft - events.count .work := by
  induction events generalizing w with
  | nil => exact ⟨htold, rfl, rfl⟩
  | cons e events ih =>
    obtain ⟨htold', htaken, hleft⟩ := h.next_of_told htold e
    obtain ⟨htold'', htaken', hleft'⟩ := ih (h.next e) htold'
    refine ⟨htold'', htaken'.trans htaken, ?_⟩
    rw [run_cons, hleft', hleft, List.count_cons]
    by_cases he : e = .work
    · simp only [he, if_true, beq_self_eq_true]
      omega
    · simp [he]

theorem running_of_stepsLeft (h : w.stepsLeft = 0) : w.feed.running = false := by
  unfold stepsLeft at h
  cases hrunning : w.feed.running with
  | false => rfl
  | true =>
    rw [hrunning, if_pos rfl] at h
    omega

/-- **A shutdown with nothing in between** is that of the feed, also where the
worker has stopped before. -/
theorem Sound.run_shutdown (h : w.Sound) (hinHand : w.inHand = none) :
    w.run [.tell, .close, .work] = { w with feed := w.feed.shutdown, told := true } := by
  cases hrunning : w.feed.running with
  | true => exact LogFeed.Shift.run_shutdown hinHand hrunning
  | false =>
    obtain ⟨-, -, hdropped⟩ := h.stopped hrunning
    have hshutdown : w.feed.shutdown = { w.feed with exchange := w.feed.exchange.close.2 } := by
      show ({ w.feed with running := false, intake := w.feed.intake.drop, exchange := w.feed.exchange.close.2 } :
        LogFeed) = _
      rw [hdropped, ← hrunning]
    have hidle : ((w.next .tell).next .close).feed.due? = none := by
      show LogFeed.due? { w.feed with exchange := w.feed.exchange.close.2 } = none
      unfold due?
      simp only [hrunning]
    rw [hshutdown]
    exact work_of_idle (w := (w.next .tell).next .close) hinHand hidle fun hrunning' =>
      absurd (hrunning'.symm.trans hrunning) nofun

/-! ## §2. Once it is over. -/

/-- **A feed that is closed and has stopped cannot reach anybody.** -/
theorem Sound.unreachable (h : w.Sound) (hover : w.IsOver) (k : Nat) : w.feed.exchange.hasSender k = false := by
  obtain ⟨-, hinHand, -⟩ := h.stopped hover.2
  have hheld := h.held
  rw [hinHand] at hheld
  unfold Exchange.hasSender
  rw [h.closed hover.1, hheld]
  rfl

theorem queued_of_handle {s : Nat} {e : Entry} {q : Queue CallRecord} (he : w.feed.handles[s]? = some e)
    (hq : w.feed.exchange.queue? e.queue = some q) : w.queued s = q.items := by
  unfold queued queueOf?
  rw [he, Option.bind_some, hq]
  rfl

/-- What a subscriber receives was waiting for it. -/
theorem Sound.kept_receive (h : w.Sound) (s t : Nat) :
    (w.next (.receive s)).receivedBy t ++ (w.next (.receive s)).queued t = w.receivedBy t ++ w.queued t := by
  unfold Shift.next
  rcases w.feed.receive_cases s with ⟨r, e, x', he, hfound, hreceive⟩ | hreceive | hreceive
  · obtain ⟨q, rest, hq, hitems, -, rfl⟩ := Exchange.of_receive_eq_item hfound
    have hown := queued_of_handle he hq
    simp only [hreceive]
    have hqueued : ((queueOf? ({ w.feed with
        exchange := w.feed.exchange.modifyQueue e.queue fun _ => { q with items := rest } } : LogFeed) t).map
          (·.items)).getD [] = if s = t then rest else w.queued t := by
      rw [queueOf?_modifyQueue h.enrolled.ordered he]
      by_cases hst : s = t
      · subst hst
        simp [queueOf?, he, hq]
      · simp [hst, queued]
    refine (congrArg₂ (· ++ ·) (itemsAt_concat w.received s r t) hqueued).trans ?_
    by_cases hst : s = t
    · subst hst
      rw [if_pos rfl, if_pos rfl, hown, hitems, List.append_assoc]
      rfl
    · rw [if_neg hst, if_neg hst, List.append_nil]
      rfl
  · simp only [hreceive]
  · simp only [hreceive]

/-- What a subscriber finds once it is over: what waits for it, and then the
end. -/
theorem Sound.receive_of_over (h : w.Sound) (hover : w.IsOver) {s : Nat} (hlive : w.IsLive s) :
    (w.feed.receive s).1 = match w.queued s with
      | r :: _ => .ready r
      | [] => .ended := by
  obtain ⟨q, hq, hreader⟩ := h.listens s hlive
  obtain ⟨e, he, hq⟩ := Option.bind_eq_some_iff.1 hq
  have hfound : (w.feed.exchange.receive e.queue).1 = (q.receive false).1 := by
    rw [Exchange.receive_fst hq, h.unreachable hover]
  rw [queued_of_handle he hq]
  unfold Queue.receive at hfound
  unfold LogFeed.receive
  rw [he]
  cases hreceive : w.feed.exchange.receive e.queue with
  | mk found x' =>
    rw [hreceive, hreader] at hfound
    cases hitems : q.items with
    | nil =>
      rw [hitems] at hfound
      obtain rfl : found = .disconnected := hfound
      simp only [hreceive]
    | cons r rest =>
      rw [hitems] at hfound
      obtain rfl : found = .item r := hfound
      simp only [hreceive]

/-- A feed that is over takes nothing in and nobody, and a further shutdown finds
nothing to do. -/
theorem Sound.idle_of_over (h : w.Sound) (hover : w.IsOver) :
    w.feed.size = 0
      ∧ (∀ r, w.feed.publish r w.metrics = (false, w.feed, w.metrics))
      ∧ w.feed.subscribe
        = (if Queue.maxCapacity < w.feed.subscriberBuffer then .brokenOff else .refused .shuttingDown, w.feed)
      ∧ w.feed.shutdown = w.feed ∧ w.next .tell = w ∧ w.next .close = w ∧ w.next .work = w := by
  obtain ⟨htold, hinHand, hdropped⟩ := h.stopped hover.2
  have hclose : w.feed.exchange.close.2 = w.feed.exchange := by
    show { w.feed.exchange with isOpen := false, entries := [] } = w.feed.exchange
    rw [← hover.1, ← h.closed hover.1]
  refine ⟨?_, fun r => publish_of_refused (of_dropped hdropped).1 r w.metrics, subscribe_of_closed hover.1,
    ?_, ?_, ?_, ?_⟩
  · show w.feed.exchange.entries.length = 0
    rw [h.closed hover.1]
    rfl
  · show ({ w.feed with running := false, intake := w.feed.intake.drop, exchange := w.feed.exchange.close.2 } :
      LogFeed) = w.feed
    rw [hclose, hdropped, ← hover.2]
  · show { w with told := true } = w
    rw [← htold]
  · show ({ w with feed := { w.feed with exchange := w.feed.exchange.close.2 } } : Shift) = w
    rw [hclose]
  · refine work_of_idle hinHand ?_ fun hrunning => ?_
    · unfold due?
      rw [hover.2]
    · exact absurd (hrunning.symm.trans hover.2) nofun

/-- Whoever goes takes nothing from the others. -/
theorem Sound.kept_drop (h : w.Sound) {s t : Nat} (hst : s ≠ t) : (w.next (.drop s)).queued t = w.queued t := by
  show ((queueOf? (w.feed.drop s) t).map (·.items)).getD [] = _
  unfold LogFeed.drop
  cases he : w.feed.handles[s]? with
  | none => rfl
  | some e =>
    have hqueue := queueOf?_modifyQueue (h.filter (·.id != e.id)).enrolled.ordered he Queue.drop t
    rw [if_neg hst] at hqueue
    exact congrArg (fun o : Option (Queue CallRecord) => (o.map (·.items)).getD []) hqueue

/-- **Once it is over, only the subscribers do anything**, each of them to its
own queue. -/
theorem Sound.next_of_over (h : w.Sound) (hover : w.IsOver) (e : Event) :
    (w.next e).IsOver ∧ (w.next e).metrics = w.metrics
      ∧ ∀ s, w.IsLive s → e ≠ .drop s → (w.next e).IsLive s
          ∧ (w.next e).receivedBy s ++ (w.next e).queued s = w.receivedBy s ++ w.queued s := by
  obtain ⟨-, hpublish, hsubscribe, -, htell, hclose, hwork⟩ := h.idle_of_over hover
  -- most steps change nothing
  have hsame : ∀ {w' : Shift}, w' = w → w'.IsOver ∧ w'.metrics = w.metrics
      ∧ ∀ s, w.IsLive s → e ≠ .drop s → w'.IsLive s
          ∧ w'.receivedBy s ++ w'.queued s = w.receivedBy s ++ w.queued s := by
    rintro _ rfl
    exact ⟨hover, rfl, fun s hlive _ => ⟨hlive, rfl⟩⟩
  cases e with
  | publish r =>
    refine hsame ?_
    unfold Shift.next
    simp only [hpublish]
    rfl
  | work => exact hsame hwork
  | subscribe =>
    refine hsame ?_
    show ({ w with feed := w.feed.subscribe.2 } : Shift) = w
    rw [hsubscribe]
  | tell => exact hsame htell
  | close => exact hsame hclose
  | receive t =>
    have hshut := w.feed.staysShut_receive t
    have hkept := h.kept_receive t
    obtain ⟨exchange, received, hfeed, hnext⟩ := w.next_receive t
    rw [hfeed] at hshut
    rw [hnext] at hkept ⊢
    exact ⟨⟨hshut.exchange.closed hover.1, hover.2⟩, rfl, fun s hlive _ => ⟨hlive, hkept s⟩⟩
  | drop t =>
    have hshut := w.feed.staysShut_drop t
    refine ⟨⟨hshut.exchange.closed hover.1, hshut.stopped hover.2⟩, rfl, fun s hlive hdrop => ?_⟩
    have hst : t ≠ s := fun heq => hdrop (heq ▸ rfl)
    refine ⟨⟨?_, fun hmem => ?_⟩, congrArg (w.receivedBy s ++ ·) (h.kept_drop hst)⟩
    · show s < (w.feed.drop t).handles.length
      have hhandles : (w.feed.drop t).handles = w.feed.handles := by
        unfold LogFeed.drop
        split <;> rfl
      rw [hhandles]
      exact hlive.1
    · have hmem : s ∈ if t < w.feed.handles.length then w.left ++ [t] else w.left := hmem
      split at hmem
      · rcases List.mem_append.1 hmem with hmem | hmem
        · exact hlive.2 hmem
        · exact hst (List.mem_singleton.1 hmem).symm
      · exact hlive.2 hmem

/-- **What is over stays over.** -/
theorem Sound.run_of_over (h : w.Sound) (hover : w.IsOver) (events : List Event) :
    (w.run events).IsOver ∧ (w.run events).metrics = w.metrics
      ∧ ∀ s, w.IsLive s → .drop s ∉ events → (w.run events).IsLive s
          ∧ (w.run events).receivedBy s ++ (w.run events).queued s = w.receivedBy s ++ w.queued s := by
  induction events generalizing w with
  | nil => exact ⟨hover, rfl, fun s hlive _ => ⟨hlive, rfl⟩⟩
  | cons e events ih =>
    obtain ⟨hover', hmetrics, hkept⟩ := h.next_of_over hover e
    obtain ⟨hover'', hmetrics', hkept'⟩ := ih (h.next e) hover'
    refine ⟨hover'', hmetrics'.trans hmetrics, fun s hlive hdrop => ?_⟩
    rw [List.mem_cons, not_or] at hdrop
    obtain ⟨hnot, hdrop⟩ := hdrop
    obtain ⟨hlive', heq⟩ := hkept s hlive (Ne.symm hnot)
    obtain ⟨hlive'', heq'⟩ := hkept' s hlive' hdrop
    exact ⟨hlive'', heq'.trans heq⟩

theorem work_isOpen (w : Shift) : w.work.feed.exchange.isOpen = w.feed.exchange.isOpen := by
  cases hf : w.inHand with
  | some f =>
    cases htodo : f.todo with
    | nil =>
      rw [work_of_land hf htodo]
      rfl
    | cons e es =>
      rw [work_of_offer hf htodo]
      rfl
  | none =>
    unfold work
    rw [hf]
    dsimp only
    split
    · rfl
    · split
      · rfl
      · split <;> rfl

/-- A feed that is closed is not opened again. -/
theorem closed_next (h : w.feed.exchange.isOpen = false) (e : Event) :
    (w.next e).feed.exchange.isOpen = false := by
  cases e with
  | publish r => exact (w.feed.staysShut_publish r w.metrics).exchange.closed h
  | work => exact w.work_isOpen.trans h
  | subscribe => exact w.feed.staysShut_subscribe.exchange.closed h
  | receive s =>
    have hshut := w.feed.staysShut_receive s
    obtain ⟨exchange, received, hfeed, hnext⟩ := w.next_receive s
    rw [hfeed] at hshut
    rw [hnext]
    exact hshut.exchange.closed h
  | drop s => exact (w.feed.staysShut_drop s).exchange.closed h
  | tell => exact h
  | close => rfl

theorem closed_run (events : List Event) (h : w.feed.exchange.isOpen = false ∨ .close ∈ events) :
    (w.run events).feed.exchange.isOpen = false := by
  induction events generalizing w with
  | nil => exact h.resolve_right List.not_mem_nil
  | cons e events ih =>
    refine ih ?_
    rcases h with h | h
    · exact .inl (closed_next h e)
    · rcases List.mem_cons.1 h with rfl | h
      · exact .inl rfl
      · exact .inr h

end

/-- **A shutdown is clean.** Take a new feed through any steps of its worker, of
those who publish, of subscribers and of shutdowns, in any order.

* The worker takes the records from the intake in their order, and a subscriber
  never has anything but what the worker has taken, each record once.
* From the moment at which the worker is told to stop it takes no other record:
  what is in the intake then is never delivered to anyone.
* A shutdown comes to its end, whatever others do meanwhile: it parts with the
  subscribers, and after so many steps of its own the worker has stopped, for
  which the shutdown waits.  With nothing in hand and nobody in between, all
  this is what the feed does at once.
* Then nobody is registered.  A record that is published is not taken and nothing
  is counted; a subscriber is refused, and nothing is registered; a further
  shutdown changes nothing; and all of that stays so.
* What each subscriber receives from then on, with what still waits for it, is
  just what was waiting for it; it finds these records, and then the end. -/
theorem shutdown_ends_feed_keeps_queued (intakeCapacity subscriberBuffer : Nat) (m : Metrics) (before : List Event) :
    let w := (start intakeCapacity subscriberBuffer m).run before
    (∃ rest, w.accepted = w.taken ++ rest ∧ (w.feed.running = true → rest = w.feed.intake.items))
      ∧ (∀ s, (w.receivedBy s ++ w.queued s).Sublist w.taken)
      ∧ (w.told = true → ∀ during, (w.run during).taken = w.taken
          ∧ ∀ s, ((w.run during).receivedBy s ++ (w.run during).queued s).Sublist w.taken)
      ∧ (∀ during, w.stepsLeft ≤ during.count .work → .close ∈ during → ((w.next .tell).run during).IsOver)
      ∧ (w.inHand = none → w.run [.tell, .close, .work] = { w with feed := w.feed.shutdown, told := true }
        ∧ (w.run [.tell, .close, .work]).IsOver)
      ∧ (w.IsOver → ∀ after,
          let v := w.run after
          v.IsOver ∧ v.metrics = w.metrics ∧ v.feed.size = 0
            ∧ (∀ r, v.feed.publish r v.metrics = (false, v.feed, v.metrics))
            ∧ v.feed.subscribe
              = (if Queue.maxCapacity < v.feed.subscriberBuffer then .brokenOff else .refused .shuttingDown, v.feed)
            ∧ v.feed.shutdown = v.feed ∧ v.next .tell = v ∧ v.next .close = v ∧ v.next .work = v
            ∧ ∀ s, w.IsLive s → .drop s ∉ after →
                v.receivedBy s ++ v.queued s = w.receivedBy s ++ w.queued s
                  ∧ (v.feed.receive s).1 = match v.queued s with
                    | r :: _ => .ready r
                    | [] => .ended) := by
  intro w
  have h : w.Sound := (sound_start intakeCapacity subscriberBuffer m).run before
  have hserved : ∀ {v : Shift}, v.Sound → ∀ s, (v.receivedBy s ++ v.queued s).Sublist v.taken :=
    fun hv s => (List.sublist_append_left _ _).trans (hv.served s)
  refine ⟨h.waiting, hserved h, fun htold during => ?_, fun during hsteps hclose => ?_, fun hinHand => ?_,
    fun hover after => ?_⟩
  · obtain ⟨-, htaken, -⟩ := h.run_of_told htold during
    refine ⟨htaken, fun s => ?_⟩
    rw [← htaken]
    exact hserved (h.run during) s
  · obtain ⟨-, -, hleft⟩ := h.tell.run_of_told rfl during
    have hnone : w.stepsLeft - during.count .work = 0 := by omega
    exact ⟨closed_run during (.inr hclose), running_of_stepsLeft (hleft.trans hnone)⟩
  · have hshutdown := h.run_shutdown hinHand
    refine ⟨hshutdown, ?_⟩
    rw [hshutdown]
    exact ⟨rfl, rfl⟩
  · obtain ⟨hover', hmetrics, hkept⟩ := h.run_of_over hover after
    obtain ⟨hsize, hpublish, hsubscribe, hshutdown, htell, hclose, hwork⟩ := (h.run after).idle_of_over hover'
    refine ⟨hover', hmetrics, hsize, hpublish, hsubscribe, hshutdown, htell, hclose, hwork,
      fun s hlive hdrop => ?_⟩
    obtain ⟨hlive', heq⟩ := hkept s hlive hdrop
    exact ⟨heq, (h.run after).receive_of_over hover' hlive'⟩

/-- The worker has taken the first of two records when the feed is shut down, and
has not offered it yet.  Its subscriber gets that record, and not the other. -/
theorem shutdown_midway_keeps_queued : ∃ w : Shift,
    w = (start 4 2 {}).run [.subscribe, .publish ⟨1, "a", "/b/C", "h"⟩, .publish ⟨2, "a", "/b/C", "h"⟩, .work,
      .tell, .close, .work, .work, .work]
      ∧ w.IsOver ∧ w.IsLive 0 ∧ w.accepted.length = 2 ∧ w.queued 0 = [⟨1, "a", "/b/C", "h"⟩]
      ∧ ∀ after, .drop 0 ∉ after →
          (w.run after).receivedBy 0 ++ (w.run after).queued 0 = [⟨1, "a", "/b/C", "h"⟩] := by
  obtain ⟨-, -, -, -, -, hover⟩ := shutdown_ends_feed_keeps_queued 4 2 {} [.subscribe, .publish ⟨1, "a", "/b/C", "h"⟩,
    .publish ⟨2, "a", "/b/C", "h"⟩, .work, .tell, .close, .work, .work, .work]
  refine ⟨_, rfl, ⟨rfl, rfl⟩, ⟨by decide, by decide⟩, rfl, rfl, fun after hdrop => ?_⟩
  obtain ⟨-, -, -, -, -, -, -, -, -, hkept⟩ := hover ⟨rfl, rfl⟩ after
  exact (hkept 0 ⟨by decide, by decide⟩ hdrop).1

end Shift

end LogFeed

end CallGateway
