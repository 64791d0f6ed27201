/-
  CallGateway.Proofs.StatsFeed.Waiting
  ────────────────────────────────────
  **WHAT A REPORT COVERS DOES NOT DEPEND ON SCHEDULING.**

  While a subscriber waits for its next report it may look for it as often as
  it likes, stop looking after any turn, and be given the record or the tick
  first whenever both are there.  Looking only moves records from its queue
  to its counts (`Attends.next_look`), and a report covers both.  So a report
  covers what was there when the wait began and what arrived since
  (`Attends.run`), and nothing else decides about it
  (`every_schedule_reports_alike`).
-/
import CallGateway.Proofs.StatsFeed.Attendance
import CallGateway.Proofs.StatsFeed.Tally

namespace CallGateway.StatsFeed

open Snapshot (countOf)

/-! ## §1. Actions of one subscriber. -/

/-- The subscriber at a place looks for its report. -/
def Action.looks (s : Nat) : Action → Bool
  | .turn t _ | .poll t _ => t == s
  | _ => false

/-- The subscriber at a place does not go, and the feed stays open. -/
def Action.spares (s : Nat) : Action → Bool
  | .drop t => t != s
  | .shutdown => false
  | _ => true

/-- A subscriber's queue after an action of someone else. -/
def Action.offers : Action → Queue CallRecord → Queue CallRecord
  | .publish r, q => q.offer r
  | _, q => q

/-- The report that a turn ends with. -/
def Turn.report? : Turn → Option Snapshot
  | .done (.ready snapshot) => some snapshot
  | _ => none

/-- The report that a look ends with. -/
def reported? : Polled Snapshot → Option Snapshot
  | .ready snapshot => some snapshot
  | _ => none

namespace Journal

/-- The report that the subscriber at a place makes by an action. -/
def report? (j : Journal) (s : Nat) : Action → Option Snapshot
  | .turn t tickFirst => if t = s then (j.feed.turn tickFirst s j.now).1.report? else none
  | .poll t choices => if t = s then reported? (j.feed.poll choices s j.now).1 else none
  | _ => none

/-- The reports that the subscriber at a place makes while these things
happen, and when it makes them. -/
def reports (s : Nat) : Journal → List Action → List (Nat × Snapshot)
  | _, [] => []
  | j, a :: rest => ((j.report? s a).map (j.now, ·)).toList ++ reports s (j.next a) rest

theorem report?_turn (j : Journal) (s : Nat) (tickFirst : Bool) :
    j.report? s (.turn s tickFirst) = (j.feed.turn tickFirst s j.now).1.report? := if_pos rfl

theorem report?_poll (j : Journal) (s : Nat) (choices : List Bool) :
    j.report? s (.poll s choices) = reported? (j.feed.poll choices s j.now).1 := if_pos rfl

/-- Who does not look makes no report. -/
theorem report?_of_not_looks (j : Journal) {s : Nat} {a : Action} (h : a.looks s = false) : j.report? s a = none := by
  cases a with
  | turn t tickFirst => exact if_neg (by simpa [Action.looks] using h)
  | poll t choices => exact if_neg (by simpa [Action.looks] using h)
  | publish | subscribe | advance | drop | shutdown => rfl

theorem note_feed (j : Journal) (s : Nat) (feed : StatsFeed) (p : Polled Snapshot) : (j.note s feed p).feed = feed := by
  cases p <;> rfl

theorem feed_next_turn (j : Journal) (s : Nat) (tickFirst : Bool) :
    (j.next (.turn s tickFirst)).feed = (j.feed.turn tickFirst s j.now).2 := by
  rw [next_turn]
  rcases j.feed.turn tickFirst s j.now with ⟨_ | p, feed⟩
  · rfl
  · exact j.note_feed s feed p

theorem next_subscribe (j : Journal) (period : Nat) :
    j.next (.subscribe period) = match j.feed.subscribe j.now period with
      | (.taken _, feed) => { j with feed, accounts := j.accounts ++ [{}] }
      | (_, feed) => { j with feed } := rfl

theorem feed_next_subscribe (j : Journal) (period : Nat) :
    (j.next (.subscribe period)).feed = (j.feed.subscribe j.now period).2 := by
  rw [next_subscribe]
  rcases j.feed.subscribe j.now period with ⟨_ | _ | _, feed⟩
  · rfl
  · rfl
  · rfl

theorem feed_next_poll (j : Journal) (s : Nat) (choices : List Bool) :
    (j.next (.poll s choices)).feed = (j.feed.poll choices s j.now).2 := j.note_feed s _ _

end Journal

section
variable {j : Journal} {roll : List Entry} {s : Nat} {sub : StatsSubscriber} {q : Queue CallRecord}

/-! ## §2. One action. -/

theorem Orderly.turns (h : j.feed.Orderly roll) (t : Nat) (ticks : List Bool) :
    (j.run (ticks.map (.turn t))).feed.Orderly roll := by
  induction ticks generalizing j with
  | nil => exact h
  | cons tick ticks ih =>
    refine ih (j := j.next (.turn t tick)) ?_
    rw [j.feed_next_turn]
    exact h.turn tick t j.now

/-- **Every action keeps the order.** -/
theorem Orderly.next (h : j.feed.Orderly roll) (a : Action) : ∃ roll', (j.next a).feed.Orderly roll' := by
  cases a with
  | publish r => exact ⟨roll, h.publish r⟩
  | subscribe period =>
    rw [j.feed_next_subscribe]
    exact h.subscribe j.now period
  | advance ms => exact ⟨roll, h⟩
  | turn t tickFirst => exact ⟨roll, h.turns t [tickFirst]⟩
  | poll t choices =>
    obtain ⟨ticks, hticks⟩ := j.next_poll t choices
    rw [hticks]
    exact ⟨roll, h.turns t ticks⟩
  | drop t => exact ⟨roll, h.drop t⟩
  | shutdown => exact ⟨roll, h.shutdown⟩

theorem Orderly.run (h : j.feed.Orderly roll) (actions : List Action) :
    ∃ roll', (j.run actions).feed.Orderly roll' := by
  induction actions generalizing j roll with
  | nil => exact ⟨roll, h⟩
  | cons a rest ih =>
    obtain ⟨roll', h'⟩ := h.next a
    exact ih h'

/-- A turn of another subscriber. -/
theorem Attends.turn_other {f : StatsFeed} (h : f.Attends s sub q) (ho : f.Orderly roll) {t : Nat} (hne : t ≠ s)
    (tickFirst : Bool) (now : Nat) : (f.turn tickFirst t now).2.Attends s sub q := by
  -- it changes that subscriber and its queue, and no other
  have hother : ∀ (sub' sub'' : StatsSubscriber) (put : Queue CallRecord → Queue CallRecord),
      f.subscribers[t]? = some sub' →
      Attends { f with
        exchange := f.exchange.modifyQueue sub'.entry.queue put
        subscribers := f.subscribers.set t sub'' } s sub q := by
    intro sub' sub'' put hsub'
    refine h.congr (List.getElem?_set_ne hne) ?_ id
    show (f.exchange.modifyQueue sub'.entry.queue put).queue? sub.entry.queue = _
    rw [Exchange.queue?_modifyQueue, if_neg (ho.queue_ne hsub' h.found hne)]
    rfl
  obtain ⟨sub', hsub', heq⟩ | ⟨sub', r, x', hsub', hreceive, heq⟩ | heq | heq := f.turn_cases tickFirst t now
  · obtain ⟨q', hq'⟩ := ho.exists_queue hsub'
    rw [heq, report_eq hq']
    exact hother sub' _ _ hsub'
  · obtain ⟨q', rest, -, -, -, rfl⟩ := Exchange.of_receive_eq_item hreceive
    rw [heq]
    exact hother sub' _ _ hsub'
  · rw [heq]
    exact h
  · rw [heq]
    exact h

theorem Attends.turns_other (h : j.feed.Attends s sub q) (ho : j.feed.Orderly roll) {t : Nat} (hne : t ≠ s)
    (ticks : List Bool) : (j.run (ticks.map (.turn t))).feed.Attends s sub q := by
  induction ticks generalizing j with
  | nil => exact h
  | cons tick ticks ih =>
    refine ih (j := j.next (.turn t tick)) ?_ ?_
    · rw [j.feed_next_turn]
      exact h.turn_other ho hne tick j.now
    · rw [j.feed_next_turn]
      exact ho.turn tick t j.now

/-- Whoever comes leaves the others as they are. -/
theorem Attends.subscribe {f : StatsFeed} (h : f.Attends s sub q) (ho : f.Orderly roll) (now period : Nat) :
    (f.subscribe now period).2.Attends s sub q := by
  have hmem := ho.mem_roll h.found
  have hqueue := ho.onRoll.queue?_add_of_mem f.subscriberBuffer hmem
  have hentries := (ho.onRoll.mem_entries_add_iff f.subscriberBuffer hmem).2
  obtain ⟨reason, heq⟩ | heq | ⟨-, -, heq⟩ | ⟨ticker, -, -, heq⟩ := f.subscribe_cases now period
  · rw [heq]
    exact h
  · rw [heq]
    exact h
  · rw [heq]
    refine h.congr rfl ?_ hentries
    have hlt := (ho.onRoll.below _ hmem).2
    show ((f.exchange.add f.subscriberBuffer).2.dropReader f.exchange.queues.length).queue? sub.entry.queue = _
    unfold Exchange.dropReader
    rw [Exchange.queue?_modifyQueue, if_neg (by omega)]
    exact hqueue
  · rw [heq]
    exact h.congr (List.getElem?_append_left h.lt) hqueue hentries

/-- Another subscriber goes. -/
theorem Attends.drop_other {f : StatsFeed} (h : f.Attends s sub q) (ho : f.Orderly roll) {t : Nat} (hne : t ≠ s) :
    (f.drop t).Attends s sub q := by
  unfold StatsFeed.drop
  cases hsub' : f.subscribers[t]? with
  | none => exact h
  | some sub' =>
    have hqueue := ho.queue_ne hsub' h.found hne
    refine h.congr rfl ?_ ?_
    · show ((f.exchange.remove sub'.entry.id).2.modifyQueue sub'.entry.queue Queue.drop).queue? sub.entry.queue = _
      rw [Exchange.queue?_modifyQueue, if_neg hqueue]
      rfl
    · intro he
      have hid : sub.entry.id ≠ sub'.entry.id := by
        intro hid
        exact hqueue (congrArg Entry.queue (ho.onRoll.eq_of_id (ho.mem_roll h.found) (ho.mem_roll hsub') hid)).symm
      exact List.mem_filter.2 ⟨he, bne_iff_ne.2 hid⟩

/-- **What others do** reaches a subscriber as a record in its queue, or not
at all. -/
theorem Attends.next_other (h : j.feed.Attends s sub q) (ho : j.feed.Orderly roll) {a : Action}
    (hspares : a.spares s = true) (hlooks : a.looks s = false) : (j.next a).feed.Attends s sub (a.offers q) := by
  cases a with
  | publish r =>
    have hmem := ho.mem_roll h.found
    have hqueue := ho.onRoll.queue?_fanOut r hmem
    rw [if_pos h.registered] at hqueue
    refine ⟨h.found, ?_, ?_, ?_⟩
    · show (j.feed.exchange.fanOut r).2.queue? sub.entry.queue = _
      rw [hqueue]
      exact congrArg (Option.map _) h.queue
    · exact (Queue.reader_offer q r).trans h.listening
    · exact (ho.onRoll.mem_fanOut_iff r _).2 ⟨h.registered, q, h.queue, h.listening⟩
  | subscribe period =>
    rw [j.feed_next_subscribe]
    exact h.subscribe ho j.now period
  | advance ms => exact h
  | turn t tickFirst => exact h.turns_other ho (by simpa [Action.looks] using hlooks) [tickFirst]
  | poll t choices =>
    obtain ⟨ticks, hticks⟩ := j.next_poll t choices
    rw [hticks]
    exact h.turns_other ho (by simpa [Action.looks] using hlooks) ticks
  | drop t => exact h.drop_other ho (by simpa [Action.spares] using hspares)
  | shutdown => cases hspares

/-- **A look that yields no report** moves records from the queue to the
counts. -/
theorem Attends.next_look (h : j.feed.Attends s sub q) {a : Action} (hlooks : a.looks s = true)
    (hnone : j.report? s a = none) : ∃ taken rest, q.items = taken ++ rest
      ∧ (j.next a).feed = j.feed.counted s sub (taken.foldl Snapshot.count sub.live) rest := by
  cases a with
  | turn t tickFirst =>
    obtain rfl : t = s := by simpa [Action.looks] using hlooks
    rw [Journal.report?_turn, h.turn_eq] at hnone
    rw [j.feed_next_turn, h.turn_eq]
    split at hnone
    · cases hnone
    · rename_i hfirst
      rw [if_neg hfirst]
      cases hitems : q.items with
      | nil =>
        rw [hitems] at hnone
        have hdue : sub.ticker.isDue j.now = false := by
          cases hdue : sub.ticker.isDue j.now with
          | false => rfl
          | true =>
            simp only [hdue, if_true] at hnone
            cases hnone
        have hsame := h.counted_self
        rw [hitems] at hsame
        refine ⟨[], [], rfl, ?_⟩
        simp only [hdue, Bool.false_eq_true, if_false]
        exact hsame.symm
      | cons r rest => exact ⟨[r], rest, rfl, rfl⟩
  | poll t choices =>
    obtain rfl : t = s := by simpa [Action.looks] using hlooks
    rw [Journal.report?_poll] at hnone
    cases hdue : sub.ticker.isDue j.now with
    | true =>
      rw [h.poll_of_due hdue] at hnone
      cases hnone
    | false =>
      refine ⟨q.items, [], (List.append_nil _).symm, ?_⟩
      rw [j.feed_next_poll, h.poll_of_not_due hdue]
      rfl
  | publish | subscribe | advance | drop | shutdown => cases hlooks

end

/-! ## §3. A whole wait. -/

/-- The record that an action publishes. -/
def Action.record? : Action → Option CallRecord
  | .publish r => some r
  | _ => none

/-- How long an action takes. -/
def Action.elapses : Action → Nat
  | .advance ms => ms
  | _ => 0

/-! Looking publishes nothing, and takes no time: -/

theorem Action.record?_of_looks {a : Action} {s : Nat} (h : a.looks s = true) : a.record? = none := by
  cases a with
  | publish r => cases h
  | subscribe | advance | turn | poll | drop | shutdown => rfl

theorem Action.elapses_of_looks {a : Action} {s : Nat} (h : a.looks s = true) : a.elapses = 0 := by
  cases a with
  | advance ms => cases h
  | publish | subscribe | turn | poll | drop | shutdown => rfl

namespace Journal

/-- The record that finds room with the subscriber at a place. -/
def arriving (j : Journal) (s : Nat) : Action → List CallRecord
  | .publish r => if (j.feed.subscribers[s]?).any j.feed.isFull then [] else [r]
  | _ => []

/-- The records that find room with the subscriber at a place while these
things happen. -/
def arrivals (s : Nat) : Journal → List Action → List CallRecord
  | _, [] => []
  | j, a :: rest => j.arriving s a ++ arrivals s (j.next a) rest

theorem arriving_of_record?_eq_none (j : Journal) (s : Nat) {a : Action} (h : a.record? = none) :
    j.arriving s a = [] := by
  cases a with
  | publish r => cases h
  | subscribe | advance | turn | poll | drop | shutdown => rfl

/-- Only what is published arrives, and in that order. -/
theorem arrivals_sublist (s : Nat) (j : Journal) (wait : List Action) :
    (arrivals s j wait).Sublist (wait.filterMap Action.record?) := by
  induction wait generalizing j with
  | nil => exact .slnil
  | cons a rest ih =>
    have hhead : (j.arriving s a).Sublist a.record?.toList := by
      cases a with
      | publish r =>
        show (if (j.feed.subscribers[s]?).any j.feed.isFull then [] else [r]).Sublist [r]
        split
        · exact List.nil_sublist _
        · exact List.Sublist.refl _
      | subscribe | advance | turn | poll | drop | shutdown => exact List.Sublist.refl _
    rw [List.filterMap_cons]
    unfold arrivals
    cases hrecord : a.record? with
    | none =>
      rw [j.arriving_of_record?_eq_none s hrecord]
      exact ih (j.next a)
    | some r =>
      rw [hrecord] at hhead
      exact hhead.append (ih (j.next a))

/-! ### Time passes by itself. -/

theorem now_note (j : Journal) (s : Nat) (feed : StatsFeed) (p : Polled Snapshot) : (j.note s feed p).now = j.now := by
  cases p <;> rfl

theorem now_next (j : Journal) (a : Action) : (j.next a).now = j.now + a.elapses := by
  cases a with
  | subscribe period =>
    rw [next_subscribe]
    rcases j.feed.subscribe j.now period with ⟨_ | _ | _, feed⟩
    · rfl
    · rfl
    · rfl
  | turn s tickFirst =>
    rw [next_turn]
    rcases j.feed.turn tickFirst s j.now with ⟨_ | p, feed⟩
    · rfl
    · exact j.now_note s feed p
  | poll s choices => exact j.now_note s _ _
  | publish | advance | drop | shutdown => rfl

theorem now_run (j : Journal) (actions : List Action) :
    (j.run actions).now = j.now + (actions.map Action.elapses).sum := by
  induction actions generalizing j with
  | nil => rfl
  | cons a rest ih =>
    show ((j.next a).run rest).now = _
    rw [ih, now_next, List.map_cons, List.sum_cons, Nat.add_assoc]

/-- Looking takes no time. -/
theorem now_run_filter (j : Journal) (s : Nat) (actions : List Action) :
    (j.run (actions.filter fun a => !a.looks s)).now = (j.run actions).now := by
  rw [now_run, now_run]
  congr 1
  induction actions with
  | nil => rfl
  | cons a rest ih =>
    rw [List.filter_cons]
    cases hlooks : a.looks s with
    | false => simp [ih]
    | true => simp [ih, Action.elapses_of_looks hlooks]

/-- Who never looks makes no report. -/
theorem reports_filter (s : Nat) (j : Journal) (actions : List Action) :
    reports s j (actions.filter fun a => !a.looks s) = [] := by
  induction actions generalizing j with
  | nil => rfl
  | cons a rest ih =>
    rw [List.filter_cons]
    cases hlooks : a.looks s with
    | true => exact ih j
    | false =>
      unfold reports
      simp [j.report?_of_not_looks hlooks, ih]

theorem filterMap_record?_filter (s : Nat) (actions : List Action) :
    (actions.filter fun a => !a.looks s).filterMap Action.record? = actions.filterMap Action.record? := by
  rw [List.filterMap_filter]
  refine List.filterMap_congr fun a _ => ?_
  cases hlooks : a.looks s with
  | true => exact (Action.record?_of_looks hlooks).symm
  | false => rfl

end Journal

/-- A subscriber with its queue waits on as another: its next tick comes when
it would have come, and it would report these records besides. -/
structure WaitsOn (sub : StatsSubscriber) (q : Queue CallRecord) (rs : List CallRecord) (sub' : StatsSubscriber)
    (q' : Queue CallRecord) : Prop where
  ticker : sub'.ticker = sub.ticker
  covered : covered sub' q' = rs.foldl Snapshot.count (covered sub q)
  capacity : q'.capacity = q.capacity
  length : q'.items.length ≤ q.items.length + rs.length

theorem WaitsOn.trans {sub sub' sub'' : StatsSubscriber} {q q' q'' : Queue CallRecord} {rs rs' : List CallRecord}
    (h : WaitsOn sub q rs sub' q') (h' : WaitsOn sub' q' rs' sub'' q'') : WaitsOn sub q (rs ++ rs') sub'' q'' where
  ticker := h'.ticker.trans h.ticker
  covered := by rw [h'.covered, h.covered, List.foldl_append]
  capacity := h'.capacity.trans h.capacity
  length := by
    have hfirst := h.length
    have hsecond := h'.length
    rw [List.length_append]
    omega

section
variable {j : Journal} {roll : List Entry} {s : Nat} {sub : StatsSubscriber} {q : Queue CallRecord}

theorem Attends.arriving_publish (h : j.feed.Attends s sub q) (r : CallRecord) :
    j.arriving s (.publish r) = if q.capacity ≤ q.items.length then [] else [r] := by
  unfold Journal.arriving isFull
  simp [h.found, h.queue]

/-- What arrives stands last in the queue. -/
theorem Attends.offers_eq (h : j.feed.Attends s sub q) (a : Action) :
    a.offers q = { q with items := q.items ++ j.arriving s a } := by
  cases a with
  | publish r =>
    show q.offer r = _
    rw [h.arriving_publish]
    unfold Queue.offer
    rw [Queue.verdict_of_listening h.listening]
    by_cases hfull : q.capacity ≤ q.items.length
    · simp [hfull]
    · simp [hfull]
  | subscribe | advance | turn | poll | drop | shutdown =>
    show q = { q with items := q.items ++ [] }
    rw [List.append_nil]

/-- **One thing happens during a wait**: the subscriber waits on. -/
theorem Attends.next (h : j.feed.Attends s sub q) (ho : j.feed.Orderly roll) {a : Action}
    (hspares : a.spares s = true) (hnone : j.report? s a = none) :
    ∃ sub' q', (j.next a).feed.Attends s sub' q' ∧ WaitsOn sub q (j.arriving s a) sub' q' := by
  cases hlooks : a.looks s with
  | true =>
    obtain ⟨taken, rest, hitems, hfeed⟩ := h.next_look hlooks hnone
    refine ⟨{ sub with live := taken.foldl Snapshot.count sub.live }, { q with items := rest }, ?_, rfl, ?_, rfl, ?_⟩
    · rw [hfeed]
      exact h.counted (taken.foldl Snapshot.count sub.live) rest
    · rw [j.arriving_of_record?_eq_none s (Action.record?_of_looks hlooks)]
      show rest.foldl Snapshot.count (taken.foldl Snapshot.count sub.live) = q.items.foldl Snapshot.count sub.live
      rw [hitems, List.foldl_append]
    · show rest.length ≤ _
      rw [hitems, List.length_append]
      omega
  | false =>
    refine ⟨sub, a.offers q, h.next_other ho hspares hlooks, ?_⟩
    rw [h.offers_eq]
    refine ⟨rfl, ?_, rfl, ?_⟩
    · exact List.foldl_append
    · exact Nat.le_of_eq List.length_append

/-- **A wait without a report**: the subscriber waits on, and what it would
report is what has arrived besides. -/
theorem Attends.run {wait : List Action} (h : j.feed.Attends s sub q) (ho : j.feed.Orderly roll)
    (hspares : ∀ a ∈ wait, a.spares s = true) (hnone : j.reports s wait = []) :
    ∃ sub' q', (j.run wait).feed.Attends s sub' q' ∧ WaitsOn sub q (j.arrivals s wait) sub' q' := by
  induction wait generalizing j roll sub q with
  | nil => exact ⟨sub, q, h, rfl, rfl, rfl, Nat.le_refl _⟩
  | cons a rest ih =>
    obtain ⟨hhead, hrest⟩ := List.append_eq_nil_iff.1 hnone
    have hhead : j.report? s a = none := by simpa using hhead
    obtain ⟨roll', ho'⟩ := ho.next a
    obtain ⟨sub', q', h', hone⟩ := h.next ho (hspares a List.mem_cons_self) hhead
    obtain ⟨sub'', q'', h'', hmore⟩ := ih h' ho' (fun b hb => hspares b (List.mem_cons_of_mem _ hb)) hrest
    exact ⟨sub'', q'', h'', hone.trans hmore⟩

/-- Where there is room for all that is published, all of it arrives. -/
theorem Attends.arrivals_eq {wait : List Action} (h : j.feed.Attends s sub q) (ho : j.feed.Orderly roll)
    (hspares : ∀ a ∈ wait, a.spares s = true) (hnone : j.reports s wait = [])
    (hroom : q.items.length + (wait.filterMap Action.record?).length ≤ q.capacity) :
    j.arrivals s wait = wait.filterMap Action.record? := by
  induction wait generalizing j roll sub q with
  | nil => rfl
  | cons a rest ih =>
    obtain ⟨hhead, hrest⟩ := List.append_eq_nil_iff.1 hnone
    have hhead : j.report? s a = none := by simpa using hhead
    obtain ⟨roll', ho'⟩ := ho.next a
    obtain ⟨sub', q', h', hone⟩ := h.next ho (hspares a List.mem_cons_self) hhead
    have hlength := hone.length
    have hcapacity := hone.capacity
    have hrest := ih h' ho' (fun b hb => hspares b (List.mem_cons_of_mem _ hb)) hrest
    rw [List.filterMap_cons] at hroom ⊢
    unfold Journal.arrivals
    cases hrecord : a.record? with
    | none =>
      simp only [hrecord] at hroom
      rw [j.arriving_of_record?_eq_none s hrecord] at hlength ⊢
      exact hrest (by simp only [List.length_nil] at hlength; omega)
    | some r =>
      simp only [hrecord, List.length_cons] at hroom
      obtain rfl : a = .publish r := by
        cases a with
        | publish r' =>
          obtain rfl := Option.some.inj hrecord
          rfl
        | subscribe | advance | turn | poll | drop | shutdown => cases hrecord
      have hnotFull : ¬ q.capacity ≤ q.items.length := by omega
      rw [h.arriving_publish, if_neg hnotFull] at hlength ⊢
      rw [hrest (by simp only [List.length_singleton] at hlength; omega)]
      rfl

/-! ## §4. Waiting once. -/

/-- A subscriber that waits for its report without a break makes it at once
if its tick is due, and when it comes if not. -/
theorem Attends.next_eq {f : StatsFeed} (h : f.Attends s sub q) (now : Nat) :
    f.next s now
      = (.ready (covered sub q), max now sub.ticker.comes, (f.report s sub (max now sub.ticker.comes)).2) := by
  cases hdue : sub.ticker.isDue now with
  | true =>
    have hcomes : sub.ticker.comes ≤ now := of_decide_eq_true hdue
    unfold StatsFeed.next
    rw [h.poll_of_due hdue, Nat.max_eq_left hcomes]
  | false =>
    have hlater := h.counted (covered sub q) []
    have hdue' : sub.ticker.isDue (max now sub.ticker.comes) = true := decide_eq_true (Nat.le_max_right _ _)
    have hpoll := hlater.poll_of_due hdue' []
    rw [h.report_counted] at hpoll
    unfold StatsFeed.next
    rw [h.poll_of_not_due hdue]
    simp only [hlater.found, Option.map_some, Option.getD_some]
    rw [hpoll]
    rfl

end

/-! ## §5. Every schedule reports alike. -/

namespace Journal

/-- **What a report covers does not depend on scheduling.** Take any state of
a feed that is open, and of a subscriber of it that has not gone.

* What it would report is what it has counted and all that is queued: for
  every method, the live count and the queued records of that method; and so
  for every consumer.
* Once its tick is due, looking for a report yields just that, whether the
  record or the tick is looked at first on any turn, and leaves neither counts
  nor records behind.
* Waiting without a break yields the same report.
* It may also look as often as it likes, and stop looking after any turn,
  while records are published, others come, look and go, and time passes.
  The report that it makes when its tick is due covers what it would have
  covered before and the records that found room since.  Where there is room
  for all that is published, it is the report of a subscriber that did not
  look before. -/
theorem every_schedule_reports_alike {j : Journal} {roll : List Entry} {s : Nat} {sub : StatsSubscriber}
    {q : Queue CallRecord} (ho : j.feed.Orderly roll) (hopen : j.feed.exchange.isOpen = true)
    (hsub : j.feed.subscribers[s]? = some sub) (hq : j.feed.queueOf? sub = some q) (hreader : q.reader = .listening) :
    ((∀ method, countOf (covered sub q).byMethod method
          = countOf sub.live.byMethod method + q.items.countP (·.method = method))
      ∧ ∀ consumer, countOf (covered sub q).byConsumer consumer
          = countOf sub.live.byConsumer consumer + q.items.countP (·.consumer = consumer))
    ∧ (sub.ticker.isDue j.now = true → ∃ feed : StatsFeed, feed.IsFresh s
        ∧ ∀ choices, j.feed.poll choices s j.now = (.ready (covered sub q), feed))
    ∧ (∃ feed : StatsFeed, feed.IsFresh s
        ∧ j.feed.next s j.now = (.ready (covered sub q), max j.now sub.ticker.comes, feed))
    ∧ ∀ wait : List Action, (∀ a ∈ wait, a.spares s = true) → j.reports s wait = [] →
        sub.ticker.isDue (j.run wait).now = true →
        ∃ snapshot, snapshot = (j.arrivals s wait).foldl Snapshot.count (covered sub q)
          ∧ (∃ feed : StatsFeed, feed.IsFresh s
            ∧ ∀ choices, (j.run wait).feed.poll choices s (j.run wait).now = (.ready snapshot, feed))
          ∧ (j.arrivals s wait).Sublist (wait.filterMap Action.record?)
          ∧ (q.items.length + (wait.filterMap Action.record?).length ≤ q.capacity →
            j.arrivals s wait = wait.filterMap Action.record?
              ∧ ∃ j' : Journal, j' = j.run (wait.filter fun a => !a.looks s) ∧ j'.now = (j.run wait).now
                ∧ ∀ choices, (j'.feed.poll choices s j'.now).1 = .ready snapshot) := by
  have h : j.feed.Attends s sub q := ho.attends hopen hsub hq hreader
  refine ⟨⟨?_, ?_⟩, ?_, ?_, ?_⟩
  · exact Snapshot.countOf_foldl (fun _ _ => rfl) q.items sub.live
  · exact Snapshot.countOf_foldl (fun _ _ => rfl) q.items sub.live
  · intro hdue
    exact ⟨_, h.isFresh_report j.now, h.poll_of_due hdue⟩
  · exact ⟨_, h.isFresh_report _, h.next_eq j.now⟩
  · intro wait hspares hnone hdue
    obtain ⟨sub', q', h', hwaits⟩ := h.run ho hspares hnone
    rw [← hwaits.ticker] at hdue
    refine ⟨_, rfl, ⟨_, h'.isFresh_report (j.run wait).now, fun choices => ?_⟩, j.arrivals_sublist s wait,
      fun hroom => ?_⟩
    · rw [h'.poll_of_due hdue choices, hwaits.covered]
    · have harrivals := h.arrivals_eq ho hspares hnone hroom
      have hnow := j.now_run_filter s wait
      refine ⟨harrivals, _, rfl, hnow, fun choices => ?_⟩
      -- a wait without own looks is a wait as well, and the same is published
      have hspares' : ∀ a ∈ wait.filter (fun a => !a.looks s), a.spares s = true :=
        fun a ha => hspares a (List.mem_of_mem_filter ha)
      have hnone' := j.reports_filter s wait
      obtain ⟨sub'', q'', h'', hwaits'⟩ := h.run ho hspares' hnone'
      have harrivals' := h.arrivals_eq ho hspares' hnone' (by rwa [filterMap_record?_filter])
      rw [filterMap_record?_filter] at harrivals'
      rw [hwaits.ticker, ← hwaits'.ticker, ← hnow] at hdue
      rw [h''.poll_of_due hdue choices, hwaits'.covered, harrivals, harrivals']

/-- One record was counted before, one is queued, and one comes between two
looks: the report covers all three. -/
theorem broken_wait_reports_three : ∃ snapshot : Snapshot,
    snapshot.byMethod.entries = [("/b/C", 1), ("/b/D", 2)]
    ∧ ∃ feed : StatsFeed, feed.IsFresh 0
      ∧ ∀ choices, ((((start 2 {}).run [.subscribe 1000, .publish ⟨1, "a", "/b/C", "h"⟩, .poll 0 [],
          .publish ⟨2, "a", "/b/D", "h"⟩]).run [.poll 0 [true], .publish ⟨3, "c", "/b/D", "h"⟩, .advance 600,
          .turn 0 false, .subscribe 500, .advance 400]).feed.poll choices 0 1000) = (.ready snapshot, feed) := by
  obtain ⟨roll, ho⟩ := Orderly.run (j := start 2 {}) (orderly_start 2) [.subscribe 1000,
    .publish ⟨1, "a", "/b/C", "h"⟩, .poll 0 [], .publish ⟨2, "a", "/b/D", "h"⟩]
  obtain ⟨-, -, -, hwait⟩ := every_schedule_reports_alike (s := 0) ho rfl rfl rfl rfl
  obtain ⟨snapshot, hsnapshot, hpoll, -⟩ := hwait [.poll 0 [true], .publish ⟨3, "c", "/b/D", "h"⟩, .advance 600,
    .turn 0 false, .subscribe 500, .advance 400] (by decide) rfl (by decide)
  exact ⟨snapshot, hsnapshot ▸ rfl, hpoll⟩

end Journal

end CallGateway.StatsFeed
