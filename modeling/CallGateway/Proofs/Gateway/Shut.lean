/-
  CallGateway.Proofs.Gateway.Shut
  ───────────────────────────────
  **WHAT IS SHUT STAYS SHUT.**

  A shutdown sets a flag and closes two exchanges, and neither of that is
  ever undone.  `StaysShut` relates two states of a gateway, or of one of its
  parts, where what is shut in the first is shut in the second.  Every
  operation keeps it, and so does every step (`Step.staysShut`) and every run
  of them (`Reachable.staysShut`).
-/
import CallGateway.Proofs.Exchange.Traffic
import CallGateway.Proofs.Gateway.Effect
import CallGateway.Proofs.LogFeed.Journal
import CallGateway.Proofs.Metrics
import CallGateway.Proofs.StatsFeed.Journal

namespace CallGateway

/-! ## §1. Exchanges. -/

namespace Exchange

variable {α : Type} {x x' x'' : Exchange α}

/-- A closed exchange stays closed, and nobody comes to it. -/
structure StaysShut (x x' : Exchange α) : Prop where
  closed : x.isOpen = false → x'.isOpen = false
  empty : x.isOpen = false → x.entries = [] → x'.entries = []

theorem StaysShut.refl (x : Exchange α) : x.StaysShut x := ⟨id, fun _ => id⟩

theorem StaysShut.trans (h : x.StaysShut x') (h' : x'.StaysShut x'') : x.StaysShut x'' where
  closed hclosed := h'.closed (h.closed hclosed)
  empty hclosed hempty := h'.empty (h.closed hclosed) (h.empty hclosed hempty)

/-- Striking off subscribers opens nothing. -/
theorem StaysShut.of_sublist (hopen : x'.isOpen = x.isOpen) (hentries : x'.entries.Sublist x.entries) :
    x.StaysShut x' where
  closed hclosed := hopen.trans hclosed
  empty _ hempty := by
    rw [hempty] at hentries
    exact List.sublist_nil.1 hentries

theorem staysShut_modifyQueue (x : Exchange α) (q : Nat) (f : Queue α → Queue α) :
    x.StaysShut (x.modifyQueue q f) := .of_sublist rfl (.refl _)

theorem staysShut_remove (x : Exchange α) (id : Nat) : x.StaysShut (x.remove id).2 :=
  .of_sublist rfl List.filter_sublist

theorem staysShut_fanOut (x : Exchange α) (a : α) : x.StaysShut (x.fanOut a).2 :=
  .of_sublist (x.fanOut_frame a).2.1 (x.fanOut_entries_sublist a)

theorem staysShut_close (x : Exchange α) : x.StaysShut x.close.2 := ⟨fun _ => rfl, fun _ _ => rfl⟩

theorem staysShut_receive {p : Nat} {a : α} (h : x.receive p = (.item a, x')) : x.StaysShut x' := by
  obtain ⟨q, rest, -, -, -, rfl⟩ := of_receive_eq_item h
  exact staysShut_modifyQueue x p _

/-- Nobody is added to a closed exchange. -/
theorem staysShut_add (x : Exchange α) (capacity : Nat) : x.StaysShut (x.add capacity).2 := by
  cases hopen : x.isOpen with
  | false =>
    rw [add_of_closed hopen]
    exact .of_sublist rfl (.refl _)
  | true => exact ⟨fun hclosed => absurd (hopen.symm.trans hclosed) nofun,
      fun hclosed => absurd (hopen.symm.trans hclosed) nofun⟩

/-- However the steps of handing out items, of subscribers and of readers
follow one another, what is shut stays shut. -/
theorem Traffic.staysShut_next (t : Traffic α) (a : Action α) : t.exchange.StaysShut (t.next a).exchange := by
  cases a with
  | add capacity =>
    cases hopen : t.exchange.isOpen with
    | false =>
      rw [next_add_of_closed hopen]
      exact t.exchange.staysShut_add capacity
    | true =>
      rw [next_add_of_open hopen]
      exact t.exchange.staysShut_add capacity
  | remove id => exact t.exchange.staysShut_remove id
  | close => exact t.exchange.staysShut_close
  | hold | release _ | launch _ => exact .of_sublist rfl (.refl _)
  | closeReader q | dropReader q => exact t.exchange.staysShut_modifyQueue q _
  | receive q =>
    rcases t.exchange.receive_cases q with ⟨a, x', hreceive⟩ | ⟨found, hreceive, hne⟩
    · rw [next_receive_item hreceive]
      exact staysShut_receive hreceive
    · rw [next_receive_nothing hreceive hne]
      exact .refl _
  | offer i =>
    rcases t.next_offer_cases i with hsame | ⟨p, e, es, hp, htodo⟩
    · rw [hsame]
      exact .refl _
    · rw [next_offer_of_cons hp htodo, Exchange.offerNext_eq htodo]
      exact t.exchange.staysShut_modifyQueue _ _
  | land i =>
    rcases t.next_land_cases i with hsame | ⟨p, hp, htodo, hout⟩
    · rw [hsame]
      exact .refl _
    · rw [next_land hp htodo hout]
      exact .of_sublist rfl List.filter_sublist

theorem Traffic.staysShut_run (t : Traffic α) (actions : List (Action α)) :
    t.exchange.StaysShut (t.run actions).exchange := by
  induction actions generalizing t with
  | nil => exact .refl _
  | cons a actions ih => exact (t.staysShut_next a).trans (ih (t.next a))

end Exchange

/-! ## §2. The log. -/

namespace LogFeed

variable {f f' f'' : LogFeed}

/-- A log that is shut down stays so: its exchange is shut, its worker has
stopped, and nothing comes into the intake that it has left. -/
structure StaysShut (f f' : LogFeed) : Prop where
  exchange : f.exchange.StaysShut f'.exchange
  stopped : f.running = false → f'.running = false
  intake : f.intake.drop = f.intake → f'.intake = f.intake
  -- The size of a subscriber's queue is always the same.
  buffer : f'.subscriberBuffer = f.subscriberBuffer

theorem StaysShut.refl (f : LogFeed) : f.StaysShut f := ⟨.refl _, id, fun _ => rfl, rfl⟩

theorem StaysShut.trans (h : f.StaysShut f') (h' : f'.StaysShut f'') : f.StaysShut f'' where
  exchange := h.exchange.trans h'.exchange
  stopped hstopped := h'.stopped (h.stopped hstopped)
  intake hdropped := by
    have hintake := h.intake hdropped
    have hintake' := h'.intake (by rw [hintake, hdropped])
    exact hintake'.trans hintake
  buffer := h'.buffer.trans h.buffer

/-- What is done with the exchange alone. -/
theorem StaysShut.of_exchange {x : Exchange CallRecord} (h : f.exchange.StaysShut x) (handles : List Entry) :
    f.StaysShut { f with exchange := x, handles } := ⟨h, id, fun _ => rfl, rfl⟩

/-- A queue that nobody reads takes nothing in, and nothing can be taken from
it. -/
theorem of_dropped {q : Queue CallRecord} (h : q.drop = q) : q.verdict = .refused ∧ q.items = [] := by
  have hreader : q.reader = .gone := congrArg Queue.reader h.symm
  refine ⟨?_, congrArg Queue.items h.symm⟩
  unfold Queue.verdict
  rw [hreader]
  rfl

theorem staysShut_publish (f : LogFeed) (r : CallRecord) (m : Metrics) : f.StaysShut (f.publish r m).2.1 := by
  cases hverdict : f.intake.verdict with
  | delivered =>
    rw [publish_of_delivered hverdict]
    refine ⟨.refl _, id, fun hdropped => ?_, rfl⟩
    rw [(of_dropped hdropped).1] at hverdict
    cases hverdict
  | full =>
    rw [publish_of_full hverdict]
    exact .refl f
  | refused =>
    rw [publish_of_refused hverdict]
    exact .refl f

/-- A feed counts the records that it does not take, and nothing else. -/
theorem metrics_publish (f : LogFeed) (r : CallRecord) (m : Metrics) :
    ∃ droppedDeliveries, (f.publish r m).2.2 = { m with droppedDeliveries } := by
  unfold publish
  split
  · exact ⟨_, rfl⟩
  · exact m.countDropped_eq .eventIntake 1
  · exact ⟨_, rfl⟩

theorem metrics_dispatch (f : LogFeed) (m : Metrics) :
    ∃ droppedDeliveries, (f.dispatch m).2 = { m with droppedDeliveries } := by
  cases hdue : f.due? with
  | none =>
    rw [dispatch_of_idle hdue]
    exact ⟨_, rfl⟩
  | some r =>
    obtain ⟨hrunning, rest, -, hreceive⟩ := of_due?_eq_some hdue
    rw [dispatch_of_due hrunning hreceive]
    exact m.countDropped_eq .logSubscriber _

theorem staysShut_dispatch (f : LogFeed) (m : Metrics) : f.StaysShut (f.dispatch m).1 := by
  cases hdue : f.due? with
  | none =>
    rw [dispatch_of_idle hdue]
    exact .refl f
  | some r =>
    obtain ⟨hrunning, rest, hitems, hreceive⟩ := of_due?_eq_some hdue
    rw [dispatch_of_due hrunning hreceive]
    refine ⟨f.exchange.staysShut_fanOut r, id, fun hdropped => ?_, rfl⟩
    rw [(of_dropped hdropped).2] at hitems
    cases hitems

theorem staysShut_subscribe (f : LogFeed) : f.StaysShut f.subscribe.2 := by
  obtain ⟨reason, heq⟩ | heq | ⟨-, heq⟩ := f.subscribe_cases
  · rw [heq]
    exact .refl f
  · rw [heq]
    exact .refl f
  · rw [heq]
    exact .of_exchange (f.exchange.staysShut_add _) _

theorem staysShut_receive (f : LogFeed) (s : Nat) : f.StaysShut (f.receive s).2 := by
  rcases f.receive_cases s with ⟨r, e, x', -, hreceive, heq⟩ | heq | heq
  · rw [heq]
    exact .of_exchange (Exchange.staysShut_receive hreceive) f.handles
  · rw [heq]
    exact .refl f
  · rw [heq]
    exact .refl f

theorem staysShut_drop (f : LogFeed) (s : Nat) : f.StaysShut (f.drop s) := by
  unfold drop
  split
  · exact .refl f
  · exact .of_exchange ((f.exchange.staysShut_remove _).trans (Exchange.staysShut_modifyQueue _ _ _)) f.handles

theorem staysShut_shutdown (f : LogFeed) : f.StaysShut f.shutdown :=
  ⟨f.exchange.staysShut_close, fun _ => rfl, id, rfl⟩

end LogFeed

/-! ## §3. The statistics. -/

namespace StatsFeed

variable {f f' f'' : StatsFeed}

/-- A feed of statistics that is shut down stays so. -/
structure StaysShut (f f' : StatsFeed) : Prop where
  exchange : f.exchange.StaysShut f'.exchange
  -- The size of a subscriber's queue is always the same.
  buffer : f'.subscriberBuffer = f.subscriberBuffer

theorem StaysShut.refl (f : StatsFeed) : f.StaysShut f := ⟨.refl _, rfl⟩

theorem StaysShut.trans (h : f.StaysShut f') (h' : f'.StaysShut f'') : f.StaysShut f'' :=
  ⟨h.exchange.trans h'.exchange, h'.buffer.trans h.buffer⟩

theorem staysShut_publish (f : StatsFeed) (r : CallRecord) (m : Metrics) : f.StaysShut (f.publish r m).2.1 :=
  ⟨f.exchange.staysShut_fanOut r, rfl⟩

theorem staysShut_subscribe (f : StatsFeed) (now period : Nat) : f.StaysShut (f.subscribe now period).2 := by
  obtain ⟨reason, heq⟩ | heq | ⟨-, -, heq⟩ | ⟨ticker, -, -, heq⟩ := f.subscribe_cases now period
  · rw [heq]
    exact .refl f
  · rw [heq]
    exact .refl f
  · rw [heq]
    exact ⟨(f.exchange.staysShut_add _).trans (Exchange.staysShut_modifyQueue _ _ _), rfl⟩
  · rw [heq]
    exact ⟨f.exchange.staysShut_add _, rfl⟩

theorem staysShut_drop (f : StatsFeed) (s : Nat) : f.StaysShut (f.drop s) := by
  unfold drop
  split
  · exact .refl f
  · exact ⟨(f.exchange.staysShut_remove _).trans (Exchange.staysShut_modifyQueue _ _ _), rfl⟩

theorem staysShut_shutdown (f : StatsFeed) : f.StaysShut f.shutdown.2 := ⟨f.exchange.staysShut_close, rfl⟩

theorem staysShut_report (f : StatsFeed) (s : Nat) (sub : StatsSubscriber) (now : Nat) :
    f.StaysShut (f.report s sub now).2 := by
  cases hqueue : f.queueOf? sub with
  | none =>
    unfold queueOf? at hqueue
    unfold report takeQueued
    rw [hqueue]
    exact ⟨.refl _, rfl⟩
  | some q =>
    rw [report_eq hqueue]
    exact ⟨f.exchange.staysShut_modifyQueue _ _, rfl⟩

theorem staysShut_turn (tickFirst : Bool) (f : StatsFeed) (s now : Nat) :
    f.StaysShut (f.turn tickFirst s now).2 := by
  rcases f.turn_cases tickFirst s now with ⟨sub, -, heq⟩ | ⟨sub, r, x', -, hreceive, heq⟩ | heq | heq
  · rw [heq]
    exact f.staysShut_report s sub now
  · rw [heq]
    exact ⟨Exchange.staysShut_receive hreceive, rfl⟩
  · rw [heq]
    exact .refl f
  · rw [heq]
    exact .refl f

end StatsFeed

/-! ## §4. The hub. -/

namespace Hub

variable {hub hub' hub'' : Hub}

/-- The flag stays set, and both feeds stay shut. -/
structure StaysShut (hub hub' : Hub) : Prop where
  draining : hub.metrics.draining = true → hub'.metrics.draining = true
  log : hub.log.StaysShut hub'.log
  stats : hub.stats.StaysShut hub'.stats

theorem StaysShut.refl (hub : Hub) : hub.StaysShut hub := ⟨id, .refl _, .refl _⟩

theorem StaysShut.trans (h : hub.StaysShut hub') (h' : hub'.StaysShut hub'') : hub.StaysShut hub'' :=
  ⟨fun hdraining => h'.draining (h.draining hdraining), h.log.trans h'.log, h.stats.trans h'.stats⟩

/-- Counting sets no flag and clears none. -/
theorem StaysShut.of_metrics {metrics : Metrics} (h : metrics.draining = hub.metrics.draining) :
    hub.StaysShut { hub with metrics } := ⟨h.trans, .refl _, .refl _⟩

theorem StaysShut.of_log {log : LogFeed} (h : hub.log.StaysShut log) : hub.StaysShut { hub with log } :=
  ⟨id, h, .refl _⟩

theorem StaysShut.of_stats {stats : StatsFeed} (h : hub.stats.StaysShut stats) : hub.StaysShut { hub with stats } :=
  ⟨id, .refl _, h⟩

/-- An observed call is counted, and so are the records that were not taken. -/
theorem metrics_observe (hub : Hub) (known : Bool) (wall : Int64) (call : Call) :
    ∃ droppedDeliveries, (hub.observe known wall call).metrics
      = { hub.metrics.countCall (if known then call.method.full else unregistered) with droppedDeliveries } := by
  let r := CallRecord.ofCall wall call
  let counted := hub.metrics.countCall (if known then call.method.full else unregistered)
  obtain ⟨dropped, hdropped⟩ := counted.countDropped_eq .statsSubscriber (hub.stats.exchange.fanOut r).1.lagged
  obtain ⟨dropped', hdropped'⟩ := hub.log.metrics_publish r (hub.stats.publish r counted).2.2
  refine ⟨dropped', hdropped'.trans ?_⟩
  rw [StatsFeed.publish_eq, hdropped]

theorem staysShut_observe (hub : Hub) (known : Bool) (wall : Int64) (call : Call) :
    hub.StaysShut (hub.observe known wall call) where
  draining hdraining := by
    obtain ⟨dropped, hmetrics⟩ := hub.metrics_observe known wall call
    rw [hmetrics]
    exact hdraining
  log :=
    let counted := hub.metrics.countCall (if known then call.method.full else unregistered)
    hub.log.staysShut_publish (CallRecord.ofCall wall call) (hub.stats.publish (.ofCall wall call) counted).2.2
  stats := hub.stats.staysShut_publish (CallRecord.ofCall wall call) hub.metrics

theorem staysShut_setDraining (hub : Hub) : hub.StaysShut hub.setDraining := ⟨fun _ => rfl, .refl _, .refl _⟩

theorem staysShut_stopLog (hub : Hub) : hub.StaysShut hub.stopLog := .of_log hub.log.staysShut_shutdown

theorem staysShut_stopStats (hub : Hub) : hub.StaysShut hub.stopStats := .of_stats hub.stats.staysShut_shutdown

end Hub

/-! ## §5. Steps. -/

namespace Hub

variable {hub hub' : Hub}

theorem Use.staysShut (h : hub.Use hub') : hub.StaysShut hub' := by
  cases h with
  | subscribeLog => exact .of_log hub.log.staysShut_subscribe
  | receiveLog s => exact .of_log (hub.log.staysShut_receive s)
  | dropLog s => exact .of_log (hub.log.staysShut_drop s)
  | subscribeStats now period => exact .of_stats (hub.stats.staysShut_subscribe now period)
  | turnStats tickFirst s now => exact .of_stats (hub.stats.staysShut_turn tickFirst s now)
  | dropStats s => exact .of_stats (hub.stats.staysShut_drop s)

theorem Deed.staysShut (h : hub.Deed hub') : hub.StaysShut hub' := by
  cases h with
  | use huse => exact huse.staysShut
  | allow | deny _ | fail _ => exact .of_metrics rfl

theorem Deeds.staysShut (h : hub.Deeds hub') : hub.StaysShut hub' := by
  induction h with
  | refl => exact .refl hub
  | tail _ hdeed ih => exact ih.trans hdeed.staysShut

end Hub

namespace Gateway

theorem Effect.staysShut {g : Gateway} {hub : Hub} (h : g.Effect hub) : g.hub.StaysShut hub := by
  cases h with
  | decided hdeeds => exact Hub.Deeds.staysShut hdeeds
  | observed wall call => exact g.hub.staysShut_observe _ _ _
  | dispatched =>
    refine ⟨fun hdraining => ?_, g.hub.log.staysShut_dispatch g.hub.metrics, .refl _⟩
    obtain ⟨dropped, hmetrics⟩ := g.hub.log.metrics_dispatch g.hub.metrics
    show (g.hub.log.dispatch g.hub.metrics).2.draining = true
    rw [hmetrics]
    exact hdraining
  | draining => exact g.hub.staysShut_setDraining
  | logStopped => exact g.hub.staysShut_stopLog
  | statsStopped => exact g.hub.staysShut_stopStats

/-- **No step opens what is shut.** -/
theorem Step.staysShut {g g' : Gateway} (h : g.Step g') : g.hub.StaysShut g'.hub := h.effect.staysShut

/-- **What is shut stays shut, whatever happens.** -/
theorem Reachable.staysShut {g g' : Gateway} (h : Reachable g g') : g.hub.StaysShut g'.hub := by
  induction h with
  | refl => exact .refl g.hub
  | tail _ hstep ih => exact ih.trans hstep.staysShut

end Gateway

end CallGateway
