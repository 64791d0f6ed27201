/-
  CallGateway.Proofs.Gateway.Tending
  ──────────────────────────────────
  **HANDLERS TAKE, AND PUT NOTHING IN.**

  A handler subscribes to a feed, takes what is queued for it, and gives its
  subscription up.  It counts nothing and publishes nothing: that is what
  `Tended` says of two states of a hub, or of one of its parts, with a handler
  at work in between.  Subscribers come and go meanwhile, and each of them
  keeps a queue of its own, here and at every other step (`Reachable.hasRoll`).
-/
import CallGateway.Proofs.Gateway.Effect
import CallGateway.Proofs.LogFeed.Journal
import CallGateway.Proofs.StatsFeed.Journal

namespace CallGateway

/-! ## §1. Exchanges. -/

namespace Exchange

variable {α : Type} {x x' x'' : Exchange α}

/-- The items that wait in the queue at a place. -/
def waiting (x : Exchange α) (q : Nat) : List α := ((x.queue? q).map (·.items)).getD []

/-- All subscribers have come one after the other, each with an id and a queue
of its own. -/
def HasRoll (x : Exchange α) : Prop := ∃ roll, x.Roll roll

theorem HasRoll.queues_nodup (h : x.HasRoll) : (x.entries.map (·.queue)).Nodup := by
  obtain ⟨roll, h⟩ := h
  exact h.queues_nodup.sublist (h.entries.map (·.queue))

/-- An item that is handed out is offered once to the queue of every subscriber
of the moment, and to no other queue; those who miss it are those whose queue
is full. -/
theorem HasRoll.fanOut_eq (h : x.HasRoll) (a : α) :
    (∀ q, (x.fanOut a).2.queue? q
        = if q ∈ x.entries.map (·.queue) then (x.queue? q).map (·.offer a) else x.queue? q)
      ∧ (x.fanOut a).1.lagged = (x.meeting .full x.entries).length := by
  obtain ⟨failed, hfanOut⟩ := x.fanOut_snd a
  refine ⟨fun q => ?_, ?_⟩
  · rw [hfanOut]
    exact queue?_offerEach h.queues_nodup q
  · obtain ⟨roll, h⟩ := h
    exact h.lagged_fanOut a

theorem HasRoll.fanOut (h : x.HasRoll) (a : α) : (x.fanOut a).2.HasRoll := by
  obtain ⟨roll, h⟩ := h
  exact ⟨roll, h.fanOut a⟩

/-- Readers took items, subscribers came and went, and nothing was put into a
queue. -/
structure Tended (x x' : Exchange α) : Prop where
  waiting : ∀ q, x'.waiting q <:+ x.waiting q
  hasRoll : x.HasRoll → x'.HasRoll

theorem Tended.refl (x : Exchange α) : x.Tended x := ⟨fun _ => List.suffix_rfl, id⟩

theorem Tended.trans (h : x.Tended x') (h' : x'.Tended x'') : x.Tended x'' :=
  ⟨fun q => (h'.waiting q).trans (h.waiting q), fun hroll => h'.hasRoll (h.hasRoll hroll)⟩

/-- A reader leaves in its queue what came last. -/
theorem tended_modifyQueue (p : Nat) {f : Queue α → Queue α}
    (hf : ∀ queue, x.queue? p = some queue → (f queue).items <:+ queue.items) : x.Tended (x.modifyQueue p f) where
  waiting q := by
    unfold Exchange.waiting
    rw [queue?_modifyQueue]
    split
    · rename_i hp
      subst hp
      cases hqueue : x.queue? p with
      | none => exact List.suffix_rfl
      | some queue => exact hf queue hqueue
    · exact List.suffix_rfl
  hasRoll hroll := by
    obtain ⟨roll, hroll⟩ := hroll
    exact ⟨roll, hroll.modifyQueue p f⟩

/-- Striking off subscribers touches no queue. -/
theorem Tended.of_sublist (hid : x'.nextId = x.nextId) (hqueues : x'.queues = x.queues)
    (hentries : x'.entries.Sublist x.entries) : x.Tended x' where
  waiting q := by
    have hwaiting : x'.waiting q = x.waiting q := by
      unfold Exchange.waiting Exchange.queue?
      rw [hqueues]
    exact hwaiting ▸ List.suffix_rfl
  hasRoll hroll := by
    obtain ⟨roll, hroll⟩ := hroll
    exact ⟨roll, hroll.mono (Nat.le_of_eq hid.symm) (Nat.le_of_eq (congrArg _ hqueues.symm)) hentries⟩

theorem tended_dropReader (x : Exchange α) (q : Nat) : x.Tended (x.dropReader q) :=
  tended_modifyQueue q fun queue _ => queue.items.nil_suffix

/-- A subscriber that goes is struck off, and its queue is emptied. -/
theorem tended_leave (x : Exchange α) (id q : Nat) : x.Tended ((x.remove id).2.dropReader q) := by
  have hremove : x.Tended (x.remove id).2 := .of_sublist rfl rfl List.filter_sublist
  exact hremove.trans ((x.remove id).2.tended_dropReader q)

theorem tended_close (x : Exchange α) : x.Tended x.close.2 := .of_sublist rfl rfl (List.nil_sublist _)

theorem tended_receive {p : Nat} {a : α} (h : x.receive p = (.item a, x')) : x.Tended x' := by
  obtain ⟨queue, rest, hqueue, hitems, -, rfl⟩ := of_receive_eq_item h
  refine tended_modifyQueue p fun queue' hqueue' => ?_
  obtain rfl := Option.some.inj (hqueue.symm.trans hqueue')
  rw [hitems]
  exact List.suffix_cons a rest

/-- Who comes has an empty queue. -/
theorem tended_add (x : Exchange α) (hopen : x.isOpen = true) (capacity : Nat) : x.Tended (x.add capacity).2 := by
  refine ⟨fun q => ?_, fun hroll => ?_⟩
  · unfold Exchange.waiting
    rw [queue?_add]
    split
    · exact List.nil_suffix
    · exact List.suffix_rfl
  · obtain ⟨roll, hroll⟩ := hroll
    exact ⟨_, hroll.add hopen capacity⟩

end Exchange

/-! ## §2. Feeds. -/

namespace LogFeed

/-- Whoever subscribes, takes records or goes leaves the intake alone. -/
theorem intake_subscribe (f : LogFeed) : f.subscribe.2.intake = f.intake := by
  unfold subscribe
  split
  · rfl
  · split <;> rfl

theorem intake_receive (f : LogFeed) (s : Nat) : (f.receive s).2.intake = f.intake := by
  rcases f.receive_cases s with ⟨r, e, x', -, -, heq⟩ | heq | heq <;> rw [heq]

theorem intake_drop (f : LogFeed) (s : Nat) : (f.drop s).intake = f.intake := by
  unfold drop
  split <;> rfl

end LogFeed

namespace StatsFeed

theorem tended_subscribe (f : StatsFeed) (now period : Nat) :
    f.exchange.Tended (f.subscribe now period).2.exchange := by
  obtain ⟨reason, heq⟩ | heq | ⟨hopen, -, heq⟩ | ⟨ticker, hopen, -, heq⟩ := f.subscribe_cases now period
  · rw [heq]
    exact .refl _
  · rw [heq]
    exact .refl _
  · rw [heq]
    exact (f.exchange.tended_add hopen _).trans (Exchange.tended_dropReader _ _)
  · rw [heq]
    exact f.exchange.tended_add hopen _

theorem tended_drop (f : StatsFeed) (s : Nat) : f.exchange.Tended (f.drop s).exchange := by
  unfold drop
  split
  · exact .refl _
  · exact f.exchange.tended_leave _ _

theorem tended_report (f : StatsFeed) (s : Nat) (sub : StatsSubscriber) (now : Nat) :
    f.exchange.Tended (f.report s sub now).2.exchange := by
  cases hqueue : f.queueOf? sub with
  | none =>
    unfold queueOf? at hqueue
    unfold report takeQueued
    rw [hqueue]
    exact .refl _
  | some q =>
    rw [report_eq hqueue]
    exact Exchange.tended_modifyQueue _ fun queue _ => queue.items.nil_suffix

theorem tended_turn (tickFirst : Bool) (f : StatsFeed) (s now : Nat) :
    f.exchange.Tended (f.turn tickFirst s now).2.exchange := by
  rcases f.turn_cases tickFirst s now with ⟨sub, -, heq⟩ | ⟨sub, r, x', -, hreceive, heq⟩ | heq | heq
  · rw [heq]
    exact f.tended_report s sub now
  · rw [heq]
    exact Exchange.tended_receive hreceive
  · rw [heq]
    exact .refl _
  · rw [heq]
    exact .refl _

end StatsFeed

/-! ## §3. The hub. -/

namespace Hub

variable {hub hub' hub'' : Hub}

/-- Nothing was counted, nothing came into the log's intake or left it, and
nothing was put into a queue of the statistics. -/
structure Tended (hub hub' : Hub) : Prop where
  metrics : hub'.metrics = hub.metrics
  intake : hub'.log.intake = hub.log.intake
  stats : hub.stats.exchange.Tended hub'.stats.exchange

theorem Tended.refl (hub : Hub) : hub.Tended hub := ⟨rfl, rfl, .refl _⟩

theorem Tended.trans (h : hub.Tended hub') (h' : hub'.Tended hub'') : hub.Tended hub'' :=
  ⟨h'.metrics.trans h.metrics, h'.intake.trans h.intake, h.stats.trans h'.stats⟩

theorem Tended.of_log {log : LogFeed} (h : log.intake = hub.log.intake) : hub.Tended { hub with log } :=
  ⟨rfl, h, .refl _⟩

theorem Tended.of_stats {stats : StatsFeed} (h : hub.stats.exchange.Tended stats.exchange) :
    hub.Tended { hub with stats } := ⟨rfl, rfl, h⟩

theorem Use.tended (h : hub.Use hub') : hub.Tended hub' := by
  cases h with
  | subscribeLog => exact .of_log hub.log.intake_subscribe
  | receiveLog s => exact .of_log (hub.log.intake_receive s)
  | dropLog s => exact .of_log (hub.log.intake_drop s)
  | subscribeStats now period => exact .of_stats (hub.stats.tended_subscribe now period)
  | turnStats tickFirst s now => exact .of_stats (hub.stats.tended_turn tickFirst s now)
  | dropStats s => exact .of_stats (hub.stats.tended_drop s)

/-- **A handler at work** takes what is queued for it, and puts nothing in. -/
theorem Uses.tended (h : hub.Uses hub') : hub.Tended hub' := by
  induction h with
  | refl => exact .refl hub
  | tail _ huse ih => exact ih.trans huse.tended

end Hub

/-! ## §4. Steps. -/

/-- Counting has nothing to do with the feeds. -/
theorem Hub.Deeds.hasRoll {hub hub' : Hub} (h : hub.Deeds hub') (hroll : hub.stats.exchange.HasRoll) :
    hub'.stats.exchange.HasRoll := by
  induction h with
  | refl => exact hroll
  | tail _ hdeed ih =>
    cases hdeed with
    | use huse => exact huse.tended.stats.hasRoll ih
    | allow | deny _ | fail _ => exact ih

namespace Gateway

theorem Effect.hasRoll {g : Gateway} {hub : Hub} (h : g.Effect hub) (hroll : g.hub.stats.exchange.HasRoll) :
    hub.stats.exchange.HasRoll := by
  cases h with
  | decided hdeeds => exact Hub.Deeds.hasRoll hdeeds hroll
  | observed wall call => exact hroll.fanOut _
  | statsStopped => exact g.hub.stats.exchange.tended_close.hasRoll hroll
  | dispatched | draining | logStopped => exact hroll

/-- **Every subscriber of the statistics keeps a queue of its own.** -/
theorem Step.hasRoll {g g' : Gateway} (h : g.Step g') (hroll : g.hub.stats.exchange.HasRoll) :
    g'.hub.stats.exchange.HasRoll := h.effect.hasRoll hroll

theorem Reachable.hasRoll {g g' : Gateway} (h : Reachable g g') (hroll : g.hub.stats.exchange.HasRoll) :
    g'.hub.stats.exchange.HasRoll := by
  induction h with
  | refl => exact hroll
  | tail _ hstep ih => exact hstep.hasRoll ih

end Gateway

end CallGateway
