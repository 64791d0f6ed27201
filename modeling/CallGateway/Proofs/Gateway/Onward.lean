/-
  CallGateway.Proofs.Gateway.Onward
  ─────────────────────────────────
  **AN ID IS GIVEN ONCE.**

  Whatever happens to a hub, its feeds go on: whoever is registered was
  registered before or has a new id, and whoever has a handle keeps its place
  (`Onward`).  So a subscriber that was struck off is never registered again
  (`Exchange.Onward.notMem`).  Every use that a handler makes of a feed goes on
  in this way, and so does everything that others do meanwhile
  (`Hub.Happening.onward`).
-/
import CallGateway.Proofs.Exchange.Usage
import CallGateway.Proofs.LogFeed.Journal
import CallGateway.Proofs.StatsFeed.Journal
import CallGateway.Proofs.StreamTask

namespace CallGateway

/-! ## §1. Exchanges. -/

namespace Exchange

variable {α : Type} {x x' x'' : Exchange α}

/-- Whoever is registered was registered before, or has a new id. -/
structure Onward (x x' : Exchange α) : Prop where
  nextId : x.nextId ≤ x'.nextId
  ids : ∀ id ∈ x'.ids, id ∈ x.ids ∨ x.nextId ≤ id

theorem Onward.refl (x : Exchange α) : x.Onward x := ⟨Nat.le_refl _, fun _ hid => .inl hid⟩

theorem Onward.trans (h : x.Onward x') (h' : x'.Onward x'') : x.Onward x'' where
  nextId := Nat.le_trans h.nextId h'.nextId
  ids := by
    intro id hid
    rcases h'.ids id hid with hid | hid
    · exact h.ids id hid
    · exact .inr (Nat.le_trans h.nextId hid)

/-- Whoever was struck off is not registered again. -/
theorem Onward.notMem (h : x.Onward x') {id : Nat} (hlt : id < x.nextId) (hnot : id ∉ x.ids) : id ∉ x'.ids := by
  intro hid
  rcases h.ids id hid with hid | hid
  · exact hnot hid
  · exact Nat.lt_irrefl _ (Nat.lt_of_lt_of_le hlt hid)

/-- Where nobody comes. -/
theorem Onward.of_sublist (hid : x'.nextId = x.nextId) (hentries : x'.entries.Sublist x.entries) : x.Onward x' where
  nextId := Nat.le_of_eq hid.symm
  ids := fun _ hmem => .inl ((hentries.map (·.id)).subset hmem)

theorem onward_modifyQueue (x : Exchange α) (q : Nat) (f : Queue α → Queue α) : x.Onward (x.modifyQueue q f) :=
  .of_sublist rfl (.refl _)

theorem onward_remove (x : Exchange α) (id : Nat) : x.Onward (x.remove id).2 := .of_sublist rfl List.filter_sublist

theorem onward_close (x : Exchange α) : x.Onward x.close.2 := .of_sublist rfl (List.nil_sublist _)

theorem onward_fanOut (x : Exchange α) (a : α) : x.Onward (x.fanOut a).2 :=
  .of_sublist (x.fanOut_frame a).1 (x.fanOut_entries_sublist a)

theorem onward_receive (x : Exchange α) (q : Nat) : x.Onward (x.receive q).2 := by
  rw [receive_snd]
  exact x.onward_modifyQueue q _

/-- Who comes has a new id. -/
theorem onward_add (x : Exchange α) (capacity : Nat) : x.Onward (x.add capacity).2 := by
  cases hopen : x.isOpen with
  | false =>
    rw [add_of_closed hopen]
    exact .of_sublist rfl (.refl _)
  | true =>
    rw [add_of_open hopen]
    refine ⟨Nat.le_succ _, fun id hid => ?_⟩
    have hid : id ∈ (x.entries ++ [(⟨x.nextId, x.queues.length⟩ : Entry)]).map (·.id) := hid
    rw [List.map_append, List.mem_append] at hid
    rcases hid with hid | hid
    · exact .inl hid
    · obtain rfl := List.mem_singleton.1 hid
      exact .inr (Nat.le_refl _)

/-- **Every operation goes on.** -/
theorem onward_apply (x : Exchange α) (op : Operation α) : x.Onward (x.apply op) := by
  cases op with
  | add capacity => exact x.onward_add capacity
  | remove id => exact x.onward_remove id
  | close => exact x.onward_close
  | fanOut a => exact x.onward_fanOut a
  | receive q => exact x.onward_receive q
  | removeAll ids => exact .of_sublist rfl List.filter_sublist
  | hold | release _ | closeReader _ | dropReader _ => exact .of_sublist rfl (.refl _)
  | offer i a =>
    show x.Onward (x.offerHeld i a)
    cases hnext : x.nextHeld? i with
    | none =>
      rw [offerHeld_of_none hnext]
      exact .refl x
    | some e =>
      obtain ⟨es, hheld⟩ := (x.nextHeld?_eq_some_iff i e).1 hnext
      rw [offerHeld_of_cons hheld]
      exact .of_sublist rfl (.refl _)

end Exchange

/-! ## §2. Feeds. -/

namespace LogFeed

/-- Handles keep their places. -/
structure Onward (f f' : LogFeed) : Prop where
  exchange : f.exchange.Onward f'.exchange
  handles : f.handles <+: f'.handles

theorem Onward.refl (f : LogFeed) : f.Onward f := ⟨.refl _, List.prefix_rfl⟩

theorem Onward.trans {f f' f'' : LogFeed} (h : f.Onward f') (h' : f'.Onward f'') : f.Onward f'' :=
  ⟨h.exchange.trans h'.exchange, h.handles.trans h'.handles⟩

/-- What is done with the exchange alone. -/
theorem Onward.of_exchange {f : LogFeed} {x : Exchange CallRecord} (h : f.exchange.Onward x) (intake : Queue CallRecord)
    (running : Bool) : f.Onward { f with exchange := x, intake, running } := ⟨h, List.prefix_rfl⟩

theorem onward_subscribe (f : LogFeed) : f.Onward f.subscribe.2 := by
  obtain ⟨reason, heq⟩ | heq | ⟨-, heq⟩ := f.subscribe_cases
  · rw [heq]
    exact .refl f
  · rw [heq]
    exact .refl f
  · rw [heq]
    exact ⟨f.exchange.onward_add _, List.prefix_append _ _⟩

theorem onward_receive (f : LogFeed) (s : Nat) : f.Onward (f.receive s).2 := by
  rcases f.receive_cases s with ⟨r, e, x', -, hfound, heq⟩ | heq | heq
  · have hreceive := f.exchange.onward_receive e.queue
    rw [hfound] at hreceive
    rw [heq]
    exact .of_exchange hreceive f.intake f.running
  · rw [heq]
    exact .refl f
  · rw [heq]
    exact .refl f

theorem onward_drop (f : LogFeed) (s : Nat) : f.Onward (f.drop s) := by
  unfold drop
  split
  · exact .refl f
  · exact .of_exchange ((f.exchange.onward_remove _).trans (Exchange.onward_modifyQueue _ _ _)) f.intake f.running

theorem onward_publish (f : LogFeed) (r : CallRecord) (m : Metrics) : f.Onward (f.publish r m).2.1 := by
  unfold publish
  split
  · exact ⟨.refl _, List.prefix_rfl⟩
  · exact .refl f
  · exact .refl f

theorem onward_dispatch (f : LogFeed) (m : Metrics) : f.Onward (f.dispatch m).1 := by
  cases hdue : f.due? with
  | none =>
    rw [dispatch_of_idle hdue]
    exact .refl f
  | some r =>
    obtain ⟨hrunning, rest, -, hreceive⟩ := of_due?_eq_some hdue
    rw [dispatch_of_due hrunning hreceive]
    exact .of_exchange (f.exchange.onward_fanOut r) _ f.running

end LogFeed

namespace StatsFeed

/-- The entries of the handles, by their places. -/
def handles (f : StatsFeed) : List Entry := f.subscribers.map (·.entry)

/-- Handles keep their places. -/
structure Onward (f f' : StatsFeed) : Prop where
  exchange : f.exchange.Onward f'.exchange
  handles : f.handles <+: f'.handles

theorem Onward.refl (f : StatsFeed) : f.Onward f := ⟨.refl _, List.prefix_rfl⟩

theorem Onward.trans {f f' f'' : StatsFeed} (h : f.Onward f') (h' : f'.Onward f'') : f.Onward f'' :=
  ⟨h.exchange.trans h'.exchange, h.handles.trans h'.handles⟩

/-- What is done with the exchange alone. -/
theorem Onward.of_exchange {f : StatsFeed} {x : Exchange CallRecord} (h : f.exchange.Onward x) :
    f.Onward { f with exchange := x } := ⟨h, List.prefix_rfl⟩

theorem onward_subscribe (f : StatsFeed) (now period : Nat) : f.Onward (f.subscribe now period).2 := by
  rcases f.subscribe_cases now period with ⟨reason, heq⟩ | heq | ⟨-, -, heq⟩ | ⟨ticker, -, -, heq⟩
  · rw [heq]
    exact .refl f
  · rw [heq]
    exact .refl f
  · rw [heq]
    exact .of_exchange ((f.exchange.onward_add _).trans (Exchange.onward_modifyQueue _ _ _))
  · rw [heq]
    refine ⟨f.exchange.onward_add _, ?_⟩
    show f.subscribers.map (·.entry) <+: (f.subscribers ++ [(_ : StatsSubscriber)]).map (·.entry)
    rw [List.map_append]
    exact List.prefix_append _ _

/-- Who reports or counts keeps its entry. -/
theorem handles_set {f : StatsFeed} {s : Nat} {sub sub' : StatsSubscriber} (hsub : f.subscribers[s]? = some sub)
    (hentry : sub'.entry = sub.entry) (x : Exchange CallRecord) :
    ({ f with exchange := x, subscribers := f.subscribers.set s sub' } : StatsFeed).handles = f.handles :=
  entries_set hsub hentry

theorem onward_turn (tickFirst : Bool) (f : StatsFeed) (s now : Nat) : f.Onward (f.turn tickFirst s now).2 := by
  rcases f.turn_cases tickFirst s now with ⟨sub, hsub, heq⟩ | ⟨sub, r, x', hsub, hreceive, heq⟩ | heq | heq
  · have htaken : f.exchange.Onward (f.takeQueued sub.entry).2.exchange
        ∧ (f.takeQueued sub.entry).2.subscribers = f.subscribers := by
      unfold takeQueued
      split
      · exact ⟨.refl _, rfl⟩
      · exact ⟨f.exchange.onward_modifyQueue _ _, rfl⟩
    have hset : (f.takeQueued sub.entry).2.subscribers[s]? = some sub := by rw [htaken.2, hsub]
    let reported : StatsSubscriber := { sub with ticker := sub.ticker.take now, live := {} }
    have hhandles : ((f.takeQueued sub.entry).2.subscribers.set s reported).map (·.entry) = f.handles := by
      rw [entries_set hset (by rfl), htaken.2, handles]
    rw [heq]
    exact ⟨htaken.1, [], (List.append_nil _).trans hhandles.symm⟩
  · have hreceive' := f.exchange.onward_receive sub.entry.queue
    rw [hreceive] at hreceive'
    rw [heq]
    exact ⟨hreceive', [], (List.append_nil _).trans (handles_set hsub (by rfl) x').symm⟩
  · rw [heq]
    exact .refl f
  · rw [heq]
    exact .refl f

theorem onward_drop (f : StatsFeed) (s : Nat) : f.Onward (f.drop s) := by
  unfold drop
  split
  · exact .refl f
  · exact .of_exchange ((f.exchange.onward_remove _).trans (Exchange.onward_modifyQueue _ _ _))

end StatsFeed

/-! ## §3. The hub. -/

namespace Hub

variable {hub hub' hub'' : Hub}

/-- Both feeds go on. -/
structure Onward (hub hub' : Hub) : Prop where
  log : hub.log.Onward hub'.log
  stats : hub.stats.Onward hub'.stats

theorem Onward.refl (hub : Hub) : hub.Onward hub := ⟨.refl _, .refl _⟩

theorem Onward.trans (h : hub.Onward hub') (h' : hub'.Onward hub'') : hub.Onward hub'' :=
  ⟨h.log.trans h'.log, h.stats.trans h'.stats⟩

theorem Use.onward (h : hub.Use hub') : hub.Onward hub' := by
  cases h with
  | subscribeLog => exact ⟨hub.log.onward_subscribe, .refl _⟩
  | receiveLog s => exact ⟨hub.log.onward_receive s, .refl _⟩
  | dropLog s => exact ⟨hub.log.onward_drop s, .refl _⟩
  | subscribeStats now period => exact ⟨.refl _, hub.stats.onward_subscribe now period⟩
  | turnStats tickFirst s now => exact ⟨.refl _, hub.stats.onward_turn tickFirst s now⟩
  | dropStats s => exact ⟨.refl _, hub.stats.onward_drop s⟩

theorem Uses.onward (h : hub.Uses hub') : hub.Onward hub' := by
  induction h with
  | refl => exact .refl hub
  | tail _ huse ih => exact ih.trans huse.onward

/-- Something that others do while a handler is at work: other handlers use the
feeds, calls are observed and counted, the worker hands out records, and a
shutdown ends the feeds.  Whatever is done step by step with the subscribers of a
feed and their queues may happen too. -/
inductive Happening (hub : Hub) : Hub → Prop where
  | use {hub' : Hub} : hub.Use hub' → Happening hub hub'
  | observed (known : Bool) (wall : Int64) (call : Call) : Happening hub (hub.observe known wall call)
  | counted (metrics : Metrics) : Happening hub { hub with metrics }
  | dispatched (metrics : Metrics) : Happening hub { hub with log := (hub.log.dispatch metrics).1 }
  | log (op : Exchange.Operation CallRecord) :
      Happening hub { hub with log := { hub.log with exchange := hub.log.exchange.apply op } }
  | stats (op : Exchange.Operation CallRecord) :
      Happening hub { hub with stats := { hub.stats with exchange := hub.stats.exchange.apply op } }
  | logStopped : Happening hub hub.stopLog
  | statsStopped : Happening hub hub.stopStats

/-- **Whatever others do, the feeds go on.** -/
theorem Happening.onward (h : hub.Happening hub') : hub.Onward hub' := by
  cases h with
  | use huse => exact huse.onward
  | observed known wall call =>
    let r := CallRecord.ofCall wall call
    refine ⟨hub.log.onward_publish r _, ?_⟩
    exact .of_exchange (hub.stats.exchange.onward_fanOut r)
  | counted metrics => exact ⟨.refl _, .refl _⟩
  | dispatched metrics => exact ⟨hub.log.onward_dispatch metrics, .refl _⟩
  | log op => exact ⟨.of_exchange (hub.log.exchange.onward_apply op) _ _, .refl _⟩
  | stats op => exact ⟨.refl _, .of_exchange (hub.stats.exchange.onward_apply op)⟩
  | logStopped => exact ⟨.of_exchange hub.log.exchange.onward_close _ _, .refl _⟩
  | statsStopped => exact ⟨.refl _, .of_exchange hub.stats.exchange.onward_close⟩

end Hub

end CallGateway
