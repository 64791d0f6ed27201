/-
  CallGateway.Proofs.StreamTask.Subscription
  ──────────────────────────────────────────
  **A HANDLER AND ITS SUBSCRIPTION.**

  A handler that follows a feed does the same things whichever feed it is: it
  asks its subscription for a message, holds on to the line of it until there
  is room, and quits the feed when it is done.  A subscription stands for
  either feed, and `Deed` says once all that one step of its handler can do.
  A wait for statistics may look at the tick or at the record first; a step
  takes these choices as an argument, and with none it is the handler's own
  step (`stepBy_nil`).
-/
import CallGateway.Proofs.Gateway.Onward
import CallGateway.Proofs.Line
import CallGateway.Proofs.OpenStream.Conversation

namespace CallGateway

/-! ## §1. Subscriptions. -/

/-- What is found, seen as something else. -/
def Polled.map {α β : Type} (f : α → β) : Polled α → Polled β
  | .ready a => .ready (f a)
  | .pending => .pending
  | .ended => .ended

/-- What is there to be taken. -/
def Polled.ready? {α : Type} : Polled α → Option α
  | .ready a => some a
  | _ => none

/-- The subscription of a handler: the feed, and the place that it has there. -/
inductive Subscription where
  | log (place : Nat)
  | stats (place : Nat)

namespace Subscription

/-- The subscribers of the feed. -/
def exchange (hub : Hub) : Subscription → Exchange CallRecord
  | log _ => hub.log.exchange
  | stats _ => hub.stats.exchange

/-- The subscriber, if there is one at the place. -/
def entry? (hub : Hub) : Subscription → Option Entry
  | log place => hub.log.handles[place]?
  | stats place => hub.stats.handles[place]?

/-- It looks for the next message: an event for a record of a call, or a report
with the time of it. -/
def ask (choices : List Bool) (now : Instant) (hub : Hub) : Subscription → Polled Message × Hub
  | log place =>
    let (found, feed) := hub.log.receive place
    (found.map fun r => .event r.toEvent, { hub with log := feed })
  | stats place =>
    let (found, feed) := hub.stats.poll choices place now.ms
    (found.map fun snapshot => .stat (snapshot.toStat now.wall), { hub with stats := feed })

/-- It gives up its place. -/
def quit (hub : Hub) : Subscription → Hub
  | log place => { hub with log := hub.log.drop place }
  | stats place => { hub with stats := hub.stats.drop place }

/-- What a handler is doing that has this subscription. -/
def following (inHand : Option Bytes) : Subscription → Activity
  | log place => .followingLog place inHand
  | stats place => .followingStats place inHand

/-- Whoever follows a feed has not ended. -/
theorem following_ne_ended (sub : Subscription) (inHand : Option Bytes) (result : Outcome Unit) :
    sub.following inHand ≠ .ended result := by
  cases sub with
  | log place => exact nofun
  | stats place => exact nofun

section
variable {sub : Subscription} {hub hub' : Hub} {e : Entry}

theorem onward_ask (choices : List Bool) (now : Instant) (hub : Hub) (sub : Subscription) :
    hub.Onward (sub.ask choices now hub).2 := by
  cases sub with
  | log place => exact (Hub.Use.receiveLog place).onward
  | stats place => exact (hub.uses_poll choices place now.ms).onward

theorem onward_quit (hub : Hub) (sub : Subscription) : hub.Onward (sub.quit hub) := by
  cases sub with
  | log place => exact (Hub.Use.dropLog place).onward
  | stats place => exact (Hub.Use.dropStats place).onward

/-- A feed that goes on keeps the subscriber at its place. -/
theorem onward_entry? (h : hub.Onward hub') (hentry : sub.entry? hub = some e) : sub.entry? hub' = some e := by
  have hprefix : ∀ {l l' : List Entry} {place : Nat}, l <+: l' → l[place]? = some e → l'[place]? = some e := by
    rintro l l' place ⟨more, rfl⟩ hfound
    rw [List.getElem?_append_left (List.getElem?_eq_some_iff.1 hfound).1, hfound]
  cases sub with
  | log place => exact hprefix h.log.handles hentry
  | stats place => exact hprefix h.stats.handles hentry

theorem onward_exchange (h : hub.Onward hub') (sub : Subscription) :
    (sub.exchange hub).Onward (sub.exchange hub') := by
  cases sub with
  | log place => exact h.log.exchange
  | stats place => exact h.stats.exchange

/-- A subscription that is given up is not registered. -/
theorem notMem_quit (h : sub.entry? hub = some e) : e.id ∉ (sub.exchange (sub.quit hub)).ids := by
  have hremoved : ∀ x : Exchange CallRecord, e.id ∉ ((x.remove e.id).2.dropReader e.queue).ids := by
    intro x hmem
    have hmem : e.id ∈ (x.entries.filter (·.id != e.id)).map (·.id) := hmem
    obtain ⟨e', he', hid⟩ := List.mem_map.1 hmem
    simp [hid] at he'
  cases sub with
  | log place =>
    have hhandle : hub.log.handles[place]? = some e := h
    show e.id ∉ (hub.log.drop place).exchange.ids
    unfold LogFeed.drop
    rw [hhandle]
    exact hremoved hub.log.exchange
  | stats place =>
    have hhandle : (hub.stats.subscribers.map (·.entry))[place]? = some e := h
    rw [List.getElem?_map] at hhandle
    obtain ⟨subscriber, hsubscriber, rfl⟩ := Option.map_eq_some_iff.1 hhandle
    show subscriber.entry.id ∉ (hub.stats.drop place).exchange.ids
    unfold StatsFeed.drop
    rw [hsubscriber]
    exact hremoved hub.stats.exchange

end

end Subscription

/-! ## §2. What keeps a subscription waiting. -/

/-- A reader waits as long as someone could put something into its queue. -/
theorem Exchange.hasSender_of_receive {α : Type} {x : Exchange α} {p : Nat} (h : (x.receive p).1 = .empty) :
    x.hasSender p = true := by
  cases hq : x.queue? p with
  | none =>
    unfold receive at h
    rw [hq] at h
    cases h
  | some q =>
    rw [receive_fst hq] at h
    unfold Queue.receive at h
    cases hsender : x.hasSender p with
    | true => rfl
    | false =>
      rw [hsender] at h
      split at h
      · cases h
      · cases h
      · cases h
      · cases h

namespace LogFeed

theorem hasSender_of_receive {f : LogFeed} {s : Nat} (h : (f.receive s).1 = .pending) :
    ∃ e, f.handles[s]? = some e ∧ f.exchange.hasSender e.queue = true := by
  unfold receive at h
  cases hhandle : f.handles[s]? with
  | none =>
    rw [hhandle] at h
    cases h
  | some e =>
    rw [hhandle] at h
    refine ⟨e, rfl, Exchange.hasSender_of_receive ?_⟩
    rcases hfound : f.exchange.receive e.queue with ⟨_ | _ | _ | _, x⟩
    · simp [hfound] at h
    · rfl
    · simp [hfound] at h
    · simp [hfound] at h

end LogFeed

namespace StatsFeed

theorem hasSender_of_turn {f : StatsFeed} {tickFirst : Bool} {s now : Nat}
    (h : (f.turn tickFirst s now).1 = .done .pending) :
    ∃ sub, f.subscribers[s]? = some sub ∧ f.exchange.hasSender sub.entry.queue = true := by
  unfold turn at h
  cases hsub : f.subscribers[s]? with
  | none =>
    rw [hsub] at h
    cases h
  | some sub =>
    rw [hsub] at h
    refine ⟨sub, rfl, Exchange.hasSender_of_receive ?_⟩
    simp only at h
    split at h
    · cases h
    · rcases hfound : f.exchange.receive sub.entry.queue with ⟨_ | _ | _ | _, x⟩
      · simp [hfound] at h
      · rfl
      · simp [hfound] at h
      · simp [hfound] at h

/-- A record that is counted is queued no more. -/
theorem queued_of_receive {f : StatsFeed} {s : Nat} {sub : StatsSubscriber} {r : CallRecord}
    {x' : Exchange CallRecord} (hsub : f.subscribers[s]? = some sub)
    (hreceive : f.exchange.receive sub.entry.queue = (.item r, x')) (live : Snapshot) :
    ({ f with exchange := x', subscribers := f.subscribers.set s { sub with live } } : StatsFeed).queued s + 1
      = f.queued s := by
  obtain ⟨q, rest, hq, hitems, -, rfl⟩ := Exchange.of_receive_eq_item hreceive
  have hset : (f.subscribers.set s { sub with live })[s]? = some { sub with live } :=
    List.getElem?_set_self (List.getElem?_eq_some_iff.1 hsub).1
  have hmodified : (f.exchange.modifyQueue sub.entry.queue fun _ => { q with items := rest }).queue? sub.entry.queue
      = some { q with items := rest } := by
    show (f.exchange.queues.modify sub.entry.queue _)[sub.entry.queue]? = _
    have hq : f.exchange.queues[sub.entry.queue]? = some q := hq
    rw [List.getElem?_modify_eq, hq]
    rfl
  unfold queued
  simp only [hset, hsub, hmodified, hq, hitems, Option.map_some, Option.getD_some, List.length_cons]

/-- A subscriber that takes turns for as long as there are records to count
waits in the end only if there could be more. -/
theorem hasSender_of_go {s now : Nat} (fuel : Nat) : ∀ {f : StatsFeed} (choices : List Bool), f.queued s < fuel →
    (poll.go s now fuel choices f).1 = .pending →
      ∃ sub, f.subscribers[s]? = some sub ∧ f.exchange.hasSender sub.entry.queue = true := by
  induction fuel with
  | zero => exact fun _ hlt => absurd hlt (Nat.not_lt_zero _)
  | succ fuel ih =>
    intro f choices hlt hpending
    unfold poll.go at hpending
    rcases f.turn_cases (choices.head?.getD false) s now with
      ⟨sub, -, heq⟩ | ⟨sub, r, x', hsub, hreceive, heq⟩ | heq | heq
    · rw [heq] at hpending
      cases hpending
    · rw [heq] at hpending
      have hqueued := queued_of_receive hsub hreceive (sub.live.count r)
      obtain ⟨sub', hsub', hsender⟩ := ih choices.tail (by omega) hpending
      have hset : (f.subscribers.set s { sub with live := sub.live.count r })[s]? = some sub' := hsub'
      rw [List.getElem?_set_self (List.getElem?_eq_some_iff.1 hsub).1] at hset
      obtain rfl := Option.some.inj hset
      obtain ⟨q, rest, -, -, -, rfl⟩ := Exchange.of_receive_eq_item hreceive
      exact ⟨sub, hsub, hsender⟩
    · exact hasSender_of_turn (congrArg Prod.fst heq)
    · rw [heq] at hpending
      cases hpending

end StatsFeed

/-- **A subscription waits only if someone could still hand it a record.** -/
theorem Subscription.hasSender_of_ask {sub : Subscription} {choices : List Bool} {now : Instant} {hub : Hub}
    (h : (sub.ask choices now hub).1 = .pending) :
    ∃ e, sub.entry? hub = some e ∧ (sub.exchange hub).hasSender e.queue = true := by
  have of_map : ∀ {α β : Type} {f : α → β} {p : Polled α}, p.map f = .pending → p = .pending := by
    intro α β f p hp
    cases p with
    | pending => rfl
    | ready a => cases hp
    | ended => cases hp
  cases sub with
  | log place => exact LogFeed.hasSender_of_receive (of_map h)
  | stats place =>
    have hpending : (hub.stats.poll choices place now.ms).1 = .pending := of_map h
    obtain ⟨subscriber, hsubscriber, hsender⟩ := StatsFeed.hasSender_of_go _ choices (Nat.lt_succ_self _) hpending
    refine ⟨subscriber.entry, ?_, hsender⟩
    show (hub.stats.subscribers.map (·.entry))[place]? = _
    rw [List.getElem?_map, hsubscriber]
    rfl

/-! ## §3. A step of a handler. -/

namespace StreamTask

/-- One step of a handler, with the choices of a wait for statistics. -/
def stepBy (choices : List Bool) (heedPeer : Bool) (now : Instant) (t : StreamTask) (hub : Hub) :
    Bool × StreamTask × Hub :=
  match t.activity with
  | .followingStats s none =>
    if heedPeer && t.stream.isClosed then (true, t.leave hub)
    else match hub.stats.poll choices s now.ms with
      | (.ready snapshot, stats) =>
        let frame := encodeLine (snapshot.toStat now.wall)
        (true, { t with activity := .followingStats s (some frame) }, { hub with stats })
      | (.pending, stats) =>
        if t.stream.isClosed then (true, t.leave { hub with stats }) else (false, t, { hub with stats })
      | (.ended, stats) => (true, t.leave { hub with stats })
  | _ => t.step heedPeer now hub

/-- **Without choices it is the handler's own step.** -/
theorem stepBy_nil (heedPeer : Bool) (now : Instant) (t : StreamTask) (hub : Hub) :
    t.stepBy [] heedPeer now hub = t.step heedPeer now hub := by
  obtain ⟨activity, stream⟩ := t
  cases activity with
  | followingStats s inHand =>
    cases inHand with
    | none => rfl
    | some frame => rfl
  | _ => rfl

/-- The message that a handler takes from its subscription in a step. -/
def yielded? (choices : List Bool) (heedPeer : Bool) (now : Instant) (t : StreamTask) (hub : Hub) : Option Message :=
  match t.activity with
  | .followingLog s none => asked (.log s)
  | .followingStats s none => asked (.stats s)
  | _ => none
where
  -- A handler that heeds the end of the caller does not ask any more.
  asked (sub : Subscription) : Option Message :=
    if heedPeer && t.stream.isClosed then none else (sub.ask choices now hub).1.ready?

section
variable {t : StreamTask} {hub : Hub} {sub : Subscription} {inHand : Option Bytes}
  (choices : List Bool) (heedPeer : Bool) (now : Instant)

/-- A handler with nothing left to do ends as it should. -/
theorem stepBy_of_nil {ending : Outcome Unit} (h : t.activity = .performing [] ending) :
    t.stepBy choices heedPeer now hub = (true, { t with activity := .ended ending }, hub) := by
  obtain ⟨activity, stream⟩ := t
  obtain rfl : activity = .performing [] ending := h
  rfl

/-- After its end a handler does nothing. -/
theorem stepBy_of_ended {result : Outcome Unit} (h : t.activity = .ended result) :
    t.stepBy choices heedPeer now hub = (false, t, hub) := by
  obtain ⟨activity, stream⟩ := t
  obtain rfl : activity = .ended result := h
  rfl

theorem stepBy_of_brokenOff (h : t.activity = .brokenOff) : t.stepBy choices heedPeer now hub = (false, t, hub) := by
  obtain ⟨activity, stream⟩ := t
  obtain rfl : activity = .brokenOff := h
  rfl

/-- Only a handler that follows a feed takes anything. -/
theorem yielded?_of_performing {actions : List Action} {ending : Outcome Unit}
    (h : t.activity = .performing actions ending) : t.yielded? choices heedPeer now hub = none := by
  unfold yielded?
  rw [h]

theorem yielded?_of_ended {result : Outcome Unit} (h : t.activity = .ended result) :
    t.yielded? choices heedPeer now hub = none := by
  unfold yielded?
  rw [h]

/-- A handler that leaves its feed has ended well. -/
theorem leave_of_following (h : t.activity = sub.following inHand) (hub : Hub) :
    t.leave hub = ({ t with activity := .ended (.ok ()) }, sub.quit hub) := by
  unfold leave
  cases sub with
  | log place =>
    rw [h]
    rfl
  | stats place =>
    rw [h]
    rfl

/-- With a frame in hand, there is nothing else to be done. -/
theorem stepBy_of_inHand {frame : Bytes} (h : t.activity = sub.following (some frame)) :
    t.stepBy choices heedPeer now hub = t.hand frame (sub.following none) hub := by
  unfold stepBy step
  cases sub with
  | log place =>
    rw [h]
    rfl
  | stats place =>
    rw [h]
    rfl

/-- With none, the subscription is asked. -/
theorem stepBy_of_following (h : t.activity = sub.following none) :
    t.stepBy choices heedPeer now hub
      = if heedPeer && t.stream.isClosed then (true, t.leave hub)
        else match sub.ask choices now hub with
          | (.ready m, hub) => (true, { t with activity := sub.following (some m.line) }, hub)
          | (.pending, hub) => if t.stream.isClosed then (true, t.leave hub) else (false, t, hub)
          | (.ended, hub) => (true, t.leave hub) := by
  cases sub with
  | log place =>
    unfold stepBy step
    rw [h]
    simp only [Subscription.following, Subscription.ask]
    congr 1
    rcases hub.log.receive_cases place with ⟨r, e, x', -, -, heq⟩ | heq | heq
    · rw [heq]
      rfl
    · rw [heq]
      rfl
    · rw [heq]
      rfl
  | stats place =>
    unfold stepBy
    rw [h]
    simp only [Subscription.following, Subscription.ask]
    congr 1
    rcases hub.stats.poll choices place now.ms with ⟨_ | _ | _, stats⟩
    · rfl
    · rfl
    · rfl

theorem yielded?_of_inHand {frame : Bytes} (h : t.activity = sub.following (some frame)) :
    t.yielded? choices heedPeer now hub = none := by
  unfold yielded?
  cases sub with
  | log place =>
    rw [h]
    rfl
  | stats place =>
    rw [h]
    rfl

theorem yielded?_of_following (h : t.activity = sub.following none) :
    t.yielded? choices heedPeer now hub
      = if heedPeer && t.stream.isClosed then none else (sub.ask choices now hub).1.ready? := by
  unfold yielded?
  cases sub with
  | log place =>
    rw [h]
    rfl
  | stats place =>
    rw [h]
    rfl

end

/-! ## §4. All that a handler can do. -/

/-- What a handler does in one step that follows a feed: with the line that it
has in hand, with what its subscription has for it, and with what it takes of
that, it comes to this. -/
inductive Deed (sub : Subscription) (t : StreamTask) (hub : Hub) (asked : Polled Message × Hub) :
    Option Bytes → Option Message → Bool × StreamTask × Hub → Prop where
  | takes {m : Message} : asked.1 = .ready m →
      Deed sub t hub asked none (some m) (true, { t with activity := sub.following (some m.line) }, asked.2)
  | waits : asked.1 = .pending → t.stream.isClosed = false →
      Deed sub t hub asked none none (false, t, asked.2)
  -- The caller is gone, and the subscription is not asked.
  | turnsAway : t.stream.isClosed = true →
      Deed sub t hub asked none none (true, { t with activity := .ended (.ok ()) }, sub.quit hub)
  -- The feed has ended, or has nothing while the caller is gone.
  | quits : asked.1.ready? = none →
      Deed sub t hub asked none none (true, { t with activity := .ended (.ok ()) }, sub.quit asked.2)
  | sends {frame : Bytes} : t.stream.frames.verdict = .delivered →
      Deed sub t hub asked (some frame) none (true, ⟨sub.following none, { t.stream with
        frames := { t.stream.frames with items := t.stream.frames.items ++ [frame] } }⟩, hub)
  | holds {frame : Bytes} : t.stream.frames.verdict = .full →
      Deed sub t hub asked (some frame) none (false, t, hub)
  -- The caller is gone, and the frame goes nowhere.
  | loses {frame : Bytes} : t.stream.isClosed = true →
      Deed sub t hub asked (some frame) none (true, { t with activity := .ended (.ok ()) }, sub.quit hub)

/-- **A step is one of these deeds.** -/
theorem deed {t : StreamTask} {sub : Subscription} {inHand : Option Bytes} (h : t.activity = sub.following inHand)
    (choices : List Bool) (heedPeer : Bool) (now : Instant) (hub : Hub) :
    Deed sub t hub (sub.ask choices now hub) inHand (t.yielded? choices heedPeer now hub)
      (t.stepBy choices heedPeer now hub) := by
  cases inHand with
  | none =>
    rw [stepBy_of_following choices heedPeer now h, yielded?_of_following choices heedPeer now h]
    simp only [leave_of_following h]
    cases hheed : heedPeer && t.stream.isClosed with
    | true =>
      rw [if_pos rfl, if_pos rfl]
      exact .turnsAway (Bool.and_eq_true_iff.1 hheed).2
    | false =>
      rw [if_neg Bool.false_ne_true, if_neg Bool.false_ne_true]
      rcases hasked : sub.ask choices now hub with ⟨m | _ | _, hub'⟩
      · exact .takes rfl
      · cases hclosed : t.stream.isClosed with
        | true => exact .quits rfl
        | false => exact .waits rfl hclosed
      · exact .quits rfl
  | some frame =>
    rw [stepBy_of_inHand choices heedPeer now h, yielded?_of_inHand choices heedPeer now h]
    unfold hand FrameStream.push
    rw [leave_of_following h]
    cases hverdict : t.stream.frames.verdict with
    | delivered =>
      rw [Queue.offer_of_delivered frame hverdict]
      exact .sends hverdict
    | full => exact .holds hverdict
    | refused =>
      refine .loses ?_
      show (t.stream.frames.reader != .listening) = true
      exact bne_iff_ne.2 (Queue.verdict_eq_refused_iff.1 hverdict)

section
variable {sub : Subscription} {t : StreamTask} {hub : Hub} {asked : Polled Message × Hub} {inHand : Option Bytes}
  {taken : Option Message} {result : Bool × StreamTask × Hub}

/-- Once the caller is gone, a handler takes one message at most. -/
theorem Deed.of_closed (h : Deed sub t hub asked inHand taken result) (hclosed : t.stream.isClosed = true) :
    result.2.1.stream = t.stream ∧ (result.2.1.activity = .ended (.ok ())
      ∨ inHand = none ∧ ∃ frame, result.2.1.activity = sub.following (some frame)) := by
  have hrefused : t.stream.frames.verdict = .refused := Queue.verdict_eq_refused_iff.2 (bne_iff_ne.1 hclosed)
  cases h with
  | @takes m hready => exact ⟨rfl, .inr ⟨rfl, m.line, rfl⟩⟩
  | waits hpending hlistening => exact absurd hclosed (Bool.eq_false_iff.1 hlistening)
  | turnsAway | quits _ | loses _ => exact ⟨rfl, .inl rfl⟩
  | sends hverdict => exact absurd (hverdict.symm.trans hrefused) nofun
  | holds hverdict => exact absurd (hverdict.symm.trans hrefused) nofun

/-- A handler whose subscription has come to its end quits. -/
theorem Deed.of_ended (h : Deed sub t hub asked none taken result) (hasked : asked.1 = .ended) :
    result.2.1.activity = .ended (.ok ()) := by
  cases h with
  | takes hready => exact absurd (hasked.symm.trans hready) nofun
  | waits hpending _ => exact absurd (hasked.symm.trans hpending) nofun
  | turnsAway _ | quits _ => rfl

/-- A handler does nothing only while the caller is there, and only for want of
room or of a message. -/
theorem Deed.of_idle (h : Deed sub t hub asked inHand taken result) (hidle : result.1 = false) :
    t.stream.isClosed = false
      ∧ (t.stream.frames.capacity ≤ t.stream.frames.items.length ∨ asked.1 = .pending) := by
  cases h with
  | waits hpending hlistening => exact ⟨hlistening, .inr hpending⟩
  | holds hverdict =>
    have hlistening : t.stream.frames.reader = .listening := by
      by_contra hreader
      exact absurd (hverdict.symm.trans (Queue.verdict_eq_refused_iff.2 hreader)) nofun
    rw [Queue.verdict_of_listening hlistening] at hverdict
    refine ⟨?_, .inl ?_⟩
    · unfold FrameStream.isClosed
      rw [hlistening]
      rfl
    · by_contra hroom
      rw [if_neg hroom] at hverdict
      cases hverdict
  | takes _ | turnsAway _ | quits _ | sends _ | loses _ => cases hidle

end

end StreamTask

end CallGateway
