/-
  CallGateway.Proofs.StatsFeed.Rush
  ─────────────────────────────────
  **SEVERAL RECORDS ON THEIR WAY TO THE STATISTICS.**

  Whoever observes a call hands its record to the subscribers of the statistics
  itself.  So several records may be on their way at once, and between any two
  offers subscribers come, count, report and go.  A rush goes through these
  steps in any order.  With nothing in between, the steps of a record are
  those of the feed (`run_publish`).

  A subscriber may be registered and then not get its handle, if the attempt
  breaks off.  It is a stray from then on, until a record for which it was noted
  down has been handed out, or the feed is shut down.
-/
import CallGateway.Proofs.Exchange.Presence
import CallGateway.Proofs.StatsFeed.Journal

namespace CallGateway

namespace StatsFeed

open Exchange (Flight)

/-! ## §1. The rush. -/

/-- A record that is being handed out, and those who were noted down for it. -/
structure Delivery where
  flight : Flight CallRecord
  noted : List Entry

/-- A feed of statistics, and the records that are on their way. -/
structure Rush where
  feed : StatsFeed
  metrics : Metrics
  now : Nat := 0
  -- The latest record comes first.
  deliveries : List Delivery := []
  -- The places of the subscribers that have gone.
  left : List Nat := []
  -- Those who were registered by an attempt that broke off.
  strays : List Entry := []

namespace Rush

/-- A step of somebody. -/
inductive Event where
  -- The subscribers are noted down for a record.
  | launch (r : CallRecord)
  -- The record at this place is offered to the next of them.
  | offer (i : Nat)
  -- The record at this place was offered to all of them.
  | land (i : Nat)
  | subscribe (period : Nat)
  | advance (ms : Nat)
  | turn (s : Nat) (tickFirst : Bool)
  | poll (s : Nat) (choices : List Bool)
  | drop (s : Nat)
  | shutdown
  deriving DecidableEq

/-- The step is one of those that hand out a record. -/
def Event.handsOut : Event → Bool
  | launch _ | offer _ | land _ => true
  | _ => false

/-- A feed without subscribers. -/
def start (subscriberBuffer : Nat) (m : Metrics) : Rush :=
  { feed := StatsFeed.start subscriberBuffer, metrics := m }

/-- The record at a place is offered to the next of those who were noted down. -/
def offer (v : Rush) (i : Nat) (d : Delivery) : Rush :=
  let (flight, x) := Exchange.offerNext d.flight v.feed.exchange
  { v with
    feed := { v.feed with exchange := { x with held := x.held.set i flight.todo } }
    deliveries := v.deliveries.set i { d with flight } }

/-- The record at a place was offered to all of them, and those who refused it
are struck off. -/
def land (v : Rush) (i : Nat) (d : Delivery) : Rush :=
  let (out, x) := Exchange.land d.flight v.feed.exchange
  { v with
    feed := { v.feed with exchange := x.release i }
    metrics := v.metrics.countDropped .statsSubscriber out.lagged
    deliveries := v.deliveries.eraseIdx i
    strays := v.strays.filter (· ∉ d.noted) }

/-- The rush after a step. -/
def next (v : Rush) : Event → Rush
  | .launch r => { v with
      feed := { v.feed with exchange := v.feed.exchange.hold }
      deliveries := ⟨v.feed.exchange.launch r, v.feed.exchange.entries⟩ :: v.deliveries }
  | .offer i =>
    match v.deliveries[i]? with
    | none => v
    | some d => if d.flight.todo = [] then v else v.offer i d
  | .land i =>
    match v.deliveries[i]? with
    | none => v
    | some d => if d.flight.todo = [] then v.land i d else v
  | .subscribe period =>
    match v.feed.subscribe v.now period with
    | (.brokenOff, feed) =>
      { v with feed, strays := v.strays ++ feed.exchange.entries.drop v.feed.exchange.entries.length }
    | (_, feed) => { v with feed }
  | .advance ms => { v with now := v.now + ms }
  | .turn s tickFirst => { v with feed := (v.feed.turn tickFirst s v.now).2 }
  | .poll s choices => { v with feed := (v.feed.poll choices s v.now).2 }
  | .drop s =>
    { v with feed := v.feed.drop s, left := if s < v.feed.subscribers.length then v.left ++ [s] else v.left }
  | .shutdown => { v with feed := v.feed.shutdown.2, strays := [] }

/-- The rush after some steps. -/
def run (v : Rush) (events : List Event) : Rush := events.foldl next v

/-- The entries of all that ever got a handle. -/
def handles (v : Rush) : List Entry := v.feed.subscribers.map (·.entry)

/-- The entries of the subscribers that have come and have not gone. -/
def live (v : Rush) : List Entry := Exchange.present v.handles v.left

@[simp] theorem run_nil (v : Rush) : v.run [] = v := rfl

@[simp] theorem run_cons (v : Rush) (e : Event) (events : List Event) :
    v.run (e :: events) = (v.next e).run events := rfl

theorem run_append (v : Rush) (events more : List Event) : v.run (events ++ more) = (v.run events).run more :=
  List.foldl_append

/-! ## §2. The steps of the feed. -/

section

variable {v : Rush}

theorem next_offer {i : Nat} {d : Delivery} {e : Entry} {es : List Entry} (hd : v.deliveries[i]? = some d)
    (htodo : d.flight.todo = e :: es) :
    v.next (.offer i) = { v with
      feed := { v.feed with
        exchange := { v.feed.exchange.modifyQueue e.queue (·.offer d.flight.item) with
          held := v.feed.exchange.held.set i es } }
      deliveries := v.deliveries.set i { d with
        flight := ({ d.flight with todo := es } : Flight CallRecord).note e (v.feed.exchange.verdictOf e) } } := by
  have hne : d.flight.todo ≠ [] := by simp [htodo]
  unfold next
  simp only [hd, if_neg hne, offer, Exchange.offerNext_eq htodo, Flight.note_todo]
  rfl

theorem next_land {i : Nat} {d : Delivery} (hd : v.deliveries[i]? = some d) (htodo : d.flight.todo = []) :
    v.next (.land i) = v.land i d := by
  unfold next
  simp only [hd]
  exact if_pos htodo

/-- A step that offers a record changes something only where a subscriber is
left. -/
theorem next_offer_cases (v : Rush) (i : Nat) :
    v.next (.offer i) = v ∨ ∃ d e es, v.deliveries[i]? = some d ∧ d.flight.todo = e :: es := by
  cases hd : v.deliveries[i]? with
  | none =>
    refine .inl ?_
    unfold next
    simp only [hd]
  | some d =>
    cases htodo : d.flight.todo with
    | nil =>
      refine .inl ?_
      unfold next
      simp only [hd, htodo, if_true]
    | cons e es => exact .inr ⟨d, e, es, rfl, htodo⟩

/-- A step that lands a record changes something only where none is left. -/
theorem next_land_cases (v : Rush) (i : Nat) :
    v.next (.land i) = v ∨ ∃ d, v.deliveries[i]? = some d ∧ d.flight.todo = [] := by
  cases hd : v.deliveries[i]? with
  | none =>
    refine .inl ?_
    unfold next
    simp only [hd]
  | some d =>
    by_cases htodo : d.flight.todo = []
    · exact .inr ⟨d, rfl, htodo⟩
    · refine .inl ?_
      unfold next
      simp only [hd, if_neg htodo]

/-- An attempt to subscribe changes nothing, or it leaves a stray, or there is a
new subscriber. -/
theorem next_subscribe_cases (v : Rush) (period : Nat) :
    v.next (.subscribe period) = v
      ∨ (v.feed.exchange.isOpen = true ∧ Ticker.start? v.now period = none ∧ v.next (.subscribe period) = { v with
          feed := { v.feed with
            exchange := (v.feed.exchange.add v.feed.subscriberBuffer).2.dropReader v.feed.exchange.queues.length }
          strays := v.strays ++ [⟨v.feed.exchange.nextId, v.feed.exchange.queues.length⟩] })
      ∨ ∃ ticker, v.feed.exchange.isOpen = true ∧ v.next (.subscribe period) = { v with
          feed := { v.feed with
            exchange := (v.feed.exchange.add v.feed.subscriberBuffer).2
            subscribers := v.feed.subscribers
              ++ [⟨⟨v.feed.exchange.nextId, v.feed.exchange.queues.length⟩, ticker, {}⟩] } } := by
  unfold next
  rcases v.feed.subscribe_cases v.now period with
    ⟨reason, heq⟩ | heq | ⟨hopen, hticker, heq⟩ | ⟨ticker, hopen, -, heq⟩
  · refine .inl ?_
    simp only [heq]
  · refine .inl ?_
    simp only [heq, List.drop_length, List.append_nil]
  · have hentries : ((v.feed.exchange.add v.feed.subscriberBuffer).2.dropReader
        v.feed.exchange.queues.length).entries.drop v.feed.exchange.entries.length
        = [⟨v.feed.exchange.nextId, v.feed.exchange.queues.length⟩] := by
      show (v.feed.exchange.add v.feed.subscriberBuffer).2.entries.drop _ = _
      rw [Exchange.add_of_open hopen]
      exact List.drop_left
    refine .inr (.inl ⟨hopen, hticker, ?_⟩)
    simp only [heq, hentries]
  · refine .inr (.inr ⟨ticker, hopen, ?_⟩)
    simp only [heq]

/-- Whoever is refused changes nothing. -/
theorem next_subscribe_of_refused {period : Nat} {reason : Failure}
    (h : (v.feed.subscribe v.now period).1 = .refused reason) : v.next (.subscribe period) = v := by
  unfold next
  rcases v.feed.subscribe_cases v.now period with ⟨reason', heq⟩ | heq | ⟨-, -, heq⟩ | ⟨ticker, -, -, heq⟩
  · simp only [heq]
  · rw [heq] at h
    cases h
  · rw [heq] at h
    cases h
  · rw [heq] at h
    cases h

/-- With nobody in between, the latest record is offered to all that are left. -/
theorem run_offers (es : List Entry) {f : Flight CallRecord} (htodo : f.todo = es) {noted : List Entry}
    {rest : List Delivery} {held : List (List Entry)} {x : Exchange CallRecord}
    (hdeliveries : v.deliveries = ⟨f, noted⟩ :: rest) (hx : v.feed.exchange = { x with held := es :: held }) :
    ∃ f' x', f'.todo = [] ∧ Exchange.offerAll.go es f x = (f', x')
      ∧ v.run (List.replicate es.length (.offer 0))
        = { v with
            feed := { v.feed with exchange := { x' with held := [] :: held } }
            deliveries := ⟨f', noted⟩ :: rest } := by
  induction es generalizing f v x with
  | nil =>
    refine ⟨f, x, htodo, rfl, ?_⟩
    show v = { v with
      feed := { v.feed with exchange := { x with held := [] :: held } }, deliveries := ⟨f, noted⟩ :: rest }
    rw [← hx, ← hdeliveries]
  | cons e es ih =>
    have hnext := next_offer (v := v) (i := 0) (d := ⟨f, noted⟩) (by rw [hdeliveries]; rfl) htodo
    have hverdict : v.feed.exchange.verdictOf e = x.verdictOf e := by
      rw [hx]
      rfl
    have hgo : Exchange.offerAll.go (e :: es) f x
        = Exchange.offerAll.go es ({ f with todo := es }.note e (x.verdictOf e))
            (x.modifyQueue e.queue (·.offer f.item)) := by
      rw [Exchange.offerAll.go, Exchange.offerNext_eq htodo]
    rw [hgo, List.length_cons, List.replicate_succ, run_cons, hnext, hverdict]
    refine ih (Flight.note_todo _ _ _) (by rw [hdeliveries]; rfl) ?_
    rw [hx]
    rfl

/-- **A record that is handed out with nothing in between** is a step of the
feed.  Whoever was registered before and is a stray is none after it. -/
theorem run_publish (v : Rush) (r : CallRecord) :
    v.run (.launch r :: List.replicate v.feed.exchange.entries.length (.offer 0) ++ [.land 0]) = { v with
      feed := (v.feed.publish r v.metrics).2.1
      metrics := (v.feed.publish r v.metrics).2.2
      strays := v.strays.filter (· ∉ v.feed.exchange.entries) } := by
  obtain ⟨f, x, htodo, hall, hoffers⟩ := run_offers (v := v.next (.launch r)) (x := v.feed.exchange)
    v.feed.exchange.entries rfl rfl rfl
  have hfanOut : v.feed.exchange.fanOut r = Exchange.land f x :=
    congrArg (fun p : Flight CallRecord × Exchange CallRecord => Exchange.land p.1 p.2) hall
  have hsame : (v.feed.exchange.fanOut r).2 = { (v.feed.exchange.fanOut r).2 with held := v.feed.exchange.held } := by
    obtain ⟨-, -, hkept, -⟩ := v.feed.exchange.fanOut_frame r
    rw [← hkept]
  rw [List.cons_append, run_cons, run_append, hoffers, run_cons, run_nil,
    next_land (d := ⟨f, v.feed.exchange.entries⟩) rfl htodo, publish_eq, hsame, hfanOut]
  rfl

end

end Rush

end StatsFeed

end CallGateway
