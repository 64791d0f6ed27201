/-
  CallGateway.Proofs.LogFeed.Shift
  ────────────────────────────────
  **THE WORKER OF A FEED, STEP BY STEP.**

  A feed takes a whole step for a record that is handed out, and another for
  its shutdown.  In between, others get their turns: the worker notes down
  the subscribers and offers them the record one after the other, and a
  shutdown first tells the worker to stop and then parts with the
  subscribers, while the worker may be in the middle of a record.  A shift
  goes through these smaller steps in any order.  The steps of the feed are
  runs of them with nothing in between (`run_dispatch`, `run_shutdown`).
-/
import CallGateway.Proofs.Exchange.Usage
import CallGateway.Proofs.LogFeed.Journal

namespace CallGateway

namespace LogFeed

open Exchange (Flight)

/-! ## §1. The shift. -/

/-- A feed with its worker, and what has come of it. -/
structure Shift where
  feed : LogFeed
  metrics : Metrics
  -- The record that the worker is handing out; its list is noted down.
  inHand : Option (Flight CallRecord) := none
  -- The worker has been told to stop.
  told : Bool := false
  -- The records that came into the intake, and those that the worker took.
  accepted : List CallRecord := []
  taken : List CallRecord := []
  -- The records that the subscribers received, with their places.
  received : List (Nat × CallRecord) := []
  -- The subscribers that have gone.
  left : List Nat := []

namespace Shift

/-- A step of somebody. -/
inductive Event where
  | publish (r : CallRecord)
  -- The worker takes its next step.
  | work
  | subscribe
  | receive (s : Nat)
  | drop (s : Nat)
  -- A shutdown tells the worker to stop,
  | tell
  -- and parts with all subscribers.
  | close
  deriving DecidableEq

/-- A feed whose worker has nothing to do. -/
def start (intakeCapacity subscriberBuffer : Nat) (m : Metrics) : Shift :=
  { feed := LogFeed.start intakeCapacity subscriberBuffer, metrics := m }

/-- The worker offers its record to the next subscriber. -/
def offer (w : Shift) (f : Flight CallRecord) : Shift :=
  let (f, x) := Exchange.offerNext f w.feed.exchange
  { w with feed := { w.feed with exchange := { x with held := [f.todo] } }, inHand := some f }

/-- The worker is done with its record. -/
def land (w : Shift) (f : Flight CallRecord) : Shift :=
  let (out, x) := Exchange.land f w.feed.exchange
  { w with
    feed := { w.feed with exchange := { x with held := [] } }
    metrics := w.metrics.countDropped .logSubscriber out.lagged
    inHand := none }

/-- The worker takes a step: it goes on with the record that it has in hand.
With none, it stops if it was told to, and only if not it looks for another
record. -/
def work (w : Shift) : Shift :=
  match w.inHand with
  | some f => if f.todo = [] then w.land f else w.offer f
  | none =>
    if !w.feed.running then w
    else if w.told then { w with feed := { w.feed with running := false, intake := w.feed.intake.drop } }
    else match w.feed.intake.receive true with
      | (.item r, intake) => { w with
          feed := { w.feed with intake, exchange := w.feed.exchange.hold }
          inHand := some (w.feed.exchange.launch r)
          taken := w.taken ++ [r] }
      | _ => w

/-- The shift after a step. -/
def next (w : Shift) : Event → Shift
  | .publish r =>
    let (taken, feed, metrics) := w.feed.publish r w.metrics
    { w with feed, metrics, accepted := if taken then w.accepted ++ [r] else w.accepted }
  | .work => w.work
  | .subscribe => { w with feed := w.feed.subscribe.2 }
  | .receive s =>
    match w.feed.receive s with
    | (.ready r, feed) => { w with feed, received := w.received ++ [(s, r)] }
    | (_, feed) => { w with feed }
  | .drop s =>
    { w with feed := w.feed.drop s, left := if s < w.feed.handles.length then w.left ++ [s] else w.left }
  | .tell => { w with told := true }
  | .close => { w with feed := { w.feed with exchange := w.feed.exchange.close.2 } }

/-- The shift after some steps. -/
def run (w : Shift) (events : List Event) : Shift := events.foldl next w

/-- The records that a subscriber has received. -/
def receivedBy (w : Shift) (s : Nat) : List CallRecord := Exchange.itemsAt w.received s

/-- The records that wait for a subscriber. -/
def queued (w : Shift) (s : Nat) : List CallRecord := ((w.feed.queueOf? s).map (·.items)).getD []

/-- A subscriber that has come and has not gone. -/
def IsLive (w : Shift) (s : Nat) : Prop := s < w.feed.handles.length ∧ s ∉ w.left

/-- A shutdown has parted with the subscribers, and the worker has stopped. -/
def IsOver (w : Shift) : Prop := w.feed.exchange.isOpen = false ∧ w.feed.running = false

/-- How many steps the worker takes before it stops, once it was told to. -/
def stepsLeft (w : Shift) : Nat :=
  (if w.feed.running then 1 else 0) + match w.inHand with
    | some f => f.todo.length + 1
    | none => 0

@[simp] theorem run_nil (w : Shift) : w.run [] = w := rfl

@[simp] theorem run_cons (w : Shift) (e : Event) (events : List Event) :
    w.run (e :: events) = (w.next e).run events := rfl

theorem run_append (w : Shift) (events more : List Event) : w.run (events ++ more) = (w.run events).run more :=
  List.foldl_append

/-- Whoever receives changes its own queue, which is in the exchange, and what it
has received. -/
theorem next_receive (w : Shift) (s : Nat) : ∃ exchange received,
    (w.feed.receive s).2 = { w.feed with exchange }
      ∧ w.next (.receive s) = { w with feed := { w.feed with exchange }, received } := by
  unfold next
  rcases w.feed.receive_cases s with ⟨r, e, x', -, -, hreceive⟩ | hreceive | hreceive
  · simp only [hreceive]
    exact ⟨_, _, rfl, rfl⟩
  · simp only [hreceive]
    exact ⟨_, _, rfl, rfl⟩
  · simp only [hreceive]
    exact ⟨_, _, rfl, rfl⟩

/-- What each step keeps, a run keeps. -/
theorem run_induction {P : Shift → Prop} (hnext : ∀ w e, P w → P (w.next e)) (events : List Event) :
    ∀ {w : Shift}, P w → P (w.run events) := by
  induction events with
  | nil => exact fun hw => hw
  | cons e events ih => exact fun hw => ih (hnext _ e hw)

/-! ## §2. What the worker does. -/

section Work

variable {w : Shift}

theorem work_of_offer {f : Flight CallRecord} {e : Entry} {es : List Entry} (h : w.inHand = some f)
    (htodo : f.todo = e :: es) :
    w.work = { w with
      feed := { w.feed with
        exchange := { w.feed.exchange.modifyQueue e.queue (·.offer f.item) with held := [es] } }
      inHand := some ({ f with todo := es }.note e (w.feed.exchange.verdictOf e)) } := by
  have hne : f.todo ≠ [] := by simp [htodo]
  unfold work
  rw [h]
  simp only [if_neg hne, offer, Exchange.offerNext_eq htodo, Flight.note_todo]

theorem work_of_land {f : Flight CallRecord} (h : w.inHand = some f) (htodo : f.todo = []) :
    w.work = w.land f := by
  unfold work
  rw [h]
  exact if_pos htodo

theorem work_of_told (h : w.inHand = none) (hrunning : w.feed.running = true) (htold : w.told = true) :
    w.work = { w with feed := { w.feed with running := false, intake := w.feed.intake.drop } } := by
  unfold work
  rw [h]
  simp [hrunning, htold]

/-- Who has not been told to stop takes the oldest record. -/
theorem work_of_due {r : CallRecord} {rest : List CallRecord} (h : w.inHand = none)
    (hrunning : w.feed.running = true) (htold : w.told = false)
    (hreceive : w.feed.intake.receive true = (.item r, { w.feed.intake with items := rest })) :
    w.work = { w with
      feed := { w.feed with intake := { w.feed.intake with items := rest }, exchange := w.feed.exchange.hold }
      inHand := some (w.feed.exchange.launch r)
      taken := w.taken ++ [r] } := by
  unfold work
  rw [h]
  simp only [hrunning, htold, hreceive]
  rfl

/-- Where nothing is left to do, nothing is done. -/
theorem work_of_idle (h : w.inHand = none) (hidle : w.feed.due? = none)
    (htold : w.feed.running = true → w.told = false) : w.work = w := by
  unfold work
  rw [h]
  cases hrunning : w.feed.running with
  | false => rfl
  | true =>
    simp only [htold hrunning]
    unfold due? at hidle
    rw [hrunning] at hidle
    split
    · rfl
    · split
      · rename_i habs
        cases habs
      · split
        · rename_i hreceive
          rw [hreceive] at hidle
          cases hidle
        · rfl

end Work

/-! ## §3. The steps of the feed. -/

/-- With nobody in between, the worker offers its record to all that are
left. -/
theorem run_offers (es : List Entry) {f : Flight CallRecord} (htodo : f.todo = es) {w : Shift}
    (hinHand : w.inHand = some f) {x : Exchange CallRecord} (hx : w.feed.exchange = { x with held := [es] }) :
    ∃ f' x', f'.todo = [] ∧ Exchange.offerAll.go es f x = (f', x')
      ∧ w.run (List.replicate es.length .work)
        = { w with feed := { w.feed with exchange := { x' with held := [[]] } }, inHand := some f' } := by
  induction es generalizing f w x with
  | nil =>
    refine ⟨f, x, htodo, rfl, ?_⟩
    show w = { w with feed := { w.feed with exchange := { x with held := [[]] } }, inHand := some f }
    rw [← hx, ← hinHand]
  | cons e es ih =>
    have hverdict : w.feed.exchange.verdictOf e = x.verdictOf e := by
      rw [hx]
      rfl
    have hnext := work_of_offer hinHand htodo
    have hgo : Exchange.offerAll.go (e :: es) f x
        = Exchange.offerAll.go es ({ f with todo := es }.note e (x.verdictOf e))
            (x.modifyQueue e.queue (·.offer f.item)) := by
      rw [Exchange.offerAll.go, Exchange.offerNext_eq htodo]
    rw [hgo, List.length_cons, List.replicate_succ, run_cons, show w.next .work = w.work from rfl, hnext,
      hverdict]
    refine ih (Flight.note_todo _ _ _) rfl ?_
    rw [hx]
    rfl

/-- **A record that is handed out with nothing in between** is a step of the
feed. -/
theorem run_dispatch {w : Shift} {r : CallRecord} (hinHand : w.inHand = none) (htold : w.told = false)
    (hheld : w.feed.exchange.held = []) (hdue : w.feed.due? = some r) :
    w.run (List.replicate (w.feed.exchange.entries.length + 2) .work) = { w with
      feed := (w.feed.dispatch w.metrics).1
      metrics := (w.feed.dispatch w.metrics).2
      taken := w.taken ++ [r] } := by
  obtain ⟨hrunning, rest, -, hreceive⟩ := of_due?_eq_some hdue
  have hlaunch := work_of_due hinHand hrunning htold hreceive
  have hexchange : w.work.feed.exchange = { w.feed.exchange with held := [w.feed.exchange.entries] } := by
    rw [hlaunch]
    simp [Exchange.hold, hheld]
  have hinHand' : w.work.inHand = some (w.feed.exchange.launch r) := by rw [hlaunch]
  obtain ⟨f, x, htodo, hall, hoffers⟩ := run_offers w.feed.exchange.entries rfl hinHand' hexchange
  have hland := work_of_land (congrArg Shift.inHand hoffers) htodo
  have hfanOut : w.feed.exchange.fanOut r = Exchange.land f x :=
    congrArg (fun p : Flight CallRecord × Exchange CallRecord => Exchange.land p.1 p.2) hall
  have hsame : (w.feed.exchange.fanOut r).2 = { (w.feed.exchange.fanOut r).2 with held := [] } := by
    obtain ⟨-, -, hkept, -⟩ := w.feed.exchange.fanOut_frame r
    rw [← hheld, ← hkept]
  have hsteps : w.run (List.replicate (w.feed.exchange.entries.length + 2) .work)
      = (w.work.run (List.replicate w.feed.exchange.entries.length .work)).work := by
    rw [List.replicate_succ, List.replicate_succ', run_cons, run_append]
    rfl
  rw [hsteps, hland, hoffers, dispatch_of_due hrunning hreceive, hsame, hfanOut, hlaunch, hinHand]
  rfl

/-- **A shutdown with nothing in between** is that of the feed. -/
theorem run_shutdown {w : Shift} (hinHand : w.inHand = none) (hrunning : w.feed.running = true) :
    w.run [.tell, .close, .work] = { w with feed := w.feed.shutdown, told := true } :=
  work_of_told (w := (w.next .tell).next .close) hinHand hrunning rfl

end Shift

end LogFeed

end CallGateway
