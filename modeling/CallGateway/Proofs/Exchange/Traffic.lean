/-
  CallGateway.Proofs.Exchange.Traffic
  ───────────────────────────────────
  **SEVERAL ITEMS ON THEIR WAY AT ONCE.**

  To hand out an item is to note down the subscribers, to offer the item to
  one after the other, and to strike off those who refused it.  Between any
  two of these steps other items may take theirs, subscribers may come and be
  struck off, readers may take items, close and go, and the exchange may
  close.  A traffic goes through any such steps in any order, and keeps a
  record of what an exchange forgets.

  An item whose steps follow one another with nothing in between is handed
  out as `Exchange.fanOut` does it (`run_fanOut`).
-/
import CallGateway.Proofs.Exchange.Roll
import Mathlib.Algebra.GroupWithZero.Nat

namespace CallGateway

namespace Exchange

variable {α : Type}

/-! ## §1. Items on their way. -/

/-- An item that is being handed out, or was. -/
structure Pass (α : Type) where
  flight : Flight α
  -- The subscribers that were noted down for it.
  noted : List Entry
  -- Those to whom it was offered, and what became of it.
  met : List (Entry × Verdict) := []
  -- What it came to, once those who refused it were struck off.
  out : Option FanOut := none

/-- How many subscribers an item has struck off. -/
def Pass.removed (p : Pass α) : Nat := (p.out.map (·.removed)).getD 0

/-- An item was put into a queue. -/
structure Arrival (α : Type) where
  -- Which of the items that were handed out it was.
  pass : Nat
  queue : Nat
  item : α

/-- What is put into the queue of a subscriber, as it takes the item in or does
not. -/
def Arrival.offered (i : Nat) (e : Entry) (a : α) (v : Verdict) : List (Arrival α) :=
  if v = .delivered then [⟨i, e.queue, a⟩] else []

/-- An exchange, the items that are handed out, and what has happened. -/
structure Traffic (α : Type) where
  exchange : Exchange α := {}
  -- In the order in which the items were launched.
  passes : List (Pass α) := []
  -- The subscribers that came, in order.
  given : List Entry := []
  -- How often a subscriber was struck off by its id.
  struckOff : Nat := 0
  -- How many subscribers were parted with when the exchange closed.
  parted : Nat := 0
  -- What was put into the queues, in order.
  arrivals : List (Arrival α) := []
  -- What readers took, in order, each with the place of its queue.
  taken : List (Nat × α) := []

/-- A step of the traffic. -/
inductive Action (α : Type) where
  | add (capacity : Nat)
  | remove (id : Nat)
  | close
  -- Someone notes down the subscribers, or forgets such a list.
  | hold
  | release (i : Nat)
  | receive (q : Nat)
  | closeReader (q : Nat)
  | dropReader (q : Nat)
  -- An item is launched.
  | launch (a : α)
  -- The item at this place is offered to the next of its subscribers.
  | offer (i : Nat)
  -- The item at this place was offered to all of them.
  | land (i : Nat)

/-- The step is one of those that hand out an item. -/
def Action.handsOut : Action α → Bool
  | launch _ | offer _ | land _ => true
  | _ => false

namespace Traffic

/-- The traffic after the item at a place was offered to its next
subscriber, if there is one left. -/
def offerNext (t : Traffic α) (i : Nat) (p : Pass α) : Traffic α :=
  match p.flight.todo with
  | [] => t
  | e :: _ =>
    let v := t.exchange.verdictOf e
    let (flight, exchange) := Exchange.offerNext p.flight t.exchange
    { t with
      exchange
      passes := t.passes.set i { p with flight, met := p.met ++ [(e, v)] }
      arrivals := t.arrivals ++ Arrival.offered i e p.flight.item v }

/-- The traffic after those who refused the item at a place were struck off,
once it was offered to all of its subscribers. -/
def land (t : Traffic α) (i : Nat) (p : Pass α) : Traffic α :=
  if p.flight.todo = [] ∧ p.out = none then
    let (out, exchange) := Exchange.land p.flight t.exchange
    { t with exchange, passes := t.passes.set i { p with out := some out } }
  else t

/-- The traffic after a step. -/
def next (t : Traffic α) : Action α → Traffic α
  | .add capacity =>
    match t.exchange.add capacity with
    | (some id, exchange) => { t with exchange, given := t.given ++ [⟨id, t.exchange.queues.length⟩] }
    | (none, exchange) => { t with exchange }
  | .remove id =>
    let (found, exchange) := t.exchange.remove id
    { t with exchange, struckOff := t.struckOff + found.toNat }
  | .close =>
    let (n, exchange) := t.exchange.close
    { t with exchange, parted := t.parted + n }
  | .hold => { t with exchange := t.exchange.hold }
  | .release i => { t with exchange := t.exchange.release i }
  | .receive q =>
    match t.exchange.receive q with
    | (.item a, exchange) => { t with exchange, taken := t.taken ++ [(q, a)] }
    | (_, exchange) => { t with exchange }
  | .closeReader q => { t with exchange := t.exchange.closeReader q }
  | .dropReader q => { t with exchange := t.exchange.dropReader q }
  | .launch a =>
    let flight := t.exchange.launch a
    { t with passes := t.passes ++ [{ flight, noted := flight.todo }] }
  | .offer i =>
    match t.passes[i]? with
    | none => t
    | some p => t.offerNext i p
  | .land i =>
    match t.passes[i]? with
    | none => t
    | some p => t.land i p

/-- The traffic after some steps. -/
def run (t : Traffic α) (actions : List (Action α)) : Traffic α := actions.foldl next t

/-! ## §2. What is known of an item. -/

/-- What was put into queues of the item at a place. -/
def arrivalsOf (t : Traffic α) (i : Nat) : List (Arrival α) := t.arrivals.filter (·.pass = i)

/-- How often the item at a place was put into a queue. -/
def copies (t : Traffic α) (i q : Nat) : Nat := ((t.arrivalsOf i).map (·.queue)).count q

/-- How many subscribers the items have struck off that were handed out. -/
def removed (t : Traffic α) : Nat := (t.passes.map Pass.removed).sum

/-- What was put into a queue. -/
def arrivedAt (t : Traffic α) (q : Nat) : List α := (t.arrivals.filter (·.queue = q)).map (·.item)

/-- What the reader of a queue took. -/
def takenAt (t : Traffic α) (q : Nat) : List α := (t.taken.filter (·.1 = q)).map (·.2)

/-! ## §3. What a step comes to. -/

theorem next_add_of_open {t : Traffic α} (h : t.exchange.isOpen = true) (capacity : Nat) :
    t.next (.add capacity) = { t with
      exchange := (t.exchange.add capacity).2
      given := t.given ++ [⟨t.exchange.nextId, t.exchange.queues.length⟩] } := by
  unfold next
  simp only [add_of_open h]

theorem next_add_of_closed {t : Traffic α} (h : t.exchange.isOpen = false) (capacity : Nat) :
    t.next (.add capacity) = { t with exchange := (t.exchange.add capacity).2 } := by
  unfold next
  simp only [add_of_closed h]

theorem next_receive_item {t : Traffic α} {q : Nat} {a : α} {x : Exchange α}
    (h : t.exchange.receive q = (.item a, x)) :
    t.next (.receive q) = { t with exchange := x, taken := t.taken ++ [(q, a)] } := by
  unfold next
  simp only [h]

theorem next_receive_nothing {t : Traffic α} {q : Nat} {found : Received α}
    (h : t.exchange.receive q = (found, t.exchange)) (hne : ∀ a, found ≠ .item a) : t.next (.receive q) = t := by
  unfold next
  simp only [h]

theorem next_offer_of_cons {t : Traffic α} {i : Nat} {p : Pass α} {e : Entry} {es : List Entry}
    (hp : t.passes[i]? = some p) (htodo : p.flight.todo = e :: es) :
    t.next (.offer i) = { t with
      exchange := (Exchange.offerNext p.flight t.exchange).2
      passes := t.passes.set i { p with
        flight := (Exchange.offerNext p.flight t.exchange).1
        met := p.met ++ [(e, t.exchange.verdictOf e)] }
      arrivals := t.arrivals ++ Arrival.offered i e p.flight.item (t.exchange.verdictOf e) } := by
  unfold next
  simp only [hp, offerNext, htodo]

theorem next_land {t : Traffic α} {i : Nat} {p : Pass α} (hp : t.passes[i]? = some p)
    (htodo : p.flight.todo = []) (hout : p.out = none) :
    t.next (.land i) = { t with
      exchange := (Exchange.land p.flight t.exchange).2
      passes := t.passes.set i { p with out := some (Exchange.land p.flight t.exchange).1 } } := by
  unfold next
  simp only [hp]
  unfold land
  rw [if_pos ⟨htodo, hout⟩]

/-- A step that offers an item changes something only where a subscriber is
left. -/
theorem next_offer_cases (t : Traffic α) (i : Nat) :
    t.next (.offer i) = t ∨ ∃ p e es, t.passes[i]? = some p ∧ p.flight.todo = e :: es := by
  cases hp : t.passes[i]? with
  | none =>
    refine .inl ?_
    unfold next
    simp only [hp]
  | some p =>
    cases htodo : p.flight.todo with
    | nil =>
      refine .inl ?_
      unfold next
      simp only [hp, offerNext, htodo]
    | cons e es => exact .inr ⟨p, e, es, rfl, htodo⟩

/-- A step that lands an item changes something only where none is left. -/
theorem next_land_cases (t : Traffic α) (i : Nat) :
    t.next (.land i) = t ∨ ∃ p, t.passes[i]? = some p ∧ p.flight.todo = [] ∧ p.out = none := by
  cases hp : t.passes[i]? with
  | none =>
    refine .inl ?_
    unfold next
    simp only [hp]
  | some p =>
    by_cases hover : p.flight.todo = [] ∧ p.out = none
    · exact .inr ⟨p, rfl, hover⟩
    · refine .inl ?_
      unfold next
      simp only [hp]
      unfold land
      rw [if_neg hover]

/-- An item stays what it is, and so do the subscribers that were noted down
for it. -/
theorem exists_passes_next {t : Traffic α} {i : Nat} {p : Pass α} (hp : t.passes[i]? = some p) (a : Action α) :
    ∃ p', (t.next a).passes[i]? = some p' ∧ p'.noted = p.noted ∧ p'.flight.item = p.flight.item := by
  -- one of the items is changed
  have hset : ∀ (j : Nat) (p₁ p₂ : Pass α), t.passes[j]? = some p₁ → p₂.noted = p₁.noted →
      p₂.flight.item = p₁.flight.item →
      ∃ p', (t.passes.set j p₂)[i]? = some p' ∧ p'.noted = p.noted ∧ p'.flight.item = p.flight.item := by
    intro j p₁ p₂ hp₁ hnoted hitem
    by_cases hij : j = i
    · subst hij
      obtain rfl := Option.some.inj (hp.symm.trans hp₁)
      exact ⟨p₂, List.getElem?_set_self (List.getElem?_eq_some_iff.1 hp).1, hnoted, hitem⟩
    · exact ⟨p, by rw [List.getElem?_set_ne hij, hp], rfl, rfl⟩
  cases a with
  | add capacity =>
    cases hopen : t.exchange.isOpen with
    | false =>
      rw [next_add_of_closed hopen]
      exact ⟨p, hp, rfl, rfl⟩
    | true =>
      rw [next_add_of_open hopen]
      exact ⟨p, hp, rfl, rfl⟩
  | receive q =>
    rcases t.exchange.receive_cases q with ⟨a, x', hreceive⟩ | ⟨found, hreceive, hne⟩
    · rw [next_receive_item hreceive]
      exact ⟨p, hp, rfl, rfl⟩
    · rw [next_receive_nothing hreceive hne]
      exact ⟨p, hp, rfl, rfl⟩
  | launch a =>
    refine ⟨p, ?_, rfl, rfl⟩
    show (t.passes ++ [_])[i]? = some p
    rw [List.getElem?_append_left (List.getElem?_eq_some_iff.1 hp).1, hp]
  | offer j =>
    rcases t.next_offer_cases j with hsame | ⟨p₁, e, es, hp₁, htodo⟩
    · rw [hsame]
      exact ⟨p, hp, rfl, rfl⟩
    · rw [next_offer_of_cons hp₁ htodo]
      refine hset j p₁ _ hp₁ rfl ?_
      rw [offerNext_eq htodo, Flight.note_item]
  | land j =>
    rcases t.next_land_cases j with hsame | ⟨p₁, hp₁, htodo, hout⟩
    · rw [hsame]
      exact ⟨p, hp, rfl, rfl⟩
    · rw [next_land hp₁ htodo hout]
      exact hset j p₁ _ hp₁ rfl rfl
  | _ => exact ⟨p, hp, rfl, rfl⟩

theorem exists_passes_run {i : Nat} (actions : List (Action α)) : ∀ {t : Traffic α} {p : Pass α},
    t.passes[i]? = some p →
    ∃ p', (t.run actions).passes[i]? = some p' ∧ p'.noted = p.noted ∧ p'.flight.item = p.flight.item := by
  induction actions with
  | nil => exact fun hp => ⟨_, hp, rfl, rfl⟩
  | cons a actions ih =>
    intro t p hp
    obtain ⟨p₁, hp₁, hnoted₁, hitem₁⟩ := exists_passes_next hp a
    obtain ⟨p', hp', hnoted, hitem⟩ := ih hp₁
    exact ⟨p', hp', hnoted.trans hnoted₁, hitem.trans hitem₁⟩

/-- **For an item are noted down those who are registered when it is
launched.** -/
theorem exists_passes_of_launch (t : Traffic α) (a : α) (actions : List (Action α)) :
    ∃ p, (t.run (.launch a :: actions)).passes[t.passes.length]? = some p ∧ p.noted = t.exchange.entries
      ∧ p.flight.item = a := by
  have hp : (t.next (.launch a)).passes[t.passes.length]?
      = some { flight := t.exchange.launch a, noted := t.exchange.entries } := by
    show (t.passes ++ [_])[t.passes.length]? = _
    rw [List.getElem?_concat_length]
    rfl
  exact exists_passes_run actions hp

/-! ## §4. Nothing in between. -/

/-- Offers with nothing in between. -/
theorem run_offers (i : Nat) (es : List Entry) : ∀ {t : Traffic α} {p : Pass α}, t.passes[i]? = some p →
    p.flight.todo = es → p.out = none →
    ∃ p', (t.run (List.replicate es.length (.offer i))).passes[i]? = some p' ∧ p'.noted = p.noted
      ∧ p'.out = none ∧ (p'.flight, (t.run (List.replicate es.length (.offer i))).exchange)
        = offerAll.go es p.flight t.exchange := by
  induction es with
  | nil =>
    intro t p hp _ hout
    exact ⟨p, hp, rfl, hout, rfl⟩
  | cons e es ih =>
    intro t p hp htodo hout
    have hstep := next_offer_of_cons hp htodo
    have hp' : (t.next (.offer i)).passes[i]? = some { p with
        flight := (Exchange.offerNext p.flight t.exchange).1
        met := p.met ++ [(e, t.exchange.verdictOf e)] } := by
      rw [hstep]
      show (t.passes.set i _)[i]? = _
      rw [List.getElem?_set_self (List.getElem?_eq_some_iff.1 hp).1]
    have htodo' : (Exchange.offerNext p.flight t.exchange).1.todo = es := by
      rw [offerNext_eq htodo, Flight.note_todo]
    obtain ⟨p'', hp'', hnoted, hout'', hgo⟩ := ih hp' htodo' hout
    refine ⟨p'', hp'', hnoted, hout'', hgo.trans ?_⟩
    rw [hstep]
    rfl

/-- The subscribers that are left are none when all were offered the item. -/
theorem todo_offerAll_go (es : List Entry) : ∀ (f : Flight α) (x : Exchange α), f.todo = es →
    (offerAll.go es f x).1.todo = [] := by
  induction es with
  | nil => exact fun f x htodo => htodo
  | cons e es ih =>
    intro f x htodo
    unfold offerAll.go
    refine ih _ _ ?_
    show (Exchange.offerNext f x).1.todo = es
    rw [offerNext_eq htodo, Flight.note_todo]

/-- **With nothing in between, the steps hand out an item as a whole.** -/
theorem run_fanOut (t : Traffic α) (a : α) :
    let i := t.passes.length
    let t' := t.run (.launch a :: List.replicate t.exchange.size (.offer i) ++ [.land i])
    t'.exchange = (t.exchange.fanOut a).2
      ∧ ∃ p, t'.passes[i]? = some p ∧ p.noted = t.exchange.entries ∧ p.out = some (t.exchange.fanOut a).1 := by
  intro i t'
  have hp : (t.next (.launch a)).passes[i]? = some { flight := t.exchange.launch a, noted := t.exchange.entries } := by
    show (t.passes ++ [_])[t.passes.length]? = _
    rw [List.getElem?_concat_length]
    rfl
  obtain ⟨p, hp', hnoted, hout, hgo⟩ := run_offers i t.exchange.entries hp rfl rfl
  obtain ⟨hflight, hexchange⟩ := Prod.mk.inj hgo
  have htodo : p.flight.todo = [] := by
    rw [hflight]
    exact todo_offerAll_go _ _ _ rfl
  have hlast : t'
      = ((t.next (.launch a)).run (List.replicate t.exchange.entries.length (.offer i))).next (.land i) := by
    show (t.next (.launch a)).run (List.replicate t.exchange.entries.length (.offer i) ++ [.land i]) = _
    unfold run
    rw [List.foldl_append]
    rfl
  have hfanOut : t.exchange.fanOut a = Exchange.land p.flight
      ((t.next (.launch a)).run (List.replicate t.exchange.entries.length (.offer i))).exchange := by
    rw [hflight, hexchange]
    rfl
  rw [hlast, next_land hp' htodo hout, hfanOut]
  exact ⟨rfl, _, List.getElem?_set_self (List.getElem?_eq_some_iff.1 hp').1, hnoted, rfl⟩

end Traffic

end Exchange

end CallGateway
