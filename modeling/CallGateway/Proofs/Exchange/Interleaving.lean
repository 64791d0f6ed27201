/-
  CallGateway.Proofs.Exchange.Interleaving
  ────────────────────────────────────────
  **HOWEVER THE STEPS FOLLOW ONE ANOTHER.**

  Two things carry the argument: an id is given to one subscriber and never
  again, and a reader that has stopped listening does not listen again.  So
  whoever has once refused an item may be struck off at any later time, by
  its id, and nobody else is.

  The invariant is `Traffic.Sound`.  Each step keeps it, and with it every
  run.
-/
import CallGateway.Proofs.Exchange.Pass

namespace CallGateway.Exchange

variable {α : Type}

/-! ## §1. The invariant. -/

namespace Traffic

/-- What is recorded of the traffic is what happened, and every subscriber
that came is registered or was struck off once. -/
structure Sound (t : Traffic α) : Prop where
  roll : t.exchange.Roll t.given
  pass : ∀ (i : Nat) (p : Pass α), t.passes[i]? = some p → p.Sound t.exchange t.given (t.arrivalsOf i)
  launched : ∀ r ∈ t.arrivals, r.pass < t.passes.length
  ledger : Ledger t.exchange t.arrivedAt t.takenAt
  balance : t.given.length = t.exchange.size + t.struckOff + t.removed + t.parted

variable {t : Traffic α}

theorem sound_empty : ({} : Traffic α).Sound where
  roll := roll_empty
  pass := nofun
  launched := nofun
  ledger := ⟨nofun, fun _ _ => ⟨rfl, rfl⟩⟩
  balance := rfl

/-- The exchange changes, and what was taken, but neither who is registered nor
what arrived. -/
theorem Sound.exchange (h : t.Sound) {x : Exchange α} {taken : List (Nat × α)} (hroll : x.Roll t.given)
    (hsize : x.size = t.exchange.size) (hx : ∀ e ∈ t.given, x.IsListening e → t.exchange.IsListening e)
    (hledger : Ledger x t.arrivedAt ({ t with taken } : Traffic α).takenAt) :
    ({ t with exchange := x, taken } : Traffic α).Sound where
  roll := hroll
  pass := fun i p hp => (h.pass i p hp).mono (List.Sublist.refl _) hx
  launched := h.launched
  ledger := hledger
  balance := by
    show t.given.length = x.size + t.struckOff + t.removed + t.parted
    rw [hsize]
    exact h.balance

/-! ## §2. Every step keeps it. -/

theorem Sound.add (h : t.Sound) (capacity : Nat) : (t.next (.add capacity)).Sound := by
  have hledger := h.ledger.add capacity
  cases hopen : t.exchange.isOpen with
  | false =>
    rw [next_add_of_closed hopen]
    refine h.exchange ?_ ?_ (fun e he => h.roll.isListening_add capacity he) hledger
    · refine h.roll.mono ?_ ?_ ?_
      · exact Nat.le_of_eq (by rw [add_of_closed hopen])
      · rw [add_of_closed hopen]
        simp
      · rw [add_of_closed hopen]
    · rw [add_of_closed hopen]
      rfl
  | true =>
    have hbalance := h.balance
    rw [next_add_of_open hopen]
    refine ⟨h.roll.add hopen capacity, fun i p hp => ?_, h.launched, hledger, ?_⟩
    · exact (h.pass i p hp).mono (List.sublist_append_left _ _) fun e he => h.roll.isListening_add capacity he
    · show (t.given ++ [_]).length = (t.exchange.add capacity).2.entries.length + t.struckOff + t.removed + t.parted
      unfold size at hbalance
      rw [add_of_open hopen, List.length_append, List.length_append, List.length_singleton]
      omega

theorem Sound.remove (h : t.Sound) (id : Nat) : (t.next (.remove id)).Sound := by
  have hsize := h.roll.size_remove id
  have hbalance := h.balance
  refine ⟨h.roll.mono (Nat.le_refl _) (Nat.le_refl _) List.filter_sublist, fun i p hp => ?_, h.launched,
    h.ledger.congr fun k => rfl, ?_⟩
  · exact (h.pass i p hp).mono (List.Sublist.refl _) fun e _ hx => hx
  · show t.given.length = (t.exchange.remove id).2.size + (t.struckOff + (t.exchange.remove id).1.toNat)
      + t.removed + t.parted
    omega

theorem Sound.close (h : t.Sound) : (t.next .close).Sound := by
  have hbalance := h.balance
  refine ⟨h.roll.mono (Nat.le_refl _) (Nat.le_refl _) (List.nil_sublist _), fun i p hp => ?_, h.launched,
    h.ledger.congr fun k => rfl, ?_⟩
  · exact (h.pass i p hp).mono (List.Sublist.refl _) fun e _ hx => hx
  · show t.given.length = 0 + t.struckOff + t.removed + (t.parted + t.exchange.size)
    omega

/-- Lists that are noted down elsewhere change nothing. -/
theorem Sound.held (h : t.Sound) (held : List (List Entry)) :
    ({ t with exchange := { t.exchange with held } } : Traffic α).Sound := by
  refine h.exchange ?_ rfl (fun e _ hx => hx) (h.ledger.congr fun k => rfl)
  exact h.roll.mono (Nat.le_refl _) (Nat.le_refl _) (List.Sublist.refl _)

/-- A reader takes the oldest item of its queue. -/
theorem Sound.receive (h : t.Sound) (k : Nat) : (t.next (.receive k)).Sound := by
  rcases t.exchange.receive_cases k with ⟨a, x', hreceive⟩ | ⟨found, hreceive, hne⟩
  · obtain ⟨q, rest, hq, hitems, hreader, rfl⟩ := of_receive_eq_item hreceive
    have htaken : ∀ k', ({ t with taken := t.taken ++ [(k, a)] } : Traffic α).takenAt k'
        = t.takenAt k' ++ if k = k' then [a] else [] := by
      intro k'
      unfold takenAt
      rw [List.filter_append, List.map_append, List.filter_singleton]
      by_cases hk : k = k'
      · simp [hk]
      · simp [hk]
    rw [next_receive_item hreceive]
    refine h.exchange (h.roll.modifyQueue k _) rfl (fun e _ => ?_) ?_
    · refine isListening_of_modifyQueue fun q' hq' hlistening => ?_
      obtain rfl := Option.some.inj (hq.symm.trans hq')
      exact hlistening
    · refine h.ledger.modify (fun k' hk' => ⟨?_, rfl⟩) (fun hnone => ?_) fun q' hq' _ => ?_
      · rw [htaken, if_neg (Ne.symm hk'), List.append_nil]
      · rw [hq] at hnone
        cases hnone
      · rw [htaken, if_pos rfl, ← h.ledger.items k q hq hreader, hitems, List.append_assoc]
        rfl
  · rw [next_receive_nothing hreceive hne]
    exact h

/-- A reader wants no more, or goes. -/
theorem Sound.reader (h : t.Sound) (k : Nat) {f : Queue α → Queue α} (hlistening : ∀ q, (f q).reader ≠ .listening)
    (hf : ∀ q, (f q).reader ≠ .gone → q.reader ≠ .gone ∧ (f q).items = q.items) :
    ({ t with exchange := t.exchange.modifyQueue k f } : Traffic α).Sound := by
  refine h.exchange (h.roll.modifyQueue k f) rfl (fun e _ => ?_) (h.ledger.reader k hf)
  exact isListening_of_modifyQueue fun q _ hq => absurd hq (hlistening q)

theorem Sound.closeReader (h : t.Sound) (k : Nat) : (t.next (.closeReader k)).Sound := by
  refine h.reader k (fun q => ?_) fun q hq => ?_
  · unfold Queue.close
    split
    · exact nofun
    · assumption
  · unfold Queue.close at hq ⊢
    split at hq
    · rename_i hreader
      rw [if_pos hreader, hreader]
      exact ⟨nofun, rfl⟩
    · rename_i hreader
      rw [if_neg hreader]
      exact ⟨hq, rfl⟩

theorem Sound.dropReader (h : t.Sound) (k : Nat) : (t.next (.dropReader k)).Sound :=
  h.reader k (fun _ => nofun) fun _ hq => absurd rfl hq

/-- An item is launched for those who are registered. -/
theorem Sound.launch (h : t.Sound) (a : α) : (t.next (.launch a)).Sound := by
  have hbalance := h.balance
  refine ⟨h.roll, fun i p hp => ?_, fun r hr => ?_, h.ledger, ?_⟩
  · by_cases hi : i < t.passes.length
    · refine h.pass i p ?_
      rw [← hp]
      exact (List.getElem?_append_left hi).symm
    · -- nothing has arrived of an item that was not launched before
      have hnone : t.arrivalsOf i = [] := by
        refine List.filter_eq_nil_iff.2 fun r hr => ?_
        have hlt := h.launched r hr
        simp only [decide_eq_true_eq]
        omega
      have hp' : (t.passes ++ [{ flight := t.exchange.launch a, noted := t.exchange.entries }])[i]? = some p := hp
      rw [List.getElem?_append_right (by omega)] at hp'
      obtain rfl := List.mem_singleton.1 (List.mem_of_getElem? hp')
      show Pass.Sound t.exchange t.given (t.arrivalsOf i) _
      rw [hnone]
      exact Pass.sound_launch h.roll.entries a
  · show r.pass < (t.passes ++ [_]).length
    rw [List.length_append]
    exact Nat.lt_add_right 1 (h.launched r hr)
  · have hremoved : (t.next (.launch a)).removed = t.removed := by
      show ((t.passes ++ [_]).map Pass.removed).sum = _
      rw [List.map_append, List.sum_append]
      rfl
    show t.given.length = t.exchange.size + t.struckOff + (t.next (.launch a)).removed + t.parted
    rw [hremoved]
    exact hbalance

/-- What the items have struck off when one of them is changed. -/
theorem sum_removed_set (passes : List (Pass α)) {i : Nat} {p : Pass α} (hp : passes[i]? = some p) (p' : Pass α) :
    ((passes.set i p').map Pass.removed).sum + p.removed = (passes.map Pass.removed).sum + p'.removed := by
  induction passes generalizing i with
  | nil => cases hp
  | cons p₀ passes ih =>
    cases i with
    | zero =>
      obtain rfl := Option.some.inj hp
      simp only [List.set_cons_zero, List.map_cons, List.sum_cons]
      omega
    | succ i =>
      have hrest := ih hp
      simp only [List.set_cons_succ, List.map_cons, List.sum_cons]
      omega

/-- What arrives belongs to the item that is offered. -/
theorem filter_pass_offered (i j : Nat) (e : Entry) (a : α) (v : Verdict) :
    (Arrival.offered i e a v).filter (·.pass = j) = if i = j then Arrival.offered i e a v else [] := by
  unfold Arrival.offered
  by_cases hv : v = .delivered
  · by_cases hij : i = j
    · simp [hv, hij]
    · simp [hv, hij]
  · simp [hv]

/-- What arrives is in the queue of the subscriber. -/
theorem filter_queue_offered (i k : Nat) (e : Entry) (a : α) (v : Verdict) :
    ((Arrival.offered i e a v).filter (·.queue = k)).map (·.item)
      = if e.queue = k ∧ v = .delivered then [a] else [] := by
  unfold Arrival.offered
  by_cases hv : v = .delivered
  · by_cases hk : e.queue = k
    · simp [hv, hk]
    · simp [hv, hk]
  · simp [hv]

/-- An item is offered to its next subscriber. -/
theorem Sound.offer (h : t.Sound) (i : Nat) : (t.next (.offer i)).Sound := by
  rcases t.next_offer_cases i with hsame | ⟨p, e, es, hp, htodo⟩
  · rw [hsame]
    exact h
  · have hpass := h.pass i p hp
    have hoffered := hpass.offerNext htodo i
    have hlt := (List.getElem?_eq_some_iff.1 hp).1
    have hbalance := h.balance
    have he : e ∈ t.given := by
      refine hpass.noted.subset ?_
      rw [← hpass.met, htodo]
      exact List.mem_append_right _ List.mem_cons_self
    obtain ⟨q, hq⟩ := h.roll.exists_queue he
    rw [next_offer_of_cons hp htodo]
    rw [offerNext_eq htodo] at hoffered ⊢
    refine ⟨h.roll.modifyQueue e.queue _, fun j p' hp' => ?_, fun r hr => ?_, ?_, ?_⟩
    · show Pass.Sound _ t.given (List.filter _ _) p'
      rw [List.filter_append, filter_pass_offered]
      by_cases hij : i = j
      · subst hij
        rw [List.getElem?_set_self hlt] at hp'
        obtain rfl := Option.some.inj hp'
        rw [if_pos rfl]
        exact hoffered
      · rw [List.getElem?_set_ne hij] at hp'
        rw [if_neg hij, List.append_nil]
        exact (h.pass j p' hp').mono (List.Sublist.refl _) fun e' _ => isListening_of_offer
    · show r.pass < (t.passes.set i _).length
      rw [List.length_set]
      rcases List.mem_append.1 hr with hr | hr
      · exact h.launched r hr
      · unfold Arrival.offered at hr
        split at hr
        · obtain rfl := List.mem_singleton.1 hr
          exact hlt
        · cases hr
    · refine h.ledger.offer hq p.flight.item fun k => ?_
      show ((t.arrivals ++ Arrival.offered i e p.flight.item _).filter _).map _ = _
      rw [List.filter_append, List.map_append, filter_queue_offered]
      rfl
    · have hremoved := sum_removed_set t.passes hp { p with
        flight := ({ p.flight with todo := es } : Flight α).note e (t.exchange.verdictOf e)
        met := p.met ++ [(e, t.exchange.verdictOf e)] }
      refine hbalance.trans (congrArg (fun n => t.exchange.size + t.struckOff + n + t.parted) ?_)
      exact (Nat.add_right_cancel hremoved).symm

/-- Who is struck off in the end is counted once. -/
theorem Sound.land (h : t.Sound) (i : Nat) : (t.next (.land i)).Sound := by
  rcases t.next_land_cases i with hsame | ⟨p, hp, htodo, hout⟩
  · rw [hsame]
    exact h
  · have hlanded := (h.pass i p hp).land htodo
    have hlt := (List.getElem?_eq_some_iff.1 hp).1
    have hbalance := h.balance
    rw [next_land hp htodo hout]
    refine ⟨h.roll.mono (Nat.le_refl _) (Nat.le_refl _) List.filter_sublist, fun j p' hp' => ?_, ?_,
      h.ledger.congr fun k => rfl, ?_⟩
    · show Pass.Sound _ t.given (t.arrivalsOf j) p'
      by_cases hij : i = j
      · subst hij
        rw [List.getElem?_set_self hlt] at hp'
        obtain rfl := Option.some.inj hp'
        exact hlanded.mono (List.Sublist.refl _) fun e _ hx => hx
      · rw [List.getElem?_set_ne hij] at hp'
        exact (h.pass j p' hp').mono (List.Sublist.refl _) fun e _ hx => hx
    · show ∀ r ∈ t.arrivals, r.pass < (t.passes.set i _).length
      rw [List.length_set]
      exact h.launched
    · have hremoved := sum_removed_set t.passes hp { p with out := some (Exchange.land p.flight t.exchange).1 }
      have hbefore : p.removed = 0 := by
        unfold Pass.removed
        rw [hout]
        rfl
      have hafter : ({ p with out := some (Exchange.land p.flight t.exchange).1 } : Pass α).removed
        = t.exchange.entries.length
          - (t.exchange.entries.filter fun e => !p.flight.failed.contains e.id).length := rfl
      have hle := List.length_filter_le (fun e => !p.flight.failed.contains e.id) t.exchange.entries
      show t.given.length = (t.exchange.entries.filter fun e => !p.flight.failed.contains e.id).length
        + t.struckOff + ((t.passes.set i _).map Pass.removed).sum + t.parted
      unfold size removed at hbalance
      omega

/-- **Every step keeps the invariant.** -/
theorem Sound.next (h : t.Sound) (a : Action α) : (t.next a).Sound := by
  cases a with
  | add capacity => exact h.add capacity
  | remove id => exact h.remove id
  | close => exact h.close
  | hold => exact h.held _
  | release i => exact h.held _
  | receive k => exact h.receive k
  | closeReader k => exact h.closeReader k
  | dropReader k => exact h.dropReader k
  | launch a => exact h.launch a
  | offer i => exact h.offer i
  | land i => exact h.land i

theorem Sound.run (h : t.Sound) (actions : List (Action α)) : (t.run actions).Sound := by
  induction actions generalizing t with
  | nil => exact h
  | cons a actions ih => exact ih (h.next a)

/-! ## §3. What every run comes to. -/

/-- Handing out an item strikes off nobody whose reader listens. -/
theorem Sound.stays (h : t.Sound) {a : Action α} (ha : a.handsOut = true) {e : Entry} (he : e ∈ t.exchange.entries)
    (hx : t.exchange.IsListening e) : e ∈ (t.next a).exchange.entries := by
  cases a with
  | launch a => exact he
  | offer i =>
    rcases t.next_offer_cases i with hsame | ⟨p, e', es, hp, htodo⟩
    · rw [hsame]
      exact he
    · rw [next_offer_of_cons hp htodo, offerNext_eq htodo]
      exact he
  | land i =>
    rcases t.next_land_cases i with hsame | ⟨p, hp, htodo, hout⟩
    · rw [hsame]
      exact he
    · have hid := (h.pass i p hp).not_failed h.roll (h.roll.entries.subset he) hx
      rw [next_land hp htodo hout]
      exact List.mem_filter.2 ⟨he, by simpa using hid⟩
  | _ => cases ha

/-- **However the steps follow one another, every subscriber is treated as it
should be.** Take an exchange through any steps in any order, with any number
of items on their way at once.

* No id is given twice.  The subscribers that are registered stand in the
  order in which they came, with growing ids below the next one.
* A step that hands out an item strikes off nobody whose reader listens.
* Everyone who ever came is registered, or was struck off once: by its id, by
  an item that it refused, or when the exchange closed.
* For an item are noted down those who are registered when it is launched.
* An item is put into no queue twice, and what is put in is that item.  Once
  it was handed out, each of the subscribers that were noted down for it and
  still listen has it once, or is one of those counted as having missed it,
  whether it was struck off in the meantime or not.
* What is said to be put into the queues is what their readers took and what
  is still in them. -/
theorem run_delivers_once_or_lags (actions : List (Action α)) :
    let t := ({} : Traffic α).run actions
    ((t.given.map (·.id)).Nodup ∧ t.exchange.entries.Sublist t.given ∧ t.exchange.ids.Pairwise (· < ·)
        ∧ ∀ id ∈ t.exchange.ids, id < t.exchange.nextId)
      ∧ (∀ a : Action α, a.handsOut = true → ∀ e ∈ t.exchange.entries, t.exchange.IsListening e →
          e ∈ (t.next a).exchange.entries)
      ∧ t.given.length = t.exchange.size + t.struckOff + t.removed + t.parted
      ∧ (∀ before a after, actions = before ++ .launch a :: after →
          let t₀ := ({} : Traffic α).run before
          ∃ p, t.passes[t₀.passes.length]? = some p ∧ p.noted = t₀.exchange.entries ∧ p.flight.item = a)
      ∧ (∀ (i : Nat) (p : Pass α), t.passes[i]? = some p →
          (∀ q, t.copies i q ≤ 1) ∧ (∀ r ∈ t.arrivalsOf i, r.item = p.flight.item)
          ∧ ∀ out, p.out = some out → out.delivered = (t.arrivalsOf i).length
            ∧ out.lagged = p.met.countP (·.2 = .full)
            ∧ ∀ e ∈ p.noted, t.exchange.IsListening e →
                (t.copies i e.queue = 1 ∧ (e, .full) ∉ p.met) ∨ (t.copies i e.queue = 0 ∧ (e, .full) ∈ p.met))
      ∧ ∀ k q, t.exchange.queue? k = some q → q.reader ≠ .gone → t.takenAt k ++ q.items = t.arrivedAt k := by
  intro t
  have h : t.Sound := sound_empty.run actions
  refine ⟨⟨h.roll.ids_nodup, h.roll.entries, ?_, ?_⟩, fun a ha e he hx => h.stays ha he hx, h.balance, ?_, ?_,
    h.ledger.items⟩
  · exact h.roll.ids_lt.sublist (h.roll.entries.map Entry.id)
  · intro id hid
    obtain ⟨e, he, rfl⟩ := List.mem_map.1 hid
    exact (h.roll.below e (h.roll.entries.subset he)).1
  · intro before a after hactions t₀
    have hsplit : t = t₀.run (.launch a :: after) := by
      show ({} : Traffic α).run actions = _
      rw [hactions]
      exact List.foldl_append
    rw [hsplit]
    exact t₀.exists_passes_of_launch a after
  · intro i p hp
    have hpass := h.pass i p hp
    refine ⟨fun q => List.nodup_iff_count_le_one.1 (hpass.mine_nodup h.roll) q, fun r hr => ?_, fun out hout => ?_⟩
    · have hmem := List.mem_map_of_mem (f := fun r : Arrival α => (r.queue, r.item)) hr
      rw [hpass.arrived] at hmem
      obtain ⟨m, -, heq⟩ := List.mem_map.1 hmem
      exact (congrArg Prod.snd heq).symm
    · obtain ⟨htodo, hdelivered, hlagged⟩ := hpass.landed out hout
      have hlength := congrArg List.length hpass.arrived
      rw [List.length_map, List.length_map, ← List.countP_eq_length_filter] at hlength
      exact ⟨by rw [hdelivered, hpass.delivered, hlength], hlagged.trans hpass.lagged,
        fun e he hx => hpass.listening h.roll htodo he hx⟩

/-- Two items cross on their way to two subscribers with room for one.  The
first subscriber gets the first item and misses the second; the reader of the
other is gone before anything reaches it.  Both items find that out, and it is
struck off once. -/
theorem two_items_cross : ∃ t : Traffic Nat,
    t = ({} : Traffic Nat).run [.add 1, .add 1, .launch 7, .launch 8, .offer 0, .offer 1, .dropReader 1, .offer 1,
      .offer 0, .land 1, .remove 1, .land 0]
    ∧ t.passes.map (·.out) = [some ⟨1, 0, 0⟩, some ⟨0, 1, 1⟩] ∧ t.arrivedAt 0 = [7] ∧ t.exchange.size = 0
    ∧ t.given.length = t.exchange.size + t.struckOff + t.removed + t.parted := by
  obtain ⟨-, -, hbalance, -⟩ := run_delivers_once_or_lags (α := Nat) [.add 1, .add 1, .launch 7, .launch 8, .offer 0,
    .offer 1, .dropReader 1, .offer 1, .offer 0, .land 1, .remove 1, .land 0]
  exact ⟨_, rfl, rfl, rfl, rfl, hbalance⟩

end Traffic

end CallGateway.Exchange
