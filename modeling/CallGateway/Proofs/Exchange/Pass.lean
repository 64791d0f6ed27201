/-
  CallGateway.Proofs.Exchange.Pass
  ────────────────────────────────
  **ONE ITEM ON ITS WAY, AND ONE QUEUE.**

  While an item is handed out, subscribers come and go.  What is known of it
  all the same is `Pass.Sound`: to whom it was offered and what became of it,
  where it arrived, and that those who refused it do not listen any more.  So
  it is in no queue twice (`Pass.Sound.mine_nodup`), it misses nobody who
  listens without counting it (`Pass.Sound.listening`), and nobody who listens
  is among those that it will strike off (`Pass.Sound.not_failed`).

  `Ledger` says of every queue that what was put in was taken or is still
  there.
-/
import CallGateway.Proofs.Exchange.Traffic

namespace CallGateway.Exchange

variable {α : Type}

/-! ## §1. One item. -/

namespace Pass

/-- What is noted of an item is what happened to it: to whom it was offered,
where it arrived, and who refused it. -/
structure Sound (x : Exchange α) (given : List Entry) (mine : List (Arrival α)) (p : Pass α) : Prop where
  noted : p.noted.Sublist given
  met : p.met.map (·.1) ++ p.flight.todo = p.noted
  arrived : mine.map (fun r => (r.queue, r.item))
    = (p.met.filter (·.2 = .delivered)).map fun m => (m.1.queue, p.flight.item)
  failed : ∀ id ∈ p.flight.failed, ∃ e, (e, .refused) ∈ p.met ∧ e.id = id
  -- Who refused the item does not listen any more.
  refused : ∀ e, (e, .refused) ∈ p.met → ¬ x.IsListening e
  delivered : p.flight.tally.delivered = p.met.countP (·.2 = .delivered)
  lagged : p.flight.tally.lagged = p.met.countP (·.2 = .full)
  landed : ∀ out, p.out = some out →
    p.flight.todo = [] ∧ out.delivered = p.flight.tally.delivered ∧ out.lagged = p.flight.tally.lagged

variable {x x' : Exchange α} {given given' : List Entry} {mine : List (Arrival α)} {p : Pass α}

theorem Sound.mem_given (h : p.Sound x given mine) {e : Entry} {v : Verdict} (he : (e, v) ∈ p.met) : e ∈ given := by
  refine h.noted.subset ?_
  rw [← h.met]
  exact List.mem_append_left _ (List.mem_map_of_mem he)

/-- Subscribers may come and go while the item is on its way, so long as
nobody listens again who had stopped. -/
theorem Sound.mono (h : p.Sound x given mine) (hgiven : given.Sublist given')
    (hx : ∀ e ∈ given, x'.IsListening e → x.IsListening e) : p.Sound x' given' mine where
  noted := h.noted.trans hgiven
  met := h.met
  arrived := h.arrived
  failed := h.failed
  refused := fun e he hlistening => h.refused e he (hx e (h.mem_given he) hlistening)
  delivered := h.delivered
  lagged := h.lagged
  landed := h.landed

theorem sound_launch (hentries : x.entries.Sublist given) (a : α) :
    ({ flight := x.launch a, noted := x.entries } : Pass α).Sound x given [] where
  noted := hentries
  met := rfl
  arrived := rfl
  failed := nofun
  refused := nofun
  delivered := rfl
  lagged := rfl
  landed := nofun

/-- The item is offered to the next subscriber. -/
theorem Sound.offerNext (h : p.Sound x given mine) {e : Entry} {es : List Entry} (htodo : p.flight.todo = e :: es)
    (i : Nat) :
    ({ p with
        flight := (Exchange.offerNext p.flight x).1
        met := p.met ++ [(e, x.verdictOf e)] } : Pass α).Sound (Exchange.offerNext p.flight x).2 given
      (mine ++ Arrival.offered i e p.flight.item (x.verdictOf e)) := by
  have hout : p.out = none := by
    cases hout : p.out with
    | none => rfl
    | some out =>
      rw [(h.landed out hout).1] at htodo
      cases htodo
  have hmet : (p.met ++ [(e, x.verdictOf e)]).map (·.1) ++ es = p.noted := by
    rw [← h.met, htodo, List.map_append, List.append_assoc]
    rfl
  have hrefused : ∀ e', (e', .refused) ∈ p.met ++ [(e, x.verdictOf e)] →
      ¬ (x.modifyQueue e.queue (·.offer p.flight.item)).IsListening e' := by
    intro e' he' hx
    rcases List.mem_append.1 he' with he' | he'
    · exact h.refused e' he' (isListening_of_offer hx)
    · obtain ⟨rfl, hv⟩ := Prod.mk.inj (List.mem_singleton.1 he')
      exact (x.verdictOf_eq_refused_iff e').1 hv.symm (isListening_of_offer hx)
  rw [offerNext_eq htodo]
  refine ⟨h.noted, ?_, ?_, ?_, hrefused, ?_, ?_, fun out h => absurd (hout ▸ h) nofun⟩
  · rw [Flight.note_todo]
    exact hmet
  · rw [Flight.note_item, List.map_append, h.arrived]
    by_cases hv : x.verdictOf e = .delivered
    · simp [Arrival.offered, hv]
    · simp [Arrival.offered, hv]
  · intro id hid
    rw [Flight.note_failed] at hid
    rcases List.mem_append.1 hid with hid | hid
    · obtain ⟨e', he', heq⟩ := h.failed id hid
      exact ⟨e', List.mem_append_left _ he', heq⟩
    · split at hid
      · rename_i hv
        obtain rfl := List.mem_singleton.1 hid
        exact ⟨e, List.mem_append_right _ (by rw [hv]; exact List.mem_singleton.2 rfl), rfl⟩
      · cases hid
  · rw [Flight.note_delivered, List.countP_append, ← h.delivered]
    simp [List.countP_singleton]
  · rw [Flight.note_lagged, List.countP_append, ← h.lagged]
    simp [List.countP_singleton]

/-- Those who refused the item are struck off. -/
theorem Sound.land (h : p.Sound x given mine) (htodo : p.flight.todo = []) :
    ({ p with out := some (Exchange.land p.flight x).1 } : Pass α).Sound x given mine where
  noted := h.noted
  met := h.met
  arrived := h.arrived
  failed := h.failed
  refused := h.refused
  delivered := h.delivered
  lagged := h.lagged
  landed := by
    intro out hout
    obtain rfl := Option.some.inj hout
    exact ⟨htodo, rfl, rfl⟩

/-! What is known of an item comes to this: -/

section
variable (h : p.Sound x given mine) (hroll : x.Roll given)

include h hroll

theorem Sound.queues_nodup : (p.noted.map (·.queue)).Nodup :=
  hroll.queues_nodup.sublist (h.noted.map (·.queue))

/-- No queue has the item twice. -/
theorem Sound.mine_nodup : (mine.map (·.queue)).Nodup := by
  have hqueues : mine.map (·.queue) = ((p.met.filter (·.2 = .delivered)).map (·.1)).map (·.queue) := by
    have harrived := congrArg (List.map Prod.fst) h.arrived
    rw [List.map_map, List.map_map] at harrived
    rw [List.map_map]
    exact harrived
  have hsublist : ((p.met.filter (·.2 = .delivered)).map (·.1)).Sublist p.noted := by
    rw [← h.met]
    exact (List.filter_sublist.map _).trans (List.sublist_append_left _ _)
  rw [hqueues]
  exact (h.queues_nodup hroll).sublist (hsublist.map _)

/-- The item met with one thing at each subscriber. -/
theorem Sound.verdict_unique {e : Entry} {v v' : Verdict} (he : (e, v) ∈ p.met) (he' : (e, v') ∈ p.met) : v = v' := by
  have hnodup : (p.met.map (·.1)).Nodup := by
    refine (hroll.nodup.sublist h.noted).sublist ?_
    rw [← h.met]
    exact List.sublist_append_left _ _
  exact congrArg Prod.snd (List.inj_on_of_nodup_map hnodup he he' rfl)

/-- Whoever has the item was offered it, and took it. -/
theorem Sound.mem_mine_iff {e : Entry} (he : e ∈ p.noted) :
    e.queue ∈ mine.map (·.queue) ↔ (e, .delivered) ∈ p.met := by
  constructor
  · intro hmem
    obtain ⟨r, hr, hqueue⟩ := List.mem_map.1 hmem
    have harrived : (r.queue, r.item) ∈ (p.met.filter (·.2 = .delivered)).map fun m => (m.1.queue, p.flight.item) := by
      rw [← h.arrived]
      exact List.mem_map_of_mem hr
    obtain ⟨⟨e', v⟩, hm, heq⟩ := List.mem_map.1 harrived
    obtain ⟨hm, hv⟩ := List.mem_filter.1 hm
    obtain rfl : v = .delivered := of_decide_eq_true hv
    have hqueue' : e'.queue = e.queue := (congrArg Prod.fst heq).trans hqueue
    obtain rfl := hroll.eq_of_queue (h.mem_given hm) (h.noted.subset he) hqueue'
    exact hm
  · intro hm
    have hm : (e, Verdict.delivered) ∈ p.met.filter (·.2 = .delivered) := List.mem_filter.2 ⟨hm, decide_eq_true rfl⟩
    have hmem := List.mem_map_of_mem (f := fun m : Entry × Verdict => (m.1.queue, p.flight.item)) hm
    rw [← h.arrived] at hmem
    obtain ⟨r, hr, heq⟩ := List.mem_map.1 hmem
    exact List.mem_map.2 ⟨r, hr, congrArg Prod.fst heq⟩

/-- Where the item was offered to all, a subscriber that listens has it once,
or missed it. -/
theorem Sound.listening (htodo : p.flight.todo = []) {e : Entry} (he : e ∈ p.noted) (hx : x.IsListening e) :
    ((mine.map (·.queue)).count e.queue = 1 ∧ (e, .full) ∉ p.met)
      ∨ ((mine.map (·.queue)).count e.queue = 0 ∧ (e, .full) ∈ p.met) := by
  have hmet : e ∈ p.met.map (·.1) := by
    rw [← h.met, htodo, List.append_nil] at he
    exact he
  obtain ⟨⟨e', v⟩, hm, rfl⟩ := List.mem_map.1 hmet
  cases v with
  | delivered =>
    refine .inl ⟨List.count_eq_one_of_mem (h.mine_nodup hroll) ((h.mem_mine_iff hroll he).2 hm), fun hfull => ?_⟩
    cases h.verdict_unique hroll hm hfull
  | full =>
    refine .inr ⟨List.count_eq_zero.2 fun hmem => ?_, hm⟩
    cases h.verdict_unique hroll hm ((h.mem_mine_iff hroll he).1 hmem)
  | refused => exact absurd hx (h.refused _ hm)

/-- Nobody is among those who refused the item whose reader listens. -/
theorem Sound.not_failed {e : Entry} (he : e ∈ given) (hx : x.IsListening e) : e.id ∉ p.flight.failed := by
  intro hid
  obtain ⟨e', hm, heq⟩ := h.failed e.id hid
  obtain rfl := hroll.eq_of_id (h.mem_given hm) he heq
  exact h.refused e' hm hx

end

end Pass

/-! ## §2. The queues. -/

/-- What was put into a queue, and what its reader took, agree with what is
in it; nothing was put into a queue that is not there yet. -/
structure Ledger (x : Exchange α) (arrived taken : Nat → List α) : Prop where
  items : ∀ k q, x.queue? k = some q → q.reader ≠ .gone → taken k ++ q.items = arrived k
  fresh : ∀ k, x.queue? k = none → taken k = [] ∧ arrived k = []

section
variable {x x' : Exchange α} {arrived arrived' taken taken' : Nat → List α}

theorem Ledger.congr (h : Ledger x arrived taken) (hqueue : ∀ k, x'.queue? k = x.queue? k) :
    Ledger x' arrived taken where
  items := fun k q hq => h.items k q (hqueue k ▸ hq)
  fresh := fun k hk => h.fresh k (hqueue k ▸ hk)

/-- A queue that is set up is empty. -/
theorem Ledger.add (h : Ledger x arrived taken) (capacity : Nat) : Ledger (x.add capacity).2 arrived taken where
  items := by
    intro k q hq hreader
    rw [queue?_add] at hq
    split at hq
    · rename_i hk
      obtain rfl := Option.some.inj hq
      have hnone : x.queue? k = none := List.getElem?_eq_none (Nat.le_of_eq hk.symm)
      rw [(h.fresh k hnone).1, (h.fresh k hnone).2]
      rfl
    · exact h.items k q hq hreader
  fresh := by
    intro k hk
    rw [queue?_add] at hk
    split at hk
    · cases hk
    · exact h.fresh k hk

/-- One queue changes, and what is said of it. -/
theorem Ledger.modify (h : Ledger x arrived taken) {p : Nat} {f : Queue α → Queue α}
    (hother : ∀ k ≠ p, taken' k = taken k ∧ arrived' k = arrived k)
    (hnone : x.queue? p = none → taken' p = [] ∧ arrived' p = [])
    (hp : ∀ q, x.queue? p = some q → (f q).reader ≠ .gone → taken' p ++ (f q).items = arrived' p) :
    Ledger (x.modifyQueue p f) arrived' taken' where
  items := by
    intro k q hq hreader
    rw [queue?_modifyQueue] at hq
    by_cases hk : p = k
    · subst hk
      rw [if_pos rfl] at hq
      obtain ⟨q', hq', rfl⟩ := Option.map_eq_some_iff.1 hq
      exact hp q' hq' hreader
    · rw [if_neg hk] at hq
      rw [(hother k (Ne.symm hk)).1, (hother k (Ne.symm hk)).2]
      exact h.items k q hq hreader
  fresh := by
    intro k hk
    rw [queue?_modifyQueue] at hk
    by_cases hpk : p = k
    · subst hpk
      rw [if_pos rfl] at hk
      exact hnone (Option.map_eq_none_iff.1 hk)
    · rw [if_neg hpk] at hk
      rw [(hother k (Ne.symm hpk)).1, (hother k (Ne.symm hpk)).2]
      exact h.fresh k hk

/-- An item is put into a queue if there is room. -/
theorem Ledger.offer (h : Ledger x arrived taken) {e : Entry} {q : Queue α} (hq : x.queue? e.queue = some q) (a : α)
    (harrived : ∀ k, arrived' k
      = arrived k ++ if e.queue = k ∧ x.verdictOf e = .delivered then [a] else []) :
    Ledger (x.modifyQueue e.queue (·.offer a)) arrived' taken := by
  have hverdict : x.verdictOf e = q.verdict := by
    unfold verdictOf
    rw [hq]
    rfl
  refine h.modify (fun k hk => ⟨rfl, ?_⟩) (fun hnone => ?_) fun q' hq' hreader => ?_
  · rw [harrived, if_neg (fun hboth => hk hboth.1.symm), List.append_nil]
  · rw [hq] at hnone
    cases hnone
  · obtain rfl := Option.some.inj (hq.symm.trans hq')
    rw [harrived, hverdict]
    by_cases hv : q.verdict = .delivered
    · rw [Queue.offer_of_delivered a hv] at hreader ⊢
      rw [if_pos ⟨rfl, hv⟩, ← h.items e.queue q hq hreader, List.append_assoc]
    · rw [Queue.offer_of_ne a hv] at hreader ⊢
      rw [if_neg (fun hboth => hv hboth.2), List.append_nil]
      exact h.items e.queue q hq hreader

/-- A reader wants no more, or goes. -/
theorem Ledger.reader (h : Ledger x arrived taken) (p : Nat) {f : Queue α → Queue α}
    (hf : ∀ q, (f q).reader ≠ .gone → q.reader ≠ .gone ∧ (f q).items = q.items) :
    Ledger (x.modifyQueue p f) arrived taken := by
  refine h.modify (fun k _ => ⟨rfl, rfl⟩) (h.fresh p) fun q hq hreader => ?_
  obtain ⟨hreader, hitems⟩ := hf q hreader
  rw [hitems]
  exact h.items p q hq hreader

end

end CallGateway.Exchange
