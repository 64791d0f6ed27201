/-
  CallGateway.Proofs.Exchange.Isolation
  ─────────────────────────────────────
  **SUBSCRIBERS DO NOT DISTURB ONE ANOTHER.**

  Of all that is done with an exchange, some concerns a subscriber: items that
  are handed out, lists that are noted down, the closing of the exchange, and
  what is done with its own entry and its own queue (`Concern`).  The rest is
  the others' business.

  A subscriber that was alone with what concerns it would be a small machine of
  its own (`Alone`).  In an exchange with any number of others it goes through
  the same states (`seenBy_run`), so two usages in which the same things concern
  it are the same for it (`queue_eq_of_concerns_eq`).
-/
import CallGateway.Proofs.Exchange.Usage
import Mathlib.Data.List.InsertIdx

namespace CallGateway

namespace Exchange

variable {α : Type}

/-! ## §1. What concerns a subscriber. -/

/-- Something that concerns a subscriber. -/
inductive Concern (α : Type) where
  -- Its queue is set up, and it is taken in unless the exchange is closed.
  | join (capacity : Nat)
  -- It is struck off by its id.
  | leave
  | close
  | hold
  | release (i : Nat)
  -- Someone who has noted it down at this place offers it an item.
  | offer (i : Nat) (a : α)
  | fanOut (a : α)
  | receive
  | closeReader
  | dropReader
  deriving DecidableEq

/-- What an operation means for the subscriber whose queue is at a place, if it
concerns it. -/
def Usage.concern? (u : Usage α) (k : Nat) : Operation α → Option (Concern α)
  | .add capacity => if k = u.exchange.queues.length then some (.join capacity) else none
  | .remove id => if ∃ e ∈ u.roll, e.queue = k ∧ e.id = id then some .leave else none
  | .removeAll ids => if ∃ e ∈ u.roll, e.queue = k ∧ e.id ∈ ids then some .leave else none
  | .close => some .close
  | .hold => some .hold
  | .release i => some (.release i)
  | .offer i a => if (u.exchange.nextHeld? i).map (·.queue) = some k then some (.offer i a) else none
  | .fanOut a => some (.fanOut a)
  | .receive q => if q = k then some .receive else none
  | .closeReader q => if q = k then some .closeReader else none
  | .dropReader q => if q = k then some .dropReader else none

/-! ## §2. A subscriber alone. -/

/-- A subscriber with nobody else around. -/
@[ext] structure Alone (α : Type) where
  isOpen : Bool := true
  -- Its queue, once it is set up.
  queue : Option (Queue α) := none
  registered : Bool := false
  -- Of each list that is noted down, whether it is on it.
  noted : List Bool := []
  taken : List α := []

namespace Alone

/-- Someone could still put something into its queue. -/
def hasSender (s : Alone α) : Bool := s.registered || s.noted.any id

/-- What its reader finds. -/
def found (s : Alone α) : Received α := (s.queue.map fun q => (q.receive s.hasSender).1).getD .gone

/-- What becomes of a subscriber. -/
def next (s : Alone α) : Concern α → Alone α
  | .join capacity => { s with queue := some { capacity := capacity }, registered := s.isOpen }
  | .leave => { s with registered := false }
  | .close => { s with isOpen := false, registered := false }
  | .hold => { s with noted := s.registered :: s.noted }
  | .release i => { s with noted := s.noted.eraseIdx i }
  | .offer i a => { s with queue := s.queue.map (·.offer a), noted := s.noted.set i false }
  | .fanOut a =>
    -- it is struck off if it does not listen
    if s.registered then
      { s with queue := s.queue.map (·.offer a), registered := s.queue.any (·.reader = .listening) }
    else s
  | .receive =>
    { s with queue := s.queue.map fun q => (q.receive s.hasSender).2, taken := s.taken ++ s.found.item?.toList }
  | .closeReader => { s with queue := s.queue.map Queue.close }
  | .dropReader => { s with queue := s.queue.map Queue.drop }

end Alone

/-! ## §3. A subscriber among others. -/

/-- The subscriber with a queue is among some. -/
def isAmong (es : List Entry) (k : Nat) : Bool := es.any (·.queue == k)

theorem isAmong_iff (es : List Entry) (k : Nat) : isAmong es k = true ↔ ∃ e ∈ es, e.queue = k := by
  unfold isAmong
  simp [List.any_eq_true]

section
variable {x : Exchange α} {roll : List Entry}

/-- A newcomer neither opens nor closes the exchange, and is on no list. -/
theorem add_frame (x : Exchange α) (capacity : Nat) :
    (x.add capacity).2.isOpen = x.isOpen ∧ (x.add capacity).2.held = x.held := by
  cases hopen : x.isOpen with
  | true =>
    rw [add_of_open hopen]
    exact ⟨hopen, rfl⟩
  | false =>
    rw [add_of_closed hopen]
    exact ⟨hopen, rfl⟩

/-- An offer strikes nobody off. -/
theorem offerHeld_frame (x : Exchange α) (i : Nat) (a : α) :
    (x.offerHeld i a).isOpen = x.isOpen ∧ (x.offerHeld i a).entries = x.entries := by
  cases hnext : x.nextHeld? i with
  | none =>
    rw [offerHeld_of_none hnext]
    exact ⟨rfl, rfl⟩
  | some e =>
    obtain ⟨es, hheld⟩ := (x.nextHeld?_eq_some_iff i e).1 hnext
    rw [offerHeld_of_cons hheld]
    exact ⟨rfl, rfl⟩

/-- A reader strikes nobody off. -/
theorem receive_frame (x : Exchange α) (p : Nat) :
    (x.receive p).2.isOpen = x.isOpen ∧ (x.receive p).2.entries = x.entries ∧ (x.receive p).2.held = x.held := by
  rw [receive_snd]
  exact ⟨rfl, rfl, rfl⟩

/-- A subscriber is struck off if it is one of those who are, whoever else is. -/
theorem Enrolled.isAmong_filter (h : x.Enrolled roll) (k : Nat) (p : Entry → Bool) :
    isAmong (x.entries.filter p) k = if ∃ e ∈ roll, e.queue = k ∧ p e = false then false else isAmong x.entries k := by
  rw [Bool.eq_iff_iff, isAmong_iff]
  constructor
  · rintro ⟨e, he, hk⟩
    obtain ⟨he, hp⟩ := List.mem_filter.1 he
    rw [if_neg, isAmong_iff]
    · exact ⟨e, he, hk⟩
    · rintro ⟨e', he', hk', hp'⟩
      obtain rfl := h.ordered.eq_of_queue (h.ordered.entries.subset he) he' (hk.trans hk'.symm)
      rw [hp] at hp'
      cases hp'
  · intro hamong
    split at hamong
    · cases hamong
    · rename_i hstays
      obtain ⟨e, he, hk⟩ := (isAmong_iff _ _).1 hamong
      refine ⟨e, List.mem_filter.2 ⟨he, ?_⟩, hk⟩
      by_contra hp
      exact hstays ⟨e, h.ordered.entries.subset he, hk, Bool.eq_false_iff.2 hp⟩

theorem Enrolled.isAmong_add (h : x.Enrolled roll) (capacity k : Nat) :
    isAmong (x.add capacity).2.entries k = if k = x.queues.length then x.isOpen else isAmong x.entries k := by
  have hnew : isAmong x.entries x.queues.length = false := by
    refine Bool.eq_false_iff.2 fun hamong => ?_
    obtain ⟨e, he, hk⟩ := (isAmong_iff _ _).1 hamong
    exact Nat.ne_of_lt (h.ordered.below e (h.ordered.entries.subset he)).2 hk
  cases hopen : x.isOpen with
  | false =>
    rw [add_of_closed hopen]
    split
    · rename_i hk
      rw [hk, hnew]
    · rfl
  | true =>
    rw [add_of_open hopen]
    show (x.entries ++ [(⟨x.nextId, x.queues.length⟩ : Entry)]).any (·.queue == k) = _
    rw [List.any_append]
    split
    · rename_i hk
      simp [hk]
    · rename_i hk
      simp [isAmong, Ne.symm hk]

/-- An item strikes a subscriber off if it does not listen, whoever else does. -/
theorem Enrolled.isAmong_fanOut (h : x.Enrolled roll) (a : α) (k : Nat) :
    isAmong (x.fanOut a).2.entries k = (isAmong x.entries k && (x.queue? k).any (·.reader = .listening)) := by
  rw [fanOut_eq x a h.ordered.entries_ids_nodup h.ordered.entries_queues_nodup, Bool.eq_iff_iff, Bool.and_eq_true,
    isAmong_iff, isAmong_iff]
  have hlistens : ∀ e : Entry, e.queue = k →
      (decide (x.verdictOf e ≠ .refused) = true ↔ (x.queue? k).any (·.reader = .listening) = true) := by
    rintro e rfl
    rw [decide_eq_true_iff, Ne, verdictOf_eq_refused_iff, not_not, Option.any_eq_true]
    simp [IsListening]
  constructor
  · rintro ⟨e, he, hk⟩
    obtain ⟨he, hv⟩ := List.mem_filter.1 he
    exact ⟨⟨e, he, hk⟩, (hlistens e hk).1 hv⟩
  · rintro ⟨⟨e, he, hk⟩, hl⟩
    exact ⟨e, List.mem_filter.2 ⟨he, (hlistens e hk).2 hl⟩, hk⟩

/-- Whoever is offered an item is crossed out, and nobody else is. -/
theorem Enrolled.noted_offerHeld (h : x.Enrolled roll) (i : Nat) (a : α) (k : Nat) :
    (x.offerHeld i a).held.map (isAmong · k)
      = if (x.nextHeld? i).map (·.queue) = some k then (x.held.map (isAmong · k)).set i false
        else x.held.map (isAmong · k) := by
  cases hnext : x.nextHeld? i with
  | none =>
    rw [offerHeld_of_none hnext]
    rfl
  | some e =>
    obtain ⟨es, hheld⟩ := (x.nextHeld?_eq_some_iff i e).1 hnext
    rw [offerHeld_of_cons hheld, List.map_set, Option.map_some]
    by_cases hk : e.queue = k
    · have hnot : isAmong es k = false := by
        refine Bool.eq_false_iff.2 fun hamong => h.queue_notMem hheld ?_
        rw [hk]
        exact List.mem_map.2 ((isAmong_iff _ _).1 hamong)
      rw [if_pos (congrArg some hk), hnot]
    · have hsame : isAmong (e :: es) k = isAmong es k := by simp [isAmong, hk]
      rw [if_neg (fun heq => hk (Option.some.inj heq)), ← hsame]
      obtain ⟨hlt, hat⟩ := List.getElem?_eq_some_iff.1 hheld
      rw [← hat, ← List.map_set, List.set_getElem_self]

end

namespace Usage

/-- A subscriber as it is among all others. -/
def seenBy (u : Usage α) (k : Nat) : Alone α where
  isOpen := u.exchange.isOpen
  queue := u.exchange.queue? k
  registered := isAmong u.exchange.entries k
  noted := u.exchange.held.map (isAmong · k)
  taken := u.takenFrom k

theorem hasSender_seenBy (u : Usage α) (k : Nat) : (u.seenBy k).hasSender = u.exchange.hasSender k := by
  show (isAmong _ k || (u.exchange.held.map (isAmong · k)).any id) = _
  rw [List.any_map]
  rfl

theorem found_seenBy (u : Usage α) (k : Nat) : (u.seenBy k).found = (u.exchange.receive k).1 := by
  unfold Alone.found
  rw [hasSender_seenBy]
  show ((u.exchange.queue? k).map _).getD _ = _
  cases hq : u.exchange.queue? k with
  | none =>
    unfold Exchange.receive
    rw [hq]
    rfl
  | some q =>
    rw [receive_fst hq]
    rfl

section
variable {u : Usage α} {k : Nat}

/-- An operation by which nobody takes anything. -/
theorem takenFrom_next_of_none (op : Operation α) (h : itemsAt (u.exchange.takes op) k = []) :
    (u.next op).takenFrom k = u.takenFrom k := by
  rw [takenFrom_next, h, List.append_nil]

theorem seenBy_add (h : u.exchange.Enrolled u.roll) (capacity : Nat) : (u.next (.add capacity)).seenBy k
    = if k = u.exchange.queues.length then (u.seenBy k).next (.join capacity) else u.seenBy k := by
  obtain ⟨hopen, hheld⟩ := u.exchange.add_frame capacity
  have hnoted := congrArg (List.map (isAmong · k)) hheld
  have hqueue := u.exchange.queue?_add capacity k
  have hregistered := h.isAmong_add capacity k
  have htaken := u.takenFrom_next_of_none (k := k) (.add capacity) rfl
  split
  · rename_i hk
    exact Alone.ext hopen (hqueue.trans (if_pos hk)) (hregistered.trans (if_pos hk)) hnoted htaken
  · rename_i hk
    exact Alone.ext hopen (hqueue.trans (if_neg hk)) (hregistered.trans (if_neg hk)) hnoted htaken

/-- Those that a test does not spare are struck off; only its own id strikes the
subscriber off. -/
theorem seenBy_strike (h : u.exchange.Enrolled u.roll) (op : Operation α) (p : Entry → Bool)
    (hop : u.exchange.apply op = { u.exchange with entries := u.exchange.entries.filter p })
    (htakes : u.exchange.takes op = []) : (u.next op).seenBy k
      = if ∃ e ∈ u.roll, e.queue = k ∧ p e = false then (u.seenBy k).next .leave else u.seenBy k := by
  have hisOpen := congrArg Exchange.isOpen hop
  have hqueue := congrArg (Exchange.queue? · k) hop
  have hnoted := congrArg (fun x : Exchange α => x.held.map (isAmong · k)) hop
  have hregistered := (congrArg (fun x : Exchange α => isAmong x.entries k) hop).trans (h.isAmong_filter k p)
  have htaken := takenFrom_next_of_none (k := k) op (congrArg (itemsAt · k) htakes)
  split
  · rename_i hown
    exact Alone.ext hisOpen hqueue (hregistered.trans (if_pos hown)) hnoted htaken
  · rename_i hown
    exact Alone.ext hisOpen hqueue (hregistered.trans (if_neg hown)) hnoted htaken

theorem seenBy_offer (h : u.exchange.Enrolled u.roll) (i : Nat) (a : α) : (u.next (.offer i a)).seenBy k
    = if (u.exchange.nextHeld? i).map (·.queue) = some k then (u.seenBy k).next (.offer i a) else u.seenBy k := by
  obtain ⟨hopen, hentries⟩ := u.exchange.offerHeld_frame i a
  have hqueue := u.exchange.queue?_offerHeld i a k
  have hnoted := h.noted_offerHeld i a k
  have hregistered := congrArg (isAmong · k) hentries
  have htaken := u.takenFrom_next_of_none (k := k) (.offer i a) rfl
  split
  · rename_i hnext
    exact Alone.ext hopen (hqueue.trans (if_pos hnext)) hregistered (hnoted.trans (if_pos hnext)) htaken
  · rename_i hnext
    exact Alone.ext hopen (hqueue.trans (if_neg hnext)) hregistered (hnoted.trans (if_neg hnext)) htaken

theorem seenBy_fanOut (h : u.exchange.Enrolled u.roll) (a : α) :
    (u.next (.fanOut a)).seenBy k = (u.seenBy k).next (.fanOut a) := by
  obtain ⟨-, hopen, hheld, -⟩ := u.exchange.fanOut_frame a
  have hnoted := congrArg (List.map (isAmong · k)) hheld
  have hregistered := h.isAmong_fanOut a k
  have hqueue := h.ordered.queue?_fanOut_eq a k
  have hamong : k ∈ u.exchange.entries.map (·.queue) ↔ isAmong u.exchange.entries k = true := by
    rw [isAmong_iff, List.mem_map]
  have htaken := u.takenFrom_next_of_none (k := k) (.fanOut a) rfl
  show _ = if isAmong u.exchange.entries k = true then _ else u.seenBy k
  split
  · rename_i hk
    rw [hk, Bool.true_and] at hregistered
    exact Alone.ext hopen (hqueue.trans (if_pos (hamong.2 hk))) hregistered hnoted htaken
  · rename_i hk
    rw [Bool.eq_false_iff.2 hk, Bool.false_and] at hregistered
    have hstill := hregistered.trans (Bool.eq_false_iff.2 hk).symm
    exact Alone.ext hopen (hqueue.trans (if_neg (mt hamong.1 hk))) hstill hnoted htaken

theorem seenBy_receive (u : Usage α) (k q : Nat) :
    (u.next (.receive q)).seenBy k = if q = k then (u.seenBy k).next .receive else u.seenBy k := by
  obtain ⟨hopen, hentries, hheld⟩ := u.exchange.receive_frame q
  have hregistered := congrArg (isAmong · k) hentries
  have hnoted := congrArg (List.map (isAmong · k)) hheld
  have htakes := u.exchange.itemsAt_takes k q
  have hqueue : (u.exchange.receive q).2.queue? k = if q = k then
      (u.exchange.queue? k).map fun queue => (queue.receive (u.exchange.hasSender q)).2
      else u.exchange.queue? k := by
    rw [receive_snd, queue?_modifyQueue]
  split
  · rename_i hq
    subst hq
    rw [if_pos rfl, ← hasSender_seenBy] at hqueue
    rw [if_pos rfl, ← found_seenBy] at htakes
    refine Alone.ext hopen hqueue hregistered hnoted ((takenFrom_next ..).trans ?_)
    rw [htakes]
    rfl
  · rename_i hq
    exact Alone.ext hopen (hqueue.trans (if_neg hq)) hregistered hnoted
      (takenFrom_next_of_none _ (htakes.trans (if_neg hq)))

/-- A reader that wants no more, or goes, does something to its own queue. -/
theorem seenBy_modifyQueue {op : Operation α} {p : Nat} {f : Queue α → Queue α}
    (hop : u.exchange.apply op = u.exchange.modifyQueue p f) (htakes : u.exchange.takes op = []) :
    (u.next op).seenBy k
      = if p = k then { u.seenBy k with queue := (u.seenBy k).queue.map f } else u.seenBy k := by
  have hisOpen := congrArg Exchange.isOpen hop
  have hqueue := (congrArg (Exchange.queue? · k) hop).trans (u.exchange.queue?_modifyQueue p k f)
  have hnoted := congrArg (fun x : Exchange α => x.held.map (isAmong · k)) hop
  have hregistered := congrArg (fun x : Exchange α => isAmong x.entries k) hop
  have htaken := takenFrom_next_of_none (k := k) op (congrArg (itemsAt · k) htakes)
  split
  · rename_i hp
    exact Alone.ext hisOpen (hqueue.trans (if_pos hp)) hregistered hnoted htaken
  · rename_i hp
    exact Alone.ext hisOpen (hqueue.trans (if_neg hp)) hregistered hnoted htaken

/-- **Nobody else makes a difference to a subscriber.** An operation does to it
what it would do to it alone, and nothing if it does not concern it. -/
theorem seenBy_next (h : u.exchange.Enrolled u.roll) (op : Operation α) :
    (u.next op).seenBy k = ((u.concern? k op).map (u.seenBy k).next).getD (u.seenBy k) := by
  have hconcern : ∀ (own : Prop) [Decidable own] (c : Concern α),
      ((if own then some c else none).map (u.seenBy k).next).getD (u.seenBy k)
        = if own then (u.seenBy k).next c else u.seenBy k := by
    intro own _ c
    split
    · rfl
    · rfl
  cases op with
  | add capacity => exact (u.seenBy_add h capacity).trans (hconcern _ _).symm
  | remove id =>
    have hstrike := u.seenBy_strike (k := k) h (.remove id) (·.id != id) rfl rfl
    simp only [bne_eq_false_iff_eq] at hstrike
    exact hstrike.trans (hconcern _ _).symm
  | removeAll ids =>
    have hstrike := u.seenBy_strike (k := k) h (.removeAll ids) (fun e => !ids.contains e.id) rfl rfl
    simp only [Bool.not_eq_eq_eq_not, Bool.not_false, List.contains_iff_mem] at hstrike
    exact hstrike.trans (hconcern _ _).symm
  | close => exact Alone.ext rfl rfl rfl rfl (takenFrom_next_of_none _ rfl)
  | hold => exact Alone.ext rfl rfl rfl rfl (takenFrom_next_of_none _ rfl)
  | release i => exact Alone.ext rfl rfl rfl (List.eraseIdx_map ..).symm (takenFrom_next_of_none _ rfl)
  | offer i a => exact (u.seenBy_offer h i a).trans (hconcern _ _).symm
  | fanOut a => exact u.seenBy_fanOut h a
  | receive q => exact (u.seenBy_receive k q).trans (hconcern _ _).symm
  | closeReader q => exact (seenBy_modifyQueue rfl rfl).trans (hconcern (q = k) .closeReader).symm
  | dropReader q => exact (seenBy_modifyQueue rfl rfl).trans (hconcern (q = k) .dropReader).symm

end

/-! ## §4. Two usages. -/

/-- What concerns a subscriber among the operations that come next. -/
def concernsFrom (u : Usage α) (k : Nat) : List (Operation α) → List (Concern α)
  | [] => []
  | op :: ops => (u.concern? k op).toList ++ (u.next op).concernsFrom k ops

/-- What concerns a subscriber among all that is done with an exchange. -/
def concerns (k : Nat) (ops : List (Operation α)) : List (Concern α) := ({} : Usage α).concernsFrom k ops

theorem concernsFrom_append (k : Nat) (ops ops' : List (Operation α)) : ∀ u : Usage α,
    u.concernsFrom k (ops ++ ops') = u.concernsFrom k ops ++ (u.run ops).concernsFrom k ops' := by
  induction ops with
  | nil => exact fun _ => rfl
  | cons op ops ih =>
    intro u
    show _ ++ (u.next op).concernsFrom k (ops ++ ops') = _
    rw [ih, ← List.append_assoc]
    rfl

theorem concerns_prefix (k : Nat) {before ops : List (Operation α)} (h : before <+: ops) :
    concerns k before <+: concerns k ops := by
  obtain ⟨rest, rfl⟩ := h
  exact ⟨_, (concernsFrom_append k before rest {}).symm⟩

/-- The first few things that concern a subscriber are all that concerns it
among the first few operations. -/
theorem exists_before {k : Nat} {ops : List (Operation α)} : ∀ {u : Usage α} {cs : List (Concern α)},
    cs <+: u.concernsFrom k ops → ∃ before, before <+: ops ∧ u.concernsFrom k before = cs := by
  induction ops with
  | nil =>
    intro u cs hcs
    exact ⟨[], List.nil_prefix, (List.prefix_nil.1 hcs).symm⟩
  | cons op ops ih =>
    intro u cs hcs
    have hcs : cs <+: (u.concern? k op).toList ++ (u.next op).concernsFrom k ops := hcs
    cases hop : u.concern? k op with
    | none =>
      rw [hop] at hcs
      obtain ⟨before, hbefore, heq⟩ := ih hcs
      refine ⟨op :: before, List.cons_prefix_cons.2 ⟨rfl, hbefore⟩, ?_⟩
      rw [concernsFrom, hop]
      exact heq
    | some c =>
      rw [hop] at hcs
      rcases List.prefix_cons_iff.1 hcs with rfl | ⟨cs', rfl, hcs'⟩
      · exact ⟨[], List.nil_prefix, rfl⟩
      · obtain ⟨before, hbefore, heq⟩ := ih hcs'
        refine ⟨op :: before, List.cons_prefix_cons.2 ⟨rfl, hbefore⟩, ?_⟩
        rw [concernsFrom, hop, heq]
        rfl

/-- **A subscriber goes through the states it would go through alone.** -/
theorem seenBy_run (k : Nat) (ops : List (Operation α)) : ∀ {u : Usage α}, u.exchange.Enrolled u.roll →
    (u.run ops).seenBy k = (u.concernsFrom k ops).foldl Alone.next (u.seenBy k) := by
  induction ops with
  | nil => exact fun _ => rfl
  | cons op ops ih =>
    intro u hu
    show ((u.next op).run ops).seenBy k = List.foldl _ _ ((u.concern? k op).toList ++ _)
    rw [ih (u := u.next op) (hu.apply op), seenBy_next hu, List.foldl_append]
    cases u.concern? k op with
    | none => rfl
    | some c => rfl

/-- **Subscribers do not disturb one another.** Take two usages in which the same
things concern a subscriber: it is added with the same capacity, the exchange
hands out the same items, is closed, and has its subscribers noted down, and the
subscriber takes, wants no more, goes and is struck off, all in the same order.
All others may differ in number and in all they do.

Whenever the same things have happened to the subscriber in both, and for each
moment of the one there is such a moment of the other, its queue is the same, so
is what it has taken and whether it is registered, and its reader would find the
same, be it an item, nothing, or the end. -/
theorem queue_eq_of_concerns_eq {ops ops' : List (Operation α)} {k k' : Nat}
    (h : concerns k ops = concerns k' ops') :
    ∀ before, before <+: ops →
      (∃ before', before' <+: ops' ∧ concerns k before = concerns k' before')
        ∧ ∀ before', before' <+: ops' → concerns k before = concerns k' before' →
          let u := ({} : Usage α).run before
          let u' := ({} : Usage α).run before'
          u.exchange.queue? k = u'.exchange.queue? k'
            ∧ u.takenFrom k = u'.takenFrom k'
            ∧ ((∃ e ∈ u.exchange.entries, e.queue = k) ↔ ∃ e ∈ u'.exchange.entries, e.queue = k')
            ∧ (u.exchange.receive k).1 = (u'.exchange.receive k').1 := by
  intro before hbefore
  constructor
  · have hprefix : concerns k before <+: concerns k' ops' := h ▸ concerns_prefix k hbefore
    obtain ⟨before', hbefore', heq⟩ := exists_before hprefix
    exact ⟨before', hbefore', heq.symm⟩
  · intro before' _ hsame u u'
    -- alone, both would go through the same states
    have hseen : u.seenBy k = u'.seenBy k' := by
      rw [seenBy_run k before enrolled_empty, seenBy_run k' before' enrolled_empty]
      exact congrArg (List.foldl Alone.next {}) hsame
    refine ⟨congrArg Alone.queue hseen, congrArg Alone.taken hseen, ?_, ?_⟩
    · rw [← isAmong_iff, ← isAmong_iff]
      exact Bool.eq_iff_iff.1 (congrArg Alone.registered hseen)
    · rw [← found_seenBy, ← found_seenBy, hseen]

/-- A subscriber that is too slow for three items, once alone and once among
others who come, are too slow as well, want no more, go and are struck off. -/
theorem queue_eq_in_crowd : ∃ ops ops' : List (Operation Nat),
    ops = [.add 2, .fanOut 7, .fanOut 8, .fanOut 9, .receive 0]
      ∧ ops' = [.add 1, .add 2, .add 1, .fanOut 7, .dropReader 2, .closeReader 0, .fanOut 8, .remove 1, .fanOut 9,
          .receive 1]
      ∧ concerns 0 ops = concerns 1 ops'
      ∧ (({} : Usage Nat).run ops).takenFrom 0 = [7] ∧ (({} : Usage Nat).run ops').takenFrom 1 = [7] := by
  have hconcerns : concerns (α := Nat) 0 [.add 2, .fanOut 7, .fanOut 8, .fanOut 9, .receive 0]
      = concerns 1 [.add 1, .add 2, .add 1, .fanOut 7, .dropReader 2, .closeReader 0, .fanOut 8, .remove 1, .fanOut 9,
          .receive 1] := rfl
  obtain ⟨-, hsame⟩ := queue_eq_of_concerns_eq hconcerns _ (List.prefix_refl _)
  obtain ⟨-, htaken, -⟩ := hsame _ (List.prefix_refl _) hconcerns
  exact ⟨_, _, rfl, rfl, hconcerns, rfl, htaken.symm⟩

end Usage

end Exchange

end CallGateway
