/-
  CallGateway.Proofs.Exchange.Senders
  ───────────────────────────────────
  **WHEN A QUEUE HAS COME TO ITS END.**

  A queue is kept open by its senders: one that the exchange has for a
  registered subscriber, and one for each list on which the subscriber is noted
  down.  However the operations follow one another, every sender that was made
  was given up or is one of these (`senders_apply`).  So a reader finds the end
  of its queue just where nothing is left in it and the last sender was given
  up, unless it closed the queue itself; and then nothing can come any more
  (`Enrolled.isOver_apply`).

  Whatever was put into a queue until then was taken or is still there, whoever
  was struck off meanwhile.
-/
import CallGateway.Proofs.Exchange.Usage
import Mathlib.Data.List.Perm.Basic

namespace CallGateway

namespace Exchange

variable {α : Type}

/-! ## §1. Senders. -/

/-- The queues that can be reached, each as often as someone has a sender. -/
def senders (x : Exchange α) : List Nat := (x.entries ++ x.held.flatten).map (·.queue)

section
variable {x : Exchange α} {roll : List Entry} {k : Nat}

theorem mem_senders_iff (x : Exchange α) (k : Nat) :
    k ∈ x.senders ↔ (∃ e ∈ x.entries, e.queue = k) ∨ ∃ es ∈ x.held, ∃ e ∈ es, e.queue = k := by
  unfold senders
  rw [List.mem_map]
  constructor
  · rintro ⟨e, he, rfl⟩
    rcases List.mem_append.1 he with he | he
    · exact .inl ⟨e, he, rfl⟩
    · obtain ⟨es, hes, he⟩ := List.mem_flatten.1 he
      exact .inr ⟨es, hes, e, he, rfl⟩
  · rintro (⟨e, he, rfl⟩ | ⟨es, hes, e, he, rfl⟩)
    · exact ⟨e, List.mem_append_left _ he, rfl⟩
    · exact ⟨e, List.mem_append_right _ (List.mem_flatten.2 ⟨es, hes, he⟩), rfl⟩

theorem hasSender_iff (x : Exchange α) (k : Nat) : x.hasSender k = true ↔ k ∈ x.senders := by
  rw [mem_senders_iff]
  unfold hasSender
  simp [List.any_eq_true]

/-- Where some subscribers are struck off, their senders are given up. -/
theorem senders_filter (x : Exchange α) (p p' : Entry → Bool) (h : ∀ e, p' e = !p e) :
    x.senders.Perm ((x.entries.filter p').map (·.queue) ++ { x with entries := x.entries.filter p }.senders) := by
  have hsplit : (x.entries.filter p' ++ x.entries.filter p).Perm x.entries := by
    rw [funext h]
    exact List.perm_append_comm.trans (List.filter_append_perm p x.entries)
  unfold senders
  rw [← List.map_append, ← List.append_assoc]
  exact ((hsplit.append_right _).map _).symm

/-- Where a list is forgotten, its senders are given up. -/
theorem senders_forget (x : Exchange α) {es : List Entry} {held : List (List Entry)} (h : x.held.Perm (es :: held)) :
    x.senders.Perm (es.map (·.queue) ++ { x with held }.senders) := by
  unfold senders
  rw [← List.map_append]
  refine List.Perm.map _ ?_
  calc (x.entries ++ x.held.flatten).Perm (x.entries ++ (es ++ held.flatten)) := h.flatten.append_left _
    List.Perm _ (es ++ (x.entries ++ held.flatten)) := List.perm_append_comm_assoc ..

theorem senders_add (x : Exchange α) (capacity : Nat) : (x.senders ++ [x.queues.length]).Perm
    ((if x.isOpen = true then [] else [x.queues.length]) ++ (x.add capacity).2.senders) := by
  by_cases hopen : x.isOpen = true
  · rw [if_pos hopen, add_of_open hopen]
    unfold senders
    simp only [List.map_append, List.append_assoc, List.nil_append]
    exact List.perm_append_comm.append_left _
  · rw [if_neg hopen, add_of_closed (Bool.eq_false_iff.2 hopen)]
    exact List.perm_append_comm

theorem senders_release (x : Exchange α) (i : Nat) :
    x.senders.Perm ((x.held[i]?.getD []).map (·.queue) ++ (x.release i).senders) := by
  show x.senders.Perm ((x.held[i]?.getD []).map (·.queue) ++ { x with held := x.held.eraseIdx i }.senders)
  by_cases hi : i < x.held.length
  · rw [List.getElem?_eq_getElem hi]
    exact x.senders_forget (List.getElem_cons_eraseIdx_perm hi).symm
  · rw [List.getElem?_eq_none (Nat.le_of_not_lt hi), List.eraseIdx_of_length_le (Nat.le_of_not_lt hi)]
    exact .refl _

/-- The next subscriber is crossed out on its list. -/
theorem senders_offerHeld (x : Exchange α) (i : Nat) (a : α) :
    x.senders.Perm ((x.nextHeld? i).toList.map (·.queue) ++ (x.offerHeld i a).senders) := by
  cases hnext : x.nextHeld? i with
  | none =>
    rw [offerHeld_of_none hnext]
    exact .refl _
  | some e =>
    obtain ⟨es, hheld⟩ := (x.nextHeld?_eq_some_iff i e).1 hnext
    obtain ⟨hi, hat⟩ := List.getElem?_eq_some_iff.1 hheld
    have hbefore := x.senders_forget (List.getElem_cons_eraseIdx_perm hi).symm
    have hafter := { x with held := x.held.set i es }.senders_forget (List.set_perm_cons_eraseIdx hi es)
    rw [hat] at hbefore
    rw [offerHeld_of_cons hheld]
    exact hbefore.trans (hafter.symm.cons e.queue)

/-- Those who refused the item are struck off, and the list that was noted down for
it is forgotten. -/
theorem Enrolled.senders_fanOut (h : x.Enrolled roll) (a : α) : (x.senders ++ x.entries.map (·.queue)).Perm
    (x.entries.map (·.queue) ++ (x.meeting .refused x.entries).map (·.queue) ++ (x.fanOut a).2.senders) := by
  rw [fanOut_eq x a h.ordered.entries_ids_nodup h.ordered.entries_queues_nodup, List.append_assoc]
  refine List.perm_append_comm.trans (List.Perm.append_left _ ?_)
  exact x.senders_filter (x.verdictOf · ≠ .refused) (x.verdictOf · = .refused) fun e => by simp

/-- **Every operation accounts for its senders.** Those that there were and those
that it makes are given up or still there. -/
theorem Enrolled.senders_apply (h : x.Enrolled roll) (op : Operation α) :
    (x.senders ++ x.makes op).Perm (x.frees op ++ (x.apply op).senders) := by
  -- most operations make none
  have hnone : ∀ {frees after : List Nat}, x.senders.Perm (frees ++ after) →
      (x.senders ++ []).Perm (frees ++ after) := fun hperm => by rwa [List.append_nil]
  cases op with
  | add capacity => exact x.senders_add capacity
  | remove id => exact hnone (x.senders_filter (·.id != id) (fun e => e.id = id) fun e => (Bool.not_not _).symm)
  | removeAll ids => exact hnone (x.senders_filter (fun e => !ids.contains e.id) (fun e => ids.contains e.id)
      fun e => (Bool.not_not _).symm)
  | close =>
    refine hnone (List.Perm.of_eq ?_)
    show (x.entries ++ x.held.flatten).map Entry.queue = x.entries.map Entry.queue ++ x.held.flatten.map Entry.queue
    exact List.map_append
  | hold =>
    show (x.senders ++ x.entries.map (·.queue)).Perm
      ((x.entries ++ (x.entries ++ x.held.flatten)).map Entry.queue)
    rw [List.map_append]
    exact List.perm_append_comm
  | release i => exact hnone (x.senders_release i)
  | offer i a => exact hnone (x.senders_offerHeld i a)
  | fanOut a => exact h.senders_fanOut a
  | receive p =>
    refine hnone (List.Perm.of_eq ?_)
    show x.senders = (x.receive p).2.senders
    rw [receive_snd]
    rfl
  | closeReader p => exact hnone (.refl _)
  | dropReader p => exact hnone (.refl _)

/-! ## §2. The end of a queue. -/

/-- Nothing is left for the reader of a queue, and nobody could put anything
in for one that listens. -/
def IsOver (x : Exchange α) (k : Nat) : Prop :=
  ∃ q, x.queue? k = some q ∧ (q.reader ≠ .gone → q.items = []) ∧ (q.reader = .listening → k ∉ x.senders)

/-- What a reader finds that has come to the end of its queue. -/
theorem IsOver.receive (h : x.IsOver k) : (x.receive k).1 = .disconnected ∨ (x.receive k).1 = .gone := by
  obtain ⟨q, hq, hitems, hsenders⟩ := h
  rw [receive_fst hq]
  by_cases hgone : q.reader = .gone
  · right
    unfold Queue.receive
    rw [hgone]
  · left
    refine (Queue.receive_eq_disconnected_iff hgone _).2 ⟨hitems hgone, ?_⟩
    cases hreader : q.reader with
    | listening => exact .inr (Bool.eq_false_iff.2 fun h => hsenders hreader ((x.hasSender_iff k).1 h))
    | closed => exact .inl rfl
    | gone => exact absurd hreader hgone

theorem isOver_of_receive (h : (x.receive k).1 = .disconnected) : x.IsOver k := by
  cases hq : x.queue? k with
  | none =>
    unfold Exchange.receive at h
    rw [hq] at h
    cases h
  | some q =>
    rw [receive_fst hq] at h
    have hgone : q.reader ≠ .gone := by
      intro hgone
      unfold Queue.receive at h
      rw [hgone] at h
      cases h
    obtain ⟨hitems, hend⟩ := (Queue.receive_eq_disconnected_iff hgone _).1 h
    refine ⟨q, hq, fun _ => hitems, fun hreader hmem => ?_⟩
    rcases hend with hclosed | hsender
    · rw [hreader] at hclosed
      cases hclosed
    · rw [(x.hasSender_iff k).2 hmem] at hsender
      cases hsender

/-- Whoever is offered an item can be reached. -/
theorem mem_senders_of_offeredTo {op : Operation α} {a : α} (h : x.offeredTo k op = some a) : k ∈ x.senders := by
  rw [mem_senders_iff]
  cases op with
  | offer i a' =>
    right
    have hnext : (x.nextHeld? i).map (·.queue) = some k := by
      by_contra hne
      rw [offeredTo, if_neg hne] at h
      cases h
    obtain ⟨e, he, hk⟩ := Option.map_eq_some_iff.1 hnext
    obtain ⟨es, hheld⟩ := (x.nextHeld?_eq_some_iff i e).1 he
    exact ⟨e :: es, List.mem_of_getElem? hheld, e, List.mem_cons_self, hk⟩
  | fanOut a' =>
    left
    have hmem : k ∈ x.entries.map (·.queue) := by
      by_contra hne
      rw [offeredTo, if_neg hne] at h
      cases h
    exact List.mem_map.1 hmem
  | _ => cases h

/-- A queue that was set up cannot be reached again once its last sender was
given up. -/
theorem Enrolled.mem_senders_of_apply (h : x.Enrolled roll) (hk : k < x.queues.length) {op : Operation α}
    (hmem : k ∈ (x.apply op).senders) : k ∈ x.senders := by
  have hall := (h.senders_apply op).symm.subset (List.mem_append_right _ hmem)
  rcases List.mem_append.1 hall with hbefore | hmade
  · exact hbefore
  · cases op with
    | add capacity => exact absurd (List.mem_singleton.1 hmade) (Nat.ne_of_lt hk)
    | hold => exact (x.mem_senders_iff k).2 (.inl (List.mem_map.1 hmade))
    | fanOut a => exact (x.mem_senders_iff k).2 (.inl (List.mem_map.1 hmade))
    | _ => cases hmade

/-- A reader that has stopped listening does not listen again, and only one
that goes is gone. -/
theorem reader_effectOn (x : Exchange α) (k : Nat) (op : Operation α) (q : Queue α) :
    ((x.effectOn k op q).reader = .listening → q.reader = .listening)
      ∧ ((x.effectOn k op q).reader = .gone → q.reader = .gone ∨ op = .dropReader k) := by
  have hsame : ∀ q' : Queue α, q'.reader = q.reader → (q'.reader = .listening → q.reader = .listening)
      ∧ (q'.reader = .gone → q.reader = .gone ∨ op = .dropReader k) :=
    fun q' heq => ⟨fun h => heq ▸ h, fun h => .inl (heq ▸ h)⟩
  unfold effectOn
  split
  · split
    · exact hsame _ (q.reader_receive _)
    · exact hsame q rfl
  · split
    · rw [Queue.reader_close]
      split
      · rename_i hgone
        exact ⟨nofun, fun _ => .inl hgone⟩
      · exact ⟨nofun, nofun⟩
    · exact hsame q rfl
  · rename_i p
    split
    · rename_i hp
      exact ⟨nofun, fun _ => .inr (hp ▸ rfl)⟩
    · exact hsame q rfl
  · cases x.offeredTo k op with
    | none => exact hsame q rfl
    | some a => exact hsame _ (q.reader_offer a)

/-- Only its own reader takes anything out of a queue. -/
theorem Enrolled.items_kept (h : x.Enrolled roll) {q : Queue α} (hq : x.queue? k = some q) (hgone : q.reader ≠ .gone)
    {op : Operation α} (hreceive : op ≠ .receive k) (hdrop : op ≠ .dropReader k) :
    ∃ q', (x.apply op).queue? k = some q' ∧ q'.items = q.items ++ itemsAt (x.puts op) k := by
  have htakes : itemsAt (x.takes op) k = [] := by
    cases op with
    | receive p =>
      refine (itemsAt_takes x k p).trans (if_neg fun hp => hreceive ?_)
      rw [hp]
    | _ => rfl
  have hreader : (x.effectOn k op q).reader ≠ .gone := by
    intro h
    rcases (x.reader_effectOn k op q).2 h with h | h
    · exact hgone h
    · exact hdrop h
  obtain ⟨-, hitems⟩ := h.items_apply op hq hreader
  rw [htakes] at hitems
  exact ⟨_, h.queue?_apply op hq, hitems⟩

/-- **The end is for good.** Nothing is put any more into a queue that has come to
its end, and it stays there. -/
theorem Enrolled.isOver_apply (h : x.Enrolled roll) (hover : x.IsOver k) (op : Operation α) :
    (x.apply op).IsOver k ∧ itemsAt (x.puts op) k = [] := by
  obtain ⟨q, hq, hitems, hsenders⟩ := hover
  have hputs : itemsAt (x.puts op) k = [] := by
    rw [h.itemsAt_puts, hq]
    split
    · rename_i hv
      have hlistening : q.reader = .listening := by
        by_contra hne
        have hrefused : q.verdict = .refused := if_pos hne
        rw [Option.map_some, hrefused] at hv
        cases hv
      cases hoffered : x.offeredTo k op with
      | none => rfl
      | some a => exact absurd (mem_senders_of_offeredTo hoffered) (hsenders hlistening)
    · rfl
  refine ⟨⟨_, h.queue?_apply op hq, fun hgone => ?_, fun hlistening hmem => ?_⟩, hputs⟩
  · obtain ⟨hgone', hkept⟩ := h.items_apply op hq hgone
    rw [hputs, hitems hgone', List.append_nil] at hkept
    exact (List.append_eq_nil_iff.1 hkept).2
  · have hlt := (List.getElem?_eq_some_iff.1 hq).1
    exact hsenders ((x.reader_effectOn k op q).1 hlistening) (h.mem_senders_of_apply hlt hmem)

end

/-! ## §3. Usages. -/

namespace Usage

/-- What is recorded of a usage is what happened. -/
structure Sound (u : Usage α) : Prop where
  enrolled : u.exchange.Enrolled u.roll
  items : ∀ k q, u.exchange.queue? k = some q → q.reader ≠ .gone → u.takenFrom k ++ q.items = u.putInto k
  fresh : ∀ k, u.exchange.queue? k = none → u.takenFrom k = [] ∧ u.putInto k = []
  senders : u.made.Perm (u.freed ++ u.exchange.senders)

variable {u : Usage α}

theorem sound_empty : ({} : Usage α).Sound := ⟨enrolled_empty, nofun, fun _ _ => ⟨rfl, rfl⟩, .nil⟩

theorem Sound.next (h : u.Sound) (op : Operation α) : (u.next op).Sound := by
  have hroll := h.enrolled
  refine ⟨hroll.apply op, fun k q' hq' hreader => ?_, fun k hnone => ?_, ?_⟩
  · rw [takenFrom_next, putInto_next]
    cases hq : u.exchange.queue? k with
    | none =>
      obtain ⟨htaken, hput⟩ := h.fresh k hq
      obtain ⟨htakes, hputs⟩ := hroll.items_of_none op hq
      obtain ⟨capacity, -, -, rfl⟩ := queue?_apply_of_none hq op hq'
      rw [htaken, hput, htakes, hputs]
      rfl
    | some q =>
      obtain rfl := Option.some.inj ((hroll.queue?_apply op hq).symm.trans hq')
      obtain ⟨hgone, hkept⟩ := hroll.items_apply op hq hreader
      rw [List.append_assoc, hkept, ← List.append_assoc, h.items k q hq hgone]
  · cases hq : u.exchange.queue? k with
    | none =>
      obtain ⟨htaken, hput⟩ := h.fresh k hq
      obtain ⟨htakes, hputs⟩ := hroll.items_of_none op hq
      rw [takenFrom_next, putInto_next, htaken, hput, htakes, hputs]
      exact ⟨rfl, rfl⟩
    | some q =>
      have hsome := hroll.queue?_apply op hq
      rw [show (u.exchange.apply op).queue? k = none from hnone] at hsome
      cases hsome
  · show (u.made ++ u.exchange.makes op).Perm (u.freed ++ u.exchange.frees op ++ (u.exchange.apply op).senders)
    refine (h.senders.append_right _).trans ?_
    rw [List.append_assoc, List.append_assoc]
    exact (hroll.senders_apply op).append_left _

theorem Sound.run (h : u.Sound) (ops : List (Operation α)) : (u.run ops).Sound :=
  run_induction (fun _ op hu => hu.next op) ops h

/-- Once a queue has come to its end, no operations put anything into it. -/
theorem Sound.over (h : u.Sound) {k : Nat} (hover : u.exchange.IsOver k) (ops : List (Operation α)) :
    (u.run ops).putInto k = u.putInto k ∧ (u.run ops).exchange.IsOver k := by
  have hall : (u.run ops).Sound ∧ (u.run ops).putInto k = u.putInto k ∧ (u.run ops).exchange.IsOver k := by
    refine run_induction (P := fun u' => u'.Sound ∧ u'.putInto k = u.putInto k ∧ u'.exchange.IsOver k)
      (fun u' op hu' => ?_) ops ⟨h, rfl, hover⟩
    obtain ⟨hsound, hput, hover'⟩ := hu'
    have hroll := hsound.enrolled
    obtain ⟨hover'', hputs⟩ := hroll.isOver_apply hover' op
    refine ⟨hsound.next op, ?_, hover''⟩
    rw [putInto_next, hputs, List.append_nil, hput]
  exact hall.2

/-- **A queue ends with the last one who could fill it.** Use an exchange in any
way.

* A reader that is not gone finds the end of its queue just where nothing is left
  in it and either it wants no more itself, or its subscriber is neither
  registered nor on a list that someone has noted down; which is where as many
  senders of the queue were given up as were made.
* What a reader took, followed by what is in its queue, is what was put in, in
  that order.  Only the reader takes anything out: all else that is done leaves
  what is in the queue, whoever is struck off by it.
* Handing out an item puts it into as many queues as it says.
* For a reader that has found the end it stays the end, and nothing is put into
  its queue any more. -/
theorem disconnected_iff_no_sender (ops : List (Operation α)) :
    let u := ({} : Usage α).run ops
    let x := u.exchange
    (∀ k q, x.queue? k = some q → q.reader ≠ .gone →
        ((x.receive k).1 = .disconnected ↔ q.items = [] ∧ (q.reader = .closed
            ∨ (∀ e ∈ x.entries, e.queue ≠ k) ∧ ∀ es ∈ x.held, ∀ e ∈ es, e.queue ≠ k))
          ∧ u.takenFrom k ++ q.items = u.putInto k
          ∧ ∀ op, op ≠ .receive k → op ≠ .dropReader k →
              ∃ q', (x.apply op).queue? k = some q' ∧ q'.items = q.items ++ itemsAt (x.puts op) k)
      ∧ (∀ k, ((∀ e ∈ x.entries, e.queue ≠ k) ∧ ∀ es ∈ x.held, ∀ e ∈ es, e.queue ≠ k)
          ↔ u.made.count k = u.freed.count k)
      ∧ (∀ a, (x.fanOut a).1.delivered = (x.puts (.fanOut a)).length)
      ∧ ∀ k, (x.receive k).1 = .disconnected → ∀ more,
          (u.run more).putInto k = u.putInto k
            ∧ (((u.run more).exchange.receive k).1 = .disconnected ∨ ((u.run more).exchange.receive k).1 = .gone) := by
  intro u x
  have h : u.Sound := sound_empty.run ops
  have hroll := h.enrolled
  have hnobody : ∀ k,
      ((∀ e ∈ x.entries, e.queue ≠ k) ∧ ∀ es ∈ x.held, ∀ e ∈ es, e.queue ≠ k) ↔ k ∉ x.senders := by
    intro k
    rw [mem_senders_iff]
    push Not
    rfl
  refine ⟨fun k q hq hgone => ⟨?_, h.items k q hq hgone, fun op => hroll.items_kept hq hgone⟩, fun k => ?_,
    fun a => ?_, fun k hend more => ?_⟩
  · rw [receive_fst hq, Queue.receive_eq_disconnected_iff hgone, hnobody, ← x.hasSender_iff, Bool.not_eq_true]
  · have hcount : u.made.count k = u.freed.count k + x.senders.count k := by
      rw [h.senders.count_eq k, List.count_append]
    rw [hnobody, ← List.count_eq_zero]
    omega
  · rw [fanOut_eq x a hroll.ordered.entries_ids_nodup hroll.ordered.entries_queues_nodup]
    exact (List.length_map ..).symm
  · obtain ⟨hput, hover⟩ := h.over (isOver_of_receive hend) more
    exact ⟨hput, hover.receive⟩

/-- A subscriber is noted down, gets an item, and is struck off.  Its reader takes
the item and finds nothing, though not the end: that comes when the list is
forgotten. -/
theorem list_keeps_queue_open : ∃ u : Usage Nat,
    u = ({} : Usage Nat).run [.add 2, .hold, .fanOut 7, .remove 1, .receive 0]
      ∧ u.takenFrom 0 = [7] ∧ (u.exchange.receive 0).1 = .empty
      ∧ ((u.run [.release 0]).exchange.receive 0).1 = .disconnected
      ∧ ∀ more, ((u.run [.release 0]).run more).putInto 0 = [7] := by
  obtain ⟨hqueues, -, -, hover⟩ :=
    disconnected_iff_no_sender (α := Nat) [.add 2, .hold, .fanOut 7, .remove 1, .receive 0, .release 0]
  obtain ⟨hend, -⟩ := hqueues 0 { capacity := 2 } rfl nofun
  have hdone := hend.2 ⟨rfl, .inr ⟨nofun, nofun⟩⟩
  exact ⟨_, rfl, rfl, rfl, hdone, fun more => (hover 0 hdone more).1⟩

end Usage

end Exchange

end CallGateway
