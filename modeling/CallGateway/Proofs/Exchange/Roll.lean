/-
  CallGateway.Proofs.Exchange.Roll
  ────────────────────────────────
  **ALL SUBSCRIBERS THAT AN EXCHANGE EVER TOOK.**

  Subscribers come and go, and a queue may be set up for one who is not
  taken.  What stays is the roll: those who were ever taken, in the order in
  which they came.  Ids and queues grow along it, so each of them belongs to
  one subscriber for good (`Roll.eq_of_id`, `Roll.eq_of_queue`), and no
  operation but a new subscription changes it (`Roll.mono`).
-/
import CallGateway.Proofs.Exchange.FanOut

namespace CallGateway

namespace Exchange

variable {α : Type}

/-! ## §1. The roll. -/

/-- The roll of an exchange: all subscribers that it ever took, in order. -/
structure Roll (x : Exchange α) (roll : List Entry) : Prop where
  ordered : roll.Pairwise fun e e' => e.id < e'.id ∧ e.queue < e'.queue
  below : ∀ e ∈ roll, e.id < x.nextId ∧ e.queue < x.queues.length
  entries : x.entries.Sublist roll

section
variable {x x' : Exchange α} {roll : List Entry}

theorem roll_empty : ({} : Exchange α).Roll [] := ⟨.nil, by simp, .slnil⟩

/-- The roll stays as it is, whoever is struck off. -/
theorem Roll.mono (h : x.Roll roll) (hid : x.nextId ≤ x'.nextId) (hqueues : x.queues.length ≤ x'.queues.length)
    (hentries : x'.entries.Sublist x.entries) : x'.Roll roll where
  ordered := h.ordered
  below := by
    intro e he
    obtain ⟨hid', hqueue⟩ := h.below e he
    exact ⟨Nat.lt_of_lt_of_le hid' hid, Nat.lt_of_lt_of_le hqueue hqueues⟩
  entries := hentries.trans h.entries

theorem Roll.ids_lt (h : x.Roll roll) : (roll.map (·.id)).Pairwise (· < ·) :=
  List.pairwise_map.2 (h.ordered.imp And.left)

theorem Roll.queues_lt (h : x.Roll roll) : (roll.map (·.queue)).Pairwise (· < ·) :=
  List.pairwise_map.2 (h.ordered.imp And.right)

theorem Roll.ids_nodup (h : x.Roll roll) : (roll.map (·.id)).Nodup := h.ids_lt.imp Nat.ne_of_lt

theorem Roll.queues_nodup (h : x.Roll roll) : (roll.map (·.queue)).Nodup := h.queues_lt.imp Nat.ne_of_lt

theorem Roll.nodup (h : x.Roll roll) : roll.Nodup := h.ids_nodup.of_map _

theorem Roll.entries_ids_nodup (h : x.Roll roll) : (x.entries.map (·.id)).Nodup :=
  h.ids_nodup.sublist (h.entries.map (·.id))

theorem Roll.entries_queues_nodup (h : x.Roll roll) : (x.entries.map (·.queue)).Nodup :=
  h.queues_nodup.sublist (h.entries.map (·.queue))

/-- An id belongs to one subscriber for good. -/
theorem Roll.eq_of_id (h : x.Roll roll) {e e' : Entry} (he : e ∈ roll) (he' : e' ∈ roll)
    (hid : e.id = e'.id) : e = e' :=
  List.inj_on_of_nodup_map h.ids_nodup he he' hid

/-- A queue belongs to one subscriber for good. -/
theorem Roll.eq_of_queue (h : x.Roll roll) {e e' : Entry} (he : e ∈ roll) (he' : e' ∈ roll)
    (hqueue : e.queue = e'.queue) : e = e' :=
  List.inj_on_of_nodup_map h.queues_nodup he he' hqueue

/-- Every subscriber on the roll has a queue. -/
theorem Roll.exists_queue (h : x.Roll roll) {e : Entry} (he : e ∈ roll) : ∃ q, x.queue? e.queue = some q :=
  ⟨_, List.getElem?_eq_getElem (h.below e he).2⟩

/-! ## §2. Coming. -/

theorem add_of_open (h : x.isOpen = true) (capacity : Nat) :
    x.add capacity = (some x.nextId, { x with
      queues := x.queues ++ [{ capacity := capacity }]
      nextId := x.nextId + 1
      entries := x.entries ++ [⟨x.nextId, x.queues.length⟩] }) := by
  unfold add
  simp [h]

/-- A closed exchange sets up a queue, and subscribes nobody to it. -/
theorem add_of_closed (h : x.isOpen = false) (capacity : Nat) :
    x.add capacity = (none, { x with queues := x.queues ++ [{ capacity := capacity }] }) := by
  unfold add
  simp [h]

/-- A new queue leaves the others as they were. -/
theorem queue?_add (x : Exchange α) (capacity k : Nat) :
    (x.add capacity).2.queue? k = if k = x.queues.length then some { capacity := capacity } else x.queue? k := by
  have hqueues : (x.add capacity).2.queues = x.queues ++ [{ capacity := capacity }] := by
    cases hopen : x.isOpen with
    | true => rw [add_of_open hopen]
    | false => rw [add_of_closed hopen]
  unfold queue?
  rw [hqueues]
  by_cases hk : k = x.queues.length
  · simp [hk]
  · rw [if_neg hk]
    by_cases hlt : k < x.queues.length
    · rw [List.getElem?_append_left hlt]
    · rw [List.getElem?_eq_none (by simp; omega), List.getElem?_eq_none (by omega)]

/-- A new subscriber comes to the end of the roll. -/
theorem Roll.add (h : x.Roll roll) (hopen : x.isOpen = true) (capacity : Nat) :
    (x.add capacity).2.Roll (roll ++ [⟨x.nextId, x.queues.length⟩]) := by
  rw [add_of_open hopen]
  refine ⟨?_, ?_, h.entries.append_right _⟩
  · refine List.pairwise_append.2 ⟨h.ordered, List.pairwise_singleton _ _, fun e he e' he' => ?_⟩
    obtain rfl := List.mem_singleton.1 he'
    exact h.below e he
  · intro e he
    rcases List.mem_append.1 he with he | he
    · obtain ⟨hid, hqueue⟩ := h.below e he
      exact ⟨Nat.lt_succ_of_lt hid, by simp; omega⟩
    · obtain rfl := List.mem_singleton.1 he
      exact ⟨Nat.lt_succ_self _, by simp⟩

/-- A new subscriber leaves the queues of the others as they were. -/
theorem Roll.queue?_add_of_mem (h : x.Roll roll) (capacity : Nat) {e : Entry} (he : e ∈ roll) :
    (x.add capacity).2.queue? e.queue = x.queue? e.queue := by
  have hlt := (h.below e he).2
  rw [queue?_add, if_neg (by omega)]

/-- A new subscriber is none of those that were on the roll. -/
theorem Roll.mem_entries_add_iff (h : x.Roll roll) (capacity : Nat) {e : Entry} (he : e ∈ roll) :
    e ∈ (x.add capacity).2.entries ↔ e ∈ x.entries := by
  cases hopen : x.isOpen with
  | false => rw [add_of_closed hopen]
  | true =>
    have hne : e ≠ ⟨x.nextId, x.queues.length⟩ := by
      rintro rfl
      exact Nat.lt_irrefl _ (h.below _ he).1
    rw [add_of_open hopen, List.mem_append, List.mem_singleton]
    simp only [hne, or_false]

theorem subscribe?_of_open (h : x.isOpen = true) (capacity : Nat) :
    x.subscribe? capacity = some (⟨x.nextId, x.queues.length⟩, (x.add capacity).2) := by
  unfold subscribe?
  rw [add_of_open h]

theorem subscribe?_of_closed (h : x.isOpen = false) (capacity : Nat) : x.subscribe? capacity = none := by
  unfold subscribe?
  rw [add_of_closed h]

/-! ## §3. Going. -/

/-- An id strikes off one subscriber at most, and says whether it did. -/
theorem Roll.size_remove (h : x.Roll roll) (id : Nat) :
    x.size = (x.remove id).2.size + (x.remove id).1.toNat := by
  have hsplit := x.entries.length_eq_length_filter_add fun e => e.id != id
  have hgone : (x.entries.filter fun e => !(e.id != id)).length = (x.entries.map (·.id)).count id := by
    rw [← List.countP_eq_length_filter, List.count_eq_countP, List.countP_map]
    refine List.countP_congr fun e _ => ?_
    simp
  have hcount := List.nodup_iff_count_le_one.1 h.entries_ids_nodup id
  show x.entries.length = (x.entries.filter (·.id != id)).length
    + ((x.entries.filter (·.id != id)).length != x.entries.length).toNat
  by_cases hsame : (x.entries.filter (·.id != id)).length = x.entries.length
  · simp [hsame]
  · rw [bne_iff_ne.2 hsame, Bool.toNat_true]
    omega

/-- Readers change nothing about who is on the roll. -/
theorem Roll.modifyQueue (h : x.Roll roll) (p : Nat) (f : Queue α → Queue α) : (x.modifyQueue p f).Roll roll := by
  refine h.mono (Nat.le_refl _) ?_ (List.Sublist.refl _)
  show x.queues.length ≤ (x.queues.modify p f).length
  exact Nat.le_of_eq (List.length_modify ..).symm

/-- Who comes makes nobody listen again. -/
theorem Roll.isListening_add (h : x.Roll roll) (capacity : Nat) {e : Entry} (he : e ∈ roll)
    (hlistening : (x.add capacity).2.IsListening e) : x.IsListening e := by
  obtain ⟨q, hq, hreader⟩ := hlistening
  rw [h.queue?_add_of_mem capacity he] at hq
  exact ⟨q, hq, hreader⟩

/-! ## §4. Handing out an item. -/

theorem Roll.fanOut (h : x.Roll roll) (a : α) : (x.fanOut a).2.Roll roll := by
  obtain ⟨hid, -, -, hqueues⟩ := x.fanOut_frame a
  exact h.mono (Nat.le_of_eq hid.symm) (Nat.le_of_eq hqueues.symm) (x.fanOut_entries_sublist a)

/-- An item that is handed out is offered to the queues of the registered
subscribers, and to no others. -/
theorem Roll.queue?_fanOut_eq (h : x.Roll roll) (a : α) (k : Nat) :
    (x.fanOut a).2.queue? k = if k ∈ x.entries.map (·.queue) then (x.queue? k).map (·.offer a) else x.queue? k := by
  obtain ⟨failed, hfanOut⟩ := x.fanOut_snd a
  rw [hfanOut]
  exact queue?_offerEach h.entries_queues_nodup k

theorem Roll.queue?_fanOut (h : x.Roll roll) (a : α) {e : Entry} (he : e ∈ roll) :
    (x.fanOut a).2.queue? e.queue
      = if e ∈ x.entries then (x.queue? e.queue).map (·.offer a) else x.queue? e.queue := by
  have hmem : e.queue ∈ x.entries.map (·.queue) ↔ e ∈ x.entries := by
    constructor
    · intro hqueue
      obtain ⟨e', he', heq⟩ := List.mem_map.1 hqueue
      rwa [← h.eq_of_queue (h.entries.subset he') he heq]
    · exact fun he => List.mem_map_of_mem he
  rw [h.queue?_fanOut_eq]
  simp only [hmem]

/-- Those who miss an item are the registered subscribers whose queues are
full. -/
theorem Roll.lagged_fanOut (h : x.Roll roll) (a : α) :
    (x.fanOut a).1.lagged = (x.entries.filter fun e => x.verdictOf e = .full).length := by
  rw [fanOut_eq x a h.entries_ids_nodup h.entries_queues_nodup]
  rfl

/-- Who is still registered has not refused the item. -/
theorem Roll.verdictOf_of_mem_fanOut (h : x.Roll roll) (a : α) {e : Entry}
    (he : e ∈ (x.fanOut a).2.entries) : x.verdictOf e ≠ .refused := by
  rw [fanOut_eq x a h.entries_ids_nodup h.entries_queues_nodup] at he
  exact of_decide_eq_true (List.mem_filter.1 he).2

end

end Exchange

end CallGateway
