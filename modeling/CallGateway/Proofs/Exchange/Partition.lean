/-
  CallGateway.Proofs.Exchange.Partition
  ─────────────────────────────────────
  **ONE ITEM, AND HOW EACH QUEUE STOOD.**

  A queue has room, or is full, or is shut, and that is all there is to know
  before an item is handed out (`Queue.verdict_eq_delivered_iff` and the two
  that follow).  So the subscribers fall into three parts, and each part is
  treated in its own way: it has the item, misses it, or is struck off
  (`Roll.fanOut_each`).  The counts say how large the parts were
  (`Roll.fanOut_counts`), and after the pass nobody is left who would refuse
  another item (`Roll.removed_fanOut_again`).
-/
import CallGateway.Proofs.Exchange.Usage

namespace CallGateway

namespace Exchange

variable {α : Type}

/-! ## §1. The parts. -/

/-- The subscribers whose queues are in some condition. -/
def those (x : Exchange α) (P : Queue α → Prop) [DecidablePred P] : List Entry :=
  x.entries.filter fun e => (x.queue? e.queue).any fun q => P q

section
variable {x : Exchange α} {roll : List Entry}

/-- What an item meets with at a subscriber is how its queue stands. -/
theorem verdictOf_of_queue? {e : Entry} {q : Queue α} (hq : x.queue? e.queue = some q) : x.verdictOf e = q.verdict := by
  unfold verdictOf
  rw [hq]
  rfl

/-- The subscribers that meet with a verdict are those whose queues are in the
condition that calls for it. -/
theorem Roll.meeting_eq_those (h : x.Roll roll) {v : Verdict} {P : Queue α → Prop} [DecidablePred P]
    (hv : ∀ q : Queue α, q.verdict = v ↔ P q) : x.meeting v x.entries = x.those P := by
  refine List.filter_congr fun e he => ?_
  obtain ⟨q, hq⟩ := h.exists_queue (h.entries.subset he)
  rw [verdictOf_of_queue? hq, hq]
  exact decide_eq_decide.2 (hv q)

/-- **The counts are the sizes of the parts**, and those who stay are all but
the ones whose queues are shut. -/
theorem Roll.fanOut_counts (h : x.Roll roll) (a : α) :
    (x.fanOut a).1 = ⟨(x.those Queue.HasRoom).length, (x.those Queue.IsFull).length, (x.those Queue.IsShut).length⟩
      ∧ (x.fanOut a).2.entries = x.entries.filter (· ∉ x.those Queue.IsShut) := by
  have hrefused := h.meeting_eq_those fun _ => Queue.verdict_eq_refused_iff_isShut
  rw [fanOut_eq x a h.entries_ids_nodup h.entries_queues_nodup,
    h.meeting_eq_those fun _ => Queue.verdict_eq_delivered_iff,
    h.meeting_eq_those fun _ => Queue.verdict_eq_full_iff, hrefused]
  refine ⟨rfl, List.filter_congr fun e he => ?_⟩
  rw [← hrefused, decide_eq_decide]
  unfold meeting
  simp [he]

/-- Every subscriber is in one of the parts. -/
theorem Roll.length_parts (h : x.Roll roll) :
    (x.those Queue.HasRoom).length + (x.those Queue.IsFull).length + (x.those Queue.IsShut).length = x.size := by
  rw [← h.meeting_eq_those fun _ => Queue.verdict_eq_delivered_iff,
    ← h.meeting_eq_those fun _ => Queue.verdict_eq_full_iff,
    ← h.meeting_eq_those fun _ => Queue.verdict_eq_refused_iff_isShut]
  unfold size
  generalize x.entries = es
  induction es with
  | nil => rfl
  | cons e es ih =>
    rw [meeting_cons, meeting_cons, meeting_cons, List.length_cons, ← ih]
    cases x.verdictOf e <;> simp <;> omega

/-- Those who stay are those who have the item or miss it. -/
theorem Roll.size_fanOut (h : x.Roll roll) (a : α) :
    (x.fanOut a).2.size = (x.those Queue.HasRoom).length + (x.those Queue.IsFull).length := by
  have hparts := h.length_parts
  have hsplit := x.entries.length_eq_length_filter_add (· ∉ x.those Queue.IsShut)
  have hshut : (x.entries.filter fun e => !decide (e ∉ x.those Queue.IsShut)) = x.those Queue.IsShut := by
    refine List.filter_congr fun e he => ?_
    unfold those
    simp [he]
  rw [hshut] at hsplit
  unfold size at hparts ⊢
  rw [(h.fanOut_counts a).2]
  omega

/-- **Each subscriber is treated as its queue stood.** -/
theorem Roll.fanOut_each (h : x.Roll roll) (a : α) {e : Entry} (he : e ∈ x.entries) :
    ∃ q, x.queue? e.queue = some q ∧
      (q.HasRoom ∧ (x.fanOut a).2.queue? e.queue = some { q with items := q.items ++ [a] }
          ∧ e ∈ (x.fanOut a).2.entries
        ∨ q.IsFull ∧ (x.fanOut a).2.queue? e.queue = some q ∧ e ∈ (x.fanOut a).2.entries
        ∨ q.IsShut ∧ (x.fanOut a).2.queue? e.queue = some q ∧ e ∉ (x.fanOut a).2.entries) := by
  obtain ⟨q, hq⟩ := h.exists_queue (h.entries.subset he)
  have hqueue : (x.fanOut a).2.queue? e.queue = some (q.offer a) := by
    rw [h.queue?_fanOut a (h.entries.subset he), if_pos he, hq]
    rfl
  have hstays : e ∈ (x.fanOut a).2.entries ↔ q.verdict ≠ .refused := by
    rw [fanOut_eq x a h.entries_ids_nodup h.entries_queues_nodup, List.mem_filter, verdictOf_of_queue? hq]
    simp [he]
  rw [hqueue]
  refine ⟨q, hq, ?_⟩
  cases hv : q.verdict with
  | delivered =>
    rw [Queue.offer_of_delivered a hv]
    exact .inl ⟨Queue.verdict_eq_delivered_iff.1 hv, rfl, hstays.2 (by simp [hv])⟩
  | full =>
    rw [Queue.offer_of_ne a (by simp [hv])]
    exact .inr (.inl ⟨Queue.verdict_eq_full_iff.1 hv, rfl, hstays.2 (by simp [hv])⟩)
  | refused =>
    rw [Queue.offer_of_ne a (by simp [hv])]
    exact .inr (.inr ⟨Queue.verdict_eq_refused_iff_isShut.1 hv, rfl, fun hstay => hstays.1 hstay hv⟩)

/-- What was queued stays queued, and readers stay as they were. -/
theorem Roll.queue?_fanOut_kept (h : x.Roll roll) (a : α) {k : Nat} {q : Queue α} (hq : x.queue? k = some q) :
    ∃ q', (x.fanOut a).2.queue? k = some q' ∧ q.items <+: q'.items ∧ q'.reader = q.reader := by
  rw [h.queue?_fanOut_eq, hq]
  split
  · refine ⟨q.offer a, rfl, ?_, q.reader_offer a⟩
    rw [q.items_offer a]
    exact List.prefix_append _ _
  · exact ⟨q, rfl, List.prefix_refl _, rfl⟩

/-- **The next item finds nobody who refuses it.** -/
theorem Roll.removed_fanOut_again (h : x.Roll roll) (a b : α) : ((x.fanOut a).2.fanOut b).1.removed = 0 := by
  have hnone : (x.fanOut a).2.those Queue.IsShut = [] := by
    refine List.filter_eq_nil_iff.2 fun e he => ?_
    have hbefore : e ∈ x.entries := (x.fanOut_entries_sublist a).subset he
    obtain ⟨q, hq⟩ := h.exists_queue (h.entries.subset hbefore)
    have hopen : ¬q.IsShut := by
      rw [← Queue.verdict_eq_refused_iff_isShut, ← verdictOf_of_queue? hq]
      exact h.verdictOf_of_mem_fanOut a he
    obtain ⟨q', hq', -, hreader⟩ := h.queue?_fanOut_kept a hq
    rw [hq', Option.any_some, decide_eq_true_eq]
    rwa [Queue.isShut_iff, hreader, ← Queue.isShut_iff]
  rw [((h.fanOut a).fanOut_counts b).1, hnone]
  rfl

end

/-! ## §2. One pass. -/

namespace Usage

theorem enrolled_run (ops : List (Operation α)) :
    (({} : Usage α).run ops).exchange.Enrolled (({} : Usage α).run ops).roll :=
  run_induction (P := fun u => u.exchange.Enrolled u.roll) (fun _ op hu => hu.apply op) ops enrolled_empty

/-- **One item, exactly.** Use an exchange in any way, and hand out an item with
nothing happening in between.

* Each subscriber is treated as its queue stood.  Where there was room, the item
  comes to the end of the queue; where the queue was full, it stays as it is;
  where its reader wants no more or is gone, it stays as it is and the subscriber
  is struck off.
* The item was delivered to as many subscribers as had room, missed by as many
  as were full, and has struck off as many as were shut.  Together these are all
  subscribers there were, and those who had room or were full are all there are
  now, in the same order and with their ids.
* Nothing else changes: the next id, whether the exchange is open, the lists that
  are noted down, the queues of all others, and what was in any queue.
* Another item right after it strikes off nobody. -/
theorem fanOut_partitions_subscribers (ops : List (Operation α)) (a : α) :
    let x := (({} : Usage α).run ops).exchange
    let out := (x.fanOut a).1
    let x' := (x.fanOut a).2
    (∀ e ∈ x.entries, ∃ q, x.queue? e.queue = some q ∧
        (q.HasRoom ∧ x'.queue? e.queue = some { q with items := q.items ++ [a] } ∧ e ∈ x'.entries
          ∨ q.IsFull ∧ x'.queue? e.queue = some q ∧ e ∈ x'.entries
          ∨ q.IsShut ∧ x'.queue? e.queue = some q ∧ e ∉ x'.entries))
      ∧ (out.delivered = (x.those Queue.HasRoom).length ∧ out.lagged = (x.those Queue.IsFull).length
        ∧ out.removed = (x.those Queue.IsShut).length)
      ∧ out.delivered + out.lagged + out.removed = x.size ∧ x'.size = out.delivered + out.lagged
      ∧ x'.entries = x.entries.filter (· ∉ x.those Queue.IsShut)
      ∧ (x'.nextId = x.nextId ∧ x'.isOpen = x.isOpen ∧ x'.held = x.held)
      ∧ (∀ k, k ∉ x.entries.map (·.queue) → x'.queue? k = x.queue? k)
      ∧ (∀ k q, x.queue? k = some q → ∃ q', x'.queue? k = some q' ∧ q.items <+: q'.items ∧ q'.reader = q.reader)
      ∧ ∀ b, (x'.fanOut b).1.removed = 0 := by
  intro x out x'
  have h : x.Roll (({} : Usage α).run ops).roll := (enrolled_run ops).ordered
  obtain ⟨hcounts, hentries⟩ := h.fanOut_counts a
  have hout : out = _ := hcounts
  obtain ⟨hnextId, hisOpen, hheld, -⟩ := x.fanOut_frame a
  refine ⟨fun e he => h.fanOut_each a he, ?_, ?_, ?_, hentries, ⟨hnextId, hisOpen, hheld⟩, fun k hk => ?_,
    fun k q hq => h.queue?_fanOut_kept a hq, h.removed_fanOut_again a⟩
  · rw [hout]
    exact ⟨rfl, rfl, rfl⟩
  · rw [hout]
    exact h.length_parts
  · rw [hout]
    exact h.size_fanOut a
  · show (x.fanOut a).2.queue? k = _
    rw [h.queue?_fanOut_eq, if_neg hk]

/-- An item meets with all there can be: a queue with room, a full one, one that
its reader has closed with an item still in it, and one whose reader is gone. -/
theorem fanOut_partitions_four_queues : ∃ x : Exchange Nat,
    x = (({} : Usage Nat).run [.add 2, .add 1, .add 1, .add 1, .fanOut 7, .closeReader 2, .dropReader 3]).exchange
      ∧ (x.fanOut 8).1 = ⟨1, 1, 2⟩
      ∧ (∃ q, x.queue? 2 = some q ∧ q.items = [7]
        ∧ (x.fanOut 8).2.queue? 2 = some q ∧ (⟨3, 2⟩ : Entry) ∉ (x.fanOut 8).2.entries)
      ∧ ((x.fanOut 8).2.fanOut 9).1.removed = 0 := by
  obtain ⟨heach, -, -, -, -, -, -, -, hagain⟩ := fanOut_partitions_subscribers (α := Nat)
    [.add 2, .add 1, .add 1, .add 1, .fanOut 7, .closeReader 2, .dropReader 3] 8
  refine ⟨_, rfl, rfl, ?_, hagain 9⟩
  obtain ⟨q, hq, hparts⟩ := heach ⟨3, 2⟩ (by decide)
  obtain rfl : ({ capacity := 1, items := [7], reader := .closed } : Queue Nat) = q := Option.some.inj hq
  refine ⟨_, rfl, rfl, ?_⟩
  rcases hparts with ⟨hroom, -⟩ | ⟨hfull, -⟩ | ⟨-, hkept⟩
  · exact absurd hroom (by decide)
  · exact absurd hfull (by decide)
  · exact hkept

end Usage

end Exchange

end CallGateway
