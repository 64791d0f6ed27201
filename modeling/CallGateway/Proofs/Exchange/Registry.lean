/-
  CallGateway.Proofs.Exchange.Registry
  ────────────────────────────────────
  **WHO IS REGISTERED WITH AN EXCHANGE.**

  Where every queue was set up for a subscriber, the places of the queues
  and the ids count together: the subscriber at place k has the id k + 1.
  Then all there is to say about the subscribers is which places are still
  registered (`Registers`).  Each operation changes that in its own way, and
  an item that is handed out reaches the registered places and no others
  (`Registers.queue?_fanOut`).
-/
import CallGateway.Proofs.Exchange.FanOut

namespace CallGateway

namespace Exchange

variable {α : Type}

/-! ## §1. Places. -/

/-- The subscriber at a place. -/
def entryAt (k : Nat) : Entry := ⟨k + 1, k⟩

/-- There were n subscribers, and those that are `here` are registered. -/
structure Registers (x : Exchange α) (n : Nat) (here : Nat → Bool) : Prop where
  queues : x.queues.length = n
  nextId : x.nextId = n + 1
  entries : x.entries = ((List.range n).filter here).map entryAt

/-- The queue at a place is full. -/
def isFullAt (x : Exchange α) (k : Nat) : Bool := (x.queue? k).any fun q => q.capacity ≤ q.items.length

section
variable {x : Exchange α} {n : Nat} {here : Nat → Bool}

theorem Registers.places (h : x.Registers n here) :
    x.entries.map (·.queue) = (List.range n).filter here := by
  rw [h.entries, List.map_map]
  exact List.map_id _

theorem Registers.queues_nodup (h : x.Registers n here) : (x.entries.map (·.queue)).Nodup := by
  rw [h.places]
  exact List.nodup_range.filter _

theorem Registers.ids_nodup (h : x.Registers n here) : x.ids.Nodup := by
  unfold ids
  rw [h.entries, List.map_map]
  refine List.Nodup.map ?_ (List.nodup_range.filter _)
  intro j k heq
  exact Nat.succ.inj heq

/-- What is registered matters below n only. -/
theorem Registers.congr {here' : Nat → Bool} (h : x.Registers n here) (heq : ∀ k < n, here k = here' k) :
    x.Registers n here' where
  queues := h.queues
  nextId := h.nextId
  entries := by
    rw [h.entries, List.filter_congr fun k hk => heq k (List.mem_range.1 hk)]

/-! ## §2. Coming and going. -/

theorem registers_empty : ({} : Exchange α).Registers 0 here := ⟨rfl, rfl, rfl⟩

/-- A new subscriber comes to the next place. -/
theorem Registers.subscribe? {here' : Nat → Bool} (h : x.Registers n here) (hopen : x.isOpen = true)
    (capacity : Nat) (heq : ∀ k < n, here k = here' k) (hn : here' n = true) :
    ∃ x', x.subscribe? capacity = some (entryAt n, x') ∧ x'.Registers (n + 1) here' ∧ x'.isOpen = true
      ∧ ∀ k, x'.queue? k = if k = n then some { capacity := capacity } else x.queue? k := by
  refine ⟨{ x with
    queues := x.queues ++ [{ capacity := capacity }]
    nextId := x.nextId + 1
    entries := x.entries ++ [entryAt n] }, ?_, ⟨?_, ?_, ?_⟩, hopen, ?_⟩
  · unfold Exchange.subscribe? add
    simp [hopen, h.nextId, h.queues, entryAt]
  · simp [h.queues]
  · simp [h.nextId]
  · rw [List.range_succ, List.filter_append, List.map_append, (h.congr heq).entries]
    simp [hn]
  · intro k
    unfold queue?
    rw [← h.queues]
    by_cases hk : k = x.queues.length
    · simp [hk]
    · rw [if_neg hk]
      by_cases hlt : k < x.queues.length
      · rw [List.getElem?_append_left hlt]
      · rw [List.getElem?_eq_none (by simp; omega), List.getElem?_eq_none (by omega)]

/-- Whoever is struck off was at the place before its id. -/
theorem Registers.remove (h : x.Registers n here) (k : Nat) :
    (x.remove (k + 1)).2.Registers n fun j => here j && j != k where
  queues := h.queues
  nextId := h.nextId
  entries := by
    show x.entries.filter (·.id != k + 1) = _
    rw [h.entries, List.filter_map, List.filter_filter]
    congr 1
    refine List.filter_congr fun j _ => ?_
    have hid : ((entryAt j).id != k + 1) = (j != k) := by
      show (j + 1 != k + 1) = (j != k)
      simp [bne]
    rw [Bool.and_comm]
    exact congrArg (here j && ·) hid

theorem Registers.close (h : x.Registers n here) : x.close.2.Registers n fun _ => false where
  queues := h.queues
  nextId := h.nextId
  entries := by
    rw [List.filter_false]
    rfl

theorem Registers.modifyQueue (h : x.Registers n here) (q : Nat) (f : Queue α → Queue α) :
    (x.modifyQueue q f).Registers n here where
  queues := (List.length_modify ..).trans h.queues
  nextId := h.nextId
  entries := h.entries

/-! ## §3. Handing out an item. -/

/-- Every registered queue has a reader that wants more. -/
def Listens (x : Exchange α) (here : Nat → Bool) : Prop :=
  ∀ k q, here k = true → x.queue? k = some q → q.reader = .listening

theorem verdictOf_entryAt {k : Nat} (hk : k < x.queues.length)
    (hlisten : ∀ q, x.queue? k = some q → q.reader = .listening) :
    x.verdictOf (entryAt k) = if x.isFullAt k then .full else .delivered := by
  have hq : x.queue? k = some x.queues[k] := List.getElem?_eq_getElem hk
  have hreader := hlisten _ hq
  show ((x.queue? k).map Queue.verdict).getD .refused = _
  unfold isFullAt
  rw [hq]
  show (x.queues[k]).verdict = _
  rw [Queue.verdict_of_listening hreader]
  simp

/-- **An item reaches the registered places.** Where all readers want more,
everyone stays registered, each registered queue is offered the item, and
those whose queue was full miss it. -/
theorem Registers.fanOut (h : x.Registers n here) (hlisten : x.Listens here) (a : α) :
    (x.fanOut a).2.Registers n here ∧ (x.fanOut a).2.isOpen = x.isOpen
      ∧ (x.fanOut a).1.lagged = ((List.range n).filter fun k => here k && x.isFullAt k).length
      ∧ ∀ k, (x.fanOut a).2.queue? k
          = if k < n ∧ here k = true then (x.queue? k).map (·.offer a) else x.queue? k := by
  have hverdict : ∀ k ∈ (List.range n).filter here,
      x.verdictOf (entryAt k) = if x.isFullAt k then .full else .delivered := by
    intro k hk
    obtain ⟨hlt, hhere⟩ := List.mem_filter.1 hk
    refine verdictOf_entryAt ?_ fun q => hlisten k q hhere
    rw [h.queues]
    exact List.mem_range.1 hlt
  have hfull : x.meeting .full x.entries
      = (((List.range n).filter here).filter x.isFullAt).map entryAt := by
    unfold meeting
    rw [h.entries, List.filter_map]
    congr 1
    refine List.filter_congr fun k hk => ?_
    rw [Function.comp, hverdict k hk]
    cases x.isFullAt k with
    | true => rfl
    | false => rfl
  -- nobody refuses, so nobody is struck off
  have hentries : x.entries.filter (fun e => x.verdictOf e ≠ .refused) = x.entries := by
    refine List.filter_eq_self.2 fun e he => ?_
    rw [h.entries] at he
    obtain ⟨k, hk, rfl⟩ := List.mem_map.1 he
    rw [hverdict k hk]
    cases x.isFullAt k with
    | true => rfl
    | false => rfl
  rw [fanOut_eq x a h.ids_nodup h.queues_nodup, hentries, hfull]
  refine ⟨⟨?_, h.nextId, h.entries⟩, rfl, ?_, ?_⟩
  · exact (offerEach_eq a x x.entries).2.trans h.queues
  · show ((((List.range n).filter here).filter x.isFullAt).map entryAt).length = _
    rw [List.length_map, List.filter_filter]
    simp only [Bool.and_comm]
  · intro k
    show (x.offerEach a x.entries).queue? k = _
    rw [queue?_offerEach h.queues_nodup, h.places]
    simp [List.mem_filter]

end

end Exchange

end CallGateway
