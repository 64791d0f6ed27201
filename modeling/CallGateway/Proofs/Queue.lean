/-
  CallGateway.Proofs.Queue
  ────────────────────────
  **WHAT IS PUT INTO A QUEUE AND TAKEN FROM IT.**

  An item that is taken in goes to the end; the item that a reader finds is
  the oldest one.  Whether a queue has room, is full, or is shut is all that
  there is to know about it for whoever offers something.
-/
import CallGateway.Queue

namespace CallGateway

/-- The item that a reader found. -/
def Received.item? {α : Type} : Received α → Option α
  | .item a => some a
  | _ => none

namespace Queue

variable {α : Type} {q : Queue α}

theorem offer_of_delivered (a : α) (h : q.verdict = .delivered) :
    q.offer a = { q with items := q.items ++ [a] } := if_pos h

/-- A queue that does not take an item stays as it is. -/
theorem offer_of_ne (a : α) (h : q.verdict ≠ .delivered) : q.offer a = q := if_neg h

theorem verdict_of_listening (h : q.reader = .listening) :
    q.verdict = if q.capacity ≤ q.items.length then .full else .delivered := by
  unfold verdict
  rw [if_neg (by simp [h])]

theorem verdict_of_gone (h : q.reader = .gone) : q.verdict = .refused := by
  unfold verdict
  rw [if_pos (by simp [h])]

/-- Only a reader that wants no more is offered in vain. -/
theorem verdict_eq_refused_iff : q.verdict = .refused ↔ q.reader ≠ .listening := by
  refine ⟨fun hrefused hlistening => ?_, fun hreader => if_pos hreader⟩
  rw [verdict_of_listening hlistening] at hrefused
  split at hrefused
  · cases hrefused
  · cases hrefused

/-! How a queue stands for whoever has something for its reader: -/

/-- Its reader wants more, and there is room. -/
def HasRoom (q : Queue α) : Prop := q.reader = .listening ∧ q.items.length < q.capacity

/-- Its reader wants more, and there is no room. -/
def IsFull (q : Queue α) : Prop := q.reader = .listening ∧ q.capacity ≤ q.items.length

/-- Its reader wants no more, or is gone. -/
def IsShut (q : Queue α) : Prop := q.reader = .closed ∨ q.reader = .gone

instance : DecidablePred (HasRoom (α := α)) := fun _ => inferInstanceAs (Decidable (_ ∧ _))

instance : DecidablePred (IsFull (α := α)) := fun _ => inferInstanceAs (Decidable (_ ∧ _))

instance : DecidablePred (IsShut (α := α)) := fun _ => inferInstanceAs (Decidable (_ ∨ _))

theorem isShut_iff : q.IsShut ↔ q.reader ≠ .listening := by
  unfold IsShut
  cases q.reader <;> simp

theorem verdict_eq_delivered_iff : q.verdict = .delivered ↔ q.HasRoom := by
  by_cases hreader : q.reader = .listening
  · rw [verdict_of_listening hreader]
    by_cases hfull : q.capacity ≤ q.items.length
    · rw [if_pos hfull]
      exact iff_of_false nofun fun hroom => absurd hfull (Nat.not_le.2 hroom.2)
    · rw [if_neg hfull]
      exact iff_of_true rfl ⟨hreader, Nat.lt_of_not_le hfull⟩
  · rw [verdict_eq_refused_iff.2 hreader]
    exact iff_of_false nofun fun hroom => hreader hroom.1

theorem verdict_eq_full_iff : q.verdict = .full ↔ q.IsFull := by
  by_cases hreader : q.reader = .listening
  · rw [verdict_of_listening hreader]
    by_cases hfull : q.capacity ≤ q.items.length
    · rw [if_pos hfull]
      exact iff_of_true rfl ⟨hreader, hfull⟩
    · rw [if_neg hfull]
      exact iff_of_false nofun fun h => hfull h.2
  · rw [verdict_eq_refused_iff.2 hreader]
    exact iff_of_false nofun fun h => hreader h.1

theorem verdict_eq_refused_iff_isShut : q.verdict = .refused ↔ q.IsShut := by
  rw [verdict_eq_refused_iff, isShut_iff]

/-- What a reader finds is the oldest item, and the rest stays. -/
theorem of_receive_eq_item {hasSender : Bool} {a : α} {q' : Queue α} (h : q.receive hasSender = (.item a, q')) :
    ∃ rest, q.items = a :: rest ∧ q.reader ≠ .gone ∧ q' = { q with items := rest } := by
  unfold receive at h
  split at h
  · cases h
  · rename_i b rest hitems hreader
    obtain ⟨hb, rfl⟩ := Prod.mk.inj h
    obtain rfl := Received.item.inj hb
    exact ⟨rest, hitems, hreader, rfl⟩
  · cases h
  · cases hasSender with
    | false => cases h
    | true => cases h

/-- A reader that finds no item leaves its queue as it is. -/
theorem receive_cases (q : Queue α) (hasSender : Bool) :
    (∃ a q', q.receive hasSender = (.item a, q'))
      ∨ ∃ found, q.receive hasSender = (found, q) ∧ ∀ a, found ≠ .item a := by
  unfold receive
  split
  · exact .inr ⟨_, rfl, nofun⟩
  · exact .inl ⟨_, _, rfl⟩
  · exact .inr ⟨_, rfl, nofun⟩
  · cases hasSender with
    | false => exact .inr ⟨_, rfl, nofun⟩
    | true => exact .inr ⟨_, rfl, nofun⟩

/-! What becomes of the items, and of the reader: -/

theorem items_offer (q : Queue α) (a : α) :
    (q.offer a).items = q.items ++ if q.verdict = .delivered then [a] else [] := by
  by_cases h : q.verdict = .delivered
  · rw [offer_of_delivered a h, if_pos h]
  · rw [offer_of_ne a h, if_neg h, List.append_nil]

@[simp] theorem reader_offer (q : Queue α) (a : α) : (q.offer a).reader = q.reader := by
  unfold offer
  split
  · rfl
  · rfl

/-- What a reader takes was the first of the items. -/
theorem items_receive (q : Queue α) (hasSender : Bool) :
    (q.receive hasSender).1.item?.toList ++ (q.receive hasSender).2.items = q.items := by
  rcases q.receive_cases hasSender with ⟨a, q', hfound⟩ | ⟨found, hfound, hne⟩
  · obtain ⟨rest, hitems, -, rfl⟩ := of_receive_eq_item hfound
    rw [hfound, hitems]
    rfl
  · have hnone : found.item? = none := by
      cases found with
      | item a => exact absurd rfl (hne a)
      | _ => rfl
    rw [hfound, hnone]
    rfl

@[simp] theorem reader_receive (q : Queue α) (hasSender : Bool) : (q.receive hasSender).2.reader = q.reader := by
  rcases q.receive_cases hasSender with ⟨a, q', hfound⟩ | ⟨found, hfound, -⟩
  · obtain ⟨rest, -, -, rfl⟩ := of_receive_eq_item hfound
    rw [hfound]
  · rw [hfound]

@[simp] theorem items_close (q : Queue α) : q.close.items = q.items := by
  unfold close
  split
  · rfl
  · rfl

/-- A reader that wants no more is not gone, and does not come back. -/
theorem reader_close (q : Queue α) : q.close.reader = if q.reader = .gone then .gone else .closed := by
  unfold close
  cases h : q.reader with
  | listening => rfl
  | closed => simp [h]
  | gone => simp [h]

/-- A reader finds that its queue has come to its end where nothing is left and
nobody could put anything in, unless it wants no more itself. -/
theorem receive_eq_disconnected_iff {q : Queue α} (h : q.reader ≠ .gone) (hasSender : Bool) :
    (q.receive hasSender).1 = .disconnected ↔ q.items = [] ∧ (q.reader = .closed ∨ hasSender = false) := by
  unfold receive
  cases hitems : q.items with
  | cons a rest =>
    cases hreader : q.reader with
    | gone => exact absurd hreader h
    | listening => simp
    | closed => simp
  | nil =>
    cases hreader : q.reader with
    | gone => exact absurd hreader h
    | listening => cases hasSender <;> simp
    | closed => simp

end Queue

end CallGateway
