/-
  CallGateway.Proofs.Exchange.FanOut
  ──────────────────────────────────
  **ONE ITEM FOR ALL SUBSCRIBERS.**

  Handing out an item offers it to the queues of all subscribers and does
  nothing else to any queue (`fanOut_snd`), strikes off those who refuse
  it, and takes nobody in (`fanOut_entries_sublist`).  Where no two
  subscribers share an id or a queue, what becomes of the item at each of
  them depends on nothing but how its queue stood before (`fanOut_eq`).
-/
import CallGateway.Exchange
import CallGateway.Proofs.Queue
import Mathlib.Data.List.Nodup

namespace CallGateway

namespace Exchange

variable {α : Type}

/-! ## §1. The queues of an exchange. -/

/-- Changing one queue leaves the others alone. -/
theorem queue?_modifyQueue (x : Exchange α) (p q : Nat) (f : Queue α → Queue α) :
    (x.modifyQueue p f).queue? q = if p = q then (x.queue? q).map f else x.queue? q := by
  unfold queue? modifyQueue
  rw [List.getElem?_modify]
  split
  · rfl
  · simp

/-- A reader that finds an item takes it from its queue, and nothing else
changes. -/
theorem of_receive_eq_item {x x' : Exchange α} {p : Nat} {a : α} (h : x.receive p = (.item a, x')) :
    ∃ q rest, x.queue? p = some q ∧ q.items = a :: rest ∧ q.reader ≠ .gone
      ∧ x' = x.modifyQueue p fun _ => { q with items := rest } := by
  unfold receive at h
  cases hq : x.queue? p with
  | none =>
    rw [hq] at h
    cases h
  | some q =>
    rw [hq] at h
    cases hfound : q.receive (x.hasSender p) with
    | mk found q' =>
      simp only [hfound] at h
      obtain ⟨rfl, rfl⟩ := Prod.mk.inj h
      obtain ⟨rest, hitems, hreader, rfl⟩ := Queue.of_receive_eq_item hfound
      exact ⟨q, rest, rfl, hitems, hreader, rfl⟩

/-- A reader that finds no item changes nothing. -/
theorem receive_cases (x : Exchange α) (p : Nat) :
    (∃ a x', x.receive p = (.item a, x')) ∨ ∃ found, x.receive p = (found, x) ∧ ∀ a, found ≠ .item a := by
  unfold receive
  cases hq : x.queue? p with
  | none => exact .inr ⟨.gone, rfl, nofun⟩
  | some q =>
    have hsame : (x.modifyQueue p fun _ => q) = x := by
      have hqueues : x.queues.modify p (fun _ => q) = x.queues := by
        refine List.ext_getElem? fun i => ?_
        rw [List.getElem?_modify]
        by_cases hi : p = i
        · subst hi
          have hat : x.queues[p]? = some q := hq
          simp [hat]
        · simp [hi]
      rw [modifyQueue, hqueues]
    simp only
    rcases q.receive_cases (x.hasSender p) with ⟨a, q', hfound⟩ | ⟨found, hfound, hne⟩
    · rw [hfound]
      exact .inl ⟨a, _, rfl⟩
    · rw [hfound]
      exact .inr ⟨found, by rw [hsame], hne⟩

/-- What becomes of an item that is offered to a subscriber; where there is
no queue it is refused. -/
def verdictOf (x : Exchange α) (e : Entry) : Verdict := ((x.queue? e.queue).map Queue.verdict).getD .refused

/-- A subscriber finds its queue as it was, if another one was changed. -/
theorem verdictOf_modifyQueue_of_ne {x : Exchange α} {e : Entry} {p : Nat} (h : p ≠ e.queue)
    (f : Queue α → Queue α) : (x.modifyQueue p f).verdictOf e = x.verdictOf e := by
  rw [verdictOf, queue?_modifyQueue, if_neg h]
  rfl

/-- The reader of a subscriber's queue wants more. -/
def IsListening (x : Exchange α) (e : Entry) : Prop := ∃ q, x.queue? e.queue = some q ∧ q.reader = .listening

/-- Those who refuse an item are those who do not listen. -/
theorem verdictOf_eq_refused_iff (x : Exchange α) (e : Entry) : x.verdictOf e = .refused ↔ ¬ x.IsListening e := by
  unfold verdictOf IsListening
  cases hq : x.queue? e.queue with
  | none => simp
  | some q =>
    show q.verdict = .refused ↔ _
    unfold Queue.verdict
    by_cases hreader : q.reader = .listening
    · rw [if_neg (by simp [hreader])]
      refine iff_of_false ?_ fun h => h ⟨q, rfl, hreader⟩
      split
      · exact nofun
      · exact nofun
    · rw [if_pos hreader]
      refine iff_of_true rfl ?_
      rintro ⟨q', heq, hreader'⟩
      obtain rfl := Option.some.inj heq
      exact hreader hreader'

/-- Where a change to a queue makes no reader listen again, nobody listens
again. -/
theorem isListening_of_modifyQueue {x : Exchange α} {e : Entry} {p : Nat} {f : Queue α → Queue α}
    (hf : ∀ q, x.queue? p = some q → (f q).reader = .listening → q.reader = .listening)
    (h : (x.modifyQueue p f).IsListening e) : x.IsListening e := by
  obtain ⟨q, hq, hreader⟩ := h
  rw [queue?_modifyQueue] at hq
  split at hq
  · rename_i hp
    obtain ⟨q', hq', rfl⟩ := Option.map_eq_some_iff.1 hq
    exact ⟨q', hq', hf q' (hp ▸ hq') hreader⟩
  · exact ⟨q, hq, hreader⟩

theorem isListening_of_offer {x : Exchange α} {e : Entry} {p : Nat} {a : α}
    (h : (x.modifyQueue p (·.offer a)).IsListening e) : x.IsListening e := by
  refine isListening_of_modifyQueue (fun q _ hreader => ?_) h
  unfold Queue.offer at hreader
  split at hreader
  · exact hreader
  · exact hreader

/-- Offer an item to the queues of some subscribers, one after the other. -/
def offerEach (a : α) (x : Exchange α) (es : List Entry) : Exchange α :=
  es.foldl (fun x e => x.modifyQueue e.queue (·.offer a)) x

@[simp] theorem offerEach_nil (a : α) (x : Exchange α) : x.offerEach a [] = x := rfl

@[simp] theorem offerEach_cons (a : α) (x : Exchange α) (e : Entry) (es : List Entry) :
    x.offerEach a (e :: es) = (x.modifyQueue e.queue (·.offer a)).offerEach a es := rfl

/-- Offering changes nothing but items of queues. -/
theorem offerEach_eq (a : α) (x : Exchange α) (es : List Entry) :
    x.offerEach a es = { x with queues := (x.offerEach a es).queues }
      ∧ (x.offerEach a es).queues.length = x.queues.length := by
  induction es generalizing x with
  | nil => exact ⟨rfl, rfl⟩
  | cons e es ih =>
    obtain ⟨hrest, hlen⟩ := ih (x.modifyQueue e.queue (·.offer a))
    rw [offerEach_cons]
    refine ⟨by rw [hrest]; rfl, hlen.trans ?_⟩
    simp [modifyQueue]

/-- With a queue for each, every subscriber's queue is offered the item once,
and no other queue is. -/
theorem queue?_offerEach {a : α} {x : Exchange α} {es : List Entry} (h : (es.map (·.queue)).Nodup)
    (q : Nat) :
    (x.offerEach a es).queue? q
      = if q ∈ es.map (·.queue) then (x.queue? q).map (·.offer a) else x.queue? q := by
  induction es generalizing x with
  | nil => rfl
  | cons e es ih =>
    rw [List.map_cons, List.nodup_cons] at h
    rw [offerEach_cons, ih h.2, queue?_modifyQueue, List.map_cons]
    by_cases hq : e.queue = q
    · subst hq
      rw [if_neg h.1, if_pos rfl, if_pos List.mem_cons_self]
    · simp [hq, Ne.symm hq]

/-! ## §2. The steps. -/

namespace Flight

/-- Take note of what became of the item at a subscriber. -/
def note (f : Flight α) (e : Entry) : Verdict → Flight α
  | .delivered => { f with tally := { f.tally with delivered := f.tally.delivered + 1 } }
  | .full => { f with tally := { f.tally with lagged := f.tally.lagged + 1 } }
  | .refused => { f with failed := f.failed ++ [e.id] }

@[simp] theorem note_item (f : Flight α) (e : Entry) (v : Verdict) : (f.note e v).item = f.item := by
  cases v <;> rfl

@[simp] theorem note_todo (f : Flight α) (e : Entry) (v : Verdict) : (f.note e v).todo = f.todo := by
  cases v <;> rfl

theorem note_failed (f : Flight α) (e : Entry) (v : Verdict) :
    (f.note e v).failed = f.failed ++ if v = .refused then [e.id] else [] := by
  cases v <;> simp [note]

theorem note_delivered (f : Flight α) (e : Entry) (v : Verdict) :
    (f.note e v).tally.delivered = f.tally.delivered + if v = .delivered then 1 else 0 := by
  cases v <;> rfl

theorem note_lagged (f : Flight α) (e : Entry) (v : Verdict) :
    (f.note e v).tally.lagged = f.tally.lagged + if v = .full then 1 else 0 := by
  cases v <;> rfl

end Flight

/-- Offering to one subscriber touches its queue alone, and takes note of
what became of it. -/
theorem offerTo_eq (f : Flight α) (e : Entry) (x : Exchange α) :
    offerTo f e x = (f.note e (x.verdictOf e), x.modifyQueue e.queue (·.offer f.item)) := by
  have hsame : ∀ q, x.queue? e.queue = some q → q.verdict ≠ .delivered →
      x.modifyQueue e.queue (·.offer f.item) = x := by
    intro q hq hv
    have hqueues : x.queues.modify e.queue (·.offer f.item) = x.queues := by
      refine List.ext_getElem? fun i => ?_
      rw [List.getElem?_modify]
      split
      · subst_vars
        have hat : x.queues[e.queue]? = some q := hq
        rw [hat, Option.map_eq_map, Option.map_some, Queue.offer_of_ne f.item hv]
      · simp
    rw [modifyQueue, hqueues]
  unfold offerTo verdictOf
  cases hq : x.queue? e.queue with
  | none =>
    have hqueues : x.queues.modify e.queue (·.offer f.item) = x.queues :=
      List.modify_eq_self (List.getElem?_eq_none_iff.1 hq)
    simp [Flight.note, modifyQueue, hqueues]
  | some q =>
    cases hv : q.verdict with
    | delivered => simp [Flight.note, hv]
    | full => simp [Flight.note, hv, hsame q hq]
    | refused => simp [Flight.note, hv, hsame q hq]

/-- The next subscriber is the first of those that are left. -/
theorem offerNext_eq {f : Flight α} {e : Entry} {es : List Entry} (h : f.todo = e :: es) (x : Exchange α) :
    offerNext f x
      = ({ f with todo := es }.note e (x.verdictOf e), x.modifyQueue e.queue (·.offer f.item)) := by
  unfold offerNext
  split
  · rename_i hnil
    rw [h] at hnil
    cases hnil
  · rename_i hcons
    obtain ⟨rfl, rfl⟩ := List.cons.inj (h.symm.trans hcons)
    rw [offerTo_eq]

/-- Offering to all that are left, without a look at the verdicts. -/
theorem offerAll_go_snd (es : List Entry) (f : Flight α) (x : Exchange α) (h : f.todo = es) :
    (offerAll.go es f x).2 = x.offerEach f.item es := by
  induction es generalizing f x with
  | nil => rfl
  | cons e es ih =>
    unfold offerAll.go
    rw [offerNext_eq h]
    show (offerAll.go es _ _).2 = _
    rw [ih _ _ (Flight.note_todo _ e _), Flight.note_item, offerEach_cons]

/-- The subscribers at whom an item meets with a verdict. -/
def meeting (x : Exchange α) (v : Verdict) (es : List Entry) : List Entry :=
  es.filter fun e => x.verdictOf e = v

theorem meeting_cons (x : Exchange α) (v : Verdict) (e : Entry) (es : List Entry) :
    x.meeting v (e :: es) = if x.verdictOf e = v then e :: x.meeting v es else x.meeting v es := by
  simp [meeting, List.filter_cons]

/-- With a queue for each, what is noted is how the queues stood before. -/
theorem offerAll_go_fst (es : List Entry) (f : Flight α) (x : Exchange α) (h : f.todo = es)
    (hq : (es.map (·.queue)).Nodup) :
    (offerAll.go es f x).1 =
      ⟨f.item, [], f.failed ++ (x.meeting .refused es).map (·.id),
        { f.tally with
          delivered := f.tally.delivered + (x.meeting .delivered es).length
          lagged := f.tally.lagged + (x.meeting .full es).length }⟩ := by
  induction es generalizing f x with
  | nil =>
    obtain ⟨item, todo, failed, tally⟩ := f
    obtain rfl : todo = [] := h
    simp [offerAll.go, meeting]
  | cons e es ih =>
    rw [List.map_cons, List.nodup_cons] at hq
    -- the queues that are still to come have not been touched
    have hmeeting : ∀ v, (x.modifyQueue e.queue (·.offer f.item)).meeting v es = x.meeting v es := by
      intro v
      refine List.filter_congr fun e' he' => ?_
      have hne : e.queue ≠ e'.queue := fun heq => hq.1 (heq ▸ List.mem_map_of_mem he')
      rw [verdictOf_modifyQueue_of_ne hne]
    unfold offerAll.go
    rw [offerNext_eq h]
    show (offerAll.go es _ _).1 = _
    cases hv : x.verdictOf e with
    | delivered =>
      rw [ih _ _ rfl hq.2]
      simp [Flight.note, hmeeting, meeting_cons, hv, Nat.add_assoc, Nat.add_comm 1]
    | full =>
      rw [ih _ _ rfl hq.2]
      simp [Flight.note, hmeeting, meeting_cons, hv, Nat.add_assoc, Nat.add_comm 1]
    | refused =>
      rw [ih _ _ rfl hq.2]
      simp [Flight.note, hmeeting, meeting_cons, hv]

/-! ## §3. Handing out an item. -/

/-- Whatever the verdicts are, the queues of all subscribers are offered the
item, and some subscribers are struck off. -/
theorem fanOut_snd (x : Exchange α) (a : α) :
    ∃ failed : List Nat, (x.fanOut a).2 = { x with
      queues := (x.offerEach a x.entries).queues
      entries := x.entries.filter fun e => !failed.contains e.id } := by
  refine ⟨(offerAll (x.launch a) x).1.failed, ?_⟩
  show ((offerAll (x.launch a) x).2.removeAll _).2 = _
  rw [offerAll, offerAll_go_snd _ _ _ rfl, (offerEach_eq _ x _).1]
  rfl

/-- Handing out an item takes nobody in. -/
theorem fanOut_entries_sublist (x : Exchange α) (a : α) :
    (x.fanOut a).2.entries.Sublist x.entries := by
  obtain ⟨failed, h⟩ := fanOut_snd x a
  rw [h]
  exact List.filter_sublist

/-- Handing out an item sets up no queue, gives out no id and does not open
or close the exchange. -/
theorem fanOut_frame (x : Exchange α) (a : α) :
    (x.fanOut a).2.nextId = x.nextId ∧ (x.fanOut a).2.isOpen = x.isOpen ∧ (x.fanOut a).2.held = x.held
      ∧ (x.fanOut a).2.queues.length = x.queues.length := by
  obtain ⟨failed, h⟩ := fanOut_snd x a
  rw [h]
  exact ⟨rfl, rfl, rfl, (offerEach_eq a x x.entries).2⟩

/-- **One item for all subscribers, exactly.**  Each of them has it, misses
it or is struck off as its queue stood before, and the queues of those who
have it grow by that item. -/
theorem fanOut_eq (x : Exchange α) (a : α) (hid : x.ids.Nodup) (hq : (x.entries.map (·.queue)).Nodup) :
    x.fanOut a
      = (⟨(x.meeting .delivered x.entries).length, (x.meeting .full x.entries).length,
            (x.meeting .refused x.entries).length⟩,
          { x with
            queues := (x.offerEach a x.entries).queues
            entries := x.entries.filter fun e => x.verdictOf e ≠ .refused }) := by
  have hall : offerAll (x.launch a) x
      = (⟨a, [], (x.meeting .refused x.entries).map (·.id),
            ⟨(x.meeting .delivered x.entries).length, (x.meeting .full x.entries).length, 0⟩⟩,
          { x with queues := (x.offerEach a x.entries).queues }) := by
    refine Prod.ext ?_ ?_
    · exact (offerAll_go_fst x.entries (x.launch a) x rfl hq).trans (by simp [launch])
    · exact (offerAll_go_snd x.entries (x.launch a) x rfl).trans (offerEach_eq a x x.entries).1
  -- an id is among the failed ones just where its only owner refused the item
  have hkept : x.entries.filter (fun e => !((x.meeting .refused x.entries).map (·.id)).contains e.id)
      = x.entries.filter fun e => x.verdictOf e ≠ .refused := by
    refine List.filter_congr fun e he => ?_
    have hmem : e.id ∈ (x.meeting .refused x.entries).map (·.id) ↔ x.verdictOf e = .refused := by
      constructor
      · intro h
        obtain ⟨e', he', heq⟩ := List.mem_map.1 h
        obtain ⟨he', hv⟩ := List.mem_filter.1 he'
        obtain rfl := List.inj_on_of_nodup_map hid he' he heq
        exact of_decide_eq_true hv
      · intro h
        exact List.mem_map_of_mem (List.mem_filter.2 ⟨he, decide_eq_true h⟩)
    rw [List.contains_eq_mem, decide_not, decide_eq_decide.2 hmem]
  have hlength : x.entries.length - (x.entries.filter fun e => x.verdictOf e ≠ .refused).length
      = (x.meeting .refused x.entries).length := by
    have hsplit := x.entries.length_eq_length_filter_add fun e => x.verdictOf e = .refused
    simp only [meeting, ne_eq, decide_not] at hsplit ⊢
    omega
  rw [fanOut, hall]
  simp only [land, removeAll, hkept, hlength]

end Exchange

end CallGateway
