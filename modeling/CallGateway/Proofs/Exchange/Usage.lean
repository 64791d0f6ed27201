/-
  CallGateway.Proofs.Exchange.Usage
  ─────────────────────────────────
  **WHATEVER IS DONE WITH AN EXCHANGE.**

  An exchange is used through a few operations, and they may follow one
  another in any order (`Operation`).  Whoever has noted down the subscribers
  may offer them items later on, one after the other; so an item that is
  handed out while others do their steps is a run of operations as well: the
  list is noted down, its subscribers are offered the item, those who refused
  it are struck off, and the list is forgotten.

  A usage goes through any operations and keeps a record of what was put into
  queues and what was taken from them.  All who can still reach a queue are on
  the roll of the exchange (`Enrolled`), and an operation takes from a queue
  and puts into it what the record says (`items_apply`).
-/
import CallGateway.Proofs.Exchange.Roll

namespace CallGateway

namespace Exchange

variable {α : Type}

/-! ## §1. Operations. -/

/-- Something that is done with an exchange. -/
inductive Operation (α : Type) where
  | add (capacity : Nat)
  | remove (id : Nat)
  -- Those who refused an item are struck off.
  | removeAll (ids : List Nat)
  | close
  -- Someone notes down the subscribers, or forgets such a list.
  | hold
  | release (i : Nat)
  -- The next subscriber on the list at this place is offered an item.
  | offer (i : Nat) (a : α)
  | fanOut (a : α)
  | receive (q : Nat)
  | closeReader (q : Nat)
  | dropReader (q : Nat)
  deriving DecidableEq

/-- The subscriber who is next on a list that is noted down. -/
def nextHeld? (x : Exchange α) (i : Nat) : Option Entry := x.held[i]?.bind List.head?

/-- Offer an item to the next subscriber on a list that is noted down, who is
crossed out there. -/
def offerHeld (x : Exchange α) (i : Nat) (a : α) : Exchange α :=
  match x.held[i]? with
  | none => x
  | some es =>
    let (f, x') := offerNext { item := a, todo := es } x
    { x' with held := x'.held.set i f.todo }

/-- The exchange after an operation. -/
def apply (x : Exchange α) : Operation α → Exchange α
  | .add capacity => (x.add capacity).2
  | .remove id => (x.remove id).2
  | .removeAll ids => (x.removeAll ids).2
  | .close => x.close.2
  | .hold => x.hold
  | .release i => x.release i
  | .offer i a => x.offerHeld i a
  | .fanOut a => (x.fanOut a).2
  | .receive q => (x.receive q).2
  | .closeReader q => x.closeReader q
  | .dropReader q => x.dropReader q

/-- What an operation puts into queues, each item with the place of its
queue. -/
def puts (x : Exchange α) : Operation α → List (Nat × α)
  | .offer i a => (x.meeting .delivered (x.nextHeld? i).toList).map fun e => (e.queue, a)
  | .fanOut a => (x.meeting .delivered x.entries).map fun e => (e.queue, a)
  | _ => []

/-- What an operation takes from a queue. -/
def takes (x : Exchange α) : Operation α → List (Nat × α)
  | .receive q => (x.receive q).1.item?.toList.map fun a => (q, a)
  | _ => []

/-- The queues for which an operation makes a sender, which is what it takes to
put something in: for a queue that is set up, and for each that is noted down. -/
def makes (x : Exchange α) : Operation α → List Nat
  | .add _ => [x.queues.length]
  | .hold | .fanOut _ => x.entries.map (·.queue)
  | _ => []

/-- The queues of which an operation gives a sender up: one for which nobody is
taken in, those whose subscribers are struck off, and those that somebody had
noted down and has done with. -/
def frees (x : Exchange α) : Operation α → List Nat
  | .add _ => if x.isOpen then [] else [x.queues.length]
  | .remove id => (x.entries.filter (·.id = id)).map (·.queue)
  | .removeAll ids => (x.entries.filter fun e => ids.contains e.id).map (·.queue)
  | .close => x.entries.map (·.queue)
  | .release i => (x.held[i]?.getD []).map (·.queue)
  | .offer i _ => (x.nextHeld? i).toList.map (·.queue)
  | .fanOut _ => x.entries.map (·.queue) ++ (x.meeting .refused x.entries).map (·.queue)
  | _ => []

/-- Whom an operation takes in. -/
def enrols (x : Exchange α) : Operation α → List Entry
  | .add _ => if x.isOpen then [⟨x.nextId, x.queues.length⟩] else []
  | _ => []

/-- The items of one queue among those of all. -/
def itemsAt (items : List (Nat × α)) (k : Nat) : List α := (items.filter (·.1 = k)).map (·.2)

theorem itemsAt_append (items items' : List (Nat × α)) (k : Nat) :
    itemsAt (items ++ items') k = itemsAt items k ++ itemsAt items' k := by
  unfold itemsAt
  rw [List.filter_append, List.map_append]

/-! ## §2. What the operations come to. -/

section
variable {x : Exchange α} {roll : List Entry}

/-- A reader changes its own queue at most. -/
theorem receive_snd (x : Exchange α) (p : Nat) :
    (x.receive p).2 = x.modifyQueue p fun q => (q.receive (x.hasSender p)).2 := by
  unfold receive
  cases hq : x.queue? p with
  | none =>
    show x = { x with queues := x.queues.modify p _ }
    rw [List.modify_eq_self (List.getElem?_eq_none_iff.1 hq)]
  | some q =>
    show x.modifyQueue p (fun _ => (q.receive (x.hasSender p)).2) = _
    unfold modifyQueue
    congr 1
    refine List.ext_getElem? fun i => ?_
    rw [List.getElem?_modify, List.getElem?_modify]
    by_cases hi : p = i
    · subst hi
      have hat : x.queues[p]? = some q := hq
      simp [hat]
    · simp [hi]

/-- What a reader finds depends on its queue, and on whether someone could
still put something in. -/
theorem receive_fst {p : Nat} {q : Queue α} (hq : x.queue? p = some q) :
    (x.receive p).1 = (q.receive (x.hasSender p)).1 := by
  unfold receive
  rw [hq]

theorem nextHeld?_eq_some_iff (x : Exchange α) (i : Nat) (e : Entry) :
    x.nextHeld? i = some e ↔ ∃ es, x.held[i]? = some (e :: es) := by
  unfold nextHeld?
  rw [Option.bind_eq_some_iff]
  constructor
  · rintro ⟨es, hes, hhead⟩
    obtain ⟨rest, rfl⟩ := List.head?_eq_some_iff.1 hhead
    exact ⟨rest, hes⟩
  · rintro ⟨es, hes⟩
    exact ⟨_, hes, rfl⟩

theorem offerHeld_of_cons {i : Nat} {e : Entry} {es : List Entry} (h : x.held[i]? = some (e :: es)) (a : α) :
    x.offerHeld i a = { x.modifyQueue e.queue (·.offer a) with held := x.held.set i es } := by
  have hnext : offerNext ({ item := a, todo := e :: es } : Flight α) x
      = (({ item := a, todo := es } : Flight α).note e (x.verdictOf e), x.modifyQueue e.queue (·.offer a)) :=
    offerNext_eq rfl x
  unfold offerHeld
  rw [h]
  simp only [hnext, Flight.note_todo]
  rfl

/-- Where nobody is left on the list, nothing happens. -/
theorem offerHeld_of_none {i : Nat} (h : x.nextHeld? i = none) (a : α) : x.offerHeld i a = x := by
  unfold offerHeld
  split
  · rfl
  · rename_i es hes
    unfold nextHeld? at h
    rw [hes] at h
    obtain rfl := List.head?_eq_none_iff.1 h
    have hset : x.held.set i [] = x.held := by
      obtain ⟨hlt, hat⟩ := List.getElem?_eq_some_iff.1 hes
      rw [← hat, List.set_getElem_self]
    show { x with held := x.held.set i [] } = x
    rw [hset]

/-! ## §3. Who can reach a queue. -/

/-- All who are registered or noted down somewhere are on the roll. -/
structure Enrolled (x : Exchange α) (roll : List Entry) : Prop where
  ordered : x.Roll roll
  held : ∀ es ∈ x.held, es.Sublist roll

theorem enrolled_empty : ({} : Exchange α).Enrolled [] := ⟨roll_empty, nofun⟩

/-- Nobody is on a list twice. -/
theorem Enrolled.queue_notMem (h : x.Enrolled roll) {i : Nat} {e : Entry} {es : List Entry}
    (hheld : x.held[i]? = some (e :: es)) : e.queue ∉ es.map (·.queue) := by
  have hsublist := h.held _ (List.mem_of_getElem? hheld)
  have hnodup := h.ordered.queues_nodup.sublist (hsublist.map (·.queue))
  exact (List.nodup_cons.1 hnodup).1

/-- Where nobody comes, the roll stays as it is. -/
theorem Enrolled.mono {x' : Exchange α} (h : x.Enrolled roll) (hid : x.nextId ≤ x'.nextId)
    (hqueues : x.queues.length ≤ x'.queues.length) (hentries : x'.entries.Sublist x.entries)
    (hheld : ∀ es ∈ x'.held, ∃ es' ∈ x.held ++ [x.entries], es.Sublist es') : x'.Enrolled roll where
  ordered := h.ordered.mono hid hqueues hentries
  held := by
    intro es hes
    obtain ⟨es', hes', hsublist⟩ := hheld es hes
    rcases List.mem_append.1 hes' with hes' | hes'
    · exact hsublist.trans (h.held es' hes')
    · obtain rfl := List.mem_singleton.1 hes'
      exact hsublist.trans h.ordered.entries

/-- A newcomer comes to the end of the roll, unless nobody is taken in. -/
theorem Enrolled.add (h : x.Enrolled roll) (capacity : Nat) :
    (x.add capacity).2.Enrolled (roll ++ if x.isOpen = true then [⟨x.nextId, x.queues.length⟩] else []) := by
  by_cases hopen : x.isOpen = true
  · rw [if_pos hopen]
    refine ⟨h.ordered.add hopen capacity, fun es hes => ?_⟩
    rw [add_of_open hopen] at hes
    exact (h.held es hes).trans (List.sublist_append_left _ _)
  · rw [if_neg hopen, List.append_nil, add_of_closed (Bool.eq_false_iff.2 hopen)]
    exact h.mono (Nat.le_refl _) (by simp) (.refl _) fun es hes => ⟨es, List.mem_append_left _ hes, .refl es⟩

theorem Enrolled.modifyQueue (h : x.Enrolled roll) (p : Nat) (f : Queue α → Queue α) :
    (x.modifyQueue p f).Enrolled roll :=
  h.mono (Nat.le_refl _) (Nat.le_of_eq (List.length_modify ..).symm) (.refl _)
    fun es hes => ⟨es, List.mem_append_left _ hes, .refl es⟩

theorem Enrolled.offerHeld (h : x.Enrolled roll) (i : Nat) (a : α) : (x.offerHeld i a).Enrolled roll := by
  cases hnext : x.nextHeld? i with
  | none =>
    rw [offerHeld_of_none hnext]
    exact h
  | some e =>
    obtain ⟨es, hheld⟩ := (x.nextHeld?_eq_some_iff i e).1 hnext
    rw [offerHeld_of_cons hheld]
    refine (h.modifyQueue e.queue (·.offer a)).mono (Nat.le_refl _) (Nat.le_refl _) (.refl _) fun es' hes' => ?_
    rcases List.mem_or_eq_of_mem_set hes' with hes' | rfl
    · exact ⟨es', List.mem_append_left _ hes', .refl es'⟩
    · exact ⟨e :: es', List.mem_append_left _ (List.mem_of_getElem? hheld), List.sublist_cons_self e es'⟩

/-- **Every operation keeps a roll**, to which a newcomer is added. -/
theorem Enrolled.apply (h : x.Enrolled roll) (op : Operation α) :
    (x.apply op).Enrolled (roll ++ x.enrols op) := by
  -- most operations take nobody in
  have hnobody : ∀ {x' : Exchange α}, x'.Enrolled roll → x'.Enrolled (roll ++ []) :=
    fun h' => by rwa [List.append_nil]
  have hsame : ∀ es ∈ x.held, ∃ es' ∈ x.held ++ [x.entries], es.Sublist es' :=
    fun es hes => ⟨es, List.mem_append_left _ hes, .refl es⟩
  cases op with
  | add capacity => exact h.add capacity
  | remove id => exact hnobody (h.mono (Nat.le_refl _) (Nat.le_refl _) List.filter_sublist hsame)
  | removeAll ids => exact hnobody (h.mono (Nat.le_refl _) (Nat.le_refl _) List.filter_sublist hsame)
  | close => exact hnobody (h.mono (Nat.le_refl _) (Nat.le_refl _) (List.nil_sublist _) hsame)
  | hold =>
    refine hnobody (h.mono (Nat.le_refl _) (Nat.le_refl _) (.refl _) fun es hes => ⟨es, ?_, .refl es⟩)
    have hes : es ∈ x.entries :: x.held := hes
    simpa [or_comm] using hes
  | release i =>
    refine hnobody (h.mono (Nat.le_refl _) (Nat.le_refl _) (.refl _) fun es hes => hsame es ?_)
    exact List.mem_of_mem_eraseIdx hes
  | offer i a => exact hnobody (h.offerHeld i a)
  | fanOut a =>
    obtain ⟨hid, -, hheld, hqueues⟩ := x.fanOut_frame a
    refine hnobody (h.mono (Nat.le_of_eq hid.symm) (Nat.le_of_eq hqueues.symm) (x.fanOut_entries_sublist a) ?_)
    intro es hes
    rw [Exchange.apply, hheld] at hes
    exact hsame es hes
  | receive q =>
    refine hnobody ?_
    rw [Exchange.apply, receive_snd]
    exact h.modifyQueue q _
  | closeReader q => exact hnobody (h.modifyQueue q _)
  | dropReader q => exact hnobody (h.modifyQueue q _)

/-! ## §4. One queue. -/

/-- The next subscriber on a list is offered the item, and nobody else is. -/
theorem queue?_offerHeld (x : Exchange α) (i : Nat) (a : α) (k : Nat) :
    (x.offerHeld i a).queue? k = if (x.nextHeld? i).map (·.queue) = some k then (x.queue? k).map (·.offer a)
      else x.queue? k := by
  cases hnext : x.nextHeld? i with
  | none =>
    rw [offerHeld_of_none hnext]
    rfl
  | some e =>
    obtain ⟨es, hheld⟩ := (x.nextHeld?_eq_some_iff i e).1 hnext
    rw [offerHeld_of_cons hheld]
    show (x.modifyQueue e.queue (·.offer a)).queue? k = _
    rw [queue?_modifyQueue]
    simp only [Option.map_some, Option.some.injEq]

/-- The item that an operation offers to the queue at a place. -/
def offeredTo (x : Exchange α) (k : Nat) : Operation α → Option α
  | .offer i a => if (x.nextHeld? i).map (·.queue) = some k then some a else none
  | .fanOut a => if k ∈ x.entries.map (·.queue) then some a else none
  | _ => none

/-- What an operation does to the queue at a place. -/
def effectOn (x : Exchange α) (k : Nat) (op : Operation α) (q : Queue α) : Queue α :=
  match op with
  | .receive p => if p = k then (q.receive (x.hasSender k)).2 else q
  | .closeReader p => if p = k then q.close else q
  | .dropReader p => if p = k then q.drop else q
  | _ => ((x.offeredTo k op).map q.offer).getD q

/-- **An operation does that to a queue and nothing else.** -/
theorem Enrolled.queue?_apply (h : x.Enrolled roll) (op : Operation α) {k : Nat} {q : Queue α}
    (hq : x.queue? k = some q) : (x.apply op).queue? k = some (x.effectOn k op q) := by
  have hmodify : ∀ p f, (x.modifyQueue p f).queue? k = some (if p = k then f q else q) := by
    intro p f
    rw [queue?_modifyQueue, hq]
    split
    · rfl
    · rfl
  cases op with
  | add capacity =>
    have hlt := (List.getElem?_eq_some_iff.1 hq).1
    show (x.add capacity).2.queue? k = _
    rw [queue?_add, if_neg (by omega), hq]
    rfl
  | remove id => exact hq
  | removeAll ids => exact hq
  | close => exact hq
  | hold => exact hq
  | release i => exact hq
  | offer i a =>
    show (x.offerHeld i a).queue? k
      = some (((if (x.nextHeld? i).map (·.queue) = some k then some a else none).map q.offer).getD q)
    rw [queue?_offerHeld, hq]
    split
    · rfl
    · rfl
  | fanOut a =>
    show (x.fanOut a).2.queue? k
      = some (((if k ∈ x.entries.map (·.queue) then some a else none).map q.offer).getD q)
    rw [h.ordered.queue?_fanOut_eq, hq]
    split
    · rfl
    · rfl
  | receive p =>
    show (x.receive p).2.queue? k = some (if p = k then (q.receive (x.hasSender k)).2 else q)
    rw [receive_snd, hmodify]
    by_cases hp : p = k
    · rw [if_pos hp, if_pos hp, hp]
    · rw [if_neg hp, if_neg hp]
  | closeReader p => exact hmodify p _
  | dropReader p => exact hmodify p _

/-- Only a newcomer changes how many queues there are. -/
theorem length_queues_apply (x : Exchange α) (op : Operation α) :
    (x.apply op).queues.length = x.queues.length + match op with | .add _ => 1 | _ => 0 := by
  cases op with
  | add capacity =>
    show (x.add capacity).2.queues.length = _
    by_cases hopen : x.isOpen = true
    · simp [add_of_open hopen]
    · simp [add_of_closed (Bool.eq_false_iff.2 hopen)]
  | offer i a =>
    show (x.offerHeld i a).queues.length = _
    cases hnext : x.nextHeld? i with
    | none => exact congrArg (·.queues.length) (offerHeld_of_none hnext a)
    | some e =>
      obtain ⟨es, hheld⟩ := (x.nextHeld?_eq_some_iff i e).1 hnext
      rw [offerHeld_of_cons hheld]
      exact List.length_modify ..
  | fanOut a => exact (x.fanOut_frame a).2.2.2
  | receive p =>
    show (x.receive p).2.queues.length = _
    rw [receive_snd]
    exact List.length_modify ..
  | closeReader p => exact List.length_modify ..
  | dropReader p => exact List.length_modify ..
  | _ => rfl

/-- A queue that an operation sets up is empty. -/
theorem queue?_apply_of_none {k : Nat} (hq : x.queue? k = none) (op : Operation α) {q : Queue α}
    (hq' : (x.apply op).queue? k = some q) : ∃ capacity, op = .add capacity ∧ k = x.queues.length
      ∧ q = { capacity := capacity } := by
  have hle : x.queues.length ≤ k := List.getElem?_eq_none_iff.1 hq
  have hlt : k < (x.apply op).queues.length := (List.getElem?_eq_some_iff.1 hq').1
  rw [length_queues_apply] at hlt
  cases op with
  | add capacity =>
    have hk : k = x.queues.length := Nat.le_antisymm (Nat.le_of_lt_succ hlt) hle
    have hadd : (x.add capacity).2.queue? k = some q := hq'
    rw [queue?_add, if_pos hk] at hadd
    exact ⟨capacity, rfl, hk, (Option.some.inj hadd).symm⟩
  | _ => exact absurd hlt (Nat.not_lt.2 hle)

theorem verdictOf_eq_delivered_iff (x : Exchange α) (e : Entry) :
    x.verdictOf e = .delivered ↔ (x.queue? e.queue).map Queue.verdict = some .delivered := by
  unfold verdictOf
  cases (x.queue? e.queue).map Queue.verdict with
  | none => simp
  | some v => simp

/-- Of an item that is offered to some subscribers, a queue gets what it takes
in if its subscriber is one of them, and nothing if not. -/
theorem itemsAt_meeting {es : List Entry} (hnodup : (es.map (·.queue)).Nodup) (a : α) (k : Nat) :
    itemsAt ((x.meeting .delivered es).map fun e => (e.queue, a)) k
      = if k ∈ es.map (·.queue) ∧ (x.queue? k).map Queue.verdict = some .delivered then [a] else [] := by
  induction es with
  | nil => rfl
  | cons e es ih =>
    obtain ⟨hnotMem, hnodup⟩ := List.nodup_cons.1 hnodup
    have ih := ih hnodup
    rw [meeting_cons]
    by_cases hk : e.queue = k
    · subst hk
      rw [if_neg (fun hboth => hnotMem hboth.1)] at ih
      simp only [verdictOf_eq_delivered_iff]
      by_cases hv : (x.queue? e.queue).map Queue.verdict = some .delivered
      · rw [if_pos hv, if_pos ⟨List.mem_cons_self, hv⟩, List.map_cons, ← List.singleton_append, itemsAt_append, ih]
        simp [itemsAt]
      · rw [if_neg hv, if_neg (fun hboth => hv hboth.2), ih]
    · have hmem : k ∈ (e :: es).map (·.queue) ↔ k ∈ es.map (·.queue) := by
        rw [List.map_cons, List.mem_cons]
        exact or_iff_right (Ne.symm hk)
      simp only [hmem]
      rw [← ih]
      split
      · rw [List.map_cons, ← List.singleton_append, itemsAt_append]
        simp [itemsAt, hk]
      · rfl

/-- **What is put into a queue** is the item that is offered to it, if the queue
takes it in. -/
theorem Enrolled.itemsAt_puts (h : x.Enrolled roll) (op : Operation α) (k : Nat) :
    itemsAt (x.puts op) k
      = if (x.queue? k).map Queue.verdict = some .delivered then (x.offeredTo k op).toList else [] := by
  cases op with
  | offer i a =>
    show itemsAt ((x.meeting .delivered (x.nextHeld? i).toList).map fun e => (e.queue, a)) k
      = if (x.queue? k).map Queue.verdict = some .delivered then
          (if (x.nextHeld? i).map (·.queue) = some k then some a else none).toList
        else []
    cases hnext : x.nextHeld? i with
    | none => simp [itemsAt, meeting]
    | some e =>
      rw [itemsAt_meeting (by simp)]
      by_cases hk : e.queue = k
      · simp [hk]
      · simp [hk, Ne.symm hk]
  | fanOut a =>
    show itemsAt ((x.meeting .delivered x.entries).map fun e => (e.queue, a)) k
      = if (x.queue? k).map Queue.verdict = some .delivered then
          (if k ∈ x.entries.map (·.queue) then some a else none).toList
        else []
    rw [itemsAt_meeting h.ordered.entries_queues_nodup]
    by_cases hk : k ∈ x.entries.map (·.queue)
    · simp [hk]
    · simp [hk]
  | _ => simp [puts, offeredTo, itemsAt]

/-- A reader takes the item that it finds from its own queue. -/
theorem itemsAt_takes (x : Exchange α) (k p : Nat) :
    itemsAt (x.takes (.receive p)) k = if p = k then (x.receive k).1.item?.toList else [] := by
  have hone : ∀ o : Option α, itemsAt (o.toList.map fun a => (p, a)) k = if p = k then o.toList else [] := by
    intro o
    cases o with
    | none => simp [itemsAt]
    | some a => by_cases hp : p = k <;> simp [itemsAt, hp]
  show itemsAt ((x.receive p).1.item?.toList.map fun a => (p, a)) k = _
  rw [hone]
  split
  · rename_i hp
    rw [hp]
  · rfl

/-- **Nothing gets lost.** Whatever an operation takes from a queue, followed by
what it leaves there, is what was there before, followed by what it puts in. -/
theorem Enrolled.items_apply (h : x.Enrolled roll) (op : Operation α) {k : Nat} {q : Queue α}
    (hq : x.queue? k = some q) (hreader : (x.effectOn k op q).reader ≠ .gone) :
    q.reader ≠ .gone ∧ itemsAt (x.takes op) k ++ (x.effectOn k op q).items
      = q.items ++ itemsAt (x.puts op) k := by
  have hputs := h.itemsAt_puts op k
  rw [hq, Option.map_some] at hputs
  simp only [Option.some.injEq] at hputs
  -- an operation that is not a reader's offers an item to the queue, or does nothing to it
  have hoffered : ∀ o : Option α, ((o.map q.offer).getD q).reader = q.reader
      ∧ ((o.map q.offer).getD q).items = q.items ++ if q.verdict = .delivered then o.toList else [] := by
    intro o
    cases o with
    | none => exact ⟨rfl, by simp⟩
    | some a => exact ⟨q.reader_offer a, q.items_offer a⟩
  rw [hputs]
  cases op with
  | receive p =>
    rw [itemsAt_takes, receive_fst hq]
    show _ ∧ _ ++ (if p = k then _ else q : Queue α).items = q.items ++ if _ then [] else []
    rw [ite_self, List.append_nil]
    by_cases hp : p = k
    · rw [if_pos hp, if_pos hp]
      refine ⟨?_, q.items_receive _⟩
      rw [← q.reader_receive (x.hasSender k)]
      simpa [effectOn, hp] using hreader
    · rw [if_neg hp, if_neg hp]
      exact ⟨by simpa [effectOn, hp] using hreader, rfl⟩
  | closeReader p =>
    show _ ∧ (if p = k then q.close else q).items = q.items ++ if _ then [] else []
    rw [ite_self, List.append_nil]
    by_cases hp : p = k
    · rw [if_pos hp]
      refine ⟨fun hgone => hreader ?_, q.items_close⟩
      show (if p = k then q.close else q).reader = .gone
      rw [if_pos hp, Queue.reader_close, if_pos hgone]
    · rw [if_neg hp]
      exact ⟨by simpa [effectOn, hp] using hreader, rfl⟩
  | dropReader p =>
    by_cases hp : p = k
    · exact absurd (show (x.effectOn k (.dropReader p) q).reader = .gone by simp [effectOn, hp, Queue.drop]) hreader
    · show _ ∧ (if p = k then q.drop else q).items = q.items ++ if _ then [] else []
      rw [ite_self, List.append_nil, if_neg hp]
      exact ⟨by simpa [effectOn, hp] using hreader, rfl⟩
  | _ =>
    obtain ⟨hsame, hitems⟩ := hoffered _
    exact ⟨hsame ▸ hreader, hitems⟩

/-- No queue, no items. -/
theorem Enrolled.items_of_none (h : x.Enrolled roll) (op : Operation α) {k : Nat} (hq : x.queue? k = none) :
    itemsAt (x.takes op) k = [] ∧ itemsAt (x.puts op) k = [] := by
  refine ⟨?_, by rw [h.itemsAt_puts, hq]; rfl⟩
  cases op with
  | receive p =>
    have hgone : (x.receive k).1 = .gone := by
      unfold receive
      rw [hq]
    rw [itemsAt_takes, hgone]
    exact ite_self _
  | _ => rfl

end

/-! ## §5. Usages. -/

/-- An exchange, and what has been done with it. -/
structure Usage (α : Type) where
  exchange : Exchange α := {}
  -- What was put into queues, in order, each item with the place of its queue.
  put : List (Nat × α) := []
  -- What readers took, in order.
  taken : List (Nat × α) := []
  -- The queues for which a sender was made, and those of which one was given up.
  made : List Nat := []
  freed : List Nat := []
  -- All who were ever taken in.
  roll : List Entry := []

namespace Usage

/-- The usage after an operation. -/
def next (u : Usage α) (op : Operation α) : Usage α where
  exchange := u.exchange.apply op
  put := u.put ++ u.exchange.puts op
  taken := u.taken ++ u.exchange.takes op
  made := u.made ++ u.exchange.makes op
  freed := u.freed ++ u.exchange.frees op
  roll := u.roll ++ u.exchange.enrols op

/-- The usage after some operations. -/
def run (u : Usage α) (ops : List (Operation α)) : Usage α := ops.foldl next u

/-- What was put into a queue. -/
def putInto (u : Usage α) (k : Nat) : List α := itemsAt u.put k

/-- What the reader of a queue took. -/
def takenFrom (u : Usage α) (k : Nat) : List α := itemsAt u.taken k

theorem takenFrom_next (u : Usage α) (op : Operation α) (k : Nat) :
    (u.next op).takenFrom k = u.takenFrom k ++ itemsAt (u.exchange.takes op) k := itemsAt_append ..

theorem putInto_next (u : Usage α) (op : Operation α) (k : Nat) :
    (u.next op).putInto k = u.putInto k ++ itemsAt (u.exchange.puts op) k := itemsAt_append ..

/-- What each operation keeps, a run of them keeps. -/
theorem run_induction {P : Usage α → Prop} (hnext : ∀ u op, P u → P (u.next op)) (ops : List (Operation α)) :
    ∀ {u : Usage α}, P u → P (u.run ops) := by
  induction ops with
  | nil => exact fun hu => hu
  | cons op ops ih => exact fun hu => ih (hnext _ op hu)

end Usage

end Exchange

end CallGateway
