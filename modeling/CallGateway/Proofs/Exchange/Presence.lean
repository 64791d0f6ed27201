/-
  CallGateway.Proofs.Exchange.Presence
  ────────────────────────────────────
  **WHO HAS A HANDLE AND WHO IS REGISTERED.**

  A subscriber has a handle until it goes, and an exchange has an entry for it
  until it strikes it off.  Entries are struck off by those who hold nothing
  but an id: by a subscriber that goes, and by whoever hands out an item.  All
  the same the two agree while the exchange is open: registered are those who
  have a handle, and the strays, who were registered and never got one
  (`Presence.perm`).  Ids are not given twice, and whoever has a handle
  listens; so nobody else is struck off by its id, and nobody who has a handle
  by an item that it refused (`Presence.strike`).
-/
import CallGateway.Proofs.Exchange.Roll

namespace CallGateway

namespace Exchange

/-! ## §1. Handles. -/

/-- The entries of those who have come and have not gone, in the order in which
they came; `left` are the places of those who have gone. -/
def present (handles : List Entry) (left : List Nat) : List Entry :=
  (handles.zipIdx.filter fun p => !left.contains p.2).map (·.1)

section

variable {handles : List Entry} {left : List Nat} {e : Entry} {s : Nat}

theorem mem_present_iff : e ∈ present handles left ↔ ∃ s, handles[s]? = some e ∧ s ∉ left := by
  unfold present
  simp [List.mem_map, List.mem_filter, List.mem_zipIdx_iff_getElem?]

/-- Who comes is present, unless its place is that of somebody who has gone. -/
theorem present_concat (h : handles.length ∉ left) (e : Entry) :
    present (handles ++ [e]) left = present handles left ++ [e] := by
  unfold present
  rw [List.zipIdx_append, List.filter_append, List.map_append]
  simp [h]

/-- Who goes is not present any more, and the others still are. -/
theorem present_leave (left : List Nat) (hnodup : handles.Nodup) (he : handles[s]? = some e) :
    present handles (left ++ [s]) = (present handles left).filter (· ≠ e) := by
  unfold present
  rw [List.filter_map, List.filter_filter]
  congr 1
  refine List.filter_congr fun p hp => ?_
  have hp : handles[p.2]? = some p.1 := List.mem_zipIdx_iff_getElem?.1 hp
  have hsame : p.2 = s ↔ p.1 = e := by
    constructor
    · rintro rfl
      exact Option.some.inj (hp.symm.trans he)
    · intro heq
      refine (List.getElem?_inj (List.getElem?_eq_some_iff.1 hp).1 hnodup).1 ?_
      rw [hp, he, heq]
  by_cases hps : p.2 = s
  · simp [hps, hsame.1 hps]
  · simp [hps, mt hsame.2 hps]

end

variable {α : Type}

/-! ## §2. Handles and entries. -/

/-- While the exchange is open, registered are those who have a handle, and the
strays.  Those who have a handle listen; strays do not. -/
structure Presence (x : Exchange α) (roll here strays : List Entry) : Prop where
  onRoll : x.Roll roll
  handles : here.Sublist roll
  others : strays.Sublist roll
  listening : ∀ e ∈ here, x.IsListening e
  silent : ∀ e ∈ strays, ¬ x.IsListening e
  registered : x.isOpen = true → ∀ e, e ∈ x.entries ↔ e ∈ here ∨ e ∈ strays
  closed : x.isOpen = false → x.entries = []

section

variable {x : Exchange α} {roll here strays : List Entry} {e : Entry}

theorem presence_empty : ({} : Exchange α).Presence [] [] [] where
  onRoll := roll_empty
  handles := .slnil
  others := .slnil
  listening := nofun
  silent := nofun
  registered := fun _ e => by simp
  closed := nofun

/-- Lists that are noted down somewhere make no difference. -/
theorem Presence.held (h : x.Presence roll here strays) (held : List (List Entry)) :
    ({ x with held } : Exchange α).Presence roll here strays where
  onRoll := h.onRoll.mono (Nat.le_refl _) (Nat.le_refl _) (.refl _)
  handles := h.handles
  others := h.others
  listening := h.listening
  silent := h.silent
  registered := h.registered
  closed := h.closed

/-! ### Coming. -/

/-- Whoever was on the roll listens after somebody came just if it listened
before. -/
theorem Roll.isListening_add_iff (h : x.Roll roll) (capacity : Nat) (he : e ∈ roll) :
    (x.add capacity).2.IsListening e ↔ x.IsListening e := by
  unfold IsListening
  rw [h.queue?_add_of_mem capacity he]

/-- Who comes listens. -/
theorem isListening_add_self (x : Exchange α) (capacity id : Nat) :
    (x.add capacity).2.IsListening ⟨id, x.queues.length⟩ :=
  ⟨{ capacity := capacity }, by rw [queue?_add, if_pos rfl], rfl⟩

/-- A subscriber comes and gets its handle. -/
theorem Presence.add (h : x.Presence roll here strays) (hopen : x.isOpen = true) (capacity : Nat) :
    (x.add capacity).2.Presence (roll ++ [⟨x.nextId, x.queues.length⟩])
      (here ++ [⟨x.nextId, x.queues.length⟩]) strays where
  onRoll := h.onRoll.add hopen capacity
  handles := h.handles.append (.refl _)
  others := h.others.trans (List.sublist_append_left _ _)
  listening := by
    intro e he
    rcases List.mem_append.1 he with he | he
    · exact (h.onRoll.isListening_add_iff capacity (h.handles.subset he)).2 (h.listening e he)
    · obtain rfl := List.mem_singleton.1 he
      exact x.isListening_add_self capacity _
  silent := fun e he => mt (h.onRoll.isListening_add_iff capacity (h.others.subset he)).1 (h.silent e he)
  registered := by
    intro _ e
    rw [add_of_open hopen]
    simp only [List.mem_append, List.mem_singleton, h.registered hopen e, or_right_comm]
  closed := by
    intro hclosed
    rw [add_of_open hopen] at hclosed
    exact absurd (hopen.symm.trans hclosed) nofun

/-- A subscriber is registered and does not get a handle: it becomes a stray. -/
theorem Presence.stray (h : x.Presence roll here strays) (hopen : x.isOpen = true) (capacity : Nat) :
    ((x.add capacity).2.dropReader x.queues.length).Presence (roll ++ [⟨x.nextId, x.queues.length⟩]) here
      (strays ++ [⟨x.nextId, x.queues.length⟩]) := by
  have hroll := h.onRoll.add hopen capacity
  have hsame : ∀ e ∈ roll, ((x.add capacity).2.dropReader x.queues.length).IsListening e ↔ x.IsListening e := by
    intro e he
    have hne : x.queues.length ≠ e.queue := Nat.ne_of_gt (h.onRoll.below e he).2
    rw [← h.onRoll.isListening_add_iff capacity he]
    unfold IsListening dropReader
    rw [queue?_modifyQueue, if_neg hne]
  refine ⟨hroll.modifyQueue _ _, h.handles.trans (List.sublist_append_left _ _), h.others.append (.refl _),
    fun e he => (hsame e (h.handles.subset he)).2 (h.listening e he), fun e he => ?_, fun _ e => ?_, fun hclosed => ?_⟩
  · rcases List.mem_append.1 he with he | he
    · exact mt (hsame e (h.others.subset he)).1 (h.silent e he)
    · obtain rfl := List.mem_singleton.1 he
      rintro ⟨q, hq, hreader⟩
      have hq : ((x.add capacity).2.modifyQueue x.queues.length Queue.drop).queue? x.queues.length = some q := hq
      rw [queue?_modifyQueue, if_pos rfl] at hq
      obtain ⟨q', -, rfl⟩ := Option.map_eq_some_iff.1 hq
      cases hreader
  · show e ∈ (x.add capacity).2.entries ↔ _
    rw [add_of_open hopen]
    simp only [List.mem_append, List.mem_singleton, h.registered hopen e, or_assoc]
  · have hclosed : (x.add capacity).2.isOpen = false := hclosed
    rw [add_of_open hopen] at hclosed
    exact absurd (hopen.symm.trans hclosed) nofun

/-! ### Readers. -/

/-- Items are put into a queue or taken from it, and its reader is as it was. -/
theorem Presence.modifyQueue (h : x.Presence roll here strays) (p : Nat) {f : Queue α → Queue α}
    (hf : ∀ q, x.queue? p = some q → (f q).reader = q.reader) :
    (x.modifyQueue p f).Presence roll here strays := by
  have hsame : ∀ e, (x.modifyQueue p f).IsListening e ↔ x.IsListening e := by
    intro e
    refine ⟨isListening_of_modifyQueue fun q hq hreader => (hf q hq).symm.trans hreader, ?_⟩
    rintro ⟨q, hq, hreader⟩
    unfold IsListening
    rw [queue?_modifyQueue]
    by_cases hp : p = e.queue
    · rw [if_pos hp, hq]
      exact ⟨f q, rfl, (hf q (hp ▸ hq)).trans hreader⟩
    · rw [if_neg hp]
      exact ⟨q, hq, hreader⟩
  exact ⟨h.onRoll.modifyQueue p f, h.handles, h.others, fun e he => (hsame e).2 (h.listening e he),
    fun e he => mt (hsame e).1 (h.silent e he), h.registered, h.closed⟩

/-- A reader takes an item, or finds none. -/
theorem Presence.receive (h : x.Presence roll here strays) (p : Nat) : (x.receive p).2.Presence roll here strays := by
  rcases x.receive_cases p with ⟨a, x', hreceive⟩ | ⟨found, hreceive, -⟩
  · obtain ⟨q, rest, hq, -, -, rfl⟩ := of_receive_eq_item hreceive
    rw [hreceive]
    refine h.modifyQueue p fun q' hq' => ?_
    obtain rfl := Option.some.inj (hq.symm.trans hq')
    rfl
  · rw [hreceive]
    exact h

/-! ### Going. -/

/-- Who goes is struck off by its id, and nobody else is. -/
theorem Roll.mem_remove_iff (h : x.Roll roll) (he : e ∈ roll) (e' : Entry) :
    e' ∈ (x.remove e.id).2.entries ↔ e' ∈ x.entries ∧ e' ≠ e := by
  show e' ∈ x.entries.filter (·.id != e.id) ↔ _
  rw [List.mem_filter, bne_iff_ne]
  refine and_congr_right fun he' => not_congr ⟨fun hid => ?_, congrArg Entry.id⟩
  exact h.eq_of_id (h.entries.subset he') he hid

/-- Somebody who is no stray goes, with its handle. -/
theorem Presence.leave (h : x.Presence roll here strays) (he : e ∈ roll) (hstray : e ∉ strays) :
    ((x.remove e.id).2.dropReader e.queue).Presence roll (here.filter (· ≠ e)) strays := by
  have hroll : (x.remove e.id).2.Roll roll :=
    h.onRoll.mono (Nat.le_refl _) (Nat.le_refl _) List.filter_sublist
  refine ⟨hroll.modifyQueue _ _, List.filter_sublist.trans h.handles, h.others, fun e' he' => ?_, fun e' he' => ?_,
    fun hopen e' => ?_, fun hclosed => ?_⟩
  · obtain ⟨he', hne⟩ := List.mem_filter.1 he'
    obtain ⟨q, hq, hreader⟩ := h.listening e' he'
    have hqueue : e.queue ≠ e'.queue := fun heq =>
      of_decide_eq_true hne (h.onRoll.eq_of_queue he (h.handles.subset he') heq).symm
    refine ⟨q, ?_, hreader⟩
    show ((x.remove e.id).2.modifyQueue e.queue Queue.drop).queue? e'.queue = some q
    rw [queue?_modifyQueue, if_neg hqueue]
    exact hq
  · refine mt (isListening_of_modifyQueue (x := (x.remove e.id).2) (f := Queue.drop) fun q _ hreader => ?_)
      (h.silent e' he')
    cases hreader
  · refine (h.onRoll.mem_remove_iff he e').trans ?_
    rw [h.registered hopen e', List.mem_filter, decide_eq_true_iff]
    constructor
    · rintro ⟨hhere | hstray', hne⟩
      · exact .inl ⟨hhere, hne⟩
      · exact .inr hstray'
    · rintro (⟨hhere, hne⟩ | hstray')
      · exact ⟨.inl hhere, hne⟩
      · exact ⟨.inr hstray', fun heq => hstray (heq ▸ hstray')⟩
  · show x.entries.filter (·.id != e.id) = []
    rw [h.closed hclosed]
    rfl

/-- With some ids are struck off the strays that are not among `strays'`, and
nobody who has a handle. -/
theorem Presence.strike (h : x.Presence roll here strays) {failed : List Nat} {strays' : List Entry}
    (hhere : ∀ e ∈ here, e.id ∉ failed) (hsublist : strays'.Sublist strays)
    (hstrays : ∀ e ∈ strays, e.id ∈ failed ↔ e ∉ strays') :
    (x.removeAll failed).2.Presence roll here strays' where
  onRoll := h.onRoll.mono (Nat.le_refl _) (Nat.le_refl _) List.filter_sublist
  handles := h.handles
  others := hsublist.trans h.others
  listening := h.listening
  silent := fun e he => h.silent e (hsublist.subset he)
  registered := by
    intro hopen e
    show e ∈ x.entries.filter (fun e => !failed.contains e.id) ↔ _
    simp only [List.mem_filter, h.registered hopen e, Bool.not_eq_true', List.contains_eq_mem,
      decide_eq_false_iff_not]
    constructor
    · rintro ⟨he | he, hnot⟩
      · exact .inl he
      · exact .inr (not_not.1 (mt (hstrays e he).2 hnot))
    · rintro (he | he)
      · exact ⟨.inl he, hhere e he⟩
      · exact ⟨.inr (hsublist.subset he), fun hid => (hstrays e (hsublist.subset he)).1 hid he⟩
  closed := fun hclosed => by
    show x.entries.filter (fun e => !failed.contains e.id) = []
    rw [h.closed hclosed]
    rfl

/-- With the close everybody is struck off, and the handles stay where they are. -/
theorem Presence.close (h : x.Presence roll here strays) : x.close.2.Presence roll here [] where
  onRoll := h.onRoll.mono (Nat.le_refl _) (Nat.le_refl _) (List.nil_sublist _)
  handles := h.handles
  others := List.nil_sublist _
  listening := h.listening
  silent := nofun
  registered := nofun
  closed := fun _ => rfl

/-! ## §3. How many there are. -/

/-- Nobody is present twice, and no stray is present. -/
theorem Presence.nodup (h : x.Presence roll here strays) : (here ++ strays).Nodup := by
  refine List.nodup_append.2 ⟨h.onRoll.nodup.sublist h.handles, h.onRoll.nodup.sublist h.others, ?_⟩
  rintro e hhere _ hstray rfl
  exact h.silent e hstray (h.listening e hhere)

/-- **Registered are those who have a handle, and the strays.** -/
theorem Presence.perm (h : x.Presence roll here strays) (hopen : x.isOpen = true) :
    x.entries.Perm (here ++ strays) := by
  refine (List.perm_ext_iff_of_nodup (h.onRoll.nodup.sublist h.onRoll.entries) h.nodup).2 fun e => ?_
  rw [h.registered hopen, List.mem_append]

/-- Without strays, they are registered in the order in which they came. -/
theorem Presence.entries_eq (h : x.Presence roll here []) (hopen : x.isOpen = true) : x.entries = here := by
  have hperm := h.perm hopen
  rw [List.append_nil] at hperm
  exact hperm.eq_of_pairwise (fun e e' _ _ hlt hlt' => absurd hlt'.1 (Nat.lt_asymm hlt.1))
    (h.onRoll.ordered.sublist h.onRoll.entries) (h.onRoll.ordered.sublist h.handles)

theorem Presence.size_eq (h : x.Presence roll here strays) (hopen : x.isOpen = true) :
    x.size = here.length + strays.length := by
  unfold size
  rw [(h.perm hopen).length_eq, List.length_append]

/-- Whoever has a handle finds its own entry when it goes, and only that. -/
theorem Presence.remove_of_mem (h : x.Presence roll here strays) (hopen : x.isOpen = true) (he : e ∈ here) :
    (x.remove e.id).1 = true ∧ (x.remove e.id).2.ids = x.ids.erase e.id := by
  have hmem : e ∈ x.entries := (h.registered hopen e).2 (.inl he)
  have hids : (x.remove e.id).2.ids = x.ids.erase e.id := by
    unfold ids
    rw [h.onRoll.entries_ids_nodup.erase_eq_filter, List.filter_map]
    rfl
  refine ⟨bne_iff_ne.2 fun hsame => ?_, hids⟩
  have hlength := congrArg List.length hids
  unfold ids at hlength
  rw [List.length_map, List.length_erase_of_mem (List.mem_map_of_mem hmem), List.length_map] at hlength
  have hpos := List.length_pos_of_mem hmem
  have hsame : (x.remove e.id).2.entries.length = x.entries.length := hsame
  omega

/-- After the close there is nothing to strike off. -/
theorem Presence.remove_of_closed (h : x.Presence roll here strays) (hclosed : x.isOpen = false) (id : Nat) :
    x.remove id = (false, x) := by
  have hnone := h.closed hclosed
  unfold remove
  rw [hnone]
  show (false, { x with entries := [] }) = (false, x)
  rw [← hnone]

end

/-! ## §4. Those who hand out an item. -/

/-- Whoever has refused an item does not listen. -/
structure Fair (x : Exchange α) (noted : List Entry) (f : Flight α) : Prop where
  todo : ∀ e ∈ f.todo, e ∈ noted
  failed : ∀ id ∈ f.failed, ∃ e ∈ noted, e.id = id ∧ ¬ x.IsListening e

section

variable {x x' : Exchange α} {roll noted noted' here strays : List Entry} {f : Flight α}

theorem fair_launch (x : Exchange α) (a : α) : x.Fair x.entries (x.launch a) where
  todo := fun _ he => he
  failed := nofun

/-- Others come and go, and nobody listens again who had stopped. -/
theorem Fair.mono (h : x.Fair noted f) (hnoted : noted ⊆ noted')
    (hx : ∀ e ∈ noted, x'.IsListening e → x.IsListening e) : x'.Fair noted' f where
  todo := fun e he => hnoted (h.todo e he)
  failed := by
    intro id hid
    obtain ⟨e, he, heq, hsilent⟩ := h.failed id hid
    exact ⟨e, hnoted he, heq, mt (hx e he) hsilent⟩

/-- The item is offered to the next subscriber. -/
theorem Fair.offerNext (h : x.Fair noted f) {e : Entry} {es : List Entry} (htodo : f.todo = e :: es) :
    (Exchange.offerNext f x).2.Fair noted (Exchange.offerNext f x).1 := by
  have he : e ∈ noted := h.todo e (by rw [htodo]; exact List.mem_cons_self)
  rw [offerNext_eq htodo]
  refine ⟨fun e' he' => ?_, fun id hid => ?_⟩
  · rw [Flight.note_todo] at he'
    exact h.todo e' (by rw [htodo]; exact List.mem_cons_of_mem _ he')
  · rw [Flight.note_failed, List.mem_append] at hid
    rcases hid with hid | hid
    · obtain ⟨e', he', heq, hsilent⟩ := h.failed id hid
      exact ⟨e', he', heq, mt isListening_of_offer hsilent⟩
    · split at hid
      · rename_i hrefused
        obtain rfl := List.mem_singleton.1 hid
        exact ⟨e, he, rfl, mt isListening_of_offer ((x.verdictOf_eq_refused_iff e).1 hrefused)⟩
      · cases hid

/-- An item strikes off nobody who has a handle. -/
theorem Fair.spares (h : x.Fair noted f) (hx : x.Presence roll here strays) (hnoted : noted ⊆ roll) {e : Entry}
    (he : e ∈ here) : e.id ∉ f.failed := by
  intro hid
  obtain ⟨e', he', heq, hsilent⟩ := h.failed e.id hid
  obtain rfl := hx.onRoll.eq_of_id (hnoted he') (hx.handles.subset he) heq
  exact hsilent (hx.listening e' he)

end

end Exchange

end CallGateway
