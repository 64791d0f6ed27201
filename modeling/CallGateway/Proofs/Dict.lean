/-
  CallGateway.Proofs.Dict
  ───────────────────────
  **LOOKING UP NAMES.**

  In a list that holds each name at most once, what is found under a name
  does not depend on the order of the entries (`lookup_eq_some_iff`).  The
  entries of a `Dict` are such a list.  A value that is put in is found under
  its name, and nothing else changes (`get?_insert`).  Of several that are put
  in, the last one under a name counts (`get?_foldl_insert`), and sorted
  entries stay as they are (`ofList_entries`).
-/
import CallGateway.Dict
import Mathlib.Algebra.GroupWithZero.Nat

namespace CallGateway

namespace Entries

variable {α : Type}

/-- Sorted entries hold each name once. -/
theorem Sorted.nodup {es : List (String × α)} (h : Sorted es) : (es.map (·.1)).Nodup := by
  rw [List.nodup_iff_pairwise_ne, List.pairwise_map]
  refine List.Pairwise.imp (fun {a b} hlt heq => ?_) h
  rw [heq] at hlt
  exact String.lt_irrefl _ hlt

/-- Where each name is held once, what is found is what is there. -/
theorem lookup_eq_some_iff {κ : Type} [BEq κ] [LawfulBEq κ] {es : List (κ × α)} (h : (es.map (·.1)).Nodup)
    {k : κ} {v : α} : es.lookup k = some v ↔ (k, v) ∈ es := by
  induction es with
  | nil => simp
  | cons e es ih =>
    rw [List.map_cons, List.nodup_cons] at h
    obtain ⟨hnot, hes⟩ := h
    by_cases hk : k = e.1
    · subst hk
      have hlook : List.lookup e.1 (e :: es) = some e.2 := List.lookup_cons_self
      rw [hlook, List.mem_cons]
      constructor
      · intro hv
        exact .inl (by rw [← Option.some.inj hv])
      · intro hcase
        rcases hcase with heq | hmem
        · rw [← heq]
        · exact absurd (List.mem_map_of_mem (f := (·.1)) hmem) hnot
    · have hlook : List.lookup k (e :: es) = List.lookup k es := by
        rw [List.lookup_cons, beq_false_of_ne hk]
      rw [hlook, ih hes, List.mem_cons, or_iff_right]
      intro heq
      obtain rfl := heq
      exact hk rfl

/-- Nothing is found just where nothing is there. -/
theorem lookup_eq_none_iff {es : List (String × α)} {k : String} :
    es.lookup k = none ↔ ∀ v, (k, v) ∉ es := by
  rw [List.lookup_eq_none_iff]
  constructor
  · intro h v hmem
    simpa using h (k, v) hmem
  · intro h e hmem
    obtain ⟨k', v⟩ := e
    rw [bne_iff_ne]
    intro heq
    obtain rfl := heq
    exact h v hmem

/-- Putting in a value changes what is found under its name and under no
other. -/
theorem lookup_insert (es : List (String × α)) (k k' : String) (v : α) :
    (insert k v es).lookup k' = if k' = k then some v else es.lookup k' := by
  induction es with
  | nil =>
    unfold insert
    by_cases hk : k' = k
    · simp [hk]
    · simp [List.lookup_cons, beq_false_of_ne hk, hk]
  | cons e es ih =>
    unfold insert
    by_cases hlt : k < e.1
    · rw [if_pos hlt, List.lookup_cons]
      by_cases hk : k' = k
      · simp [hk]
      · simp [beq_false_of_ne hk, hk]
    · rw [if_neg hlt]
      by_cases heq : k = e.1
      · rw [if_pos heq, List.lookup_cons, List.lookup_cons, heq]
        by_cases hk : k' = e.1
        · simp [hk]
        · simp [beq_false_of_ne hk, hk]
      · rw [if_neg heq, List.lookup_cons, List.lookup_cons, ih]
        by_cases hk : k' = e.1
        · have hne : k' ≠ k := fun hkk => heq (hkk.symm.trans hk)
          subst hk
          simp [hne]
        · simp [beq_false_of_ne hk]

/-- A name before all others is not there. -/
theorem lookup_eq_none_of_lt {es : List (String × α)} {k : String} (h : ∀ e ∈ es, k < e.1) :
    es.lookup k = none := by
  refine lookup_eq_none_iff.2 fun v hv => ?_
  exact String.lt_irrefl k (h _ hv)

/-- A value that is put in takes the place of the one before it in the sum
of all values. -/
theorem sum_insert {es : List (String × Nat)} (h : Sorted es) (k : String) (v : Nat) :
    ((insert k v es).map (·.2)).sum + (es.lookup k).getD 0 = (es.map (·.2)).sum + v := by
  induction es with
  | nil => simp [insert]
  | cons e es ih =>
    obtain ⟨he, hes⟩ := List.pairwise_cons.1 h
    unfold insert
    by_cases hlt : k < e.1
    · have hnone : (e :: es).lookup k = none := by
        refine lookup_eq_none_of_lt fun e' he' => ?_
        rcases List.mem_cons.1 he' with rfl | he'
        · exact hlt
        · exact String.lt_trans hlt (he e' he')
      rw [if_pos hlt, hnone]
      simp [Nat.add_comm v]
    · rw [if_neg hlt]
      by_cases heq : k = e.1
      · rw [if_pos heq, List.lookup_cons, heq]
        simp
        omega
      · have hrest := ih hes
        rw [if_neg heq, List.lookup_cons, beq_false_of_ne heq]
        simp only [List.map_cons, List.sum_cons]
        omega

/-- A name after all others goes to the end. -/
theorem insert_of_lt {es : List (String × α)} {k : String} (h : ∀ e ∈ es, e.1 < k) (v : α) :
    insert k v es = es ++ [(k, v)] := by
  induction es with
  | nil => rfl
  | cons e es ih =>
    have he := h e List.mem_cons_self
    have hne : k ≠ e.1 := fun heq => String.lt_irrefl e.1 (heq ▸ he)
    rw [insert, if_neg (Std.not_lt.2 (Std.le_of_lt he)), if_neg hne,
      ih fun e' he' => h e' (List.mem_cons_of_mem e he')]
    rfl

/-- From behind, what is found is the last value that stands under a name. -/
theorem lookup_reverse_eq_some_iff {es : List (String × α)} {k : String} {v : α} :
    es.reverse.lookup k = some v ↔ ∃ front back, es = front ++ (k, v) :: back ∧ ∀ e ∈ back, e.1 ≠ k := by
  rw [List.lookup_eq_some_iff]
  constructor
  · rintro ⟨back, front, hes, hback⟩
    refine ⟨front.reverse, back.reverse, ?_, fun e he => ?_⟩
    · rw [← List.reverse_reverse es, hes]
      simp
    · exact Ne.symm (bne_iff_ne.1 (hback e (List.mem_reverse.1 he)))
  · rintro ⟨front, back, rfl, hback⟩
    refine ⟨back.reverse, front.reverse, by simp, fun e he => ?_⟩
    exact bne_iff_ne.2 (Ne.symm (hback e (List.mem_reverse.1 he)))

/-- In sorted entries a name comes after all that stand before it. -/
theorem Sorted.lt_of_append {es es' : List (String × α)} {e : String × α} (h : Sorted (es ++ e :: es')) :
    ∀ e' ∈ es, e'.1 < e.1 := by
  intro e' he'
  exact (List.pairwise_append.1 h).2.2 e' he' e List.mem_cons_self

end Entries

namespace Dict

variable {α : Type} {d : Dict α} {k : String} {v : α}

theorem get?_eq_some_iff : d.get? k = some v ↔ (k, v) ∈ d.entries :=
  Entries.lookup_eq_some_iff d.sorted.nodup

theorem get?_eq_none_iff : d.get? k = none ↔ ∀ v, (k, v) ∉ d.entries :=
  Entries.lookup_eq_none_iff

theorem get?_insert (d : Dict α) (k k' : String) (v : α) :
    (d.insert k v).get? k' = if k' = k then some v else d.get? k' :=
  Entries.lookup_insert d.entries k k' v

/-- Of values that are put in one after the other, the last one under a name
is found, or else what was there before. -/
theorem get?_foldl_insert (es : List (String × α)) (d : Dict α) (k : String) :
    (es.foldl (fun d e => d.insert e.1 e.2) d).get? k = (es.reverse.lookup k).or (d.get? k) := by
  induction es generalizing d with
  | nil => rfl
  | cons e es ih =>
    have hone : (d.insert e.1 e.2).get? k = ([e].lookup k).or (d.get? k) := by
      rw [get?_insert, List.lookup_cons]
      by_cases hk : k = e.1
      · rw [if_pos hk, hk, BEq.rfl, Option.some_or]
      · rw [if_neg hk, beq_false_of_ne hk]
        rfl
    rw [List.foldl_cons, ih, hone, List.reverse_cons, List.lookup_append, Option.or_assoc]

/-- The names are those under which something is found. -/
theorem mem_keys_iff : k ∈ d.keys ↔ (d.get? k).isSome = true := by
  rw [Option.isSome_iff_exists]
  simp only [get?_eq_some_iff]
  unfold keys
  constructor
  · intro h
    obtain ⟨e, he, rfl⟩ := List.mem_map.1 h
    exact ⟨e.2, he⟩
  · rintro ⟨v, hv⟩
    exact List.mem_map_of_mem (f := (·.1)) hv

/-- The names are listed in order, each of them once. -/
theorem pairwise_keys (d : Dict α) : d.keys.Pairwise (· < ·) :=
  List.pairwise_map.2 d.sorted

/-- In whatever order the entries are gone through, the same is found. -/
theorem lookup_perm {es : List (String × α)} (h : es.Perm d.entries) : es.lookup k = d.get? k := by
  have hnodup : (es.map (·.1)).Nodup := ((h.map (·.1)).nodup_iff).2 d.sorted.nodup
  cases hk : es.lookup k with
  | none =>
    refine (get?_eq_none_iff.2 fun v hv => ?_).symm
    exact Entries.lookup_eq_none_iff.1 hk v (h.mem_iff.2 hv)
  | some v =>
    rw [Entries.lookup_eq_some_iff hnodup, h.mem_iff] at hk
    exact (get?_eq_some_iff.2 hk).symm

theorem ext_entries {d d' : Dict α} (h : d.entries = d'.entries) : d = d' := by
  cases d
  cases d'
  cases h
  rfl

/-- Putting in sorted entries that come after all others appends them. -/
theorem entries_foldl_insert (es : List (String × α)) :
    ∀ d : Dict α, Entries.Sorted (d.entries ++ es) →
      (es.foldl (fun d e => d.insert e.1 e.2) d).entries = d.entries ++ es := by
  induction es with
  | nil =>
    intro d _
    rw [List.append_nil]
    rfl
  | cons e es ih =>
    intro d h
    have hinsert : (d.insert e.1 e.2).entries = d.entries ++ [e] := Entries.insert_of_lt h.lt_of_append e.2
    have hsorted : Entries.Sorted ((d.insert e.1 e.2).entries ++ es) := by
      rw [hinsert, List.append_assoc]
      exact h
    rw [List.foldl_cons, ih _ hsorted, hinsert, List.append_assoc]
    rfl

/-- A dictionary is collected from its entries. -/
theorem ofList_entries (d : Dict α) : ofList d.entries = d :=
  ext_entries (entries_foldl_insert d.entries empty d.sorted)

end Dict

end CallGateway
