/-
  CallGateway.Proofs.StatsFeed.Tally
  ──────────────────────────────────
  **WHAT THE COUNTS SAY.**

  `Counts` says which names a table of counts has counted: under every name
  stands how often it came.  One more name keeps this up (`Counts.bump`), and
  so every record counts once under its method and once under its consumer
  (`Tallies.foldl`).
-/
import CallGateway.Proofs.Dict
import CallGateway.StatsFeed.Snapshot
import Mathlib.Data.List.Forall2

namespace CallGateway

namespace Snapshot

/-! ## §1. Counting names. -/

/-- How often a name was counted. -/
def countOf (d : Dict Nat) (name : String) : Nat := (d.get? name).getD 0

/-- How often any name was counted. -/
def total (d : Dict Nat) : Nat := (d.entries.map (·.2)).sum

/-- The names that were counted are these. -/
structure Counts (d : Dict Nat) (names : List String) : Prop where
  countOf_eq : ∀ name, countOf d name = names.count name
  total_eq : total d = names.length
  -- No name stands there that was not counted.
  positive : ∀ e ∈ d.entries, 1 ≤ e.2

theorem counts_empty : Counts .empty [] where
  countOf_eq := fun _ => rfl
  total_eq := rfl
  positive := by simp [Dict.empty]

theorem countOf_bump (d : Dict Nat) (name name' : String) :
    countOf (bump d name) name' = countOf d name' + if name = name' then 1 else 0 := by
  unfold countOf bump
  rw [Dict.get?_insert]
  by_cases h : name' = name
  · simp [h]
  · simp [h, Ne.symm h]

theorem total_bump (d : Dict Nat) (name : String) : total (bump d name) = total d + 1 := by
  have hsum := Entries.sum_insert d.sorted name (countOf d name + 1)
  show ((Entries.insert name (countOf d name + 1) d.entries).map (·.2)).sum = total d + 1
  unfold total
  unfold countOf Dict.get? at hsum ⊢
  omega

/-- One more name. -/
theorem Counts.bump {d : Dict Nat} {names : List String} (h : Counts d names) (name : String) :
    Counts (bump d name) (names ++ [name]) where
  countOf_eq := by
    intro name'
    rw [countOf_bump, h.countOf_eq, List.count_append, List.count_singleton]
    simp
  total_eq := by
    rw [total_bump, h.total_eq, List.length_append]
    rfl
  positive := by
    intro e he
    rcases Entries.mem_insert he with rfl | he
    · exact Nat.le_add_left 1 _
    · exact h.positive e he

/-- How often a name was counted is how many records bear it. -/
theorem Counts.countOf_eq_countP {d : Dict Nat} {rs : List CallRecord} {nameOf : CallRecord → String}
    (h : Counts d (rs.map nameOf)) (name : String) : countOf d name = rs.countP (nameOf · = name) := by
  rw [h.countOf_eq, List.count_eq_countP, List.countP_map]
  rfl

/-- Several tables together have counted all their records. -/
theorem sum_countOf {table : Snapshot → Dict Nat} {nameOf : CallRecord → String} {ss : List Snapshot}
    {periods : List (List CallRecord)}
    (h : List.Forall₂ (fun s rs => Counts (table s) (rs.map nameOf)) ss periods) (name : String) :
    (ss.map fun s => countOf (table s) name).sum = periods.flatten.countP (nameOf · = name) := by
  induction h with
  | nil => rfl
  | cons hhead _ ih =>
    rw [List.map_cons, List.sum_cons, List.flatten_cons, List.countP_append, ih, hhead.countOf_eq_countP]

/-! ## §2. Counting records. -/

/-- The records that were counted are these. -/
structure Tallies (s : Snapshot) (rs : List CallRecord) : Prop where
  methods : Counts s.byMethod (rs.map (·.method))
  consumers : Counts s.byConsumer (rs.map (·.consumer))

theorem tallies_empty : ({} : Snapshot).Tallies [] := ⟨counts_empty, counts_empty⟩

theorem Tallies.count {s : Snapshot} {rs : List CallRecord} (h : s.Tallies rs) (r : CallRecord) :
    (s.count r).Tallies (rs ++ [r]) where
  methods := by
    rw [List.map_append]
    exact h.methods.bump r.method
  consumers := by
    rw [List.map_append]
    exact h.consumers.bump r.consumer

/-- **Every record counts once.** -/
theorem Tallies.foldl {s : Snapshot} {rs : List CallRecord} (h : s.Tallies rs) (rs' : List CallRecord) :
    (rs'.foldl Snapshot.count s).Tallies (rs ++ rs') := by
  induction rs' generalizing s rs with
  | nil => rwa [List.append_nil]
  | cons r rs' ih =>
    have hrest := ih (h.count r)
    rwa [List.append_assoc] at hrest

/-- To a table, every record adds one under the name it has there. -/
theorem countOf_foldl {table : Snapshot → Dict Nat} {nameOf : CallRecord → String}
    (h : ∀ s r, table (Snapshot.count s r) = Snapshot.bump (table s) (nameOf r)) (rs : List CallRecord) (s : Snapshot)
    (name : String) :
    countOf (table (rs.foldl Snapshot.count s)) name = countOf (table s) name + rs.countP (nameOf · = name) := by
  induction rs generalizing s with
  | nil => rfl
  | cons r rs ih =>
    rw [List.foldl_cons, ih, h, countOf_bump, List.countP_cons]
    simp only [decide_eq_true_iff]
    omega

/-- As many were counted by method as by consumer. -/
theorem Tallies.total_eq {s : Snapshot} {rs : List CallRecord} (h : s.Tallies rs) :
    total s.byMethod = total s.byConsumer := by
  rw [h.methods.total_eq, h.consumers.total_eq, List.length_map, List.length_map]

end Snapshot

end CallGateway
