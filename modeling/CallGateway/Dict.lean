/-
  CallGateway.Dict
  ────────────────
  **NAMED VALUES IN ORDER.**

  A `Dict` holds at most one value per name and lists its entries by name,
  so two dictionaries with the same contents are equal and are written the
  same way.  The order of names is that of their characters.
-/

namespace CallGateway

namespace Entries

/-- Put a value under a name into a list in order of names, in place of the
value it had. -/
def insert {α : Type} (k : String) (v : α) : List (String × α) → List (String × α)
  | [] => [(k, v)]
  | e :: es => if k < e.1 then (k, v) :: e :: es
    else if k = e.1 then (k, v) :: es
    else e :: insert k v es

/-- The entries in order of names, without repeats. -/
def Sorted {α : Type} (es : List (String × α)) : Prop := es.Pairwise fun a b => a.1 < b.1

theorem mem_insert {α : Type} {k : String} {v : α} {es : List (String × α)} {e : String × α}
    (h : e ∈ insert k v es) : e = (k, v) ∨ e ∈ es := by
  induction es with
  | nil => simpa [insert] using h
  | cons a es ih =>
    unfold insert at h
    split at h
    · simpa using h
    · split at h
      · rcases List.mem_cons.1 h with h | h
        · exact .inl h
        · exact .inr (List.mem_cons_of_mem _ h)
      · rcases List.mem_cons.1 h with h | h
        · exact .inr (h ▸ List.mem_cons_self)
        · exact (ih h).imp id (List.mem_cons_of_mem _)

/-- Insertion keeps the order. -/
theorem sorted_insert {α : Type} {k : String} {v : α} {es : List (String × α)}
    (h : Sorted es) : Sorted (insert k v es) := by
  induction es with
  | nil => simp [insert, Sorted]
  | cons e es ih =>
    have ⟨he, hes⟩ := List.pairwise_cons.1 h
    unfold insert
    split
    · rename_i hlt
      refine List.pairwise_cons.2 ⟨fun a ha => ?_, h⟩
      rcases List.mem_cons.1 ha with rfl | ha
      · exact hlt
      · exact String.lt_trans hlt (he a ha)
    · rename_i hlt
      split
      · rename_i heq
        exact List.pairwise_cons.2 ⟨fun a ha => heq ▸ he a ha, hes⟩
      · rename_i hne
        refine List.pairwise_cons.2 ⟨fun a ha => ?_, ih hes⟩
        rcases mem_insert ha with rfl | ha
        · exact Std.lt_of_le_of_ne (Std.not_lt.1 hlt) (Ne.symm hne)
        · exact he a ha

end Entries

/-- Values under names, one per name, listed in order of names. -/
structure Dict (α : Type) where
  -- The entries in order.
  entries : List (String × α) := []
  sorted : Entries.Sorted entries := by exact List.Pairwise.nil
  deriving DecidableEq

namespace Dict

variable {α β : Type}

instance : Inhabited (Dict α) := ⟨{}⟩

/-- No entries. -/
def empty : Dict α := {}

/-- Put a value under a name, in place of the value it had. -/
def insert (d : Dict α) (k : String) (v : α) : Dict α :=
  ⟨Entries.insert k v d.entries, Entries.sorted_insert d.sorted⟩

/-- The value under a name. -/
def get? (d : Dict α) (k : String) : Option α := d.entries.lookup k

/-- Collect entries; the last one under a name counts. -/
def ofList (es : List (String × α)) : Dict α :=
  es.foldl (fun d e => d.insert e.1 e.2) empty

/-- The names in order. -/
def keys (d : Dict α) : List String := d.entries.map (·.1)

/-- Apply a function to every value. -/
def map (f : α → β) (d : Dict α) : Dict β :=
  ⟨d.entries.map fun e => (e.1, f e.2), by
    unfold Entries.Sorted
    rw [List.pairwise_map]
    exact d.sorted⟩

end Dict

end CallGateway
