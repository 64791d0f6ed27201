/-
  CallGateway.Proofs.Outcome
  ──────────────────────────
  **WHEN SEVERAL OPERATIONS SUCCEED.**

  Two operations in a row succeed just where both do, and an operation on
  every item of a list just where it succeeds on each of them.  What fails
  fails as one of its parts does.
-/
import CallGateway.Failure

namespace CallGateway

namespace Outcome

variable {ε α β : Type}

/-- Two operations in a row. -/
theorem bind_eq_ok_iff {x : Except ε α} {f : α → Except ε β} {b : β} :
    (x >>= f) = .ok b ↔ ∃ a, x = .ok a ∧ f a = .ok b := by
  cases x with
  | error e =>
    constructor
    · intro h
      cases h
    · intro hall
      obtain ⟨a, h, -⟩ := hall
      cases h
  | ok a =>
    constructor
    · intro h
      exact ⟨a, rfl, h⟩
    · intro hall
      obtain ⟨a', h, hf⟩ := hall
      cases h
      exact hf

/-- Two operations in a row fail as the first does, or else as the second. -/
theorem bind_eq_error_iff {x : Except ε α} {f : α → Except ε β} {e : ε} :
    (x >>= f) = .error e ↔ x = .error e ∨ ∃ a, x = .ok a ∧ f a = .error e := by
  cases x with
  | error e' =>
    refine ⟨fun h => ?_, fun hall => ?_⟩
    · cases h
      exact .inl rfl
    · obtain h | ⟨a, h, -⟩ := hall
      · cases h
        rfl
      · cases h
  | ok a =>
    refine ⟨fun h => .inr ⟨a, rfl, h⟩, fun hall => ?_⟩
    obtain h | ⟨a', h, hf⟩ := hall
    · cases h
    · cases h
      exact hf

/-- What an operation on every item yields, item by item. -/
theorem mapM_eq_ok_iff {f : α → Except ε β} {xs : List α} {ys : List β} :
    xs.mapM f = .ok ys ↔ xs.map f = ys.map .ok := by
  induction xs generalizing ys with
  | nil =>
    rw [List.mapM_nil, List.map_nil]
    constructor
    · intro h
      cases h
      rfl
    · intro h
      rw [List.map_eq_nil_iff.1 h.symm]
      rfl
  | cons x xs ih =>
    rw [List.mapM_cons, List.map_cons, bind_eq_ok_iff]
    constructor
    · intro hall
      obtain ⟨y, hy, h⟩ := hall
      obtain ⟨ys', hys, h⟩ := bind_eq_ok_iff.1 h
      cases h
      rw [hy, ih.1 hys, List.map_cons]
    · intro h
      cases ys with
      | nil => cases h
      | cons y ys =>
        obtain ⟨hy, hys⟩ := List.cons.inj h
        exact ⟨y, hy, bind_eq_ok_iff.2 ⟨ys, ih.2 hys, rfl⟩⟩

/-- An operation succeeds on a whole list if it does on every item. -/
theorem exists_mapM_eq_ok_iff {f : α → Except ε β} {xs : List α} :
    (∃ ys, xs.mapM f = .ok ys) ↔ ∀ x ∈ xs, ∃ y, f x = .ok y := by
  simp only [mapM_eq_ok_iff]
  induction xs with
  | nil => simp
  | cons x xs ih =>
    rw [List.forall_mem_cons, ← ih]
    constructor
    · intro hall
      obtain ⟨ys, h⟩ := hall
      cases ys with
      | nil => cases h
      | cons y ys =>
        obtain ⟨hy, hys⟩ := List.cons.inj h
        exact ⟨⟨y, hy⟩, ys, hys⟩
    · intro hall
      obtain ⟨⟨y, hy⟩, ys, hys⟩ := hall
      exact ⟨y :: ys, by rw [List.map_cons, List.map_cons, hy, hys]⟩

/-- Where an operation fails on a list, it fails so on one of the items. -/
theorem exists_of_mapM_eq_error {f : α → Except ε β} {xs : List α} {e : ε} (h : xs.mapM f = .error e) :
    ∃ x ∈ xs, f x = .error e := by
  induction xs with
  | nil => cases h
  | cons x xs ih =>
    rw [List.mapM_cons, bind_eq_error_iff] at h
    obtain hx | ⟨y, -, h⟩ := h
    · exact ⟨x, List.mem_cons_self, hx⟩
    · obtain hxs | ⟨ys, -, h⟩ := bind_eq_error_iff.1 h
      · obtain ⟨x', hmem, hx'⟩ := ih hxs
        exact ⟨x', List.mem_cons_of_mem x hmem, hx'⟩
      · cases h

end Outcome

end CallGateway
