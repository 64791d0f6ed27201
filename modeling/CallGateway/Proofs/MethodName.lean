/-
  CallGateway.Proofs.MethodName
  ─────────────────────────────
  **WHICH TEXTS NAME A METHOD.**

  A text is cut at its first slash (`splitSlash?_eq_some_iff`), so it is read
  as a name just where it is the full text of one (`parse_eq_ok_iff`), and
  the full text of a name determines its two segments (`full_inj`).
-/
import CallGateway.MethodName

namespace CallGateway

/-- A text is cut at its first slash. -/
theorem splitSlash?_eq_some_iff {cs a b : List Char} :
    splitSlash? cs = some (a, b) ↔ cs = a ++ '/' :: b ∧ '/' ∉ a := by
  induction cs generalizing a with
  | nil => simp [splitSlash?]
  | cons c cs ih =>
    unfold splitSlash?
    by_cases hc : c = '/'
    · subst hc
      rw [if_pos rfl]
      constructor
      · intro h
        cases h
        simp
      · intro hall
        obtain ⟨h, ha⟩ := hall
        cases a with
        | nil => simpa using h
        | cons d a =>
          obtain ⟨rfl, -⟩ := List.cons.inj h
          exact absurd List.mem_cons_self ha
    · rw [if_neg hc, Option.map_eq_some_iff]
      constructor
      · intro hall
        obtain ⟨⟨s, rest⟩, hs, h⟩ := hall
        cases h
        obtain ⟨rfl, hslash⟩ := ih.1 hs
        refine ⟨rfl, ?_⟩
        rw [List.mem_cons, not_or]
        exact ⟨Ne.symm hc, hslash⟩
      · intro hall
        obtain ⟨h, ha⟩ := hall
        cases a with
        | nil => exact absurd (List.cons.inj h).1 hc
        | cons d a =>
          obtain ⟨rfl, rfl⟩ := List.cons.inj h
          exact ⟨(a, b), ih.2 ⟨rfl, fun hmem => ha (List.mem_cons_of_mem _ hmem)⟩, rfl⟩

/-- Cutting gives back what was put together. -/
theorem splitSlash?_append {a b : List Char} (ha : '/' ∉ a) :
    splitSlash? (a ++ '/' :: b) = some (a, b) :=
  splitSlash?_eq_some_iff.2 ⟨rfl, ha⟩

theorem IsSegment.toList_ne_nil {s : String} (h : IsSegment s) : s.toList ≠ [] :=
  fun hnil => h.1 (String.toList_eq_nil_iff.1 hnil)

namespace MethodName

theorem toList_full (n : MethodName) :
    n.full.toList = '/' :: (n.service.toList ++ '/' :: n.method.toList) := by
  simp [full]

/-- The full text of a name is found to be that name. -/
theorem find_full (n : MethodName) : find n.full = .ok n := by
  unfold find
  split
  · rename_i rest hrest
    rw [toList_full] at hrest
    obtain ⟨-, rfl⟩ := List.cons.inj hrest
    split
    · rename_i s m hs
      rw [splitSlash?_append n.service_segment.2] at hs
      cases hs
      rw [dif_pos ⟨n.service_segment.toList_ne_nil, n.method_segment.toList_ne_nil,
        n.method_segment.2⟩]
      congr 1
      cases n
      simp
    · rename_i hs
      rw [splitSlash?_append n.service_segment.2] at hs
      cases hs
  · rename_i hne
    exact absurd (toList_full n) (hne _)

/-- What is found in a text has that text as its full one. -/
theorem full_of_find {text : String} {n : MethodName} (h : find text = .ok n) : n.full = text := by
  unfold find at h
  split at h
  · rename_i rest hrest
    split at h
    · rename_i s m hs
      split at h
      · cases h
        rw [← String.toList_inj, toList_full, hrest]
        obtain ⟨rfl, -⟩ := splitSlash?_eq_some_iff.1 hs
        simp
      · cases h
    · cases h
  · cases h

/-- **A text is read as a name just where it is the full text of it.** -/
theorem parse_eq_ok_iff {text : String} {n : MethodName} : parse text = .ok n ↔ text = n.full := by
  constructor
  · intro h
    unfold parse at h
    cases hf : find text with
    | error e =>
      rw [hf] at h
      cases h
    | ok n' =>
      rw [hf] at h
      cases h
      exact (full_of_find hf).symm
  · intro heq
    obtain rfl := heq
    rw [parse, find_full]
    rfl

/-- A name is determined by its full text. -/
theorem full_inj {n n' : MethodName} (h : n.full = n'.full) : n = n' := by
  have hn := find_full n
  rw [h, find_full] at hn
  cases hn
  rfl

end MethodName

end CallGateway
