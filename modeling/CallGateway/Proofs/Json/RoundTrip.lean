/-
  CallGateway.Proofs.Json.RoundTrip
  ─────────────────────────────────
  **VALUES ARE READ AS THEY ARE WRITTEN.**

  The induction is on the value, with its items and its members next to it:
  each part has a form under which its text is read, and that form stands for
  the part (`exists_reads`).  Doubles are left out; a canonical value without
  them is read back from its text as long as it is not nested too deeply
  (`read?_render`).
-/
import CallGateway.Proofs.Dict
import CallGateway.Proofs.Json.Reads

namespace CallGateway.Json

open Surface

namespace Value

/-! ## §1. Values without doubles. -/

mutual

/-- No number inside is a double. -/
def FloatFree : Value → Prop
  | number (.double _) => False
  | array items => FloatFreeItems items
  | object members => FloatFreeMembers members
  | _ => True

/-- No number in some values is a double. -/
def FloatFreeItems : List Value → Prop
  | [] => True
  | v :: vs => v.FloatFree ∧ FloatFreeItems vs

/-- No number in the values of some members is a double. -/
def FloatFreeMembers : List (String × Value) → Prop
  | [] => True
  | (_, v) :: ms => v.FloatFree ∧ FloatFreeMembers ms

end

/-! ## §2. From a value to its text and back. -/

mutual

/-- The text of a value is read, and stands for the value. -/
theorem exists_reads : (v : Value) → v.FloatFree → v.Canonical →
    ∃ s, Reads v.render s v.depth ∧ value? s = some v
  | null, _, _ => ⟨.null, reads_null, by rw [value?]⟩
  | bool b, _, _ => ⟨.bool b, reads_bool b, by rw [value?]⟩
  | number (.integer n), _, _ => by
    refine ⟨.number (Literal.ofInt n.val), reads_int n.val, ?_⟩
    rw [value?, ofLiteral?_ofInt]
    rfl
  | number (.double _), hfloat, _ => False.elim hfloat
  | string s, _, _ => by
    refine ⟨.string (escape (Bytes.ofText s)), reads_string s, ?_⟩
    rw [value?, contentText?_escape]
    rfl
  | array vs, hfloat, hcanonical => by
    obtain ⟨items, hrender, hreads, hvalues⟩ := exists_readsItems vs hfloat hcanonical
    refine ⟨.array (items.map (·.2)), ?_, ?_⟩
    · rw [render, depth, ← hrender]
      exact reads_array hreads
    · rw [value?, hvalues]
      rfl
  | object ms, hfloat, hcanonical => by
    obtain ⟨members, hrender, hreads, hvalues⟩ := exists_readsMembers ms hfloat hcanonical.2
    refine ⟨.object (members.map fun m => (escape (Bytes.ofText m.1), m.2.2)), ?_, ?_⟩
    · rw [render, depth, ← hrender]
      exact reads_object members hreads
    · rw [value?, hvalues [] hcanonical.1]
      rfl

/-- The texts of items are read, and stand for the items. -/
theorem exists_readsItems : (vs : List Value) → FloatFreeItems vs → CanonicalItems vs →
    ∃ items : List (Bytes × Surface), items.map (·.1) = renderItems vs
      ∧ (∀ x ∈ items, Reads x.1 x.2 (depthItems vs))
      ∧ ∀ acc, valueItems? acc (items.map (·.2)) = some (acc.reverse ++ vs)
  | [], _, _ => ⟨[], rfl, by simp, fun acc => by simp [valueItems?]⟩
  | v :: vs, hfloat, hcanonical => by
    obtain ⟨s, hread, hvalue⟩ := exists_reads v hfloat.1 hcanonical.1
    obtain ⟨items, hrender, hreads, hvalues⟩ := exists_readsItems vs hfloat.2 hcanonical.2
    refine ⟨(v.render, s) :: items, ?_, ?_, ?_⟩
    · rw [List.map_cons, hrender, renderItems]
    · intro x hx
      rw [depthItems]
      rcases List.mem_cons.1 hx with rfl | hx
      · exact hread.mono (Nat.le_max_left _ _)
      · exact (hreads x hx).mono (Nat.le_max_right _ _)
    · intro acc
      rw [List.map_cons, valueItems?, hvalue]
      simp [hvalues]

/-- The texts of members are read, and stand for the members in their
order. -/
theorem exists_readsMembers : (ms : List (String × Value)) → FloatFreeMembers ms → CanonicalMembers ms →
    ∃ members : List (String × Bytes × Surface), (members.map fun m => (m.1, m.2.1)) = renderMembers ms
      ∧ (∀ m ∈ members, Reads m.2.1 m.2.2 (depthMembers ms))
      ∧ ∀ acc, Entries.Sorted (acc ++ ms) →
          valueMembers? acc (members.map fun m => (escape (Bytes.ofText m.1), m.2.2)) = some (acc ++ ms)
  | [], _, _ => ⟨[], rfl, by simp, fun acc _ => by simp [valueMembers?]⟩
  | (k, v) :: ms, hfloat, hcanonical => by
    obtain ⟨s, hread, hvalue⟩ := exists_reads v hfloat.1 hcanonical.1
    obtain ⟨members, hrender, hreads, hvalues⟩ := exists_readsMembers ms hfloat.2 hcanonical.2
    refine ⟨(k, v.render, s) :: members, ?_, ?_, ?_⟩
    · rw [List.map_cons, hrender, renderMembers]
    · intro m hm
      rw [depthMembers]
      rcases List.mem_cons.1 hm with rfl | hm
      · exact hread.mono (Nat.le_max_left _ _)
      · exact (hreads m hm).mono (Nat.le_max_right _ _)
    · intro acc hsorted
      have hinsert : Entries.insert k v acc = acc ++ [(k, v)] :=
        Entries.insert_of_lt hsorted.lt_of_append v
      rw [List.map_cons, valueMembers?, contentText?_escape]
      simp only [hvalue, hinsert]
      rw [hvalues (acc ++ [(k, v)]) (by simpa using hsorted)]
      simp

end

/-- **Values are read as they are written.** -/
theorem read?_render {v : Value} (hfloat : v.FloatFree) (hcanonical : v.Canonical)
    (hdepth : v.depth ≤ nestingLimit) : read? v.render = some v := by
  obtain ⟨s, hreads, hvalue⟩ := exists_reads v hfloat hcanonical
  rw [read?, hreads.read? hdepth]
  exact hvalue

end Value

end CallGateway.Json
