/-
  CallGateway.Proofs.Policy.Segment
  ─────────────────────────────────
  **WILDCARDS OVER CHARACTERS.**

  The matcher works on bytes, while a pattern is meant in characters.  The
  two readings agree (`Wildcard.encode_iff`): a star that ends within a
  character can be followed only by another star, and that one may as well
  begin where the character does.  Whichever of its three forms a segment is
  compiled to, it therefore takes the texts that its wildcards describe
  (`Segment.accepts_compile`).
-/
import CallGateway.Policy.Pattern
import CallGateway.Proofs.Policy.Wildcard
import CallGateway.Proofs.Text.Utf8

namespace CallGateway

open Utf8 (encode Inner)

namespace Wildcard

/-! ## §1. From bytes to characters. -/

theorem star_not_mem_encodeChar {c : Char} (hc : c ≠ '*') :
    Ascii.star ∉ String.utf8EncodeChar c := by
  intro h
  have hmem : Ascii.star ∈ encode [c] := by simpa [encode] using h
  have hstar := (Utf8.code_mem_encode (c := '*') (by decide)).1 hmem
  exact hc (List.mem_singleton.1 hstar).symm

theorem encode_star_cons (pattern : List Char) :
    encode ('*' :: pattern) = Ascii.star :: encode pattern := by
  rw [Utf8.encode_cons, Utf8.encodeChar_of_lt (by decide)]
  rfl

/-- Bytes that begin no character are no literal start of a text. -/
theorem eq_nil_of_inner {tail x y : Bytes} {c : Char} (ht : Inner tail)
    (h : tail ++ x = String.utf8EncodeChar c ++ y) : tail = [] := by
  cases tail with
  | nil => rfl
  | cons b tail =>
    obtain ⟨b', bs, hc, hfirst⟩ := Utf8.encodeChar_eq_cons c
    rw [hc, List.cons_append, List.cons_append] at h
    obtain ⟨rfl, -⟩ := List.cons.inj h
    exact absurd hfirst (ht b List.mem_cons_self)

/-- What the bytes of a pattern describe, read in characters.  The bytes of
the text may begin with the end of some character; then the pattern begins
with a star, which can take all of that character. -/
theorem of_encode {pattern text : List Char} {tail : Bytes} (ht : Inner tail)
    (h : Wildcard Ascii.star (encode pattern) (tail ++ encode text)) :
    (tail = [] → Wildcard '*' pattern text) ∧ (tail ≠ [] → ∀ c, Wildcard '*' pattern (c :: text)) := by
  induction pattern generalizing tail text with
  | nil =>
    rw [Utf8.encode_nil, nil_iff, List.append_eq_nil_iff] at h
    obtain ⟨rfl, h⟩ := h
    cases text with
    | nil => exact ⟨fun _ => .done, fun hne => absurd rfl hne⟩
    | cons c text =>
      rw [Utf8.encode_cons, List.append_eq_nil_iff] at h
      exact absurd h.1 String.utf8EncodeChar_ne_nil
  | cons c pattern ih =>
    by_cases hc : c = '*'
    · subst hc
      rw [encode_star_cons, star_iff] at h
      obtain ⟨rest, ⟨taken, hcut⟩, h⟩ := h
      rcases List.append_eq_append_iff.1 hcut with ⟨tail', rfl, rfl⟩ | ⟨front, rfl, htext⟩
      · -- the star ends within what comes before the text
        have hin : Inner tail' := fun b hb => ht b (List.mem_append_right _ hb)
        have ⟨hnil, hcons⟩ := ih hin h
        constructor
        · intro htail
          obtain ⟨-, htail⟩ := List.append_eq_nil_iff.1 htail
          exact star_iff.2 ⟨text, List.suffix_rfl, hnil htail⟩
        · intro _ c
          by_cases htail : tail' = []
          · exact star_iff.2 ⟨text, List.suffix_cons _ _, hnil htail⟩
          · exact star_iff.2 ⟨c :: text, List.suffix_rfl, hcons htail c⟩
      · -- the star ends within the text
        have hlast : ∃ last, last <:+ text ∧ Wildcard '*' pattern last := by
          rcases Utf8.encode_cut htext with ⟨as, bs, rfl, rfl⟩ | ⟨as, d, bs, tail', rfl, rfl, hne, hin⟩
          · exact ⟨bs, List.suffix_append _ _, (ih Utf8.inner_nil h).1 rfl⟩
          · exact ⟨d :: bs, List.suffix_append _ _, (ih hin h).2 hne d⟩
        obtain ⟨last, hlast, hw⟩ := hlast
        exact ⟨fun _ => star_iff.2 ⟨last, hlast, hw⟩,
          fun _ c => star_iff.2 ⟨last, hlast.trans (List.suffix_cons _ _), hw⟩⟩
    · rw [Utf8.encode_cons, append_iff (star_not_mem_encodeChar hc)] at h
      obtain ⟨rest, heq, h⟩ := h
      obtain rfl := eq_nil_of_inner ht heq
      refine ⟨fun _ => ?_, fun hne => absurd rfl hne⟩
      cases text with
      | nil => exact absurd heq.symm (by simp)
      | cons d text =>
        obtain ⟨rfl, rfl⟩ := Utf8.encodeChar_append_inj heq
        exact .same hc ((ih Utf8.inner_nil h).1 rfl)

/-- What a pattern describes in characters, its bytes describe in bytes. -/
theorem to_encode {pattern text : List Char} (h : Wildcard '*' pattern text) :
    Wildcard Ascii.star (encode pattern) (encode text) := by
  induction h with
  | done => exact .done
  | run skipped _ ih =>
    rw [encode_star_cons, Utf8.encode_append]
    exact .run (encode skipped) ih
  | @same c pattern text hc _ ih =>
    rw [Utf8.encode_cons, Utf8.encode_cons]
    exact (append_iff (star_not_mem_encodeChar hc)).2 ⟨encode text, rfl, ih⟩

/-- **Bytes and characters agree** on what a pattern describes. -/
theorem encode_iff {pattern text : List Char} :
    Wildcard Ascii.star (encode pattern) (encode text) ↔ Wildcard '*' pattern text :=
  ⟨fun h => (of_encode Utf8.inner_nil h).1 rfl, to_encode⟩

end Wildcard

/-! ## §2. Segments. -/

/-- **A compiled segment takes what its text describes**, in each of its
three forms. -/
theorem Segment.accepts_compile {text : String} (hne : text ≠ "") (s : String) :
    (Segment.compile text).accepts s = true ↔ Wildcard '*' text.toList s.toList := by
  unfold Segment.compile
  split
  · rename_i hall
    have hs : ∀ c ∈ text.toList, c = '*' := by
      intro c hc
      exact beq_iff_eq.1 (List.all_eq_true.1 hall c hc)
    have hnil : text.toList ≠ [] := fun h => hne (String.toList_eq_nil_iff.1 h)
    exact ⟨fun _ => Wildcard.of_stars hnil hs, fun _ => rfl⟩
  · split
    · rw [Segment.accepts, Glob.accepts_iff, Utf8.ofText_eq, Utf8.ofText_eq, Wildcard.encode_iff]
    · rename_i hstar
      have hl : '*' ∉ text.toList := by
        rwa [← List.contains_iff_mem]
      rw [Wildcard.literal_iff hl, String.toList_inj, Segment.accepts, beq_iff_eq, eq_comm]

end CallGateway
