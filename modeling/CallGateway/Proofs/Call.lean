/-
  CallGateway.Proofs.Call
  ───────────────────────
  **WHO IS TAKEN TO BE CALLING.**

  The consumer of a call is read off its headers alone.  `Named` says which
  text they name without looking for it, and `consumer_eq_iff` that this is
  the text that is found: the first header of that name counts, byte for
  byte, and one that is no plain text names nobody, whatever comes after it.
-/
import CallGateway.Call
import CallGateway.Proofs.Text.Utf8

namespace CallGateway

namespace Headers

/-! ## §1. The first header under a name. -/

/-- A header bears a name. -/
def Bears (name : String) (h : String × Bytes) : Prop := fold h.1 = name

/-- The value that is found is that of the first header of the name. -/
theorem first?_eq_some_iff {hs : Headers} {name : String} {value : Bytes} :
    hs.first? name = some value
      ↔ ∃ before own after, hs = before ++ (own, value) :: after
          ∧ (∀ h ∈ before, ¬Bears name h) ∧ Bears name (own, value) := by
  rw [first?, Option.map_eq_some_iff]
  constructor
  · intro ⟨h, hfind, hvalue⟩
    obtain ⟨hbears, before, after, rfl, hbefore⟩ := List.find?_eq_some_iff_append.1 hfind
    obtain ⟨own, v⟩ := h
    obtain rfl : v = value := hvalue
    exact ⟨before, own, after, rfl, by simpa [Bears] using hbefore, by simpa [Bears] using hbears⟩
  · intro ⟨before, own, after, hhs, hbefore, hbears⟩
    refine ⟨(own, value), List.find?_eq_some_iff_append.2 ⟨?_, before, after, hhs, ?_⟩, rfl⟩
    · simpa [Bears] using hbears
    · simpa [Bears] using hbefore

/-- Nothing is found where no header has the name. -/
theorem first?_eq_none_iff {hs : Headers} {name : String} :
    hs.first? name = none ↔ ∀ h ∈ hs, ¬Bears name h := by
  simp [first?, Bears]

/-! ## §2. Values that are plain text. -/

/-- A value is plain text: visible ASCII, blanks and tabs. -/
def IsPlain (value : Bytes) : Prop := ∀ b ∈ value, b = Ascii.tab ∨ (Ascii.space ≤ b ∧ b < 0x7f)

theorem all_isTextByte_iff {value : Bytes} : value.all isTextByte = true ↔ IsPlain value := by
  simp [IsPlain, isTextByte, List.all_eq_true]

/-- A plain value is a text. -/
theorem IsPlain.exists_text {value : Bytes} (h : IsPlain value) : ∃ s, Bytes.ofText s = value := by
  refine Utf8.exists_ofText_eq fun b hb => ?_
  rcases h b hb with rfl | ⟨-, hlt⟩
  · decide
  · exact UInt8.lt_trans hlt (by decide)

/-- The text of a plain value has its bytes; no other value has a text. -/
theorem valueText?_eq_some_iff {value : Bytes} {text : String} :
    valueText? value = some text ↔ IsPlain value ∧ Bytes.ofText text = value := by
  unfold valueText?
  by_cases hplain : IsPlain value
  · obtain ⟨s, rfl⟩ := hplain.exists_text
    rw [if_pos (all_isTextByte_iff.2 hplain), Bytes.toText?_ofText, Option.some.injEq]
    constructor
    · intro h
      exact ⟨hplain, by rw [h]⟩
    · intro ⟨_, h⟩
      exact (Bytes.ofText_inj h).symm
  · rw [if_neg (mt all_isTextByte_iff.1 hplain)]
    simp [hplain]

theorem valueText?_eq_none_iff {value : Bytes} : valueText? value = none ↔ ¬IsPlain value := by
  constructor
  · intro h hplain
    obtain ⟨text, rfl⟩ := hplain.exists_text
    rw [valueText?_eq_some_iff.2 ⟨hplain, rfl⟩] at h
    cases h
  · intro h
    rw [valueText?, if_neg (mt all_isTextByte_iff.1 h)]

/-! ## §3. The consumer. -/

/-- The headers name this consumer. -/
inductive Named (hs : Headers) : String → Prop where
  -- No header is a consumer's.
  | missing : (∀ h ∈ hs, ¬Bears consumerHeader h) → Named hs ""
  -- The first such header is plain text, and it is taken as it stands.
  | verbatim {before after : Headers} {own consumer : String} :
      hs = before ++ (own, Bytes.ofText consumer) :: after →
      (∀ h ∈ before, ¬Bears consumerHeader h) → fold own = consumerHeader →
      IsPlain (Bytes.ofText consumer) → Named hs consumer
  -- The first such header is no plain text.
  | unreadable {before after : Headers} {own : String} {value : Bytes} :
      hs = before ++ (own, value) :: after →
      (∀ h ∈ before, ¬Bears consumerHeader h) → fold own = consumerHeader →
      ¬IsPlain value → Named hs ""

/-- **The consumer is the one that the headers name.** -/
theorem consumer_eq_iff {hs : Headers} {consumer : String} :
    hs.consumer = consumer ↔ Named hs consumer := by
  unfold Headers.consumer
  constructor
  · intro h
    subst h
    cases hfirst : hs.first? consumerHeader with
    | none => exact .missing (first?_eq_none_iff.1 hfirst)
    | some value =>
      obtain ⟨before, own, after, hhs, hbefore, hbears⟩ := first?_eq_some_iff.1 hfirst
      cases htext : valueText? value with
      | some text =>
        rw [Option.bind_some, htext, Option.getD_some]
        obtain ⟨hplain, rfl⟩ := valueText?_eq_some_iff.1 htext
        exact .verbatim hhs hbefore hbears hplain
      | none =>
        rw [Option.bind_some, htext]
        exact .unreadable hhs hbefore hbears (valueText?_eq_none_iff.1 htext)
  · intro hnamed
    cases hnamed with
    | missing hnone => rw [first?_eq_none_iff.2 hnone]; rfl
    | verbatim hhs hbefore hbears hplain =>
      rw [first?_eq_some_iff.2 ⟨_, _, _, hhs, hbefore, hbears⟩, Option.bind_some,
        valueText?_eq_some_iff.2 ⟨hplain, rfl⟩, Option.getD_some]
    | unreadable hhs hbefore hbears hplain =>
      rw [first?_eq_some_iff.2 ⟨_, _, _, hhs, hbefore, hbears⟩, Option.bind_some,
        valueText?_eq_none_iff.2 hplain, Option.getD_none]

end Headers

end CallGateway
