/-
  CallGateway.Proofs.Policy.Wildcard
  ──────────────────────────────────
  **WHAT A WILDCARD STANDS FOR.**

  `Wildcard star pattern text` says which texts a pattern describes, for any
  kind of symbol: the star stands for any run of symbols, the empty one
  included, and every other symbol for itself.

  The matcher of `Policy.Glob` decides this relation on bytes
  (`Glob.accepts_iff`).  It keeps only the latest star for a second try.
  That loses no match, for what stands between two stars is literal: if
  some longer run for the earlier star led to a match, then so does a
  longer run for the later one.
-/
import CallGateway.Policy.Glob
import Mathlib.Data.List.Forall2

namespace CallGateway

/-! ## §1. The relation. -/

/-- The texts that a pattern describes. -/
inductive Wildcard {α : Type} (star : α) : List α → List α → Prop
  -- Nothing stands for nothing.
  | done : Wildcard star [] []
  -- The star stands for a run of symbols.
  | run (skipped : List α) {pattern text : List α} :
      Wildcard star pattern text → Wildcard star (star :: pattern) (skipped ++ text)
  -- Any other symbol stands for itself.
  | same {a : α} {pattern text : List α} :
      a ≠ star → Wildcard star pattern text → Wildcard star (a :: pattern) (a :: text)

namespace Wildcard

variable {α : Type} {star a b : α} {pattern text literal : List α}

/-! ## §2. Reading a pattern from its front. -/

theorem nil_iff : Wildcard star [] text ↔ text = [] := by
  constructor
  · intro h
    cases h
    rfl
  · intro heq
    obtain rfl := heq
    exact .done

theorem star_iff :
    Wildcard star (star :: pattern) text
      ↔ ∃ rest, rest <:+ text ∧ Wildcard star pattern rest := by
  constructor
  · intro h
    cases h with
    | run skipped h => exact ⟨_, List.suffix_append _ _, h⟩
    | same hne _ => exact absurd rfl hne
  · intro hall
    obtain ⟨rest, ⟨skipped, rfl⟩, h⟩ := hall
    exact .run skipped h

theorem cons_iff (ha : a ≠ star) :
    Wildcard star (a :: pattern) text
      ↔ ∃ rest, text = a :: rest ∧ Wildcard star pattern rest := by
  constructor
  · intro h
    cases h with
    | run => exact absurd rfl ha
    | same _ h => exact ⟨_, rfl, h⟩
  · intro hall
    obtain ⟨rest, rfl, h⟩ := hall
    exact .same ha h

theorem cons_cons_iff (ha : a ≠ star) :
    Wildcard star (a :: pattern) (b :: text) ↔ a = b ∧ Wildcard star pattern text := by
  rw [cons_iff ha]
  constructor
  · intro hall
    obtain ⟨rest, heq, h⟩ := hall
    obtain ⟨rfl, rfl⟩ := List.cons.inj heq
    exact ⟨rfl, h⟩
  · intro hall
    obtain ⟨rfl, h⟩ := hall
    exact ⟨text, rfl, h⟩

/-- A literal start of a pattern is the start of the text. -/
theorem append_iff (hl : star ∉ literal) :
    Wildcard star (literal ++ pattern) text
      ↔ ∃ rest, text = literal ++ rest ∧ Wildcard star pattern rest := by
  induction literal generalizing text with
  | nil => simp
  | cons a literal ih =>
    simp only [List.mem_cons, not_or] at hl
    obtain ⟨ha, hl⟩ := hl
    rw [List.cons_append, cons_iff (Ne.symm ha)]
    constructor
    · intro hall
      obtain ⟨rest, rfl, h⟩ := hall
      obtain ⟨rest', rfl, hw⟩ := (ih hl).1 h
      exact ⟨rest', rfl, hw⟩
    · intro hall
      obtain ⟨rest, rfl, h⟩ := hall
      exact ⟨literal ++ rest, rfl, (ih hl).2 ⟨rest, rfl, h⟩⟩

/-! ## §3. Patterns of one kind. -/

/-- Without a star a pattern describes only itself. -/
theorem literal_iff (hl : star ∉ literal) : Wildcard star literal text ↔ text = literal := by
  have h : Wildcard star (literal ++ []) text ↔ ∃ rest, text = literal ++ rest ∧ Wildcard star [] rest :=
    append_iff hl
  simpa [nil_iff] using h

/-- Only stars describe the empty text. -/
theorem empty_iff : Wildcard star pattern [] ↔ ∀ a ∈ pattern, a = star := by
  induction pattern with
  | nil => simp [nil_iff]
  | cons a pattern ih =>
    by_cases ha : a = star
    · subst ha
      simp [star_iff, ih]
    · simp [cons_iff ha, ha]

/-- Stars only, and at least one of them, describe every text. -/
theorem of_stars (hne : pattern ≠ []) (hs : ∀ a ∈ pattern, a = star) : Wildcard star pattern text := by
  cases pattern with
  | nil => exact absurd rfl hne
  | cons a pattern =>
    obtain rfl : a = star := hs a List.mem_cons_self
    have hrest : Wildcard a pattern [] := empty_iff.2 fun b hb => hs b (List.mem_cons_of_mem _ hb)
    simpa using Wildcard.run text hrest

/-- A pattern describes the texts that split into one run for each of its symbols,
any run for a star and the symbol itself for any other. -/
theorem iff_runs : Wildcard star pattern text
    ↔ ∃ runs : List (List α), text = runs.flatten ∧ List.Forall₂ (fun a run => a = star ∨ run = [a]) pattern runs := by
  constructor
  · intro h
    induction h with
    | done => exact ⟨[], rfl, .nil⟩
    | run skipped _ ih =>
      obtain ⟨runs, rfl, hruns⟩ := ih
      exact ⟨skipped :: runs, rfl, .cons (.inl rfl) hruns⟩
    | @same a _ _ _ _ ih =>
      obtain ⟨runs, rfl, hruns⟩ := ih
      exact ⟨[a] :: runs, rfl, .cons (.inr rfl) hruns⟩
  · rintro ⟨runs, rfl, hruns⟩
    induction hruns with
    | nil => exact .done
    | @cons a run pattern runs hrun _ ih =>
      by_cases ha : a = star
      · subst ha
        exact .run run ih
      · obtain rfl := hrun.resolve_left ha
        exact .same ha ih

end Wildcard

/-! ## §4. The matcher decides the relation. -/

namespace Glob

/-- A second try can succeed: the glob behind the latest star describes what
is left when that star takes one byte more, or several. -/
def Retries : Option (Bytes × Bytes) → Prop
  | none => False
  | some (behind, text) =>
      ∃ b more rest, text = b :: more ∧ rest <:+ more ∧ Wildcard Ascii.star behind rest

/-- Since the latest star the walk has taken only bytes that stand for
themselves. -/
def Follows (glob text : Bytes) : Option (Bytes × Bytes) → Prop
  | none => True
  | some (behind, start) =>
      ∃ literal, Ascii.star ∉ literal ∧ behind = literal ++ glob ∧ start = literal ++ text

/-- A new star begins with nothing taken. -/
theorem Follows.fresh (glob text : Bytes) : Follows glob text (some (glob, text)) :=
  ⟨[], List.not_mem_nil, rfl, rfl⟩

/-- One more byte that stands for itself. -/
theorem Follows.same {g : UInt8} {glob text : Bytes} {retry : Option (Bytes × Bytes)}
    (hg : g ≠ Ascii.star) (h : Follows (g :: glob) (g :: text) retry) : Follows glob text retry := by
  cases retry with
  | none => trivial
  | some r =>
    obtain ⟨literal, hl, hb, hs⟩ := h
    refine ⟨literal ++ [g], ?_, by simpa using hb, by simpa using hs⟩
    simp only [List.mem_append, List.mem_singleton, not_or]
    exact ⟨hl, Ne.symm hg⟩

/-- At the end of the text no second try is left: what it would have to take
again is longer than what it has. -/
theorem Follows.not_retries {glob : Bytes} {retry : Option (Bytes × Bytes)}
    (hf : Follows glob [] retry) : ¬Retries retry := by
  intro h
  cases retry with
  | none => exact h
  | some r =>
    obtain ⟨literal, hl, hb, hs⟩ := hf
    obtain ⟨b, more, rest, hcons, hrest, hw⟩ := h
    rw [hb, Wildcard.append_iff hl] at hw
    obtain ⟨left, rfl, -⟩ := hw
    have hlen := hrest.length_le
    have hstart := congrArg List.length (hs.symm.trans hcons)
    simp only [List.length_append, List.length_nil, List.length_cons] at hlen hstart
    omega

/-- A longer run for the star before leads nowhere that a run for this one
does not lead to. -/
theorem Retries.forget {glob text : Bytes} {retry : Option (Bytes × Bytes)}
    (hf : Follows (Ascii.star :: glob) text retry) (h : Retries retry) :
    Wildcard Ascii.star (Ascii.star :: glob) text := by
  cases retry with
  | none => exact h.elim
  | some r =>
    obtain ⟨literal, hl, hb, hs⟩ := hf
    obtain ⟨b, more, rest, hcons, hrest, hw⟩ := h
    rw [hb, Wildcard.append_iff hl] at hw
    obtain ⟨left, rfl, hw⟩ := hw
    obtain ⟨last, hlast, hw⟩ := Wildcard.star_iff.1 hw
    -- both `last` and `text` end the text of the second try, and `text` is the longer one
    have hstart : literal ++ left <:+ r.2 := hcons ▸ hrest.trans (List.suffix_cons _ _)
    have hlen := hstart.length_le
    rw [hs] at hlen hstart
    simp only [List.length_append] at hlen
    have hleft : left <:+ text :=
      List.suffix_of_suffix_length_le ((List.suffix_append _ _).trans hstart)
        (List.suffix_append _ _) (by omega)
    exact Wildcard.star_iff.2 ⟨last, hlast.trans hleft, hw⟩

/-- A star begins a second try of its own. -/
theorem wildcard_or_retries {glob text : Bytes} {b : UInt8} :
    Wildcard Ascii.star glob (b :: text) ∨ Retries (some (glob, b :: text))
      ↔ Wildcard Ascii.star (Ascii.star :: glob) (b :: text) := by
  rw [Wildcard.star_iff]
  constructor
  · intro hcase
    rcases hcase with h | ⟨_, more, rest, heq, hrest, h⟩
    · exact ⟨_, List.suffix_rfl, h⟩
    · obtain ⟨rfl, rfl⟩ := List.cons.inj heq
      exact ⟨rest, hrest.trans (List.suffix_cons _ _), h⟩
  · intro hall
    obtain ⟨rest, hrest, h⟩ := hall
    rcases List.suffix_cons_iff.1 hrest with rfl | hrest
    · exact .inl h
    · exact .inr ⟨b, text, rest, rfl, hrest, h⟩

/-- Where the walk cannot go on, the latest star takes one byte more. -/
theorem retries_cons {behind more : Bytes} {b : UInt8} :
    Retries (some (behind, b :: more))
      ↔ Wildcard Ascii.star behind more ∨ Retries (some (behind, more)) := by
  constructor
  · intro hall
    obtain ⟨_, _, rest, heq, hrest, h⟩ := hall
    obtain ⟨rfl, rfl⟩ := List.cons.inj heq
    cases more with
    | nil =>
      obtain rfl := List.suffix_nil.1 hrest
      exact .inl h
    | cons c more =>
      rcases List.suffix_cons_iff.1 hrest with rfl | hrest
      · exact .inl h
      · exact .inr ⟨c, more, rest, rfl, hrest, h⟩
  · intro hcase
    rcases hcase with h | ⟨c, more', rest, rfl, hrest, h⟩
    · exact ⟨b, more, more, rfl, List.suffix_rfl, h⟩
    · exact ⟨b, _, rest, rfl, hrest.trans (List.suffix_cons _ _), h⟩

theorem not_retries_of_stuck {retry : Option (Bytes × Bytes)}
    (h : ∀ behind b rest, retry = some (behind, b :: rest) → False) : ¬Retries retry := by
  intro hr
  cases retry with
  | none => exact hr
  | some r =>
    obtain ⟨b, more, rest, heq, -⟩ := hr
    exact h r.1 b more (by rw [← heq])

/-- **The walk decides what is left of its task**: the rest of the glob
describes the rest of the text, or a second try succeeds. -/
theorem walk_iff {glob text : Bytes} {retry : Option (Bytes × Bytes)}
    (hf : Follows glob text retry) :
    walk glob text retry = true ↔ Wildcard Ascii.star glob text ∨ Retries retry := by
  fun_induction walk glob text retry with
  | case1 glob retry =>
    simp [Wildcard.empty_iff, hf.not_retries]
  | case2 retry b bs gs ih =>
    rw [ih (Follows.fresh gs (b :: bs)), wildcard_or_retries]
    exact ⟨.inl, fun h => h.elim id (Retries.forget hf)⟩
  | case3 retry bs g gs hg ih =>
    rw [ih (hf.same hg), Wildcard.cons_cons_iff hg]
    simp
  | case4 b bs g gs hg hgb behind head rest ih =>
    rw [ih (Follows.fresh behind rest), retries_cons, Wildcard.cons_cons_iff hg]
    simp [hgb]
  | case5 retry b bs g gs hg hgb hnone =>
    have hr : ¬Retries retry := not_retries_of_stuck hnone
    simp [Wildcard.cons_cons_iff hg, hgb, hr]
  | case6 b bs behind head rest ih =>
    rw [ih (Follows.fresh behind rest), retries_cons, Wildcard.nil_iff]
    simp
  | case7 retry b bs hnone =>
    have hr : ¬Retries retry := not_retries_of_stuck hnone
    simp [Wildcard.nil_iff, hr]

/-- **The matcher decides the relation.** -/
theorem accepts_iff (glob text : Bytes) : accepts glob text = true ↔ Wildcard Ascii.star glob text := by
  have h : walk glob text none = true ↔ Wildcard Ascii.star glob text ∨ Retries none := walk_iff trivial
  simpa [accepts, Retries] using h

end Glob

end CallGateway
