/-
  CallGateway.Proofs.Json.Escape
  ──────────────────────────────
  **STRINGS ARE READ AS THEY ARE WRITTEN.**

  A byte of a string is written as itself, as a backslash with one more byte,
  or as a backslash with the four digits of its code (`escapeByte_cases`).
  Written content runs up to the closing quote and no further
  (`takeContent_escape`), and stands for the bytes that were written
  (`unescape_escape`); so every text is read back (`contentText?_escape`).
-/
import CallGateway.Json.Printer
import CallGateway.Json.Surface

namespace CallGateway.Json

open Surface

/-! ## §1. The three ways of writing a byte. -/

/-- The content of a string of these bytes. -/
def escape (bs : Bytes) : Bytes := bs.flatMap escapeByte

@[simp] theorem escape_nil : escape [] = [] := rfl

@[simp] theorem escape_cons (b : UInt8) (bs : Bytes) : escape (b :: bs) = escapeByte b ++ escape bs := rfl

/-- A byte that stands for itself. -/
def IsBare (b : UInt8) : Prop := b ≠ Ascii.quote ∧ b ≠ Ascii.backslash ∧ ¬b < 0x20

theorem escapeByte_cases (b : UInt8) :
    (∃ e, escapeByte b = [Ascii.backslash, e] ∧ shortEscape? e = some b ∧ 0x20 ≤ e)
      ∨ (escapeByte b = [Ascii.backslash, Ascii.code 'u', Ascii.zero, Ascii.zero,
          hexDigit (b / 16), hexDigit (b % 16)] ∧ b < 0x20)
      ∨ (escapeByte b = [b] ∧ IsBare b) := by
  unfold escapeByte
  split
  · exact .inl ⟨_, rfl, by decide, by decide⟩
  · exact .inl ⟨_, rfl, by decide, by decide⟩
  · exact .inl ⟨_, rfl, by decide, by decide⟩
  · exact .inl ⟨_, rfl, by decide, by decide⟩
  · exact .inl ⟨_, rfl, by decide, by decide⟩
  · exact .inl ⟨_, rfl, by decide, by decide⟩
  · exact .inl ⟨_, rfl, by decide, by decide⟩
  · rename_i hquote hbackslash _ _ _ _ _
    split
    · rename_i hlt
      exact .inr (.inl ⟨rfl, hlt⟩)
    · rename_i hlt
      exact .inr (.inr ⟨rfl, hquote, hbackslash, hlt⟩)

/-- What is found out about the control characters one by one. -/
theorem control_facts : ∀ n : Fin 32,
    let b := UInt8.ofNat n
    codeUnit? Ascii.zero Ascii.zero (hexDigit (b / 16)) (hexDigit (b % 16)) = some n.val
      ∧ (hexValue? (hexDigit (b / 16))).isSome ∧ (hexValue? (hexDigit (b % 16))).isSome
      ∧ 0x20 ≤ hexDigit (b / 16) ∧ 0x20 ≤ hexDigit (b % 16)
      ∧ String.utf8EncodeChar (Char.ofNat n) = [b] := by
  decide

/-- The code of a control character: its digits are those of a code unit, and
the character of the code is that byte. -/
theorem control_code {b : UInt8} (hb : b < 0x20) :
    codeUnit? Ascii.zero Ascii.zero (hexDigit (b / 16)) (hexDigit (b % 16)) = some b.toNat
      ∧ (hexValue? (hexDigit (b / 16))).isSome ∧ (hexValue? (hexDigit (b % 16))).isSome
      ∧ 0x20 ≤ hexDigit (b / 16) ∧ 0x20 ≤ hexDigit (b % 16)
      ∧ String.utf8EncodeChar (Char.ofNat b.toNat) = [b] := by
  have h := control_facts ⟨b.toNat, UInt8.lt_iff_toNat_lt.1 hb⟩
  simpa only [UInt8.ofNat_toNat] using h

/-! ## §2. Where a string ends. -/

section TakeContent

variable (acc bs : Bytes) {b e : UInt8}

theorem takeContent_quote : takeContent acc (Ascii.quote :: bs) = some (acc.reverse, bs) := by
  rw [takeContent.eq_def]
  rfl

theorem takeContent_bare (hb : IsBare b) : takeContent acc (b :: bs) = takeContent (b :: acc) bs := by
  obtain ⟨hquote, hbackslash, hlt⟩ := hb
  rw [takeContent.eq_4 acc b bs fun _ _ h _ => hbackslash h]
  simp [hquote, hbackslash, hlt]

/-- A backslash makes a difference to what comes after it. -/
theorem takeContent_backslash : takeContent acc (Ascii.backslash :: e :: bs) =
    if (shortEscape? e).isSome then takeContent (e :: Ascii.backslash :: acc) bs
    else if e = Ascii.code 'u' then
      match bs with
      | h₁ :: h₂ :: h₃ :: h₄ :: rest =>
        if [h₁, h₂, h₃, h₄].all fun h => (hexValue? h).isSome then
          takeContent (h₄ :: h₃ :: h₂ :: h₁ :: e :: Ascii.backslash :: acc) rest
        else none
      | _ => none
    else none := by
  rw [takeContent.eq_def]
  rfl

theorem takeContent_short (h : shortEscape? e = some b) :
    takeContent acc (Ascii.backslash :: e :: bs) = takeContent (e :: Ascii.backslash :: acc) bs := by
  rw [takeContent_backslash, h]
  rfl

theorem takeContent_control (hb : b < 0x20) :
    takeContent acc (Ascii.backslash :: Ascii.code 'u' :: Ascii.zero :: Ascii.zero :: hexDigit (b / 16)
        :: hexDigit (b % 16) :: bs)
      = takeContent (hexDigit (b % 16) :: hexDigit (b / 16) :: Ascii.zero :: Ascii.zero :: Ascii.code 'u'
        :: Ascii.backslash :: acc) bs := by
  obtain ⟨-, hhigh, hlow, -⟩ := control_code hb
  have hu : (shortEscape? (Ascii.code 'u')).isSome = false := by decide
  have hzero : (hexValue? Ascii.zero).isSome = true := by decide
  rw [takeContent_backslash, hu]
  simp [hhigh, hlow, hzero]

end TakeContent

/-- Written content runs up to the closing quote. -/
theorem takeContent_escape (bs acc rest : Bytes) :
    takeContent acc (escape bs ++ Ascii.quote :: rest) = some (acc.reverse ++ escape bs, rest) := by
  induction bs generalizing acc with
  | nil => simp [takeContent_quote]
  | cons b bs ih =>
    rw [escape_cons]
    rcases escapeByte_cases b with ⟨e, he, hshort, -⟩ | ⟨he, hcontrol⟩ | ⟨he, hbare⟩
    · simp only [he, List.cons_append, List.nil_append]
      rw [takeContent_short _ _ hshort, ih]
      simp
    · simp only [he, List.cons_append, List.nil_append]
      rw [takeContent_control _ _ hcontrol, ih]
      simp
    · simp only [he, List.cons_append, List.nil_append]
      rw [takeContent_bare _ _ hbare, ih]
      simp

/-! ## §3. What the content stands for. -/

section Unescape

variable (acc bs : Bytes) {b e : UInt8}

theorem unescape_bare (hb : IsBare b) : unescape acc (b :: bs) = unescape (b :: acc) bs :=
  unescape.eq_4 acc b bs fun _ _ h _ => hb.2.1 h

theorem unescape_short (h : shortEscape? e = some b) :
    unescape acc (Ascii.backslash :: e :: bs) = unescape (b :: acc) bs := by
  rw [unescape.eq_def]
  split
  · rename_i heq
    cases heq
  · rename_i heq
    obtain ⟨-, htail⟩ := List.cons.inj heq
    obtain ⟨rfl, rfl⟩ := List.cons.inj htail
    rw [h]
  · rename_i hne heq
    obtain ⟨rfl, rfl⟩ := List.cons.inj heq
    exact (hne e bs rfl rfl).elim

theorem unescape_control (hb : b < 0x20) :
    unescape acc (Ascii.backslash :: Ascii.code 'u' :: Ascii.zero :: Ascii.zero :: hexDigit (b / 16)
        :: hexDigit (b % 16) :: bs)
      = unescape (b :: acc) bs := by
  obtain ⟨hcode, -, -, -, -, hchar⟩ := control_code hb
  have hlt : b.toNat < 32 := UInt8.lt_iff_toNat_lt.1 hb
  have hshort : shortEscape? (Ascii.code 'u') = none := rfl
  refine (unescape.eq_2 ..).trans ?_
  rw [hshort]
  dsimp only
  rw [hcode]
  dsimp only
  -- the code is far below the surrogates
  rw [if_neg (by omega), if_neg (by omega), pushChar, hchar]
  rfl

end Unescape

/-- Content stands for the bytes that were written. -/
theorem unescape_escape (bs acc : Bytes) : unescape acc (escape bs) = some (acc.reverse ++ bs) := by
  induction bs generalizing acc with
  | nil => simp [unescape.eq_1]
  | cons b bs ih =>
    rw [escape_cons]
    rcases escapeByte_cases b with ⟨e, he, hshort, -⟩ | ⟨he, hcontrol⟩ | ⟨he, hbare⟩
    · simp only [he, List.cons_append, List.nil_append]
      rw [unescape_short _ _ hshort, ih]
      simp
    · simp only [he, List.cons_append, List.nil_append]
      rw [unescape_control _ _ hcontrol, ih]
      simp
    · simp only [he, List.cons_append, List.nil_append]
      rw [unescape_bare _ _ hbare, ih]
      simp

/-- Every text is read back from its written content. -/
theorem contentText?_escape (s : String) : contentText? (escape (Bytes.ofText s)) = some s := by
  rw [contentText?, unescape_escape]
  simp

/-- No control character is written as itself. -/
theorem le_of_mem_escape {bs : Bytes} : ∀ b ∈ escape bs, 0x20 ≤ b := by
  intro b hb
  obtain ⟨b', -, hb⟩ := List.mem_flatMap.1 hb
  rcases escapeByte_cases b' with ⟨e, he, -, hle⟩ | ⟨he, hcontrol⟩ | ⟨he, -, -, hbare⟩
  · rw [he] at hb
    simp only [List.mem_cons, List.not_mem_nil, or_false] at hb
    rcases hb with rfl | rfl
    · decide
    · exact hle
  · obtain ⟨-, -, -, hhigh, hlow, -⟩ := control_code hcontrol
    rw [he] at hb
    simp only [List.mem_cons, List.not_mem_nil, or_false] at hb
    rcases hb with rfl | rfl | rfl | rfl | rfl | rfl
    · decide
    · decide
    · decide
    · decide
    · exact hhigh
    · exact hlow
  · rw [he] at hb
    rw [List.mem_singleton.1 hb]
    exact UInt8.not_lt.1 hbare

end CallGateway.Json
