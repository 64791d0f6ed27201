/-
  CallGateway.Proofs.Metrics.Exposition
  ─────────────────────────────────────
  **A LINE OF THE METRICS IS READ BACK AS IT WAS SHOWN.**

  A reader of the metrics takes the name of a metric up to the brace, labels
  with their values in quotes up to the closing brace, and a number.  In a
  value a backslash goes with the character after it, so that the value ends
  at the first quote that is not escaped.  Escaping works character by
  character although it may be done by three replacements of the whole text,
  the backslashes first (`Labels.escape_eq_replace`); so every value comes
  back (`takeValue?_escape`), and with it every line (`readRow?_line`).
-/
import CallGateway.Metrics

namespace CallGateway

namespace Exposition

/-! ## §1. The reader. -/

/-- What has a meaning of its own around the names of labels. -/
def reserved : List Char := ['=', '"', ',', '{', '}', '\\', '\n']

/-- A name that can be told from what stands around it. -/
def IsPlain (name : String) : Prop := ∀ c ∈ name.toList, c ∉ reserved

instance (name : String) : Decidable (IsPlain name) :=
  List.decidableBAll (· ∉ reserved) name.toList

/-- What is taken, after one more character. -/
def keep (c : Char) (taken : Option (List Char × List Char)) : Option (List Char × List Char) :=
  taken.map fun t => (c :: t.1, t.2)

/-- Take a name up to the character that ends it. -/
def takeName? (stop : Char) : List Char → Option (List Char × List Char)
  | [] => none
  | c :: rest =>
    if c = stop then some ([], rest)
    else if c ∈ reserved then none
    else keep c (takeName? stop rest)

/-- Take a value up to the quote that closes it. -/
def takeValue? : List Char → Option (List Char × List Char)
  | '"' :: rest => some ([], rest)
  | '\\' :: '\\' :: rest => keep '\\' (takeValue? rest)
  | '\\' :: '"' :: rest => keep '"' (takeValue? rest)
  | '\\' :: 'n' :: rest => keep '\n' (takeValue? rest)
  -- no other escape, and no line break within a line
  | '\\' :: _ => none
  | '\n' :: _ => none
  | c :: rest => keep c (takeValue? rest)
  | [] => none

/-- Take one label: its name, and its value in quotes. -/
def takeLabel? (text : List Char) : Option ((String × String) × List Char) :=
  match takeName? '=' text with
  | some (name, '"' :: rest) =>
    (takeValue? rest).map fun t => ((String.ofList name, String.ofList t.1), t.2)
  | _ => none

theorem eq_of_keep {c : Char} {taken : Option (List Char × List Char)} {text rest : List Char}
    (h : keep c taken = some (text, rest)) : ∃ text', taken = some (text', rest) := by
  obtain ⟨t, ht, heq⟩ := Option.map_eq_some_iff.1 h
  cases heq
  exact ⟨t.1, ht⟩

theorem takeName?_length {stop : Char} {text name rest : List Char}
    (h : takeName? stop text = some (name, rest)) : rest.length < text.length := by
  induction text generalizing name with
  | nil => cases h
  | cons c text ih =>
    rw [takeName?] at h
    split at h
    · cases h
      exact Nat.lt_succ_self _
    · split at h
      · cases h
      · obtain ⟨name', h⟩ := eq_of_keep h
        exact Nat.lt_succ_of_lt (ih h)

theorem takeValue?_length {text value rest : List Char} (h : takeValue? text = some (value, rest)) :
    rest.length < text.length := by
  induction text using takeValue?.induct generalizing value with
  | case1 =>
    cases h
    exact Nat.lt_succ_self _
  | case2 text ih | case3 text ih | case4 text ih =>
    obtain ⟨value', h⟩ := eq_of_keep h
    have hlt := ih h
    simp only [List.length_cons]
    omega
  | case5 text hbackslash hquote hn =>
    rw [takeValue?.eq_5 text hbackslash hquote hn] at h
    cases h
  | case6 => cases h
  | case7 c text hquote h₁ h₂ h₃ hbackslash hline ih =>
    rw [takeValue?.eq_7 c text hquote h₁ h₂ h₃ hbackslash hline] at h
    obtain ⟨value', h⟩ := eq_of_keep h
    exact Nat.lt_succ_of_lt (ih h)
  | case8 => cases h

theorem takeLabel?_length {text rest : List Char} {label : String × String}
    (h : takeLabel? text = some (label, rest)) : rest.length < text.length := by
  unfold takeLabel? at h
  split at h
  · rename_i name tail hname
    obtain ⟨⟨value, rest'⟩, hvalue, heq⟩ := Option.map_eq_some_iff.1 h
    cases heq
    have hlt := takeName?_length hname
    have hlt' := takeValue?_length hvalue
    rw [List.length_cons] at hlt
    show rest'.length < text.length
    omega
  · cases h

/-- Take labels, with commas between them, up to the closing brace. -/
def takeLabels? (text : List Char) : Option (Labels × List Char) :=
  match _h : takeLabel? text with
  | some (label, '}' :: rest) => some ([label], rest)
  | some (label, ',' :: rest) => (takeLabels? rest).map fun t => (label :: t.1, t.2)
  | _ => none
termination_by text.length
decreasing_by
  have hlt := takeLabel?_length _h
  rw [List.length_cons] at hlt
  omega

/-- Take what stands in the braces, which may be nothing. -/
def takeSet? : List Char → Option (Labels × List Char)
  | '}' :: rest => some ([], rest)
  | text => takeLabels? text

/-- Read a number in decimal digits. -/
def readCount? (digits : List Char) : Option Nat :=
  if digits ≠ [] ∧ digits.all Char.isDigit then some (Nat.ofDigitChars 10 digits 0) else none

/-- What a line tells. -/
structure Sample where
  metric : String
  labels : Labels
  count : Nat
  deriving DecidableEq, Repr

/-- Read a line. -/
def readRow? (line : List Char) : Option Sample :=
  match takeName? '{' line with
  | none => none
  | some (metric, text) =>
    match takeSet? text with
    | some (labels, ' ' :: digits) =>
      (readCount? digits).map fun count => ⟨String.ofList metric, labels, count⟩
    | _ => none

end Exposition

/-! ## §2. Escaped values. -/

namespace Labels

/-- Replace a character wherever it stands. -/
def replace (c : Char) (new text : List Char) : List Char := text.flatMap fun d => if d = c then new else [d]

/-- **Escaping is three replacements**, the one of the backslashes first: the
others bring backslashes of their own. -/
theorem escape_eq_replace (value : String) :
    (escape value).toList
      = replace '\n' ['\\', 'n'] (replace '"' ['\\', '"'] (replace '\\' ['\\', '\\'] value.toList)) := by
  rw [escape, String.toList_ofList]
  unfold replace
  rw [List.flatMap_assoc, List.flatMap_assoc]
  congr 1
  funext c
  unfold escapeChar
  by_cases hbackslash : c = '\\'
  · subst hbackslash
    decide
  · by_cases hquote : c = '"'
    · subst hquote
      decide
    · by_cases hline : c = '\n'
      · subst hline
        decide
      · simp [hbackslash, hquote, hline]

theorem not_mem_escape (value : String) : '\n' ∉ (escape value).toList := by
  rw [escape, String.toList_ofList, List.mem_flatMap]
  rintro ⟨c, -, hc⟩
  unfold escapeChar at hc
  split at hc
  · revert hc
    decide
  · split at hc
    · revert hc
      decide
    · split at hc
      · revert hc
        decide
      · rename_i hline
        exact hline (List.mem_singleton.1 hc).symm

end Labels

namespace Exposition

/-- One character is read as it was escaped. -/
theorem takeValue?_escapeChar (c : Char) (rest : List Char) :
    takeValue? (Labels.escapeChar c ++ rest) = keep c (takeValue? rest) := by
  unfold Labels.escapeChar
  by_cases hbackslash : c = '\\'
  · subst hbackslash
    rfl
  · by_cases hquote : c = '"'
    · subst hquote
      rfl
    · by_cases hline : c = '\n'
      · subst hline
        rfl
      · rw [if_neg hbackslash, if_neg hquote, if_neg hline]
        exact takeValue?.eq_7 c rest hquote (fun _ h _ => hbackslash h) (fun _ h _ => hbackslash h)
          (fun _ h _ => hbackslash h) hbackslash hline

/-- **A value is read up to the quote after it**, and is what was escaped. -/
theorem takeValue?_escape (value : String) (rest : List Char) :
    takeValue? ((Labels.escape value).toList ++ '"' :: rest) = some (value.toList, rest) := by
  rw [Labels.escape, String.toList_ofList]
  induction value.toList with
  | nil => rfl
  | cons c value ih =>
    rw [List.flatMap_cons, List.append_assoc, takeValue?_escapeChar, ih]
    rfl

/-! ## §3. Lines. -/

/-- There is no name before something that does not occur. -/
theorem takeName?_of_notMem {stop : Char} {text : List Char} (h : stop ∉ text) : takeName? stop text = none := by
  induction text with
  | nil => rfl
  | cons c text ih =>
    obtain ⟨hc, htext⟩ := List.ne_and_not_mem_of_not_mem_cons h
    rw [takeName?, if_neg hc.symm, ih htext]
    split
    · rfl
    · rfl

theorem takeName?_of_plain {stop : Char} {name : String} (h : IsPlain name) (hstop : stop ∈ reserved)
    (rest : List Char) : takeName? stop (name.toList ++ stop :: rest) = some (name.toList, rest) := by
  unfold IsPlain at h
  generalize name.toList = chars at h ⊢
  induction chars with
  | nil => exact if_pos rfl
  | cons c chars ih =>
    have hc : c ∉ reserved := h c List.mem_cons_self
    have hne : c ≠ stop := fun heq => hc (heq ▸ hstop)
    rw [List.cons_append, takeName?, if_neg hne, if_neg hc, ih fun d hd => h d (List.mem_cons_of_mem c hd)]
    rfl

theorem takeLabel?_renderOne {label : String × String} (h : IsPlain label.1) (rest : List Char) :
    takeLabel? ((Labels.renderOne label).toList ++ rest) = some (label, rest) := by
  have htext : (Labels.renderOne label).toList ++ rest
      = label.1.toList ++ '=' :: '"' :: ((Labels.escape label.2).toList ++ '"' :: rest) := by
    simp [Labels.renderOne]
  unfold takeLabel?
  rw [htext, takeName?_of_plain h (by decide)]
  show (takeValue? _).map _ = _
  rw [takeValue?_escape]
  simp

theorem toList_render_cons (label label' : String × String) (labels : Labels) :
    (Labels.render (label :: label' :: labels)).toList
      = (Labels.renderOne label).toList ++ ',' :: (Labels.render (label' :: labels)).toList := by
  simp [Labels.render, String.toList_intercalate]

/-- Labels are read up to the closing brace. -/
theorem takeLabels?_render {label : String × String} {labels : Labels} (h : ∀ l ∈ label :: labels, IsPlain l.1)
    (rest : List Char) :
    takeLabels? ((Labels.render (label :: labels)).toList ++ '}' :: rest) = some (label :: labels, rest) := by
  induction labels generalizing label with
  | nil =>
    have hrender : Labels.render [label] = Labels.renderOne label := by simp [Labels.render]
    rw [takeLabels?, hrender, takeLabel?_renderOne (h label List.mem_cons_self)]
    rfl
  | cons label' labels ih =>
    have hrest := ih fun l hl => h l (List.mem_cons_of_mem label hl)
    rw [toList_render_cons, List.append_assoc, List.cons_append, takeLabels?,
      takeLabel?_renderOne (h label List.mem_cons_self)]
    show (takeLabels? _).map _ = _
    rw [hrest]
    rfl

/-- No label begins with the closing brace. -/
theorem takeSet?_of_takeLabels? {text rest : List Char} {labels : Labels}
    (h : takeLabels? text = some (labels, rest)) : takeSet? text = some (labels, rest) := by
  unfold takeSet?
  split
  · rw [takeLabels?] at h
    cases h
  · exact h

theorem takeSet?_render {labels : Labels} (h : ∀ l ∈ labels, IsPlain l.1) (rest : List Char) :
    takeSet? ((Labels.render labels).toList ++ '}' :: rest) = some (labels, rest) := by
  cases labels with
  | nil => rfl
  | cons label labels => exact takeSet?_of_takeLabels? (takeLabels?_render h rest)

theorem readCount?_toString (n : Nat) : readCount? (toString n).toList = some n := by
  rw [Nat.toString_eq_ofList_toDigits, String.toList_ofList]
  have hdigits : ∀ c ∈ Nat.toDigits 10 n, c.isDigit :=
    fun c hc => Nat.isDigit_of_mem_toDigits (by decide) (by decide) hc
  rw [readCount?, if_pos ⟨Nat.toDigits_ne_nil, List.all_eq_true.2 hdigits⟩, Nat.ofDigitChars_ten_toDigits]

/-- A line of a metric, without its end. -/
def line (name : String) (labels : Labels) (count : UInt64) : List Char :=
  name.toList ++ '{' :: ((Labels.render labels).toList ++ '}' :: ' ' :: (toString count.toNat).toList)

theorem toList_renderRow (name : String) (labels : Labels) (count : UInt64) :
    (Counter.renderRow name (Labels.render labels, count)).toList = line name labels count ++ ['\n'] := by
  simp [Counter.renderRow, line]

theorem not_mem_of_plain {name : String} (h : IsPlain name) : '\n' ∉ name.toList :=
  fun hmem => h _ hmem (by decide)

theorem not_mem_render {labels : Labels} (h : ∀ l ∈ labels, IsPlain l.1) :
    '\n' ∉ (Labels.render labels).toList := by
  induction labels with
  | nil => exact List.not_mem_nil
  | cons label labels ih =>
    have hname := not_mem_of_plain (h label List.mem_cons_self)
    have hone : '\n' ∉ (Labels.renderOne label).toList := by
      simp [Labels.renderOne, hname, Labels.not_mem_escape]
    cases labels with
    | nil => simpa [Labels.render] using hone
    | cons label' labels =>
      rw [toList_render_cons]
      simp [hone, ih fun l hl => h l (List.mem_cons_of_mem label hl)]

/-- A line is one line. -/
theorem not_mem_line {name : String} {labels : Labels} (hname : IsPlain name) (h : ∀ l ∈ labels, IsPlain l.1)
    (count : UInt64) : '\n' ∉ line name labels count := by
  have hcount : '\n' ∉ Nat.toDigits 10 count.toNat := by
    intro hmem
    have hdigit := Nat.isDigit_of_mem_toDigits (by decide) (by decide) hmem
    revert hdigit
    decide
  simp [line, not_mem_of_plain hname, not_mem_render h, hcount]

/-- **A line is read back as it was shown.** -/
theorem readRow?_line {name : String} {labels : Labels} (hname : IsPlain name) (h : ∀ l ∈ labels, IsPlain l.1)
    (count : UInt64) : readRow? (line name labels count) = some ⟨name, labels, count.toNat⟩ := by
  unfold readRow? line
  rw [takeName?_of_plain hname (by decide)]
  dsimp only
  rw [takeSet?_render h]
  show (readCount? _).map _ = _
  rw [readCount?_toString, String.ofList_toList]
  rfl

end Exposition

end CallGateway
