/-
  CallGateway.Yaml.Scalar
  ───────────────────────
  **SCALARS AS THEY ARE WRITTEN.**

  A scalar that goes over several lines is folded: one line break becomes a
  space, and of several the first one is left out.  In a literal block every
  line break stays.
-/
import CallGateway.Yaml.Cursor

namespace CallGateway.Yaml

/-! ## §1. Gaps: the blanks and line breaks inside a scalar. -/

/-- A run of blanks and line breaks inside a scalar. -/
structure Gap where
  -- The gap holds a line break; the blanks around it do not count.
  broken : Bool := false
  -- The blanks of a gap without line break.
  blanks : List Char := []
  -- The first line break.
  first : List Char := []
  others : List Char := []

namespace Gap

/-- What a gap with these line breaks is folded to. -/
def fold (first others : List Char) : List Char :=
  if first = ['\n'] then (if others = [] then [' '] else others) else first ++ others

/-- What a gap stands for. -/
def text (g : Gap) : List Char := if g.broken then fold g.first g.others else g.blanks

/-- Read a gap on.  A tab may not stand for indentation: in front of the
column `margin` of a later line it is refused. -/
def take? (margin : Nat) : (fuel : Nat) → Gap → Cursor → Option (Gap × Cursor)
  | 0, g, c => some (g, c)
  | fuel + 1, g, c =>
    match c.peek with
    | none => some (g, c)
    | some ch =>
      if isBlank ch then
        if g.broken then
          if ch = '\t' ∧ c.column < margin then none else take? margin fuel g c.skip
        else take? margin fuel { g with blanks := g.blanks ++ [ch] } c.skip
      else if isBreak ch then
        let (brk, next) := c.takeBreak
        if g.broken then take? margin fuel { g with others := g.others ++ brk } next
        else take? margin fuel { broken := true, first := brk } next
      else some (g, c)

end Gap

/-! ## §2. Scalars in quotes. -/

/-- What a backslash and a character stand for, if that is one character. -/
def shortEscape? : Char → Option Char
  | '0' => some (Char.ofNat 0)
  | 'a' => some (Char.ofNat 7)
  | 'b' => some (Char.ofNat 8)
  | 't' => some '\t'
  | '\t' => some '\t'
  | 'n' => some '\n'
  | 'v' => some (Char.ofNat 11)
  | 'f' => some (Char.ofNat 12)
  | 'r' => some '\r'
  | 'e' => some (Char.ofNat 27)
  | ' ' => some ' '
  | '"' => some '"'
  | '/' => some '/'
  | '\\' => some '\\'
  | 'N' => some (Char.ofNat 0x85)
  | '_' => some (Char.ofNat 0xa0)
  | 'L' => some (Char.ofNat 0x2028)
  | 'P' => some (Char.ofNat 0x2029)
  | _ => none

/-- How many hexadecimal digits follow a character behind a backslash. -/
def escapeDigits? : Char → Option Nat
  | 'x' => some 2
  | 'u' => some 4
  | 'U' => some 8
  | _ => none

/-- The number that so many hexadecimal digits give. -/
def hexNumber? (n : Nat) (cs : List Char) : Option Nat :=
  if cs.length < n then none
  else (cs.take n).foldlM (fun acc c => (hexDigit? c).map (acc * 16 + ·)) 0

/-- The character of an escape that begins here, behind its backslash. -/
def takeEscape? (c : Cursor) : Option (Char × Cursor) := do
  let ch ← c.peek
  match shortEscape? ch with
  | some e => return (e, c.skip)
  | none =>
    let n ← escapeDigits? ch
    let v ← hexNumber? n c.skip.rest
    if (0xd800 ≤ v ∧ v ≤ 0xdfff) ∨ 0x10ffff < v then none
    else return (Char.ofNat v, Cursor.skipN (n + 1) c)

/-- The characters up to the next gap or the closing quote, last one first,
and whether they end with an escaped line break. -/
def takeQuotedWord? (single : Bool) : (fuel : Nat) → List Char → Cursor → Option (List Char × Bool × Cursor)
  | 0, acc, c => some (acc, false, c)
  | fuel + 1, acc, c =>
    if c.atGap then some (acc, false, c)
    else match c.peek with
    | none => some (acc, false, c)
    | some ch =>
      if single ∧ ch = '\'' then
        if c.sees '\'' 1 then takeQuotedWord? single fuel ('\'' :: acc) (Cursor.skipN 2 c)
        else some (acc, false, c)
      else if !single ∧ ch = '"' then some (acc, false, c)
      else if !single ∧ ch = '\\' then
        if c.atBreak 1 then some (acc, true, c.skip.skipBreak)
        else do
          let (e, c) ← takeEscape? c.skip
          takeQuotedWord? single fuel (e :: acc) c
      else takeQuotedWord? single fuel (ch :: acc) c.skip

/-- The rest of a scalar in quotes, of which `acc` is what was read before,
last character first. -/
def takeQuoted? (single : Bool) : (fuel : Nat) → List Char → Cursor → Option (String × Cursor)
  | 0, _, _ => none
  | fuel + 1, acc, c => do
    if c.atDocumentBoundary || c.atEnd then none
    let (acc, escapedBreak, c) ← takeQuotedWord? single c.rest.length acc c
    if c.sees (if single then '\'' else '"') then return (String.ofList acc.reverse, c.skip)
    let (gap, c) ← Gap.take? 0 c.rest.length { broken := escapedBreak } c
    takeQuoted? single fuel (gap.text.reverse ++ acc) c

/-! ## §3. Plain scalars. -/

/-- The characters of a plain scalar up to the next gap or to what ends the
scalar, last one first. -/
def takePlainWord? (flow : Bool) : (fuel : Nat) → List Char → Cursor → Option (List Char × Cursor)
  | 0, acc, c => some (acc, c)
  | fuel + 1, acc, c =>
    if c.atGap then some (acc, c)
    else match c.peek with
    | none => some (acc, c)
    | some ch =>
      if flow ∧ ch = ':' ∧ c.seesAny [',', '?', '[', ']', '{', '}'] 1 then none
      else if (ch = ':' ∧ c.atGap 1) ∨ (flow ∧ [',', '[', ']', '{', '}'].contains ch) then some (acc, c)
      else takePlainWord? flow fuel (ch :: acc) c.skip

/-- The rest of a plain scalar whose further lines are indented to `margin`,
and whether it was left after a line break. -/
def takePlain? (flow : Bool) (margin : Nat) : (fuel : Nat) → List Char → Gap → Cursor →
    Option (String × Bool × Cursor)
  | 0, _, _, _ => none
  | fuel + 1, acc, gap, c => do
    if c.atDocumentBoundary || c.sees '#' then return (String.ofList acc.reverse, gap.broken, c)
    let (word, c) ← takePlainWord? flow c.rest.length [] c
    if word = [] then return (String.ofList acc.reverse, gap.broken, c)
    let acc := word ++ gap.text.reverse ++ acc
    if !c.atBlank && !c.atBreak then return (String.ofList acc.reverse, false, c)
    let (gap, c) ← Gap.take? margin c.rest.length {} c
    if !flow && c.column < margin then return (String.ofList acc.reverse, gap.broken, c)
    takePlain? flow margin fuel acc gap c

/-! ## §4. Block scalars. -/

/-- What becomes of the line breaks at the end of a block. -/
inductive Chomping where
  | strip
  -- The first one is kept.
  | clip
  | keep
  deriving DecidableEq

/-- The line breaks between two lines of a block, while its indentation is
known (`indent`) or still to be found (zero); also the deepest column of a
line that was looked at. -/
def takeBlockBreaks? (indent : Nat) : (fuel : Nat) → List Char → Nat → Cursor →
    Option (List Char × Nat × Cursor)
  | 0, breaks, deepest, c => some (breaks, deepest, c)
  | fuel + 1, breaks, deepest, c =>
    let c := c.skipWhile (· == ' ') (if indent = 0 then c.rest.length else indent - c.column)
    let deepest := max deepest c.column
    if (indent = 0 ∨ c.column < indent) ∧ c.sees '\t' then none
    else if c.atBreak then
      let (brk, c) := c.takeBreak
      takeBlockBreaks? indent fuel (breaks ++ brk) deepest c
    else some (breaks, deepest, c)

/-- The lines of a block.  `acc` holds the text before, last character
first, `lead` the break that ended the last line, `others` the breaks after
it. -/
def takeBlockLines? (literal : Bool) (indent : Nat) : (fuel : Nat) → (acc lead others : List Char) →
    (wasBlank : Bool) → Cursor → Option (List Char × List Char × List Char × Cursor)
  | 0, acc, lead, others, _, c => some (acc, lead, others, c)
  | fuel + 1, acc, lead, others, wasBlank, c =>
    if c.column ≠ indent ∨ c.atEnd then some (acc, lead, others, c)
    else do
      let blank := c.atBlank
      let joint :=
        if !literal ∧ lead = ['\n'] ∧ !wasBlank ∧ !blank then (if others = [] then [' '] else [])
        else lead
      let (line, c) := c.takeAll (!isBreak ·)
      let acc := line.reverse ++ others.reverse ++ joint.reverse ++ acc
      let (lead, c) := c.takeBreak
      let (others, _, c) ← takeBlockBreaks? indent c.rest.length [] 0 c
      takeBlockLines? literal indent fuel acc lead others blank c

/-- The sign that says what becomes of the last line breaks. -/
def takeChomping? (c : Cursor) : Option (Chomping × Cursor) :=
  if c.sees '+' then some (.keep, c.skip)
  else if c.sees '-' then some (.strip, c.skip)
  else none

/-- The digit that says how deep a block is indented. -/
def takeIndentDigit? (c : Cursor) : Option (Nat × Cursor) := do
  let ch ← c.peek
  if '0' ≤ ch ∧ ch ≤ '9' then return (ch.toNat - '0'.toNat, c.skip) else none

/-- What stands behind the sign of a block: how it is chomped and how deep
it is indented, in either order; zero where that is to be found out. -/
def takeBlockHeader? (c : Cursor) : Option (Chomping × Nat × Cursor) :=
  match takeChomping? c with
  | some (chomping, c) =>
    match takeIndentDigit? c with
    | some (0, _) => none
    | some (n, c) => some (chomping, n, c)
    | none => some (chomping, 0, c)
  | none =>
    match takeIndentDigit? c with
    | some (0, _) => none
    | some (n, c) => match takeChomping? c with
      | some (chomping, c) => some (chomping, n, c)
      | none => some (.clip, n, c)
    | none => some (.clip, 0, c)

/-- A block scalar behind its sign, inside a block indented to `parent`
(-1 outside of all). -/
def takeBlock? (literal : Bool) (parent : Int) (c : Cursor) : Option (String × Cursor) := do
  let (chomping, increment, c) ← takeBlockHeader? c
  let c := c.skipAll isBlank
  let c := if c.sees '#' then c.skipAll (!isBreak ·) else c
  if !c.atBreakOrEnd then none
  let c := c.skipBreak
  let given := if increment = 0 then 0 else parent.toNat + increment
  let (others, deepest, c) ← takeBlockBreaks? given c.rest.length [] 0 c
  let indent := if given = 0 then max (max deepest (parent + 1).toNat) 1 else given
  let (acc, lead, others, c) ←
    takeBlockLines? literal indent (c.rest.length + 1) [] [] others false c
  let ending := match chomping with
    | .strip => []
    | .clip => lead
    | .keep => lead ++ others
  return (String.ofList (acc.reverse ++ ending), c)

end CallGateway.Yaml
