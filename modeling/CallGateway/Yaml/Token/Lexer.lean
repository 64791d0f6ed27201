/-
  CallGateway.Yaml.Token.Lexer
  ────────────────────────────
  **FROM TEXT TO TOKENS.**

  A key is often known as one only at the colon behind it.  So wherever a
  key might begin, the place is remembered together with the number of
  tokens read so far, and the tokens that announce the key are put in there
  when the colon comes.  Such a key must end on its line, within 1024 bytes;
  where nothing but a key can stand, its colon must come.
-/
import CallGateway.Yaml.Scalar
import CallGateway.Yaml.Token

namespace CallGateway.Yaml

/-! ## §1. The state. -/

/-- A place where a key may have begun. -/
structure KeyCandidate where
  -- Nothing but a key can stand there.
  required : Bool
  -- How many tokens stand before it.
  tokens : Nat
  -- How many bytes of UTF-8 stand before it.
  index : Nat
  -- How many lines end before it.
  line : Nat
  -- How many characters of its line stand before it.
  column : Nat

/-- What is known in the middle of a text. -/
structure Lexer where
  -- Where the next token is looked for.
  cursor : Cursor
  tokens : Array Token := #[]
  flow : Nat := 0
  -- The column of the innermost block collection; -1 outside of all.
  indent : Int := -1
  -- The columns of the block collections around it, the inner ones first.
  outer : List Int := []
  -- A key can begin at the next token.
  keyAllowed : Bool := true
  /-- Where a key may have begun: on the block level and in each open flow
  collection, the inner ones first. -/
  candidates : List (Option KeyCandidate) := [none]

namespace Lexer

/-- Append a token. -/
def emit (t : Token) (x : Lexer) : Lexer := { x with tokens := x.tokens.push t }

/-- Put a token in front of those from the given one on. -/
def emitAt (n : Nat) (t : Token) (x : Lexer) : Lexer :=
  { x with tokens := (x.tokens.extract 0 n).push t ++ x.tokens.extract n x.tokens.size }

/-- Go past some characters of the line. -/
def advance (n : Nat) (x : Lexer) : Lexer := { x with cursor := Cursor.skipN n x.cursor }

/-- Say whether a key can begin next. -/
def allowKey (b : Bool) (x : Lexer) : Lexer := { x with keyAllowed := b }

/-! ## §2. Candidates for keys. -/

/-- The candidate of the innermost level. -/
def candidate (x : Lexer) : Option KeyCandidate := (x.candidates.head?).join

/-- Forget the candidate of the innermost level, which must not be a
required one. -/
def dropCandidate? (x : Lexer) : Option Lexer :=
  if x.candidate.any (·.required) then none
  else some { x with candidates := none :: x.candidates.tail }

/-- Remember this place, where a key can begin. -/
def markCandidate? (x : Lexer) : Option Lexer :=
  if x.keyAllowed then do
    let required := x.flow = 0 && x.indent = x.cursor.column
    let x ← x.dropCandidate?
    let here : KeyCandidate :=
      ⟨required, x.tokens.size, x.cursor.index, x.cursor.line, x.cursor.column⟩
    return { x with candidates := some here :: x.candidates.tail }
  else some x

/-- A candidate whose colon can no longer come. -/
def isStale (c : Cursor) (k : KeyCandidate) : Bool := k.line < c.line || k.index + 1024 < c.index

/-- Forget the candidates whose colon can no longer come. -/
def dropStale? (x : Lexer) : Option Lexer :=
  if x.candidates.any (·.any fun k => isStale x.cursor k && k.required) then none
  else some { x with candidates := x.candidates.map fun k => k.filter fun k => !isStale x.cursor k }

/-! ## §3. Indentation. -/

/-- Open a block collection at a column, unless one is open there. -/
def indentTo (column : Nat) (place : Nat) (start : Token) (x : Lexer) : Lexer :=
  if x.flow = 0 ∧ x.indent < column then
    { x.emitAt place start with indent := column, outer := x.indent :: x.outer }
  else x

/-- Close the block collections that are indented deeper than a column. -/
def closeBlocks (column : Int) (x : Lexer) : Lexer :=
  if x.flow ≠ 0 then x else go x.outer x
where
  -- Closes blocks while there are blocks around them.
  go : List Int → Lexer → Lexer
    | [], x => x
    | i :: outer, x =>
      if column < x.indent then go outer { x.emit .blockEnd with indent := i, outer := outer } else x

/-! ## §4. Between tokens. -/

/-- Go to the next token, past blanks, comments and line breaks.  A tab may
stand where no key can begin, and a line may start with a byte order mark,
which takes up a column. -/
def skipGap : (fuel : Nat) → Lexer → Lexer
  | 0, x => x
  | fuel + 1, x =>
    let c := if x.cursor.column = 0 ∧ x.cursor.sees byteOrderMark then x.cursor.skip else x.cursor
    let tabs := x.flow ≠ 0 || !x.keyAllowed
    let c := c.skipAll fun ch => ch == ' ' || (tabs && ch == '\t')
    let c := if c.sees '#' then c.skipAll (!isBreak ·) else c
    if c.atBreak then
      skipGap fuel { x with cursor := c.skipBreak, keyAllowed := x.keyAllowed || x.flow = 0 }
    else { x with cursor := c }

/-! ## §5. Tokens of one kind. -/

/-- A digit. -/
def isDigit (c : Char) : Bool := '0' ≤ c && c ≤ '9'

/-- A number of the version, of at most nine digits. -/
def takeVersionNumber? (c : Cursor) : Option (Nat × Cursor) :=
  let (ds, c) := c.takeAll isDigit
  if ds = [] ∨ 9 < ds.length then none
  else some (ds.foldl (fun n d => n * 10 + (d.toNat - '0'.toNat)) 0, c)

/-- A character that may stand in a tag; a comma and brackets only in one
between angle brackets. -/
def isTagChar (verbatim : Bool) (c : Char) : Bool :=
  isWord c || [';', '/', '?', ':', '@', '&', '=', '+', '$', '.', '%', '!', '~', '*', '\'', '(', ')'].contains c
    || (verbatim && [',', '[', ']'].contains c)

/-- The byte of a percent sign and two digits. -/
def takePercentByte? (c : Cursor) : Option (UInt8 × Cursor) :=
  match c.rest with
  | '%' :: h :: l :: _ => do
    return (((← hexDigit? h) * 16 + (← hexDigit? l)).toUInt8, Cursor.skipN 3 c)
  | _ => none

/-- So many bytes, written with percent signs. -/
def takePercentBytes? : (count : Nat) → Cursor → Option (Bytes × Cursor)
  | 0, c => some ([], c)
  | n + 1, c => do
    let (b, c) ← takePercentByte? c
    let (bs, c) ← takePercentBytes? n c
    return (b :: bs, c)

/-- How many bytes the encoding of a character has that starts with a given
one. -/
def encodingWidth? (b : UInt8) : Option Nat :=
  if b < 0x80 then some 1
  else if b &&& 0xe0 = 0xc0 then some 2
  else if b &&& 0xf0 = 0xe0 then some 3
  else if b &&& 0xf8 = 0xf0 then some 4
  else none

/-- The bytes of one character, written with percent signs.  Only their
form is looked at: the first one says how many there are, and the others
continue it. -/
def takePercentChar? (c : Cursor) : Option (Bytes × Cursor) := do
  let (b, _) ← takePercentByte? c
  let (bs, c) ← takePercentBytes? (← encodingWidth? b) c
  if bs.tail.all fun b => b &&& 0xc0 = 0x80 then return (bs, c) else none

/-- The bytes of a tag, after those in `acc`, the last one first. -/
def takeTagBytes? (verbatim : Bool) : (fuel : Nat) → (acc : Bytes) → Cursor → Option (Bytes × Cursor)
  | 0, acc, c => some (acc.reverse, c)
  | fuel + 1, acc, c =>
    match c.peek with
    | none => some (acc.reverse, c)
    | some ch =>
      if ch = '%' then do
        let (bs, c) ← takePercentChar? c
        takeTagBytes? verbatim fuel (bs.reverse ++ acc) c
      else if isTagChar verbatim ch then takeTagBytes? verbatim fuel (ch.toNat.toUInt8 :: acc) c.skip
      else some (acc.reverse, c)

/-- A tag, of which some characters were read as a handle.  A tag ends in
front of its first zero byte. -/
def takeTagText? (verbatim : Bool) (handle : List Char) (c : Cursor) : Option (Tag × Cursor) := do
  let (bs, c) ← takeTagBytes? verbatim c.rest.length [] c
  if handle = [] ∧ bs = [] then none
  else return (Bytes.ofText (String.ofList (handle.drop 1)) ++ bs.takeWhile (· ≠ 0), c)

/-- A tag's handle. -/
def takeTagHandle? (directive : Bool) (c : Cursor) : Option (List Char × Cursor) :=
  if !c.sees '!' then none
  else
    let (word, c) := c.skip.takeAll isWord
    if c.sees '!' then some ('!' :: word ++ ['!'], c.skip)
    else if directive ∧ word ≠ [] then none
    else some ('!' :: word, c)

/-- The directive that begins here. -/
def takeDirective? (c : Cursor) : Option (Token × Cursor) := do
  let (name, c) := c.skip.takeAll isWord
  if name = [] ∨ !c.atGap then none
  let (t, c) ←
    if name = "YAML".toList then do
      let (major, c) ← takeVersionNumber? (c.skipAll isBlank)
      if !c.sees '.' then none
      let (minor, c) ← takeVersionNumber? c.skip
      pure (Token.versionDirective major minor, c)
    else if name = "TAG".toList then do
      let (handle, c) ← takeTagHandle? true (c.skipAll isBlank)
      if !c.atBlank then none
      let (start, c) ← takeTagText? true [] (c.skipAll isBlank)
      if !c.atGap then none
      pure (Token.tagDirective (String.ofList handle) start, c)
    else none
  let c := c.skipAll isBlank
  let c := if c.sees '#' then c.skipAll (!isBreak ·) else c
  if c.atBreakOrEnd then return (t, c.skipBreak) else none

/-- The name that an anchor or an alias has. -/
def takeName? (c : Cursor) : Option (String × Cursor) :=
  let (name, c) := c.skip.takeAll isWord
  if name = [] then none
  else if c.atGap || c.seesAny ['?', ':', ',', ']', '}', '%', '@', Char.ofNat 0x60] then
    some (String.ofList name, c)
  else none

/-- The tag that begins here. -/
def takeTag? (flow : Bool) (c : Cursor) : Option (Token × Cursor) := do
  let (t, c) ←
    if c.sees '<' 1 then do
      let (suffix, c) ← takeTagText? true [] (Cursor.skipN 2 c)
      if !c.sees '>' then none
      pure (Token.tag "" suffix, c.skip)
    else do
      let (handle, c) ← takeTagHandle? false c
      if 2 ≤ handle.length ∧ handle.getLast? = some '!' then
        let (suffix, c) ← takeTagText? false [] c
        pure (Token.tag (String.ofList handle) suffix, c)
      else
        let (suffix, c) ← takeTagText? false handle c
        pure (if suffix = [] then Token.tag "" (Bytes.ofText "!") else Token.tag "!" suffix, c)
  if c.atGap || (flow && c.sees ',') then return (t, c) else none

/-! ## §6. The next token. -/

/-- The first token of a line that belongs to no block: blocks end. -/
def leaveBlocks? (x : Lexer) : Option Lexer := do
  let x ← (x.closeBlocks (-1)).dropCandidate?
  return x.allowKey false

/-- An opening bracket or brace. -/
def openFlow? (t : Token) (x : Lexer) : Option Lexer := do
  let x ← x.markCandidate?
  return { ((x.advance 1).emit t).allowKey true with
    flow := x.flow + 1, candidates := none :: x.candidates }

/-- A closing bracket or brace. -/
def closeFlow? (t : Token) (x : Lexer) : Option Lexer := do
  let x ← x.dropCandidate?
  let x := if x.flow = 0 then x else { x with flow := x.flow - 1, candidates := x.candidates.tail }
  return ((x.advance 1).emit t).allowKey false

/-- A hyphen in front of an entry. -/
def blockEntry? (x : Lexer) : Option Lexer := do
  if x.flow = 0 ∧ !x.keyAllowed then none
  let x := x.indentTo x.cursor.column x.tokens.size .blockSequenceStart
  let x ← x.dropCandidate?
  return ((x.advance 1).emit .blockEntry).allowKey true

/-- A question mark in front of a key. -/
def explicitKey? (x : Lexer) : Option Lexer := do
  if x.flow = 0 ∧ !x.keyAllowed then none
  let x := x.indentTo x.cursor.column x.tokens.size .blockMappingStart
  let x ← x.dropCandidate?
  return ((x.advance 1).emit .key).allowKey (x.flow = 0)

/-- A colon in front of a value. -/
def value? (x : Lexer) : Option Lexer := do
  match x.candidate with
  | some k =>
    let x := (x.emitAt k.tokens .key).indentTo k.column k.tokens .blockMappingStart
    let x := { x with candidates := none :: x.candidates.tail }
    return ((x.advance 1).emit .value).allowKey false
  | none =>
    if x.flow = 0 ∧ !x.keyAllowed then none
    let x := x.indentTo x.cursor.column x.tokens.size .blockMappingStart
    return ((x.advance 1).emit .value).allowKey (x.flow = 0)

/-- A token that a key can begin with, or be. -/
def node? (read : Cursor → Option (Token × Cursor)) (x : Lexer) : Option Lexer := do
  let x ← x.markCandidate?
  let (t, c) ← read x.cursor
  return { (x.emit t).allowKey false with cursor := c }

/-- A block scalar. -/
def block? (literal : Bool) (x : Lexer) : Option Lexer := do
  let x ← x.dropCandidate?
  let (s, c) ← takeBlock? literal x.indent x.cursor.skip
  return { (x.emit (.scalar s (if literal then .literal else .folded))).allowKey true with cursor := c }

/-- A scalar in quotes. -/
def quoted? (single : Bool) : Lexer → Option Lexer :=
  node? fun c => do
    let (s, c) ← takeQuoted? single (c.rest.length + 1) [] c.skip
    return (.scalar s (if single then .singleQuoted else .doubleQuoted), c)

/-- A plain scalar.  Behind a line break a key can begin. -/
def plain? (x : Lexer) : Option Lexer := do
  let x ← x.markCandidate?
  let (s, broken, c) ← takePlain? (x.flow ≠ 0) (x.indent + 1).toNat (x.cursor.rest.length + 1) [] {} x.cursor
  return { (x.emit (.scalar s .plain)).allowKey broken with cursor := c }

/-- A plain scalar can begin with this character. -/
def startsPlain (x : Lexer) (ch : Char) : Bool :=
  !(['-', '?', ':', ',', '[', ']', '{', '}', '#', '&', '*', '!', '|', '>', '\'', '"', '%', '@',
      Char.ofNat 0x60].contains ch || isBlank ch || isBreak ch)
    || (ch == '-' && !x.cursor.atBlank 1)
    || (x.flow = 0 && (ch == '?' || ch == ':') && !x.cursor.atGap 1)

/-- Read one token that begins with a given character. -/
def token? (ch : Char) (x : Lexer) : Option Lexer :=
  let c := x.cursor
  if c.column = 0 ∧ ch = '%' then do
    let x ← x.leaveBlocks?
    let (t, c) ← takeDirective? x.cursor
    return { x.emit t with cursor := c }
  else if c.atDocumentMark '-' then x.leaveBlocks?.map fun x => (x.advance 3).emit .documentStart
  else if c.atDocumentMark '.' then x.leaveBlocks?.map fun x => (x.advance 3).emit .documentEnd
  else if ch = '[' then x.openFlow? .flowSequenceStart
  else if ch = '{' then x.openFlow? .flowMappingStart
  else if ch = ']' then x.closeFlow? .flowSequenceEnd
  else if ch = '}' then x.closeFlow? .flowMappingEnd
  else if ch = ',' then do
    let x ← x.dropCandidate?
    return ((x.advance 1).emit .flowEntry).allowKey true
  else if ch = '-' ∧ c.atGap 1 then x.blockEntry?
  else if ch = '?' ∧ (x.flow ≠ 0 ∨ c.atGap 1) then x.explicitKey?
  else if ch = ':' ∧ (x.flow ≠ 0 ∨ c.atGap 1) then x.value?
  else if ch = '*' then x.node? fun c => (takeName? c).map fun (s, c) => (.alias s, c)
  else if ch = '&' then x.node? fun c => (takeName? c).map fun (s, c) => (.anchor s, c)
  else if ch = '!' then x.node? (takeTag? (x.flow ≠ 0))
  else if ch = '|' ∧ x.flow = 0 then x.block? true
  else if ch = '>' ∧ x.flow = 0 then x.block? false
  else if ch = '\'' then x.quoted? true
  else if ch = '"' then x.quoted? false
  else if x.startsPlain ch then x.plain?
  else none

/-- The end of the text: all blocks end. -/
def finish? (x : Lexer) : Option (List Token) := do
  let x ← (x.closeBlocks (-1)).dropCandidate?
  return x.tokens.toList

/-- Read token after token up to the end of the text. -/
def run? : (fuel : Nat) → Lexer → Option (List Token)
  | 0, _ => none
  | fuel + 1, x => do
    let x := x.skipGap (x.cursor.rest.length + 1)
    let x ← x.dropStale?
    let x := x.closeBlocks x.cursor.column
    match x.cursor.peek with
    | none => x.finish?
    | some ch => do run? fuel (← x.token? ch)

end Lexer

/-- The tokens of a text. -/
def Token.ofText? (text : String) : Option (List Token) :=
  let cs := text.toList
  if cs.all isAllowed then Lexer.run? (cs.length + 1) { cursor := { rest := cs } } else none

end CallGateway.Yaml
