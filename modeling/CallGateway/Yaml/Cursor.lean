/-
  CallGateway.Yaml.Cursor
  ───────────────────────
  **A PLACE IN A YAML TEXT.**

  The classes of characters that YAML tells apart, and a place in a text
  that knows its line and column.
-/

namespace CallGateway.Yaml

/-! ## §1. Characters. -/

/-- A character that may stand in a YAML text. -/
def isAllowed (c : Char) : Bool :=
  c == '\t' || c == '\n' || c == '\r' || (0x20 ≤ c.toNat && c.toNat ≤ 0x7e) || c.toNat == 0x85
    || (0xa0 ≤ c.toNat && c.toNat ≤ 0xfffd) || 0x10000 ≤ c.toNat

/-- The mark that may stand at the start of a line. -/
def byteOrderMark : Char := Char.ofNat 0xfeff

/-- A space or a tab. -/
def isBlank (c : Char) : Bool := c == ' ' || c == '\t'

/-- A character that ends a line. -/
def isBreak (c : Char) : Bool :=
  c == '\n' || c == '\r' || c.toNat == 0x85 || c.toNat == 0x2028 || c.toNat == 0x2029

/-- A character of a name. -/
def isWord (c : Char) : Bool :=
  ('0' ≤ c && c ≤ '9') || ('A' ≤ c && c ≤ 'Z') || ('a' ≤ c && c ≤ 'z') || c == '_' || c == '-'

/-- The value of a hexadecimal digit. -/
def hexDigit? (c : Char) : Option Nat :=
  if '0' ≤ c ∧ c ≤ '9' then some (c.toNat - '0'.toNat)
  else if 'a' ≤ c ∧ c ≤ 'f' then some (c.toNat - 'a'.toNat + 10)
  else if 'A' ≤ c ∧ c ≤ 'F' then some (c.toNat - 'A'.toNat + 10)
  else none

/-! ## §2. Places. -/

/-- A place in a text. -/
structure Cursor where
  rest : List Char
  -- How many bytes of UTF-8 stand before it.
  index : Nat := 0
  -- How many lines end before it.
  line : Nat := 0
  -- How many characters of its line stand before it.
  column : Nat := 0

namespace Cursor

/-- The character so many places ahead; `none` at the end of the text. -/
def peek (c : Cursor) (ahead : Nat := 0) : Option Char := c.rest[ahead]?

/-- A given character stands so many places ahead. -/
def sees (c : Cursor) (ch : Char) (ahead : Nat := 0) : Bool := c.peek ahead == some ch

/-- One of some characters stands so many places ahead. -/
def seesAny (c : Cursor) (chars : List Char) (ahead : Nat := 0) : Bool :=
  (c.peek ahead).any chars.contains

/-- The end of the text. -/
def atEnd (c : Cursor) : Bool := c.rest.isEmpty

/-- A blank. -/
def atBlank (c : Cursor) (ahead : Nat := 0) : Bool := (c.peek ahead).any isBlank

/-- A line break. -/
def atBreak (c : Cursor) (ahead : Nat := 0) : Bool := (c.peek ahead).any isBreak

/-- A line break or the end of the text. -/
def atBreakOrEnd (c : Cursor) (ahead : Nat := 0) : Bool := (c.peek ahead).all isBreak

/-- A blank, a line break or the end of the text. -/
def atGap (c : Cursor) (ahead : Nat := 0) : Bool :=
  (c.peek ahead).all fun ch => isBlank ch || isBreak ch

/-- Go past one character. -/
def skip (c : Cursor) : Cursor :=
  match c.rest with
  | [] => c
  | ch :: rest => { rest, index := c.index + ch.utf8Size, line := c.line, column := c.column + 1 }

/-- Go past some characters of the line. -/
def skipN : Nat → Cursor → Cursor
  | 0, c => c
  | n + 1, c => skipN n c.skip

/-- Go past a line break, if one stands here; the line breaks that mean the
same are read as one character. -/
def takeBreak (c : Cursor) : List Char × Cursor :=
  match c.rest with
  | '\r' :: '\n' :: rest => (['\n'], { rest, index := c.index + 2, line := c.line + 1, column := 0 })
  | ch :: rest =>
    if isBreak ch then
      (if ch.toNat < 0x2028 then ['\n'] else [ch],
        { rest, index := c.index + ch.utf8Size, line := c.line + 1, column := 0 })
    else ([], c)
  | [] => ([], c)

/-- Go past a line break, if one stands here. -/
def skipBreak (c : Cursor) : Cursor := c.takeBreak.2

/-- Go past the characters of a class, given that many steps. -/
def skipWhile (p : Char → Bool) : Nat → Cursor → Cursor
  | 0, c => c
  | n + 1, c => if (c.peek).any p then skipWhile p n c.skip else c

/-- Go past all characters of a class. -/
def skipAll (p : Char → Bool) (c : Cursor) : Cursor := c.skipWhile p c.rest.length

/-- The characters of a class that stand here. -/
def takeAll (p : Char → Bool) (c : Cursor) : List Char × Cursor :=
  (c.rest.takeWhile p, c.skipAll p)

/-- Three hyphens or three dots that stand alone at the start of a line. -/
def atDocumentMark (c : Cursor) (mark : Char) : Bool :=
  c.column == 0 && c.sees mark && c.sees mark 1 && c.sees mark 2 && c.atGap 3

/-- The start or the end of a document. -/
def atDocumentBoundary (c : Cursor) : Bool := c.atDocumentMark '-' || c.atDocumentMark '.'

end Cursor

end CallGateway.Yaml
