/-
  CallGateway.Json.Printer
  ────────────────────────
  **COMPACT JSON TEXT.**

  No blanks between tokens.  In a string only the quote, the backslash and
  the control characters below space are escaped; all else stands as its
  UTF-8 bytes, so escaping works byte by byte.
-/
import CallGateway.Json.Value
import CallGateway.Number.Shortest

namespace CallGateway.Json

/-! ## §1. Scalars. -/

/-- The decimal digits of a number. -/
def renderNat (n : Nat) : Bytes :=
  if n < 10 then [Ascii.zero + n.toUInt8] else renderNat (n / 10) ++ [Ascii.zero + (n % 10).toUInt8]

/-- The decimal digits of a number, after a minus where it is negative. -/
def renderInt : Int → Bytes
  | .ofNat n => renderNat n
  | .negSucc n => Ascii.minus :: renderNat (n + 1)

/-- A lower-case hexadecimal digit. -/
def hexDigit (n : UInt8) : UInt8 := if n < 10 then Ascii.zero + n else 0x57 + n

/-- How one byte of a string is written. -/
def escapeByte (b : UInt8) : Bytes :=
  match b with
  | 0x22 => [Ascii.backslash, Ascii.quote]
  | 0x5c => [Ascii.backslash, Ascii.backslash]
  | 0x08 => [Ascii.backslash, Ascii.code 'b']
  | 0x09 => [Ascii.backslash, Ascii.code 't']
  | 0x0a => [Ascii.backslash, Ascii.code 'n']
  | 0x0c => [Ascii.backslash, Ascii.code 'f']
  | 0x0d => [Ascii.backslash, Ascii.code 'r']
  | b => if b < 0x20 then
      [Ascii.backslash, Ascii.code 'u', Ascii.zero, Ascii.zero, hexDigit (b / 16), hexDigit (b % 16)]
    else [b]

/-- A string between its quotes. -/
def renderString (s : String) : Bytes :=
  Ascii.quote :: (Bytes.ofText s).flatMap escapeByte ++ [Ascii.quote]

/-- A number; a double in as few digits as read back. -/
def Number.render : Number → Bytes
  | integer n => renderInt n.val
  | double x => Bytes.ofText x.compact

/-! ## §2. Values. -/

/-- Some texts with a comma between them. -/
def commaJoin : List Bytes → Bytes
  | [] => []
  | [x] => x
  | x :: xs => x ++ Ascii.comma :: commaJoin xs

/-- An array of written items. -/
def renderArray (items : List Bytes) : Bytes :=
  Ascii.openBracket :: commaJoin items ++ [Ascii.closeBracket]

/-- An object of written values under their names, in the given order. -/
def renderObject (members : List (String × Bytes)) : Bytes :=
  Ascii.openBrace :: commaJoin (members.map fun m => renderString m.1 ++ Ascii.colon :: m.2)
    ++ [Ascii.closeBrace]

namespace Value

mutual

/-- The text of a value. -/
def render : Value → Bytes
  | null => Bytes.ofText "null"
  | bool true => Bytes.ofText "true"
  | bool false => Bytes.ofText "false"
  | number n => n.render
  | string s => renderString s
  | array items => renderArray (renderItems items)
  | object members => renderObject (renderMembers members)

/-- The texts of some values. -/
def renderItems : List Value → List Bytes
  | [] => []
  | v :: vs => v.render :: renderItems vs

/-- The names and texts of some members. -/
def renderMembers : List (String × Value) → List (String × Bytes)
  | [] => []
  | (k, v) :: ms => (k, v.render) :: renderMembers ms

end

end Value

end CallGateway.Json
