/-
  CallGateway.Json.Surface
  ────────────────────────
  **JSON TEXT AS IT IS WRITTEN.**

  Reading a text has two steps.  The first one, here, finds out how the text
  is built: which arrays and objects are open where, and where a string or a
  number begins and ends.  It looks into neither: a string keeps its escapes
  and need not be valid UTF-8, a number may be too large for anything.  The
  second step gives a meaning to those parts of the text that are wanted,
  so that a reader can pass over members that it does not know.
-/
import CallGateway.Bytes

namespace CallGateway.Json

/-! ## §1. The written form. -/

/-- A number as it is written. -/
structure Literal where
  negative : Bool
  -- The digits before the point.
  whole : List Nat
  -- The digits after the point, if there is one.
  fraction : Option (List Nat)
  -- The exponent, if there is one: whether it has a minus, and its digits.
  exponent : Option (Bool × List Nat)
  deriving DecidableEq, Repr, Inhabited

/-- A JSON text as it is written. -/
inductive Surface where
  | null
  -- One of the words `true` and `false`.
  | bool (b : Bool)
  | number (literal : Literal)
  | string (content : Bytes)
  | array (items : List Surface)
  -- The members of an object as they stand, repeated names included.
  | object (members : List (Bytes × Surface))
  deriving Inhabited

namespace Surface

/-! ## §2. Tokens. -/

/-- The blanks that may stand between tokens. -/
def isBlank (b : UInt8) : Bool :=
  b == Ascii.space || b == Ascii.tab || b == Ascii.newline || b == Ascii.carriageReturn

/-- The text from its first token on. -/
def skipBlank : Bytes → Bytes
  | [] => []
  | b :: bs => if isBlank b then skipBlank bs else b :: bs

/-- The rest of a text after a given word. -/
def afterWord? : Bytes → Bytes → Option Bytes
  | [], bs => some bs
  | w :: ws, b :: bs => if w = b then afterWord? ws bs else none
  | _ :: _, [] => none

/-- The value of a hexadecimal digit. -/
def hexValue? (b : UInt8) : Option Nat :=
  if Ascii.isDigit b then some (Ascii.digit b)
  else if 0x61 ≤ b && b ≤ 0x66 then some (b.toNat - 0x57)
  else if 0x41 ≤ b && b ≤ 0x46 then some (b.toNat - 0x37)
  else none

/-- What a backslash and one more byte stand for. -/
def shortEscape? (b : UInt8) : Option UInt8 :=
  if b = Ascii.quote then some Ascii.quote
  else if b = Ascii.backslash then some Ascii.backslash
  else if b = Ascii.code '/' then some (Ascii.code '/')
  else if b = Ascii.code 'b' then some 0x08
  else if b = Ascii.code 'f' then some Ascii.formFeed
  else if b = Ascii.code 'n' then some Ascii.newline
  else if b = Ascii.code 'r' then some Ascii.carriageReturn
  else if b = Ascii.code 't' then some Ascii.tab
  else none

/-- The content of a string after its opening quote, and what follows the
closing one.  Control characters must be escaped, and escapes well-formed. -/
def takeContent (acc : Bytes) : Bytes → Option (Bytes × Bytes)
  | [] => none
  | Ascii.backslash :: e :: bs =>
    if (shortEscape? e).isSome then takeContent (e :: Ascii.backslash :: acc) bs
    else if e = Ascii.code 'u' then
      match bs with
      | h₁ :: h₂ :: h₃ :: h₄ :: rest =>
        if [h₁, h₂, h₃, h₄].all fun h => (hexValue? h).isSome then
          takeContent (h₄ :: h₃ :: h₂ :: h₁ :: e :: Ascii.backslash :: acc) rest
        else none
      | _ => none
    else none
  | b :: bs =>
    if b = Ascii.quote then some (acc.reverse, bs)
    else if b = Ascii.backslash || b < 0x20 then none
    else takeContent (b :: acc) bs

/-- The digits at the start of a text, and the rest. -/
def takeDigits (acc : List Nat) : Bytes → List Nat × Bytes
  | [] => (acc.reverse, [])
  | b :: bs => if Ascii.isDigit b then takeDigits (Ascii.digit b :: acc) bs else (acc.reverse, b :: bs)

/-- The digits before the point: one zero, or digits that do not begin
with it. -/
def takeWhole? : Bytes → Option (List Nat × Bytes)
  | [] => none
  | b :: bs =>
    if b = Ascii.zero then some ([0], bs)
    else if Ascii.isDigit b then some (takeDigits [Ascii.digit b] bs)
    else none

/-- One digit or more. -/
def takeSomeDigits? (bs : Bytes) : Option (List Nat × Bytes) :=
  match takeDigits [] bs with
  | ([], _) => none
  | (ds, rest) => some (ds, rest)

/-- The point of a number with the digits after it, where there is one. -/
def takeFraction? (bs : Bytes) : Option (Option (List Nat) × Bytes) :=
  match bs with
  | Ascii.dot :: rest => (takeSomeDigits? rest).map fun (ds, rest) => (some ds, rest)
  | _ => some (none, bs)

/-- The exponent of a number, where there is one. -/
def takeExponent? (bs : Bytes) : Option (Option (Bool × List Nat) × Bytes) :=
  match bs with
  | b :: rest =>
    if b = Ascii.code 'e' || b = Ascii.code 'E' then
      match rest with
      | Ascii.plus :: rest => (takeSomeDigits? rest).map fun (ds, rest) => (some (false, ds), rest)
      | Ascii.minus :: rest => (takeSomeDigits? rest).map fun (ds, rest) => (some (true, ds), rest)
      | _ => (takeSomeDigits? rest).map fun (ds, rest) => (some (false, ds), rest)
    else some (none, bs)
  | [] => some (none, bs)

/-- A number without its sign. -/
def takeUnsigned? (negative : Bool) (bs : Bytes) : Option (Literal × Bytes) := do
  let (whole, bs) ← takeWhole? bs
  let (fraction, bs) ← takeFraction? bs
  let (exponent, bs) ← takeExponent? bs
  return (⟨negative, whole, fraction, exponent⟩, bs)

/-- A number at the start of a text. -/
def takeLiteral? (bs : Bytes) : Option (Literal × Bytes) :=
  match bs with
  | Ascii.minus :: rest => takeUnsigned? true rest
  | _ => takeUnsigned? false bs

/-- A member's name, up to and with the colon after it. -/
def takeName? (bs : Bytes) : Option (Bytes × Bytes) :=
  match skipBlank bs with
  | Ascii.quote :: rest => do
    let (name, rest) ← takeContent [] rest
    match skipBlank rest with
    | Ascii.colon :: rest => some (name, rest)
    | _ => none
  | _ => none

/-! ## §3. The tree. -/

mutual

/-- One value at the start of a text, in which at most `nesting` arrays and
objects may be open at a time, and what follows it. -/
def takeValue : (fuel nesting : Nat) → Bytes → Option (Surface × Bytes)
  | 0, _, _ => none
  | fuel + 1, nesting, bs =>
    match skipBlank bs with
    | [] => none
    | b :: rest =>
      if b = Ascii.quote then (takeContent [] rest).map fun (s, rest) => (string s, rest)
      else if b = Ascii.openBracket then
        match nesting with
        | 0 => none
        | nesting + 1 =>
          match skipBlank rest with
          | Ascii.closeBracket :: rest => some (array [], rest)
          | _ => takeItems fuel nesting [] rest
      else if b = Ascii.openBrace then
        match nesting with
        | 0 => none
        | nesting + 1 =>
          match skipBlank rest with
          | Ascii.closeBrace :: rest => some (object [], rest)
          | _ => takeMembers fuel nesting [] rest
      else if b = Ascii.code 'n' then (afterWord? (Bytes.ofText "ull") rest).map (null, ·)
      else if b = Ascii.code 't' then (afterWord? (Bytes.ofText "rue") rest).map (bool true, ·)
      else if b = Ascii.code 'f' then (afterWord? (Bytes.ofText "alse") rest).map (bool false, ·)
      else (takeLiteral? (b :: rest)).map fun (n, rest) => (number n, rest)

/-- The items of an array up to its closing bracket, after those in `acc`,
the latest first. -/
def takeItems : (fuel nesting : Nat) → List Surface → Bytes → Option (Surface × Bytes)
  | 0, _, _, _ => none
  | fuel + 1, nesting, acc, bs =>
    match takeValue fuel nesting bs with
    | none => none
    | some (v, rest) =>
      match skipBlank rest with
      | Ascii.comma :: rest => takeItems fuel nesting (v :: acc) rest
      | Ascii.closeBracket :: rest => some (array (v :: acc).reverse, rest)
      | _ => none

/-- The members of an object up to its closing brace, after those in `acc`,
the latest first. -/
def takeMembers : (fuel nesting : Nat) → List (Bytes × Surface) → Bytes → Option (Surface × Bytes)
  | 0, _, _, _ => none
  | fuel + 1, nesting, acc, bs =>
    match takeName? bs with
    | none => none
    | some (name, rest) =>
      match takeValue fuel nesting rest with
      | none => none
      | some (v, rest) =>
        match skipBlank rest with
        | Ascii.comma :: rest => takeMembers fuel nesting ((name, v) :: acc) rest
        | Ascii.closeBrace :: rest => some (object ((name, v) :: acc).reverse, rest)
        | _ => none

end

/-- A whole text, in which at most `nesting` arrays and objects may be open
at a time: one value with nothing but blanks around it.  Each step but one
of two takes a byte, so the fuel lasts for the whole text. -/
def read? (nesting : Nat) (bs : Bytes) : Option Surface :=
  match takeValue (2 * bs.length + 2) nesting bs with
  | some (v, rest) => if skipBlank rest = [] then some v else none
  | none => none

/-! ## §4. What strings say. -/

/-- The bytes of a character, last one first, before some bytes. -/
def pushChar (c : Char) (acc : Bytes) : Bytes := (String.utf8EncodeChar c).reverse ++ acc

/-- The code unit of four hexadecimal digits. -/
def codeUnit? (h₁ h₂ h₃ h₄ : UInt8) : Option Nat := do
  return (((← hexValue? h₁) * 16 + (← hexValue? h₂)) * 16 + (← hexValue? h₃)) * 16 + (← hexValue? h₄)

/-- The bytes that the content of a string stands for.  The halves of a
surrogate pair count only together. -/
def unescape (acc : Bytes) : Bytes → Option Bytes
  | [] => some acc.reverse
  | Ascii.backslash :: e :: bs =>
    match shortEscape? e with
    | some b => unescape (b :: acc) bs
    | none =>
      match bs with
      | h₁ :: h₂ :: h₃ :: h₄ :: rest =>
        match codeUnit? h₁ h₂ h₃ h₄ with
        | none => none
        | some u =>
          if 0xD800 ≤ u ∧ u < 0xDC00 then
            match rest with
            | Ascii.backslash :: 0x75 :: l₁ :: l₂ :: l₃ :: l₄ :: rest =>
              match codeUnit? l₁ l₂ l₃ l₄ with
              | none => none
              | some l =>
                if 0xDC00 ≤ l ∧ l < 0xE000 then
                  unescape (pushChar (Char.ofNat (0x10000 + (u - 0xD800) * 0x400 + (l - 0xDC00))) acc) rest
                else none
            | _ => none
          else if 0xDC00 ≤ u ∧ u < 0xE000 then none
          else unescape (pushChar (Char.ofNat u) acc) rest
      | _ => none
  | b :: bs => unescape (b :: acc) bs

/-- The text of a string's content. -/
def contentText? (content : Bytes) : Option String :=
  (unescape [] content).bind Bytes.toText?

/-- The text that a string stands for. -/
def text? : Surface → Option String
  | string content => contentText? content
  | _ => none

end Surface

end CallGateway.Json
