/-
  CallGateway.Net.SocketAddress
  ─────────────────────────────
  **ADDRESSES WITH A PORT.**

  An address is read from its usual text and written in the recommended
  one: numbers without zeros in front, and the longest run of at least two
  zero groups of a version 6 address as `::`.
-/

namespace CallGateway

/-- An internet address with a port. -/
inductive SocketAddress where
  | v4 (octets : List UInt8) (port : UInt16)
  -- Version 6: eight groups, and the scope of a link-local address.
  | v6 (groups : List UInt16) (scope : UInt32) (port : UInt16)
  deriving DecidableEq, Repr

namespace SocketAddress

/-! ## §1. Reading. -/

/-- The value of a digit in a base up to sixteen. -/
def digitValue? (base : Nat) (c : Char) : Option Nat :=
  let v := if '0' ≤ c ∧ c ≤ '9' then c.toNat - '0'.toNat
    else if 'a' ≤ c ∧ c ≤ 'f' then c.toNat - 'a'.toNat + 10
    else if 'A' ≤ c ∧ c ≤ 'F' then c.toNat - 'A'.toNat + 10
    else 16
  if v < base then some v else none

/-- The digits at the start of a text, and the rest. -/
def takeDigits (base : Nat) : List Char → List Nat × List Char
  | [] => ([], [])
  | c :: cs => match digitValue? base c with
    | some d => let (ds, rest) := takeDigits base cs; (d :: ds, rest)
    | none => ([], c :: cs)

/-- A number below a bound at the start of a text, of at most so many
digits. -/
def takeNumber? (base bound : Nat) (most : Option Nat) (zeros : Bool) (cs : List Char) :
    Option (Nat × List Char) :=
  let (ds, rest) := takeDigits base cs
  let value := ds.foldl (fun n d => n * base + d) 0
  if ds = [] ∨ bound ≤ value ∨ most.any (· < ds.length) then none
  else if !zeros ∧ ds.head? = some 0 ∧ 1 < ds.length then none
  else some (value, rest)

/-- The rest of a text after a given character. -/
def after? (c : Char) : List Char → Option (List Char)
  | [] => none
  | d :: ds => if c = d then some ds else none

/-- The four octets of a version 4 address. -/
def takeOctets? (cs : List Char) : Option (List UInt8 × List Char) := do
  let octet := takeNumber? 10 256 (some 3) false
  let (a, cs) ← octet cs
  let (b, cs) ← octet (← after? '.' cs)
  let (c, cs) ← octet (← after? '.' cs)
  let (d, cs) ← octet (← after? '.' cs)
  return ([a.toUInt8, b.toUInt8, c.toUInt8, d.toUInt8], cs)

/-- A colon, except in front of the first group. -/
def separator? (first : Bool) (cs : List Char) : Option (List Char) :=
  if first then some cs else after? ':' cs

/-- Two groups in the form of four octets. -/
def takeOctetPair? (first : Bool) (cs : List Char) : Option (List UInt16 × List Char) := do
  match ← takeOctets? (← separator? first cs) with
  | ([a, b, c, d], rest) => return ([a.toUInt16 * 256 + b.toUInt16, c.toUInt16 * 256 + d.toUInt16], rest)
  | _ => none

/-- At most `room` groups of a version 6 address with colons between them,
and whether the last two had the form of four octets. -/
def takeGroups (first : Bool) : (room : Nat) → List Char → List UInt16 × Bool × List Char
  | 0, cs => ([], false, cs)
  | room + 1, cs =>
    match if 1 ≤ room then takeOctetPair? first cs else none with
    | some (groups, rest) => (groups, true, rest)
    | none =>
      match (separator? first cs).bind (takeNumber? 16 65536 (some 4) true) with
      | some (g, rest) =>
        let (gs, octets, rest) := takeGroups false room rest
        (g.toUInt16 :: gs, octets, rest)
      | none => ([], false, cs)

/-- The eight groups of a version 6 address, of which `::` stands for one
or more that are zero. -/
def takeAddress? (cs : List Char) : Option (List UInt16 × List Char) := do
  let (head, octets, rest) := takeGroups true 8 cs
  if head.length = 8 then return (head, rest)
  if octets then none
  let rest ← after? ':' (← after? ':' rest)
  let (tail, _, rest) := takeGroups true (7 - head.length) rest
  return (head ++ List.replicate (8 - head.length - tail.length) 0 ++ tail, rest)

/-- A port after its colon. -/
def takePort? (cs : List Char) : Option (Nat × List Char) := do
  takeNumber? 10 65536 none true (← after? ':' cs)

/-- The scope of an address, zero where none is given. -/
def takeScope (cs : List Char) : Nat × List Char :=
  ((after? '%' cs).bind (takeNumber? 10 UInt32.size none true)).getD (0, cs)

/-- A version 4 address with its port at the start of a text. -/
def takeV4? (cs : List Char) : Option (SocketAddress × List Char) := do
  let (octets, cs) ← takeOctets? cs
  let (port, cs) ← takePort? cs
  return (v4 octets port.toUInt16, cs)

/-- A version 6 address with its port at the start of a text. -/
def takeV6? (cs : List Char) : Option (SocketAddress × List Char) := do
  let (groups, cs) ← takeAddress? (← after? '[' cs)
  let (scope, cs) := takeScope cs
  let (port, cs) ← takePort? (← after? ']' cs)
  return (v6 groups scope.toUInt32 port.toUInt16, cs)

/-- The address that a whole text gives. -/
def parse? (text : String) : Option SocketAddress :=
  match takeV4? text.toList with
  | some (a, []) => some a
  | _ => match takeV6? text.toList with
    | some (a, []) => some a
    | _ => none

/-! ## §2. Writing. -/

/-- Octets with points between them. -/
def octetText (octets : List UInt8) : String := ".".intercalate (octets.map fun o => toString o.toNat)

/-- Groups with colons between them. -/
def groupText (groups : List UInt16) : String :=
  ":".intercalate (groups.map fun g => String.ofList (Nat.toDigits 16 g.toNat))

/-- How many zero groups begin here. -/
def zeroRun (groups : List UInt16) : Nat := (groups.takeWhile (· == 0)).length

/-- Where the first of the longest runs of zero groups begins, and its
length. -/
def longestZeroRun (groups : List UInt16) : Nat × Nat :=
  (List.range groups.length).foldl (fun best i =>
    let run := zeroRun (groups.drop i)
    if best.2 < run then (i, run) else best) (0, 0)

/-- The text of a version 6 address. -/
def addressText (groups : List UInt16) : String :=
  match groups with
  | [0, 0, 0, 0, 0, 0xffff, a, b] =>
    "::ffff:" ++ octetText [(a / 256).toUInt8, (a % 256).toUInt8, (b / 256).toUInt8, (b % 256).toUInt8]
  | _ =>
    let (start, run) := longestZeroRun groups
    if run ≤ 1 then groupText groups
    else groupText (groups.take start) ++ "::" ++ groupText (groups.drop (start + run))

/-- The text of an address. -/
def render : SocketAddress → String
  | v4 octets port => octetText octets ++ ":" ++ toString port.toNat
  | v6 groups scope port =>
    "[" ++ addressText groups ++ (if scope = 0 then "" else "%" ++ toString scope.toNat) ++ "]:"
      ++ toString port.toNat

end SocketAddress

end CallGateway
