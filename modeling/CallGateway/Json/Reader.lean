/-
  CallGateway.Json.Reader
  ───────────────────────
  **FROM WRITTEN JSON TO VALUES.**

  A number is read through a 64-bit significand.  Digits that no longer fit
  into it only shift the decimal point; an integer that fits stays one, and
  all else becomes the double that scaling the significand by a power of
  ten gives.  A number beyond the doubles is refused.
-/
import CallGateway.Json.Surface
import CallGateway.Json.Value

namespace CallGateway.Json

/-! ## §1. Numbers. -/

/-- Append digits to a number while it stays below the bound; also yields
the digits that were left over. -/
def appendDigits (bound n : Nat) : List Nat → Nat × List Nat
  | [] => (n, [])
  | d :: ds => if n * 10 + d < bound then appendDigits bound (n * 10 + d) ds else (n, d :: ds)

namespace Number

/-- The number with this significand and power of ten. -/
def ofDecimal? (negative : Bool) (significand : Nat) (e : Int) : Option Number :=
  (Binary64.ofDecimal? negative significand e).map double

/-- A number that is written without point, exponent and excess digits. -/
def ofWhole (negative : Bool) (n : Nat) : Number :=
  match Integer.ofInt? (if negative then -n else n) with
  | some i => if negative && n = 0 then double ⟨true, 0, -1074⟩ else integer i
  | none => double { Binary64.ofNat n with negative := negative }

/-- The number that a literal stands for. -/
def ofLiteral? (l : Literal) : Option Number :=
  let (n, excess) := appendDigits UInt64.size 0 l.whole
  let (n, places) := match l.fraction with
    | none => (n, 0)
    | some ds =>
      let (n', excess') := appendDigits UInt64.size n ds
      (n', ds.length - excess'.length)
  let shift := Int.ofNat excess.length - Int.ofNat places
  match l.exponent with
  | some (down, ds) =>
    match appendDigits (UInt32.size / 2) 0 ds with
    | (e, []) => ofDecimal? l.negative n (if down then shift - e else shift + e)
    | (_, _ :: _) => if n ≠ 0 ∧ down = false then none else ofDecimal? l.negative 0 0
  | none =>
    if l.fraction.isNone && excess.isEmpty then some (ofWhole l.negative n)
    else ofDecimal? l.negative n shift

end Number

namespace Surface

/-- The unsigned word that a number stands for. -/
def uint64? : Surface → Option UInt64
  | number l => match Number.ofLiteral? l with
    | some (.integer n) => n.toUInt64?
    | _ => none
  | _ => none

/-- The signed word that a number stands for. -/
def int64? : Surface → Option Int64
  | number l => match Number.ofLiteral? l with
    | some (.integer n) => n.toInt64?
    | _ => none
  | _ => none

/-- The truth value. -/
def bool? : Surface → Option Bool
  | bool b => some b
  | _ => none

/-- The members of an object under their names, the last one of a name. -/
def dict? {α : Type} (item? : Surface → Option α) : Surface → Option (Dict α)
  | object members => do
    return Dict.ofList (← members.mapM fun (name, v) => do return (← contentText? name, ← item? v))
  | _ => none

/-! ## §2. Values. -/

mutual

/-- The value that a text stands for. -/
def value? : Surface → Option Value
  | null => some .null
  | bool b => some (.bool b)
  | number l => (Number.ofLiteral? l).map .number
  | string content => (contentText? content).map .string
  | array items => (valueItems? [] items).map .array
  | object members => (valueMembers? [] members).map .object

/-- The values of some items, after those in `acc`, the latest first. -/
def valueItems? (acc : List Value) : List Surface → Option (List Value)
  | [] => some acc.reverse
  | s :: ss =>
    match value? s with
    | none => none
    | some v => valueItems? (v :: acc) ss

/-- The members of an object put one after the other into those in `acc`. -/
def valueMembers? (acc : List (String × Value)) : List (Bytes × Surface) → Option (List (String × Value))
  | [] => some acc
  | (name, s) :: ms =>
    match contentText? name with
    | none => none
    | some k =>
      match value? s with
      | none => none
      | some v => valueMembers? (Entries.insert k v acc) ms

end

end Surface

namespace Value

/-- How many arrays and objects may be open at a time in a text that is
read as a value. -/
def nestingLimit : Nat := 127

/-- The value of a whole text. -/
def read? (bs : Bytes) : Option Value := (Surface.read? nestingLimit bs).bind Surface.value?

end Value

end CallGateway.Json
