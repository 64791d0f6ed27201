/-
  CallGateway.Json.Value
  ──────────────────────
  **JSON VALUES.**

  A number is an integer where it was written as one that fits into 64
  bits, signed or unsigned, and a double otherwise.  The members of an
  object are listed in order of their names, one for each name
  (`Value.Canonical`); the reader yields only such values.
-/
import CallGateway.Dict
import CallGateway.Number.Binary64

namespace CallGateway.Json

/-! ## §1. Numbers. -/

/-- An integer that some 64-bit word holds, signed or unsigned. -/
structure Integer where
  val : Int
  -- It is not below the least signed word.
  lower : -0x8000000000000000 ≤ val := by omega
  -- It is not above the greatest unsigned word.
  upper : val < 0x10000000000000000 := by omega
  deriving DecidableEq

namespace Integer

/-- The integer, if a 64-bit word holds it. -/
def ofInt? (n : Int) : Option Integer :=
  if h : -0x8000000000000000 ≤ n ∧ n < 0x10000000000000000 then some ⟨n, h.1, h.2⟩ else none

/-- Every unsigned word is one. -/
def ofUInt64 (n : UInt64) : Integer :=
  ⟨n.toNat, by omega, by have := n.toNat_lt; omega⟩

/-- Every signed word is one. -/
def ofInt64 (n : Int64) : Integer :=
  ⟨n.toInt, by have := n.le_toInt; omega, by have := n.toInt_lt; omega⟩

/-- The unsigned word of this value. -/
def toUInt64? (n : Integer) : Option UInt64 :=
  if 0 ≤ n.val then some (UInt64.ofNat n.val.toNat) else none

/-- The signed word of this value. -/
def toInt64? (n : Integer) : Option Int64 :=
  if n.val < 0x8000000000000000 then some (Int64.ofInt n.val) else none

end Integer

/-- A JSON number. -/
inductive Number where
  | integer (n : Integer)
  | double (x : Binary64)
  deriving DecidableEq

/-! ## §2. Values. -/

/-- A JSON value. -/
inductive Value where
  | null
  | bool (b : Bool)
  | number (n : Number)
  | string (s : String)
  | array (items : List Value)
  | object (members : List (String × Value))
  deriving Inhabited

namespace Value

/-- The value of an unsigned word. -/
def ofUInt64 (n : UInt64) : Value := .number (.integer (.ofUInt64 n))

/-- The value of a signed word. -/
def ofInt64 (n : Int64) : Value := .number (.integer (.ofInt64 n))

/-- An object of some members; the last one of a name counts. -/
def ofMembers (ms : List (String × Value)) : Value := .object (Dict.ofList ms).entries

/-- The member of an object under a name. -/
def member? (name : String) : Value → Option Value
  | object members => members.lookup name
  | _ => none

/-- The text of a string value. -/
def text? : Value → Option String
  | string s => some s
  | _ => none

/-- The items of an array. -/
def items? : Value → Option (List Value)
  | array items => some items
  | _ => none

mutual

/-- How many arrays and objects are open at the deepest place. -/
def depth : Value → Nat
  | array items => depthItems items + 1
  | object members => depthMembers members + 1
  | _ => 0

/-- The greatest depth of some values. -/
def depthItems : List Value → Nat
  | [] => 0
  | v :: vs => max v.depth (depthItems vs)

/-- The greatest depth of some members. -/
def depthMembers : List (String × Value) → Nat
  | [] => 0
  | (_, v) :: ms => max v.depth (depthMembers ms)

end

mutual

/-- Every object inside lists its members in order, one for each name. -/
def Canonical : Value → Prop
  | array items => CanonicalItems items
  | object members => Entries.Sorted members ∧ CanonicalMembers members
  | _ => True

/-- All of some values are canonical. -/
def CanonicalItems : List Value → Prop
  | [] => True
  | v :: vs => v.Canonical ∧ CanonicalItems vs

/-- The values of some members are canonical. -/
def CanonicalMembers : List (String × Value) → Prop
  | [] => True
  | (_, v) :: ms => v.Canonical ∧ CanonicalMembers ms

end

end Value

end CallGateway.Json
