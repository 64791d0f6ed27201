/-
  CallGateway.RequestBody
  ───────────────────────
  **THE BODY OF A CALL.**

  A body is read in two steps: first as a JSON value, where a body of
  nothing but blanks is `null`, then as the message that the method takes.
  The second step tells the caller what it found and what it expected; the
  first complaint wins, members of an object being looked at in order of
  their names and missing fields after that.
-/
import CallGateway.Message
import CallGateway.Text.Quoted

namespace CallGateway

open Json (Value)

/-! ## §1. The value of a body. -/

/-- The blanks that a body may consist of: those of JSON and the form feed. -/
def isBodyBlank (b : UInt8) : Bool := Json.Surface.isBlank b || b == Ascii.formFeed

/-- The value of a body. -/
def decodeBody (body : Bytes) : Outcome Value :=
  if body.all isBodyBlank then .ok .null
  else match Value.read? body with
    | some v => .ok v
    | none => .error (.badRequest "invalid request json")

/-! ## §2. The message of a value. -/

/-- Why a value is not the message that a method takes. -/
inductive RequestFault where
  -- A value of another kind was expected.
  | wrongType (found : Value) (expected : String)
  | wrongValue (found : Value) (expected : String)
  -- A field without default is missing in an object.
  | missingField (name : String)
  -- An array of so many items has more than the message has fields.
  | tooMany (count : Nat)
  -- An array of so many items has fewer than the message needs.
  | tooFew (count : Nat) (expected : String)
  deriving Inhabited

namespace RequestFault

/-- How a message speaks of a value. -/
def describe : Value → String
  | .null => "null"
  | .bool b => "boolean `" ++ toString b ++ "`"
  | .number (.integer n) => "integer `" ++ toString n.val ++ "`"
  | .number (.double x) => "floating point `" ++ x.compact ++ "`"
  | .string s => "string " ++ Text.quoted s
  | .array _ => "sequence"
  | .object _ => "map"

/-- What the caller is told. -/
def message : RequestFault → String
  | wrongType found expected => "invalid type: " ++ describe found ++ ", expected " ++ expected
  | wrongValue found expected => "invalid value: " ++ describe found ++ ", expected " ++ expected
  | missingField name => "missing field `" ++ name ++ "`"
  | tooMany count => "invalid length " ++ toString count ++ ", expected fewer elements in array"
  | tooFew count expected => "invalid length " ++ toString count ++ ", expected " ++ expected

end RequestFault

namespace Json.Value

/-- The truth value of a field. -/
def toBool : Value → Except RequestFault Bool
  | bool b => .ok b
  | v => .error (.wrongType v "a boolean")

/-- The unsigned word of a field. -/
def toUInt64 (v : Value) : Except RequestFault UInt64 :=
  match v with
  | number (.integer n) => match n.toUInt64? with
    | some w => .ok w
    | none => .error (.wrongValue v "u64")
  | _ => .error (.wrongType v "u64")

/-- The signed word of a field. -/
def toInt64 (v : Value) : Except RequestFault Int64 :=
  match v with
  | number (.integer n) => match n.toInt64? with
    | some w => .ok w
    | none => .error (.wrongValue v "i64")
  | _ => .error (.wrongType v "i64")

/-- The counts of a field. -/
def toCounts : Value → Except RequestFault (Dict UInt64)
  | object members => do
    return Dict.ofList (← members.mapM fun m => return (m.1, ← m.2.toUInt64))
  | v => .error (.wrongType v "a map")

/-- The value of counts. -/
def ofCounts (d : Dict UInt64) : Value := object (d.map ofUInt64).entries

end Json.Value

/-- Refuses an array that has more items than there are fields. -/
def atMost (fields : Nat) (items : List Value) : Except RequestFault Unit :=
  if items.length ≤ fields then .ok () else .error (.tooMany items.length)

/-- A message that a method can take as its request, or give as its
response. -/
class Transferable (α : Type) where
  -- The message that a missing request stands for.
  blank : α
  ofValue : Value → Except RequestFault α
  toValue : α → Value

instance : Transferable Nothing where
  blank := {}
  ofValue
    | .object members => do
      let dummy ← (members.lookup "dummy").mapM (·.toBool)
      return ⟨dummy.getD false⟩
    | .array items => do
      let dummy ← items[0]?.mapM (·.toBool)
      atMost 1 items
      return ⟨dummy.getD false⟩
    | v => .error (.wrongType v "struct Nothing")
  toValue m := .object [("dummy", .bool m.dummy)]

instance : Transferable StatInterval where
  blank := {}
  ofValue
    | .object members =>
      match members.lookup "interval_seconds" with
      | some v => return ⟨← v.toUInt64⟩
      | none => .error (.missingField "interval_seconds")
    | .array [] => .error (.tooFew 0 "struct StatInterval with 1 element")
    | .array (v :: items) => do
      let seconds ← v.toUInt64
      atMost 1 (v :: items)
      return ⟨seconds⟩
    | v => .error (.wrongType v "struct StatInterval")
  toValue m := .object [("interval_seconds", .ofUInt64 m.intervalSeconds)]

instance : Transferable Stat where
  blank := {}
  ofValue
    | .object members => do
      let byConsumer ← (members.lookup "by_consumer").mapM (·.toCounts)
      let byMethod ← (members.lookup "by_method").mapM (·.toCounts)
      match members.lookup "timestamp" with
      | some v => return ⟨← v.toInt64, byMethod.getD .empty, byConsumer.getD .empty⟩
      | none => .error (.missingField "timestamp")
    | .array [] => .error (.tooFew 0 "struct Stat with 3 elements")
    | .array (v :: items) => do
      let timestamp ← v.toInt64
      let byMethod ← items[0]?.mapM (·.toCounts)
      let byConsumer ← items[1]?.mapM (·.toCounts)
      atMost 3 (v :: items)
      return ⟨timestamp, byMethod.getD .empty, byConsumer.getD .empty⟩
    | v => .error (.wrongType v "struct Stat")
  toValue m := .object [("by_consumer", .ofCounts m.byConsumer), ("by_method", .ofCounts m.byMethod),
    ("timestamp", .ofInt64 m.timestamp)]

/-- The message of a request; `null` stands for the blank one. -/
def parseRequest (α : Type) [Transferable α] : Value → Outcome α
  | .null => .ok Transferable.blank
  | v => (Transferable.ofValue v).mapError fun fault => .badRequest ("invalid request: " ++ fault.message)

/-- The value of a response. -/
def respond {α : Type} [Transferable α] (m : α) : Value := Transferable.toValue m

end CallGateway
