/-
  CallGateway.Policy.Access
  ─────────────────────────
  **WHO MAY CALL WHAT.**

  The access table lists for each consumer the patterns of the methods that
  it may call.  A call is allowed by the first pattern that takes its
  method; a consumer without an entry, and the one without a name, may call
  nothing.
-/
import CallGateway.Json.Reader
import CallGateway.Policy.Pattern

namespace CallGateway

/-- Consumers with the patterns of the methods that they may call. -/
abbrev AccessTable := List (String × List String)

/-- Why a call is denied. -/
inductive DenyReason where
  -- The consumer has no name, or no entry in the table.
  | unknownConsumer
  -- No pattern of the consumer takes the method.
  | methodNotAllowed
  deriving DecidableEq, Repr

namespace DenyReason

/-- What the caller is told. -/
def text : DenyReason → String
  | unknownConsumer => "unknown consumer"
  | methodNotAllowed => "method not allowed for consumer"

/-- The failure of a denied call. -/
def failure : DenyReason → Failure
  | unknownConsumer => .unauthenticated unknownConsumer.text
  | methodNotAllowed => .permissionDenied methodNotAllowed.text

end DenyReason

/-- The verdict on a call. -/
inductive Decision where
  -- Allowed by the pattern at this place of the consumer's list.
  | allow (rule : Nat)
  | deny (reason : DenyReason)
  deriving DecidableEq, Repr

/-- The call may go on. -/
def Decision.isAllowed : Decision → Bool
  | allow _ => true
  | deny _ => false

/-- An access table whose patterns are compiled. -/
structure AccessPolicy where
  rules : List (String × List Pattern)
  deriving DecidableEq, Repr

namespace AccessPolicy

/-- Compile one entry of the table. -/
def compileEntry (entry : String × List String) : Outcome (String × List Pattern) :=
  match entry.2.mapM Pattern.compile with
  | .ok patterns => .ok (entry.1, patterns)
  | .error e => .error (.badRequest
      ("acl compile failed (consumer=" ++ entry.1 ++ "): " ++ e.message))

/-- Compile a table. -/
def compile (table : AccessTable) : Outcome AccessPolicy := do
  return ⟨← table.mapM compileEntry⟩

/-- The texts of an array of strings. -/
def texts? : Json.Surface → Option (List String)
  | .array items => items.mapM (·.text?)
  | _ => none

/-- The table that a JSON text holds: an object of arrays of strings. -/
def tableOfJson (text : String) : Outcome AccessTable :=
  let bytes := Bytes.ofText text
  match (Json.Surface.read? bytes.length bytes).bind (·.dict? texts?) with
  | some table => .ok table.entries
  | none => .error (.badRequest "invalid acl json")

/-- Compile the table that a JSON text holds. -/
def ofJson (text : String) : Outcome AccessPolicy := do compile (← tableOfJson text)

/-- The verdict on a call of a method by a consumer. -/
def authorize (p : AccessPolicy) (consumer method : String) : Decision :=
  if consumer = "" then .deny .unknownConsumer
  else match p.rules.lookup consumer with
    | none => .deny .unknownConsumer
    | some patterns => match patterns.findIdx? (·.accepts method) with
      | some rule => .allow rule
      | none => .deny .methodNotAllowed

/-- The verdict as the result of a check. -/
def check (p : AccessPolicy) (consumer method : String) : Outcome Unit :=
  match p.authorize consumer method with
  | .allow _ => .ok ()
  | .deny reason => .error reason.failure

/-- The consumers that have an entry. -/
def consumers (p : AccessPolicy) : List String := p.rules.map (·.1)

/-- The patterns of a consumer. -/
def patterns (p : AccessPolicy) (consumer : String) : List Pattern :=
  (p.rules.lookup consumer).getD []

end AccessPolicy

end CallGateway
