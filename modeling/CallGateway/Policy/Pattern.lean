/-
  CallGateway.Policy.Pattern
  ──────────────────────────
  **PATTERNS OF METHOD NAMES.**

  A pattern has the form of a method's name, and each of its two segments
  may hold stars.  A segment of nothing but stars takes every segment of a
  name, one without a star only itself.
-/
import CallGateway.MethodName
import CallGateway.Policy.Glob

namespace CallGateway

/-- One segment of a pattern. -/
inductive Segment where
  | any
  | literal (text : String)
  | glob (text : String)
  deriving DecidableEq, Repr

namespace Segment

/-- The segment that a text describes. -/
def compile (text : String) : Segment :=
  if text.toList.all (· == '*') then any
  else if text.toList.contains '*' then glob text
  else literal text

/-- A text has the form that the segment describes. -/
def accepts : Segment → String → Bool
  | any, _ => true
  | literal text, s => text == s
  | glob text, s => Glob.accepts (Bytes.ofText text) (Bytes.ofText s)

end Segment

/-- A pattern of method names. -/
structure Pattern where
  raw : String
  service : Segment
  method : Segment
  deriving DecidableEq, Repr

namespace Pattern

/-- What the owner of a pattern is told that is not one. -/
def invalid (raw : String) : Failure :=
  .badRequest ("invalid method pattern: " ++ raw ++ " (expected /service/method)")

/-- The pattern that a text describes. -/
def compile (raw : String) : Outcome Pattern :=
  match raw.toList with
  | '/' :: rest =>
    match splitSlash? rest with
    | some (s, m) =>
      if s = [] ∨ m = [] ∨ '/' ∈ m then .error (invalid raw)
      else .ok ⟨raw, .compile (String.ofList s), .compile (String.ofList m)⟩
    | none => .error (invalid raw)
  | _ => .error (invalid raw)

/-- A text consists of two segments of the described forms. -/
def accepts (p : Pattern) (text : String) : Bool :=
  match text.toList with
  | '/' :: rest =>
    match splitSlash? rest with
    | some (s, m) =>
      !m.contains '/' && p.service.accepts (String.ofList s) && p.method.accepts (String.ofList m)
    | none => false
  | _ => false

end Pattern

end CallGateway
