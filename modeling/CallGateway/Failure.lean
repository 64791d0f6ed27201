/-
  CallGateway.Failure
  ───────────────────
  **WHY A CALL IS REFUSED, AND WHAT THE CALLER IS TOLD.**

  Every operation of the gateway that can fail does so with a `Failure`: its
  kind together with a free-form detail.  A caller never sees the value
  itself, only its `code` (and the HTTP status of that code) and its
  `publicMessage`, which is the full message except that an internal
  failure keeps its detail to itself.
-/

namespace CallGateway

/-! ## §1. Codes: what a caller can branch on. -/

/-- The class of a failure as a caller sees it. -/
inductive Code where
  | badRequest
  -- The gateway does not know the consumer.
  | unauthenticated
  -- The consumer is known but may not make this call.
  | permissionDenied
  | notFound
  -- The gateway is shutting down, or the other side has gone.
  | unavailable
  -- The configuration has a version that the gateway does not read.
  | unsupportedVersion
  -- The gateway failed on its own account.
  | internal
  deriving DecidableEq, Repr, Inhabited

namespace Code

/-- The name of a code on the wire. -/
def label : Code → String
  | badRequest => "BAD_REQUEST"
  | unauthenticated => "UNAUTHENTICATED"
  | permissionDenied => "PERMISSION_DENIED"
  | notFound => "NOT_FOUND"
  | unavailable => "UNAVAILABLE"
  | unsupportedVersion => "UNSUPPORTED_VERSION"
  | internal => "INTERNAL"

/-- The HTTP status that carries a code. -/
def status : Code → Nat
  | badRequest | unsupportedVersion => 400
  | unauthenticated => 401
  | permissionDenied => 403
  | notFound => 404
  | unavailable => 503
  | internal => 500

/-- A denial is a verdict of the access policy. -/
def isDenial : Code → Bool
  | unauthenticated | permissionDenied => true
  | _ => false

end Code

/-! ## §2. Failures: a code with its detail. -/

/-- A failed operation, with the detail that its message carries. -/
inductive Failure where
  | badRequest (detail : String)
  -- The gateway does not know the consumer.
  | unauthenticated (detail : String)
  -- The consumer is known but may not make this call.
  | permissionDenied (detail : String)
  | notFound (detail : String)
  -- The gateway is shutting down, or the other side has gone.
  | unavailable (detail : String)
  -- The configuration has a version that the gateway does not read.
  | unsupportedVersion
  -- The gateway failed on its own account.
  | internal (detail : String)
  deriving DecidableEq, Repr, Inhabited

namespace Failure

/-- The class of a failure. -/
def code : Failure → Code
  | badRequest _ => .badRequest
  | unauthenticated _ => .unauthenticated
  | permissionDenied _ => .permissionDenied
  | notFound _ => .notFound
  | unavailable _ => .unavailable
  | unsupportedVersion => .unsupportedVersion
  | internal _ => .internal

/-- The whole message, for the gateway's own use. -/
def message : Failure → String
  | badRequest detail => "bad request: " ++ detail
  | unauthenticated detail => "unauthenticated: " ++ detail
  | permissionDenied detail => "permission denied: " ++ detail
  | notFound detail => "not found: " ++ detail
  | unavailable detail => "unavailable: " ++ detail
  | unsupportedVersion => "unsupported version"
  | internal detail => "internal: " ++ detail

/-- The message that leaves the gateway: an internal failure keeps its
detail to itself. -/
def publicMessage : Failure → String
  | internal _ => "internal server error"
  | failure => failure.message

/-- Any call that comes, or tries to subscribe, after shutdown has begun. -/
def shuttingDown : Failure := .unavailable "server is shutting down"

/-- A stream whose handler broke off. -/
def brokenOff : Failure := .internal "stream task failed"

end Failure

/-- The result of an operation that can fail. -/
abbrev Outcome (α : Type) := Except Failure α

end CallGateway
