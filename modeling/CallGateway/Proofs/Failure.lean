/-
  CallGateway.Proofs.Failure
  ──────────────────────────
  **WHAT A FAILURE TELLS.**

  A failure is told as the body of a response or as the last line of a stream,
  and both are the same text (`Response.body_ofFailure`).  Whoever reads it
  finds the code and the public message: a heading that says of what kind the
  failure is, and the detail after it (`Frank.publicMessage_fail`).  Only an
  internal failure keeps its detail to itself, so what is told of two failures
  is the same just when they are `Alike` (`alike_iff`).
-/
import CallGateway.Proofs.Metrics
import CallGateway.Proofs.RequestBody
import CallGateway.Response

namespace CallGateway

open Json (Value)

/-! ## §1. One text for both. -/

/-- The body of a response is the text of the frame: the value lists its members in
the order of the fields, and both escape alike. -/
theorem Response.body_ofFailure (e : Failure) :
    (ofFailure e).body = .bytes (Wire.render (ErrorFrame.ofFailure e)) := rfl

/-- As a value, the text is the object of code and message. -/
theorem ErrorFrame.read?_render (f : ErrorFrame) :
    Value.read? (Wire.render f) = some (.object [("error", .string f.error), ("message", .string f.message)]) := by
  have hfields : List.Forall₂ Field.StandsFor f.fields [("error", .string f.error), ("message", .string f.message)] :=
    .cons (standsFor_textField _ _) (.cons (standsFor_textField _ _) .nil)
  have hsorted : Entries.Sorted [("error", Value.string f.error), ("message", .string f.message)] :=
    List.pairwise_pair.2 (by decide : "error" < "message")
  rw [Value.read?, f.madeOf.reads_render.read? (by decide), Option.bind_some, value?_objectForm hfields,
    ofMembers_of_sorted hsorted]

/-! ## §2. Details that are told. -/

/-- The kinds of failure that tell their detail. -/
inductive Frank where
  | badRequest
  | unauthenticated
  | permissionDenied
  | notFound
  | unavailable
  deriving DecidableEq, Repr

namespace Frank

/-- The failure of a kind with some detail. -/
def fail : Frank → String → Failure
  | badRequest => .badRequest
  | unauthenticated => .unauthenticated
  | permissionDenied => .permissionDenied
  | notFound => .notFound
  | unavailable => .unavailable

/-- What stands before the detail. -/
def heading : Frank → String
  | badRequest => "bad request: "
  | unauthenticated => "unauthenticated: "
  | permissionDenied => "permission denied: "
  | notFound => "not found: "
  | unavailable => "unavailable: "

/-- **The detail is told as it is**, after the heading. -/
theorem publicMessage_fail (k : Frank) (detail : String) : (k.fail detail).publicMessage = k.heading ++ detail := by
  cases k <;> rfl

end Frank

namespace Failure

/-- A failure tells its detail, has none, or keeps it to itself. -/
theorem frank_or (e : Failure) :
    (∃ (k : Frank) (detail : String), e = k.fail detail)
      ∨ e = .unsupportedVersion ∨ ∃ detail, e = .internal detail := by
  cases e with
  | badRequest detail => exact .inl ⟨.badRequest, detail, rfl⟩
  | unauthenticated detail => exact .inl ⟨.unauthenticated, detail, rfl⟩
  | permissionDenied detail => exact .inl ⟨.permissionDenied, detail, rfl⟩
  | notFound detail => exact .inl ⟨.notFound, detail, rfl⟩
  | unavailable detail => exact .inl ⟨.unavailable, detail, rfl⟩
  | unsupportedVersion => exact .inr (.inl rfl)
  | internal detail => exact .inr (.inr ⟨detail, rfl⟩)

/-! ## §3. Failures that tell the same. -/

/-- Two failures are the same, or both are internal. -/
inductive Alike : Failure → Failure → Prop where
  | same (e : Failure) : Alike e e
  | internal (detail detail' : String) : Alike (.internal detail) (.internal detail')

section
variable {e e' : Failure}

theorem Alike.code_eq (h : e.Alike e') : e'.code = e.code := by
  cases h with
  | same => rfl
  | internal detail detail' => rfl

theorem Alike.errorFrame_eq (h : e.Alike e') : ErrorFrame.ofFailure e' = ErrorFrame.ofFailure e := by
  cases h with
  | same => rfl
  | internal detail detail' => rfl

theorem Alike.response_eq (h : e.Alike e') : Response.ofFailure e' = Response.ofFailure e := by
  cases h with
  | same => rfl
  | internal detail detail' => rfl

/-- **Two failures are told apart unless they are alike.** -/
theorem alike_iff : e.Alike e' ↔ ErrorFrame.ofFailure e' = ErrorFrame.ofFailure e := by
  refine ⟨Alike.errorFrame_eq, fun h => ?_⟩
  obtain ⟨hlabel, hmessage⟩ : e'.code.label = e.code.label ∧ e'.publicMessage = e.publicMessage :=
    ErrorFrame.mk.inj h
  have hcode := Metrics.label_inj.1 hlabel
  -- the code fixes the kind, and with it the heading
  cases e <;> cases e' <;> cases hcode
  case internal.internal detail detail' => exact .internal detail detail'
  case unsupportedVersion.unsupportedVersion => exact .same _
  all_goals
    obtain rfl := (String.append_right_inj _).1 hmessage
    exact .same _

end

end Failure

end CallGateway
