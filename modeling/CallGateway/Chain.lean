/-
  CallGateway.Chain
  ─────────────────
  **WHAT STANDS BETWEEN A CALL AND ITS SERVICE.**

  Taps see every call and cannot change anything about it.  Interceptors
  stand around the service like the skins of an onion: each gets the call,
  may go on to the next one with the call as it is or changed, and sees the
  result of all that is further in; or it answers by itself, and nothing
  further in takes place.

  An interceptor that goes on at most once is described by a `Link`: what
  it does on the way in, and what it does with the result on the way out.
-/
import CallGateway.Call
import CallGateway.Metrics
import CallGateway.Policy.Access

namespace CallGateway

open Json (Value)

/-! ## §1. Interceptors. -/

/-- How a call with its request is answered. -/
abbrev Answering (m : Type → Type) (α : Type) := Call → Value → m (Outcome α)

/-- Answers a call, with the way to go on at hand. -/
abbrev Interceptor (m : Type → Type) (α : Type) := Call → Value → Answering m α → m (Outcome α)

/-- Taps, and the interceptors of unary and of streaming calls. -/
structure Chain (m : Type → Type) (β : Type) where
  taps : List (Call → m Unit) := []
  -- What stands around a unary call, the outermost first.
  unary : List (Interceptor m Value) := []
  -- What stands around a streaming call, the outermost first.
  stream : List (Interceptor m β) := []

namespace Chain

variable {m : Type → Type} {α β : Type}

/-- Let the taps see a call, in their order. -/
def observe [Monad m] (c : Chain m β) (call : Call) : m Unit := c.taps.forM fun tap => tap call

/-- Put interceptors around a service. -/
def around (links : List (Interceptor m α)) (service : Answering m α) : Answering m α :=
  links.foldr (fun link next call req => link call req next) service

/-- Answer a unary call. -/
def runUnary (c : Chain m β) (service : Answering m Value) : Answering m Value := around c.unary service

/-- Answer a streaming call. -/
def runStream (c : Chain m β) (service : Answering m β) : Answering m β := around c.stream service

end Chain

/-! ## §2. Links. -/

/-- What an interceptor does with a call on the way in. -/
inductive Passage (α : Type) where
  -- Go on with this call and request.
  | onward (call : Call) (req : Value)
  | answer (r : Outcome α)

/-- An interceptor that goes on at most once. -/
structure Link (m : Type → Type) (α : Type) where
  -- What it does on the way in.
  enter : Call → Value → m (Passage α)
  -- What it does on the way out, having seen the result.
  leave : Call → Outcome α → m Unit

namespace Link

variable {m : Type → Type} [Monad m] {α : Type}

/-- The interceptor that a link describes. -/
def interceptor (l : Link m α) : Interceptor m α := fun call req next => do
  match ← l.enter call req with
  | .answer r => return r
  | .onward call' req' =>
    let r ← next call' req'
    l.leave call r
    return r

end Link

/-! ## §3. Access control. -/

namespace AccessPolicy

/-- Judge a call and count the verdict. -/
def judge (p : AccessPolicy) (call : Call) (m : Metrics) : Outcome Unit × Metrics :=
  match p.authorize call.consumer call.method.full with
  | .allow _ => (.ok (), m.countAllowed)
  | .deny reason => (.error reason.failure, m.countDenied reason.failure.code)

/-- The link that lets allowed calls pass and refuses the others; `counting`
says where the metrics are kept. -/
def link {m : Type → Type} [Monad m] {α : Type} (p : AccessPolicy)
    (counting : (Metrics → Outcome Unit × Metrics) → m (Outcome Unit)) : Link m α where
  enter call req := do
    match ← counting (p.judge call) with
    | .ok () => return .onward call req
    | .error e => return .answer (.error e)
  leave _ _ := return ()

end AccessPolicy

end CallGateway
