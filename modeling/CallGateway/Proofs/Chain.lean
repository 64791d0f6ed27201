/-
  CallGateway.Proofs.Chain
  ────────────────────────
  **NOTHING GETS PAST THE ACCESS POLICY.**

  What stands behind the policy takes place once, on the call and the
  request as they came, or not at all (`link_interceptor`).  This is said of
  any service in any monad, so whatever effects a service has, the chain
  neither repeats nor loses nor adds one.
-/
import CallGateway.Chain

namespace CallGateway

open Json (Value)

namespace AccessPolicy

variable {m : Type → Type} [Monad m] {α : Type}

/-- The verdict on a call, as it is counted. -/
theorem judge_of_allow {p : AccessPolicy} {call : Call} {rule : Nat}
    (h : p.authorize call.consumer call.method.full = .allow rule) (metrics : Metrics) :
    p.judge call metrics = (.ok (), metrics.countAllowed) := by
  rw [judge, h]

theorem judge_of_deny {p : AccessPolicy} {call : Call} {reason : DenyReason}
    (h : p.authorize call.consumer call.method.full = .deny reason) (metrics : Metrics) :
    p.judge call metrics = (.error reason.failure, metrics.countDenied reason.failure.code) := by
  rw [judge, h]

/-- **The policy lets a call through once or not at all.**  An allowed call
is answered by whatever stands behind the policy, and a denied one with the
reason, whoever counts the verdict and in whatever monad. -/
theorem link_interceptor [LawfulMonad m] (p : AccessPolicy)
    (counting : (Metrics → Outcome Unit × Metrics) → m (Outcome Unit)) (call : Call) (req : Value)
    (next : Answering m α) :
    (p.link counting).interceptor call req next
      = do match ← counting (p.judge call) with
            | .ok () => next call req
            | .error e => return .error e := by
  unfold Link.interceptor link
  simp only [bind_assoc, pure_bind, bind_pure]
  refine bind_congr fun verdict => ?_
  cases verdict with
  | ok u => simp only [pure_bind]
  | error e => simp only [pure_bind]

end AccessPolicy

end CallGateway
