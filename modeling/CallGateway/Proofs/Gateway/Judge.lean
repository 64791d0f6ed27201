/-
  CallGateway.Proofs.Gateway.Judge
  ────────────────────────────────
  **A DECODED CALL BEFORE THE POLICY.**

  The chain of a gateway can be run wherever its hub is kept (`chainIn`).
  Run around services that note what reaches them, it answers as it does
  without the notes (`judgeNoting_fst`), and the notes show the call once or
  not at all, as the policy decides.  A streaming call that is let through ends
  with its stream or with the failure of its handler (`beginStream_cases`).
-/
import CallGateway.Proofs.Chain
import CallGateway.Proofs.StreamTask

namespace CallGateway

open Json (Value)

namespace Hub

/-- The hub after an allowed call was counted. -/
def allowed (hub : Hub) : Hub := { hub with metrics := hub.metrics.countAllowed }

/-- The hub after a denied call was counted. -/
def denied (hub : Hub) (reason : DenyReason) : Hub :=
  { hub with metrics := hub.metrics.countDenied reason.failure.code }

end Hub

namespace Gateway

/-! ## §1. The chain, wherever the hub is kept. -/

section ChainIn

variable (m : Type → Type) [Monad m] [MonadStateOf Hub m]

/-- Count a verdict in the hub. -/
def counting (judge : Metrics → Outcome Unit × Metrics) : m (Outcome Unit) :=
  MonadStateOf.modifyGet fun hub : Hub => ((judge hub.metrics).1, { hub with metrics := (judge hub.metrics).2 })

/-- The chain of every call in a monad that keeps the hub. -/
def chainIn (g : Gateway) (wall : Int64) : Chain m Handler :=
  { taps := [fun call =>
      MonadStateOf.modifyGet fun hub : Hub => ((), hub.observe (g.routes.contains call.method.full) wall call)]
    unary := [(g.policy.link (counting m)).interceptor]
    stream := [(g.policy.link (counting m)).interceptor] }

/-- The chain of a gateway is this one. -/
theorem chain_eq (g : Gateway) (wall : Int64) : g.chain wall = g.chainIn (StateM Hub) wall := rfl

/-- Go on if the policy allows the call, and answer with the reason if not. -/
def gate {α : Type} (p : AccessPolicy) (call : Call) (next : m (Outcome α)) : m (Outcome α) := do
  match ← counting m (p.judge call) with
  | .ok () => next
  | .error e => return .error e

variable [LawfulMonad m]

/-- Whatever service stands behind the chain, a call reaches it through the
gate and no other way. -/
theorem chainIn_runUnary (g : Gateway) (wall : Int64) (service : Answering m Value) (call : Call) (req : Value) :
    (g.chainIn m wall).runUnary service call req = gate m g.policy call (service call req) :=
  AccessPolicy.link_interceptor g.policy (counting m) call req service

theorem chainIn_runStream (g : Gateway) (wall : Int64) (service : Answering m Handler) (call : Call)
    (req : Value) :
    (g.chainIn m wall).runStream service call req = gate m g.policy call (service call req) :=
  AccessPolicy.link_interceptor g.policy (counting m) call req service

end ChainIn

/-! ## §2. Services that note what reaches them. -/

/-- The calls that reached a service, with their requests, in order. -/
abbrev Notes := List (Call × Value)

/-- Keeps the hub, and notes. -/
abbrev Noting := StateT Notes (StateM Hub)

/-- A service that notes what reaches it. -/
def noting {α : Type} (service : Call → Value → Outcome α) : Answering Noting α := fun call req => do
  modify (· ++ [(call, req)])
  return service call req

section Gate

variable {p : AccessPolicy} {call : Call} {α : Type}

/-- The gate as a gateway runs it. -/
theorem run_gate_of_allow {rule : Nat} (h : p.authorize call.consumer call.method.full = .allow rule)
    (next : StateM Hub (Outcome α)) (hub : Hub) :
    (gate (StateM Hub) p call next).run hub = next.run hub.allowed := by
  show (match (p.judge call hub.metrics).1 with
    | .ok () => next
    | .error e => pure (.error e)).run _ = _
  rw [AccessPolicy.judge_of_allow h]
  rfl

theorem run_gate_of_deny {reason : DenyReason}
    (h : p.authorize call.consumer call.method.full = .deny reason)
    (next : StateM Hub (Outcome α)) (hub : Hub) :
    (gate (StateM Hub) p call next).run hub = (.error reason.failure, hub.denied reason) := by
  show (match (p.judge call hub.metrics).1 with
    | .ok () => next
    | .error e => pure (.error e)).run _ = _
  rw [AccessPolicy.judge_of_deny h]
  rfl

/-- The gate as it is run with notes. -/
theorem run_gate_noting_of_allow {rule : Nat}
    (h : p.authorize call.consumer call.method.full = .allow rule)
    (next : Noting (Outcome α)) (notes : Notes) (hub : Hub) :
    ((gate Noting p call next).run notes).run hub = (next.run notes).run hub.allowed := by
  show ((match (p.judge call hub.metrics).1 with
    | .ok () => next
    | .error e => pure (.error e)).run notes).run _ = _
  rw [AccessPolicy.judge_of_allow h]
  rfl

theorem run_gate_noting_of_deny {reason : DenyReason}
    (h : p.authorize call.consumer call.method.full = .deny reason)
    (next : Noting (Outcome α)) (notes : Notes) (hub : Hub) :
    ((gate Noting p call next).run notes).run hub
      = ((.error reason.failure, notes), hub.denied reason) := by
  show ((match (p.judge call hub.metrics).1 with
    | .ok () => next
    | .error e => pure (.error e)).run notes).run _ = _
  rw [AccessPolicy.judge_of_deny h]
  rfl

end Gate

/-! ## §3. What becomes of a decoded call. -/

/-- Judge a decoded call as `judge` does, noting what reaches its service. -/
def judgeNoting (g : Gateway) (wall : Int64) (call : Call) (req : Value) : (Stage × Gateway) × Notes :=
  let route := g.routeOf call
  let chain := g.chainIn Noting wall
  match route.kind with
  | .unary =>
    let ((r, notes), hub) := ((chain.runUnary (noting route.service.unary) call req).run []).run g.hub
    match r with
    | .ok v => ((.answered (.ofValue v), { g with hub }), notes)
    | .error e => ({ g with hub }.refuse e, notes)
  | .serverStreaming =>
    let service : Answering Noting Handler := noting fun call req => .ok (route.service.stream call req)
    let ((r, notes), hub) := ((chain.runStream service call req).run []).run g.hub
    match r with
    | .ok handler => ((.granted handler, { g with hub }), notes)
    | .error e => ({ g with hub }.refuse e, notes)

/-- What the service of a route makes of a call that reaches it. -/
def serveBy (route : Route) (call : Call) (req : Value) (g : Gateway) : Stage × Gateway :=
  match route.kind with
  | .unary =>
    match route.service.unary call req with
    | .ok v => (.answered (.ofValue v), g)
    | .error e => g.refuse e
  | .serverStreaming => (.granted (route.service.stream call req), g)

/-- The response to a unary call whose service comes out this way. -/
def responseOf : Outcome Value → Response
  | .ok v => .ofValue v
  | .error e => .ofFailure e

/-- A unary service answers, and nothing changes but counts. -/
theorem serveBy_of_unary {route : Route} (h : route.kind = .unary) (call : Call) (req : Value) (g : Gateway) :
    ∃ metrics, serveBy route call req g
      = (.answered (responseOf (route.service.unary call req)), { g with hub := { g.hub with metrics } }) := by
  rw [serveBy, h]
  cases route.service.unary call req with
  | ok v => exact ⟨g.hub.metrics, rfl⟩
  | error e => exact ⟨g.hub.metrics.countError e.code, rfl⟩

/-- A streaming call is granted its handler, and nothing changes. -/
theorem serveBy_of_streaming {route : Route} (h : route.kind = .serverStreaming) (call : Call) (req : Value)
    (g : Gateway) : serveBy route call req g = (.granted (route.service.stream call req), g) := by
  rw [serveBy, h]

section Judge

variable (g : Gateway) (wall : Int64) {call : Call} (req : Value)

/-- An allowed call reaches the service of its route. -/
theorem judge_of_allow {rule : Nat} (h : g.policy.authorize call.consumer call.method.full = .allow rule) :
    g.judge wall call req = serveBy (g.routeOf call) call req { g with hub := g.hub.allowed } := by
  unfold judge serveBy
  simp only [chain_eq, chainIn_runUnary, chainIn_runStream, run_gate_of_allow h]
  cases (g.routeOf call).kind with
  | unary =>
    show (match (g.routeOf call).service.unary call req with
      | .ok v => (Stage.answered (.ofValue v), { g with hub := g.hub.allowed })
      | .error e => { g with hub := g.hub.allowed }.refuse e) = _
    rfl
  | serverStreaming => rfl

/-- A denied call is refused with the reason. -/
theorem judge_of_deny {reason : DenyReason}
    (h : g.policy.authorize call.consumer call.method.full = .deny reason) :
    g.judge wall call req = { g with hub := g.hub.denied reason }.refuse reason.failure := by
  unfold judge
  simp only [chain_eq, chainIn_runUnary, chainIn_runStream, run_gate_of_deny h]
  cases (g.routeOf call).kind with
  | unary => rfl
  | serverStreaming => rfl

theorem judgeNoting_of_allow {rule : Nat}
    (h : g.policy.authorize call.consumer call.method.full = .allow rule) :
    g.judgeNoting wall call req
      = (serveBy (g.routeOf call) call req { g with hub := g.hub.allowed }, [(call, req)]) := by
  unfold judgeNoting serveBy
  simp only [chainIn_runUnary, chainIn_runStream, run_gate_noting_of_allow h]
  cases (g.routeOf call).kind with
  | unary =>
    show (match (g.routeOf call).service.unary call req with
      | .ok v => ((Stage.answered (.ofValue v), { g with hub := g.hub.allowed }), [(call, req)])
      | .error e => ({ g with hub := g.hub.allowed }.refuse e, [(call, req)])) = _
    split <;> rfl
  | serverStreaming => rfl

theorem judgeNoting_of_deny {reason : DenyReason}
    (h : g.policy.authorize call.consumer call.method.full = .deny reason) :
    g.judgeNoting wall call req
      = ({ g with hub := g.hub.denied reason }.refuse reason.failure, []) := by
  unfold judgeNoting
  simp only [chainIn_runUnary, chainIn_runStream, run_gate_noting_of_deny h]
  cases (g.routeOf call).kind with
  | unary => rfl
  | serverStreaming => rfl

/-- Noting changes nothing. -/
theorem judgeNoting_fst : (g.judgeNoting wall call req).1 = g.judge wall call req := by
  cases h : g.policy.authorize call.consumer call.method.full with
  | allow rule => rw [judgeNoting_of_allow g wall req h, judge_of_allow g wall req h]
  | deny reason => rw [judgeNoting_of_deny g wall req h, judge_of_deny g wall req h]

end Judge

/-- Judging a call changes counts, and nothing else. -/
theorem judge_snd (g : Gateway) (wall : Int64) (call : Call) (req : Value) :
    ∃ metrics, (g.judge wall call req).2 = { g with hub := { g.hub with metrics } } := by
  cases hverdict : g.policy.authorize call.consumer call.method.full with
  | deny reason =>
    rw [judge_of_deny g wall req hverdict]
    exact ⟨_, rfl⟩
  | allow rule =>
    rw [judge_of_allow g wall req hverdict]
    cases hkind : (g.routeOf call).kind with
    | unary =>
      obtain ⟨metrics, hserve⟩ := serveBy_of_unary hkind call req { g with hub := g.hub.allowed }
      rw [hserve]
      exact ⟨metrics, rfl⟩
    | serverStreaming =>
      rw [serveBy_of_streaming hkind]
      exact ⟨_, rfl⟩

end Gateway

/-! ## §4. How a stream begins. -/

/-- A streaming call is answered with its stream, or refused with the failure
of its handler. -/
theorem Gateway.beginStream_cases (g : Gateway) (now : Instant) (handler : Handler) :
    (∃ e, (StreamTask.begun now g.hub handler).1.answer? = some (.error e)
        ∧ g.beginStream now handler = { g with hub := (StreamTask.begun now g.hub handler).2 }.refuse e)
      ∨ (∀ e, (StreamTask.begun now g.hub handler).1.answer? ≠ some (.error e))
        ∧ g.beginStream now handler = (.answered (.ofStream g.streams.length), { g with
            hub := (StreamTask.begun now g.hub handler).2
            streams := g.streams ++ [{ task := (StreamTask.begun now g.hub handler).1 }] }) := by
  unfold beginStream
  simp only
  split
  · rename_i e hanswer
    exact .inl ⟨e, hanswer, rfl⟩
  · rename_i hanswer
    exact .inr ⟨hanswer, rfl⟩

end CallGateway
