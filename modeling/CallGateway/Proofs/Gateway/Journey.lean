/-
  CallGateway.Proofs.Gateway.Journey
  ──────────────────────────────────
  **A CALL AMONG ALL THAT HAPPENS MEANWHILE.**

  A call visits the gateway once at each of its stages, and between two
  visits anything may happen there: other calls, the feeds, the streams, a
  shutdown.  A `Journey` is such a history, and `Course` says what each visit
  can come to.  The proof looks at one visit at a time (`Course.goesOn`);
  that what happens in between does not matter follows from the gateway's
  setup being the same throughout (`Journey.course`).
-/
import CallGateway.Proofs.Exchange.FanOut
import CallGateway.Proofs.Gateway.Step

namespace CallGateway

open Json (Value)

namespace Gateway

/-! ## §1. What leaves subscribers and streams alone. -/

/-- Nobody subscribed, no stream was answered or accepted, and no frame was
sent. -/
structure Quiet (g g' : Gateway) : Prop where
  -- No stream came, and none of those that are there changed.
  streams : g'.streams = g.streams
  -- Nobody subscribed to the log.
  handles : g'.hub.log.handles = g.hub.log.handles
  -- The log's subscribers found nothing new.
  logExchange : g'.hub.log.exchange = g.hub.log.exchange
  -- Nobody subscribed to the statistics.
  subscribers : g'.hub.stats.subscribers = g.hub.stats.subscribers
  statsEntries : g'.hub.stats.exchange.entries.Sublist g.hub.stats.exchange.entries
  statsIds : g'.hub.stats.exchange.nextId = g.hub.stats.exchange.nextId
  statsQueues : g'.hub.stats.exchange.queues.length = g.hub.stats.exchange.queues.length

theorem Quiet.refl (g : Gateway) : Quiet g g := ⟨rfl, rfl, rfl, rfl, .refl _, rfl, rfl⟩

/-- Counting is quiet. -/
theorem quiet_of_metrics (g : Gateway) (metrics : Metrics) : Quiet g { g with hub := { g.hub with metrics } } :=
  ⟨rfl, rfl, rfl, rfl, .refl _, rfl, rfl⟩

/-- A call that is observed joins the log's intake and the queues of the
statistics, and that is all. -/
theorem quiet_of_observe (g : Gateway) (known : Bool) (wall : Int64) (call : Call) :
    Quiet g { g with hub := g.hub.observe known wall call } := by
  have hlog : ∀ r m, (g.hub.log.publish r m).2.1.handles = g.hub.log.handles
      ∧ (g.hub.log.publish r m).2.1.exchange = g.hub.log.exchange := by
    intro r m
    unfold LogFeed.publish
    split <;> exact ⟨rfl, rfl⟩
  obtain ⟨hid, -, -, hqueues⟩ := g.hub.stats.exchange.fanOut_frame (CallRecord.ofCall wall call)
  exact ⟨rfl, (hlog _ _).1, (hlog _ _).2, rfl, g.hub.stats.exchange.fanOut_entries_sublist _, hid, hqueues⟩

/-! ## §2. Visits. -/

/-- What a call found and left at one of its stages. -/
structure Visit where
  now : Instant
  -- The gateway that it found.
  before : Gateway
  -- How far the call had come.
  stage : Stage
  -- The gateway that it left.
  after : Gateway

namespace Visit

/-- The visit left subscribers and streams alone. -/
def IsQuiet (v : Visit) : Prop := Quiet v.before v.after

/-- What reached a service on the visit. -/
def notes (call : Call) (v : Visit) : Notes :=
  match v.stage with
  | .decoded req => (v.before.judgeNoting v.now.wall call req).2
  | _ => []

end Visit

/-- A call with its visits so far, from where it came to where it is. -/
inductive Journey (g : Gateway) (call : Call) (body : Bytes) : List Visit → Stage → Gateway → Prop where
  -- The call has come.
  | comes : Journey g call body [] .arrived g
  | waits {vs : List Visit} {stage : Stage} {g₁ g₂ : Gateway} :
      Journey g call body vs stage g₁ → g₁.Step g₂ → Journey g call body vs stage g₂
  -- The call is taken one stage further.
  | goesOn {vs : List Visit} {stage : Stage} {g₁ : Gateway} (now : Instant) :
      Journey g call body vs stage g₁ → (∀ r, stage ≠ .answered r) →
      Journey g call body
        (vs ++ [⟨now, g₁, stage, (g₁.advance now { call, body, stage }).2⟩])
        (g₁.advance now { call, body, stage }).1.stage
        (g₁.advance now { call, body, stage }).2

/-! ## §3. The course of a call. -/

/-- What the visits of a call come to, in a gateway with this setup. -/
inductive Course (g : Gateway) (call : Call) (body : Bytes) : List Visit → Stage → Prop where
  | arrived : Course g call body [] .arrived
  | observed {v : Visit} : v.stage = .arrived → v.IsQuiet → Course g call body [v] .observed
  | turnedAway {vs : List Visit} {v : Visit} :
      Course g call body vs .observed → v.stage = .observed → v.IsQuiet → v.before.isDraining = true →
      Course g call body (vs ++ [v]) (.answered (.ofFailure .shuttingDown))
  | admitted {vs : List Visit} {v : Visit} :
      Course g call body vs .observed → v.stage = .observed → v.IsQuiet → v.before.isDraining = false →
      Course g call body (vs ++ [v]) .admitted
  | malformed {vs : List Visit} {v : Visit} {e : Failure} :
      Course g call body vs .admitted → v.stage = .admitted → v.IsQuiet → decodeBody body = .error e →
      Course g call body (vs ++ [v]) (.answered (.ofFailure e))
  | decoded {vs : List Visit} {v : Visit} {req : Value} :
      Course g call body vs .admitted → v.stage = .admitted → v.IsQuiet → decodeBody body = .ok req →
      Course g call body (vs ++ [v]) (.decoded req)
  | denied {vs : List Visit} {v : Visit} {req : Value} {reason : DenyReason} :
      Course g call body vs (.decoded req) → v.stage = .decoded req → v.IsQuiet → v.notes call = [] →
      g.policy.authorize call.consumer call.method.full = .deny reason →
      Course g call body (vs ++ [v]) (.answered (.ofFailure reason.failure))
  | served {vs : List Visit} {v : Visit} {req : Value} {rule : Nat} :
      Course g call body vs (.decoded req) → v.stage = .decoded req → v.IsQuiet →
      v.notes call = [(call, req)] →
      g.policy.authorize call.consumer call.method.full = .allow rule → (g.routeOf call).kind = .unary →
      Course g call body (vs ++ [v]) (.answered (responseOf ((g.routeOf call).service.unary call req)))
  | granted {vs : List Visit} {v : Visit} {req : Value} {rule : Nat} :
      Course g call body vs (.decoded req) → v.stage = .decoded req → v.IsQuiet →
      v.notes call = [(call, req)] →
      g.policy.authorize call.consumer call.method.full = .allow rule →
      (g.routeOf call).kind = .serverStreaming →
      Course g call body (vs ++ [v]) (.granted ((g.routeOf call).service.stream call req))
  | begun {vs : List Visit} {v : Visit} {handler : Handler} {r : Response} :
      Course g call body vs (.granted handler) → v.stage = .granted handler →
      v.before.beginStream v.now handler = (.answered r, v.after) →
      Course g call body (vs ++ [v]) (.answered r)

section Course

variable {g g₁ : Gateway} {call : Call} {body : Bytes} {vs : List Visit}

/-- A gateway with the same setup leads a call the same way. -/
theorem SameSetup.routeOf (h : SameSetup g g₁) (call : Call) : g₁.routeOf call = g.routeOf call := by
  rw [Gateway.routeOf, h.routes]
  rfl

/-- Once its handler begins, a streaming call is answered. -/
theorem beginStream_answers (g : Gateway) (now : Instant) (handler : Handler) :
    ∃ r, (g.beginStream now handler).1 = .answered r := by
  rcases g.beginStream_cases now handler with ⟨e, -, hbegin⟩ | ⟨-, hbegin⟩ <;>
  · rw [hbegin]
    exact ⟨_, rfl⟩

/-- A visit at which the policy judges a decoded call. -/
theorem Course.judge {req : Value} (hcourse : Course g call body vs (.decoded req)) (hsetup : SameSetup g g₁)
    (now : Instant) :
    Course g call body (vs ++ [⟨now, g₁, .decoded req, (g₁.judge now.wall call req).2⟩])
      (g₁.judge now.wall call req).1 := by
  cases hverdict : g.policy.authorize call.consumer call.method.full with
  | deny reason =>
    have hverdict₁ := hverdict
    rw [← hsetup.policy] at hverdict₁
    rw [judge_of_deny g₁ now.wall req hverdict₁]
    exact .denied hcourse rfl (quiet_of_metrics g₁ _)
      (congrArg Prod.snd (judgeNoting_of_deny g₁ now.wall req hverdict₁)) hverdict
  | allow rule =>
    have hverdict₁ := hverdict
    rw [← hsetup.policy] at hverdict₁
    have hnotes := congrArg Prod.snd (judgeNoting_of_allow g₁ now.wall req hverdict₁)
    rw [judge_of_allow g₁ now.wall req hverdict₁, hsetup.routeOf call]
    cases hkind : (g.routeOf call).kind with
    | unary =>
      obtain ⟨metrics, hserve⟩ := serveBy_of_unary hkind call req { g₁ with hub := g₁.hub.allowed }
      rw [hserve]
      exact .served hcourse rfl (quiet_of_metrics g₁ metrics) hnotes hverdict hkind
    | serverStreaming =>
      rw [serveBy_of_streaming hkind]
      exact .granted hcourse rfl (quiet_of_metrics g₁ _) hnotes hverdict hkind

/-- **One visit.**  From wherever a call has come, its next visit is one that
its course allows. -/
theorem Course.goesOn {stage : Stage} (hcourse : Course g call body vs stage) (hsetup : SameSetup g g₁)
    (now : Instant) (hstage : ∀ r, stage ≠ .answered r) :
    Course g call body (vs ++ [⟨now, g₁, stage, (g₁.advance now { call, body, stage }).2⟩])
      (g₁.advance now { call, body, stage }).1.stage := by
  cases stage with
  | arrived =>
    cases hcourse
    exact .observed rfl (quiet_of_observe g₁ _ _ _)
  | observed =>
    unfold advance
    by_cases hdraining : g₁.isDraining = true
    · simp only [hdraining, if_true]
      exact .turnedAway hcourse rfl (quiet_of_metrics g₁ _) hdraining
    · simp only [hdraining]
      exact .admitted hcourse rfl (Quiet.refl g₁) (by simpa using hdraining)
  | admitted =>
    unfold advance
    cases hbody : decodeBody body with
    | ok req =>
      simp only
      exact .decoded hcourse rfl (Quiet.refl g₁) hbody
    | error e =>
      simp only
      exact .malformed hcourse rfl (quiet_of_metrics g₁ _) hbody
  | decoded req => exact hcourse.judge hsetup now
  | granted handler =>
    obtain ⟨r, hr⟩ := beginStream_answers g₁ now handler
    unfold advance
    simp only [hr]
    exact .begun hcourse rfl (Prod.ext hr rfl)
  | answered r => exact absurd rfl (hstage r)

/-- **The whole journey.**  Whatever happens in between, the visits of a call
follow its course. -/
theorem Journey.course {stage : Stage} {g' : Gateway} (h : Journey g call body vs stage g') :
    Course g call body vs stage ∧ SameSetup g g' := by
  induction h with
  | comes => exact ⟨.arrived, rfl, rfl, rfl⟩
  | waits _ hstep ih => exact ⟨ih.1, ih.2.trans hstep.setup⟩
  | goesOn now _ hstage ih =>
    exact ⟨ih.1.goesOn ih.2 now hstage, ih.2.trans (advance_setup _ now _)⟩

/-- What a call finds on its visits, the gateway has come to. -/
theorem Journey.reachable {stage : Stage} {g' : Gateway} (h : Journey g call body vs stage g') :
    Reachable g g' ∧ ∀ v ∈ vs, Reachable g v.before := by
  induction h with
  | comes => exact ⟨.refl, fun v hv => nomatch hv⟩
  | waits _ hstep ih => exact ⟨ih.1.tail hstep, ih.2⟩
  | goesOn now _ _ ih =>
    refine ⟨ih.1.tail (.call now _), fun v hv => ?_⟩
    rcases List.mem_append.1 hv with hv | hv
    · exact ih.2 v hv
    · obtain rfl := List.mem_singleton.1 hv
      exact ih.1

end Course

end Gateway

end CallGateway
