/-
  CallGateway.Proofs.Gateway.Gains
  ────────────────────────────────
  **WHAT A CALL ADDS TO THE COUNTERS.**

  Whatever else is counted while a call is on its way, its own visits add to
  the counters what they add.  `Turn` says for each stage what one visit counts
  (`advance_turn`); put together, the visits of a call count what `Tally` says
  of the stage that it has come to (`Journey.tally`).  An answered call is
  observed once, judged at most once, and fails once or not at all.
-/
import CallGateway.Proofs.Gateway.Draining
import CallGateway.Proofs.Gateway.Tending
import CallGateway.Proofs.Metrics.Meters

namespace CallGateway

open Json (Value)

namespace Gateway

/-! ## §1. Gains. -/

/-- What a visit adds to what a meter reads off a counter. -/
def Visit.gain (ρ : Meter) (f : Family) (v : Visit) : UInt64 :=
  ρ.read (v.after.hub.metrics.counter f) - ρ.read (v.before.hub.metrics.counter f)

/-- What some visits add to it. -/
def gains (ρ : Meter) (f : Family) (vs : List Visit) : UInt64 := (vs.map (·.gain ρ f)).sum

theorem gains_concat (ρ : Meter) (f : Family) (vs : List Visit) (v : Visit) :
    gains ρ f (vs ++ [v]) = gains ρ f vs + v.gain ρ f := by
  unfold gains
  rw [List.map_append, List.sum_append]
  simp

/-- A visit adds the weight of what it counts. -/
theorem Visit.gain_of_counted {v : Visit} {counts : List Count}
    (h : Metrics.Counted counts v.before.hub.metrics v.after.hub.metrics) (ρ : Meter) {f : Family}
    (hf : f ≠ .droppedDeliveries) : v.gain ρ f = ρ.weigh f counts := by
  unfold Visit.gain
  rw [h.read ρ hf, UInt64.add_comm, UInt64.add_sub_cancel]

/-! ## §2. Whether a call was turned away. -/

/-- On this visit the call asked whether the gateway was shutting down, and it
was. -/
def Visit.sawDraining (v : Visit) : Bool :=
  match v.stage with
  | .observed => v.before.isDraining
  | _ => false

/-- The call has asked while the gateway was shutting down. -/
def sawDraining (vs : List Visit) : Bool := vs.any Visit.sawDraining

theorem Visit.sawDraining_of_ne {v : Visit} (h : v.stage ≠ .observed) : v.sawDraining = false := by
  unfold Visit.sawDraining
  split
  · rename_i hstage
    exact absurd hstage h
  · rfl

theorem sawDraining_concat (vs : List Visit) (v : Visit) :
    sawDraining (vs ++ [v]) = (sawDraining vs || v.sawDraining) := by
  unfold sawDraining
  simp

section Course

variable {g g' : Gateway} {call : Call} {body : Bytes} {vs : List Visit}

/-- A call that has asked was observed on its first visit, asked on the second,
and did neither again. -/
theorem Course.split {stage : Stage} (h : Course g call body vs stage) (harrived : stage ≠ .arrived)
    (hobserved : stage ≠ .observed) :
    ∃ first second later, vs = first :: second :: later ∧ first.stage = .arrived ∧ second.stage = .observed
      ∧ ∀ v ∈ later, v.stage ≠ .arrived ∧ v.stage ≠ .observed := by
  induction h with
  | arrived => exact absurd rfl harrived
  | observed _ _ => exact absurd rfl hobserved
  | turnedAway hbefore hv _ _ | admitted hbefore hv _ _ =>
    cases hbefore with
    | observed hfirst _ => exact ⟨_, _, [], rfl, hfirst, hv, fun v hv => nomatch hv⟩
  | malformed _ hv _ _ ih | decoded _ hv _ _ ih | denied _ hv _ _ _ ih | served _ hv _ _ _ _ ih
  | granted _ hv _ _ _ _ ih | begun _ hv _ ih =>
    obtain ⟨first, second, later, rfl, hfirst, hsecond, hlater⟩ := ih nofun nofun
    refine ⟨first, second, later ++ [_], rfl, hfirst, hsecond, fun v' hv' => ?_⟩
    rcases List.mem_append.1 hv' with hv' | hv'
    · exact hlater v' hv'
    · obtain rfl := List.mem_singleton.1 hv'
      rw [hv]
      exact ⟨nofun, nofun⟩

/-- What an answered call has seen, it saw on its second visit. -/
theorem Course.sawDraining_eq {first second : Visit} {later : List Visit} {r : Response}
    (h : Course g call body (first :: second :: later) (.answered r)) :
    sawDraining (first :: second :: later) = second.before.isDraining := by
  obtain ⟨first', second', later', hvs, hfirst, hsecond, hlater⟩ := h.split nofun nofun
  cases hvs
  have hnone : later.any Visit.sawDraining = false :=
    List.any_eq_false.2 fun v hv => by simp [Visit.sawDraining_of_ne (hlater v hv).2]
  have hasked : second.sawDraining = second.before.isDraining := by
    unfold Visit.sawDraining
    rw [hsecond]
  show (first.sawDraining || (second.sawDraining || later.any Visit.sawDraining)) = _
  rw [Visit.sawDraining_of_ne (by simp [hfirst]), hasked, hnone, Bool.or_false, Bool.false_or]

/-- **An answered call was answered as it was ruled**, by what it saw. -/
theorem Journey.obeyed {r : Response} (h : Journey g call body vs (.answered r) g') :
    Obeyed g call vs r (Ruling.of (sawDraining vs) body g.policy call) := by
  obtain ⟨first, second, later, rfl, hobeyed⟩ := h.course.1.mediated
  rwa [h.course.1.sawDraining_eq]

end Course

/-! ## §3. What one visit counts. -/

/-- The label under which a call is counted. -/
def labelOf (g : Gateway) (call : Call) : String :=
  if g.routes.contains call.method.full then call.method.full else Hub.unregistered

/-- How a call may fail that the policy has allowed. -/
inductive Fails (g : Gateway) (call : Call) (req : Value) : Failure → Prop where
  | unary {e : Failure} : (g.routeOf call).kind = .unary → (g.routeOf call).service.unary call req = .error e →
      Fails g call req e
  -- The handler fails before its stream is accepted.
  | streaming {e : Failure} (now : Instant) (hub : Hub) : (g.routeOf call).kind = .serverStreaming →
      (StreamTask.begun now hub ((g.routeOf call).service.stream call req)).1.answer? = some (.error e) →
      Fails g call req e

/-- What a visit counts that takes a call from one stage to the next; `asked`
says whether the call asked on it while the gateway was shutting down. -/
inductive Turn (g : Gateway) (call : Call) (body : Bytes) : (asked : Bool) → Stage → Stage → List Count → Prop where
  | observed : Turn g call body false .arrived .observed [.call (g.labelOf call)]
  | turnedAway : Turn g call body true .observed (.answered (.ofFailure .shuttingDown)) [.error .unavailable]
  | admitted : Turn g call body false .observed .admitted []
  | malformed {e : Failure} : decodeBody body = .error e →
      Turn g call body false .admitted (.answered (.ofFailure e)) [.error e.code]
  | decoded {req : Value} : decodeBody body = .ok req → Turn g call body false .admitted (.decoded req) []
  | denied {req : Value} {reason : DenyReason} :
      g.policy.authorize call.consumer call.method.full = .deny reason →
      Turn g call body false (.decoded req) (.answered (.ofFailure reason.failure))
        [.denied reason.failure.code, .error reason.failure.code]
  | served {req : Value} {rule : Nat} (v : Value) :
      g.policy.authorize call.consumer call.method.full = .allow rule →
      Turn g call body false (.decoded req) (.answered (.ofValue v)) [.allowed]
  | failed {req : Value} {rule : Nat} {e : Failure} :
      g.policy.authorize call.consumer call.method.full = .allow rule → Fails g call req e →
      Turn g call body false (.decoded req) (.answered (.ofFailure e)) [.allowed, .error e.code]
  | granted {req : Value} {rule : Nat} :
      g.policy.authorize call.consumer call.method.full = .allow rule →
      (g.routeOf call).kind = .serverStreaming →
      Turn g call body false (.decoded req) (.granted ((g.routeOf call).service.stream call req)) [.allowed]
  | begun {handler : Handler} (n : Nat) : Turn g call body false (.granted handler) (.answered (.ofStream n)) []
  | broken {handler : Handler} {e : Failure} (now : Instant) (hub : Hub) :
      (StreamTask.begun now hub handler).1.answer? = some (.error e) →
      Turn g call body false (.granted handler) (.answered (.ofFailure e)) [.error e.code]

section Turn

variable {g g₁ : Gateway}

theorem SameSetup.labelOf (h : SameSetup g g₁) (call : Call) : g₁.labelOf call = g.labelOf call := by
  unfold Gateway.labelOf
  rw [h.routes]

/-- A visit at which the policy judges a decoded call. -/
theorem judge_turn {call : Call} {body : Bytes} (hsetup : SameSetup g g₁) (wall : Int64) (req : Value) :
    ∃ counts, Turn g call body false (.decoded req) (g₁.judge wall call req).1 counts
      ∧ Metrics.Counted counts g₁.hub.metrics (g₁.judge wall call req).2.hub.metrics := by
  cases hverdict : g.policy.authorize call.consumer call.method.full with
  | deny reason =>
    have hverdict₁ := hverdict
    rw [← hsetup.policy] at hverdict₁
    rw [judge_of_deny g₁ wall req hverdict₁]
    exact ⟨_, .denied hverdict, Metrics.counted_of_eq rfl⟩
  | allow rule =>
    have hverdict₁ := hverdict
    rw [← hsetup.policy] at hverdict₁
    rw [judge_of_allow g₁ wall req hverdict₁, hsetup.routeOf call]
    cases hkind : (g.routeOf call).kind with
    | unary =>
      unfold serveBy
      rw [hkind]
      cases hanswer : (g.routeOf call).service.unary call req with
      | ok v => exact ⟨_, .served v hverdict, Metrics.counted_of_eq rfl⟩
      | error e => exact ⟨_, .failed hverdict (.unary hkind hanswer), Metrics.counted_of_eq rfl⟩
    | serverStreaming =>
      rw [serveBy_of_streaming hkind]
      exact ⟨_, .granted hverdict hkind, Metrics.counted_of_eq rfl⟩

/-- **What one visit counts.**  From wherever a call has come, its next visit
counts what its stage says. -/
theorem advance_turn (call : Call) (body : Bytes) (hsetup : SameSetup g g₁) (now : Instant) {stage : Stage}
    (hstage : ∀ r, stage ≠ .answered r) :
    ∃ counts, Turn g call body (Visit.sawDraining ⟨now, g₁, stage, (g₁.advance now { call, body, stage }).2⟩)
        stage (g₁.advance now { call, body, stage }).1.stage counts
      ∧ Metrics.Counted counts g₁.hub.metrics (g₁.advance now { call, body, stage }).2.hub.metrics := by
  cases stage with
  | arrived =>
    obtain ⟨dropped, hmetrics⟩ := g₁.hub.metrics_observe (g₁.routes.contains call.method.full) now.wall call
    refine ⟨_, .observed, ?_⟩
    rw [← hsetup.labelOf call]
    exact Metrics.counted_dropped hmetrics
  | observed =>
    unfold advance
    cases hdraining : g₁.isDraining with
    | true =>
      have hasked : ∀ after, Visit.sawDraining ⟨now, g₁, .observed, after⟩ = true := fun _ => hdraining
      simp only [if_true, hasked]
      exact ⟨_, .turnedAway, Metrics.counted_of_eq rfl⟩
    | false =>
      have hasked : ∀ after, Visit.sawDraining ⟨now, g₁, .observed, after⟩ = false := fun _ => hdraining
      simp only [hasked]
      exact ⟨_, .admitted, Metrics.counted_of_eq rfl⟩
  | admitted =>
    unfold advance
    cases hbody : decodeBody body with
    | ok req => exact ⟨_, .decoded hbody, Metrics.counted_of_eq rfl⟩
    | error e => exact ⟨_, .malformed hbody, Metrics.counted_of_eq rfl⟩
  | decoded req => exact judge_turn hsetup now.wall req
  | granted handler =>
    have htended := Hub.Uses.tended (StreamTask.uses_begun now g₁.hub handler)
    unfold advance
    rcases g₁.beginStream_cases now handler with ⟨e, hanswer, hbegin⟩ | ⟨-, hbegin⟩
    · simp only [hbegin]
      refine ⟨_, .broken now g₁.hub hanswer, Metrics.counted_of_eq ?_⟩
      show Metrics.countError _ _ = _
      rw [htended.metrics]
      rfl
    · simp only [hbegin]
      exact ⟨_, .begun g₁.streams.length, Metrics.counted_of_eq htended.metrics⟩
  | answered r => exact absurd rfl (hstage r)

end Turn

/-! ## §4. What all visits of a call count. -/

/-- What was counted about a call that has come to a stage; `draining` says
whether it has asked while the gateway was shutting down. -/
inductive Tally (g : Gateway) (call : Call) (body : Bytes) : (draining : Bool) → Stage → List Count → Prop where
  | arrived : Tally g call body false .arrived []
  | observed : Tally g call body false .observed [.call (g.labelOf call)]
  | admitted : Tally g call body false .admitted [.call (g.labelOf call)]
  | decoded {req : Value} : decodeBody body = .ok req →
      Tally g call body false (.decoded req) [.call (g.labelOf call)]
  | granted {req : Value} {rule : Nat} : decodeBody body = .ok req →
      g.policy.authorize call.consumer call.method.full = .allow rule →
      (g.routeOf call).kind = .serverStreaming →
      Tally g call body false (.granted ((g.routeOf call).service.stream call req))
        [.call (g.labelOf call), .allowed]
  | turnedAway : Tally g call body true (.answered (.ofFailure .shuttingDown))
      [.call (g.labelOf call), .error .unavailable]
  | malformed {e : Failure} : decodeBody body = .error e →
      Tally g call body false (.answered (.ofFailure e)) [.call (g.labelOf call), .error e.code]
  | denied {req : Value} {reason : DenyReason} : decodeBody body = .ok req →
      g.policy.authorize call.consumer call.method.full = .deny reason →
      Tally g call body false (.answered (.ofFailure reason.failure))
        [.call (g.labelOf call), .denied reason.failure.code, .error reason.failure.code]
  | served {req : Value} {rule : Nat} {r : Response} : decodeBody body = .ok req →
      g.policy.authorize call.consumer call.method.full = .allow rule → r.status = 200 →
      Tally g call body false (.answered r) [.call (g.labelOf call), .allowed]
  | failed {req : Value} {rule : Nat} {e : Failure} : decodeBody body = .ok req →
      g.policy.authorize call.consumer call.method.full = .allow rule → Fails g call req e →
      Tally g call body false (.answered (.ofFailure e)) [.call (g.labelOf call), .allowed, .error e.code]

section Tally

variable {g g' : Gateway} {call : Call} {body : Bytes} {vs : List Visit} {stage stage' : Stage}

/-- **One visit** adds to what was counted before. -/
theorem Tally.goesOn {draining asked : Bool} {counts more : List Count}
    (h : Tally g call body draining stage counts) (hturn : Turn g call body asked stage stage' more) :
    Tally g call body (draining || asked) stage' (counts ++ more) := by
  cases h with
  | arrived =>
    cases hturn with
    | observed => exact .observed
  | observed =>
    cases hturn with
    | turnedAway => exact .turnedAway
    | admitted => exact .admitted
  | admitted =>
    cases hturn with
    | malformed hbody => exact .malformed hbody
    | decoded hbody => exact .decoded hbody
  | decoded hbody =>
    cases hturn with
    | denied hverdict => exact .denied hbody hverdict
    | served v hverdict => exact .served hbody hverdict rfl
    | failed hverdict hfails => exact .failed hbody hverdict hfails
    | granted hverdict hkind => exact .granted hbody hverdict hkind
  | granted hbody hverdict hkind =>
    cases hturn with
    | begun n => exact .served hbody hverdict rfl
    | broken now hub hanswer => exact .failed hbody hverdict (.streaming now hub hkind hanswer)
  | turnedAway | malformed | denied | served | failed => cases hturn

/-- **The whole journey.**  Whatever is counted in between, the visits of a call
add to every counter what the tally says. -/
theorem Journey.tally (h : Journey g call body vs stage g') :
    ∃ counts, Tally g call body (sawDraining vs) stage counts
      ∧ ∀ ρ f, f ≠ .droppedDeliveries → gains ρ f vs = Meter.weigh ρ f counts := by
  induction h with
  | comes => exact ⟨[], .arrived, fun _ _ _ => rfl⟩
  | waits _ _ ih => exact ih
  | @goesOn vs stage g₁ now hbefore hstage ih =>
    obtain ⟨counts, htally, hgains⟩ := ih
    obtain ⟨more, hturn, hcounted⟩ := advance_turn call body hbefore.course.2 now hstage
    refine ⟨counts ++ more, ?_, fun ρ f hf => ?_⟩
    · rw [sawDraining_concat]
      exact htally.goesOn hturn
    · rw [gains_concat, ρ.weigh_append, hgains ρ f hf, Visit.gain_of_counted hcounted ρ hf]

end Tally

end Gateway

end CallGateway
