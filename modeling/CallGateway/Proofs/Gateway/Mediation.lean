/-
  CallGateway.Proofs.Gateway.Mediation
  ────────────────────────────────────
  **EVERY CALL IS MEDIATED.**

  Four things decide about a call, in this order: whether the gateway is
  shutting down, whether the body can be read, what the policy says, and the
  service.  `Ruling.of` is that order, and it looks at nothing else.  A call
  is answered as it is ruled, whatever happens while it is on its way
  (`call_mediated`); and if it is not ruled to be served, then nothing
  reaches a service, and the gateway's subscribers and streams are left as
  they were.
-/
import CallGateway.Proofs.Call
import CallGateway.Proofs.Gateway.Journey
import CallGateway.Proofs.Gateway.Shut
import CallGateway.Proofs.MethodName

namespace CallGateway

open Json (Value)

namespace Gateway

/-! ## §1. The order of the checks. -/

/-- What is ruled about a call. -/
inductive Ruling where
  -- The gateway is shutting down.
  | turnedAway
  -- The body cannot be read.
  | malformed (e : Failure)
  -- The policy denies the call.
  | denied (reason : DenyReason)
  -- The call is for its service to answer.
  | served (req : Value)

/-- The ruling on a call. -/
def Ruling.of (draining : Bool) (body : Bytes) (p : AccessPolicy) (call : Call) : Ruling :=
  if draining then .turnedAway
  else match decodeBody body with
    | .error e => .malformed e
    | .ok req => match p.authorize call.consumer call.method.full with
      | .deny reason => .denied reason
      | .allow _ => .served req

/-! ## §2. What a ruling means. -/

/-- What reached a service over some visits. -/
def notes (call : Call) (vs : List Visit) : Notes := vs.flatMap (·.notes call)

theorem notes_append (call : Call) (vs : List Visit) (v : Visit) :
    notes call (vs ++ [v]) = notes call vs ++ v.notes call := by
  simp [notes]

/-- Only a decoded call can reach a service. -/
theorem Visit.notes_of_stage {v : Visit} (call : Call) (h : ∀ req, v.stage ≠ .decoded req) :
    v.notes call = [] := by
  unfold Visit.notes
  split
  · rename_i req hstage
    exact absurd hstage (h req)
  · rfl

/-- A call is answered with a failure of this code under this status, and no
more than that. -/
structure Refused (call : Call) (vs : List Visit) (r : Response) (status : Nat) (e : Failure) : Prop where
  response : r = .ofFailure e
  status_eq : r.status = status
  no_service : notes call vs = []
  -- Nobody subscribed, no stream was accepted, and no frame was sent.
  quiet : ∀ v ∈ vs, v.IsQuiet

/-- A call is answered by the service of its route, which ran once. -/
structure Served (g : Gateway) (call : Call) (req : Value) (vs : List Visit) (r : Response) : Prop where
  -- The service ran once, on this call and request.
  once : notes call vs = [(call, req)]
  -- The result of a unary service is the response.
  unary : (g.routeOf call).kind = .unary →
    r = responseOf ((g.routeOf call).service.unary call req) ∧ ∀ v ∈ vs, v.IsQuiet
  /-- The handler of a streaming service began once, on the last visit, and
  decides about the response. -/
  streaming : (g.routeOf call).kind = .serverStreaming →
    ∃ earlier last, vs = earlier ++ [last] ∧ (∀ v ∈ earlier, v.IsQuiet ∧ ∀ h, v.stage ≠ .granted h)
      ∧ last.stage = .granted ((g.routeOf call).service.stream call req)
      ∧ last.before.beginStream last.now ((g.routeOf call).service.stream call req) = (.answered r, last.after)
  -- A method that is not registered is not found.
  unregistered : g.routes.resolve? call.method.full = none →
    r = .ofFailure (Service.unknownMethod call) ∧ r.status = 404

/-- Over its visits a call was answered as it was ruled. -/
def Obeyed (g : Gateway) (call : Call) (vs : List Visit) (r : Response) : Ruling → Prop
  | .turnedAway => Refused call vs r 503 (.unavailable "server is shutting down")
  | .malformed e => Refused call vs r 400 e ∧ e.code = .badRequest
  | .denied .unknownConsumer => Refused call vs r 401 (.unauthenticated "unknown consumer")
  | .denied .methodNotAllowed => Refused call vs r 403 (.permissionDenied "method not allowed for consumer")
  | .served req => Served g call req vs r

/-- A call was answered as it was ruled when it asked, on its second visit,
whether the gateway was shutting down. -/
def Mediated (g : Gateway) (call : Call) (body : Bytes) (vs : List Visit) (r : Response) : Prop :=
  ∃ first second later, vs = first :: second :: later
    ∧ Obeyed g call vs r (Ruling.of second.before.isDraining body g.policy call)

/-! ## §3. What has become of a call on the way. -/

section Course

variable {g : Gateway} {call : Call} {body : Bytes} {vs : List Visit}

/-- Until a call is answered its visits are quiet, and no handler begins. -/
theorem Course.early {stage : Stage} (h : Course g call body vs stage) (hstage : ∀ r, stage ≠ .answered r) :
    ∀ v ∈ vs, v.IsQuiet ∧ ∀ handler, v.stage ≠ .granted handler := by
  induction h with
  | arrived => simp
  | observed hv hquiet => simpa [hv] using hquiet
  | admitted _ hv hquiet _ ih | decoded _ hv hquiet _ ih | granted _ hv hquiet _ _ _ ih =>
    intro v hmem
    rcases List.mem_append.1 hmem with hmem | hmem
    · exact ih (by simp) v hmem
    · obtain rfl := List.mem_singleton.1 hmem
      exact ⟨hquiet, by simp [hv]⟩
  | turnedAway | malformed | denied | served | begun => exact absurd rfl (hstage _)

/-- A last visit that is quiet makes all of them quiet. -/
theorem Course.quiet_concat {stage : Stage} {v : Visit} (h : Course g call body vs stage)
    (hstage : ∀ r, stage ≠ .answered r) (hv : v.IsQuiet) : ∀ v' ∈ vs ++ [v], v'.IsQuiet := by
  intro v' hmem
  rcases List.mem_append.1 hmem with hmem | hmem
  · exact (h.early hstage v' hmem).1
  · obtain rfl := List.mem_singleton.1 hmem
    exact hv

theorem Course.of_observed (h : Course g call body vs .observed) :
    notes call vs = [] ∧ ∃ first, vs = [first] := by
  cases h with
  | observed hv _ => exact ⟨by simp [notes, Visit.notes_of_stage, hv], _, rfl⟩

theorem Course.of_admitted (h : Course g call body vs .admitted) :
    notes call vs = [] ∧ ∃ first second, vs = [first, second] ∧ second.before.isDraining = false := by
  cases h with
  | admitted hbefore hv _ hdraining =>
    obtain ⟨hnotes, first, rfl⟩ := hbefore.of_observed
    refine ⟨?_, first, _, rfl, hdraining⟩
    rw [notes_append, hnotes, Visit.notes_of_stage call (by simp [hv])]
    rfl

theorem Course.of_decoded {req : Value} (h : Course g call body vs (.decoded req)) :
    notes call vs = [] ∧ ∃ first second later, vs = first :: second :: later
      ∧ second.before.isDraining = false ∧ decodeBody body = .ok req := by
  cases h with
  | decoded hbefore hv _ hbody =>
    obtain ⟨hnotes, first, second, rfl, hdraining⟩ := hbefore.of_admitted
    refine ⟨?_, first, second, _, rfl, hdraining, hbody⟩
    rw [notes_append, hnotes, Visit.notes_of_stage call (by simp [hv])]
    rfl

/-- A call that has a handler was ruled to be served. -/
theorem Course.of_granted {handler : Handler} (h : Course g call body vs (.granted handler)) :
    ∃ req, notes call vs = [(call, req)] ∧ handler = (g.routeOf call).service.stream call req
      ∧ (g.routeOf call).kind = .serverStreaming ∧ ∃ first second later, vs = first :: second :: later
        ∧ Ruling.of second.before.isDraining body g.policy call = .served req := by
  cases h with
  | granted hbefore hv _ hnotes hverdict hkind =>
    obtain ⟨hnotes', first, second, later, rfl, hdraining, hbody⟩ := hbefore.of_decoded
    refine ⟨_, ?_, rfl, hkind, first, second, _, rfl, ?_⟩
    · rw [notes_append, hnotes', hnotes]
      rfl
    · simp [Ruling.of, hdraining, hbody, hverdict]

/-- An unreadable body is a bad request. -/
theorem code_of_decodeBody {body : Bytes} {e : Failure} (h : decodeBody body = .error e) :
    e.code = .badRequest := by
  unfold decodeBody at h
  split at h
  · cases h
  · split at h <;> cases h
    rfl

/-- An unregistered method leads to the service that offers none. -/
theorem routeOf_of_unregistered (h : g.routes.resolve? call.method.full = none) :
    g.routeOf call = ⟨.unary, Service.unimplemented⟩ := by
  rw [routeOf, h]
  rfl

/-- **A call is answered as it is ruled.** -/
theorem Course.mediated {r : Response} (h : Course g call body vs (.answered r)) :
    Mediated g call body vs r := by
  cases h with
  | turnedAway hbefore hv hquiet hdraining =>
    obtain ⟨hnotes, first, rfl⟩ := hbefore.of_observed
    refine ⟨first, _, [], rfl, ?_⟩
    rw [hdraining]
    refine ⟨rfl, rfl, ?_, hbefore.quiet_concat (by simp) hquiet⟩
    rw [notes_append, hnotes, Visit.notes_of_stage call (by simp [hv])]
    rfl
  | malformed hbefore hv hquiet hbody =>
    obtain ⟨hnotes, first, second, rfl, hdraining⟩ := hbefore.of_admitted
    refine ⟨first, second, _, rfl, ?_⟩
    have hcode := code_of_decodeBody hbody
    simp only [Ruling.of, hdraining, hbody]
    refine ⟨⟨rfl, ?_, ?_, hbefore.quiet_concat (by simp) hquiet⟩, hcode⟩
    · show Code.status _ = 400
      rw [hcode]
      rfl
    · rw [notes_append, hnotes, Visit.notes_of_stage call (by simp [hv])]
      rfl
  | @denied _ v req reason hbefore hv hquiet hnotes hverdict =>
    obtain ⟨hnotes', first, second, later, rfl, hdraining, hbody⟩ := hbefore.of_decoded
    refine ⟨first, second, _, rfl, ?_⟩
    have hnone : notes call (first :: second :: later ++ [v]) = [] := by
      rw [notes_append, hnotes', hnotes]
      rfl
    have hquiets := hbefore.quiet_concat (by simp) hquiet
    simp only [Ruling.of, hdraining, hbody, hverdict]
    cases reason with
    | unknownConsumer => exact ⟨rfl, rfl, hnone, hquiets⟩
    | methodNotAllowed => exact ⟨rfl, rfl, hnone, hquiets⟩
  | served hbefore hv hquiet hnotes hverdict hkind =>
    obtain ⟨hnotes', first, second, later, rfl, hdraining, hbody⟩ := hbefore.of_decoded
    refine ⟨first, second, _, rfl, ?_⟩
    simp only [Ruling.of, hdraining, hbody, hverdict]
    exact {
      once := by
        rw [notes_append, hnotes', hnotes]
        rfl
      unary := fun _ => ⟨rfl, hbefore.quiet_concat (by simp) hquiet⟩
      streaming := fun h => by simp [hkind] at h
      unregistered := fun h => by
        rw [routeOf_of_unregistered h]
        exact ⟨rfl, rfl⟩ }
  | begun hbefore hv hbegin =>
    obtain ⟨req, hnotes, rfl, hkind, first, second, later, rfl, hruling⟩ := hbefore.of_granted
    refine ⟨first, second, _, rfl, ?_⟩
    rw [hruling]
    exact {
      once := by
        rw [notes_append, hnotes, Visit.notes_of_stage call (by simp [hv])]
        rfl
      unary := fun h => by simp [hkind] at h
      streaming := fun _ => ⟨_, _, rfl, hbefore.early (by simp), hv, hbegin⟩
      unregistered := fun h => by
        rw [routeOf_of_unregistered h] at hkind
        cases hkind }

end Course

/-! ## §4. Every call is answered. -/

/-- How many visits a call may still need. -/
def visitsLeft : Stage → Nat
  | .arrived => 5
  | .observed => 4
  | .admitted => 3
  | .decoded _ => 2
  | .granted _ => 1
  | .answered _ => 0

/-- Judging answers a call or grants it its handler. -/
theorem visitsLeft_judge (g : Gateway) (wall : Int64) (call : Call) (req : Value) :
    visitsLeft (g.judge wall call req).1 ≤ 1 := by
  cases hverdict : g.policy.authorize call.consumer call.method.full with
  | deny reason =>
    rw [judge_of_deny g wall req hverdict]
    exact Nat.zero_le 1
  | allow rule =>
    rw [judge_of_allow g wall req hverdict]
    cases hkind : (g.routeOf call).kind with
    | unary =>
      obtain ⟨metrics, hserve⟩ := serveBy_of_unary hkind call req { g with hub := g.hub.allowed }
      rw [hserve]
      exact Nat.zero_le 1
    | serverStreaming =>
      rw [serveBy_of_streaming hkind]
      exact Nat.le_refl 1

/-- Each visit brings a call closer to its answer. -/
theorem visitsLeft_advance (g : Gateway) (now : Instant) (call : Call) (body : Bytes) {stage : Stage}
    (h : ∀ r, stage ≠ .answered r) :
    visitsLeft (g.advance now { call, body, stage }).1.stage < visitsLeft stage := by
  unfold advance
  cases stage with
  | arrived => exact Nat.lt_succ_self 4
  | observed =>
    simp only
    split <;> simp [visitsLeft, refuse]
  | admitted =>
    simp only
    split <;> simp [visitsLeft, refuse]
  | decoded req => exact Nat.lt_succ_of_le (visitsLeft_judge g now.wall call req)
  | granted handler =>
    obtain ⟨r, hr⟩ := beginStream_answers g now handler
    simp only [hr]
    exact Nat.lt_succ_self 0
  | answered r => exact absurd rfl (h r)

section Answered

variable {g g₁ g₂ : Gateway} {call : Call} {body : Bytes} {vs : List Visit} {stage : Stage}

/-- A call waits while other things happen. -/
theorem Journey.waits_for (h : Journey g call body vs stage g₁) (hreach : Reachable g₁ g₂) :
    Journey g call body vs stage g₂ := by
  induction hreach with
  | refl => exact h
  | tail _ hstep ih => exact ih.waits hstep

/-- Wherever a call has come, it can be taken to its answer. -/
theorem Journey.completes (now : Instant) (h : Journey g call body vs stage g₁) :
    ∃ more r g', Journey g call body (vs ++ more) (.answered r) g' := by
  induction hleft : visitsLeft stage using Nat.strongRecOn generalizing vs stage g₁ with
  | ind n ih =>
    subst hleft
    by_cases hstage : ∃ r, stage = .answered r
    · obtain ⟨r, rfl⟩ := hstage
      exact ⟨[], r, g₁, by rwa [List.append_nil]⟩
    · have hgoing : ∀ r, stage ≠ .answered r := fun r hr => hstage ⟨r, hr⟩
      obtain ⟨more, r, g', hrest⟩ := ih _ (visitsLeft_advance g₁ now call body hgoing)
        (h.goesOn now hgoing) rfl
      exact ⟨_ :: more, r, g', by rwa [List.append_assoc] at hrest⟩

/-- Taking a call so many stages further is a journey. -/
theorem Journey.advanceN (now : Instant) (n : Nat) :
    ∀ {vs : List Visit} {stage : Stage} {g₁ : Gateway}, Journey g call body vs stage g₁ →
      ∃ more, Journey g call body (vs ++ more) (advanceN n g₁ now { call, body, stage }).1.stage
          (advanceN n g₁ now { call, body, stage }).2
        ∧ visitsLeft (advanceN n g₁ now { call, body, stage }).1.stage ≤ visitsLeft stage - n := by
  induction n with
  | zero => exact fun {vs _ _} h => ⟨[], by rwa [List.append_nil], Nat.le_refl _⟩
  | succ n ih =>
    intro vs stage g₁ h
    unfold Gateway.advanceN
    -- before a streaming call is judged, the others work until they wait
    have hready : Journey g call body vs stage
        (if g₁.isStreaming { call, body, stage } then g₁.settle now else g₁) := by
      split
      · exact h.waits_for (reachable_settle now g₁)
      · exact h
    generalize (if g₁.isStreaming { call, body, stage } then g₁.settle now else g₁) = g₂ at hready ⊢
    by_cases hstage : ∃ r, stage = .answered r
    · obtain ⟨r, rfl⟩ := hstage
      obtain ⟨more, hrest, hleft⟩ := ih hready
      exact ⟨more, hrest, Nat.le_trans hleft (by simp [visitsLeft])⟩
    · have hgoing : ∀ r, stage ≠ .answered r := fun r hr => hstage ⟨r, hr⟩
      obtain ⟨more, hrest, hleft⟩ := ih (hready.goesOn now hgoing)
      have hless := visitsLeft_advance g₂ now call body hgoing
      exact ⟨_ :: more, by rwa [List.append_assoc] at hrest, Nat.le_trans hleft (by omega)⟩

/-- A call that is answered at once makes a journey, too. -/
theorem Journey.answer (g : Gateway) (now : Instant) (call : Call) (body : Bytes) :
    ∃ vs, Journey g call body vs (.answered (g.answer now call body).1) (g.answer now call body).2 := by
  obtain ⟨vs, hjourney, hleft⟩ := Journey.advanceN now stages (.comes : Journey g call body [] .arrived g)
  unfold Gateway.answer
  rcases hrun : Gateway.advanceN stages g now { call, body } with ⟨f, g'⟩
  rw [hrun] at hjourney hleft
  cases hstage : f.stage with
  | answered r =>
    simp only [hstage] at hjourney ⊢
    exact ⟨vs, hjourney⟩
  | _ => simp [hstage, visitsLeft, stages] at hleft

end Answered

/-! ## §5. The theorem. -/

/-- **Complete mediation.**  Take any gateway that starts, anything that may
have happened in it, and any call of a method.  The call is judged under the
consumer that its headers name and by the compiled table of the
configuration.  Whatever happens while it is on its way, it can be taken to
an answer, and any answer that it gets is the one that it is ruled to get;
so is the one that it gets at once. -/
theorem call_mediated {c : Config} {g₀ g : Gateway} (hstart : start c = .ok g₀) (hreach : Reachable g₀ g)
    {path : String} {method : MethodName} (hpath : MethodName.parse path = .ok method)
    (headers : Headers) (peer : Option SocketAddress) (body : Bytes) :
    let call := Call.ofRequest method headers peer
    call.method.full = path ∧ Headers.Named headers call.consumer
      ∧ AccessPolicy.compile c.acl = .ok g.policy ∧ g.routes = standardRoutes c.server
      ∧ (∀ vs stage g', Journey g call body vs stage g' →
          (Instant → ∃ more r g'', Journey g call body (vs ++ more) (.answered r) g'')
            ∧ ∀ r, stage = .answered r → Mediated g call body vs r)
      ∧ ∀ now, ∃ vs, Journey g call body vs (.answered (g.answer now call body).1) (g.answer now call body).2 := by
  intro call
  obtain ⟨hcompile, hroutes⟩ := of_start_eq_ok hstart
  have hsetup := Reachable.setup hreach
  refine ⟨(MethodName.parse_eq_ok_iff.1 hpath).symm, Headers.consumer_eq_iff.1 rfl, ?_, ?_, ?_, ?_⟩
  · rw [hsetup.policy, hcompile]
  · rw [hsetup.routes, hroutes]
  · intro vs stage g' hjourney
    refine ⟨fun now => hjourney.completes now, ?_⟩
    intro r hr
    subst hr
    exact hjourney.course.1.mediated
  · exact fun now => Journey.answer g now call body

/-- A known consumer calls a method that it may not call, with a body that
breaks off, while the gateway shuts down.  Of these three reasons to refuse the
call the shutdown comes first. -/
theorem status_of_wrong_method_while_draining :
    ∃ g₀ method, start { version := 1, acl := [("amy", ["/main.Admin/*"])] } = .ok g₀
      ∧ MethodName.parse "/main.Biz/Check" = .ok method
      ∧ g₀.policy.authorize "amy" "/main.Biz/Check" = .deny .methodNotAllowed
      ∧ (∃ e, decodeBody (Bytes.ofText "[1,") = .error e)
      ∧ ∀ now, (g₀.drain.answer now (Call.ofRequest method [("Consumer", Bytes.ofText "amy")] none)
          (Bytes.ofText "[1,")).1.status = 503 := by
  let method : MethodName := ⟨"main.Biz", "Check", ⟨by decide, by decide⟩, ⟨by decide, by decide⟩⟩
  have ⟨g₀, hstart⟩ : ∃ g₀, start { version := 1, acl := [("amy", ["/main.Admin/*"])] } = .ok g₀ := ⟨_, rfl⟩
  have hdenied : g₀.policy.authorize "amy" "/main.Biz/Check" = .deny .methodNotAllowed := by
    cases hstart
    decide
  have hpath : MethodName.parse "/main.Biz/Check" = .ok method := by rfl
  refine ⟨g₀, method, hstart, hpath, hdenied, ⟨_, rfl⟩, fun now => ?_⟩
  obtain ⟨-, -, -, -, hall, hanswer⟩ := call_mediated hstart (reachable_drain g₀) hpath
    [("Consumer", Bytes.ofText "amy")] none (Bytes.ofText "[1,")
  obtain ⟨vs, hjourney⟩ := hanswer now
  obtain ⟨first, second, later, rfl, hobeyed⟩ := (hall _ _ _ hjourney).2 _ rfl
  -- the flag was set before the call came, and no step clears it
  have hreach := hjourney.reachable.2 second (List.mem_cons_of_mem first List.mem_cons_self)
  have hdraining : second.before.isDraining = true := (Reachable.staysShut hreach).draining rfl
  rw [hdraining] at hobeyed
  exact hobeyed.status_eq

end Gateway

end CallGateway
