/-
  CallGateway.Proofs.Gateway.Balance
  ──────────────────────────────────
  **THE COUNTERS ADD UP.**

  Calls are counted in three places: where they are observed, where the policy
  judges them, and where they fail.  For one call that has been answered, what
  these add is said law by law (`Tally.weigh_observed` and those after it).  A
  docket knows that the counters show what all its calls have added, so over a
  whole run they agree with the calls and their responses, and with each other
  (`run_counters_balance`).
-/
import CallGateway.Proofs.Gateway.Docket
import CallGateway.Proofs.Line

namespace CallGateway

open Json (Value)

/-! ## §1. What a response tells of a failure. -/

namespace Response

/-- The code in the body of a response, if it tells of a failure. -/
def code? (r : Response) : Option String :=
  match r.body with
  | .bytes content => (decodeLine ErrorFrame content).toOption.map (·.error)
  | .stream _ => none

theorem code?_ofFailure (e : Failure) : (Response.ofFailure e).code? = some e.code.label := by
  have hread := (ErrorFrame.travels (.ofFailure e)).decodeLine_render
  show (decodeLine ErrorFrame (Wire.render (ErrorFrame.ofFailure e))).toOption.map (·.error) = _
  rw [hread]
  rfl

theorem status_ofFailure_ne (e : Failure) : (Response.ofFailure e).status ≠ 200 := by
  show e.code.status ≠ 200
  cases e.code <;> decide

end Response

/-! ## §2. Series of verdicts and failures. -/

namespace Meter

/-- Each code has a series of failures to itself. -/
@[simp] theorem weight_error (code code' : Code) :
    (at_ [("code", code.label)]).weight (Count.error code').labels = if code = code' then 1 else 0 := by
  show (if Labels.key [("code", code.label)] = Labels.key [("code", code'.label)] then (1 : UInt64) else 0) = _
  simp only [Metrics.key_singleton, Metrics.singleton_inj, Metrics.label_inj]

/-- Each code has a series of denials to itself. -/
@[simp] theorem weight_denied (code code' : Code) :
    (at_ [("decision", "deny"), ("code", code.label)]).weight (Count.denied code').labels
      = if code = code' then 1 else 0 := by
  have hkey : Labels.key [("decision", "deny"), ("code", code.label)]
      = Labels.key [("decision", "deny"), ("code", code'.label)] ↔ code = code' := by
    constructor
    · intro h
      have hmem := (Labels.perm_of_key_eq h).subset (List.mem_cons_of_mem _ List.mem_cons_self)
      simpa [Metrics.label_inj] using hmem
    · exact fun h => by rw [h]
  show (if Labels.key [("decision", "deny"), ("code", code.label)]
    = Labels.key [("decision", "deny"), ("code", code'.label)] then (1 : UInt64) else 0) = _
  simp only [hkey]

/-- An allowed call is in none of them. -/
@[simp] theorem weight_allowed (code : Code) :
    (at_ [("decision", "deny"), ("code", code.label)]).weight Count.allowed.labels = 0 := by
  refine if_neg fun h => ?_
  have hlength := (Labels.perm_of_key_eq h).length_eq
  simp [Count.labels] at hlength

end Meter

namespace Gateway

/-! ## §3. What one call adds. -/

/-- The policy has judged the call: it was refused neither for a shutdown nor
for its body. -/
def Ruling.isJudged : Ruling → Bool
  | turnedAway | malformed _ => false
  | denied _ | served _ => true

section Tally

variable {g : Gateway} {call : Call} {body : Bytes} {draining : Bool} {r : Response} {counts : List Count}

/-- An answered call was observed once. -/
theorem Tally.weigh_observed (h : Tally g call body draining (.answered r) counts) :
    Meter.total.weigh .callsObserved counts = 1 := by
  cases h <;> rfl

/-- It was judged once if it was ruled so, and not at all if not. -/
theorem Tally.weigh_judged (h : Tally g call body draining (.answered r) counts) :
    Meter.total.weigh .policyDecisions counts
      = if (Ruling.of draining body g.policy call).isJudged then 1 else 0 := by
  cases h with
  | turnedAway => rfl
  | malformed hbody =>
    simp only [Ruling.of, hbody]
    rfl
  | denied hbody hverdict | served hbody hverdict _ | failed hbody hverdict _ =>
    simp only [Ruling.of, hbody, hverdict]
    rfl

/-- It failed once if its status says so, and not at all if not. -/
theorem Tally.weigh_failed (h : Tally g call body draining (.answered r) counts) :
    Meter.total.weigh .callErrors counts = if r.status ≠ 200 then 1 else 0 := by
  cases h with
  | served _ _ hstatus =>
    rw [if_neg (not_not.2 hstatus)]
    rfl
  | turnedAway | malformed _ | denied _ _ | failed _ _ _ =>
    rw [if_pos (Response.status_ofFailure_ne _)]
    rfl

/-- A status other than 200 is that of a failure. -/
theorem Tally.exists_failure (h : Tally g call body draining (.answered r) counts) (hstatus : r.status ≠ 200) :
    ∃ e, r = .ofFailure e := by
  cases h with
  | served _ _ hok => exact absurd hok hstatus
  | turnedAway | malformed _ | denied _ _ | failed _ _ _ => exact ⟨_, rfl⟩

/-- It failed with the code in its body. -/
theorem Tally.weigh_failedWith (h : Tally g call body draining (.answered r) counts) (code : Code) :
    (Meter.at_ [("code", code.label)]).weigh .callErrors counts
      = if r.status ≠ 200 ∧ r.code? = some code.label then 1 else 0 := by
  have hfailure : ∀ e : Failure, (if (Response.ofFailure e).status ≠ 200
      ∧ (Response.ofFailure e).code? = some code.label then (1 : UInt64) else 0) = if code = e.code then 1 else 0 := by
    intro e
    refine if_congr ?_ rfl rfl
    rw [Response.code?_ofFailure, Option.some.injEq, Metrics.label_inj]
    exact ⟨fun h => h.2.symm, fun h => ⟨Response.status_ofFailure_ne e, h.symm⟩⟩
  cases h with
  | served _ _ hstatus => simp [Count.family, hstatus]
  | turnedAway =>
    have hcode : Failure.shuttingDown.code = .unavailable := rfl
    rw [hfailure, hcode]
    simp [Count.family]
  | malformed _ | denied _ _ | failed _ _ _ =>
    rw [hfailure]
    simp [Count.family]

/-- Where services never fail like the policy, whoever failed with a code of the
policy was denied with it. -/
theorem Tally.weigh_denied (h : Tally g call body draining (.answered r) counts)
    (hown : (g.routeOf call).service.IsOwn) {code : Code} (hcode : code.isDenial = true) :
    (Meter.at_ [("decision", "deny"), ("code", code.label)]).weigh .policyDecisions counts
      = (Meter.at_ [("code", code.label)]).weigh .callErrors counts := by
  have hother : ∀ code', code'.isDenial = false → code ≠ code' := by
    rintro code' hcode' rfl
    rw [hcode] at hcode'
    cases hcode'
  cases h with
  | turnedAway => simp [Count.family, hother .unavailable rfl]
  | malformed hbody =>
    have hbad := code_of_decodeBody hbody
    simp [Count.family, hbad, hother .badRequest rfl]
  | denied _ _ => simp [Count.family]
  | served _ _ _ => simp [Count.family]
  | failed _ _ hfails => simp [Count.family, hother _ (hfails.not_isDenial hown)]

end Tally

/-! ## §4. What all calls have added. -/

namespace Attempt

/-- The status of the response is not 200. -/
def hasFailed (a : Attempt) : Bool := a.response?.any fun r => r.status ≠ 200

/-- The status of the response is not 200, and this code is in its body. -/
def hasFailedWith (code : Code) (a : Attempt) : Bool :=
  a.response?.any fun r => r.status ≠ 200 ∧ r.code? = some code.label

end Attempt

/-- Where each item adds one or nothing, the sum is the number of those that
add one. -/
theorem toNat_sum_of_indicator {α : Type} {φ : α → UInt64} {p : α → Bool} {xs : List α}
    (h : ∀ a ∈ xs, φ a = if p a then 1 else 0) (hfew : xs.length < 2 ^ 64) :
    (xs.map φ).sum.toNat = xs.countP p := by
  have hsum : (xs.map φ).sum = UInt64.ofNat (xs.countP p) := by
    clear hfew
    induction xs with
    | nil => rfl
    | cons x xs ih =>
      rw [List.map_cons, List.sum_cons, ih fun a ha => h a (List.mem_cons_of_mem x ha), h x List.mem_cons_self,
        List.countP_cons]
      cases p x with
      | true =>
        rw [UInt64.ofNat_add, UInt64.add_comm]
        rfl
      | false => exact UInt64.zero_add _
  rw [hsum, UInt64.toNat_ofNat']
  exact Nat.mod_eq_of_lt (Nat.lt_of_le_of_lt List.countP_le_length hfew)

/-- A gateway with the same setup rules and serves a call the same way. -/
theorem SameSetup.obeyed {g g₁ : Gateway} (h : SameSetup g g₁) {call : Call} {vs : List Visit} {r : Response}
    {ruling : Ruling} (hobeyed : Obeyed g₁ call vs r ruling) : Obeyed g call vs r ruling := by
  cases ruling with
  | turnedAway => exact hobeyed
  | malformed e => exact hobeyed
  | denied reason => cases reason <;> exact hobeyed
  | served req =>
    have hserved : Served g₁ call req vs r := hobeyed
    have hroute := h.routeOf call
    exact {
      once := hserved.once
      unary := hroute ▸ hserved.unary
      streaming := hroute ▸ hserved.streaming
      unregistered := h.routes ▸ hserved.unregistered }

/-- The counters agree with the calls that were answered, and with each
other. -/
structure Balanced (g₀ : Gateway) (d : Docket) : Prop where
  -- Every call was answered, as it was ruled.
  ruled : ∀ a ∈ d.attempts, ∃ r, a.response? = some r ∧ Obeyed g₀ a.call a.visits r (a.ruling g₀.policy)
  observed : d.gateway.hub.metrics.callsObserved.total.toNat = d.attempts.length
  judged : d.gateway.hub.metrics.policyDecisions.total.toNat
    = d.attempts.countP fun a => (a.ruling g₀.policy).isJudged
  denied : ∀ code ∈ ["UNAUTHENTICATED", "PERMISSION_DENIED"],
    d.gateway.hub.metrics.policyDecisions.get [("decision", "deny"), ("code", code)]
      = d.gateway.hub.metrics.callErrors.get [("code", code)]
  failed : d.gateway.hub.metrics.callErrors.total.toNat = d.attempts.countP Attempt.hasFailed
  -- Every failed call was counted under the code in its body.
  failedWith : ∀ code : Code, (d.gateway.hub.metrics.callErrors.get [("code", code.label)]).toNat
    = d.attempts.countP (Attempt.hasFailedWith code)
  coded : ∀ a ∈ d.attempts, a.hasFailed = true → ∃ code, a.hasFailedWith code = true

section Balanced

variable {g₀ : Gateway} {d : Docket}

/-- What is known of an answered call: its response, its tally, and what it has
added. -/
theorem Docket.Kept.answered (h : d.Kept g₀) {a : Attempt} (ha : a ∈ d.attempts)
    (hanswered : a.response?.isSome = true) :
    ∃ g r counts, SameSetup g₀ g ∧ a.response? = some r
      ∧ Tally g a.call a.body (sawDraining a.visits) (.answered r) counts
      ∧ (∀ ρ f, f ≠ .droppedDeliveries → gains ρ f a.visits = Meter.weigh ρ f counts)
      ∧ Obeyed g₀ a.call a.visits r (a.ruling g₀.policy) := by
  obtain ⟨g, hsetup, hjourney⟩ := h.journeys a ha
  obtain ⟨r, hr⟩ := Option.isSome_iff_exists.1 hanswered
  rw [Attempt.response?_eq_some_iff.1 hr] at hjourney
  obtain ⟨counts, htally, hgains⟩ := hjourney.tally
  have hobeyed := hjourney.obeyed
  rw [hsetup.policy] at hobeyed
  exact ⟨g, r, counts, hsetup, hr, htally, hgains, hsetup.obeyed hobeyed⟩

/-- Where an answered call has added one to a counter or nothing, the counter
shows how many of the calls have. -/
theorem Docket.Kept.read_eq_countP (h : d.Kept g₀) (hdone : ∀ a ∈ d.attempts, a.response?.isSome = true)
    (hfew : d.attempts.length < 2 ^ 64) (ρ : Meter) {f : Family} (hf : f ≠ .droppedDeliveries) (p : Attempt → Bool)
    (hweigh : ∀ a g r counts, SameSetup g₀ g → a.response? = some r →
      Tally g a.call a.body (sawDraining a.visits) (.answered r) counts → ρ.weigh f counts = if p a then 1 else 0) :
    (ρ.read (d.gateway.hub.metrics.counter f)).toNat = d.attempts.countP p := by
  rw [h.books ρ f hf]
  refine toNat_sum_of_indicator (fun a ha => ?_) hfew
  obtain ⟨g, r, counts, hsetup, hr, htally, hgains, -⟩ := h.answered ha (hdone a ha)
  rw [hgains ρ f hf]
  exact hweigh a g r counts hsetup hr htally

/-- **A docket balances once all its calls are answered.** -/
theorem Docket.Kept.balanced (h : d.Kept g₀) (hown : ∀ call, (g₀.routeOf call).service.IsOwn)
    (hdone : ∀ a ∈ d.attempts, a.response?.isSome = true) (hfew : d.attempts.length < 2 ^ 64) :
    Balanced g₀ d where
  ruled a ha := by
    obtain ⟨g, r, counts, -, hr, -, -, hobeyed⟩ := h.answered ha (hdone a ha)
    exact ⟨r, hr, hobeyed⟩
  observed := by
    rw [← List.countP_true]
    exact h.read_eq_countP hdone hfew .total (f := .callsObserved) nofun _ fun a g r counts _ _ htally =>
      htally.weigh_observed
  judged := by
    refine h.read_eq_countP hdone hfew .total (f := .policyDecisions) nofun _ fun a g r counts hsetup _ htally => ?_
    rw [htally.weigh_judged, hsetup.policy]
    rfl
  denied := by
    have hsame : ∀ code : Code, code.isDenial = true →
        d.gateway.hub.metrics.policyDecisions.get [("decision", "deny"), ("code", code.label)]
          = d.gateway.hub.metrics.callErrors.get [("code", code.label)] := by
      intro code hcode
      refine (h.books (.at_ _) .policyDecisions nofun).trans (Eq.trans ?_ (h.books (.at_ _) .callErrors nofun).symm)
      refine congrArg List.sum (List.map_congr_left fun a ha => ?_)
      obtain ⟨g, r, counts, hsetup, -, htally, hgains, -⟩ := h.answered ha (hdone a ha)
      rw [hgains _ .policyDecisions nofun, hgains _ .callErrors nofun]
      refine htally.weigh_denied ?_ hcode
      rw [hsetup.routeOf]
      exact hown a.call
    intro code hcode
    simp only [List.mem_cons, List.not_mem_nil, or_false] at hcode
    rcases hcode with rfl | rfl
    · exact hsame .unauthenticated rfl
    · exact hsame .permissionDenied rfl
  failed := by
    refine h.read_eq_countP hdone hfew .total (f := .callErrors) nofun _ fun a g r counts _ hr htally => ?_
    rw [htally.weigh_failed]
    simp [Attempt.hasFailed, hr]
  failedWith code := by
    refine h.read_eq_countP hdone hfew (.at_ _) (f := .callErrors) nofun _ fun a g r counts _ hr htally => ?_
    rw [htally.weigh_failedWith]
    simp [Attempt.hasFailedWith, hr]
  coded a ha hfailed := by
    obtain ⟨g, r, counts, -, hr, htally, -, -⟩ := h.answered ha (hdone a ha)
    have hfailed : r.status ≠ 200 := by simpa [Attempt.hasFailed, hr] using hfailed
    obtain ⟨e, rfl⟩ := htally.exists_failure hfailed
    refine ⟨e.code, ?_⟩
    simp [Attempt.hasFailedWith, hr, hfailed, Response.code?_ofFailure]

end Balanced

/-! ## §5. The theorem. -/

/-- **The counters add up.**  Take any gateway that starts, and any run of fewer
than 2^64 calls, in which each stage of a call, each step of the worker, of the
handlers and of the callers who read, and each step of a shutdown may come at
any time.  Once all calls are answered, the counters agree with the calls and
with each other. -/
theorem run_counters_balance {c : Config} {g₀ : Gateway} (hstart : start c = .ok g₀) (actions : List Docket.Action)
    (hdone : ∀ a ∈ (Docket.run { gateway := g₀ } actions).attempts, a.response?.isSome = true)
    (hfew : (Docket.run { gateway := g₀ } actions).attempts.length < 2 ^ 64) :
    Balanced g₀ (Docket.run { gateway := g₀ } actions) := by
  have hown : ∀ call, (g₀.routeOf call).service.IsOwn := isOwn_routeOf (of_start_eq_ok hstart).2
  have hkept : Docket.Kept g₀ { gateway := g₀ } := by
    unfold start at hstart
    obtain ⟨p, -, hstart⟩ := Outcome.bind_eq_ok_iff.1 hstart
    cases hstart
    exact Docket.kept_start rfl rfl
  exact (hkept.run hown actions).balanced hown hdone hfew

/-- Amy may call a method and another consumer may not; then a shutdown begins,
and a third call is turned away.  Three calls are observed, two are judged, and
two fail. -/
theorem three_calls_balance :
    ∃ g₀ check, start { version := 1, acl := [("amy", ["/main.Biz/*"])] } = .ok g₀
      ∧ MethodName.parse "/main.Biz/Check" = .ok check
      ∧ ∃ actions,
        let d := Docket.run { gateway := g₀ } actions
        Balanced g₀ d ∧ d.attempts.map (fun a => a.response?.map (·.status)) = [some 200, some 401, some 503]
          ∧ d.gateway.hub.metrics.callsObserved.total.toNat = 3
          ∧ d.gateway.hub.metrics.policyDecisions.total.toNat = 2
          ∧ d.gateway.hub.metrics.callErrors.total.toNat = 2 := by
  let check : MethodName := ⟨"main.Biz", "Check", ⟨by decide, by decide⟩, ⟨by decide, by decide⟩⟩
  have ⟨g₀, hstart⟩ : ∃ g₀, start { version := 1, acl := [("amy", ["/main.Biz/*"])] } = .ok g₀ := ⟨_, rfl⟩
  let amys := Call.ofRequest check [("Consumer", Bytes.ofText "amy")] none
  let bobs := Call.ofRequest check [("Consumer", Bytes.ofText "bob")] none
  -- the first two calls cross, and the third finds the gateway draining
  let actions : List Docket.Action :=
    [.comes amys [], .comes bobs [], .goesOn 0 ⟨0, 0⟩, .goesOn 1 ⟨1, 0⟩, .goesOn 1 ⟨2, 0⟩, .goesOn 0 ⟨3, 0⟩,
      .goesOn 1 ⟨4, 0⟩, .goesOn 0 ⟨5, 0⟩, .goesOn 0 ⟨6, 0⟩, .goesOn 1 ⟨7, 0⟩, .works .setDraining,
      .comes amys [], .goesOn 2 ⟨8, 0⟩, .goesOn 2 ⟨9, 0⟩]
  have hstatus : (Docket.run { gateway := g₀ } actions).attempts.map (fun a => a.response?.map (·.status))
      = [some 200, some 401, some 503] := by
    cases hstart
    decide +kernel
  have hlength : (Docket.run { gateway := g₀ } actions).attempts.length = 3 := by
    simpa using congrArg List.length hstatus
  have hjudged : (Docket.run { gateway := g₀ } actions).attempts.countP
      (fun a => (a.ruling g₀.policy).isJudged) = 2 := by
    cases hstart
    decide +kernel
  have hfailed : (Docket.run { gateway := g₀ } actions).attempts.countP Attempt.hasFailed = 2 := by
    cases hstart
    decide +kernel
  have hdone : ∀ a ∈ (Docket.run { gateway := g₀ } actions).attempts, a.response?.isSome = true := by
    cases hstart
    decide +kernel
  have hbalanced := run_counters_balance hstart actions hdone (by rw [hlength]; decide)
  exact ⟨g₀, check, hstart, rfl, actions, hbalanced, hstatus, hbalanced.observed.trans hlength,
    hbalanced.judged.trans hjudged, hbalanced.failed.trans hfailed⟩

end Gateway

end CallGateway
