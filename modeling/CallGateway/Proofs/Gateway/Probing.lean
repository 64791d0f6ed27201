/-
  CallGateway.Proofs.Gateway.Probing
  ──────────────────────────────────
  **WHO IS DENIED LEARNS NOTHING ABOUT THE METHODS.**

  How a denied call is answered, and which verdicts and failures are counted
  for it, is a function of three things: whether the gateway was shutting down,
  the body, and the reason of the denial (`refusal`).  The table of methods is
  none of them, so two gateways with different tables refuse alike, whether
  the method is unary, streaming or not there at all
  (`denied_calls_look_alike`).
-/
import CallGateway.Proofs.Gateway.Gains

namespace CallGateway

namespace Gateway

/-! ## §1. How a denied call is answered. -/

/-- The response to a denied call, and the verdicts and failures that are
counted for it. -/
def refusal (draining : Bool) (body : Bytes) (reason : DenyReason) : Response × List Count :=
  if draining then (.ofFailure .shuttingDown, [.error .unavailable])
  else match decodeBody body with
    | .error e => (.ofFailure e, [.error e.code])
    | .ok _ => (.ofFailure reason.failure, [.denied reason.failure.code, .error reason.failure.code])

/-- That a call was observed weighs nothing among verdicts and failures. -/
theorem weigh_call (ρ : Meter) {f : Family} (hf : f ≠ .callsObserved) (label : String) (counts : List Count) :
    ρ.weigh f (.call label :: counts) = ρ.weigh f counts := by
  have hfamily : (Count.call label).family ≠ f := Ne.symm hf
  rw [ρ.weigh_cons, if_neg hfamily, UInt64.zero_add]

section Denied

variable {g g' : Gateway} {call : Call} {body : Bytes} {vs : List Visit} {reason : DenyReason}

/-- A denied call is answered and counted as its refusal says; its method is
seen in the label alone under which it was observed. -/
theorem Tally.refused {draining : Bool} {r : Response} {counts : List Count}
    (h : Tally g call body draining (.answered r) counts)
    (hdenied : g.policy.authorize call.consumer call.method.full = .deny reason) :
    ∃ label rest, counts = .call label :: rest ∧ refusal draining body reason = (r, rest) := by
  cases h with
  | turnedAway => exact ⟨_, _, rfl, rfl⟩
  | malformed hbody =>
    refine ⟨_, _, rfl, ?_⟩
    simp [refusal, hbody]
  | denied hbody hverdict =>
    obtain rfl := Decision.deny.inj (hverdict.symm.trans hdenied)
    refine ⟨_, _, rfl, ?_⟩
    simp [refusal, hbody]
  | served _ hverdict _ | failed _ hverdict _ => cases hverdict.symm.trans hdenied

/-- **A denied call and its refusal.** -/
theorem Journey.refused {r : Response} (h : Journey g call body vs (.answered r) g')
    (hdenied : g.policy.authorize call.consumer call.method.full = .deny reason) :
    r = (refusal (sawDraining vs) body reason).1
      ∧ ∀ ρ f, f = .policyDecisions ∨ f = .callErrors →
          gains ρ f vs = Meter.weigh ρ f (refusal (sawDraining vs) body reason).2 := by
  obtain ⟨counts, htally, hgains⟩ := h.tally
  obtain ⟨label, rest, rfl, hrefusal⟩ := htally.refused hdenied
  rw [hrefusal]
  refine ⟨rfl, fun ρ f hf => ?_⟩
  have hcounter : f ≠ .droppedDeliveries ∧ f ≠ .callsObserved := by
    rcases hf with rfl | rfl <;> exact ⟨nofun, nofun⟩
  rw [hgains ρ f hcounter.1, weigh_call ρ hcounter.2]

end Denied

/-! ## §2. A call that is answered at once. -/

/-- A call that is answered at once sees whether the gateway is shutting down
when it comes. -/
theorem Journey.answer_sees (g : Gateway) (now : Instant) (call : Call) (body : Bytes) :
    ∃ vs, Journey g call body vs (.answered (g.answer now call body).1) (g.answer now call body).2
      ∧ sawDraining vs = g.isDraining := by
  let g₁ := (g.advance now { call, body }).2
  have hflag : g₁.isDraining = g.isDraining := by
    obtain ⟨dropped, hmetrics⟩ := g.hub.metrics_observe (g.routes.contains call.method.full) now.wall call
    show (g.hub.observe _ _ _).metrics.draining = _
    rw [hmetrics]
    rfl
  -- it is observed, it asks, and then it goes wherever it goes
  have hcame : Journey g call body [⟨now, g, .arrived, g₁⟩] .observed g₁ := .goesOn now .comes nofun
  have hasked := hcame.goesOn now nofun
  obtain ⟨more, hjourney, hleft⟩ := Journey.advanceN now 3 hasked
  have hrun : Gateway.advanceN stages g now { call, body }
      = Gateway.advanceN 3 (g₁.advance now { call, body, stage := .observed }).2 now
          (g₁.advance now { call, body, stage := .observed }).1 := rfl
  unfold Gateway.answer
  rw [hrun]
  rcases hrest : Gateway.advanceN 3 (g₁.advance now { call, body, stage := .observed }).2 now
    (g₁.advance now { call, body, stage := .observed }).1 with ⟨f, g'⟩
  have hless : visitsLeft (g₁.advance now { call, body, stage := .observed }).1.stage < 4 :=
    visitsLeft_advance g₁ now call body nofun
  have hcall : (g₁.advance now { call, body, stage := .observed }).1
      = { call, body, stage := (g₁.advance now { call, body, stage := .observed }).1.stage } := rfl
  rw [← hcall, hrest] at hjourney hleft
  cases hstage : f.stage with
  | answered r =>
    simp only [hstage] at hjourney ⊢
    exact ⟨_, hjourney, hjourney.course.1.sawDraining_eq.trans hflag⟩
  | _ => simp [hstage, visitsLeft] at hleft hless; omega

/-! ## §3. The theorem. -/

/-- Two answered calls cannot be told apart: the responses are the same to the
byte, and so is what each of them added to every series of verdicts and of
failures. -/
structure Alike (vs₁ vs₂ : List Visit) (r₁ r₂ : Response) : Prop where
  response : r₁ = r₂
  decisions : ∀ labels, gains (.at_ labels) .policyDecisions vs₁ = gains (.at_ labels) .policyDecisions vs₂
  errors : ∀ labels, gains (.at_ labels) .callErrors vs₁ = gains (.at_ labels) .callErrors vs₂

/-- **Who is denied learns nothing about the methods.**  Take any gateway, in
any state and with any policy, and let it have one table of methods or another
one, with any services.  Take two calls with the same body that the policy
denies for the same reason.  Answered at once, they cannot be told apart,
whenever they come.  Neither can they if other things happen while they are on
their way, as long as they find the gateway shutting down, or not, alike. -/
theorem denied_calls_look_alike (g : Gateway) (routes₁ routes₂ : Routes) {call₁ call₂ : Call} (body : Bytes)
    {reason : DenyReason} (h₁ : g.policy.authorize call₁.consumer call₁.method.full = .deny reason)
    (h₂ : g.policy.authorize call₂.consumer call₂.method.full = .deny reason) :
    let g₁ : Gateway := { g with routes := routes₁ }
    let g₂ : Gateway := { g with routes := routes₂ }
    (∀ now₁ now₂, ∃ vs₁ vs₂,
      Journey g₁ call₁ body vs₁ (.answered (g₁.answer now₁ call₁ body).1) (g₁.answer now₁ call₁ body).2
        ∧ Journey g₂ call₂ body vs₂ (.answered (g₂.answer now₂ call₂ body).1) (g₂.answer now₂ call₂ body).2
        ∧ Alike vs₁ vs₂ (g₁.answer now₁ call₁ body).1 (g₂.answer now₂ call₂ body).1)
      ∧ ∀ vs₁ vs₂ r₁ r₂ g₁' g₂', Journey g₁ call₁ body vs₁ (.answered r₁) g₁' →
          Journey g₂ call₂ body vs₂ (.answered r₂) g₂' → sawDraining vs₁ = sawDraining vs₂ →
          Alike vs₁ vs₂ r₁ r₂ := by
  intro g₁ g₂
  have halike : ∀ vs₁ vs₂ r₁ r₂ g₁' g₂', Journey g₁ call₁ body vs₁ (.answered r₁) g₁' →
      Journey g₂ call₂ body vs₂ (.answered r₂) g₂' → sawDraining vs₁ = sawDraining vs₂ →
      Alike vs₁ vs₂ r₁ r₂ := by
    intro vs₁ vs₂ r₁ r₂ g₁' g₂' hjourney₁ hjourney₂ hsaw
    obtain ⟨hr₁, hgains₁⟩ := hjourney₁.refused h₁
    obtain ⟨hr₂, hgains₂⟩ := hjourney₂.refused h₂
    rw [hsaw] at hr₁ hgains₁
    exact {
      response := hr₁.trans hr₂.symm
      decisions := fun labels => (hgains₁ _ _ (.inl rfl)).trans (hgains₂ _ _ (.inl rfl)).symm
      errors := fun labels => (hgains₁ _ _ (.inr rfl)).trans (hgains₂ _ _ (.inr rfl)).symm }
  refine ⟨fun now₁ now₂ => ?_, halike⟩
  obtain ⟨vs₁, hjourney₁, hsaw₁⟩ := Journey.answer_sees g₁ now₁ call₁ body
  obtain ⟨vs₂, hjourney₂, hsaw₂⟩ := Journey.answer_sees g₂ now₂ call₂ body
  exact ⟨vs₁, vs₂, hjourney₁, hjourney₂, halike _ _ _ _ _ _ hjourney₁ hjourney₂ (hsaw₁.trans hsaw₂.symm)⟩

/-- Amy may call the business service alone.  She is told the same about the
log stream as about a method that no service offers, and as by a gateway
without any service. -/
theorem hidden_methods_look_alike :
    ∃ g₀, start { version := 1, acl := [("amy", ["/main.Biz/*"])] } = .ok g₀
      ∧ ∃ logging missing : MethodName, logging.full = "/main.Admin/Logging" ∧ missing.full = "/main.Admin/Missing"
        ∧ g₀.routes.contains logging.full = true ∧ g₀.routes.contains missing.full = false
        ∧ ∀ now, ∀ routes ∈ [g₀.routes, Dict.empty],
            let headers : Headers := [("Consumer", Bytes.ofText "amy")]
            (g₀.answer now (.ofRequest logging headers none) []).1
              = (({ g₀ with routes } : Gateway).answer now (.ofRequest missing headers none) []).1 := by
  let logging : MethodName := ⟨"main.Admin", "Logging", ⟨by decide, by decide⟩, ⟨by decide, by decide⟩⟩
  let missing : MethodName := ⟨"main.Admin", "Missing", ⟨by decide, by decide⟩, ⟨by decide, by decide⟩⟩
  let headers : Headers := [("Consumer", Bytes.ofText "amy")]
  have ⟨g₀, hstart⟩ : ∃ g₀, start { version := 1, acl := [("amy", ["/main.Biz/*"])] } = .ok g₀ := ⟨_, rfl⟩
  have hroutes := (of_start_eq_ok hstart).2
  have hdenied : ∀ method ∈ [logging, missing], g₀.policy.authorize (Call.ofRequest method headers none).consumer
      (Call.ofRequest method headers none).method.full = .deny .methodNotAllowed := by
    cases hstart
    decide
  refine ⟨g₀, hstart, logging, missing, by decide, by decide, ?_, ?_, fun now routes _ => ?_⟩
  · rw [hroutes]
    rfl
  · rw [hroutes]
    rfl
  · obtain ⟨hanswer, -⟩ := denied_calls_look_alike g₀ g₀.routes routes [] (hdenied logging (by simp))
      (hdenied missing (by simp))
    obtain ⟨vs₁, vs₂, -, -, halike⟩ := hanswer now now
    exact halike.response

end Gateway

end CallGateway
