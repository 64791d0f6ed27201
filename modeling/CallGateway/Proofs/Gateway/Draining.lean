/-
  CallGateway.Proofs.Gateway.Draining
  ───────────────────────────────────
  **DRAINING IS FOR GOOD.**

  A shutdown takes three steps, and calls may be anywhere on their way
  meanwhile.  From the first step on, a call that asks whether the gateway is
  shutting down is turned away (`Journey.turnedAway`).  After the last one
  both exchanges are closed and empty, and a call that has come past that
  question before can subscribe no more (`Hub.IsDrained`, `beginStream_of_drained`).
  What is shut stays shut, so this holds of every later state
  (`drain_is_final`).
-/
import CallGateway.Http
import CallGateway.Proofs.Config
import CallGateway.Proofs.Gateway.Mediation
import CallGateway.Proofs.Gateway.Shut
import CallGateway.Proofs.Routes
import CallGateway.Proofs.Service

namespace CallGateway

open Json (Value)

/-! ## §1. The end of a shutdown. -/

theorem Exchange.close_eq {α : Type} {x : Exchange α} (hclosed : x.isOpen = false) (hempty : x.entries = []) :
    x.close.2 = x := by
  show { x with isOpen := false, entries := [] } = x
  rw [← hclosed, ← hempty]

namespace Hub

/-- All three steps of a shutdown are done. -/
structure IsDrained (hub : Hub) : Prop where
  draining : hub.metrics.draining = true
  stopped : hub.log.running = false
  intake : hub.log.intake.drop = hub.log.intake
  logClosed : hub.log.exchange.isOpen = false
  logEmpty : hub.log.exchange.entries = []
  statsClosed : hub.stats.exchange.isOpen = false
  statsEmpty : hub.stats.exchange.entries = []

variable {hub hub₁ hub₂ hub₃ : Hub}

/-- A shutdown that is done stays done. -/
theorem IsDrained.of_staysShut (h : hub.IsDrained) (hshut : hub.StaysShut hub₁) : hub₁.IsDrained where
  draining := hshut.draining h.draining
  stopped := hshut.log.stopped h.stopped
  intake := by rw [hshut.log.intake h.intake, h.intake]
  logClosed := hshut.log.exchange.closed h.logClosed
  logEmpty := hshut.log.exchange.empty h.logClosed h.logEmpty
  statsClosed := hshut.stats.exchange.closed h.statsClosed
  statsEmpty := hshut.stats.exchange.empty h.statsClosed h.statsEmpty

/-- Whatever happens between the steps of a shutdown and after them, it is
done in the end. -/
theorem isDrained_of_steps (h₁ : hub.setDraining.StaysShut hub₁) (h₂ : hub₁.stopLog.StaysShut hub₂)
    (h₃ : hub₂.stopStats.StaysShut hub₃) : hub₃.IsDrained := by
  have hdraining : hub₂.metrics.draining = true := h₂.draining (h₁.draining rfl)
  have hdrained : hub₂.stopStats.IsDrained := {
    draining := hdraining
    stopped := h₂.log.stopped rfl
    intake := by
      show hub₂.log.intake.drop = hub₂.log.intake
      rw [h₂.log.intake rfl]
      rfl
    logClosed := h₂.log.exchange.closed rfl
    logEmpty := h₂.log.exchange.empty rfl rfl
    statsClosed := rfl
    statsEmpty := rfl }
  exact hdrained.of_staysShut h₃

/-- To shut down once more changes nothing, at whichever step. -/
theorem IsDrained.again (h : hub.IsDrained) :
    hub.setDraining = hub ∧ hub.stopLog = hub ∧ hub.stopStats = hub ∧ hub.drain = hub := by
  have hflag : hub.setDraining = hub := by
    show { hub with metrics := { hub.metrics with draining := true } } = hub
    rw [← h.draining]
  have hlog : hub.stopLog = hub := by
    show { hub with log := { hub.log with
      running := false, intake := hub.log.intake.drop, exchange := hub.log.exchange.close.2 } } = hub
    rw [h.intake, Exchange.close_eq h.logClosed h.logEmpty, ← h.stopped]
  have hstats : hub.stopStats = hub := by
    show { hub with stats := { hub.stats with exchange := hub.stats.exchange.close.2 } } = hub
    rw [Exchange.close_eq h.statsClosed h.statsEmpty]
  refine ⟨hflag, hlog, hstats, ?_⟩
  unfold drain
  rw [hflag, hlog, hstats]

theorem IsDrained.gauges (h : hub.IsDrained) :
    hub.gauges = [("rpcgate_log_subscribers", 0), ("rpcgate_stats_subscribers", 0)] := by
  unfold Hub.gauges LogFeed.size StatsFeed.size Exchange.size
  rw [h.logEmpty, h.statsEmpty]
  rfl

end Hub

/-! ## §2. Whoever comes too late. -/

/-- The handler follows one of the feeds. -/
def Handler.FollowsFeed : Handler → Prop
  | .followLog => True
  | .followStats seconds => seconds ≠ 0
  | .perform _ _ => False

/-- A handler as the gateway's own services have them: it follows a feed, or
fails at once. -/
def Handler.IsStandard (h : Handler) : Prop := h.FollowsFeed ∨ ∃ e, h = .fail e

/-- How a call fails that comes too late to subscribe.  A queue that cannot
be made breaks the attempt off before that. -/
def Config.lateFailure (c : Config) : Failure :=
  if Queue.maxCapacity < c.server.subscriberBuffer then .brokenOff else .shuttingDown

/-- A valid configuration asks for queues that can be made. -/
theorem Config.lateFailure_of_valid {c : Config} (h : c.validate = .ok ()) : c.lateFailure = .shuttingDown := by
  have hbuffer : c.server.subscriberBuffer ≤ 65536 := (Config.validate_eq_ok_iff.1 h).2.server.subscriberBuffer.2
  unfold Config.lateFailure
  rw [if_neg (Nat.not_lt.2 (Nat.le_trans hbuffer (by decide)))]

namespace Gateway

/-- A handler that fails as it begins leaves its failure, and no stream. -/
theorem beginStream_of_failed {g : Gateway} {now : Instant} {handler : Handler} {activity : Activity} {e : Failure}
    (hstart : StreamTask.start handler frameBuffer now g.hub = (⟨activity, .start frameBuffer⟩, g.hub))
    (hfailed : activity = .ended (.error e) ∨ activity = .brokenOff ∧ e = .brokenOff) :
    g.beginStream now handler = g.refuse e := by
  have hrun : (⟨activity, .start frameBuffer⟩ : StreamTask).run now g.hub
      = (⟨activity, .start frameBuffer⟩, g.hub) := by
    rcases hfailed with rfl | ⟨rfl, -⟩
    · rfl
    · rfl
  unfold beginStream
  simp only [hstart, hrun]
  rcases hfailed with rfl | ⟨rfl, rfl⟩
  · rfl
  · rfl

/-- A call that fails at once leaves its failure, and no stream. -/
theorem beginStream_fail (g : Gateway) (now : Instant) (e : Failure) :
    g.beginStream now (.fail e) = g.refuse e := rfl

theorem isStandard_admin (maxIntervalSecs : Nat) (call : Call) (req : Value) :
    ((Service.admin maxIntervalSecs).stream call req).IsStandard := by
  obtain ⟨-, hlog⟩ | ⟨m, -, -, hleast, -, hstats⟩ | ⟨e, hfail, -⟩ :=
    Service.stream_admin_cases maxIntervalSecs call req
  · rw [hlog]
    exact .inl trivial
  · rw [hstats]
    exact .inl (Nat.ne_of_gt hleast)
  · exact .inr ⟨e, hfail⟩

/-- Every handler of a gateway is one of its own services'. -/
theorem isStandard_stream {c : ServerConfig} {g : Gateway} (h : g.routes = standardRoutes c) (call : Call)
    (req : Value) : ((g.routeOf call).service.stream call req).IsStandard := by
  unfold routeOf
  rw [h]
  cases hroute : (standardRoutes c).resolve? call.method.full with
  | none => exact .inr ⟨_, rfl⟩
  | some route =>
    show (route.service.stream call req).IsStandard
    rcases List.mem_pair.1 (Routes.service_mem_of_resolve? hroute) with hservice | hservice
    · rw [hservice]
      exact .inr ⟨_, rfl⟩
    · rw [hservice]
      exact isStandard_admin _ call req

/-- A handler that cannot subscribe leaves the failure of those who come too
late. -/
theorem beginStream_of_late {c : Config} {g : Gateway} {now : Instant} {handler : Handler}
    (hstart : StreamTask.start handler frameBuffer now g.hub
      = (⟨if Queue.maxCapacity < c.server.subscriberBuffer then .brokenOff else .ended (.error .shuttingDown),
          .start frameBuffer⟩, g.hub)) : g.beginStream now handler = g.refuse c.lateFailure := by
  unfold Config.lateFailure
  by_cases hlarge : Queue.maxCapacity < c.server.subscriberBuffer
  · rw [if_pos hlarge] at hstart ⊢
    exact beginStream_of_failed hstart (.inr ⟨rfl, rfl⟩)
  · rw [if_neg hlarge] at hstart ⊢
    exact beginStream_of_failed hstart (.inl rfl)

/-- Nobody can subscribe any more, and nobody's stream is accepted. -/
theorem beginStream_of_drained {c : Config} {g : Gateway} (h : g.hub.IsDrained)
    (hlog : g.hub.log.subscriberBuffer = max c.server.subscriberBuffer 1)
    (hstats : g.hub.stats.subscriberBuffer = max c.server.subscriberBuffer 1) (now : Instant) {handler : Handler}
    (hfollows : handler.FollowsFeed) : g.beginStream now handler = g.refuse c.lateFailure := by
  have hlarge : Queue.maxCapacity < max c.server.subscriberBuffer 1
      ↔ Queue.maxCapacity < c.server.subscriberBuffer := by
    have hone : 1 ≤ Queue.maxCapacity := by decide
    omega
  refine beginStream_of_late ?_
  cases handler with
  | perform actions ending => exact hfollows.elim
  | followLog =>
    have hsubscribe := LogFeed.subscribe_of_closed h.logClosed
    simp only [hlog, hlarge] at hsubscribe
    unfold StreamTask.start
    by_cases hbuffer : Queue.maxCapacity < c.server.subscriberBuffer
    · rw [if_pos hbuffer] at hsubscribe ⊢
      simp only [hsubscribe]
    · rw [if_neg hbuffer] at hsubscribe ⊢
      simp only [hsubscribe]
  | followStats seconds =>
    have hperiod : seconds * 1000 ≠ 0 := by
      have hseconds : seconds ≠ 0 := hfollows
      omega
    have hsubscribe := StatsFeed.subscribe_of_closed h.statsClosed now.ms hperiod
    simp only [hstats, hlarge] at hsubscribe
    unfold StreamTask.start
    by_cases hbuffer : Queue.maxCapacity < c.server.subscriberBuffer
    · rw [if_pos hbuffer] at hsubscribe ⊢
      simp only [hsubscribe]
    · rw [if_neg hbuffer] at hsubscribe ⊢
      simp only [hsubscribe]

/-! ## §3. Whoever asks too late. -/

/-- Every visit of a call takes it one stage further. -/
theorem Journey.visit {g g' : Gateway} {call : Call} {body : Bytes} {vs : List Visit} {stage : Stage}
    (h : Journey g call body vs stage g') :
    ∀ v ∈ vs, v.after = (v.before.advance v.now { call, body, stage := v.stage }).2 := by
  induction h with
  | comes => exact fun v hv => nomatch hv
  | waits _ _ ih => exact ih
  | goesOn now _ _ ih =>
    intro v hv
    rcases List.mem_append.1 hv with hv | hv
    · exact ih v hv
    · obtain rfl := List.mem_singleton.1 hv
      rfl

/-- A call was observed on its first visit and turned away on its second one,
and there were no others. -/
structure TurnedAway (call : Call) (vs : List Visit) (stage : Stage) (first second : Visit) : Prop where
  visits : vs = [first, second]
  answered : stage = .answered (.ofFailure .shuttingDown)
  status : (Response.ofFailure .shuttingDown).status = 503
  -- It was not decoded, nothing reached a service, and no verdict was counted.
  stages : first.stage = .arrived ∧ second.stage = .observed
  noService : notes call vs = []
  noVerdict : first.after.hub.metrics.policyDecisions = first.before.hub.metrics.policyDecisions
    ∧ second.after.hub.metrics.policyDecisions = second.before.hub.metrics.policyDecisions
  -- It was observed, once.
  observed : ∀ method, first.after.hub.metrics.observed method
    = first.before.hub.metrics.observed method
      + if method = (if first.before.routes.contains call.method.full then call.method.full
          else Hub.unregistered) then 1 else 0
  -- On the second visit its failure was counted, and that is all.
  counted : second.after = { second.before with hub := second.before.hub.countError .unavailable }

/-- **Whoever asks while the gateway is shutting down is turned away.** -/
theorem Journey.turnedAway {g g' : Gateway} {call : Call} {body : Bytes} {vs : List Visit} {stage : Stage}
    (h : Journey g call body vs stage g') {v : Visit} (hv : v ∈ vs) (hstage : v.stage = .observed)
    (hdraining : v.before.isDraining = true) : ∃ first, TurnedAway call vs stage first v := by
  induction h with
  | comes => cases hv
  | waits _ _ ih => exact ih hv
  | @goesOn vs stage g₁ now hbefore hgoing ih =>
    rcases List.mem_append.1 hv with hv | hv
    · obtain ⟨first, haway⟩ := ih hv
      exact absurd haway.answered (hgoing _)
    · obtain rfl := List.mem_singleton.1 hv
      obtain rfl : stage = .observed := hstage
      have hdraining : g₁.isDraining = true := hdraining
      have hadvance : g₁.advance now { call, body, stage := .observed }
          = ({ call, body, stage := .answered (.ofFailure .shuttingDown) },
            { g₁ with hub := g₁.hub.countError .unavailable }) := by
        unfold advance
        simp only [hdraining, if_true]
        rfl
      have hvisit := hbefore.visit
      cases hbefore.course.1 with
      | @observed first hfirst hquiet =>
        have hafter : first.after = { first.before with
            hub := first.before.hub.observe (first.before.routes.contains call.method.full) first.now.wall call } := by
          rw [hvisit first List.mem_cons_self, hfirst]
          rfl
        obtain ⟨dropped, hmetrics⟩ :=
          first.before.hub.metrics_observe (first.before.routes.contains call.method.full) first.now.wall call
        refine ⟨first, rfl, ?_, rfl, ⟨hfirst, rfl⟩, ?_, ⟨?_, ?_⟩, ?_, ?_⟩
        · rw [hadvance]
        · show notes call ([first] ++ [_]) = []
          rw [notes_append, Visit.notes_of_stage call (by simp)]
          simp [notes, Visit.notes_of_stage, hfirst]
        · rw [hafter]
          show (first.before.hub.observe _ _ _).metrics.policyDecisions = _
          rw [hmetrics]
          rfl
        · show (g₁.advance now { call, body, stage := .observed }).2.hub.metrics.policyDecisions = _
          rw [hadvance]
          rfl
        · intro method
          rw [hafter]
          show (first.before.hub.observe _ _ _).metrics.observed method = _
          rw [hmetrics]
          exact first.before.hub.metrics.observed_countCall _ method
        · show (g₁.advance now { call, body, stage := .observed }).2 = _
          rw [hadvance]

/-! ## §4. The theorem. -/

/-- A gateway whose shutdown is done. -/
structure ShutDown (c : Config) (g : Gateway) : Prop where
  draining : g.isDraining = true
  readiness : g.report .readiness = .ofText 503 "text/plain; charset=utf-8" "draining"
  -- Both exchanges are closed and empty, and the gauges say so.
  closed : g.hub.log.exchange.isOpen = false ∧ g.hub.stats.exchange.isOpen = false
  empty : g.hub.log.exchange.entries = [] ∧ g.hub.stats.exchange.entries = []
  gauges : g.hub.gauges = [("rpcgate_log_subscribers", 0), ("rpcgate_stats_subscribers", 0)]
  -- Whoever tries to subscribe now is refused, and gets no stream.
  late : ∀ now handler, Handler.FollowsFeed handler →
    g.beginStream now handler
      = (.answered (.ofFailure c.lateFailure), { g with hub := g.hub.countError c.lateFailure.code })
  -- To shut down once more changes nothing, at whichever step.
  again : g.drain = g ∧ { g with hub := g.hub.setDraining } = g ∧ { g with hub := g.hub.stopLog } = g
    ∧ { g with hub := g.hub.stopStats } = g

theorem shutDown_of_drained {c : Config} {g : Gateway} (h : g.hub.IsDrained)
    (hlog : g.hub.log.subscriberBuffer = max c.server.subscriberBuffer 1)
    (hstats : g.hub.stats.subscriberBuffer = max c.server.subscriberBuffer 1) : ShutDown c g := by
  obtain ⟨hflag, hstopLog, hstopStats, hdrain⟩ := h.again
  exact {
    draining := h.draining
    readiness := if_pos h.draining
    closed := ⟨h.logClosed, h.statsClosed⟩
    empty := ⟨h.logEmpty, h.statsEmpty⟩
    gauges := h.gauges
    late := fun now handler hfollows => beginStream_of_drained h hlog hstats now hfollows
    again := by
      unfold Gateway.drain
      rw [hdrain, hflag, hstopLog, hstopStats]
      exact ⟨rfl, rfl, rfl, rfl⟩ }

/-- **Draining is for good.**  Take any gateway that starts, and anything
that may have happened in it.  A shutdown takes three steps: it sets the flag,
stops the log, and stops the statistics.  From then on no step clears the flag
or opens an exchange that is closed, however the steps of an exchange follow
one another.  A call that asks while the flag is set is turned away there and
then, having been observed.  Let a shutdown take its three steps, whatever
happens between them and afterwards, with calls anywhere on their way: it is
done in every state that follows; and a call that has come as far as its
handler, if only before the flag was set, gets no stream. -/
theorem drain_is_final {c : Config} {g₀ g : Gateway} (hstart : start c = .ok g₀) (hreach : Reachable g₀ g) :
    g.drain = { g with hub := g.hub.setDraining.stopLog.stopStats }
      ∧ (∀ g', Reachable g g' → (g.isDraining = true → g'.isDraining = true)
        ∧ (g.hub.log.exchange.isOpen = false → g'.hub.log.exchange.isOpen = false)
        ∧ (g.hub.stats.exchange.isOpen = false → g'.hub.stats.exchange.isOpen = false))
      ∧ (∀ (t : Exchange.Traffic CallRecord) actions, t.exchange.isOpen = false →
          (t.run actions).exchange.isOpen = false
            ∧ (t.exchange.entries = [] → (t.run actions).exchange.entries = []))
      ∧ (∀ call body vs stage g', Journey g call body vs stage g' →
          ∀ v ∈ vs, v.stage = .observed → v.before.isDraining = true →
            ∃ first, TurnedAway call vs stage first v)
      ∧ (∀ g₁ g₂ g₃, Reachable { g with hub := g.hub.setDraining } g₁ →
          Reachable { g₁ with hub := g₁.hub.stopLog } g₂ →
          Reachable { g₂ with hub := g₂.hub.stopStats } g₃ →
          ShutDown c g₃ ∧ ∀ gₛ call body vs handler, Reachable g₀ gₛ →
            Journey gₛ call body vs (.granted handler) g₃ →
            ∀ now, ∃ e, g₃.beginStream now handler = g₃.refuse e ∧ (handler.FollowsFeed → e = c.lateFailure))
      ∧ (c.validate = .ok () → c.lateFailure = .unavailable "server is shutting down") := by
  refine ⟨rfl, fun g' hafter => ?_, fun t actions hclosed => ?_,
    fun call body vs stage g' hjourney v hv hstage hdraining => hjourney.turnedAway hv hstage hdraining, ?_,
    Config.lateFailure_of_valid⟩
  · have hshut := Reachable.staysShut hafter
    exact ⟨hshut.draining, hshut.log.exchange.closed, hshut.stats.exchange.closed⟩
  · have hshut := t.staysShut_run actions
    exact ⟨hshut.closed hclosed, hshut.empty hclosed⟩
  · intro g₁ g₂ g₃ h₁ h₂ h₃
    have hshut₁ := Reachable.staysShut h₁
    have hshut₂ := Reachable.staysShut h₂
    have hshut₃ := Reachable.staysShut h₃
    have hdrained : g₃.hub.IsDrained := Hub.isDrained_of_steps hshut₁ hshut₂ hshut₃
    have hall : Reachable g₀ g₃ :=
      ((((hreach.tail .setDraining).trans h₁).tail .stopLog).trans h₂ |>.tail .stopStats).trans h₃
    have hshut := Reachable.staysShut hall
    have hbuffers : g₀.hub.log.subscriberBuffer = max c.server.subscriberBuffer 1
        ∧ g₀.hub.stats.subscriberBuffer = max c.server.subscriberBuffer 1 := by
      unfold start at hstart
      obtain ⟨p, -, hstart⟩ := Outcome.bind_eq_ok_iff.1 hstart
      cases hstart
      exact ⟨rfl, rfl⟩
    have hdone : ShutDown c g₃ := shutDown_of_drained hdrained (hshut.log.buffer.trans hbuffers.1)
      (hshut.stats.buffer.trans hbuffers.2)
    refine ⟨hdone, fun gₛ call body vs handler hcame hjourney now => ?_⟩
    obtain ⟨req, -, hhandler, -⟩ := hjourney.course.1.of_granted
    have hstandard : handler.IsStandard := by
      rw [hhandler]
      exact isStandard_stream ((Reachable.setup hcame).routes.trans (of_start_eq_ok hstart).2) call req
    rcases hstandard with hfollows | ⟨e, rfl⟩
    · exact ⟨c.lateFailure, hdone.late now handler hfollows, fun _ => rfl⟩
    · exact ⟨e, beginStream_fail g₃ now e, fun hfollows => hfollows.elim⟩

/-- Amy's call is let through before a shutdown, and asks for the log when
that is over; the next call is turned away. -/
theorem late_call_is_refused :
    ∃ g₀ call, start { version := 1, acl := [("amy", ["/main.Admin/*"])] } = .ok g₀
      ∧ ∀ now, ∃ g,
        (∃ vs, Journey g₀ call [] vs (.granted .followLog) g)
        ∧ g.beginStream now .followLog = g.refuse .shuttingDown ∧ g.drain = g
        ∧ ∃ vs r, Journey g call [] vs (.answered r) ((g.advance now { call, body := [] }).2.advance now
            { call, body := [], stage := .observed }).2 ∧ r.status = 503 := by
  let method : MethodName := ⟨"main.Admin", "Logging", ⟨by decide, by decide⟩, ⟨by decide, by decide⟩⟩
  let call := Call.ofRequest method [("Consumer", Bytes.ofText "amy")] none
  have ⟨g₀, hstart⟩ : ∃ g₀, start { version := 1, acl := [("amy", ["/main.Admin/*"])] } = .ok g₀ := ⟨_, rfl⟩
  have hallowed : g₀.policy.authorize call.consumer call.method.full = .allow 0 := by
    cases hstart
    decide
  have hroute : g₀.routeOf call = ⟨.serverStreaming, Service.admin ({} : ServerConfig).maxStatsIntervalSecs⟩ := by
    unfold routeOf
    rw [(of_start_eq_ok hstart).2]
    rfl
  refine ⟨g₀, call, hstart, fun now => ?_⟩
  -- the call is let through
  let g₁ := (g₀.advance now { call, body := [] }).2
  let g₂ : Gateway := { g₁ with hub := g₁.hub.allowed }
  have hopen : g₁.isDraining = false := by
    obtain ⟨dropped, hmetrics⟩ := g₀.hub.metrics_observe (g₀.routes.contains call.method.full) now.wall call
    show (g₀.hub.observe _ _ _).metrics.draining = false
    rw [hmetrics]
    cases hstart
    rfl
  have hadmitted : g₁.advance now { call, body := [], stage := .observed }
      = ({ call, body := [], stage := .admitted }, g₁) := by
    unfold advance
    simp only [hopen]
    rfl
  have hjudged : g₁.judge now.wall call .null = (.granted .followLog, g₂) := by
    have hroute₁ : g₁.routeOf call = _ := hroute
    rw [judge_of_allow g₁ now.wall .null hallowed, hroute₁, serveBy_of_streaming rfl]
    rfl
  have hgranted : g₁.advance now { call, body := [], stage := .decoded .null }
      = ({ call, body := [], stage := .granted .followLog }, g₂) := by
    unfold advance
    simp only [hjudged]
  have hcame : Journey g₀ call [] [⟨now, g₀, .arrived, g₁⟩] .observed g₁ := .goesOn now .comes nofun
  have hpassed := hcame.goesOn now nofun
  rw [hadmitted] at hpassed
  have hdecoded : Journey g₀ call [] _ (.decoded .null) g₁ := hpassed.goesOn now nofun
  have hjourney := hdecoded.goesOn now nofun
  rw [hgranted] at hjourney
  have hlate := ((hjourney.waits .setDraining).waits .stopLog).waits .stopStats
  have hreach : Reachable g₀ g₂ := by
    have hstep : g₁.Step g₂ := by
      have hcall := Step.call (g := g₁) now { call, body := [], stage := .decoded .null }
      rw [hgranted] at hcall
      exact hcall
    exact (Relation.ReflTransGen.single (.call now { call, body := [] })).tail hstep
  -- then the gateway shuts down
  obtain ⟨-, -, -, -, hfinal, hvalid⟩ := drain_is_final hstart hreach
  obtain ⟨hdone, hrefused⟩ := hfinal _ _ _ .refl .refl .refl
  have hfailure := hvalid (by rfl)
  refine ⟨g₂.drain, ⟨_, hlate⟩, ?_, hdone.again.1, ?_⟩
  · obtain ⟨e, hbegin, he⟩ := hrefused g₀ call [] _ _ .refl hlate now
    rw [he trivial, hfailure] at hbegin
    exact hbegin
  · obtain ⟨-, -, -, haway, -⟩ := drain_is_final hstart (hreach.trans (reachable_drain g₂))
    have hagain : Journey g₂.drain call [] [⟨now, g₂.drain, .arrived, _⟩] .observed
        (g₂.drain.advance now { call, body := [] }).2 := .goesOn now .comes nofun
    have hasked := hagain.goesOn now nofun
    have hdraining := (Step.call (g := g₂.drain) now { call, body := [] }).staysShut.draining rfl
    obtain ⟨first, hturned⟩ :=
      haway _ _ _ _ _ hasked _ (List.mem_append_right _ List.mem_cons_self) rfl hdraining
    rw [hturned.answered] at hasked
    exact ⟨_, _, hasked, hturned.status⟩

end Gateway

end CallGateway
