/-
  CallGateway.Proofs.Gateway.Observation
  ──────────────────────────────────────
  **EVERY ATTEMPT IS OBSERVED ONCE, BEFORE ANYTHING IS DECIDED.**

  A call is observed on its first visit: it is counted, and one record of it is
  offered to every subscriber of the statistics and to the log (`Observed`).
  On its other visits, where everything about it is decided, nothing of that
  kind happens (`Unobserved`), and the policy judges it by what the record says
  (`JudgedBy`).  So an attempt leaves one record, whatever becomes of it
  (`every_attempt_is_observed_once`), and all records are counted under
  registered names or under the label for all others (`Reachable.isLabelled`).
-/
import CallGateway.Proofs.Gateway.Gains

namespace CallGateway

open Json (Value)

/-! ## §1. A record is offered. -/

namespace LogFeed

/-- The log is offered a record once, and counts it if there is no room. -/
theorem publish_offers (f : LogFeed) (r : CallRecord) (m : Metrics) :
    (f.publish r m).2.1.intake = f.intake.offer r
      ∧ (f.publish r m).2.2 = m.countDropped .eventIntake (if f.intake.verdict = .full then 1 else 0) := by
  cases hverdict : f.intake.verdict with
  | delivered =>
    rw [publish_of_delivered hverdict, Queue.offer_of_delivered r hverdict]
    exact ⟨rfl, rfl⟩
  | full =>
    rw [publish_of_full hverdict, Queue.offer_of_ne r (by simp [hverdict])]
    exact ⟨rfl, rfl⟩
  | refused =>
    rw [publish_of_refused hverdict, Queue.offer_of_ne r (by simp [hverdict])]
    exact ⟨rfl, rfl⟩

end LogFeed

namespace Hub

variable {hub hub' hub'' : Hub}

/-- From one state of the hub to the other a call was counted once, its record
was offered once to every subscriber of the statistics and once to the log,
and nothing was decided. -/
structure Observed (label : String) (r : CallRecord) (hub hub' : Hub) : Prop where
  counted : hub'.metrics.callsObserved = hub.metrics.callsObserved.inc [("method", label)]
    ∧ hub'.metrics.callsObserved.total = hub.metrics.callsObserved.total + 1
  -- Every registered subscriber has a queue of its own.
  apart : (hub.stats.exchange.entries.map (·.queue)).Nodup
  subscribers : ∀ q, hub'.stats.exchange.queue? q
    = if q ∈ hub.stats.exchange.entries.map (·.queue) then (hub.stats.exchange.queue? q).map (·.offer r)
      else hub.stats.exchange.queue? q
  intake : hub'.log.intake = hub.log.intake.offer r
  -- Where there was no room for it, that was counted once.
  missed : hub'.metrics.dropped .statsSubscriber = hub.metrics.dropped .statsSubscriber
      + UInt64.ofNat (hub.stats.exchange.meeting .full hub.stats.exchange.entries).length
    ∧ hub'.metrics.dropped .eventIntake = hub.metrics.dropped .eventIntake
      + if hub.log.intake.verdict = .full then 1 else 0
  undecided : hub'.metrics.policyDecisions = hub.metrics.policyDecisions
    ∧ hub'.metrics.callErrors = hub.metrics.callErrors

/-- **Observing a call** offers its record once. -/
theorem observed_observe (hroll : hub.stats.exchange.HasRoll) (known : Bool) (wall : Int64) (call : Call) :
    Observed (if known then call.method.full else unregistered) (CallRecord.ofCall wall call) hub
      (hub.observe known wall call) := by
  let r := CallRecord.ofCall wall call
  let counted := hub.metrics.countCall (if known then call.method.full else unregistered)
  obtain ⟨hqueues, hlagged⟩ := hroll.fanOut_eq r
  obtain ⟨hintake, hmetrics⟩ := hub.log.publish_offers r (hub.stats.publish r counted).2.2
  have hmetrics : (hub.observe known wall call).metrics
      = (counted.countDropped .statsSubscriber (hub.stats.exchange.fanOut r).1.lagged).countDropped .eventIntake
          (if hub.log.intake.verdict = .full then 1 else 0) := hmetrics
  have hdropped : ∀ s, (hub.observe known wall call).metrics.dropped s = hub.metrics.dropped s
      + (if s = .statsSubscriber then UInt64.ofNat (hub.stats.exchange.fanOut r).1.lagged else 0)
      + if s = .eventIntake then UInt64.ofNat (if hub.log.intake.verdict = .full then 1 else 0) else 0 := by
    intro s
    rw [hmetrics, Metrics.dropped_countDropped, Metrics.dropped_countDropped]
    rfl
  obtain ⟨dropped, hothers⟩ := hub.metrics_observe known wall call
  have hcounted : (hub.observe known wall call).metrics.callsObserved
      = hub.metrics.callsObserved.inc [("method", if known then call.method.full else unregistered)] := by
    rw [hothers]
    rfl
  refine ⟨⟨hcounted, ?_⟩, hroll.queues_nodup, hqueues, hintake, ⟨?_, ?_⟩, ⟨?_, ?_⟩⟩
  · rw [hcounted]
    exact Counter.total_add _ _ 1
  · rw [hdropped .statsSubscriber, hlagged]
    simp
  · rw [hdropped .eventIntake]
    by_cases hfull : hub.log.intake.verdict = .full <;> simp [hfull]
  · rw [hothers]
    rfl
  · rw [hothers]
    rfl

/-! ## §2. No record is offered. -/

/-- From one state of the hub to the other no call was counted, and no record
was offered to anyone. -/
structure Unobserved (hub hub' : Hub) : Prop where
  counted : hub'.metrics.callsObserved = hub.metrics.callsObserved
  subscribers : ∀ q, hub'.stats.exchange.waiting q <:+ hub.stats.exchange.waiting q
  intake : hub'.log.intake = hub.log.intake
  missed : hub'.metrics.droppedDeliveries = hub.metrics.droppedDeliveries

theorem Unobserved.refl (hub : Hub) : hub.Unobserved hub := ⟨rfl, fun _ => List.suffix_rfl, rfl, rfl⟩

theorem Unobserved.trans (h : hub.Unobserved hub') (h' : hub'.Unobserved hub'') : hub.Unobserved hub'' :=
  ⟨h'.counted.trans h.counted, fun q => (h'.subscribers q).trans (h.subscribers q), h'.intake.trans h.intake,
    h'.missed.trans h.missed⟩

/-- Verdicts and failures are counted. -/
theorem Unobserved.of_metrics {metrics : Metrics} (hcounted : metrics.callsObserved = hub.metrics.callsObserved)
    (hmissed : metrics.droppedDeliveries = hub.metrics.droppedDeliveries) :
    hub.Unobserved { hub with metrics } := ⟨hcounted, fun _ => List.suffix_rfl, rfl, hmissed⟩

/-- A handler is at work. -/
theorem Tended.unobserved (h : hub.Tended hub') : hub.Unobserved hub' where
  counted := by rw [h.metrics]
  subscribers := h.stats.waiting
  intake := h.intake
  missed := by rw [h.metrics]

theorem Deed.unobserved (h : hub.Deed hub') : hub.Unobserved hub' := by
  cases h with
  | use huse => exact (Uses.tended (.single huse)).unobserved
  | allow | deny _ | fail _ => exact .of_metrics rfl rfl

/-- **Only a call that comes is observed.**  Whatever is decided about it later
offers nothing to anyone. -/
theorem Deeds.unobserved (h : hub.Deeds hub') : hub.Unobserved hub' := by
  induction h with
  | refl => exact .refl hub
  | tail _ hdeed ih => exact ih.trans hdeed.unobserved

end Hub

namespace Gateway

/-! ## §3. The visits of a call. -/

section Journey

variable {g g' : Gateway} {call : Call} {body : Bytes} {vs : List Visit} {stage : Stage}

/-- A call arrives on its first visit, and on no other. -/
theorem Course.arrives_first (h : Course g call body vs stage) :
    vs = [] ∧ stage = .arrived
      ∨ ∃ first later, vs = first :: later ∧ first.stage = .arrived ∧ ∀ v ∈ later, v.stage ≠ .arrived := by
  by_cases harrived : stage = .arrived
  · subst harrived
    cases h
    exact .inl ⟨rfl, rfl⟩
  · by_cases hobserved : stage = .observed
    · subst hobserved
      cases h with
      | observed hfirst _ => exact .inr ⟨_, [], rfl, hfirst, fun v hv => nomatch hv⟩
    · obtain ⟨first, second, later, rfl, hfirst, hsecond, hlater⟩ := h.split harrived hobserved
      refine .inr ⟨first, second :: later, rfl, hfirst, fun v hv => ?_⟩
      rcases List.mem_cons.1 hv with rfl | hv
      · simp [hsecond]
      · exact (hlater v hv).1

/-- If the policy judges the call on this visit, then by the consumer and the
method of the record, and the visit comes to what it decides. -/
def JudgedBy (r : CallRecord) (call : Call) (v : Visit) : Prop :=
  ∀ req, v.stage = .decoded req →
    v.before.judge v.now.wall call req = (match v.before.policy.authorize r.consumer r.method with
      | .allow _ => serveBy (v.before.routeOf call) call req { v.before with hub := v.before.hub.allowed }
      | .deny reason => { v.before with hub := v.before.hub.denied reason }.refuse reason.failure)
    ∧ v.after = (v.before.judge v.now.wall call req).2

/-- The record of a call says by what it is judged. -/
theorem judgedBy_ofCall (wall : Int64) {v : Visit}
    (hvisit : v.after = (v.before.advance v.now { call, body, stage := v.stage }).2) :
    JudgedBy (.ofCall wall call) call v := by
  intro req hstage
  refine ⟨?_, ?_⟩
  · show _ = match v.before.policy.authorize call.consumer call.method.full with
      | .allow _ => _
      | .deny reason => _
    cases hverdict : v.before.policy.authorize call.consumer call.method.full with
    | allow rule => exact judge_of_allow v.before v.now.wall req hverdict
    | deny reason => exact judge_of_deny v.before v.now.wall req hverdict
  · rw [hvisit, hstage]
    rfl

/-- **The visits of a call.**  It is observed on the first one and not on the
others, and judged by what its record says. -/
theorem Journey.observed (hroll : g.hub.stats.exchange.HasRoll) (h : Journey g call body vs stage g') :
    vs = [] ∧ stage = .arrived
      ∨ ∃ first later, vs = first :: later ∧ first.stage = .arrived
          ∧ Hub.Observed (g.labelOf call) (.ofCall first.now.wall call) first.before.hub first.after.hub
          ∧ ∀ v ∈ later, v.stage ≠ .arrived ∧ v.before.hub.Unobserved v.after.hub
              ∧ JudgedBy (.ofCall first.now.wall call) call v := by
  rcases h.course.1.arrives_first with hcame | ⟨first, later, rfl, hfirst, hlater⟩
  · exact .inl hcame
  · have hreach := h.reachable.2 first List.mem_cons_self
    refine .inr ⟨first, later, rfl, hfirst, ?_, fun v hv => ?_⟩
    · have hafter : first.after.hub
          = first.before.hub.observe (first.before.routes.contains call.method.full) first.now.wall call := by
        rw [h.visit first List.mem_cons_self, hfirst]
        rfl
      rw [hafter, ← (Reachable.setup hreach).labelOf call]
      exact Hub.observed_observe (Reachable.hasRoll hreach hroll) _ _ _
    · have hvisit := h.visit v (List.mem_cons_of_mem first hv)
      refine ⟨hlater v hv, ?_, judgedBy_ofCall _ hvisit⟩
      rw [hvisit]
      exact Hub.Deeds.unobserved (v.before.deeds_advance v.now (hlater v hv))

end Journey

/-! ## §4. Labels. -/

/-- All calls were counted under registered names, or under the label for all
others. -/
def IsLabelled (g : Gateway) : Prop :=
  ∀ s ∈ g.hub.metrics.callsObserved.series, ∃ label ∈ g.routes.methods ++ [Hub.unregistered],
    s.1 = [("method", label)]

theorem labelOf_mem (g : Gateway) (call : Call) : g.labelOf call ∈ g.routes.methods ++ [Hub.unregistered] := by
  unfold labelOf
  split
  · rename_i hknown
    exact List.mem_append_left _ (Routes.mem_methods_iff.2 hknown)
  · exact List.mem_append_right _ List.mem_cons_self

section

variable {g g' : Gateway}

/-- Whatever a step does, a new label is that of a call. -/
theorem Effect.labels {hub : Hub} (h : g.Effect hub) {s : Labels × UInt64} (hs : s ∈ hub.metrics.callsObserved.series) :
    (∃ call, s.1 = [("method", g.labelOf call)]) ∨ ∃ s' ∈ g.hub.metrics.callsObserved.series, s.1 = s'.1 := by
  cases h with
  | decided hdeeds =>
    rw [(Hub.Deeds.unobserved hdeeds).counted] at hs
    exact .inr ⟨s, hs, rfl⟩
  | observed wall call =>
    obtain ⟨dropped, hmetrics⟩ := g.hub.metrics_observe (g.routes.contains call.method.full) wall call
    rw [hmetrics] at hs
    refine (Counter.mem_series_add hs).imp_left fun hkey => ⟨call, hkey.trans (Metrics.key_singleton _)⟩
  | dispatched =>
    obtain ⟨dropped, hmetrics⟩ := g.hub.log.metrics_dispatch g.hub.metrics
    have hs : s ∈ (g.hub.log.dispatch g.hub.metrics).2.callsObserved.series := hs
    rw [hmetrics] at hs
    exact .inr ⟨s, hs, rfl⟩
  | draining | logStopped | statsStopped => exact .inr ⟨s, hs, rfl⟩

/-- **No step brings another label.** -/
theorem Step.isLabelled (hstep : g.Step g') (h : g.IsLabelled) : g'.IsLabelled := by
  intro s hs
  rw [hstep.setup.routes]
  rcases hstep.effect.labels hs with ⟨call, hkey⟩ | ⟨s', hs', hkey⟩
  · exact ⟨_, g.labelOf_mem call, hkey⟩
  · rw [hkey]
    exact h s' hs'

theorem Reachable.isLabelled (hreach : Reachable g g') (h : g.IsLabelled) : g'.IsLabelled := by
  induction hreach with
  | refl => exact h
  | tail _ hstep ih => exact hstep.isLabelled ih

end

/-! ## §5. The theorem. -/

/-- **Every attempt is observed once, before anything is decided.**  Take any
gateway that starts, with its own services or others, anything that may have
happened in it, and any call of a method.  However far the call has come and
whatever happens meanwhile: if it has done anything at all, then its first
visit offered one record of it to all who are to see it and decided nothing.
All that is decided about it, up to any answer, is decided on later visits;
these offer nothing, and where the policy judges it, then under the consumer
and the method of the record.  And all labels of the calls that were counted
are names of registered methods, or the one label for all others. -/
theorem every_attempt_is_observed_once {c : Config} {g₀ g : Gateway} (hstart : start c = .ok g₀) (routes : Routes)
    (hreach : Reachable { g₀ with routes } g) {path : String} {method : MethodName}
    (hpath : MethodName.parse path = .ok method) (headers : Headers) (peer : Option SocketAddress) (body : Bytes) :
    let call := Call.ofRequest method headers peer
    (∀ vs stage g', Journey g call body vs stage g' →
      vs = [] ∧ stage = .arrived
        ∨ ∃ first later r, vs = first :: later ∧ first.stage = .arrived
            ∧ r = ⟨first.now.wall, headers.consumer, path, (peer.map (·.render)).getD "unknown"⟩
            ∧ Hub.Observed (if g.routes.contains path then path else "unregistered") r first.before.hub
                first.after.hub
            ∧ ∀ v ∈ later, v.stage ≠ .arrived ∧ v.before.hub.Unobserved v.after.hub ∧ JudgedBy r call v)
      ∧ (∀ now, ∃ vs, Journey g call body vs (.answered (g.answer now call body).1) (g.answer now call body).2)
      ∧ ∀ s ∈ g.hub.metrics.callsObserved.series, ∃ label ∈ g.routes.methods ++ ["unregistered"],
          s.1 = [("method", label)] := by
  intro call
  have hfull : call.method.full = path := (MethodName.parse_eq_ok_iff.1 hpath).symm
  have hempty : ({ g₀ with routes } : Gateway).hub.stats.exchange.HasRoll
      ∧ ({ g₀ with routes } : Gateway).IsLabelled := by
    unfold start at hstart
    obtain ⟨p, -, hstart⟩ := Outcome.bind_eq_ok_iff.1 hstart
    cases hstart
    exact ⟨⟨[], Exchange.roll_empty⟩, fun s hs => nomatch hs⟩
  refine ⟨fun vs stage g' hjourney => ?_, fun now => Journey.answer g now call body,
    Reachable.isLabelled hreach hempty.2⟩
  rcases hjourney.observed (Reachable.hasRoll hreach hempty.1) with
    hcame | ⟨first, later, hvs, hfirst, hobserved, hlater⟩
  · exact .inl hcame
  · have hr : CallRecord.ofCall first.now.wall call
        = ⟨first.now.wall, headers.consumer, path, (peer.map (·.render)).getD "unknown"⟩ := by
      rw [← hfull]
      rfl
    have hlabel : g.labelOf call = if g.routes.contains path then path else "unregistered" := by
      unfold labelOf
      rw [hfull]
      rfl
    rw [hr] at hlater
    rw [hr, hlabel] at hobserved
    exact .inr ⟨first, later, _, hvs, hfirst, rfl, hobserved, hlater⟩

/-- A call without consumer comes to a gateway that is shut down.  It is turned
away, and it was observed. -/
theorem late_call_is_observed :
    ∃ g₀ method, start { version := 1 } = .ok g₀ ∧ MethodName.parse "/main.Biz/Check" = .ok method
      ∧ ∀ now, ∃ first later, Journey g₀.drain (.ofRequest method [] none) [] (first :: later)
            (.answered (g₀.drain.answer now (.ofRequest method [] none) []).1)
            (g₀.drain.answer now (.ofRequest method [] none) []).2
          ∧ Hub.Observed "/main.Biz/Check" ⟨first.now.wall, "", "/main.Biz/Check", "unknown"⟩ first.before.hub
              first.after.hub := by
  let method : MethodName := ⟨"main.Biz", "Check", ⟨by decide, by decide⟩, ⟨by decide, by decide⟩⟩
  have ⟨g₀, hstart⟩ : ∃ g₀, start { version := 1 } = .ok g₀ := ⟨_, rfl⟩
  have hpath : MethodName.parse "/main.Biz/Check" = .ok method := by rfl
  have hknown : g₀.drain.routes.contains "/main.Biz/Check" = true := by
    show g₀.routes.contains _ = true
    rw [(of_start_eq_ok hstart).2]
    rfl
  refine ⟨g₀, method, hstart, hpath, fun now => ?_⟩
  obtain ⟨hall, hanswer, -⟩ := every_attempt_is_observed_once hstart g₀.routes (reachable_drain g₀) hpath [] none []
  obtain ⟨vs, hjourney⟩ := hanswer now
  rcases hall _ _ _ hjourney with ⟨-, hnone⟩ | ⟨first, later, r, rfl, -, rfl, hobserved, -⟩
  · cases hnone
  · rw [if_pos hknown] at hobserved
    exact ⟨first, later, hjourney, hobserved⟩

end Gateway

end CallGateway
