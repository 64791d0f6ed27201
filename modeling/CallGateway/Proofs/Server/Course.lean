/-
  CallGateway.Proofs.Server.Course
  ────────────────────────────────
  **A SERVER FROM ITS START TO ITS END.**

  While its supervisor goes from listening to stopped, a server answers calls
  and hands out records; draining takes three steps, between which all of that
  goes on; and somebody may be waiting for the end.  A course takes all of these
  in any order (`Course.Step`).

  What was drained stays so (`Hub.DoneSteps.of_staysShut`), and the supervisor
  goes on only when draining has ended.  So whoever is told that the server has
  stopped finds it drained, and its listener gone.
-/
import CallGateway.Proofs.Gateway.Draining
import CallGateway.Proofs.Lifecycle
import CallGateway.Server

namespace CallGateway

/-! ## §1. Draining, step by step. -/

namespace Hub

/-- The steps of a shutdown. -/
def drainSteps : List (Hub → Hub) := [setDraining, stopLog, stopStats]

/-- So many steps of a shutdown are done, and whatever happened since has kept
shut what they shut. -/
def DoneSteps : Nat → Hub → Prop
  | 0, _ => True
  | n + 1, hub => ∃ before step, DoneSteps n before ∧ drainSteps[n]? = some step ∧ (step before).StaysShut hub

variable {hub hub' : Hub} {n : Nat}

theorem DoneSteps.of_staysShut (h : DoneSteps n hub) (hshut : hub.StaysShut hub') : DoneSteps n hub' := by
  cases n with
  | zero => trivial
  | succ n =>
    obtain ⟨before, step, hbefore, hstep, hkept⟩ := h
    exact ⟨before, step, hbefore, hstep, hkept.trans hshut⟩

theorem DoneSteps.isDrained (h : DoneSteps drainSteps.length hub) : hub.IsDrained := by
  obtain ⟨hub₂, _, ⟨hub₁, _, ⟨hub₀, _, -, ⟨⟩, h₁⟩, ⟨⟩, h₂⟩, ⟨⟩, h₃⟩ := h
  exact isDrained_of_steps h₁ h₂ h₃

theorem staysShut_drainSteps (hub : Hub) {step : Hub → Hub} (h : drainSteps[n]? = some step) :
    hub.StaysShut (step hub) := by
  have hmem := List.mem_of_getElem? h
  simp only [drainSteps, List.mem_cons, List.not_mem_nil, or_false] at hmem
  rcases hmem with rfl | rfl | rfl
  · exact hub.staysShut_setDraining
  · exact hub.staysShut_stopLog
  · exact hub.staysShut_stopStats

end Hub

namespace Server

/-! ## §2. Courses. -/

/-- A server on its way, and how it came there. -/
structure Course where
  server : Server
  -- How many steps of draining are done.
  steps : Nat := 0
  -- What has happened to the server, in order.
  events : List LifecycleEvent := []
  -- Whoever waits for the server to stop.
  waiter : Waiter := .looking

namespace Course

/-- Something is done in the gateway. -/
def withGateway (s : Course) (g : Gateway) : Course := { s with server := { s.server with gateway := g } }

/-- The supervisor takes a step of draining. -/
def takeStep (s : Course) (step : Hub → Hub) : Course :=
  { s.withGateway { s.server.gateway with hub := step s.server.gateway.hub } with steps := s.steps + 1 }

/-- Something happens to the server.  Where draining begins, none of its steps
is done. -/
def happen (s : Course) (e : LifecycleEvent) : Course :=
  { s with
    server := { s.server with lifecycle := s.server.lifecycle.step e }
    steps := if s.server.lifecycle.drains < (s.server.lifecycle.step e).drains then 0 else s.steps
    events := s.events ++ [e] }

/-- What can come next. -/
inductive Step (s : Course) : Course → Prop where
  -- A call, the worker, a handler or a caller does something.
  | work {g : Gateway} (h : s.server.gateway.Step g) : Step s (s.withGateway g)
  -- The signal comes, the listener ends, or the time is over.
  | event {e : LifecycleEvent} (h : e ≠ .drained) : Step s (s.happen e)
  -- The supervisor takes the next step of draining.
  | drain {step : Hub → Hub} (h : s.server.lifecycle.watch.IsDraining) (hstep : Hub.drainSteps[s.steps]? = some step) :
      Step s (s.takeStep step)
  -- It has taken all of them.
  | drained (h : s.server.lifecycle.watch.IsDraining) (hsteps : s.steps = Hub.drainSteps.length) :
      Step s (s.happen .drained)
  -- Whoever waits looks at the phase, or waits on.
  | look : Step s { s with waiter := s.waiter.step s.server.lifecycle }

/-- Any number of steps. -/
abbrev Reachable : Course → Course → Prop := Relation.ReflTransGen Step

/-- The supervisor does what the events ask for, the gateway is drained as far as
it has come, and nobody was told too early that the server has stopped. -/
structure Sound (s : Course) : Prop where
  lifecycle : s.server.lifecycle.Sound s.events
  steps : s.server.lifecycle.watch.IsDraining → Hub.DoneSteps s.steps s.server.gateway.hub
  drained : .drained ∈ s.events → s.server.gateway.hub.IsDrained
  waiter : s.waiter = .returned → .drained ∈ s.events ∧ .listenerEnds ∈ s.events

variable {s s' : Course}

theorem sound_start {s₀ : Server} {drainTimeoutMs : Nat} (h : s₀.lifecycle = .start drainTimeoutMs) :
    Sound { server := s₀ } where
  lifecycle := by
    show s₀.lifecycle.Sound []
    rw [h]
    exact Lifecycle.sound_start drainTimeoutMs
  steps := fun _ => trivial
  drained := nofun
  waiter := nofun

/-- Whatever is done in the gateway keeps shut what is shut. -/
theorem Sound.withGateway (h : s.Sound) {g : Gateway} (hshut : s.server.gateway.hub.StaysShut g.hub) :
    (s.withGateway g).Sound where
  lifecycle := h.lifecycle
  steps := fun hdraining => (h.steps hdraining).of_staysShut hshut
  drained := fun hmem => (h.drained hmem).of_staysShut hshut
  waiter := h.waiter

/-- Any event but the end of draining.  Where it begins draining, no step is done
yet; where draining goes on, as many are done as before. -/
theorem Sound.event (h : s.Sound) {e : LifecycleEvent} (he : e ≠ .drained) : (s.happen e).Sound where
  lifecycle := h.lifecycle.step fun heq => absurd heq he
  steps := by
    intro hdraining
    show Hub.DoneSteps (if _ then 0 else s.steps) s.server.gateway.hub
    rcases h.lifecycle.isDraining_step he hdraining with hlt | ⟨hbefore, hnot⟩
    · rw [if_pos hlt]
      trivial
    · rw [if_neg hnot]
      exact h.steps hbefore
  drained := by
    intro hmem
    rcases List.mem_append.1 hmem with hmem | hmem
    · exact h.drained hmem
    · exact absurd (List.mem_singleton.1 hmem).symm he
  waiter := by
    intro hreturned
    obtain ⟨hdrained, hended⟩ := h.waiter hreturned
    exact ⟨List.mem_append_left _ hdrained, List.mem_append_left _ hended⟩

/-- **Every step keeps it so.** -/
theorem Sound.step (h : s.Sound) (hstep : s.Step s') : s'.Sound := by
  cases hstep with
  | work hg => exact h.withGateway hg.staysShut
  | event he => exact h.event he
  | @drain step hdraining hstep =>
    have hafter := h.withGateway (g := { s.server.gateway with hub := step s.server.gateway.hub })
      (s.server.gateway.hub.staysShut_drainSteps hstep)
    exact {
      lifecycle := hafter.lifecycle
      steps := fun _ => ⟨s.server.gateway.hub, step, h.steps hdraining, hstep, .refl _⟩
      drained := hafter.drained
      waiter := hafter.waiter }
  | drained hdraining hsteps =>
    have hdone := h.steps hdraining
    rw [hsteps] at hdone
    exact {
      lifecycle := h.lifecycle.drained hdraining
      steps := fun hagain => absurd hagain (h.lifecycle.not_isDraining_drained hdraining)
      drained := fun _ => hdone.isDrained
      waiter := by
        intro hreturned
        obtain ⟨hdrained, hended⟩ := h.waiter hreturned
        exact ⟨List.mem_append_left _ hdrained, List.mem_append_left _ hended⟩ }
  | look =>
    exact {
      lifecycle := h.lifecycle
      steps := h.steps
      drained := h.drained
      waiter := fun hreturned => (h.lifecycle.of_returned hreturned).elim h.waiter id }

theorem Sound.reach (h : s.Sound) (hreach : Reachable s s') : s'.Sound := by
  induction hreach with
  | refl => exact h
  | tail _ hstep ih => exact ih.step hstep

/-- What has happened has happened. -/
theorem Reachable.events (h : Reachable s s') : s.events <+: s'.events := by
  induction h with
  | refl => exact List.prefix_refl _
  | tail _ hstep ih =>
    refine ih.trans ?_
    cases hstep with
    | event => exact List.prefix_append _ _
    | drained => exact List.prefix_append _ _
    | _ => exact List.prefix_refl _

theorem Reachable.impatient (h : Reachable s s') :
    s'.server.lifecycle.impatient = s.server.lifecycle.impatient := by
  induction h with
  | refl => rfl
  | tail _ hstep ih =>
    refine Eq.trans ?_ ih
    cases hstep with
    | event => exact Lifecycle.impatient_step _ _
    | drained => exact Lifecycle.impatient_step _ _
    | _ => rfl

/-! ## §3. The server at work. -/

/-- Where draining has just begun, its three steps may follow at once. -/
theorem reachable_drain (hdraining : s.server.lifecycle.watch.IsDraining) (hsteps : s.steps = 0) :
    ∃ s', Reachable s s' ∧ s'.server = { s.server with
      gateway := s.server.gateway.drain, lifecycle := s.server.lifecycle.step .drained } := by
  have h₁ : s.Step (s.takeStep Hub.setDraining) := .drain hdraining (by rw [hsteps]; rfl)
  let s₁ := s.takeStep Hub.setDraining
  have hsteps₁ : s₁.steps = 1 := congrArg Nat.succ hsteps
  have h₂ : s₁.Step (s₁.takeStep Hub.stopLog) := .drain hdraining (by rw [hsteps₁]; rfl)
  let s₂ := s₁.takeStep Hub.stopLog
  have hsteps₂ : s₂.steps = 2 := congrArg Nat.succ hsteps₁
  have h₃ : s₂.Step (s₂.takeStep Hub.stopStats) := .drain hdraining (by rw [hsteps₂]; rfl)
  have h₄ : (s₂.takeStep Hub.stopStats).Step ((s₂.takeStep Hub.stopStats).happen .drained) :=
    .drained hdraining (congrArg Nat.succ hsteps₂)
  exact ⟨_, (((Relation.ReflTransGen.single h₁).tail h₂).tail h₃).tail h₄, rfl⟩

/-- What the server does in one go is a course. -/
theorem Sound.exists_step (h : s.Sound) (hsettled : ¬ s.server.lifecycle.watch.IsDraining) (e : LifecycleEvent) :
    ∃ s', Reachable s s' ∧ s'.server = s.server.step e ∧ ¬ s'.server.lifecycle.watch.IsDraining := by
  by_cases he : e = .drained
  · -- draining has not begun, so this means nothing
    subst he
    refine ⟨s, .refl, ?_, hsettled⟩
    unfold Server.step
    simp only [Lifecycle.step_drained_of_not hsettled, Nat.lt_irrefl, if_false]
    exact (if_neg hsettled).symm
  · have hevent : s.Step (s.happen e) := .event he
    have hlifecycle := (h.event he).lifecycle
    unfold Server.step
    by_cases hdraining : (s.server.lifecycle.step e).watch.IsDraining
    · have hlt : s.server.lifecycle.drains < (s.server.lifecycle.step e).drains :=
        (h.lifecycle.isDraining_step he hdraining).resolve_right fun hboth => hsettled hboth.1
      obtain ⟨s', hreach, hserver⟩ := reachable_drain (s := s.happen e) hdraining (if_pos hlt)
      refine ⟨s', .head hevent hreach, hserver.trans ?_, ?_⟩
      · simp only [hlt, if_true]
        exact (if_pos hdraining).symm
      · rw [hserver]
        exact hlifecycle.not_isDraining_drained hdraining
    · have hnot : ¬ s.server.lifecycle.drains < (s.server.lifecycle.step e).drains :=
        fun hlt => hdraining (h.lifecycle.isDraining_of_drains_lt he hlt)
      refine ⟨s.happen e, .single hevent, ?_, hdraining⟩
      simp only [hnot, if_false]
      exact (if_neg hdraining).symm

/-- Whatever happens to the server one after the other is a course. -/
theorem Sound.exists_run (es : List LifecycleEvent) : ∀ {s : Course}, s.Sound → ¬ s.server.lifecycle.watch.IsDraining →
    ∃ s', Reachable s s' ∧ s'.server = es.foldl Server.step s.server := by
  induction es with
  | nil => exact fun _ _ => ⟨_, .refl, rfl⟩
  | cons e es ih =>
    intro s h hsettled
    obtain ⟨s₁, hreach₁, hserver₁, hsettled₁⟩ := h.exists_step hsettled e
    obtain ⟨s₂, hreach₂, hserver₂⟩ := ih (h.reach hreach₁) hsettled₁
    exact ⟨s₂, hreach₁.trans hreach₂, hserver₂.trans (congrArg (es.foldl Server.step) hserver₁)⟩

/-! ## §4. The theorem. -/

theorem lifecycle_of_start {c : Config} {bind : SocketAddress → Option SocketAddress} {s₀ : Server}
    (h : Server.start c bind = .ok s₀) : s₀.lifecycle = .start c.server.drainTimeoutMs := by
  unfold Server.start at h
  obtain ⟨-, -, h⟩ := Outcome.bind_eq_ok_iff.1 h
  split at h
  · cases h
  · obtain ⟨g, -, h⟩ := Outcome.bind_eq_ok_iff.1 h
    split at h
    · cases h
    · cases h
      rfl

/-- **A server stops once, and in order.**  Take any server that starts.  In
whichever order the signal, the end of the listener, the end of draining and the
end of the time come, with calls, handlers and the worker at work all the time:

* The phases are listening, draining and stopped, as far as the events have led,
  each of them once; none is taken back.
* The gateway is drained once, when draining begins.
* A server that has stopped has been drained, and its listener has ended.
* The end of the listener is taken note of once, and then nobody waits for it.
* Where the calls in flight get no time, nobody waits for them.
* Whoever waits for the server goes on only when it has stopped, and then finds
  the flag set, both exchanges closed and empty, and the listener gone.  It does
  go on, the second time it looks at the latest.

What the server does when one event follows the other is one of these courses. -/
theorem stops_once_and_in_order {c : Config} {bind : SocketAddress → Option SocketAddress} {s₀ : Server}
    (hstart : Server.start c bind = .ok s₀) :
    (∀ s : Course, Reachable { server := s₀ } s →
      let l := s.server.lifecycle
      let g := s.server.gateway
      (l.phases = Lifecycle.phasesAfter s.events ∧ l.phases <+: [.listening, .draining, .stopped]
          ∧ ∀ s', Reachable s s' → l.phases <+: s'.server.lifecycle.phases)
        ∧ l.drains = (if .draining ∈ l.phases then 1 else 0)
        ∧ (.stopped ∈ l.phases → .drained ∈ s.events ∧ g.hub.IsDrained ∧ .listenerEnds ∈ s.events)
        ∧ (l.joins ≤ 1 ∧ (l.joins = 1 → l.listenerEnded = true ∧ ¬ l.watch.AwaitsListener))
        ∧ (c.server.drainTimeoutMs = 0 → l.watch ≠ .waiting)
        ∧ (s.waiter = .returned → l.phase = .stopped ∧ g.isDraining = true
            ∧ (g.hub.log.exchange.isOpen = false ∧ g.hub.log.exchange.entries = [])
            ∧ (g.hub.stats.exchange.isOpen = false ∧ g.hub.stats.exchange.entries = []) ∧ l.listenerEnded = true)
        ∧ (l.phase = .stopped → (s.waiter.step l).step l = .returned))
      ∧ ∀ es : List LifecycleEvent, ∃ s, Reachable { server := s₀ } s ∧ s.server = es.foldl Server.step s₀ := by
  have hlifecycle := lifecycle_of_start hstart
  have hsound₀ : Sound { server := s₀ } := sound_start hlifecycle
  refine ⟨fun s hreach => ?_, fun es => hsound₀.exists_run es ?_⟩
  · intro l g
    have hsound := hsound₀.reach hreach
    have h := hsound.lifecycle
    have hphases := h.phases_eq
    refine ⟨⟨hphases, hphases ▸ Lifecycle.phasesAfter_prefix_all _, fun s' hlater => ?_⟩, h.drains_eq,
      fun hstopped => ?_, h.joined, fun hzero => h.patience ?_, fun hreturned => ?_,
      fun hphase => h.returns hphase s.waiter⟩
    · rw [hphases, (hsound.reach hlater).lifecycle.phases_eq]
      exact Lifecycle.phasesAfter_prefix hlater.events
    · obtain ⟨hdrained, hended⟩ := h.stopped_mem_iff.1 hstopped
      exact ⟨hdrained, hsound.drained hdrained, hended⟩
    · rw [Reachable.impatient hreach]
      show s₀.lifecycle.impatient = true
      rw [hlifecycle]
      exact decide_eq_true hzero
    · obtain ⟨hdrained, hended⟩ := hsound.waiter hreturned
      have hdone := hsound.drained hdrained
      exact ⟨h.phase_eq_stopped_iff.2 ⟨hdrained, hended⟩, hdone.draining, ⟨hdone.logClosed, hdone.logEmpty⟩,
        ⟨hdone.statsClosed, hdone.statsEmpty⟩, h.ended.2 hended⟩
  · show ¬ s₀.lifecycle.watch.IsDraining
    rw [hlifecycle]
    exact fun hdraining => hdraining.elim nofun nofun

/-- A server that is told to stop while no call is in flight, and somebody who
waits for it. -/
theorem stop_returns : ∃ s₀ s, Server.start { version := 1, acl := [("amy", ["/main.Admin/*"])] } some = .ok s₀
    ∧ Reachable { server := s₀ } s ∧ s.server = s₀.stop ∧ s.waiter = .returned
    ∧ s.server.lifecycle.phases = [.listening, .draining, .stopped] ∧ s.server.lifecycle.drains = 1
    ∧ s.server.gateway.isDraining = true := by
  have ⟨s₀, hstart⟩ : ∃ s₀, Server.start { version := 1, acl := [("amy", ["/main.Admin/*"])] } some = .ok s₀ :=
    ⟨_, rfl⟩
  obtain ⟨hall, hruns⟩ := stops_once_and_in_order hstart
  obtain ⟨s₁, hreach, hserver⟩ := hruns [.signal, .listenerEnds]
  have hphase : s₁.server.lifecycle.phase = .stopped := by
    rw [hserver]
    cases hstart
    rfl
  -- whoever waits looks at the phase
  let s₂ : Course := { s₁ with waiter := s₁.waiter.step s₁.server.lifecycle }
  let s₃ : Course := { s₂ with waiter := s₂.waiter.step s₁.server.lifecycle }
  have hreach₃ : Reachable { server := s₀ } s₃ := (hreach.tail .look).tail .look
  obtain ⟨-, -, -, -, -, -, hreturns⟩ := hall s₁ hreach
  have hreturned : s₃.waiter = .returned := hreturns hphase
  obtain ⟨-, hdrains, -, -, -, hfinds, -⟩ := hall s₃ hreach₃
  obtain ⟨-, hdraining, -⟩ := hfinds hreturned
  have hphases : s₃.server.lifecycle.phases = [.listening, .draining, .stopped] := by
    show s₁.server.lifecycle.phases = _
    rw [hserver]
    cases hstart
    rfl
  refine ⟨s₀, s₃, hstart, hreach₃, hserver, hreturned, hphases, ?_, hdraining⟩
  rw [hdrains, hphases]
  rfl

end Course

end Server

end CallGateway
