/-
  CallGateway.Proofs.Gateway.Step
  ───────────────────────────────
  **WHAT CAN HAPPEN IN A GATEWAY, STEP BY STEP.**

  Calls, the log's worker, the handlers of the open streams, the callers who
  read them and a shutdown all take their steps in any order: `Step` is one
  of them, and a gateway is `Reachable` by any number.  What the gateway was
  set up with is the same throughout (`Reachable.setup`).  The rounds that
  the gateway takes on its own are runs of such steps (`reachable_settle`).
-/
import CallGateway.Proofs.Gateway.Judge
import CallGateway.Proofs.Outcome
import Mathlib.Logic.Relation

namespace CallGateway

namespace Gateway

/-! ## §1. Steps. -/

/-- The worker hands out one record. -/
def dispatch (g : Gateway) : Gateway :=
  { g with hub := { g.hub with
      log := (g.hub.log.dispatch g.hub.metrics).1
      metrics := (g.hub.log.dispatch g.hub.metrics).2 } }

/-- A handler at work on its stream takes one step. -/
def perform (g : Gateway) (n : Nat) (s : OpenStream) (heedPeer : Bool) (now : Instant) : Gateway :=
  { g with
    hub := (s.task.step heedPeer now g.hub).2.2
    streams := g.streams.set n { s with task := (s.task.step heedPeer now g.hub).2.1 } }

/-- One step around a handler. -/
def supervise (g : Gateway) (n : Nat) (s : OpenStream) : Gateway :=
  { g with hub := (s.supervise g.hub).2.2, streams := g.streams.set n (s.supervise g.hub).2.1 }

/-- Something happens in a gateway.  A call may be at any stage here, however
it came there, so these are at least the steps that calls can take. -/
inductive Step (g : Gateway) : Gateway → Prop where
  -- A call is taken one stage further.
  | call (now : Instant) (f : InFlight) : Step g (g.advance now f).2
  -- The worker hands out one record.
  | dispatch : Step g g.dispatch
  -- The handler of an open stream takes one step.
  | perform {n : Nat} {s : OpenStream} (h : g.streams[n]? = some s) (heedPeer : Bool) (now : Instant) :
      Step g (g.perform n s heedPeer now)
  -- The end of a handler is looked after.
  | supervise {n : Nat} {s : OpenStream} (h : g.streams[n]? = some s) : Step g (g.supervise n s)
  -- The caller of a stream takes a frame.
  | receive (n : Nat) : Step g (g.receive n).2
  -- The caller of a stream goes.
  | dropStream (n : Nat) : Step g (g.dropStream n)
  | setDraining : Step g { g with hub := g.hub.setDraining }
  -- The log feed ends.
  | stopLog : Step g { g with hub := g.hub.stopLog }
  -- The statistics feed ends.
  | stopStats : Step g { g with hub := g.hub.stopStats }

/-- What a gateway can come to. -/
abbrev Reachable : Gateway → Gateway → Prop := Relation.ReflTransGen Step

/-! ## §2. What a gateway was set up with. -/

/-- Two states of one gateway: what it was set up with is the same. -/
structure SameSetup (g g' : Gateway) : Prop where
  config : g'.config = g.config
  policy : g'.policy = g.policy
  routes : g'.routes = g.routes

theorem SameSetup.trans {g g' g'' : Gateway} (h : SameSetup g g') (h' : SameSetup g' g'') :
    SameSetup g g'' :=
  ⟨h'.config.trans h.config, h'.policy.trans h.policy, h'.routes.trans h.routes⟩

theorem judge_setup (g : Gateway) (wall : Int64) (call : Call) (req : Json.Value) :
    SameSetup g (g.judge wall call req).2 := by
  obtain ⟨metrics, hjudge⟩ := g.judge_snd wall call req
  rw [hjudge]
  exact ⟨rfl, rfl, rfl⟩

theorem beginStream_setup (g : Gateway) (now : Instant) (handler : Handler) :
    SameSetup g (g.beginStream now handler).2 := by
  rcases g.beginStream_cases now handler with ⟨e, -, hbegin⟩ | ⟨-, hbegin⟩ <;>
  · rw [hbegin]
    exact ⟨rfl, rfl, rfl⟩

theorem advance_setup (g : Gateway) (now : Instant) (f : InFlight) : SameSetup g (g.advance now f).2 := by
  unfold advance
  cases f.stage with
  | arrived => exact ⟨rfl, rfl, rfl⟩
  | observed =>
    simp only
    split <;> exact ⟨rfl, rfl, rfl⟩
  | admitted =>
    simp only
    split <;> exact ⟨rfl, rfl, rfl⟩
  | decoded req => exact judge_setup g now.wall f.call req
  | granted handler => exact beginStream_setup g now handler
  | answered r => exact ⟨rfl, rfl, rfl⟩

theorem Step.setup {g g' : Gateway} (h : g.Step g') : SameSetup g g' := by
  cases h with
  | call now f => exact advance_setup g now f
  | receive n =>
    unfold Gateway.receive
    split <;> exact ⟨rfl, rfl, rfl⟩
  | _ => exact ⟨rfl, rfl, rfl⟩

/-- What a gateway was set up with never changes. -/
theorem Reachable.setup {g g' : Gateway} (h : Reachable g g') : SameSetup g g' := by
  induction h with
  | refl => exact ⟨rfl, rfl, rfl⟩
  | tail _ hstep ih => exact ih.trans hstep.setup

/-- A gateway that starts has compiled its table, and offers the standard
services. -/
theorem of_start_eq_ok {c : Config} {g : Gateway} (h : start c = .ok g) :
    AccessPolicy.compile c.acl = .ok g.policy ∧ g.routes = standardRoutes c.server := by
  unfold start at h
  obtain ⟨p, hp, h⟩ := Outcome.bind_eq_ok_iff.1 h
  cases h
  exact ⟨hp, rfl⟩

/-! ## §3. Rounds are runs of steps. -/

section Rounds

variable (now : Instant)

/-- A handler that works until it waits takes steps. -/
theorem reachable_task_go {n : Nat} (fuel : Nat) :
    ∀ (g : Gateway) (s : OpenStream), g.streams[n]? = some s →
      Reachable g { g with
        hub := (StreamTask.run.go now fuel s.task g.hub).2
        streams := g.streams.set n { s with task := (StreamTask.run.go now fuel s.task g.hub).1 } } := by
  induction fuel with
  | zero =>
    intro g s h
    have hsame : g.streams.set n s = g.streams := by
      obtain ⟨hn, hs⟩ := List.getElem?_eq_some_iff.1 h
      rw [← hs, List.set_getElem_self]
    show Reachable g { g with streams := g.streams.set n s }
    rw [hsame]
  | succ fuel ih =>
    intro g s h
    have hn : n < g.streams.length := (List.getElem?_eq_some_iff.1 h).1
    have hstep : Step g (g.perform n s true now) := .perform h true now
    have hrest := ih (g.perform n s true now) { s with task := (s.task.step true now g.hub).2.1 }
      (by simp [perform, hn])
    unfold StreamTask.run.go
    simp only [perform, List.set_set] at hrest
    rcases hs : s.task.step true now g.hub with ⟨_ | _, task, hub⟩
    · simpa [perform, hs] using Relation.ReflTransGen.single hstep
    · simp only [hs] at hrest
      simpa [perform, hs] using Relation.ReflTransGen.head hstep (by simpa [perform, hs] using hrest)

/-- An open stream that works until it waits takes steps: those of its
handler, and then two around it. -/
theorem reachable_run {n : Nat} {g : Gateway} {s : OpenStream} (h : g.streams[n]? = some s) :
    Reachable g { g with hub := (s.run now g.hub).2, streams := g.streams.set n (s.run now g.hub).1 } := by
  have hn : n < g.streams.length := (List.getElem?_eq_some_iff.1 h).1
  have htask := reachable_task_go now (s.task.stepsLeft g.hub) g s h
  rcases ht : StreamTask.run.go now (s.task.stepsLeft g.hub) s.task g.hub with ⟨task, hub⟩
  simp only [ht] at htask
  have hfirst := Step.supervise (n := n) (s := { s with task })
    (show ({ g with hub, streams := g.streams.set n { s with task } } : Gateway).streams[n]? = _ by simp [hn])
  have hsecond := Step.supervise (n := n) (s := (OpenStream.supervise { s with task } hub).2.1)
    (show (supervise { g with hub, streams := g.streams.set n { s with task } } n
      { s with task }).streams[n]? = _ by simp [supervise, hn])
  have hboth := (htask.tail hfirst).tail hsecond
  simpa [supervise, OpenStream.run, StreamTask.run, ht] using hboth

/-- The streams work one after the other. -/
theorem reachable_runStreams_go (g : Gateway) (rest : List OpenStream) :
    ∀ (hub : Hub) (done : List OpenStream),
      Reachable { g with hub, streams := done.reverse ++ rest } (runStreams.go g now rest hub done) := by
  induction rest with
  | nil =>
    intro hub done
    rw [List.append_nil]
    exact .refl
  | cons s rest ih =>
    intro hub done
    have hat : (done.reverse ++ s :: rest)[done.length]? = some s := by simp
    have hrun := reachable_run now (g := { g with hub, streams := done.reverse ++ s :: rest }) hat
    have hset : (done.reverse ++ s :: rest).set done.length (s.run now hub).1
        = ((s.run now hub).1 :: done).reverse ++ rest := by simp
    simp only [hset] at hrun
    exact hrun.trans (ih (s.run now hub).2 ((s.run now hub).1 :: done))

theorem reachable_runStreams (g : Gateway) : Reachable g (g.runStreams now) :=
  reachable_runStreams_go now g g.streams g.hub []

/-- A turn of the worker hands out records one by one. -/
theorem reachable_dispatchMany (n : Nat) :
    ∀ g : Gateway, Reachable g { g with hub := { g.hub with
      log := (LogFeed.dispatchMany n g.hub.log g.hub.metrics).1
      metrics := (LogFeed.dispatchMany n g.hub.log g.hub.metrics).2 } } := by
  induction n with
  | zero => exact fun g => .refl
  | succ n ih => exact fun g => .head .dispatch (ih g.dispatch)

theorem reachable_rounds (n : Nat) : ∀ g : Gateway, Reachable g (rounds n g now) := by
  induction n with
  | zero => exact fun g => .refl
  | succ n ih =>
    intro g
    have hround : Reachable g (g.round now) :=
      (reachable_dispatchMany _ g).trans (reachable_runStreams now _)
    exact hround.trans (ih (g.round now))

/-- Settling is a run of steps. -/
theorem reachable_settle (g : Gateway) : Reachable g (g.settle now) := reachable_rounds now _ g

/-- Shutting down is a run of steps. -/
theorem reachable_drain (g : Gateway) : Reachable g g.drain :=
  .tail (.tail (.tail .refl .setDraining) .stopLog) .stopStats

end Rounds

end Gateway

end CallGateway
