/-
  CallGateway.Proofs.Gateway.Docket
  ─────────────────────────────────
  **MANY CALLS AT ONCE.**

  A docket follows a gateway and all the calls that come to it, through any
  actions in any order: a call comes or is taken one stage further, the log's
  worker and the handlers of the streams work, callers read or go, and the
  steps of a shutdown are taken.  What it keeps (`Kept`) is that each call is on
  a journey of its own, and that a counter shows what the visits of all calls
  have added to it, so nothing but calls is counted there.
-/
import CallGateway.Proofs.Gateway.OwnServices

namespace CallGateway

open Json (Value)

namespace Gateway

/-! ## §1. What happens besides calls. -/

/-- Something that happens in a gateway and is no call. -/
inductive Work where
  -- The log's worker hands out one record.
  | dispatch
  -- The handler of a stream takes one step.
  | perform (n : Nat) (heedPeer : Bool) (now : Instant)
  -- The end of a handler is looked after.
  | supervise (n : Nat)
  -- The caller of a stream takes a frame.
  | receive (n : Nat)
  -- The caller of a stream goes.
  | dropStream (n : Nat)
  -- The three steps of a shutdown.
  | setDraining
  | stopLog
  | stopStats

/-- The gateway after something was done with a stream, if it is there. -/
def atStream (g : Gateway) (n : Nat) (f : OpenStream → Gateway) : Gateway :=
  match g.streams[n]? with
  | none => g
  | some s => f s

theorem atStream_cases {g : Gateway} {n : Nat} {f : OpenStream → Gateway} {P : Gateway → Prop} (hg : P g)
    (hf : ∀ s, g.streams[n]? = some s → P (f s)) : P (g.atStream n f) := by
  unfold atStream
  cases hs : g.streams[n]? with
  | none => exact hg
  | some s => exact hf s hs

/-- The gateway after that. -/
def work (g : Gateway) : Work → Gateway
  | .dispatch => g.dispatch
  | .perform n heedPeer now => g.atStream n fun s => g.perform n s heedPeer now
  | .supervise n => g.atStream n fun s => g.supervise n s
  | .receive n => (g.receive n).2
  | .dropStream n => g.dropStream n
  | .setDraining => { g with hub := g.hub.setDraining }
  | .stopLog => { g with hub := g.hub.stopLog }
  | .stopStats => { g with hub := g.hub.stopStats }

theorem reachable_work (g : Gateway) (w : Work) : Reachable g (g.work w) := by
  cases w with
  | dispatch => exact .single .dispatch
  | perform n heedPeer now => exact atStream_cases .refl fun s hs => .single (.perform hs heedPeer now)
  | supervise n => exact atStream_cases .refl fun s hs => .single (.supervise hs)
  | receive n => exact .single (.receive n)
  | dropStream n => exact .single (.dropStream n)
  | setDraining => exact .single .setDraining
  | stopLog => exact .single .stopLog
  | stopStats => exact .single .stopStats

/-- The handlers of all streams follow a feed, or have ended well. -/
def EndsWell (g : Gateway) : Prop := ∀ s ∈ g.streams, s.task.EndsWell

/-- A handler ends well that is in the place of one that does. -/
theorem EndsWell.set {g : Gateway} (h : g.EndsWell) {n : Nat} {s : OpenStream} (hs : s.task.EndsWell) :
    ∀ s' ∈ g.streams.set n s, s'.task.EndsWell := by
  intro s' hs'
  rcases List.mem_or_eq_of_mem_set hs' with hmem | rfl
  · exact h s' hmem
  · exact hs

/-- **Besides calls, nothing is counted about calls**, and handlers that end
well still do. -/
theorem EndsWell.work {g : Gateway} (h : g.EndsWell) (w : Work) :
    (g.work w).EndsWell ∧ Metrics.Counted [] g.hub.metrics (g.work w).hub.metrics := by
  cases w with
  | dispatch =>
    obtain ⟨dropped, hmetrics⟩ := g.hub.log.metrics_dispatch g.hub.metrics
    exact ⟨h, Metrics.counted_dropped hmetrics⟩
  | perform n heedPeer now =>
    refine atStream_cases (P := fun g' => g'.EndsWell ∧ Metrics.Counted [] g.hub.metrics g'.hub.metrics)
      ⟨h, fun _ _ => rfl⟩ fun s hs => ⟨h.set ?_, ?_⟩
    · exact (h s (List.mem_of_getElem? hs)).step heedPeer now g.hub
    · exact Metrics.counted_of_eq (Hub.Uses.tended (s.task.uses_step heedPeer now g.hub)).metrics
  | supervise n =>
    refine atStream_cases (P := fun g' => g'.EndsWell ∧ Metrics.Counted [] g.hub.metrics g'.hub.metrics)
      ⟨h, fun _ _ => rfl⟩ fun s hs => ?_
    have hwell := h s (List.mem_of_getElem? hs)
    have htask : (s.supervise g.hub).2.1.task.activity = s.task.activity := by
      unfold OpenStream.supervise
      split
      · rfl
      · split <;> rfl
      · split <;> rfl
    refine ⟨h.set ?_, Metrics.counted_of_eq (congrArg Hub.metrics (hwell.supervise_hub g.hub))⟩
    unfold StreamTask.EndsWell
    rw [htask]
    exact hwell
  | receive n =>
    show (g.receive n).2.EndsWell ∧ Metrics.Counted [] g.hub.metrics (g.receive n).2.hub.metrics
    unfold Gateway.receive
    cases hs : g.streams[n]? with
    | none => exact ⟨h, fun _ _ => rfl⟩
    | some s => exact ⟨h.set (s := s.receive.2) (h s (List.mem_of_getElem? hs)), fun _ _ => rfl⟩
  | dropStream n =>
    refine ⟨fun s hs => ?_, fun _ _ => rfl⟩
    obtain ⟨i, hi⟩ := List.getElem?_of_mem hs
    have hi : (g.streams.modify n OpenStream.drop)[i]? = some s := hi
    rw [List.getElem?_modify] at hi
    obtain ⟨s', hs', rfl⟩ := Option.map_eq_some_iff.1 hi
    have hwell := h s' (List.mem_of_getElem? hs')
    split
    · exact hwell
    · exact hwell
  | setDraining =>
    refine ⟨h, fun f _ => ?_⟩
    cases f <;> rfl
  | stopLog | stopStats => exact ⟨h, fun _ _ => rfl⟩

/-- A call brings a stream at most, and that of an own service ends well. -/
theorem EndsWell.advance {g : Gateway} (h : g.EndsWell) (now : Instant) (f : InFlight)
    (hown : ∀ handler, f.stage = .granted handler →
      handler.FollowsFeed ∨ ∃ e, handler = .fail e ∧ e.code.isDenial = false) :
    (g.advance now f).2.EndsWell := by
  unfold Gateway.advance
  cases hstage : f.stage with
  | arrived => exact h
  | observed =>
    simp only
    split <;> exact h
  | admitted =>
    simp only
    split <;> exact h
  | decoded req =>
    obtain ⟨metrics, hjudge⟩ := g.judge_snd now.wall f.call req
    simp only [hjudge]
    exact h
  | granted handler =>
    rcases g.beginStream_cases now handler with ⟨e, -, hbegin⟩ | ⟨hanswer, hbegin⟩
    · simp only [hbegin]
      exact h
    · simp only [hbegin]
      intro s hs
      rcases List.mem_append.1 hs with hs | hs
      · exact h s hs
      · obtain rfl := List.mem_singleton.1 hs
        rcases StreamTask.begun_cases (hown handler hstage) now g.hub with hwell | ⟨e, he, -⟩
        · exact hwell
        · exact absurd he (hanswer e)
  | answered r => exact h

/-! ## §2. Calls and what happens to them. -/

/-- A call that came, with its visits so far. -/
structure Attempt where
  call : Call
  body : Bytes
  visits : List Visit := []
  -- How far it has come.
  stage : Stage := .arrived

namespace Attempt

/-- The response, once it is known. -/
def response? (a : Attempt) : Option Response :=
  match a.stage with
  | .answered r => some r
  | _ => none

/-- The ruling on the call, by what it saw. -/
def ruling (p : AccessPolicy) (a : Attempt) : Ruling := .of (sawDraining a.visits) a.body p a.call

/-- The attempt after its call was taken one stage further. -/
def goOn (a : Attempt) (now : Instant) (g : Gateway) : Attempt :=
  let (f, g') := g.advance now { call := a.call, body := a.body, stage := a.stage }
  { a with visits := a.visits ++ [⟨now, g, a.stage, g'⟩], stage := f.stage }

theorem response?_eq_some_iff {a : Attempt} {r : Response} : a.response? = some r ↔ a.stage = .answered r := by
  unfold response?
  cases a.stage <;> simp

end Attempt

/-- A gateway and the calls that came to it, in order. -/
structure Docket where
  gateway : Gateway
  attempts : List Attempt := []

namespace Docket

/-- What can happen. -/
inductive Action where
  -- A call comes.
  | comes (call : Call) (body : Bytes)
  -- The call at a place is taken one stage further.
  | goesOn (i : Nat) (now : Instant)
  | works (w : Work)

/-- The docket after the call at a place was taken one stage further. -/
def advance (d : Docket) (i : Nat) (now : Instant) (a : Attempt) : Docket where
  gateway := (d.gateway.advance now { call := a.call, body := a.body, stage := a.stage }).2
  attempts := d.attempts.set i (a.goOn now d.gateway)

/-- The docket after an action.  A call that is answered goes no further. -/
def next (d : Docket) : Action → Docket
  | .comes call body => { d with attempts := d.attempts ++ [{ call, body }] }
  | .goesOn i now =>
    match d.attempts[i]? with
    | none => d
    | some a => if a.response?.isSome then d else d.advance i now a
  | .works w => { d with gateway := d.gateway.work w }

/-- A call goes on where there is one that is not answered. -/
theorem next_goesOn_cases (d : Docket) (i : Nat) (now : Instant) : d.next (.goesOn i now) = d
    ∨ ∃ a, d.attempts[i]? = some a ∧ a.response? = none ∧ d.next (.goesOn i now) = d.advance i now a := by
  show (match d.attempts[i]? with
      | none => d
      | some a => if a.response?.isSome then d else d.advance i now a) = d
    ∨ ∃ a, d.attempts[i]? = some a ∧ a.response? = none ∧ (match d.attempts[i]? with
      | none => d
      | some a => if a.response?.isSome then d else d.advance i now a) = d.advance i now a
  cases d.attempts[i]? with
  | none => exact .inl rfl
  | some a =>
    cases hresponse : a.response? with
    | some r => exact .inl (by simp [hresponse])
    | none => exact .inr ⟨a, rfl, hresponse, by simp [hresponse]⟩

/-- The docket after some actions. -/
def run (d : Docket) (actions : List Action) : Docket := actions.foldl next d

/-! ## §3. What a docket keeps. -/

/-- The sum after one of the summands has grown. -/
theorem sum_map_set {α : Type} (φ : α → UInt64) {xs : List α} {i : Nat} {a : α} (a' : α) {n : UInt64}
    (h : xs[i]? = some a) (hn : φ a' = φ a + n) : ((xs.set i a').map φ).sum = (xs.map φ).sum + n := by
  induction xs generalizing i with
  | nil => cases h
  | cons x xs ih =>
    cases i with
    | zero =>
      obtain rfl : x = a := Option.some.inj h
      rw [List.set_cons_zero, List.map_cons, List.sum_cons, List.map_cons, List.sum_cons, hn, UInt64.add_assoc,
        UInt64.add_comm n, ← UInt64.add_assoc]
    | succ i =>
      rw [List.set_cons_succ, List.map_cons, List.sum_cons, List.map_cons, List.sum_cons, ih h, UInt64.add_assoc]

/-- A docket that was begun with a gateway keeps its setup; each of its calls
is on a journey; handlers end well; and every counter shows what the visits of
the calls have added to it. -/
structure Kept (g₀ : Gateway) (d : Docket) : Prop where
  setup : SameSetup g₀ d.gateway
  journeys : ∀ a ∈ d.attempts, ∃ g, SameSetup g₀ g ∧ Journey g a.call a.body a.visits a.stage d.gateway
  endsWell : d.gateway.EndsWell
  books : ∀ (ρ : Meter) f, f ≠ .droppedDeliveries →
    ρ.read (d.gateway.hub.metrics.counter f) = (d.attempts.map fun a => gains ρ f a.visits).sum

/-- A docket begins with a gateway that has no streams and has counted
nothing. -/
theorem kept_start {g₀ : Gateway} (hstreams : g₀.streams = []) (hmetrics : g₀.hub.metrics = {}) :
    Kept g₀ { gateway := g₀ } where
  setup := ⟨rfl, rfl, rfl⟩
  journeys a ha := nomatch ha
  endsWell s hs := by
    rw [hstreams] at hs
    cases hs
  books ρ f _ := by
    show ρ.read (g₀.hub.metrics.counter f) = 0
    rw [hmetrics]
    cases f <;> exact ρ.read_empty

section Kept

variable {g₀ : Gateway} {d : Docket}

/-- Nothing has happened to a call that comes. -/
theorem Kept.comes (h : Kept g₀ d) (call : Call) (body : Bytes) : Kept g₀ (d.next (.comes call body)) where
  setup := h.setup
  journeys a ha := by
    rcases List.mem_append.1 ha with ha | ha
    · exact h.journeys a ha
    · obtain rfl := List.mem_singleton.1 ha
      exact ⟨d.gateway, h.setup, .comes⟩
  endsWell := h.endsWell
  books ρ f hf := by
    show _ = ((d.attempts ++ [({ call, body } : Attempt)]).map fun a => gains ρ f a.visits).sum
    rw [List.map_append, List.sum_append, ← h.books ρ f hf]
    exact (UInt64.add_zero _).symm

theorem Kept.works (h : Kept g₀ d) (w : Work) : Kept g₀ (d.next (.works w)) where
  setup := h.setup.trans (Reachable.setup (d.gateway.reachable_work w))
  journeys a ha := by
    obtain ⟨g, hsetup, hjourney⟩ := h.journeys a ha
    exact ⟨g, hsetup, hjourney.waits_for (d.gateway.reachable_work w)⟩
  endsWell := (h.endsWell.work w).1
  books ρ f hf := by
    show ρ.read ((d.gateway.work w).hub.metrics.counter f) = _
    rw [(h.endsWell.work w).2 f hf]
    exact h.books ρ f hf

/-- One call goes on, and the others wait meanwhile. -/
theorem Kept.advance (h : Kept g₀ d) (hown : ∀ call, (g₀.routeOf call).service.IsOwn) {i : Nat} {a : Attempt}
    (hi : d.attempts[i]? = some a) (hgoing : a.response? = none) (now : Instant) :
    Kept g₀ (d.advance i now a) := by
  obtain ⟨g, hsetup, hjourney⟩ := h.journeys a (List.mem_of_getElem? hi)
  have hstage : ∀ r, a.stage ≠ .answered r := by
    intro r hr
    rw [Attempt.response?_eq_some_iff.2 hr] at hgoing
    cases hgoing
  have hstep : d.gateway.Step (d.gateway.advance now { call := a.call, body := a.body, stage := a.stage }).2 :=
    .call now _
  refine ⟨h.setup.trans hstep.setup, fun a' ha' => ?_, ?_, fun ρ f hf => ?_⟩
  · rcases List.mem_or_eq_of_mem_set ha' with ha' | rfl
    · obtain ⟨g', hsetup', hjourney'⟩ := h.journeys a' ha'
      exact ⟨g', hsetup', hjourney'.waits hstep⟩
    · exact ⟨g, hsetup, hjourney.goesOn now hstage⟩
  · refine h.endsWell.advance now _ fun handler hhandler => ?_
    have hhandler : a.stage = .granted handler := hhandler
    rw [hhandler] at hjourney
    obtain ⟨req, -, rfl, -⟩ := hjourney.course.1.of_granted
    rw [hsetup.routeOf]
    exact (hown a.call).stream a.call req
  · -- the counter has grown by what this visit adds
    have hgrown := sum_map_set (fun a => gains ρ f a.visits) (a.goOn now d.gateway) hi (gains_concat ρ f a.visits _)
    refine Eq.trans ?_ hgrown.symm
    rw [← h.books ρ f hf, UInt64.add_comm]
    exact (UInt64.sub_add_cancel ..).symm

/-- **Whatever happens next, the docket is kept.** -/
theorem Kept.next (h : Kept g₀ d) (hown : ∀ call, (g₀.routeOf call).service.IsOwn) (action : Action) :
    Kept g₀ (d.next action) := by
  cases action with
  | comes call body => exact h.comes call body
  | works w => exact h.works w
  | goesOn i now =>
    rcases d.next_goesOn_cases i now with heq | ⟨a, hi, hgoing, heq⟩
    · rw [heq]
      exact h
    · rw [heq]
      exact h.advance hown hi hgoing now

/-- **A docket is kept throughout any run.** -/
theorem Kept.run (h : Kept g₀ d) (hown : ∀ call, (g₀.routeOf call).service.IsOwn) (actions : List Action) :
    Kept g₀ (d.run actions) := by
  induction actions generalizing d with
  | nil => exact h
  | cons action actions ih => exact ih (h.next hown action)

end Kept

end Docket

end Gateway

end CallGateway
