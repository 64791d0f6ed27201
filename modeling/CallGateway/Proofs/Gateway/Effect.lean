/-
  CallGateway.Proofs.Gateway.Effect
  ─────────────────────────────────
  **WHAT A STEP DOES TO THE HUB.**

  Whatever is decided about a call counts verdicts and failures, or uses the
  feeds as its handler does (`Hub.Deed`).  Besides, a call is observed when it
  comes, the worker hands out records, and a shutdown sets its flag and ends
  the feeds (`Effect`).  There is nothing else (`Step.effect`), so what all of
  these keep, every step keeps.
-/
import CallGateway.Proofs.Gateway.Step

namespace CallGateway

namespace Hub

/-- One thing that is done once a call was observed. -/
inductive Deed (hub : Hub) : Hub → Prop where
  -- Its handler uses a feed.
  | use {hub' : Hub} : hub.Use hub' → Deed hub hub'
  | allow : Deed hub hub.allowed
  | deny (reason : DenyReason) : Deed hub (hub.denied reason)
  | fail (code : Code) : Deed hub (hub.countError code)

/-- Any number of them. -/
abbrev Deeds : Hub → Hub → Prop := Relation.ReflTransGen Deed

theorem Uses.deeds {hub hub' : Hub} (h : hub.Uses hub') : hub.Deeds hub' := by
  induction h with
  | refl => exact .refl
  | tail _ huse ih => exact ih.tail (.use huse)

end Hub

/-- Whoever looks after a handler counts its failure at most. -/
theorem OpenStream.supervise_hub (s : OpenStream) (hub : Hub) : (s.supervise hub).2.2 = hub
    ∨ ∃ e, s.task.outcome? = some (.error e) ∧ (s.supervise hub).2.2 = hub.countError e.code := by
  unfold OpenStream.supervise
  split
  · exact .inl rfl
  · split
    · exact .inl rfl
    · rename_i e houtcome
      exact .inr ⟨e, houtcome, rfl⟩
    · exact .inl rfl
  · split <;> exact .inl rfl

namespace Gateway

theorem deeds_judge (g : Gateway) (wall : Int64) (call : Call) (req : Json.Value) :
    g.hub.Deeds (g.judge wall call req).2.hub := by
  cases hverdict : g.policy.authorize call.consumer call.method.full with
  | deny reason =>
    rw [judge_of_deny g wall req hverdict]
    exact .tail (.single (.deny reason)) (.fail _)
  | allow rule =>
    rw [judge_of_allow g wall req hverdict]
    unfold serveBy
    split
    · split
      · exact .single .allow
      · exact .tail (.single .allow) (.fail _)
    · exact .single .allow

theorem deeds_beginStream (g : Gateway) (now : Instant) (handler : Handler) :
    g.hub.Deeds (g.beginStream now handler).2.hub := by
  have hbegun := Hub.Uses.deeds (StreamTask.uses_begun now g.hub handler)
  rcases g.beginStream_cases now handler with ⟨e, -, hbegin⟩ | ⟨-, hbegin⟩
  · rw [hbegin]
    exact hbegun.tail (.fail _)
  · rw [hbegin]
    exact hbegun

/-- **A call that was observed** only counts verdicts and failures and uses the
feeds. -/
theorem deeds_advance (g : Gateway) (now : Instant) {f : InFlight} (hstage : f.stage ≠ .arrived) :
    g.hub.Deeds (g.advance now f).2.hub := by
  unfold advance
  cases hf : f.stage with
  | arrived => exact absurd hf hstage
  | observed =>
    simp only
    split
    · exact .single (.fail _)
    · exact .refl
  | admitted =>
    simp only
    split
    · exact .refl
    · exact .single (.fail _)
  | decoded req => exact g.deeds_judge now.wall f.call req
  | granted handler => exact g.deeds_beginStream now handler
  | answered r => exact .refl

/-- What a step may leave the hub as. -/
inductive Effect (g : Gateway) : Hub → Prop where
  | decided {hub : Hub} : g.hub.Deeds hub → Effect g hub
  | observed (wall : Int64) (call : Call) :
      Effect g (g.hub.observe (g.routes.contains call.method.full) wall call)
  | dispatched : Effect g g.dispatch.hub
  | draining : Effect g g.hub.setDraining
  | logStopped : Effect g g.hub.stopLog
  | statsStopped : Effect g g.hub.stopStats

/-- **Every step has one of these effects.** -/
theorem Step.effect {g g' : Gateway} (h : g.Step g') : g.Effect g'.hub := by
  cases h with
  | call now f =>
    by_cases hstage : f.stage = .arrived
    · obtain ⟨call, body, stage⟩ := f
      subst hstage
      exact .observed now.wall call
    · exact .decided (g.deeds_advance now hstage)
  | dispatch => exact .dispatched
  | @perform _ s _ heedPeer now => exact .decided (Hub.Uses.deeds (s.task.uses_step heedPeer now g.hub))
  | @supervise n s _ =>
    show g.Effect (s.supervise g.hub).2.2
    rcases s.supervise_hub g.hub with hhub | ⟨e, -, hhub⟩
    · rw [hhub]
      exact .decided .refl
    · rw [hhub]
      exact .decided (.single (.fail _))
  | receive n =>
    unfold Gateway.receive
    split <;> exact .decided .refl
  | dropStream n => exact .decided .refl
  | setDraining => exact .draining
  | stopLog => exact .logStopped
  | stopStats => exact .statsStopped

end Gateway

end CallGateway
