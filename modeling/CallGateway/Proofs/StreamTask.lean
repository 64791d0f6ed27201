/-
  CallGateway.Proofs.StreamTask
  ─────────────────────────────
  **WHAT A HANDLER DOES WITH THE FEEDS.**

  A handler touches the hub in six ways: there are two feeds, and it
  subscribes to one, takes from it, or gives its subscription up (`Hub.Use`).
  All that it does, from its beginning on, is made of these (`uses_step`,
  `uses_begun`).  So what each of them keeps, a handler at work keeps.
-/
import CallGateway.Gateway
import Mathlib.Logic.Relation

namespace CallGateway

namespace Hub

/-- One use that a handler makes of a feed. -/
inductive Use (hub : Hub) : Hub → Prop where
  | subscribeLog : Use hub { hub with log := hub.log.subscribe.2 }
  | receiveLog (s : Nat) : Use hub { hub with log := (hub.log.receive s).2 }
  | dropLog (s : Nat) : Use hub { hub with log := hub.log.drop s }
  | subscribeStats (now period : Nat) : Use hub { hub with stats := (hub.stats.subscribe now period).2 }
  | turnStats (tickFirst : Bool) (s now : Nat) : Use hub { hub with stats := (hub.stats.turn tickFirst s now).2 }
  | dropStats (s : Nat) : Use hub { hub with stats := hub.stats.drop s }

/-- Any number of uses. -/
abbrev Uses : Hub → Hub → Prop := Relation.ReflTransGen Use

/-- A subscriber waits for its report in turns. -/
theorem uses_poll (choices : List Bool) (s now : Nat) (hub : Hub) :
    hub.Uses { hub with stats := (hub.stats.poll choices s now).2 } := by
  have hgo : ∀ (fuel : Nat) (choices : List Bool) (hub : Hub),
      hub.Uses { hub with stats := (StatsFeed.poll.go s now fuel choices hub.stats).2 } := by
    intro fuel
    induction fuel with
    | zero => exact fun _ _ => .refl
    | succ fuel ih =>
      intro choices hub
      have hturn : hub.Use { hub with stats := (hub.stats.turn (choices.head?.getD false) s now).2 } :=
        .turnStats _ s now
      unfold StatsFeed.poll.go
      rcases heq : hub.stats.turn (choices.head?.getD false) s now with ⟨_ | p, stats⟩
      · rw [heq] at hturn
        exact .head hturn (ih choices.tail { hub with stats })
      · rw [heq] at hturn
        exact .single hturn
  exact hgo _ choices hub

end Hub

namespace StreamTask

theorem uses_leave (t : StreamTask) (hub : Hub) : hub.Uses (t.leave hub).2 := by
  unfold leave
  cases t.activity with
  | followingLog s inHand => exact .single (.dropLog s)
  | followingStats s inHand => exact .single (.dropStats s)
  | _ => exact .refl

theorem uses_hand (frame : Bytes) (next : Activity) (t : StreamTask) (hub : Hub) :
    hub.Uses (t.hand frame next hub).2.2 := by
  unfold hand
  split
  · exact .refl
  · exact .refl
  · exact t.uses_leave hub

/-- **One step of a handler.**  It takes what its feed has for it, or goes. -/
theorem uses_step (heedPeer : Bool) (now : Instant) (t : StreamTask) (hub : Hub) :
    hub.Uses (t.step heedPeer now hub).2.2 := by
  unfold step
  cases t.activity with
  | performing actions ending =>
    cases actions with
    | nil => exact .refl
    | cons action rest =>
      cases action with
      | accept => exact .refl
      | send msg =>
        simp only
        split
        · exact .refl
        · split <;> exact .refl
  | followingLog s inHand =>
    cases inHand with
    | some frame => exact t.uses_hand frame _ hub
    | none =>
      have hreceive : hub.Uses { hub with log := (hub.log.receive s).2 } := .single (.receiveLog s)
      simp only
      split
      · exact t.uses_leave hub
      · rcases hfound : hub.log.receive s with ⟨_ | _ | _, log⟩
        · rw [hfound] at hreceive
          exact hreceive
        · rw [hfound] at hreceive
          simp only
          split
          · exact t.uses_leave hub
          · exact hreceive
        · rw [hfound] at hreceive
          exact hreceive.trans (t.uses_leave _)
  | followingStats s inHand =>
    cases inHand with
    | some frame => exact t.uses_hand frame _ hub
    | none =>
      have hpoll := hub.uses_poll [] s now.ms
      simp only
      split
      · exact t.uses_leave hub
      · rcases hfound : hub.stats.poll [] s now.ms with ⟨_ | _ | _, stats⟩
        · rw [hfound] at hpoll
          exact hpoll
        · rw [hfound] at hpoll
          simp only
          split
          · exact hpoll.trans (t.uses_leave _)
          · exact hpoll
        · rw [hfound] at hpoll
          exact hpoll.trans (t.uses_leave _)
  | ended result => exact .refl
  | brokenOff => exact .refl

/-- What each step keeps is kept while a handler works. -/
theorem run_induction {P : StreamTask → Hub → Prop} (now : Instant)
    (hstep : ∀ t hub, P t hub → P (t.step true now hub).2.1 (t.step true now hub).2.2) {t : StreamTask} {hub : Hub}
    (h : P t hub) : P (t.run now hub).1 (t.run now hub).2 := by
  have hgo : ∀ (fuel : Nat) (t : StreamTask) (hub : Hub), P t hub →
      P (run.go now fuel t hub).1 (run.go now fuel t hub).2 := by
    intro fuel
    induction fuel with
    | zero => exact fun _ _ h => h
    | succ fuel ih =>
      intro t hub h
      have hnext := hstep t hub h
      unfold run.go
      rcases heq : t.step true now hub with ⟨_ | _, t', hub'⟩
      · rw [heq] at hnext
        exact hnext
      · rw [heq] at hnext
        exact ih t' hub' hnext
  exact hgo _ t hub h

theorem uses_run (now : Instant) (t : StreamTask) (hub : Hub) : hub.Uses (t.run now hub).2 :=
  run_induction (P := fun _ hub' => hub.Uses hub') now (fun t hub' h => h.trans (t.uses_step true now hub')) .refl

theorem uses_start (handler : Handler) (capacity : Nat) (now : Instant) (hub : Hub) :
    hub.Uses (start handler capacity now hub).2 := by
  unfold start
  cases handler with
  | perform actions ending => exact .refl
  | followLog =>
    have hsubscribe : hub.Use { hub with log := hub.log.subscribe.2 } := .subscribeLog
    rcases hadmission : hub.log.subscribe with ⟨_ | _ | _, log⟩ <;>
    · rw [hadmission] at hsubscribe
      exact .single hsubscribe
  | followStats seconds =>
    have hsubscribe : hub.Use { hub with stats := (hub.stats.subscribe now.ms (seconds * 1000)).2 } :=
      .subscribeStats _ _
    rcases hadmission : hub.stats.subscribe now.ms (seconds * 1000) with ⟨_ | _ | _, stats⟩ <;>
    · rw [hadmission] at hsubscribe
      simp only [hadmission]
      exact .single hsubscribe

/-- A handler begins, and works until it waits or ends. -/
def begun (now : Instant) (hub : Hub) (handler : Handler) : StreamTask × Hub :=
  (start handler Gateway.frameBuffer now hub).1.run now (start handler Gateway.frameBuffer now hub).2

theorem uses_begun (now : Instant) (hub : Hub) (handler : Handler) : hub.Uses (begun now hub handler).2 :=
  (uses_start handler _ now hub).trans (uses_run now _ _)

end StreamTask

end CallGateway
