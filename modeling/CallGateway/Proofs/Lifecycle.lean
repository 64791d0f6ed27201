/-
  CallGateway.Proofs.Lifecycle
  ────────────────────────────
  **EVERY COURSE ENDS THE SAME WAY.**

  The signal, the end of the listener, the end of draining and the end of the
  time come in any order, so there are several ways from listening to stopped.
  What the supervisor is doing says which of them have come (`Watch.Fits`), and
  which phases have been announced (`Watch.phases`); every event keeps it so
  (`Sound.step`).  Therefore the phases depend on nothing but which events there
  were (`Watch.Fits.phases_eq`).
-/
import CallGateway.Lifecycle
import Mathlib.Tactic.ByContra

namespace CallGateway

/-! ## §1. What the supervisor is doing. -/

/-- The phases that some events lead to, in whichever order they came. -/
def Lifecycle.phasesAfter (es : List LifecycleEvent) : List Phase :=
  if .signal ∈ es ∨ .listenerEnds ∈ es then
    if .drained ∈ es ∧ .listenerEnds ∈ es then [.listening, .draining, .stopped] else [.listening, .draining]
  else [.listening]

/-- More events lead to more phases. -/
theorem Lifecycle.phasesAfter_prefix {es es' : List LifecycleEvent} (h : es <+: es') :
    phasesAfter es <+: phasesAfter es' := by
  have hbegun : .signal ∈ es ∨ .listenerEnds ∈ es → .signal ∈ es' ∨ .listenerEnds ∈ es' :=
    Or.imp (fun hmem => h.subset hmem) fun hmem => h.subset hmem
  have hover : .drained ∈ es ∧ .listenerEnds ∈ es → .drained ∈ es' ∧ .listenerEnds ∈ es' :=
    And.imp (fun hmem => h.subset hmem) fun hmem => h.subset hmem
  unfold phasesAfter
  by_cases hyes : .signal ∈ es ∨ .listenerEnds ∈ es
  · rw [if_pos hyes, if_pos (hbegun hyes)]
    by_cases hyes' : .drained ∈ es ∧ .listenerEnds ∈ es
    · simp only [if_pos hyes', if_pos (hover hyes'), List.prefix_refl]
    · rw [if_neg hyes']
      split
      · exact ⟨[.stopped], rfl⟩
      · exact List.prefix_refl _
  · rw [if_neg hyes]
    split
    · split
      · exact ⟨[.draining, .stopped], rfl⟩
      · exact ⟨[.draining], rfl⟩
    · exact List.prefix_refl _

/-- There are no other phases. -/
theorem Lifecycle.phasesAfter_prefix_all (es : List LifecycleEvent) :
    phasesAfter es <+: [.listening, .draining, .stopped] := by
  unfold phasesAfter
  split
  · split
    · exact List.prefix_refl _
    · exact ⟨[.stopped], rfl⟩
  · exact ⟨[.draining, .stopped], rfl⟩

namespace Watch

/-- The gateway is being drained. -/
def IsDraining (w : Watch) : Prop := w = .drainingOnSignal ∨ w = .drainingOnExit

instance : DecidablePred IsDraining := fun w =>
  inferInstanceAs (Decidable (w = .drainingOnSignal ∨ w = .drainingOnExit))

/-- The supervisor waits for the end of the listener. -/
def AwaitsListener (w : Watch) : Prop := w = .watching ∨ w = .waiting ∨ w = .aborting

/-- The phases that were announced before. -/
def phases : Watch → List Phase
  | .watching => [.listening]
  | .drainingOnSignal | .drainingOnExit | .waiting | .aborting => [.listening, .draining]
  | .done => [.listening, .draining, .stopped]

/-- Which events have come before. -/
def Fits (es : List LifecycleEvent) : Watch → Prop
  | .watching => .signal ∉ es ∧ .listenerEnds ∉ es ∧ .drained ∉ es
  | .drainingOnSignal => .signal ∈ es ∧ .drained ∉ es
  | .drainingOnExit => .listenerEnds ∈ es ∧ .drained ∉ es
  | .waiting | .aborting => .signal ∈ es ∧ .drained ∈ es ∧ .listenerEnds ∉ es
  | .done => .drained ∈ es ∧ .listenerEnds ∈ es

section
variable {w : Watch} {es : List LifecycleEvent}

/-- While the gateway is being drained, draining has not ended. -/
theorem Fits.not_drained (h : w.Fits es) (hw : w.IsDraining) : .drained ∉ es := by
  rcases hw with rfl | rfl
  · exact h.2
  · exact h.2

/-- Until draining has ended, the supervisor watches or drains. -/
theorem Fits.isDraining (h : w.Fits es) (hw : w ≠ .watching) (hdrained : .drained ∉ es) : w.IsDraining := by
  cases w with
  | watching => exact absurd rfl hw
  | drainingOnSignal => exact .inl rfl
  | drainingOnExit => exact .inr rfl
  | waiting => exact absurd h.2.1 hdrained
  | aborting => exact absurd h.2.1 hdrained
  | done => exact absurd h.1 hdrained

/-- An event that means nothing to the supervisor. -/
theorem Fits.append (h : w.Fits es) {e : LifecycleEvent} (hsignal : e = .signal → w ≠ .watching)
    (hended : e = .listenerEnds → .listenerEnds ∈ es) (hdrained : e ≠ .drained) : w.Fits (es ++ [e]) := by
  have hkept : ∀ e', e' ∈ es → e' ∈ es ++ [e] := fun e' => List.mem_append_left _
  have hnot : ∀ e', e' ∉ es → e ≠ e' → e' ∉ es ++ [e] := by
    intro e' hnotMem hne hmem
    rcases List.mem_append.1 hmem with hmem | hmem
    · exact hnotMem hmem
    · exact hne (List.mem_singleton.1 hmem).symm
  have hends : .listenerEnds ∉ es → e ≠ .listenerEnds := fun hnotMem heq => hnotMem (hended heq)
  cases w with
  | watching => exact ⟨hnot _ h.1 fun heq => hsignal heq rfl, hnot _ h.2.1 (hends h.2.1), hnot _ h.2.2 hdrained⟩
  | drainingOnSignal => exact ⟨hkept _ h.1, hnot _ h.2 hdrained⟩
  | drainingOnExit => exact ⟨hkept _ h.1, hnot _ h.2 hdrained⟩
  | waiting => exact ⟨hkept _ h.1, hkept _ h.2.1, hnot _ h.2.2 (hends h.2.2)⟩
  | aborting => exact ⟨hkept _ h.1, hkept _ h.2.1, hnot _ h.2.2 (hends h.2.2)⟩
  | done => exact ⟨hkept _ h.1, hkept _ h.2⟩

theorem Fits.done_iff (h : w.Fits es) : w = .done ↔ .drained ∈ es ∧ .listenerEnds ∈ es := by
  cases w with
  | watching => exact iff_of_false nofun fun hboth => h.2.2 hboth.1
  | drainingOnSignal => exact iff_of_false nofun fun hboth => h.2 hboth.1
  | drainingOnExit => exact iff_of_false nofun fun hboth => h.2 hboth.1
  | waiting => exact iff_of_false nofun fun hboth => h.2.2 hboth.2
  | aborting => exact iff_of_false nofun fun hboth => h.2.2 hboth.2
  | done => exact iff_of_true rfl h

/-- **The phases depend on which events there were**, and not on their order. -/
theorem Fits.phases_eq (h : w.Fits es) : w.phases = Lifecycle.phasesAfter es := by
  have hbegun : w ≠ .watching → (LifecycleEvent.signal ∈ es ∨ LifecycleEvent.listenerEnds ∈ es) := by
    intro hw
    cases w with
    | watching => exact absurd rfl hw
    | drainingOnSignal => exact .inl h.1
    | drainingOnExit => exact .inr h.1
    | waiting => exact .inl h.1
    | aborting => exact .inl h.1
    | done => exact .inr h.2
  have hdone := h.done_iff
  unfold Lifecycle.phasesAfter
  cases w with
  | watching => exact (if_neg (not_or.2 ⟨h.1, h.2.1⟩)).symm
  | done => exact ((if_pos (hbegun nofun)).trans (if_pos (hdone.1 rfl))).symm
  | _ => exact ((if_pos (hbegun nofun)).trans (if_neg fun hboth => nomatch hdone.2 hboth)).symm

end

end Watch

namespace Lifecycle

/-! ## §2. One event. -/

/-- A supervisor does what the events so far ask for, and has done what comes
before. -/
structure Sound (l : Lifecycle) (es : List LifecycleEvent) : Prop where
  fits : l.watch.Fits es
  phases : l.phases = l.watch.phases
  ended : l.listenerEnded = true ↔ .listenerEnds ∈ es
  drains : l.drains = if l.watch = .watching then 0 else 1
  -- The end of the listener was taken note of where it set draining off, or where all is over.
  joins : l.joins = if l.watch = .drainingOnExit ∨ l.watch = .done then 1 else 0
  patience : l.impatient = true → l.watch ≠ .waiting

variable {l : Lifecycle} {es : List LifecycleEvent}

theorem sound_start (drainTimeoutMs : Nat) : (start drainTimeoutMs).Sound [] :=
  ⟨⟨nofun, nofun, nofun⟩, rfl, ⟨nofun, nofun⟩, rfl, rfl, nofun⟩

/-- An event that means nothing at the moment. -/
theorem Sound.stay (h : l.Sound es) {e : LifecycleEvent} (hfits : l.watch.Fits (es ++ [e]))
    (hended : .listenerEnds ∈ es ++ [e] → .listenerEnds ∈ es) : l.Sound (es ++ [e]) where
  fits := hfits
  phases := h.phases
  ended := h.ended.trans ⟨List.mem_append_left _, hended⟩
  drains := h.drains
  joins := h.joins
  patience := h.patience

theorem Sound.signal (h : l.Sound es) : (l.step .signal).Sound (es ++ [.signal]) := by
  obtain ⟨hfits, hphases, hended, hdrains, hjoins, hpatience⟩ := id h
  unfold step
  cases hw : l.watch with
  | watching =>
    rw [hw] at hfits hphases hdrains hjoins
    exact {
      fits := ⟨by simp, by simpa using hfits.2.2⟩
      phases := by simp [enter, hphases, Watch.phases]
      ended := by simpa [enter] using hended
      drains := by simp [hdrains]
      joins := by simpa [enter] using hjoins
      patience := nofun }
  | _ => exact h.stay (hfits.append (by simp [hw]) nofun nofun) (by simp)

/-- The time is over. -/
theorem Sound.timeout (h : l.Sound es) : (l.step .timeout).Sound (es ++ [.timeout]) := by
  obtain ⟨hfits, hphases, hended, hdrains, hjoins, hpatience⟩ := id h
  unfold step
  cases hw : l.watch with
  | waiting =>
    rw [hw] at hfits hphases hdrains hjoins
    exact {
      fits := by simpa [Watch.Fits] using hfits
      phases := hphases
      ended := by simpa using hended
      drains := hdrains
      joins := hjoins
      patience := nofun }
  | _ => exact h.stay (hfits.append nofun nofun nofun) (by simp)

/-- The end of the listener is taken note of when draining has ended. -/
theorem sound_join (hphases : l.phases = [.listening, .draining]) (hdrains : l.drains = 1) (hjoins : l.joins = 0)
    (hended : l.listenerEnded = true) (hboth : .drained ∈ es ∧ .listenerEnds ∈ es) : l.join.Sound es where
  fits := hboth
  phases := by
    show l.phases ++ [.stopped] = _
    rw [hphases]
    rfl
  ended := iff_of_true hended hboth.2
  drains := hdrains
  joins := by
    show l.joins + 1 = 1
    rw [hjoins]
  patience := nofun

theorem Sound.listenerEnds (h : l.Sound es) : (l.step .listenerEnds).Sound (es ++ [.listenerEnds]) := by
  obtain ⟨hfits, hphases, hended, hdrains, hjoins, hpatience⟩ := id h
  have hends : LifecycleEvent.listenerEnds ∈ es ++ [LifecycleEvent.listenerEnds] := by simp
  unfold step
  by_cases hbefore : l.listenerEnded = true
  · -- a listener ends once
    rw [if_pos hbefore]
    have hes := hended.1 hbefore
    exact h.stay (hfits.append nofun (fun _ => hes) nofun) fun _ => hes
  · rw [if_neg hbefore]
    have hes : LifecycleEvent.listenerEnds ∉ es := fun hes => hbefore (hended.2 hes)
    simp only
    cases hw : l.watch with
    | watching =>
      rw [hw] at hfits hphases hdrains hjoins
      exact {
        fits := ⟨hends, by simpa using hfits.2.2⟩
        phases := by simp [enter, hphases, Watch.phases]
        ended := iff_of_true rfl hends
        drains := by simp [hdrains]
        joins := by simp [hjoins]
        patience := nofun }
    | drainingOnSignal =>
      rw [hw] at hfits hphases hdrains hjoins
      exact {
        fits := ⟨List.mem_append_left _ hfits.1, by simpa using hfits.2⟩
        phases := hphases
        ended := iff_of_true rfl hends
        drains := hdrains
        joins := hjoins
        patience := nofun }
    | drainingOnExit =>
      rw [hw] at hfits
      exact absurd hfits.1 hes
    | waiting =>
      rw [hw] at hfits hphases hdrains hjoins
      exact sound_join hphases hdrains hjoins rfl ⟨List.mem_append_left _ hfits.2.1, hends⟩
    | aborting =>
      rw [hw] at hfits hphases hdrains hjoins
      exact sound_join hphases hdrains hjoins rfl ⟨List.mem_append_left _ hfits.2.1, hends⟩
    | done =>
      rw [hw] at hfits
      exact absurd hfits.2 hes

/-- Draining ends. -/
theorem Sound.drained (h : l.Sound es) (hdraining : l.watch.IsDraining) :
    (l.step .drained).Sound (es ++ [.drained]) := by
  obtain ⟨hfits, hphases, hended, hdrains, hjoins, hpatience⟩ := id h
  have hdone : LifecycleEvent.drained ∈ es ++ [LifecycleEvent.drained] := by simp
  unfold step
  rcases hdraining with hw | hw
  · rw [hw] at hfits hphases hdrains hjoins ⊢
    show (l.await _).Sound _
    unfold await
    by_cases hbefore : l.listenerEnded = true
    · rw [if_pos hbefore]
      exact sound_join hphases hdrains hjoins hbefore ⟨hdone, List.mem_append_left _ (hended.1 hbefore)⟩
    · rw [if_neg hbefore]
      have hes : LifecycleEvent.listenerEnds ∉ es ++ [LifecycleEvent.drained] := by
        simpa using fun hes => hbefore (hended.2 hes)
      have hfits : LifecycleEvent.signal ∈ es ++ [LifecycleEvent.drained] := List.mem_append_left _ hfits.1
      cases l.impatient with
      | true => exact ⟨⟨hfits, hdone, hes⟩, hphases, iff_of_false hbefore hes, hdrains, hjoins, nofun⟩
      | false => exact ⟨⟨hfits, hdone, hes⟩, hphases, iff_of_false hbefore hes, hdrains, hjoins, nofun⟩
  · -- the end of the listener was taken note of before
    rw [hw] at hfits hphases hdrains hjoins ⊢
    exact {
      fits := ⟨hdone, List.mem_append_left _ hfits.1⟩
      phases := by
        show l.phases ++ [.stopped] = _
        rw [hphases]
        rfl
      ended := hended.trans (iff_of_true hfits.1 (List.mem_append_left _ hfits.1))
      drains := hdrains
      joins := hjoins
      patience := nofun }

/-- **Every event keeps it so**, where draining ends only once it has begun. -/
theorem Sound.step (h : l.Sound es) {e : LifecycleEvent} (hdrained : e = .drained → l.watch.IsDraining) :
    (l.step e).Sound (es ++ [e]) := by
  cases e with
  | signal => exact h.signal
  | drained => exact h.drained (hdrained rfl)
  | listenerEnds => exact h.listenerEnds
  | timeout => exact h.timeout

/-! ## §3. What follows. -/

theorem Sound.phases_eq (h : l.Sound es) : l.phases = phasesAfter es := h.phases.trans h.fits.phases_eq

/-- Draining is announced where it begins, and it begins once. -/
theorem Sound.drains_eq (h : l.Sound es) : l.drains = if .draining ∈ l.phases then 1 else 0 := by
  rw [h.drains, h.phases]
  cases l.watch with
  | watching => rfl
  | _ => rfl

theorem Sound.stopped_mem_iff (h : l.Sound es) : .stopped ∈ l.phases ↔ .drained ∈ es ∧ .listenerEnds ∈ es := by
  rw [← h.fits.done_iff, h.phases]
  cases l.watch with
  | done => simp [Watch.phases]
  | _ => simp [Watch.phases]

/-- **The end of the listener is taken note of once**, and then nobody waits for
it. -/
theorem Sound.joined (h : l.Sound es) :
    l.joins ≤ 1 ∧ (l.joins = 1 → l.listenerEnded = true ∧ ¬ l.watch.AwaitsListener) := by
  have hjoins := h.joins
  by_cases hw : l.watch = .drainingOnExit ∨ l.watch = .done
  · rw [if_pos hw] at hjoins
    refine ⟨Nat.le_of_eq hjoins, fun _ => ⟨h.ended.2 ?_, ?_⟩⟩
    · have hfits := h.fits
      rcases hw with hw | hw
      · rw [hw] at hfits
        exact hfits.1
      · rw [hw] at hfits
        exact hfits.2
    · rcases hw with hw | hw
      · rw [hw]
        rintro (⟨⟨⟩⟩ | ⟨⟨⟩⟩ | ⟨⟨⟩⟩)
      · rw [hw]
        rintro (⟨⟨⟩⟩ | ⟨⟨⟩⟩ | ⟨⟨⟩⟩)
  · rw [if_neg hw] at hjoins
    rw [hjoins]
    exact ⟨Nat.zero_le 1, nofun⟩

/-- Whether the calls in flight get any time is settled at the start. -/
@[simp] theorem impatient_step (l : Lifecycle) (e : LifecycleEvent) : (l.step e).impatient = l.impatient := by
  unfold step
  cases e with
  | signal => cases l.watch <;> rfl
  | drained =>
    cases l.watch with
    | drainingOnSignal =>
      show (l.await _).impatient = _
      unfold await
      split
      · rfl
      · rfl
    | _ => rfl
  | listenerEnds =>
    simp only
    split
    · rfl
    · cases l.watch <;> rfl
  | timeout => cases l.watch <;> rfl

/-- Draining ends only where it has begun. -/
theorem step_drained_of_not (h : ¬ l.watch.IsDraining) : l.step .drained = l := by
  unfold step
  cases hw : l.watch with
  | drainingOnSignal => exact absurd (.inl hw) h
  | drainingOnExit => exact absurd (.inr hw) h
  | _ => rfl

theorem Sound.not_isDraining_drained (h : l.Sound es) (hdraining : l.watch.IsDraining) :
    ¬ (l.step .drained).watch.IsDraining := fun hagain =>
  (h.drained hdraining).fits.not_drained hagain (by simp)

theorem Sound.phase_eq_stopped_iff (h : l.Sound es) :
    l.phase = .stopped ↔ .drained ∈ es ∧ .listenerEnds ∈ es := by
  rw [← h.fits.done_iff, phase, h.phases]
  cases l.watch with
  | done => exact iff_of_true rfl rfl
  | _ => exact iff_of_false nofun nofun

/-- Where an event leaves the gateway being drained, draining has just begun or
goes on. -/
theorem Sound.isDraining_step (h : l.Sound es) {e : LifecycleEvent} (he : e ≠ .drained)
    (hdraining : (l.step e).watch.IsDraining) :
    l.drains < (l.step e).drains ∨ l.watch.IsDraining ∧ ¬ l.drains < (l.step e).drains := by
  have hnext := h.step (e := e) fun heq => absurd heq he
  have hdrains : (l.step e).drains = 1 := by
    rw [hnext.drains, if_neg]
    intro hw
    rw [hw] at hdraining
    exact hdraining.elim nofun nofun
  rw [hdrains, h.drains]
  by_cases hw : l.watch = .watching
  · rw [if_pos hw]
    exact .inl Nat.zero_lt_one
  · rw [if_neg hw]
    refine .inr ⟨h.fits.isDraining hw fun hmem => ?_, Nat.lt_irrefl _⟩
    exact hnext.fits.not_drained hdraining (List.mem_append_left _ hmem)

/-- Draining begins where an event says that it is to be done. -/
theorem Sound.isDraining_of_drains_lt (h : l.Sound es) {e : LifecycleEvent} (he : e ≠ .drained)
    (hlt : l.drains < (l.step e).drains) : (l.step e).watch.IsDraining := by
  have hnext := h.step (e := e) fun heq => absurd heq he
  have hwatching : l.watch = .watching := by
    by_contra hw
    rw [h.drains, hnext.drains, if_neg hw] at hlt
    split at hlt
    · exact Nat.not_lt_zero _ hlt
    · exact Nat.lt_irrefl _ hlt
  refine hnext.fits.isDraining (fun hw => ?_) fun hmem => ?_
  · rw [h.drains, hnext.drains, if_pos hwatching, if_pos hw] at hlt
    exact Nat.lt_irrefl _ hlt
  · have hbefore := h.fits
    rw [hwatching] at hbefore
    rcases List.mem_append.1 hmem with hmem | hmem
    · exact hbefore.2.2 hmem
    · exact he (List.mem_singleton.1 hmem).symm

/-- Whoever waits goes on only when the server has stopped. -/
theorem Sound.of_returned (h : l.Sound es) {w : Waiter} (hreturned : w.step l = .returned) :
    w = .returned ∨ .drained ∈ es ∧ .listenerEnds ∈ es := by
  cases w with
  | looking =>
    right
    rw [← h.phase_eq_stopped_iff]
    by_contra hphase
    rw [Waiter.step, if_neg hphase] at hreturned
    cases hreturned
  | waiting seen =>
    right
    rw [← h.fits.done_iff]
    by_contra hdone
    rw [Waiter.step, if_neg hdone] at hreturned
    split at hreturned
    · cases hreturned
    · cases hreturned
  | returned => exact .inl rfl

/-- Whoever waits looks twice at most when the server has stopped. -/
theorem Sound.returns (h : l.Sound es) (hphase : l.phase = .stopped) (w : Waiter) :
    (w.step l).step l = .returned := by
  have hdone : l.watch = .done := h.fits.done_iff.2 (h.phase_eq_stopped_iff.1 hphase)
  have hlook : Waiter.looking.step l = .returned := if_pos hphase
  cases w with
  | looking =>
    rw [hlook]
    rfl
  | waiting seen =>
    by_cases hseen : l.phases.length ≠ seen
    · rw [show (Waiter.waiting seen).step l = .looking from if_pos hseen, hlook]
    · rw [show (Waiter.waiting seen).step l = .returned from (if_neg hseen).trans (if_pos hdone)]
      rfl
  | returned => rfl

end Lifecycle

end CallGateway
