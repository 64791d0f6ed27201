/-
  CallGateway.Proofs.Gateway.Likeness
  ───────────────────────────────────
  **GATEWAYS THAT DIFFER IN DETAILS ONLY.**

  Two services are alike if they do the same, but for the details of internal
  failures: where one comes out with an internal failure, be it of a unary call,
  of a stream that is not accepted yet or of one that is, so does the other.  The
  same is said of handlers at work and of streams, and gateways of which it holds
  in all their parts are twins.  Handlers that are alike take the same steps
  (`StreamTask.Alike.step`), and what is reported of them when they fail is the
  same (`OpenStream.Alike.supervise`).
-/
import CallGateway.Proofs.Failure
import CallGateway.Proofs.StreamTask

namespace CallGateway

/-! ## §1. Lists of what is alike. -/

section
variable {α β : Type} {R : α → β → Prop} {xs : List α} {ys : List β}

theorem optionRel_cases {o : Option α} {o' : Option β} (h : Option.Rel R o o') :
    o = none ∧ o' = none ∨ ∃ x y, o = some x ∧ o' = some y ∧ R x y := by
  cases h with
  | none => exact .inl ⟨rfl, rfl⟩
  | some hxy => exact .inr ⟨_, _, rfl, rfl, hxy⟩

theorem forall₂_getElem? (h : List.Forall₂ R xs ys) (n : Nat) : Option.Rel R xs[n]? ys[n]? := by
  induction h generalizing n with
  | nil => exact .none
  | cons hxy _ ih =>
    cases n with
    | zero => exact .some hxy
    | succ n => exact ih n

theorem forall₂_set (h : List.Forall₂ R xs ys) {x : α} {y : β} (hxy : R x y) (n : Nat) :
    List.Forall₂ R (xs.set n x) (ys.set n y) := by
  induction h generalizing n with
  | nil => exact .nil
  | cons hhead htail ih =>
    cases n with
    | zero => exact .cons hxy htail
    | succ n => exact .cons hhead (ih n)

theorem forall₂_modify (h : List.Forall₂ R xs ys) {f : α → α} {f' : β → β} (hf : ∀ {x y}, R x y → R (f x) (f' y))
    (n : Nat) : List.Forall₂ R (xs.modify n f) (ys.modify n f') := by
  induction h generalizing n with
  | nil =>
    rw [List.modify_nil, List.modify_nil]
    exact .nil
  | cons hhead htail ih =>
    cases n with
    | zero => exact .cons (hf hhead) htail
    | succ n => exact .cons hhead (ih n)

/-- Where nothing is seen of the difference, the same is seen. -/
theorem map_eq_of_forall₂ {γ : Type} (h : List.Forall₂ R xs ys) {f : α → γ} {f' : β → γ}
    (hf : ∀ {x y}, R x y → f' y = f x) : ys.map f' = xs.map f := by
  have hsame : List.Forall₂ Eq (xs.map f) (ys.map f') := by
    rw [List.forall₂_map_left_iff, List.forall₂_map_right_iff]
    exact h.imp fun _ _ hxy => (hf hxy).symm
  rw [List.forall₂_eq_eq_eq] at hsame
  exact hsame.symm

theorem forall₂_concat (h : List.Forall₂ R xs ys) {x : α} {y : β} (hxy : R x y) :
    List.Forall₂ R (xs ++ [x]) (ys ++ [y]) :=
  List.rel_append h (.cons hxy .nil)

end

/-! ## §2. Alike up to details. -/

namespace Outcome

/-- Two outcomes differ at most in the detail of an internal failure. -/
inductive Alike {α : Type} : Outcome α → Outcome α → Prop where
  | ok (a : α) : Alike (.ok a) (.ok a)
  | error {e e' : Failure} : e.Alike e' → Alike (.error e) (.error e')

theorem Alike.refl {α : Type} (r : Outcome α) : Alike r r := by
  cases r with
  | ok a => exact .ok a
  | error e => exact .error (.same e)

theorem Alike.cases {α : Type} {r r' : Outcome α} (h : Alike r r') :
    (∃ a, r = .ok a ∧ r' = .ok a) ∨ ∃ e e', r = .error e ∧ r' = .error e' ∧ e.Alike e' := by
  cases h with
  | ok a => exact .inl ⟨a, rfl, rfl⟩
  | error he => exact .inr ⟨_, _, rfl, rfl, he⟩

end Outcome

/-- Two handlers do the same, and come out alike. -/
inductive Handler.Alike : Handler → Handler → Prop where
  | perform (actions : List Action) {ending ending' : Outcome Unit} :
      Outcome.Alike ending ending' → Alike (.perform actions ending) (.perform actions ending')
  | same (handler : Handler) : Alike handler handler

/-- Two services offer the same and answer alike. -/
structure Service.Alike (s s' : Service) : Prop where
  name : s'.name = s.name
  methods : s'.methods = s.methods
  unary : ∀ call req, Outcome.Alike (s.unary call req) (s'.unary call req)
  stream : ∀ call req, (s.stream call req).Alike (s'.stream call req)

theorem Service.Alike.refl (s : Service) : s.Alike s :=
  ⟨rfl, rfl, fun _ _ => .refl _, fun _ _ => .same _⟩

structure Route.Alike (r r' : Route) : Prop where
  kind : r'.kind = r.kind
  service : r.service.Alike r'.service

/-- Every method leads to services that are alike. -/
def Routes.Alike (r r' : Routes) : Prop := ∀ method, Option.Rel Route.Alike (r.resolve? method) (r'.resolve? method)

/-- Two handlers at work do the same, and come out alike. -/
inductive Activity.Alike : Activity → Activity → Prop where
  | performing (actions : List Action) {ending ending' : Outcome Unit} :
      Outcome.Alike ending ending' → Alike (.performing actions ending) (.performing actions ending')
  | ended {r r' : Outcome Unit} : Outcome.Alike r r' → Alike (.ended r) (.ended r')
  | same (activity : Activity) : Alike activity activity

structure StreamTask.Alike (t t' : StreamTask) : Prop where
  activity : t.activity.Alike t'.activity
  stream : t'.stream = t.stream

/-- Two streams look alike, and the line that is reported is the same. -/
structure OpenStream.Alike (s s' : OpenStream) : Prop where
  task : s.task.Alike s'.task
  supervision : s'.supervision = s.supervision

/-- Two calls have come equally far. -/
inductive Gateway.Stage.Alike : Stage → Stage → Prop where
  | granted {handler handler' : Handler} : handler.Alike handler' → Alike (.granted handler) (.granted handler')
  | same (stage : Stage) : Alike stage stage

/-- Two gateways are twins if they are set up with services that are alike, and the
same has become of them. -/
structure Gateway.Twins (g g' : Gateway) : Prop where
  config : g'.config = g.config
  policy : g'.policy = g.policy
  hub : g'.hub = g.hub
  routes : g.routes.Alike g'.routes
  streams : List.Forall₂ OpenStream.Alike g.streams g'.streams

/-! ## §3. Handlers at work. -/

namespace StreamTask

/-- Two steps come to the same. -/
structure Moves (r r' : Bool × StreamTask × Hub) : Prop where
  moved : r'.1 = r.1
  task : r.2.1.Alike r'.2.1
  hub : r'.2.2 = r.2.2

theorem Moves.of_activity {moved : Bool} {activity activity' : Activity} (h : activity.Alike activity')
    (stream : FrameStream) (hub : Hub) : Moves (moved, ⟨activity, stream⟩, hub) (moved, ⟨activity', stream⟩, hub) :=
  ⟨rfl, ⟨h, rfl⟩, rfl⟩

section
variable {t t' : StreamTask} (now : Instant)

/-- **Handlers that are alike take the same step.** -/
theorem Alike.step (h : t.Alike t') (heedPeer : Bool) (hub : Hub) :
    Moves (t.step heedPeer now hub) (t'.step heedPeer now hub) := by
  obtain ⟨activity, stream⟩ := t
  obtain ⟨activity', stream'⟩ := t'
  obtain ⟨hactivity, rfl⟩ := h
  cases hactivity with
  | same => exact ⟨rfl, ⟨.same _, rfl⟩, rfl⟩
  | ended hresult => exact .of_activity (.ended hresult) stream' hub
  | performing actions hending =>
    cases actions with
    | nil => exact .of_activity (.ended hending) stream' hub
    | cons action rest =>
      cases action with
      | accept => exact .of_activity (.performing rest hending) stream'.accept hub
      | send msg =>
        unfold StreamTask.step
        simp only
        cases stream'.isAccepted with
        | false => exact .of_activity (.performing (.send msg :: rest) hending) stream'.accept hub
        | true =>
          rcases stream'.send msg with ⟨_ | _ | e, sent⟩
          · exact .of_activity (.performing rest hending) sent hub
          · exact .of_activity (.performing (.send msg :: rest) hending) stream' hub
          · exact .of_activity (.same _) sent hub

theorem Alike.stepsLeft (h : t.Alike t') (hub : Hub) : t'.stepsLeft hub = t.stepsLeft hub := by
  obtain ⟨activity, stream⟩ := t
  obtain ⟨activity', stream'⟩ := t'
  obtain ⟨hactivity, rfl⟩ := h
  cases hactivity with
  | same | ended hresult | performing actions hending => rfl

theorem Alike.go (fuel : Nat) : ∀ {t t' : StreamTask} (hub : Hub), t.Alike t' →
    (run.go now fuel t hub).1.Alike (run.go now fuel t' hub).1
      ∧ (run.go now fuel t' hub).2 = (run.go now fuel t hub).2 := by
  induction fuel with
  | zero => exact fun _ h => ⟨h, rfl⟩
  | succ fuel ih =>
    intro t t' hub h
    have hmoves := h.step now true hub
    unfold run.go
    generalize t.step true now hub = r, t'.step true now hub = r' at hmoves ⊢
    obtain ⟨moved, u, hub₁⟩ := r
    obtain ⟨moved', u', hub₁'⟩ := r'
    obtain ⟨hmoved, htask, hhub⟩ := hmoves
    obtain rfl : moved' = moved := hmoved
    obtain rfl : hub₁' = hub₁ := hhub
    cases moved' with
    | false => exact ⟨htask, rfl⟩
    | true => exact ih hub₁' htask

/-- Handlers that are alike work until both wait. -/
theorem Alike.run (h : t.Alike t') (hub : Hub) :
    (t.run now hub).1.Alike (t'.run now hub).1 ∧ (t'.run now hub).2 = (t.run now hub).2 := by
  have hgo := Alike.go now (t.stepsLeft hub) hub h
  unfold StreamTask.run
  rw [h.stepsLeft hub]
  exact hgo

/-- They come out alike. -/
theorem Alike.outcome? (h : t.Alike t') : Option.Rel Outcome.Alike t.outcome? t'.outcome? := by
  obtain ⟨activity, stream⟩ := t
  obtain ⟨activity', stream'⟩ := t'
  obtain ⟨hactivity, rfl⟩ := h
  cases hactivity with
  | ended hresult => exact .some hresult
  | performing actions hending => exact .none
  | same =>
    cases activity with
    | ended r => exact .some (.refl r)
    | brokenOff => exact .some (.refl _)
    | performing actions ending => exact .none
    | followingLog subscriber inHand => exact .none
    | followingStats subscriber inHand => exact .none

/-- And so their calls are answered alike: both fail, or none does. -/
theorem Alike.answer?_cases (h : t.Alike t') :
    (∃ e e', e.Alike e' ∧ t.answer? = some (.error e) ∧ t'.answer? = some (.error e'))
      ∨ (∀ e, t.answer? ≠ some (.error e)) ∧ ∀ e, t'.answer? ≠ some (.error e) := by
  have hanswer : Option.Rel Outcome.Alike t.answer? t'.answer? := by
    unfold StreamTask.answer?
    rw [h.stream]
    cases t.stream.isAccepted with
    | true => exact .some (.ok ())
    | false => exact h.outcome?
  obtain ⟨ht, ht'⟩ | ⟨r, r', ht, ht', hr⟩ := optionRel_cases hanswer
  · rw [ht, ht']
    exact .inr ⟨nofun, nofun⟩
  · rw [ht, ht']
    obtain ⟨a, rfl, rfl⟩ | ⟨e, e', rfl, rfl, he⟩ := hr.cases
    · exact .inr ⟨nofun, nofun⟩
    · exact .inl ⟨e, e', he, rfl, rfl⟩

end

/-- Handlers that are alike begin alike. -/
theorem alike_begun {handler handler' : Handler} (h : handler.Alike handler') (now : Instant) (hub : Hub) :
    (begun now hub handler).1.Alike (begun now hub handler').1
      ∧ (begun now hub handler').2 = (begun now hub handler).2 := by
  unfold begun
  cases h with
  | same => exact ⟨⟨.same _, rfl⟩, rfl⟩
  | @perform actions ending ending' hending =>
    have htask : Alike ⟨.performing actions ending, .start Gateway.frameBuffer⟩
        ⟨.performing actions ending', .start Gateway.frameBuffer⟩ := ⟨.performing actions hending, rfl⟩
    exact htask.run now hub

end StreamTask

/-! ## §4. Streams that are being answered. -/

namespace OpenStream

variable {s s' : OpenStream}

/-- **What is reported of a failure is the same**, and it is counted under the
same code. -/
theorem Alike.supervise (h : s.Alike s') (hub : Hub) : (s'.supervise hub).1 = (s.supervise hub).1
    ∧ (s.supervise hub).2.1.Alike (s'.supervise hub).2.1 ∧ (s'.supervise hub).2.2 = (s.supervise hub).2.2 := by
  obtain ⟨htask, hsupervision⟩ := h
  unfold OpenStream.supervise
  rw [hsupervision]
  cases hwatching : s.supervision with
  | finished => exact ⟨rfl, ⟨htask, hsupervision⟩, rfl⟩
  | watching =>
    obtain ⟨ho, ho'⟩ | ⟨r, r', ho, ho', hr⟩ := optionRel_cases htask.outcome?
    · rw [ho, ho']
      exact ⟨rfl, ⟨htask, hsupervision⟩, rfl⟩
    · rw [ho, ho']
      obtain ⟨a, rfl, rfl⟩ | ⟨e, e', rfl, rfl, he⟩ := hr.cases
      · exact ⟨rfl, ⟨htask, rfl⟩, rfl⟩
      · dsimp only
        rw [he.errorFrame_eq, he.code_eq]
        exact ⟨rfl, ⟨htask, rfl⟩, rfl⟩
  | reporting line =>
    dsimp only
    rw [htask.stream]
    rcases s.task.stream.push line with ⟨_ | _ | e, stream⟩
    · exact ⟨rfl, ⟨⟨htask.activity, rfl⟩, rfl⟩, rfl⟩
    · exact ⟨rfl, ⟨htask, hsupervision⟩, rfl⟩
    · exact ⟨rfl, ⟨⟨htask.activity, rfl⟩, rfl⟩, rfl⟩

/-- The caller finds the same. -/
theorem Alike.receive (h : s.Alike s') : s'.receive.1 = s.receive.1 ∧ s.receive.2.Alike s'.receive.2 := by
  have hsending : s'.isSending = s.isSending := by
    unfold isSending
    rw [h.supervision]
  unfold OpenStream.receive
  rw [h.task.stream, hsending]
  exact ⟨rfl, ⟨h.task.activity, rfl⟩, h.supervision⟩

theorem Alike.drop (h : s.Alike s') : s.drop.Alike s'.drop :=
  ⟨⟨h.task.activity, congrArg FrameStream.drop h.task.stream⟩, h.supervision⟩

end OpenStream

end CallGateway
