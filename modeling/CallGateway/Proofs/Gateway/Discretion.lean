/-
  CallGateway.Proofs.Gateway.Discretion
  ─────────────────────────────────────
  **WHAT AN INTERNAL FAILURE KEEPS TO ITSELF.**

  Take two gateways that are twins, that is, the same but for the details of
  internal failures.  A call that goes on in both comes to the same
  (`Twins.advance`), and so does all else that can happen (`Twins.work`).  So
  they stay twins whatever happens (`Docket.Alike.run`), and nobody who calls can
  tell one from the other: the responses, the frames and the metrics are the same
  (`internal_details_unobservable`).
-/
import CallGateway.Http
import CallGateway.Proofs.Gateway.Docket
import CallGateway.Proofs.Gateway.Likeness
import CallGateway.Proofs.OpenStream.Conversation

namespace CallGateway

open Json (Value)

/-! ## §1. Gateways. -/

namespace Routes

variable {r r' : Routes}

theorem Alike.contains (h : Alike r r') (method : String) : r'.contains method = r.contains method := by
  unfold Routes.contains
  obtain ⟨hr, hr'⟩ | ⟨route, route', hr, hr', -⟩ := optionRel_cases (h method)
  · rw [hr, hr']
  · rw [hr, hr']
    rfl

/-- Services that are alike may be registered. -/
theorem Alike.register (h : Alike r r') {s s' : Service} (hs : s.Alike s') :
    Alike (r.register s) (r'.register s') := by
  have hinsert : ∀ (methods : List (String × MethodKind)) {r r' : Routes}, Alike r r' →
      Alike (methods.foldl (fun r m => Dict.insert r (fullName s.name m.1) ⟨m.2, s⟩) r)
        (methods.foldl (fun r m => Dict.insert r (fullName s.name m.1) ⟨m.2, s'⟩) r') := by
    intro methods
    induction methods with
    | nil => exact fun h => h
    | cons m methods ih =>
      intro r r' h
      refine ih fun method => ?_
      unfold Routes.resolve?
      rw [Dict.get?_insert, Dict.get?_insert]
      by_cases hname : method = fullName s.name m.1
      · rw [if_pos hname, if_pos hname]
        exact .some ⟨rfl, hs⟩
      · rw [if_neg hname, if_neg hname]
        exact h method
  unfold Routes.register
  rw [hs.methods, hs.name]
  exact hinsert s.methods h

end Routes

namespace Gateway

theorem Twins.refl (g : Gateway) : g.Twins g where
  config := rfl
  policy := rfl
  hub := rfl
  routes method := by
    cases g.routes.resolve? method with
    | none => exact .none
    | some route => exact .some ⟨rfl, .refl _⟩
  streams := List.forall₂_same.2 fun _ _ => ⟨⟨.same _, rfl⟩, rfl⟩

section
variable {g g' : Gateway}

/-- They stay twins where the same becomes of them. -/
theorem Twins.become (h : g.Twins g') (hub : Hub) {streams streams' : List OpenStream}
    (hstreams : List.Forall₂ OpenStream.Alike streams streams') :
    Twins { g with hub, streams } { g' with hub, streams := streams' } :=
  ⟨h.config, h.policy, rfl, h.routes, hstreams⟩

theorem Twins.withHub (h : g.Twins g') (hub : Hub) : Twins { g with hub } { g' with hub } := h.become hub h.streams

theorem Twins.routeOf (h : g.Twins g') (call : Call) : (g.routeOf call).Alike (g'.routeOf call) := by
  unfold Gateway.routeOf
  obtain ⟨hr, hr'⟩ | ⟨route, route', hr, hr', hroute⟩ := optionRel_cases (h.routes call.method.full)
  · rw [hr, hr']
    exact ⟨rfl, .refl _⟩
  · rw [hr, hr']
    exact hroute

/-- A call comes to the same in both. -/
structure Advances (r r' : Stage × Gateway) : Prop where
  stage : r.1.Alike r'.1
  gateway : r.2.Twins r'.2

/-- **A failure is answered the same**, and counted under the same code. -/
theorem Twins.refuse (h : g.Twins g') {e e' : Failure} (he : e.Alike e') : Advances (g.refuse e) (g'.refuse e') := by
  unfold Gateway.refuse
  rw [he.response_eq, he.code_eq, h.hub]
  exact ⟨.same _, h.withHub _⟩

theorem Twins.serveBy (h : g.Twins g') {route route' : Route} (hroute : route.Alike route') (call : Call)
    (req : Value) : Advances (serveBy route call req g) (serveBy route' call req g') := by
  unfold Gateway.serveBy
  rw [hroute.kind]
  cases route.kind with
  | unary =>
    obtain ⟨v, hr, hr'⟩ | ⟨e, e', hr, hr', he⟩ := (hroute.service.unary call req).cases
    · rw [hr, hr']
      exact ⟨.same _, h⟩
    · rw [hr, hr']
      exact h.refuse he
  | serverStreaming => exact ⟨.granted (hroute.service.stream call req), h⟩

theorem Twins.judge (h : g.Twins g') (wall : Int64) (call : Call) (req : Value) :
    Advances (g.judge wall call req) (g'.judge wall call req) := by
  have hpolicy := h.policy
  cases hverdict : g.policy.authorize call.consumer call.method.full with
  | deny reason =>
    rw [judge_of_deny g wall req hverdict, judge_of_deny g' wall req (by rw [hpolicy, hverdict]), h.hub]
    exact (h.withHub _).refuse (.same _)
  | allow rule =>
    rw [judge_of_allow g wall req hverdict, judge_of_allow g' wall req (by rw [hpolicy, hverdict]), h.hub]
    exact (h.withHub _).serveBy (h.routeOf call) call req

/-- A stream whose handler fails before it is accepted is refused. -/
theorem beginStream_of_error (g : Gateway) {now : Instant} {handler : Handler} {e : Failure}
    (h : (StreamTask.begun now g.hub handler).1.answer? = some (.error e)) :
    g.beginStream now handler = { g with hub := (StreamTask.begun now g.hub handler).2 }.refuse e := by
  obtain ⟨e', he', hbegin⟩ | ⟨hnone, -⟩ := g.beginStream_cases now handler
  · obtain rfl : e' = e := by
      rw [h] at he'
      cases he'
      rfl
    exact hbegin
  · exact absurd h (hnone e)

theorem beginStream_of_ne (g : Gateway) {now : Instant} {handler : Handler}
    (h : ∀ e, (StreamTask.begun now g.hub handler).1.answer? ≠ some (.error e)) :
    g.beginStream now handler = (.answered (.ofStream g.streams.length), { g with
      hub := (StreamTask.begun now g.hub handler).2
      streams := g.streams ++ [{ task := (StreamTask.begun now g.hub handler).1 }] }) := by
  obtain ⟨e, he, -⟩ | ⟨-, hbegin⟩ := g.beginStream_cases now handler
  · exact absurd he (h e)
  · exact hbegin

theorem Twins.beginStream (h : g.Twins g') (now : Instant) {handler handler' : Handler}
    (hhandler : handler.Alike handler') : Advances (g.beginStream now handler) (g'.beginStream now handler') := by
  obtain ⟨htask, hhub⟩ := StreamTask.alike_begun hhandler now g.hub
  obtain ⟨e, e', he, hanswer, hanswer'⟩ | ⟨hanswer, hanswer'⟩ := htask.answer?_cases
  · rw [g.beginStream_of_error hanswer, g'.beginStream_of_error (by rw [h.hub]; exact hanswer'), h.hub, hhub]
    exact (h.withHub _).refuse he
  · rw [g.beginStream_of_ne hanswer, g'.beginStream_of_ne (by rw [h.hub]; exact hanswer'), h.hub, hhub,
      h.streams.length_eq]
    have hstream : OpenStream.Alike { task := (StreamTask.begun now g.hub handler).1 }
        { task := (StreamTask.begun now g.hub handler').1 } := ⟨htask, rfl⟩
    exact ⟨.same _, h.become _ (forall₂_concat h.streams hstream)⟩

/-- **A call goes on alike in both.** -/
theorem Twins.advance (h : g.Twins g') (now : Instant) (call : Call) (body : Bytes) {stage stage' : Stage}
    (hstage : stage.Alike stage') :
    (g.advance now { call, body, stage }).1.stage.Alike (g'.advance now { call, body, stage := stage' }).1.stage
      ∧ (g.advance now { call, body, stage }).2.Twins (g'.advance now { call, body, stage := stage' }).2 := by
  have of_advances : ∀ {r r' : Stage × Gateway}, Advances r r' → r.1.Alike r'.1 ∧ r.2.Twins r'.2 :=
    fun hr => ⟨hr.stage, hr.gateway⟩
  cases hstage with
  | granted hhandler => exact of_advances (h.beginStream now hhandler)
  | same =>
    cases stage with
    | arrived =>
      have hobserve : g'.hub.observe (g'.routes.contains call.method.full) now.wall call
          = g.hub.observe (g.routes.contains call.method.full) now.wall call := by
        rw [h.hub, h.routes.contains]
      have hgateway := h.withHub (g.hub.observe (g.routes.contains call.method.full) now.wall call)
      refine ⟨.same _, ?_⟩
      show Twins { g with hub := g.hub.observe _ now.wall call } { g' with hub := g'.hub.observe _ now.wall call }
      rw [hobserve]
      exact hgateway
    | observed =>
      have hdraining : g'.isDraining = g.isDraining := by
        unfold isDraining
        rw [h.hub]
      unfold Gateway.advance
      simp only [hdraining]
      cases g.isDraining with
      | true => exact of_advances (h.refuse (.same _))
      | false => exact ⟨.same _, h⟩
    | admitted =>
      unfold Gateway.advance
      dsimp only
      cases decodeBody body with
      | ok req => exact ⟨.same _, h⟩
      | error e => exact of_advances (h.refuse (.same e))
    | decoded req => exact of_advances (h.judge now.wall call req)
    | granted handler => exact of_advances (h.beginStream now (.same handler))
    | answered r => exact ⟨.same _, h⟩

/-- What is done with a stream that is there in one is done in the other. -/
theorem Twins.atStream (h : g.Twins g') (n : Nat) {f f' : OpenStream → Gateway}
    (hf : ∀ s s', s.Alike s' → (f s).Twins (f' s')) : (g.atStream n f).Twins (g'.atStream n f') := by
  unfold Gateway.atStream
  obtain ⟨hs, hs'⟩ | ⟨s, s', hs, hs', hstream⟩ := optionRel_cases (forall₂_getElem? h.streams n)
  · rw [hs, hs']
    exact h
  · rw [hs, hs']
    exact hf s s' hstream

theorem Twins.receive (h : g.Twins g') (n : Nat) :
    (g'.receive n).1 = (g.receive n).1 ∧ (g.receive n).2.Twins (g'.receive n).2 := by
  unfold Gateway.receive
  obtain ⟨hs, hs'⟩ | ⟨s, s', hs, hs', hstream⟩ := optionRel_cases (forall₂_getElem? h.streams n)
  · rw [hs, hs']
    exact ⟨rfl, h⟩
  · rw [hs, hs']
    obtain ⟨hfound, hleft⟩ := hstream.receive
    exact ⟨hfound, h.config, h.policy, h.hub, h.routes, forall₂_set h.streams hleft n⟩

theorem Twins.dropStream (h : g.Twins g') (n : Nat) : (g.dropStream n).Twins (g'.dropStream n) :=
  ⟨h.config, h.policy, h.hub, h.routes, forall₂_modify h.streams (fun hs => hs.drop) n⟩

/-- **Whatever else happens, happens alike in both.** -/
theorem Twins.work (h : g.Twins g') (w : Work) : (g.work w).Twins (g'.work w) := by
  cases w with
  | dispatch =>
    show g.dispatch.Twins g'.dispatch
    unfold Gateway.dispatch
    rw [h.hub]
    exact h.withHub _
  | perform n heedPeer now =>
    refine h.atStream n fun s s' hs => ?_
    obtain ⟨-, htask, hhub⟩ := hs.task.step now heedPeer g.hub
    have hstream : OpenStream.Alike { s with task := (s.task.step heedPeer now g.hub).2.1 }
        { s' with task := (s'.task.step heedPeer now g.hub).2.1 } := ⟨htask, hs.supervision⟩
    unfold Gateway.perform
    rw [h.hub, hhub]
    exact h.become _ (forall₂_set h.streams hstream n)
  | supervise n =>
    refine h.atStream n fun s s' hs => ?_
    obtain ⟨-, hstream, hhub⟩ := hs.supervise g.hub
    unfold Gateway.supervise
    rw [h.hub, hhub]
    exact h.become _ (forall₂_set h.streams hstream n)
  | receive n => exact (h.receive n).2
  | dropStream n => exact h.dropStream n
  | setDraining | stopLog | stopStats =>
    unfold Gateway.work
    dsimp only
    rw [h.hub]
    exact h.withHub _

/-- The same is reported of both. -/
theorem Twins.report (h : g.Twins g') (place : Destination) : g'.report place = g.report place := by
  unfold Gateway.report isDraining
  rw [h.hub]

end

/-! ## §2. Whatever happens. -/

/-- Two calls are the same, and have come equally far. -/
structure Attempt.Alike (a a' : Attempt) : Prop where
  call : a'.call = a.call
  body : a'.body = a.body
  stage : a.stage.Alike a'.stage

theorem Attempt.Alike.response? {a a' : Attempt} (h : a.Alike a') : a'.response? = a.response? := by
  obtain ⟨-, -, hstage⟩ := h
  unfold Attempt.response?
  generalize a.stage = stage at hstage ⊢
  generalize a'.stage = stage' at hstage ⊢
  cases hstage with
  | granted => rfl
  | same => rfl

/-- A call goes on alike. -/
theorem Attempt.Alike.goOn {a a' : Attempt} (h : a.Alike a') {g g' : Gateway} (hg : g.Twins g') (now : Instant) :
    (a.goOn now g).Alike (a'.goOn now g') := by
  obtain ⟨call, body, visits, stage⟩ := a
  obtain ⟨call', body', visits', stage'⟩ := a'
  obtain ⟨rfl, rfl, hstage⟩ := h
  exact ⟨rfl, rfl, (hg.advance now _ _ hstage).1⟩

namespace Docket

/-- Two gateways are twins, and the same calls have come to both. -/
structure Alike (d d' : Docket) : Prop where
  gateway : d.gateway.Twins d'.gateway
  attempts : List.Forall₂ Attempt.Alike d.attempts d'.attempts

/-- Nobody who calls can tell one from the other: the responses are the same, and
whatever frame is taken next from any stream, and whatever is reported at any of
the operations addresses. -/
structure LooksLike (d d' : Docket) : Prop where
  responses : d'.attempts.map Attempt.response? = d.attempts.map Attempt.response?
  frames : ∀ n, (d'.gateway.receive n).1 = (d.gateway.receive n).1
  reports : ∀ place, d'.gateway.report place = d.gateway.report place

section
variable {d d' : Docket}

theorem Alike.looksLike (h : d.Alike d') : d.LooksLike d' where
  responses := map_eq_of_forall₂ h.attempts fun ha => ha.response?
  frames n := (h.gateway.receive n).1
  reports place := h.gateway.report place

/-- **One action leaves them alike.** -/
theorem Alike.next (h : d.Alike d') (action : Action) : (d.next action).Alike (d'.next action) := by
  cases action with
  | comes call body => exact ⟨h.gateway, forall₂_concat h.attempts ⟨rfl, rfl, .same _⟩⟩
  | works w => exact ⟨h.gateway.work w, h.attempts⟩
  | goesOn i now =>
    unfold Docket.next
    obtain ⟨ha, ha'⟩ | ⟨a, a', ha, ha', hattempt⟩ := optionRel_cases (forall₂_getElem? h.attempts i)
    · simp only [ha, ha']
      exact h
    · simp only [ha, ha', hattempt.response?]
      split
      · exact h
      · refine ⟨?_, forall₂_set h.attempts (hattempt.goOn h.gateway now) i⟩
        show (d.gateway.advance now { call := a.call, body := a.body, stage := a.stage }).2.Twins
          (d'.gateway.advance now { call := a'.call, body := a'.body, stage := a'.stage }).2
        rw [hattempt.call, hattempt.body]
        exact (h.gateway.advance now _ _ hattempt.stage).2

/-- **And so does any run.** -/
theorem Alike.run (h : d.Alike d') (actions : List Action) : (d.run actions).Alike (d'.run actions) := by
  induction actions generalizing d d' with
  | nil => exact h
  | cons action actions ih => exact ih (h.next action)

end

end Docket

/-! ## §3. The theorem. -/

/-- **A failure tells its code and its public message, and an internal one nothing
else.**

* The body of a response and the line of a stream are the same text, but for the
  newline, and either is read as the code and the public message.
* The public message is a heading of its kind and after it the detail, unchanged,
  except where there is none and where the failure is internal.
* What is told of two failures is the same just when they are the same, or both
  are internal.
* This is how a caller is told: by a response, where a unary call fails or a stream
  that is not accepted yet; and by the last line of the stream where it is.
* Take two gateways in which the same calls have come equally far, whose services
  and handlers differ at most in the details of internal failures.  Whatever
  happens to both from then on, nobody who calls can tell one from the other. -/
theorem internal_details_unobservable :
    (∀ e : Failure, ∃ text, (Response.ofFailure e).body = .bytes text
        ∧ text ++ [Ascii.newline] = encodeLine (ErrorFrame.ofFailure e)
        ∧ decodeLine ErrorFrame text = .ok ⟨e.code.label, e.publicMessage⟩
        ∧ decodeLine ErrorFrame (encodeLine (ErrorFrame.ofFailure e)) = .ok ⟨e.code.label, e.publicMessage⟩
        ∧ Value.read? text = some (.object [("error", .string e.code.label), ("message", .string e.publicMessage)]))
      ∧ (∀ e : Failure, (∃ (k : Frank) (detail : String), e = k.fail detail ∧ e.publicMessage = k.heading ++ detail)
        ∨ e = .unsupportedVersion ∨ ∃ detail, e = .internal detail)
      ∧ (∀ e e' : Failure, e.Alike e' ↔ ErrorFrame.ofFailure e' = ErrorFrame.ofFailure e)
      ∧ (∀ (g : Gateway) wall call req rule e, g.policy.authorize call.consumer call.method.full = .allow rule →
        (g.routeOf call).kind = .unary → (g.routeOf call).service.unary call req = .error e →
          (g.judge wall call req).1 = .answered (.ofFailure e))
      ∧ (∀ (g : Gateway) now handler e, (StreamTask.begun now g.hub handler).1.answer? = some (.error e) →
        (g.beginStream now handler).1 = .answered (.ofFailure e))
      ∧ (∀ (s : OpenStream) hub e, s.supervision = .watching → s.task.outcome? = some (.error e) →
        (s.supervise hub).2.1.supervision = .reporting (encodeLine (ErrorFrame.ofFailure e)))
      ∧ ∀ d d' : Docket, d.Alike d' → ∀ actions, (d.run actions).LooksLike (d'.run actions) := by
  refine ⟨fun e => ?_, fun e => ?_, fun _ _ => Failure.alike_iff, ?_, ?_, ?_,
    fun _ _ h actions => (h.run actions).looksLike⟩
  · have htravels := (ErrorFrame.ofFailure e).travels
    exact ⟨_, Response.body_ofFailure e, rfl, htravels.decodeLine_render, htravels.decodeLine_line,
      (ErrorFrame.ofFailure e).read?_render⟩
  · obtain ⟨k, detail, rfl⟩ | hrest := e.frank_or
    · exact .inl ⟨k, detail, rfl, k.publicMessage_fail detail⟩
    · exact .inr hrest
  · intro g wall call req rule e hallow hkind hfailed
    rw [judge_of_allow g wall req hallow, serveBy, hkind]
    simp only [hfailed]
    rfl
  · intro g now handler e hanswer
    rw [g.beginStream_of_error hanswer]
    rfl
  · intro s hub e hwatching houtcome
    rw [Conversation.supervise_of_error hub hwatching houtcome]

/-- A service whose every method fails with the same detail.  The first one is unary,
the second one has no stream yet, and the third one has sent a message. -/
def failingService (detail : String) : Service where
  name := "main.Probe"
  methods := [("Fail", .unary), ("Refuse", .serverStreaming), ("Break", .serverStreaming)]
  unary _ _ := .error (.internal detail)
  stream call _ :=
    .perform (if call.method.method = "Break" then [.send .null] else []) (.error (.internal detail))

theorem alike_failingService (detail detail' : String) : (failingService detail).Alike (failingService detail') :=
  ⟨rfl, rfl, fun _ _ => .error (.internal _ _), fun _ _ => .perform _ (.error (.internal _ _))⟩

/-- A disk and a table fail behind two gateways.  Three calls come, and each of them
fails in a way of its own. -/
theorem internal_details_unobservable_disk_table : ∃ (g g' : Gateway) (fail : Call) (actions : List Docket.Action),
    (g.routeOf fail).service.unary fail .null = .error (.internal "disk sda1 is full")
      ∧ (g'.routeOf fail).service.unary fail .null = .error (.internal "no such table: users")
      ∧ (g.judge 0 fail .null).1 = .answered (.ofFailure (.internal "disk sda1 is full"))
      ∧ (Docket.run { gateway := g } actions).attempts.map Attempt.response?
        = [some (.ofFailure (.internal "")), some (.ofFailure (.internal "")), some (.ofStream 0)]
      ∧ ((Docket.run { gateway := g } actions).gateway.receive 0).1
        = .item (encodeLine (ErrorFrame.ofFailure (.internal "")))
      ∧ (Docket.run { gateway := g } actions).LooksLike (Docket.run { gateway := g' } actions) := by
  have ⟨g₀, hstart⟩ : ∃ g₀, start { version := 1, acl := [("amy", ["/main.Probe/*"])] } = .ok g₀ := ⟨_, rfl⟩
  let failing (detail : String) : Gateway := { g₀ with routes := g₀.routes.register (failingService detail) }
  let amys (method : String) (h : IsSegment method) : Call :=
    Call.ofRequest ⟨"main.Probe", method, ⟨by decide, by decide⟩, h⟩ [("Consumer", Bytes.ofText "amy")] none
  let fail := amys "Fail" ⟨by decide, by decide⟩
  let actions : List Docket.Action :=
    [.comes fail [], .comes (amys "Refuse" ⟨by decide, by decide⟩) [],
      .comes (amys "Break" ⟨by decide, by decide⟩) []]
      ++ List.replicate 4 (.goesOn 0 ⟨0, 0⟩) ++ List.replicate 5 (.goesOn 1 ⟨0, 0⟩)
      ++ List.replicate 5 (.goesOn 2 ⟨0, 0⟩) ++ [.works (.supervise 0), .works (.supervise 0), .works (.receive 0)]
  have hroute (detail : String) : (failing detail).routeOf fail = ⟨.unary, failingService detail⟩ := by
    have hresolve : (failing detail).routes.resolve? fail.method.full = some ⟨.unary, failingService detail⟩ := by
      show (((g₀.routes.insert (Routes.fullName "main.Probe" "Fail") _).insert
        (Routes.fullName "main.Probe" "Refuse") _).insert (Routes.fullName "main.Probe" "Break") _).get?
          (Routes.fullName "main.Probe" "Fail") = _
      rw [Dict.get?_insert, if_neg (by decide), Dict.get?_insert, if_neg (by decide), Dict.get?_insert, if_pos rfl]
    unfold Gateway.routeOf
    rw [hresolve]
    rfl
  have hallow : g₀.policy.authorize fail.consumer fail.method.full = .allow 0 := by
    cases hstart
    decide +kernel
  have htwins : (failing "disk sda1 is full").Twins (failing "no such table: users") :=
    { Twins.refl g₀ with routes := (Twins.refl g₀).routes.register (alike_failingService _ _) }
  obtain ⟨-, -, -, hunary, -, -, hlooks⟩ := internal_details_unobservable
  refine ⟨failing "disk sda1 is full", failing "no such table: users", fail, actions, ?_, ?_, ?_, ?_, ?_,
    hlooks { gateway := _ } { gateway := _ } ⟨htwins, .nil⟩ actions⟩
  · rw [hroute]
    rfl
  · rw [hroute]
    rfl
  · exact hunary _ 0 fail .null 0 _ hallow (by rw [hroute]) (by rw [hroute]; rfl)
  · cases hstart
    decide +kernel
  · cases hstart
    decide +kernel

end Gateway

end CallGateway
