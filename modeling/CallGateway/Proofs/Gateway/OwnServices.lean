/-
  CallGateway.Proofs.Gateway.OwnServices
  ──────────────────────────────────────
  **THE GATEWAY'S OWN SERVICES NEVER FAIL LIKE THE POLICY, NOR TOO LATE.**

  Two things set the gateway's own services apart from others.  None of their
  failures has a code of the policy, so such a code always comes from a verdict
  (`Fails.not_isDenial`).  And a handler of theirs fails before its stream is
  accepted or not at all (`begun_cases`): from then on it ends well, whatever
  happens to the caller and to the feeds (`EndsWell.step`), and no failure is
  counted for it (`EndsWell.supervise_hub`).
-/
import CallGateway.Proofs.Gateway.Gains

namespace CallGateway

open Json (Value)

/-! ## §1. Failures. -/

/-- A service as the gateway's own are: its failures have no code of the policy,
and its handlers follow a feed or fail at once. -/
structure Service.IsOwn (s : Service) : Prop where
  unary : ∀ call req e, s.unary call req = .error e → e.code.isDenial = false
  stream : ∀ call req, (s.stream call req).FollowsFeed
    ∨ ∃ e, s.stream call req = .fail e ∧ e.code.isDenial = false

namespace Service

theorem isOwn_unimplemented : unimplemented.IsOwn where
  unary call req e h := by
    cases h
    rfl
  stream call req := .inr ⟨_, rfl, rfl⟩

theorem isOwn_business : business.IsOwn where
  unary call req e h := by
    have h : (parseRequest Nothing req >>= fun _ =>
        if ["Check", "Add", "Test"].contains call.method.method then .ok (respond (α := Nothing) {})
        else .error (.notFound ("unknown biz method: " ++ call.method.method))) = .error e := h
    cases hreq : parseRequest Nothing req with
    | ok m =>
      rw [hreq] at h
      have h : (if ["Check", "Add", "Test"].contains call.method.method then
          (.ok (respond (α := Nothing) {}) : Outcome Value)
        else .error (.notFound ("unknown biz method: " ++ call.method.method))) = .error e := h
      split at h
      · cases h
      · cases h
        rfl
    | error fault =>
      rw [hreq] at h
      cases h
      rw [code_of_parseRequest hreq]
      rfl
  stream call req := .inr ⟨_, rfl, rfl⟩

theorem isOwn_admin (maxIntervalSecs : Nat) : (admin maxIntervalSecs).IsOwn where
  unary call req e h := by
    cases h
    rfl
  stream call req := by
    obtain ⟨-, hlog⟩ | ⟨m, -, -, hleast, -, hstats⟩ | ⟨e, hfail, hcode⟩ := stream_admin_cases maxIntervalSecs call req
    · rw [hlog]
      exact .inl trivial
    · rw [hstats]
      exact .inl (Nat.ne_of_gt hleast)
    · refine .inr ⟨e, hfail, ?_⟩
      obtain hbad | hmissing := hcode
      · rw [hbad]
        rfl
      · rw [hmissing]
        rfl

end Service

/-- Every call of a gateway with the standard services leads to one of its own. -/
theorem Gateway.isOwn_routeOf {c : ServerConfig} {g : Gateway} (h : g.routes = standardRoutes c) (call : Call) :
    (g.routeOf call).service.IsOwn := by
  unfold routeOf
  rw [h]
  cases hroute : (standardRoutes c).resolve? call.method.full with
  | none => exact Service.isOwn_unimplemented
  | some route =>
    show route.service.IsOwn
    rcases List.mem_pair.1 (Routes.service_mem_of_resolve? hroute) with hservice | hservice
    · rw [hservice]
      exact Service.isOwn_business
    · rw [hservice]
      exact Service.isOwn_admin _

/-! ## §2. Handlers that end well. -/

namespace StreamTask

/-- The handler follows a feed, or has ended well. -/
def EndsWell (t : StreamTask) : Prop :=
  match t.activity with
  | .followingLog _ _ | .followingStats _ _ => True
  | .ended result => result = .ok ()
  | .performing _ _ | .brokenOff => False

variable {t : StreamTask}

theorem EndsWell.outcome?_ne (h : t.EndsWell) (e : Failure) : t.outcome? ≠ some (.error e) := by
  obtain ⟨activity, stream⟩ := t
  cases activity with
  | ended result =>
    obtain rfl : result = .ok () := h
    exact nofun
  | followingLog s inHand => exact nofun
  | followingStats s inHand => exact nofun
  | performing actions ending => exact h.elim
  | brokenOff => exact h.elim

theorem EndsWell.answer?_ne (h : t.EndsWell) (e : Failure) : t.answer? ≠ some (.error e) := by
  unfold answer?
  split
  · exact nofun
  · exact h.outcome?_ne e

/-- Whoever gives up its subscription ends well. -/
theorem EndsWell.leave (h : t.EndsWell) (hub : Hub) : (t.leave hub).1.EndsWell := by
  obtain ⟨activity, stream⟩ := t
  cases activity with
  | followingLog s inHand => exact rfl
  | followingStats s inHand => exact rfl
  | performing actions ending => exact h
  | ended result => exact h
  | brokenOff => exact h

theorem EndsWell.hand (h : t.EndsWell) (frame : Bytes) {next : Activity}
    (hnext : ∀ stream, EndsWell ⟨next, stream⟩) (hub : Hub) : (t.hand frame next hub).2.1.EndsWell := by
  unfold StreamTask.hand
  split
  · exact hnext _
  · exact h
  · exact h.leave hub

/-- **One step.**  Whatever a handler that follows a feed finds, it goes on
following or ends well. -/
theorem EndsWell.step (h : t.EndsWell) (heedPeer : Bool) (now : Instant) (hub : Hub) :
    (t.step heedPeer now hub).2.1.EndsWell := by
  unfold StreamTask.step
  split
  · exact h
  · exact h
  · rename_i hactivity
    rw [EndsWell, hactivity] at h
    exact h.elim
  · rename_i hactivity
    rw [EndsWell, hactivity] at h
    exact h.elim
  · rename_i hactivity
    rw [EndsWell, hactivity] at h
    exact h.elim
  · refine h.hand _ ?_ hub
    exact fun _ => trivial
  · split
    · exact h.leave hub
    · split
      · exact trivial
      · split
        · exact h.leave hub
        · exact h
      · exact h.leave _
  · refine h.hand _ ?_ hub
    exact fun _ => trivial
  · split
    · exact h.leave hub
    · split
      · exact trivial
      · split
        · exact h.leave _
        · exact h
      · exact h.leave _

theorem EndsWell.run (h : t.EndsWell) (now : Instant) (hub : Hub) : (t.run now hub).1.EndsWell :=
  run_induction (P := fun t _ => t.EndsWell) now (fun _ hub h => h.step true now hub) h

/-- Nothing is counted around a handler that ends well. -/
theorem EndsWell.supervise_hub {s : OpenStream} (h : s.task.EndsWell) (hub : Hub) :
    (s.supervise hub).2.2 = hub := by
  rcases s.supervise_hub hub with heq | ⟨e, houtcome, -⟩
  · exact heq
  · exact absurd houtcome (h.outcome?_ne e)

/-! ## §3. How a handler begins. -/

/-- A feed refuses a subscriber with a failure that is none of the policy's. -/
theorem not_isDenial_of_refused_log {f f' : LogFeed} {e : Failure} (h : f.subscribe = (.refused e, f')) :
    e.code.isDenial = false := by
  unfold LogFeed.subscribe at h
  split at h
  · cases h
  · split at h
    · cases h
      rfl
    · cases h

theorem not_isDenial_of_refused_stats {f f' : StatsFeed} {now period : Nat} {e : Failure}
    (h : f.subscribe now period = (.refused e, f')) : e.code.isDenial = false := by
  unfold StatsFeed.subscribe at h
  split at h
  · cases h
    rfl
  · split at h
    · cases h
    · split at h
      · cases h
        rfl
      · split at h <;> cases h

/-- A handler that has come out badly before it worked is answered with its
failure. -/
theorem answer?_run_of_failed {activity : Activity} {e : Failure} (capacity : Nat) (now : Instant) (hub : Hub)
    (h : activity = .ended (.error e) ∨ activity = .performing [] (.error e)
      ∨ activity = .brokenOff ∧ e = .brokenOff) :
    ((⟨activity, .start capacity⟩ : StreamTask).run now hub).1.answer? = some (.error e) := by
  rcases h with rfl | rfl | ⟨rfl, rfl⟩
  · rfl
  · rfl
  · rfl

/-- **How a handler begins.**  One of an own service ends well once it follows
its feed, and fails otherwise before its stream is accepted. -/
theorem begun_cases {handler : Handler}
    (h : handler.FollowsFeed ∨ ∃ e, handler = .fail e ∧ e.code.isDenial = false) (now : Instant) (hub : Hub) :
    (begun now hub handler).1.EndsWell
      ∨ ∃ e, (begun now hub handler).1.answer? = some (.error e) ∧ e.code.isDenial = false := by
  unfold begun
  rcases h with hfollows | ⟨e, rfl, he⟩
  · cases handler with
    | perform actions ending => exact hfollows.elim
    | followLog =>
      unfold start
      rcases hadmission : hub.log.subscribe with ⟨_ | e | _, log⟩
      · simp only
        exact .inl (EndsWell.run (t := ⟨.followingLog _ none, _⟩) trivial now _)
      · exact .inr ⟨e, answer?_run_of_failed _ now _ (.inl rfl), not_isDenial_of_refused_log hadmission⟩
      · exact .inr ⟨.brokenOff, answer?_run_of_failed _ now _ (.inr (.inr ⟨rfl, rfl⟩)), rfl⟩
    | followStats seconds =>
      unfold start
      rcases hadmission : hub.stats.subscribe now.ms (seconds * 1000) with ⟨_ | e | _, stats⟩
      · simp only [hadmission]
        exact .inl (EndsWell.run (t := ⟨.followingStats _ none, _⟩) trivial now _)
      · simp only [hadmission]
        exact .inr ⟨e, answer?_run_of_failed _ now _ (.inl rfl), not_isDenial_of_refused_stats hadmission⟩
      · simp only [hadmission]
        exact .inr ⟨.brokenOff, answer?_run_of_failed _ now _ (.inr (.inr ⟨rfl, rfl⟩)), rfl⟩
  · exact .inr ⟨e, answer?_run_of_failed _ now _ (.inr (.inl rfl)), he⟩

end StreamTask

/-- **An own service never fails like the policy.** -/
theorem Gateway.Fails.not_isDenial {g : Gateway} {call : Call} {req : Value} {e : Failure}
    (hfails : g.Fails call req e) (hown : (g.routeOf call).service.IsOwn) : e.code.isDenial = false := by
  cases hfails with
  | unary _ hanswer => exact hown.unary call req e hanswer
  | streaming now hub _ hanswer =>
    rcases StreamTask.begun_cases (hown.stream call req) now hub with hwell | ⟨e', hanswer', he'⟩
    · exact absurd hanswer (hwell.answer?_ne e)
    · obtain rfl : e' = e := Except.error.inj (Option.some.inj (hanswer'.symm.trans hanswer))
      exact he'

end CallGateway
