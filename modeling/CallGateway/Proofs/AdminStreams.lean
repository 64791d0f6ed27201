/-
  CallGateway.Proofs.AdminStreams
  ───────────────────────────────
  **STREAMS THAT LEAVE NOTHING BEHIND.**

  A session of the administration service has one of three courses: it fails
  at once and has touched nothing, it breaks off, or a subscriber is registered
  and its stream is accepted (`start_cases`).  In the last case the handler ends
  well and the subscriber is struck off, whatever happens meanwhile
  (`admin_streams_leave_nothing`).
-/
import CallGateway.Proofs.Gateway.Draining
import CallGateway.Proofs.StreamTask.Session

namespace CallGateway

open Json (Value)

namespace Session

/-! ## §1. How a session begins. -/

theorem declined_of_ended (e : Failure) (capacity : Nat) (hub : Hub) :
    ({ task := ⟨.ended (.error e), .start capacity⟩, hub } : Session).Declined e :=
  ⟨.inl rfl, rfl, rfl, rfl, fun _ => rfl⟩

theorem served_of_entry {sub : Subscription} {e : Entry} {hub : Hub} (hentry : sub.entry? hub = some e)
    (hold : e.id < (sub.exchange hub).nextId) (capacity : Nat) :
    ({ task := ⟨sub.following none, (FrameStream.start capacity).accept⟩, hub } : Session).Served sub e :=
  ⟨FrameStream.isAccepted_accept _, hentry, hold, .inl ⟨none, rfl, rfl⟩, List.prefix_rfl, fun _ => rfl⟩

/-- A subscriber that comes has an id of its own, the next one. -/
theorem of_add {x : Exchange CallRecord} (h : x.isOpen = true) (capacity : Nat) :
    x.nextId < (x.add capacity).2.nextId ∧ (x.add capacity).2.ids = x.ids ++ [x.nextId] := by
  rw [Exchange.add_of_open h]
  exact ⟨Nat.lt_succ_self _, List.map_append⟩

/-- **A session has one of three courses.**  It fails and has touched nothing, or
it breaks off, or a new subscriber is registered and the stream is accepted. -/
theorem start_cases {handler : Handler} (h : handler.IsStandard) (capacity : Nat) (now : Instant) (hub : Hub) :
    (∃ e, (start handler capacity now hub).Declined e ∧ (start handler capacity now hub).hub = hub)
      ∨ (start handler capacity now hub).Broken
      ∨ ∃ (sub : Subscription) (e : Entry), (start handler capacity now hub).Served sub e
        ∧ (sub.exchange (start handler capacity now hub).hub).ids = (sub.exchange hub).ids ++ [e.id] := by
  unfold start StreamTask.start
  obtain hfollows | ⟨e, rfl⟩ := h
  · cases handler with
    | perform actions ending => exact hfollows.elim
    | followLog =>
      obtain ⟨reason, heq⟩ | heq | ⟨hopen, heq⟩ := hub.log.subscribe_cases
      · simp only [heq]
        exact .inl ⟨reason, declined_of_ended reason capacity hub, trivial⟩
      · simp only [heq]
        exact .inr (.inl ⟨rfl, rfl⟩)
      · obtain ⟨hold, hids⟩ := of_add hopen hub.log.subscriberBuffer
        let newcomer : Entry := ⟨hub.log.exchange.nextId, hub.log.exchange.queues.length⟩
        simp only [heq]
        refine .inr (.inr ⟨.log hub.log.handles.length, newcomer, served_of_entry ?_ hold capacity, hids⟩)
        exact List.getElem?_concat_length
    | followStats seconds =>
      obtain ⟨reason, heq⟩ | heq | ⟨-, -, heq⟩ | ⟨ticker, hopen, -, heq⟩ :=
        hub.stats.subscribe_cases now.ms (seconds * 1000)
      · simp only [heq]
        exact .inl ⟨reason, declined_of_ended reason capacity hub, trivial⟩
      · simp only [heq]
        exact .inr (.inl ⟨rfl, rfl⟩)
      · simp only [heq]
        exact .inr (.inl ⟨rfl, rfl⟩)
      · obtain ⟨hold, hids⟩ := of_add hopen hub.stats.subscriberBuffer
        let newcomer : StatsSubscriber := ⟨⟨hub.stats.exchange.nextId, hub.stats.exchange.queues.length⟩, ticker, {}⟩
        simp only [heq]
        refine .inr (.inr ⟨.stats hub.stats.subscribers.length, newcomer.entry,
          served_of_entry ?_ hold capacity, hids⟩)
        show ((hub.stats.subscribers ++ [newcomer]).map (·.entry))[hub.stats.subscribers.length]? = _
        rw [List.getElem?_map, List.getElem?_concat_length]
        rfl
  · exact .inl ⟨e, ⟨.inr ⟨rfl, rfl⟩, rfl, rfl, rfl, fun _ => rfl⟩, rfl⟩

section
variable {s : Session} {sub : Subscription} {e : Entry} {failure : Failure}

/-- A call that fails is at its end after one step. -/
theorem Declined.isEnded (h : s.Declined failure) (hworked : 0 < s.worked) : s.task.isEnded = true := by
  obtain hended | ⟨-, hnone⟩ := h.activity
  · unfold StreamTask.isEnded StreamTask.outcome?
    rw [hended]
    rfl
  · omega

theorem Broken.isEnded (h : s.Broken) : s.task.isEnded = true := by
  unfold StreamTask.isEnded StreamTask.outcome?
  rw [h.activity]
  rfl

/-- A handler that follows a feed never fails. -/
theorem Served.activity_ne (h : s.Served sub e) (failure : Failure) : s.task.activity ≠ .ended (.error failure) := by
  intro hfailed
  obtain ⟨inHand, hactivity, -⟩ | ⟨hactivity, -⟩ := h.course
  · exact sub.following_ne_ended inHand _ (hactivity.symm.trans hfailed)
  · exact absurd (hactivity.symm.trans hfailed) nofun

/-- After its end it is not registered. -/
theorem Served.notMem (h : s.Served sub e) (hended : s.task.activity = .ended (.ok ())) :
    e.id ∉ (sub.exchange s.hub).ids := by
  obtain ⟨inHand, hactivity, -⟩ | ⟨-, hleft, -⟩ := h.course
  · exact absurd (hactivity.symm.trans hended) (sub.following_ne_ended inHand _)
  · exact hleft

end

section
variable {handler : Handler} {capacity : Nat} {now : Instant} {hub : Hub} {s : Session}

/-- A stream is accepted when its handler begins, or the call is at its end after
one step. -/
theorem accepted_or_ended (h : handler.IsStandard) :
    (start handler capacity now hub).task.stream.isAccepted = true
      ∨ ∀ s, (start handler capacity now hub).Reaches s → 0 < s.worked → s.task.isEnded = true := by
  obtain ⟨e, hdeclined, -⟩ | hbroken | ⟨sub, e, hserved, -⟩ := start_cases h capacity now hub
  · exact .inr fun s hreaches hworked => (hdeclined.reaches hreaches).isEnded hworked
  · exact .inr fun s hreaches _ => (hbroken.reaches hreaches).isEnded
  · exact .inl hserved.accepted

/-- A call that comes out with a failure has failed from the beginning. -/
theorem declined_of_failed (h : handler.IsStandard) {failure : Failure}
    (hreaches : (start handler capacity now hub).Reaches s) (hfailed : s.task.activity = .ended (.error failure)) :
    (start handler capacity now hub).hub = hub ∧ ∃ e, (start handler capacity now hub).Declined e := by
  obtain ⟨e, hdeclined, hhub⟩ | hbroken | ⟨sub, e, hserved, -⟩ := start_cases h capacity now hub
  · exact ⟨hhub, e, hdeclined⟩
  · exact absurd ((hbroken.reaches hreaches).activity.symm.trans hfailed) nofun
  · exact absurd hfailed ((hserved.reaches hreaches).activity_ne failure)

/-- A call whose stream is ever accepted is served from the beginning. -/
theorem served_of_accepted (h : handler.IsStandard) (hreaches : (start handler capacity now hub).Reaches s)
    (haccepted : s.task.stream.isAccepted = true) : ∃ (sub : Subscription) (e : Entry),
      (start handler capacity now hub).Served sub e
        ∧ (sub.exchange (start handler capacity now hub).hub).ids = (sub.exchange hub).ids ++ [e.id] := by
  obtain ⟨e, hdeclined, -⟩ | hbroken | hserved := start_cases h capacity now hub
  · exact absurd (haccepted.symm.trans (hdeclined.reaches hreaches).accepted) nofun
  · exact absurd (haccepted.symm.trans (hbroken.reaches hreaches).accepted) nofun
  · exact hserved

end

/-- Whoever follows the log does nothing about the statistics. -/
theorem stats_start_followLog (capacity : Nat) (now : Instant) (hub : Hub) :
    (start .followLog capacity now hub).hub.stats = hub.stats := by
  unfold start StreamTask.start
  rcases hub.log.subscribe with ⟨_ | _ | _, log⟩
  · rfl
  · rfl
  · rfl

theorem stats_start_followStats (seconds capacity : Nat) (now : Instant) (hub : Hub) :
    (start (.followStats seconds) capacity now hub).hub.stats = (hub.stats.subscribe now.ms (seconds * 1000)).2 := by
  unfold start StreamTask.start
  rcases hadmission : hub.stats.subscribe now.ms (seconds * 1000) with ⟨_ | _ | _, stats⟩
  · simp only [hadmission]
  · simp only [hadmission]
  · simp only [hadmission]

end Session

/-! ## §2. The streams of the service. -/

namespace Session

/-- **An administration stream leaves nothing behind.** Take any call of the
service, with any request, from when its handler begins; whatever the feeds are
like, and whatever the caller and others do from then on.

* Either the stream is accepted when the handler begins, or the handler is at its
  end after its first step: it has failed, or it broke off where it subscribes.
* Where it fails, nothing was ever accepted, sent or read, beginning changed
  nothing about the feeds, and no step of the handler does.
* Where the stream is accepted, one subscriber was added to one of the feeds, and
  the stream is `Served`: its handler never comes out but well, and sends the lines
  of what its subscription yields, in order and with no gap.  The line of the last
  message is missing while the handler has it in hand, and in the end only if the
  caller has gone.  After the end the subscriber is not registered.
* The handler comes to its end: with its second step after the caller has gone at
  the latest, and with its next step when its subscription has ended.  It does
  nothing in a step only while the caller is there, and only for want of room or
  while someone could still hand it a record.
* The statistics change only for an interval between one second and the longest.
  A request that is `null`, as an empty body is, is refused. -/
theorem admin_streams_leave_nothing (maxIntervalSecs : Nat) (call : Call) (req : Value) (capacity : Nat)
    (now : Instant) (hub : Hub) :
    let s₀ := start ((Service.admin maxIntervalSecs).stream call req) capacity now hub
    (s₀.task.stream.isAccepted = true ∨ ∀ s, s₀.Reaches s → 0 < s.worked → s.task.isEnded = true)
      ∧ (∀ s e, s₀.Reaches s → s.task.activity = .ended (.error e) → s₀.hub = hub
        ∧ ∀ s', s₀.Reaches s' → s'.task.stream.isAccepted = false ∧ s'.sent = [] ∧ s'.read = []
          ∧ ∀ choices heedPeer now', (s'.work choices heedPeer now').hub = s'.hub)
      ∧ (∀ s, s₀.Reaches s → s.task.stream.isAccepted = true → ∃ (sub : Subscription) (e : Entry),
        (sub.exchange s₀.hub).ids = (sub.exchange hub).ids ++ [e.id]
        ∧ ∀ s', s₀.Reaches s' → s'.Served sub e
          ∧ (s'.task.stream.isClosed = true → ∀ s'', s'.Reaches s'' → s'.worked + 2 ≤ s''.worked →
            s''.task.activity = .ended (.ok ()))
          ∧ ∀ choices heedPeer now',
            (s'.task.activity = sub.following none → (sub.ask choices now' s'.hub).1 = .ended →
              (s'.work choices heedPeer now').task.activity = .ended (.ok ()))
            ∧ (s'.task.isEnded = false → (s'.task.stepBy choices heedPeer now' s'.hub).1 = false →
              s'.task.stream.isClosed = false ∧ (s'.frames.capacity ≤ s'.frames.items.length
                ∨ (sub.exchange s'.hub).hasSender e.queue = true)))
      ∧ (s₀.hub.stats ≠ hub.stats → call.method.method = "Statistics" ∧ ∃ m : StatInterval,
        parseRequest StatInterval req = .ok m ∧ 1 ≤ m.intervalSeconds.toNat ∧ m.intervalSeconds.toNat ≤ maxIntervalSecs
        ∧ s₀.hub.stats = (hub.stats.subscribe now.ms (m.intervalSeconds.toNat * 1000)).2)
      ∧ decodeBody [] = .ok .null
      ∧ (req = .null → call.method.method = "Statistics" → s₀.hub = hub ∧ ∀ choices heedPeer now',
        (s₀.work choices heedPeer now').task.activity
          = .ended (.error (.badRequest ("interval_seconds must be between 1 and " ++ toString maxIntervalSecs)))) := by
  intro s₀
  have hstandard := Gateway.isStandard_admin maxIntervalSecs call req
  have hstart : ∀ {handler : Handler}, (Service.admin maxIntervalSecs).stream call req = handler →
      s₀ = start handler capacity now hub := fun h => congrArg (start · capacity now hub) h
  refine ⟨accepted_or_ended hstandard, ?_, ?_, ?_, rfl, ?_⟩
  · intro s failure hreaches hfailed
    obtain ⟨hhub, e, hdeclined⟩ := declined_of_failed hstandard hreaches hfailed
    refine ⟨hhub, fun s' hreaches' => ?_⟩
    have hdeclined := hdeclined.reaches hreaches'
    refine ⟨hdeclined.accepted, hdeclined.sent, hdeclined.read, fun choices heedPeer now' => ?_⟩
    rw [hdeclined.work_eq]
  · intro s hreaches haccepted
    obtain ⟨sub, e, hserved, hids⟩ := served_of_accepted hstandard hreaches haccepted
    refine ⟨sub, e, hids, fun s' hreaches' => ?_⟩
    have hserved := hserved.reaches hreaches'
    refine ⟨hserved, fun hclosed s'' => hserved.ended_of_closed hclosed, fun choices heedPeer now' => ⟨?_, ?_⟩⟩
    · exact fun hactivity hasked => (StreamTask.deed hactivity choices heedPeer now' s'.hub).of_ended hasked
    · exact fun hended hidle => hserved.of_idle hended hidle
  · intro hchanged
    obtain ⟨-, hlog⟩ | ⟨m, hmethod, hreq, hleast, hmost, hstats⟩ | ⟨e, hfail, -⟩ :=
      Service.stream_admin_cases maxIntervalSecs call req
    · exact absurd (by rw [hstart hlog, stats_start_followLog]) hchanged
    · exact ⟨hmethod, m, hreq, hleast, hmost, by rw [hstart hstats, stats_start_followStats]⟩
    · exact absurd (by rw [hstart hfail]; rfl) hchanged
  · rintro rfl hmethod
    rw [hstart (Service.stream_admin_of_null hmethod maxIntervalSecs)]
    exact ⟨rfl, fun choices heedPeer now' => rfl⟩

/-- A caller of the log stream reads and goes while an event is handed out, and two
steps later nobody is registered.  A caller that comes after a shutdown is refused. -/
theorem log_stream_quits : ∃ (call : Call) (s₀ s late : Session) (sub : Subscription) (e : Entry),
    s₀ = start ((Service.admin 60).stream call .null) 1 ⟨0, 0⟩ (.start 4 2)
      ∧ (sub.exchange s₀.hub).ids = [e.id] ∧ s₀.Reaches s ∧ s.worked = 3
      ∧ s.task.activity = .ended (.ok ()) ∧ e.id ∉ (sub.exchange s.hub).ids
      ∧ late = start ((Service.admin 60).stream call .null) 1 ⟨0, 0⟩ (Hub.start 4 2).stopLog
      ∧ ∀ s', late.Reaches s' → s'.sent = [] := by
  let call : Call := ⟨⟨"main.Admin", "Logging", ⟨by decide, by decide⟩, ⟨by decide, by decide⟩⟩, "tester", "unknown"⟩
  let s₀ := start ((Service.admin 60).stream call .null) 1 ⟨0, 0⟩ (.start 4 2)
  let observed : Session := { s₀ with hub := s₀.hub.observe true 0 call }
  let dispatched : Session := { observed with hub := { observed.hub with log := (observed.hub.log.dispatch {}).1 } }
  let read : Session := (dispatched.work [] true ⟨1, 0⟩).receive true
  let gone : Session := { read with task.stream := read.task.stream.drop }
  let s : Session := (gone.work [] true ⟨2, 0⟩).work [] true ⟨3, 0⟩
  have hdispatched : s₀.Reaches dispatched :=
    .tail (.single (.others (.observed true 0 call))) (.others (.dispatched {}))
  have hgone : dispatched.Reaches gone := .tail (.tail (.single (.work [] true ⟨1, 0⟩)) (.receive true)) .drop
  have hs : gone.Reaches s := .tail (.single (.work [] true ⟨2, 0⟩)) (.work [] true ⟨3, 0⟩)
  have hreaches : s₀.Reaches s := (hdispatched.trans hgone).trans hs
  obtain ⟨-, -, haccepted, -⟩ := admin_streams_leave_nothing 60 call .null 1 ⟨0, 0⟩ (.start 4 2)
  obtain ⟨sub, e, hids, hserved⟩ := haccepted s₀ .refl rfl
  obtain ⟨-, hfailed, -⟩ := admin_streams_leave_nothing 60 call .null 1 ⟨0, 0⟩ (Hub.start 4 2).stopLog
  have hended : s.task.activity = .ended (.ok ()) :=
    (hserved gone (hdispatched.trans hgone)).2.1 rfl s hs (Nat.le_refl 3)
  have hempty : (sub.exchange (Hub.start 4 2)).ids = [] := by
    cases sub with
    | log place => rfl
    | stats place => rfl
  rw [hempty] at hids
  exact ⟨call, s₀, s, _, sub, e, rfl, hids, hreaches, rfl, hended, (hserved s hreaches).1.notMem hended, rfl,
    fun s' hreaches' => ((hfailed _ .shuttingDown .refl rfl).2 s' hreaches').2.1⟩

end Session

end CallGateway
