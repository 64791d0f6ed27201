/-
  CallGateway.Proofs.OpenStream.Completion
  ────────────────────────────────────────
  **A STREAMING ANSWER IS COMPLETED, AND IN ONE WAY.**

  As long as a conversation is not complete, some move brings it further
  (`Sound.goesOn`); so it is completed under any schedule in which everyone's
  turn comes again and again (`Sound.completes`).  Whatever the schedule was,
  the caller has then been told the same (`Sound.told`).
-/
import CallGateway.Proofs.Gateway.Step
import CallGateway.Proofs.Metrics
import CallGateway.Proofs.OpenStream.Shape

namespace CallGateway

namespace Conversation

section
variable {actions : List Action} {ending : Outcome Unit} {hub : Hub} {c : Conversation}

/-! ## §1. It goes on. -/

/-- Where a frame is there, the caller can read it. -/
theorem Sound.read_ne (h : Sound actions ending hub c) (hanswer : c.answer = some (.ok ())) (hover : c.isOver = false)
    (hitems : c.stream.task.stream.frames.items ≠ []) : c.next .read ≠ c := by
  obtain ⟨frame, rest, hitems⟩ := List.exists_cons_of_ne_nil hitems
  rw [next_read_of_cons (isStreamed_of_answer hanswer) hover h.reader hitems]
  intro heq
  have hbody : c.body ++ [frame] = c.body := congrArg Conversation.body heq
  simp at hbody

/-- A full buffer has frames in it. -/
theorem Sound.items_ne_nil (h : Sound actions ending hub c)
    (hfull : c.stream.task.stream.frames.capacity ≤ c.stream.task.stream.frames.items.length) :
    c.stream.task.stream.frames.items ≠ [] := by
  intro hnil
  rw [h.capacity, hnil] at hfull
  exact absurd hfull (by decide)

/-- A handler at work goes on, or waits with a frame for a caller who can read
or get its answer. -/
theorem Sound.goesOn_working (h : Sound actions ending hub c) {rest : List Action}
    (activity : c.stream.task.activity = .performing rest ending)
    (answer : c.answer = none ∨ c.answer = some (.ok ())) (isOver : c.isOver = false) :
    (∀ heedPeer now, c.next (.work heedPeer now) ≠ c) ∨ c.next .answer ≠ c ∨ c.next .read ≠ c := by
  cases rest with
  | nil =>
    refine .inl fun heedPeer now => ?_
    rw [next_work, step_of_nil heedPeer now c.hub activity]
    intro heq
    have hactivity : Activity.ended ending = c.stream.task.activity :=
      congrArg (fun c => c.stream.task.activity) heq
    rw [activity] at hactivity
    cases hactivity
  | cons action rest =>
    have hshorter : Activity.performing rest ending ≠ c.stream.task.activity := by
      rw [activity]
      intro heq
      exact List.cons_ne_self action rest (Activity.performing.inj heq).1.symm
    cases action with
    | accept =>
      refine .inl fun heedPeer now => ?_
      rw [next_work, step_of_accept heedPeer now c.hub activity]
      intro heq
      exact hshorter (congrArg (fun c => c.stream.task.activity) heq)
    | send msg =>
      cases haccepted : c.stream.task.stream.isAccepted with
      | false =>
        refine .inl fun heedPeer now => ?_
        rw [next_work, step_of_send heedPeer now c.hub activity haccepted]
        intro heq
        have hsignal : c.stream.task.stream.accept.isAccepted = c.stream.task.stream.isAccepted :=
          congrArg (fun c => c.stream.task.stream.isAccepted) heq
        rw [haccepted, FrameStream.isAccepted_accept] at hsignal
        cases hsignal
      | true =>
        by_cases hfull : c.stream.task.stream.frames.capacity ≤ c.stream.task.stream.frames.items.length
        · refine .inr ?_
          rcases answer with answer | answer
          · refine .inl ?_
            rw [next_answer_ok answer (answer?_of_accepted haccepted)]
            intro heq
            have hanswer : some (.ok ()) = c.answer := congrArg Conversation.answer heq
            rw [answer] at hanswer
            cases hanswer
          · exact .inr (h.read_ne answer isOver (h.items_ne_nil hfull))
        · refine .inl fun heedPeer now => ?_
          rw [next_work, step_of_send_accepted heedPeer now c.hub activity haccepted h.reader, if_neg hfull]
          intro heq
          exact hshorter (congrArg (fun c => c.stream.task.activity) heq)

/-- **As long as a conversation is not complete, some move brings it
further.** -/
theorem Sound.goesOn (h : Sound actions ending hub c) (hc : c.isComplete = false) :
    (∀ heedPeer now, c.next (.work heedPeer now) ≠ c) ∨ c.next .answer ≠ c ∨ c.next .supervise ≠ c
      ∨ c.next .read ≠ c := by
  cases h.progress with
  | working done rest hactions activity hwritten accepted begun answer supervision hhub isOver =>
    rcases h.goesOn_working activity (answer.imp_right And.left) isOver with hwork | hanswer | hread
    · exact .inl hwork
    · exact .inr (.inl hanswer)
    · exact .inr (.inr (.inr hread))
  | ended activity hwritten accepted answer supervision hhub isOver =>
    rcases answer with answer | ⟨answer, -⟩
    · refine .inr (.inl fun heq => ?_)
      have hanswer : (c.next .answer).answer = none := by
        rw [heq]
        exact answer
      cases haccepted : c.stream.task.stream.isAccepted with
      | true =>
        rw [next_answer_ok answer (answer?_of_accepted haccepted)] at hanswer
        cases hanswer
      | false =>
        have htask : c.stream.task.answer? = some ending :=
          (answer?_of_not_accepted haccepted).trans (outcome?_of_ended activity)
        cases ending with
        | ok =>
          rw [next_answer_ok answer htask] at hanswer
          cases hanswer
        | error e =>
          rw [next_answer_error answer htask] at hanswer
          cases hanswer
    · refine .inr (.inr (.inl fun heq => ?_))
      have hsupervision : (c.next .supervise).stream.supervision = .watching := by
        rw [heq]
        exact supervision
      rw [next_supervise (isStreamed_of_answer answer)] at hsupervision
      cases ending with
      | ok =>
        rw [supervise_of_ok c.hub supervision (outcome?_of_ended activity)] at hsupervision
        cases hsupervision
      | error e =>
        rw [supervise_of_error c.hub supervision (outcome?_of_ended activity)] at hsupervision
        cases hsupervision
  | refused e hending hactions activity answer =>
    unfold isComplete at hc
    rw [answer] at hc
    cases hc
  | reporting e hending hactions activity hwritten answer supervision hhub isOver =>
    by_cases hfull : c.stream.task.stream.frames.capacity ≤ c.stream.task.stream.frames.items.length
    · exact .inr (.inr (.inr (h.read_ne answer isOver (h.items_ne_nil hfull))))
    · refine .inr (.inr (.inl fun heq => ?_))
      have hsupervision : (c.next .supervise).stream.supervision
          = .reporting (encodeLine (ErrorFrame.ofFailure e)) := by
        rw [heq]
        exact supervision
      rw [next_supervise (isStreamed_of_answer answer), supervise_of_reporting c.hub supervision h.reader,
        if_neg hfull] at hsupervision
      cases hsupervision
  | finished hactions activity hwritten answer supervision hhub =>
    have hover : c.isOver = false := by
      unfold isComplete at hc
      rw [answer] at hc
      exact hc
    cases hitems : c.stream.task.stream.frames.items with
    | cons frame rest =>
      refine .inr (.inr (.inr (h.read_ne answer hover ?_)))
      rw [hitems]
      exact List.cons_ne_nil frame rest
    | nil =>
      refine .inr (.inr (.inr fun heq => ?_))
      rw [next_read_of_nil (isStreamed_of_answer answer) hover h.reader hitems, isSending_of_finished supervision,
        if_neg Bool.false_ne_true] at heq
      have hover' : true = c.isOver := congrArg Conversation.isOver heq
      rw [hover] at hover'
      cases hover'

/-! ## §2. It comes to an end. -/

/-- A schedule of moves in which everyone's turn comes again and again. -/
structure Fair (schedule : Nat → Move) : Prop where
  work : ∀ k, ∃ i ≥ k, ∃ heedPeer now, schedule i = .work heedPeer now
  answer : ∀ k, ∃ i ≥ k, schedule i = .answer
  supervise : ∀ k, ∃ i ≥ k, schedule i = .supervise
  read : ∀ k, ∃ i ≥ k, schedule i = .read

/-- Everyone in turn. -/
def inTurn (now : Instant) (i : Nat) : Move :=
  match i % 4 with
  | 0 => .work true now
  | 1 => .answer
  | 2 => .supervise
  | _ => .read

theorem fair_inTurn (now : Instant) : Fair (inTurn now) := by
  have hturn : ∀ k r, r < 4 → ∃ i ≥ k, i % 4 = r := fun k r hr => ⟨4 * k + r, by omega, by omega⟩
  refine ⟨fun k => ?_, fun k => ?_, fun k => ?_, fun k => ?_⟩
  · obtain ⟨i, hi, hr⟩ := hturn k 0 (by decide)
    exact ⟨i, hi, true, now, by simp only [inTurn, hr]⟩
  · obtain ⟨i, hi, hr⟩ := hturn k 1 (by decide)
    exact ⟨i, hi, by simp only [inTurn, hr]⟩
  · obtain ⟨i, hi, hr⟩ := hturn k 2 (by decide)
    exact ⟨i, hi, by simp only [inTurn, hr]⟩
  · obtain ⟨i, hi, hr⟩ := hturn k 3 (by decide)
    exact ⟨i, hi, by simp only [inTurn, hr]⟩

/-- The conversation after the first so many moves of a schedule. -/
def after (c : Conversation) (schedule : Nat → Move) (k : Nat) : Conversation := c.run ((List.range k).map schedule)

theorem after_succ (c : Conversation) (schedule : Nat → Move) (k : Nat) :
    c.after schedule (k + 1) = (c.after schedule k).next (schedule k) := by
  unfold after
  rw [List.range_succ, List.map_append, run_append]
  rfl

/-- In time, a conversation gets further or its schedule has nothing for it
that would. -/
theorem Sound.stays_or_advances (h : Sound actions ending hub c) (schedule : Nat → Move) (k i : Nat) (hi : k ≤ i) :
    c.after schedule i = c.after schedule k
      ∨ ∃ j ≥ k, (c.after schedule j).left < (c.after schedule k).left := by
  induction hi with
  | refl => exact .inl rfl
  | @step i hi ih =>
    rcases ih with hsame | hleft
    · rcases (h.run ((List.range i).map schedule)).next (schedule i) with hnext | ⟨-, hnext⟩
      · refine .inl ?_
        rw [after_succ]
        exact hnext.trans hsame
      · refine .inr ⟨i + 1, Nat.le_succ_of_le hi, ?_⟩
        rw [after_succ, ← hsame]
        exact hnext
    · exact .inr hleft

/-- **Where everyone's turn comes again and again, the conversation is
complete in the end.** -/
theorem Sound.completes (h : Sound actions ending hub c) {schedule : Nat → Move} (hfair : Fair schedule) :
    ∃ k, (c.after schedule k).isComplete = true := by
  -- by induction on what is left to do
  have hcompletes : ∀ n k, (c.after schedule k).left = n → ∃ k, (c.after schedule k).isComplete = true := by
    intro n
    induction n using Nat.strongRecOn with
    | ind n ih =>
      intro k hn
      cases hc : (c.after schedule k).isComplete with
      | true => exact ⟨k, hc⟩
      | false =>
        have hsound : Sound actions ending hub (c.after schedule k) := h.run _
        -- the turn comes of a move that would change something
        have hturn : ∃ i ≥ k, (c.after schedule k).next (schedule i) ≠ c.after schedule k := by
          rcases hsound.goesOn hc with hmove | hmove | hmove | hmove
          · obtain ⟨i, hi, heedPeer, now, heq⟩ := hfair.work k
            exact ⟨i, hi, heq ▸ hmove heedPeer now⟩
          · obtain ⟨i, hi, heq⟩ := hfair.answer k
            exact ⟨i, hi, heq ▸ hmove⟩
          · obtain ⟨i, hi, heq⟩ := hfair.supervise k
            exact ⟨i, hi, heq ▸ hmove⟩
          · obtain ⟨i, hi, heq⟩ := hfair.read k
            exact ⟨i, hi, heq ▸ hmove⟩
        obtain ⟨i, hi, hmove⟩ := hturn
        rcases h.stays_or_advances schedule k (i + 1) (Nat.le_succ_of_le hi) with hsame | ⟨j, -, hleft⟩
        · rcases h.stays_or_advances schedule k i hi with hsame' | ⟨j, -, hleft⟩
          · rw [after_succ, hsame'] at hsame
            exact absurd hsame hmove
          · exact ih _ (hn ▸ hleft) j rfl
        · exact ih _ (hn ▸ hleft) j rfl
  exact hcompletes _ 0 rfl

/-! ## §3. What the caller was told. -/

/-- A complete conversation stays so. -/
theorem isComplete_next (h : c.isComplete = true) (move : Move) :
    (c.next move).isComplete = true ∧ (c.next move).answer = c.answer ∧ (c.next move).body = c.body := by
  unfold isComplete at h
  cases hanswer : c.answer with
  | none => simp [hanswer] at h
  | some r =>
    have hover : c.isStreamed = true → c.isOver = true := by
      intro hstreamed
      unfold isStreamed at hstreamed
      rw [hanswer] at h hstreamed
      cases r with
      | ok => exact h
      | error e => cases hstreamed
    have hcomplete : ∀ c' : Conversation, c'.answer = c.answer → c'.isOver = c.isOver → c'.body = c.body →
        c'.isComplete = true ∧ c'.answer = some r ∧ c'.body = c.body := by
      intro c' hanswer' hover' hbody'
      refine ⟨?_, hanswer'.trans hanswer, hbody'⟩
      unfold isComplete
      rw [hanswer', hover']
      exact h
    cases move with
    | work heedPeer now => exact hcomplete _ rfl rfl rfl
    | answer =>
      rw [next_answer_of_answered hanswer]
      exact hcomplete c rfl rfl rfl
    | supervise =>
      cases hstreamed : c.isStreamed with
      | true =>
        rw [next_supervise hstreamed]
        exact hcomplete _ rfl rfl rfl
      | false =>
        rw [(next_of_not_streamed hstreamed).1]
        exact hcomplete c rfl rfl rfl
    | read =>
      cases hstreamed : c.isStreamed with
      | true =>
        rw [next_read_of_over (hover hstreamed)]
        exact hcomplete c rfl rfl rfl
      | false =>
        rw [(next_of_not_streamed hstreamed).2]
        exact hcomplete c rfl rfl rfl

theorem isComplete_run (h : c.isComplete = true) (moves : List Move) :
    (c.run moves).isComplete = true ∧ (c.run moves).answer = c.answer ∧ (c.run moves).body = c.body := by
  induction moves generalizing c with
  | nil => exact ⟨h, rfl, rfl⟩
  | cons move moves ih =>
    obtain ⟨hcomplete, hanswer, hbody⟩ := isComplete_next h move
    obtain ⟨hcomplete', hanswer', hbody'⟩ := ih hcomplete
    exact ⟨hcomplete', hanswer'.trans hanswer, hbody'.trans hbody⟩

/-- How many errors are to be counted under a code. -/
def errorsOf (ending : Outcome Unit) (code : Code) : UInt64 :=
  match ending with
  | .ok () => 0
  | .error e => if code = e.code then 1 else 0

/-- What a caller has been told in the end, whose stream would have this
number, and what was counted on the way. -/
structure Told (actions : List Action) (ending : Outcome Unit) (n : Nat) (hub : Hub) (c : Conversation) : Prop where
  -- Nothing was accepted, and the handler failed: that is the response.
  refused : actions = [] → ∀ e, ending = .error e →
    c.response? n = some (.ofFailure e) ∧ (Response.ofFailure e).status = e.code.status
      ∧ (Response.ofFailure e).contentType = some "application/json" ∧ c.body = []
  -- Nothing was accepted, and the handler ended well: there is nothing in the stream.
  empty : actions = [] → ending = .ok () →
    c.response? n = some ⟨200, some "application/x-ndjson", none, .stream n⟩ ∧ c.body = []
  -- The stream was accepted: it has the messages, and then the failure.
  streamed : actions ≠ [] →
    c.response? n = some ⟨200, some "application/x-ndjson", none, .stream n⟩
      ∧ c.body = lines actions ++ lastLine ending
  -- A failure is counted once, under its code.
  errors : ∀ code, c.hub.metrics.errors code = hub.metrics.errors code + errorsOf ending code
  -- Nothing comes after that.
  final : ∀ moves, (c.run moves).isComplete = true ∧ (c.run moves).response? n = c.response? n
    ∧ (c.run moves).body = c.body

theorem errors_counted (hub : Hub) (ending : Outcome Unit) (code : Code) :
    (counted hub ending).metrics.errors code = hub.metrics.errors code + errorsOf ending code := by
  cases ending with
  | ok => exact (UInt64.add_zero _).symm
  | error e => exact hub.metrics.errors_countError e.code code

/-- **However it went, the caller of a complete conversation was told the
same.** -/
theorem Sound.told (h : Sound actions ending hub c) (hc : c.isComplete = true) (n : Nat) :
    Told actions ending n hub c := by
  have hfinal : ∀ moves, (c.run moves).isComplete = true ∧ (c.run moves).response? n = c.response? n
      ∧ (c.run moves).body = c.body := by
    intro moves
    obtain ⟨hcomplete, hanswer, hbody⟩ := isComplete_run hc moves
    refine ⟨hcomplete, ?_, hbody⟩
    unfold response?
    rw [hanswer]
  have hnotOver : c.isOver = false → c.answer = none ∨ c.answer = some (.ok ()) → False := by
    intro hover hanswer
    unfold isComplete at hc
    rcases hanswer with hanswer | hanswer
    · simp [hanswer] at hc
    · simp [hanswer, hover] at hc
  cases h.progress with
  | working _ _ _ _ _ _ _ answer _ _ isOver => exact (hnotOver isOver (answer.imp_right And.left)).elim
  | ended _ _ _ answer _ _ isOver => exact (hnotOver isOver (answer.imp_right And.left)).elim
  | reporting _ _ _ _ _ answer _ _ isOver => exact (hnotOver isOver (.inr answer)).elim
  | refused e hending hactions activity answer body hhub =>
    subst hending
    have hresponse : c.response? n = some (.ofFailure e) := by
      unfold response?
      rw [answer]
      rfl
    exact {
      refused := fun _ e' he => by
        cases he
        exact ⟨hresponse, rfl, rfl, body⟩
      empty := fun _ hok => by cases hok
      streamed := fun hne => absurd hactions hne
      errors := fun code => by
        rw [hhub]
        exact errors_counted hub (.error e) code
      final := hfinal }
  | finished hactions activity hwritten answer supervision hhub isOver =>
    have hover : c.isOver = true := by
      unfold isComplete at hc
      rw [answer] at hc
      exact hc
    have hbody : c.body = lines actions ++ lastLine ending := by
      rw [← hwritten, written, isOver hover, List.append_nil]
    have hresponse : c.response? n = some ⟨200, some "application/x-ndjson", none, .stream n⟩ := by
      unfold response?
      rw [answer]
      rfl
    exact {
      refused := fun hnil e he => by
        rw [hactions hnil] at he
        cases he
      empty := fun hnil hok => by
        subst hnil hok
        exact ⟨hresponse, hbody⟩
      streamed := fun _ => ⟨hresponse, hbody⟩
      errors := fun code => by
        rw [hhub]
        exact errors_counted hub ending code
      final := hfinal }

/-- The lines come in order: what the caller has read is a beginning of it. -/
theorem Sound.reads_in_order (h : Sound actions ending hub c) : c.body <+: lines actions ++ lastLine ending := by
  have hread : c.body <+: c.written := List.prefix_append _ _
  cases h.progress with
  | working done rest hactions activity hwritten =>
    have hlines : lines done <+: lines actions := by
      rw [hactions]
      unfold lines
      rw [List.filterMap_append]
      exact List.prefix_append _ _
    rw [hwritten] at hread
    exact (hread.trans hlines).trans (List.prefix_append _ _)
  | ended _ hwritten | reporting _ _ _ _ hwritten =>
    rw [hwritten] at hread
    exact hread.trans (List.prefix_append _ _)
  | refused _ _ _ _ _ body =>
    rw [body]
    exact List.nil_prefix
  | finished _ _ hwritten =>
    rw [hwritten] at hread
    exact hread

end

end Conversation

/-! ## §4. Streaming calls. -/

namespace Gateway

/-- A streaming call that the policy denies is answered with that failure,
and any other is granted its handler. -/
theorem judge_of_streaming (g : Gateway) (wall : Int64) {call : Call} (req : Json.Value)
    (hkind : (g.routeOf call).kind = .serverStreaming) :
    (∃ e g', g.judge wall call req = (.answered (.ofFailure e), g') ∧ g'.streams = g.streams
        ∧ ∀ code, g'.hub.metrics.errors code
          = g.hub.metrics.errors code + if code = e.code then 1 else 0)
      ∨ ∃ g', g.judge wall call req = (.granted ((g.routeOf call).service.stream call req), g')
        ∧ g'.streams = g.streams ∧ ∀ code, g'.hub.metrics.errors code = g.hub.metrics.errors code := by
  cases hverdict : g.policy.authorize call.consumer call.method.full with
  | deny reason =>
    rw [judge_of_deny g wall req hverdict]
    exact .inl ⟨reason.failure, _, rfl, rfl, (g.hub.denied reason).metrics.errors_countError _⟩
  | allow rule =>
    rw [judge_of_allow g wall req hverdict, serveBy_of_streaming hkind]
    exact .inr ⟨_, rfl, rfl, fun _ => rfl⟩

end Gateway

namespace Conversation

/-- **The shape of a streaming response.**  A streaming call that is not
allowed gets the plain failure, and otherwise its handler begins.  Take any
handler that accepts, sends and ends, from then on.  The gateway itself
begins it and lets it work as one conversation does.  However the moves of
the handler, the answer, the line that reports a failure and the caller who
reads follow one another, the conversation is completed if everyone's turn
comes again and again; on the way the caller reads a beginning of the whole;
and in the end it has been told the whole, and the failure is counted
once. -/
theorem fair_run_completes_told (g : Gateway) (now : Instant) (actions : List Action) (ending : Outcome Unit) :
    let c := start (.perform actions ending) now g.hub
    let n := g.streams.length
    (∀ wall call req, (g.routeOf call).kind = .serverStreaming →
        (∃ e g', g.judge wall call req = (.answered (.ofFailure e), g') ∧ g'.streams = g.streams
            ∧ ∀ code, g'.hub.metrics.errors code
              = g.hub.metrics.errors code + if code = e.code then 1 else 0)
          ∨ ∃ g', g.judge wall call req = (.granted ((g.routeOf call).service.stream call req), g')
            ∧ g'.streams = g.streams ∧ ∀ code, g'.hub.metrics.errors code = g.hub.metrics.errors code)
      ∧ (∃ moves r, (c.run moves).response? n = some r
          ∧ g.beginStream now (.perform actions ending)
            = (.answered r, { g with
                hub := (c.run moves).hub
                streams := g.streams ++ if (c.run moves).isStreamed then [(c.run moves).stream] else [] }))
      ∧ (∀ moves now', (c.run moves).isStreamed = true → ∃ more,
          c.run (moves ++ more) = { c.run moves with
            stream := ((c.run moves).stream.run now' (c.run moves).hub).1
            hub := ((c.run moves).stream.run now' (c.run moves).hub).2 })
      ∧ (∀ schedule, Fair schedule → ∃ k, (c.after schedule k).isComplete = true)
      ∧ ∀ moves, (c.run moves).body <+: lines actions ++ lastLine ending
        ∧ ((c.run moves).isComplete = true → Told actions ending n g.hub (c.run moves)) := by
  intro c n
  have hsound : Sound actions ending g.hub c := sound_start actions ending now g.hub
  refine ⟨fun wall call req hkind => g.judge_of_streaming wall req hkind, ?_, ?_, ?_, ?_⟩
  · obtain ⟨moves, c', r, hrun, hresponse, hbegin⟩ := beginStream_run g now actions ending
    subst hrun
    exact ⟨moves, r, hresponse, hbegin⟩
  · intro moves now' hstreamed
    obtain ⟨more, hmore⟩ := run_openStream (c.run moves) hstreamed now'
    exact ⟨more, (c.run_append moves more).trans hmore⟩
  · exact fun schedule hfair => hsound.completes hfair
  · exact fun moves => ⟨(hsound.run moves).reads_in_order, fun hc => (hsound.run moves).told hc n⟩

/-- A call may go on to its handler, one that sends a message and then fails.
Everyone in turn, the caller gets the message, and the failure as the last
line. -/
theorem failure_is_last_line :
    ∃ g call, Gateway.start { version := 1, acl := [("amy", ["/main.Admin/*"])] } = .ok g
      ∧ (∀ wall, (∃ e, (g.judge wall call .null).1 = .answered (.ofFailure e))
          ∨ (g.judge wall call .null).1 = .granted .followLog)
      ∧ ∀ now, ∃ k,
        let c := (start (.perform [.send .null] (.error .shuttingDown)) now g.hub).after (inTurn now) k
        c.response? 0 = some (.ofStream 0)
          ∧ c.body = [encodeLine Json.Value.null, encodeLine (ErrorFrame.ofFailure .shuttingDown)]
          ∧ c.hub.metrics.errors .unavailable = g.hub.metrics.errors .unavailable + 1 := by
  let method : MethodName := ⟨"main.Admin", "Logging", ⟨by decide, by decide⟩, ⟨by decide, by decide⟩⟩
  let call := Call.ofRequest method [("Consumer", Bytes.ofText "amy")] none
  have ⟨g, hstart⟩ : ∃ g, Gateway.start { version := 1, acl := [("amy", ["/main.Admin/*"])] } = .ok g := ⟨_, rfl⟩
  have hroute : g.routeOf call = ⟨.serverStreaming, Service.admin ({} : ServerConfig).maxStatsIntervalSecs⟩ := by
    unfold Gateway.routeOf
    rw [(Gateway.of_start_eq_ok hstart).2]
    rfl
  have hstreams : g.streams = [] := by
    cases hstart
    rfl
  refine ⟨g, call, hstart, fun wall => ?_, fun now => ?_⟩
  · obtain ⟨hjudge, -⟩ := fair_run_completes_told g ⟨0, 0⟩ [.send .null] (.error .shuttingDown)
    rcases hjudge wall call .null (by rw [hroute]) with ⟨e, g', heq, -⟩ | ⟨g', heq, -⟩
    · exact .inl ⟨e, by rw [heq]⟩
    · refine .inr ?_
      rw [heq, hroute]
      rfl
  · obtain ⟨-, -, -, hcompletes, htells⟩ := fair_run_completes_told g now [.send .null] (.error .shuttingDown)
    obtain ⟨k, hk⟩ := hcompletes (inTurn now) (fair_inTurn now)
    obtain ⟨-, htold⟩ := htells ((List.range k).map (inTurn now))
    rw [hstreams] at htold
    obtain ⟨hresponse, hbody⟩ := (htold hk).streamed (List.cons_ne_nil _ _)
    exact ⟨k, hresponse, hbody, (htold hk).errors .unavailable⟩

end Conversation

end CallGateway
