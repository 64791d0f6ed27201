/-
  CallGateway.Proofs.OpenStream.Shape
  ───────────────────────────────────
  **THE SHAPE OF A STREAMING ANSWER.**

  A handler accepts its stream, sends messages and ends.  In whatever order
  its steps, the answer, the line that reports a failure and the reading of
  the caller follow one another, what the caller ends up with is the same: a
  plain failure where nothing was accepted and the handler failed, and
  otherwise the messages in their order, with the failure as the last line.

  `Sound` says how far a conversation has come, and what was written so far;
  every move that changes anything brings it further (`Sound.next`), so that
  it holds however the moves follow one another (`Sound.run`).
-/
import CallGateway.Proofs.OpenStream.Conversation

namespace CallGateway.Conversation

/-! ## §1. What is to be said. -/

/-- The lines that some actions send. -/
def lines (actions : List Action) : List Bytes :=
  actions.filterMap fun
    | .accept => none
    | .send msg => some (encodeLine msg)

/-- The last line of a stream whose handler came out like this. -/
def lastLine : Outcome Unit → List Bytes
  | .ok () => []
  | .error e => [encodeLine (ErrorFrame.ofFailure e)]

/-- The hub, once the failure of a handler is counted. -/
def counted (hub : Hub) : Outcome Unit → Hub
  | .ok () => hub
  | .error e => hub.countError e.code

/-- What was written into the stream: what the caller has read, and what it
can read still. -/
def written (c : Conversation) : List Bytes := c.body ++ c.stream.task.stream.frames.items

/-! ## §2. How far a conversation has come. -/

/-- How far a conversation has come. -/
inductive Progress (actions : List Action) (ending : Outcome Unit) (hub : Hub) (c : Conversation) : Prop where
  -- The handler is at work.
  | working (done rest : List Action) (hactions : actions = done ++ rest)
      (activity : c.stream.task.activity = .performing rest ending) (hwritten : c.written = lines done)
      (accepted : c.stream.task.stream.isAccepted = true → actions ≠ [])
      (begun : done ≠ [] → c.stream.task.stream.isAccepted = true)
      (answer : c.answer = none ∨ c.answer = some (.ok ()) ∧ c.stream.task.stream.isAccepted = true)
      (supervision : c.stream.supervision = .watching) (hhub : c.hub = hub) (isOver : c.isOver = false)
  -- It has ended, and nobody has looked after that yet.
  | ended (activity : c.stream.task.activity = .ended ending) (hwritten : c.written = lines actions)
      (accepted : c.stream.task.stream.isAccepted = true ↔ actions ≠ [])
      (answer : c.answer = none ∨ c.answer = some (.ok ()) ∧ (actions = [] → ending = .ok ()))
      (supervision : c.stream.supervision = .watching) (hhub : c.hub = hub) (isOver : c.isOver = false)
  -- It failed before its stream was accepted, and that was the answer.
  | refused (e : Failure) (hending : ending = .error e) (hactions : actions = [])
      (activity : c.stream.task.activity = .ended ending) (answer : c.answer = some (.error e))
      (body : c.body = []) (hhub : c.hub = hub.countError e.code)
  -- Its failure is counted, and the line that says so waits for room.
  | reporting (e : Failure) (hending : ending = .error e) (hactions : actions ≠ [])
      (activity : c.stream.task.activity = .ended ending) (hwritten : c.written = lines actions)
      (answer : c.answer = some (.ok ()))
      (supervision : c.stream.supervision = .reporting (encodeLine (ErrorFrame.ofFailure e)))
      (hhub : c.hub = hub.countError e.code) (isOver : c.isOver = false)
  -- Nothing more will be written.
  | finished (hactions : actions = [] → ending = .ok ()) (activity : c.stream.task.activity = .ended ending)
      (hwritten : c.written = lines actions ++ lastLine ending) (answer : c.answer = some (.ok ()))
      (supervision : c.stream.supervision = .finished) (hhub : c.hub = counted hub ending)
      (isOver : c.isOver = true → c.stream.task.stream.frames.items = [])

/-- A conversation over these actions, with a caller that reads on. -/
structure Sound (actions : List Action) (ending : Outcome Unit) (hub : Hub) (c : Conversation) : Prop where
  reader : c.stream.task.stream.frames.reader = .listening
  capacity : c.stream.task.stream.frames.capacity = Gateway.frameBuffer
  progress : Progress actions ending hub c

/-- How much a handler has left to do. -/
def activityLeft : Activity → Nat
  | .performing rest _ => 3 * rest.length + 1
  | _ => 0

/-- How much there is left to do around a handler. -/
def supervisionLeft : Supervision → Nat
  | .watching => 3
  | .reporting _ => 2
  | .finished => 0

/-- How much is left to do in a conversation, the frames on their way
included. -/
def left (c : Conversation) : Nat :=
  activityLeft c.stream.task.activity + (!c.stream.task.stream.isAccepted).toNat
    + c.stream.task.stream.frames.items.length + supervisionLeft c.stream.supervision
    + c.answer.isNone.toNat + (!c.isOver).toNat

/-- A move changes nothing, or brings the conversation further. -/
def Advances (actions : List Action) (ending : Outcome Unit) (hub : Hub) (c c' : Conversation) : Prop :=
  c' = c ∨ Sound actions ending hub c' ∧ c'.left < c.left

section
variable {actions : List Action} {ending : Outcome Unit} {hub : Hub} {c : Conversation}

theorem sound_start (actions : List Action) (ending : Outcome Unit) (now : Instant) (hub : Hub) :
    Sound actions ending hub (start (.perform actions ending) now hub) where
  reader := rfl
  capacity := rfl
  progress := .working [] actions rfl rfl rfl nofun (fun h => absurd rfl h) (.inl rfl) rfl rfl rfl

/-! ## §3. Each move. -/

/-- A handler that has ended takes no step. -/
theorem next_work_of_ended {result : Outcome Unit} (h : c.stream.task.activity = .ended result) (heedPeer : Bool)
    (now : Instant) : c.next (.work heedPeer now) = c := by
  rw [next_work, step_of_ended heedPeer now c.hub h]

theorem Sound.work (h : Sound actions ending hub c) (heedPeer : Bool) (now : Instant) :
    Advances actions ending hub c (c.next (.work heedPeer now)) := by
  cases h.progress with
  | working done rest hactions activity hwritten accepted begun answer supervision hhub isOver =>
    cases rest with
    | nil =>
      rw [List.append_nil] at hactions
      subst hactions
      rw [next_work, step_of_nil heedPeer now c.hub activity]
      refine .inr ⟨⟨h.reader, h.capacity, .ended rfl hwritten ⟨accepted, begun⟩ ?_ supervision hhub isOver⟩, ?_⟩
      · rcases answer with answer | ⟨answer, haccepted⟩
        · exact .inl answer
        · exact .inr ⟨answer, fun hnil => absurd hnil (accepted haccepted)⟩
      · unfold left
        simp only [activity, activityLeft]
        omega
    | cons action rest =>
      have hne : actions ≠ [] := by
        rw [hactions]
        simp
      cases action with
      | accept =>
        rw [next_work, step_of_accept heedPeer now c.hub activity]
        refine .inr ⟨⟨h.reader, h.capacity, .working (done ++ [.accept]) rest ?_ rfl ?_ (fun _ => hne)
          (fun _ => FrameStream.isAccepted_accept _) ?_ supervision hhub isOver⟩, ?_⟩
        · rw [hactions, List.append_assoc]
          rfl
        · show c.written = _
          rw [hwritten]
          simp [lines]
        · exact answer.imp id fun h => ⟨h.1, FrameStream.isAccepted_accept _⟩
        · unfold left
          simp only [activity, activityLeft, FrameStream.isAccepted_accept, FrameStream.frames_accept,
            List.length_cons, Bool.not_true, Bool.toNat_false]
          omega
      | send msg =>
        cases haccepted : c.stream.task.stream.isAccepted with
        | false =>
          rw [next_work, step_of_send heedPeer now c.hub activity haccepted]
          refine .inr ⟨⟨h.reader, h.capacity, .working done (.send msg :: rest) hactions activity hwritten
            (fun _ => hne) (fun _ => FrameStream.isAccepted_accept _) ?_ supervision hhub isOver⟩, ?_⟩
          · exact answer.imp id fun h => ⟨h.1, FrameStream.isAccepted_accept _⟩
          · unfold left
            simp only [haccepted, FrameStream.isAccepted_accept, FrameStream.frames_accept, Bool.not_true,
              Bool.not_false, Bool.toNat_false, Bool.toNat_true]
            omega
        | true =>
          rw [next_work, step_of_send_accepted heedPeer now c.hub activity haccepted h.reader]
          by_cases hfull : c.stream.task.stream.frames.capacity ≤ c.stream.task.stream.frames.items.length
          · rw [if_pos hfull]
            exact .inl rfl
          · rw [if_neg hfull]
            refine .inr ⟨⟨h.reader, h.capacity, .working (done ++ [.send msg]) rest ?_ rfl ?_ (fun _ => hne)
              (fun _ => haccepted) (answer.imp id fun h => ⟨h.1, haccepted⟩) supervision hhub isOver⟩, ?_⟩
            · rw [hactions, List.append_assoc]
              rfl
            · show c.body ++ (c.stream.task.stream.frames.items ++ [encodeLine msg]) = _
              have hwritten : c.body ++ c.stream.task.stream.frames.items = lines done := hwritten
              rw [← List.append_assoc, hwritten]
              simp [lines]
            · unfold left
              simp only [activity, activityLeft, FrameStream.isAccepted_frames, List.length_append, List.length_cons,
                List.length_nil]
              omega
  | ended activity | refused _ _ _ activity | reporting _ _ _ activity | finished _ activity =>
    exact .inl (next_work_of_ended activity heedPeer now)

/-- A call is answered with its stream once that is accepted, or once the
handler has ended well, and with a failure where it failed before that. -/
theorem Sound.answer (h : Sound actions ending hub c) : Advances actions ending hub c (c.next .answer) := by
  cases h.progress with
  | working done rest hactions activity hwritten accepted begun answer supervision hhub isOver =>
    rcases answer with answer | ⟨answer, -⟩
    · cases haccepted : c.stream.task.stream.isAccepted with
      | true =>
        rw [next_answer_ok answer (answer?_of_accepted haccepted)]
        refine .inr ⟨⟨h.reader, h.capacity, .working done rest hactions activity hwritten accepted begun
          (.inr ⟨rfl, haccepted⟩) supervision hhub isOver⟩, ?_⟩
        unfold left
        simp only [answer, Option.isNone_some, Option.isNone_none, Bool.toNat_false, Bool.toNat_true]
        omega
      | false =>
        -- nothing has come of the handler yet
        have htask : c.stream.task.answer? = none :=
          (answer?_of_not_accepted haccepted).trans (outcome?_of_performing activity)
        refine .inl ?_
        unfold next
        simp only [answer, htask]
    · exact .inl (next_answer_of_answered answer)
  | ended activity hwritten accepted answer supervision hhub isOver =>
    rcases answer with answer | ⟨answer, -⟩
    · have hok : c.stream.task.answer? = some (.ok ()) → (actions = [] → ending = .ok ()) →
          Advances actions ending hub c (c.next .answer) := by
        intro htask hnil
        rw [next_answer_ok answer htask]
        refine .inr ⟨⟨h.reader, h.capacity, .ended activity hwritten accepted (.inr ⟨rfl, hnil⟩) supervision hhub
          isOver⟩, ?_⟩
        unfold left
        simp only [answer, Option.isNone_some, Option.isNone_none, Bool.toNat_false, Bool.toNat_true]
        omega
      cases haccepted : c.stream.task.stream.isAccepted with
      | true => exact hok (answer?_of_accepted haccepted) fun hnil => absurd hnil (accepted.1 haccepted)
      | false =>
        have htask : c.stream.task.answer? = some ending :=
          (answer?_of_not_accepted haccepted).trans (outcome?_of_ended activity)
        have hactions : actions = [] := by
          cases actions with
          | nil => rfl
          | cons action rest =>
            rw [accepted.2 (List.cons_ne_nil action rest)] at haccepted
            cases haccepted
        cases ending with
        | ok => exact hok htask fun _ => rfl
        | error e =>
          have hbody : c.body ++ c.stream.task.stream.frames.items = [] := by
            rw [hactions] at hwritten
            exact hwritten
          rw [next_answer_error answer htask]
          refine .inr ⟨⟨h.reader, h.capacity, .refused e rfl hactions activity rfl
            (List.append_eq_nil_iff.1 hbody).1 ?_⟩, ?_⟩
          · show c.hub.countError e.code = _
            rw [hhub]
          · unfold left
            simp only [answer, Option.isNone_some, Option.isNone_none, Bool.toNat_false, Bool.toNat_true]
            omega
    · exact .inl (next_answer_of_answered answer)
  | refused _ _ _ _ answer => exact .inl (next_answer_of_answered answer)
  | reporting _ _ _ _ _ answer => exact .inl (next_answer_of_answered answer)
  | finished _ _ _ answer => exact .inl (next_answer_of_answered answer)

/-- A stream is the answer where the call was answered well. -/
theorem isStreamed_of_answer (h : c.answer = some (.ok ())) : c.isStreamed = true := by
  unfold isStreamed
  rw [h]

theorem not_isStreamed_of_none (h : c.answer = none) : c.isStreamed = false := by
  unfold isStreamed
  rw [h]

theorem not_isStreamed_of_error {e : Failure} (h : c.answer = some (.error e)) : c.isStreamed = false := by
  unfold isStreamed
  rw [h]

/-- The failure of a handler is counted and becomes the last line. -/
theorem Sound.supervise (h : Sound actions ending hub c) :
    Advances actions ending hub c (c.next .supervise) := by
  cases h.progress with
  | working done rest hactions activity hwritten accepted begun answer supervision hhub isOver =>
    rcases answer with answer | ⟨answer, -⟩
    · exact .inl (next_of_not_streamed (not_isStreamed_of_none answer)).1
    · rw [next_supervise (isStreamed_of_answer answer),
        supervise_of_working c.hub supervision (outcome?_of_performing activity)]
      exact .inl rfl
  | ended activity hwritten accepted answer supervision hhub isOver =>
    rcases answer with answer | ⟨answer, hnil⟩
    · exact .inl (next_of_not_streamed (not_isStreamed_of_none answer)).1
    · rw [next_supervise (isStreamed_of_answer answer)]
      cases ending with
      | ok =>
        rw [supervise_of_ok c.hub supervision (outcome?_of_ended activity)]
        refine .inr ⟨⟨h.reader, h.capacity, .finished hnil activity ?_ answer rfl hhub ?_⟩, ?_⟩
        · show c.written = _
          rw [hwritten]
          exact (List.append_nil _).symm
        · intro hover
          rw [isOver] at hover
          cases hover
        · unfold left
          simp only [supervision, supervisionLeft]
          omega
      | error e =>
        have hne : actions ≠ [] := fun hactions => by cases hnil hactions
        rw [supervise_of_error c.hub supervision (outcome?_of_ended activity)]
        refine .inr ⟨⟨h.reader, h.capacity, .reporting e rfl hne activity hwritten answer rfl ?_ isOver⟩, ?_⟩
        · show c.hub.countError e.code = _
          rw [hhub]
        · unfold left
          simp only [supervision, supervisionLeft]
          omega
  | refused e hending hactions activity answer =>
    exact .inl (next_of_not_streamed (not_isStreamed_of_error answer)).1
  | reporting e hending hactions activity hwritten answer supervision hhub isOver =>
    rw [next_supervise (isStreamed_of_answer answer), supervise_of_reporting c.hub supervision h.reader]
    by_cases hfull : c.stream.task.stream.frames.capacity ≤ c.stream.task.stream.frames.items.length
    · rw [if_pos hfull]
      exact .inl rfl
    · rw [if_neg hfull]
      refine .inr ⟨⟨h.reader, h.capacity, .finished (fun hnil => absurd hnil hactions) activity ?_ answer rfl ?_ ?_⟩,
        ?_⟩
      · show c.body ++ (c.stream.task.stream.frames.items ++ [encodeLine (ErrorFrame.ofFailure e)]) = _
        have hwritten : c.body ++ c.stream.task.stream.frames.items = lines actions := hwritten
        rw [← List.append_assoc, hwritten, hending]
        rfl
      · rw [hending]
        exact hhub
      · intro hover
        rw [isOver] at hover
        cases hover
      · unfold left
        simp only [supervision, supervisionLeft, FrameStream.isAccepted_frames, List.length_append, List.length_cons,
          List.length_nil]
        omega
  | finished hactions activity hwritten answer supervision hhub isOver =>
    rw [next_supervise (isStreamed_of_answer answer), supervise_of_finished c.hub supervision]
    exact .inl rfl

/-- A frame that is read was written, and stays so. -/
theorem Progress.read (h : Progress actions ending hub c) (hanswer : c.answer = some (.ok ())) {frame : Bytes}
    {rest : List Bytes} (hitems : c.stream.task.stream.frames.items = frame :: rest) :
    Progress actions ending hub { c with
      stream := { c.stream with task := { c.stream.task with stream :=
        { c.stream.task.stream with frames := { c.stream.task.stream.frames with items := rest } } } }
      body := c.body ++ [frame] } := by
  have hwritten' : c.body ++ [frame] ++ rest = c.written := by
    unfold written
    rw [hitems, List.append_assoc]
    rfl
  cases h with
  | working done rest hactions activity hwritten accepted begun answer supervision hhub isOver =>
    exact .working done rest hactions activity (hwritten'.trans hwritten) accepted begun answer supervision hhub isOver
  | ended activity hwritten accepted answer supervision hhub isOver =>
    exact .ended activity (hwritten'.trans hwritten) accepted answer supervision hhub isOver
  | refused e hending hactions activity answer =>
    rw [hanswer] at answer
    cases answer
  | reporting e hending hactions activity hwritten answer supervision hhub isOver =>
    exact .reporting e hending hactions activity (hwritten'.trans hwritten) answer supervision hhub isOver
  | finished hactions activity hwritten answer supervision hhub isOver =>
    refine .finished hactions activity (hwritten'.trans hwritten) answer supervision hhub fun hover => ?_
    rw [isOver hover] at hitems
    cases hitems

/-- The caller comes to the end only when nothing more will be written. -/
theorem Sound.read (h : Sound actions ending hub c) : Advances actions ending hub c (c.next .read) := by
  cases hover : c.isOver with
  | true => exact .inl (next_read_of_over hover)
  | false =>
    cases hanswer : c.answer with
    | none => exact .inl (next_of_not_streamed (not_isStreamed_of_none hanswer)).2
    | some result =>
      cases result with
      | error e => exact .inl (next_of_not_streamed (not_isStreamed_of_error hanswer)).2
      | ok =>
        have hstreamed := isStreamed_of_answer hanswer
        cases hitems : c.stream.task.stream.frames.items with
        | cons frame rest =>
          rw [next_read_of_cons hstreamed hover h.reader hitems]
          refine .inr ⟨⟨h.reader, h.capacity, h.progress.read hanswer hitems⟩, ?_⟩
          unfold left
          simp only [hitems, FrameStream.isAccepted_frames, List.length_cons]
          omega
        | nil =>
          rw [next_read_of_nil hstreamed hover h.reader hitems]
          cases h.progress with
          | finished hactions activity hwritten answer supervision hhub =>
            rw [isSending_of_finished supervision, if_neg Bool.false_ne_true]
            refine .inr ⟨⟨h.reader, h.capacity,
              .finished hactions activity hwritten answer supervision hhub fun _ => hitems⟩, ?_⟩
            unfold left
            simp only [hover, Bool.not_false, Bool.not_true, Bool.toNat_false, Bool.toNat_true]
            omega
          | working _ _ _ _ _ _ _ _ supervision | ended _ _ _ _ supervision | reporting _ _ _ _ _ _ supervision =>
            have hsending : c.stream.isSending = true := by
              unfold OpenStream.isSending
              rw [supervision]
            rw [hsending, if_pos rfl]
            exact .inl rfl
          | refused _ _ _ _ answer =>
            rw [hanswer] at answer
            cases answer

/-- **Every move that changes anything brings the conversation further.** -/
theorem Sound.next (h : Sound actions ending hub c) (move : Move) : Advances actions ending hub c (c.next move) := by
  cases move with
  | work heedPeer now => exact h.work heedPeer now
  | answer => exact h.answer
  | supervise => exact h.supervise
  | read => exact h.read

theorem Sound.run (h : Sound actions ending hub c) (moves : List Move) : Sound actions ending hub (c.run moves) := by
  induction moves generalizing c with
  | nil => exact h
  | cons move moves ih =>
    rcases h.next move with hsame | ⟨hnext, -⟩
    · show Sound actions ending hub ((c.next move).run moves)
      rw [hsame]
      exact ih h
    · exact ih hnext

end

end CallGateway.Conversation
