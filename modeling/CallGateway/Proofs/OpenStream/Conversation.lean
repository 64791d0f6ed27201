/-
  CallGateway.Proofs.OpenStream.Conversation
  ──────────────────────────────────────────
  **ONE STREAMING CALL FROM BOTH ENDS.**

  Four things go on at once when a streaming call is answered: its handler
  works, someone waits to see whether the stream is accepted, someone looks
  after the end of the handler, and the caller reads.  A conversation goes
  through their moves in any order.  The way in which the gateway itself
  begins a stream, and lets it work, is one such order (`beginStream_run`,
  `run_openStream`).
-/
import CallGateway.Proofs.FrameStream
import CallGateway.Proofs.Gateway.Judge

namespace CallGateway

/-! ## §1. The conversation. -/

/-- A streaming call, from when its handler begins. -/
structure Conversation where
  stream : OpenStream
  hub : Hub
  -- How the call was answered: with its stream, or with a failure.
  answer : Option (Outcome Unit) := none
  -- What the caller has read.
  body : List Bytes := []
  -- The caller has come to the end.
  isOver : Bool := false

namespace Conversation

/-- What can happen next. -/
inductive Move where
  -- The handler takes a step.
  | work (heedPeer : Bool) (now : Instant)
  -- The call is answered, if it can be.
  | answer
  -- The end of the handler is looked after, once its stream is the answer.
  | supervise
  -- The caller reads, once it has a stream, until it comes to the end.
  | read

/-- A handler begins. -/
def start (handler : Handler) (now : Instant) (hub : Hub) : Conversation :=
  let (task, hub) := StreamTask.start handler Gateway.frameBuffer now hub
  { stream := { task }, hub }

/-- The stream is the answer. -/
def isStreamed (c : Conversation) : Bool :=
  match c.answer with
  | some (.ok ()) => true
  | _ => false

/-- The caller has everything: the whole body of a stream, or a response that
is none. -/
def isComplete (c : Conversation) : Bool :=
  match c.answer with
  | none => false
  | some (.ok ()) => c.isOver
  | some (.error _) => true

/-- The response to the call, when its stream has a number. -/
def response? (n : Nat) (c : Conversation) : Option Response :=
  c.answer.map fun
    | .ok () => .ofStream n
    | .error e => .ofFailure e

/-- The conversation after a move. -/
def next (c : Conversation) : Move → Conversation
  | .work heedPeer now =>
    let (_, task, hub) := c.stream.task.step heedPeer now c.hub
    { c with stream := { c.stream with task }, hub }
  | .answer =>
    match c.answer, c.stream.task.answer? with
    | none, some (.ok ()) => { c with answer := some (.ok ()) }
    | none, some (.error e) => { c with answer := some (.error e), hub := c.hub.countError e.code }
    | _, _ => c
  | .supervise =>
    if c.isStreamed then
      let (_, stream, hub) := c.stream.supervise c.hub
      { c with stream, hub }
    else c
  | .read =>
    if c.isStreamed && !c.isOver then
      match c.stream.receive with
      | (.item frame, stream) => { c with stream, body := c.body ++ [frame] }
      | (.disconnected, stream) => { c with stream, isOver := true }
      | (_, stream) => { c with stream }
    else c

/-- The conversation after some moves. -/
def run (c : Conversation) (moves : List Move) : Conversation := moves.foldl next c

theorem run_append (c : Conversation) (moves moves' : List Move) :
    c.run (moves ++ moves') = (c.run moves).run moves' := List.foldl_append

theorem next_work (c : Conversation) (heedPeer : Bool) (now : Instant) :
    c.next (.work heedPeer now) = { c with
      stream := { c.stream with task := (c.stream.task.step heedPeer now c.hub).2.1 }
      hub := (c.stream.task.step heedPeer now c.hub).2.2 } := rfl

theorem next_answer_ok {c : Conversation} (h : c.answer = none) (htask : c.stream.task.answer? = some (.ok ())) :
    c.next .answer = { c with answer := some (.ok ()) } := by
  unfold next
  simp only [h, htask]

theorem next_answer_error {c : Conversation} {e : Failure} (h : c.answer = none)
    (htask : c.stream.task.answer? = some (.error e)) :
    c.next .answer = { c with answer := some (.error e), hub := c.hub.countError e.code } := by
  unfold next
  simp only [h, htask]

/-- A call is answered once. -/
theorem next_answer_of_answered {c : Conversation} {r : Outcome Unit} (h : c.answer = some r) : c.next .answer = c := by
  unfold next
  simp only [h]

/-- Nothing is looked after, and nothing is read, before the stream is the
answer. -/
theorem next_of_not_streamed {c : Conversation} (h : c.isStreamed = false) :
    c.next .supervise = c ∧ c.next .read = c := by
  unfold next
  simp [h]

theorem next_supervise {c : Conversation} (h : c.isStreamed = true) :
    c.next .supervise
      = { c with stream := (c.stream.supervise c.hub).2.1, hub := (c.stream.supervise c.hub).2.2 } := if_pos h

theorem next_read {c : Conversation} (h : c.isStreamed = true) (hover : c.isOver = false) :
    c.next .read = match c.stream.receive with
      | (.item frame, stream) => { c with stream, body := c.body ++ [frame] }
      | (.disconnected, stream) => { c with stream, isOver := true }
      | (_, stream) => { c with stream } := by
  refine if_pos ?_
  simp [h, hover]

/-- The caller takes the oldest frame. -/
theorem next_read_of_cons {c : Conversation} (h : c.isStreamed = true) (hover : c.isOver = false)
    (hreader : c.stream.task.stream.frames.reader = .listening) {frame : Bytes} {rest : List Bytes}
    (hitems : c.stream.task.stream.frames.items = frame :: rest) :
    c.next .read = { c with
      stream := { c.stream with task := { c.stream.task with stream :=
        { c.stream.task.stream with frames := { c.stream.task.stream.frames with items := rest } } } }
      body := c.body ++ [frame] } := by
  rw [next_read h hover]
  unfold OpenStream.receive
  rw [FrameStream.receive_of_cons hreader hitems]

/-- With no frame there, the caller waits, or finds the end. -/
theorem next_read_of_nil {c : Conversation} (h : c.isStreamed = true) (hover : c.isOver = false)
    (hreader : c.stream.task.stream.frames.reader = .listening)
    (hitems : c.stream.task.stream.frames.items = []) :
    c.next .read = if c.stream.isSending then c else { c with isOver := true } := by
  rw [next_read h hover]
  unfold OpenStream.receive
  rw [FrameStream.receive_of_nil hreader hitems]
  cases c.stream.isSending with
  | true => rfl
  | false => rfl

/-- After its end the caller reads no more. -/
theorem next_read_of_over {c : Conversation} (hover : c.isOver = true) : c.next .read = c := by
  refine if_neg ?_
  simp [hover]

/-! ## §2. The steps of a handler with actions of its own. -/

section
variable {t : StreamTask} {ending : Outcome Unit} (heedPeer : Bool) (now : Instant) (hub : Hub)

theorem step_of_nil (h : t.activity = .performing [] ending) :
    t.step heedPeer now hub = (true, { t with activity := .ended ending }, hub) := by
  unfold StreamTask.step
  rw [h]

theorem step_of_accept {rest : List Action} (h : t.activity = .performing (.accept :: rest) ending) :
    t.step heedPeer now hub = (true, ⟨.performing rest ending, t.stream.accept⟩, hub) := by
  unfold StreamTask.step
  rw [h]

/-- Before it sends, a handler accepts its stream. -/
theorem step_of_send {msg : Json.Value} {rest : List Action}
    (h : t.activity = .performing (.send msg :: rest) ending) (haccepted : t.stream.isAccepted = false) :
    t.step heedPeer now hub = (true, { t with stream := t.stream.accept }, hub) := by
  unfold StreamTask.step
  rw [h]
  simp only [haccepted, Bool.not_false, if_true]

/-- A handler waits with its frame until there is room. -/
theorem step_of_send_accepted {msg : Json.Value} {rest : List Action}
    (h : t.activity = .performing (.send msg :: rest) ending) (haccepted : t.stream.isAccepted = true)
    (hreader : t.stream.frames.reader = .listening) :
    t.step heedPeer now hub
      = if t.stream.frames.capacity ≤ t.stream.frames.items.length then (false, t, hub)
        else (true, ⟨.performing rest ending, { t.stream with frames :=
          { t.stream.frames with items := t.stream.frames.items ++ [encodeLine msg] } }⟩, hub) := by
  unfold StreamTask.step FrameStream.send
  rw [h]
  simp only [haccepted, Bool.not_true, FrameStream.accept_of_isAccepted haccepted,
    FrameStream.push_of_listening hreader]
  by_cases hfull : t.stream.frames.capacity ≤ t.stream.frames.items.length
  · simp [hfull]
  · simp [hfull]

theorem step_of_ended {result : Outcome Unit} (h : t.activity = .ended result) :
    t.step heedPeer now hub = (false, t, hub) := by
  unfold StreamTask.step
  rw [h]

theorem outcome?_of_performing {rest : List Action} (h : t.activity = .performing rest ending) :
    t.outcome? = none := by
  unfold StreamTask.outcome?
  rw [h]

theorem outcome?_of_ended {result : Outcome Unit} (h : t.activity = .ended result) :
    t.outcome? = some result := by
  unfold StreamTask.outcome?
  rw [h]

/-- An accepted stream is the answer. -/
theorem answer?_of_accepted (h : t.stream.isAccepted = true) : t.answer? = some (.ok ()) := if_pos h

/-- Without it the answer is how the handler comes out. -/
theorem answer?_of_not_accepted (h : t.stream.isAccepted = false) : t.answer? = t.outcome? := by
  unfold StreamTask.answer?
  rw [h]
  rfl

end

/-! ## §3. Around a handler. -/

section
variable {s : OpenStream} (hub : Hub)

theorem supervise_of_working (h : s.supervision = .watching) (htask : s.task.outcome? = none) :
    s.supervise hub = (false, s, hub) := by
  unfold OpenStream.supervise
  rw [h, htask]

theorem supervise_of_ok (h : s.supervision = .watching) (htask : s.task.outcome? = some (.ok ())) :
    s.supervise hub = (true, { s with supervision := .finished }, hub) := by
  unfold OpenStream.supervise
  rw [h, htask]

/-- A failure is counted, and becomes a line. -/
theorem supervise_of_error {e : Failure} (h : s.supervision = .watching)
    (htask : s.task.outcome? = some (.error e)) :
    s.supervise hub = (true, { s with supervision := .reporting (encodeLine (ErrorFrame.ofFailure e)) },
      hub.countError e.code) := by
  unfold OpenStream.supervise
  rw [h, htask]

/-- The line waits until there is room. -/
theorem supervise_of_reporting {line : Bytes} (h : s.supervision = .reporting line)
    (hreader : s.task.stream.frames.reader = .listening) :
    s.supervise hub
      = if s.task.stream.frames.capacity ≤ s.task.stream.frames.items.length then (false, s, hub)
        else (true, ⟨{ s.task with stream := { s.task.stream with frames :=
          { s.task.stream.frames with items := s.task.stream.frames.items ++ [line] } } }, .finished⟩, hub) := by
  unfold OpenStream.supervise
  rw [h]
  simp only [FrameStream.push_of_listening hreader]
  by_cases hfull : s.task.stream.frames.capacity ≤ s.task.stream.frames.items.length
  · simp only [hfull, if_true]
  · simp only [hfull, if_false]

theorem supervise_of_finished (h : s.supervision = .finished) : s.supervise hub = (false, s, hub) := by
  unfold OpenStream.supervise
  rw [h]

/-- Frames can be sent until all is done. -/
theorem isSending_of_finished (h : s.supervision = .finished) : s.isSending = false := by
  unfold OpenStream.isSending
  rw [h]

end

/-! ## §4. How the gateway goes about it. -/

/-- A handler with actions of its own, at work or at its end. -/
def Performs (t : StreamTask) : Prop :=
  (∃ rest ending, t.activity = .performing rest ending) ∨ ∃ result, t.activity = .ended result

/-- After one step there is an answer: the stream is accepted, or the handler
has ended. -/
theorem answers_step {t : StreamTask} (h : Performs t) (now : Instant) (hub : Hub) :
    Performs (t.step true now hub).2.1 ∧ ((t.step true now hub).2.1.answer?).isSome = true := by
  have hended : ∀ (result : Outcome Unit) (stream : FrameStream), Performs ⟨.ended result, stream⟩
      ∧ ((StreamTask.mk (.ended result) stream).answer?).isSome = true := by
    intro result stream
    refine ⟨.inr ⟨result, rfl⟩, ?_⟩
    unfold StreamTask.answer?
    split
    · rfl
    · rfl
  have haccepted : ∀ (rest : List Action) (ending : Outcome Unit) (stream : FrameStream),
      stream.isAccepted = true → Performs ⟨.performing rest ending, stream⟩
        ∧ ((StreamTask.mk (.performing rest ending) stream).answer?).isSome = true := by
    intro rest ending stream hstream
    refine ⟨.inl ⟨rest, ending, rfl⟩, ?_⟩
    unfold StreamTask.answer?
    rw [if_pos hstream]
    rfl
  obtain ⟨activity, stream⟩ := t
  rcases h with ⟨rest, ending, rfl⟩ | ⟨result, rfl⟩
  · cases rest with
    | nil => exact hended ending stream
    | cons action rest =>
      cases action with
      | accept => exact haccepted rest ending stream.accept stream.isAccepted_accept
      | send msg =>
        unfold StreamTask.step
        cases hstream : stream.isAccepted with
        | false =>
          exact haccepted (.send msg :: rest) ending stream.accept stream.isAccepted_accept
        | true =>
          simp only [FrameStream.send, FrameStream.accept_of_isAccepted hstream]
          unfold FrameStream.push
          cases stream.frames.verdict with
          | delivered => exact haccepted rest ending _ hstream
          | full => exact haccepted (.send msg :: rest) ending stream hstream
          | refused => exact hended _ stream
  · exact hended result stream

theorem answers_go (fuel : Nat) (now : Instant) : ∀ {t : StreamTask} (hub : Hub), Performs t →
    ((StreamTask.run.go now (fuel + 1) t hub).1.answer?).isSome = true := by
  induction fuel with
  | zero =>
    intro t hub h
    have hstep := answers_step h now hub
    unfold StreamTask.run.go
    rcases heq : t.step true now hub with ⟨_ | _, t', hub'⟩
    · rw [heq] at hstep
      exact hstep.2
    · rw [heq] at hstep
      exact hstep.2
  | succ fuel ih =>
    intro t hub h
    have hstep := answers_step h now hub
    unfold StreamTask.run.go
    rcases heq : t.step true now hub with ⟨_ | _, t', hub'⟩
    · rw [heq] at hstep
      exact hstep.2
    · rw [heq] at hstep
      exact ih hub' hstep.1

/-- A handler that works until it waits takes its steps one by one. -/
theorem exists_run_go (fuel : Nat) (now : Instant) : ∀ (c : Conversation), ∃ moves,
    c.run moves = { c with
      stream := { c.stream with task := (StreamTask.run.go now fuel c.stream.task c.hub).1 }
      hub := (StreamTask.run.go now fuel c.stream.task c.hub).2 } := by
  induction fuel with
  | zero => exact fun c => ⟨[], rfl⟩
  | succ fuel ih =>
    intro c
    have hnext := c.next_work true now
    unfold StreamTask.run.go
    rcases heq : c.stream.task.step true now c.hub with ⟨_ | _, task, hub⟩
    · rw [heq] at hnext
      exact ⟨[.work true now], hnext⟩
    · rw [heq] at hnext
      obtain ⟨moves, hmoves⟩ := ih (c.next (.work true now))
      refine ⟨.work true now :: moves, ?_⟩
      show (c.next (.work true now)).run moves = _
      rw [hmoves, hnext]

/-- **The gateway begins a stream as one of these conversations does.** -/
theorem beginStream_run (g : Gateway) (now : Instant) (actions : List Action) (ending : Outcome Unit) :
    ∃ moves c r, (start (.perform actions ending) now g.hub).run moves = c
      ∧ c.response? g.streams.length = some r
      ∧ g.beginStream now (.perform actions ending)
        = (.answered r, { g with
            hub := c.hub
            streams := g.streams ++ if c.isStreamed then [c.stream] else [] }) := by
  let c₀ := start (.perform actions ending) now g.hub
  let fuel := 2 * actions.length + 1
  obtain ⟨moves, hmoves⟩ := exists_run_go (fuel + 1) now c₀
  have hanswers : ((StreamTask.run.go now (fuel + 1) c₀.stream.task c₀.hub).1.answer?).isSome = true :=
    answers_go fuel now c₀.hub (.inl ⟨actions, ending, rfl⟩)
  have hbegun : StreamTask.begun now g.hub (.perform actions ending)
      = StreamTask.run.go now (fuel + 1) c₀.stream.task c₀.hub := rfl
  have hrun : c₀.run (moves ++ [.answer]) = (c₀.run moves).next .answer := c₀.run_append moves [.answer]
  rcases g.beginStream_cases now (.perform actions ending) with ⟨e, hanswer, hbegin⟩ | ⟨hnone, hbegin⟩
  · rw [hbegun] at hanswer
    have hnext := next_answer_error (c := c₀.run moves) (by rw [hmoves]; rfl) (by rw [hmoves]; exact hanswer)
    refine ⟨moves ++ [.answer], _, _, hrun.trans hnext, rfl, ?_⟩
    rw [hbegin, hbegun]
    show _ = (_, { g with hub := _, streams := g.streams ++ [] })
    rw [hmoves, List.append_nil]
    rfl
  · obtain ⟨answer, hanswer⟩ := Option.isSome_iff_exists.1 hanswers
    cases answer with
    | error e => exact absurd hanswer (hnone e)
    | ok =>
      have hnext := next_answer_ok (c := c₀.run moves) (by rw [hmoves]; rfl) (by rw [hmoves]; exact hanswer)
      refine ⟨moves ++ [.answer], _, _, hrun.trans hnext, rfl, ?_⟩
      rw [hbegin, hbegun, hmoves]
      rfl

/-- And lets it work as one of them does. -/
theorem run_openStream (c : Conversation) (h : c.isStreamed = true) (now : Instant) : ∃ moves,
    c.run moves = { c with stream := (c.stream.run now c.hub).1, hub := (c.stream.run now c.hub).2 } := by
  obtain ⟨moves, hmoves⟩ := exists_run_go (c.stream.task.stepsLeft c.hub) now c
  refine ⟨moves ++ [.supervise, .supervise], ?_⟩
  have hone := next_supervise (c := c.run moves) (by rw [hmoves]; exact h)
  have htwo := next_supervise (c := (c.run moves).next .supervise) (by rw [hone, hmoves]; exact h)
  rw [run_append]
  refine htwo.trans ?_
  rw [hone, hmoves]
  rfl

end Conversation

end CallGateway
