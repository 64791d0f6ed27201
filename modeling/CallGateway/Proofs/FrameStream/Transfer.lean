/-
  CallGateway.Proofs.FrameStream.Transfer
  ───────────────────────────────────────
  **A STREAM BETWEEN ITS HANDLER AND ITS CALLER.**

  A handler accepts its stream and sends messages.  A send waits where there is
  no room, and the handler may give it up; the caller looks for the signal, reads,
  closes the stream or goes.  A transfer goes through the moves of both in any
  order, and keeps account of what each of them knows (`Faithful`).

  Whoever has something to send has accepted the stream, so the signal is there
  before the first frame.  And what is read and what is queued is together what
  was sent, until the caller goes and leaves the rest behind.
-/
import CallGateway.Proofs.FrameStream
import CallGateway.Proofs.Line

namespace CallGateway

/-! ## §1. Transfers. -/

/-- A handler sends a message of some type. -/
def Message.sendTo (s : FrameStream) : Message → Sent × FrameStream
  | nothing m => s.send m
  | event m => s.send m
  | statInterval m => s.send m
  | stat m => s.send m
  | errorFrame m => s.send m
  | value v => s.send v

namespace Message

/-- Of whatever type a message is, sending it accepts the stream and queues its line. -/
theorem sendTo_eq (m : Message) (s : FrameStream) : m.sendTo s = s.accept.push m.line := by
  cases m <;> rfl

theorem fst_sendTo (m : Message) (s : FrameStream) : (m.sendTo s).1 = s.frames.verdict.sent := by
  rw [sendTo_eq, FrameStream.push_eq, FrameStream.frames_accept]

theorem frames_sendTo (m : Message) (s : FrameStream) : (m.sendTo s).2.frames = s.frames.offer m.line := by
  rw [sendTo_eq, FrameStream.push_eq, FrameStream.frames_accept]

end Message

/-- A stream, and what its two ends know of it. -/
structure Transfer where
  stream : FrameStream
  -- The message that the handler waits with.
  inHand : Option Message := none
  -- The sends that have come back, the oldest first.
  results : List (Message × Outcome Unit) := []
  -- What the caller has read.
  received : List Bytes := []
  -- How often the signal was given.
  given : Nat := 0
  -- How often the caller has found it.
  seen : Nat := 0

namespace Transfer

/-- What can happen next. -/
inductive Move where
  -- The handler accepts the stream.
  | accept
  -- It goes to send a message, and waits with it from then on.
  | begin (m : Message)
  -- The message that it waits with is queued if it can be.
  | attempt
  -- It gives up the message that it waits with.
  | abandon
  -- The caller looks for the signal.
  | look
  -- The caller reads; someone may still send, or nobody.
  | receive (sending : Bool)
  -- The caller wants no more.
  | close
  -- The caller goes.
  | drop

/-- The caller reads. -/
def Move.isReceive : Move → Bool
  | receive _ => true
  | _ => false

/-- A transfer begins. -/
def start (capacity : Nat) : Transfer := { stream := .start capacity }

/-- Something happens to the stream; if the signal is given by that, it counts. -/
def withStream (t : Transfer) (stream : FrameStream) : Transfer :=
  { t with
    stream
    given := t.given + if t.stream.signal ≠ .given ∧ stream.signal = .given then 1 else 0 }

/-- The transfer after a move. -/
def next (t : Transfer) : Move → Transfer
  | .accept => t.withStream t.stream.accept
  | .begin m => { t.withStream t.stream.accept with inHand := some m }
  | .attempt =>
    match t.inHand with
    | none => t
    | some m =>
      match m.sendTo t.stream with
      | (.sent, stream) => { t.withStream stream with inHand := none, results := t.results ++ [(m, .ok ())] }
      | (.blocked, stream) => t.withStream stream
      | (.failed e, stream) => { t.withStream stream with inHand := none, results := t.results ++ [(m, .error e)] }
  | .abandon => { t with inHand := none }
  | .look =>
    let (found, stream) := t.stream.lookSignal
    { t.withStream stream with seen := t.seen + if found = .given then 1 else 0 }
  | .receive sending =>
    let (found, stream) := t.stream.receive sending
    { t.withStream stream with received := t.received ++ found.item?.toList }
  | .close => t.withStream t.stream.close
  | .drop => t.withStream t.stream.drop

/-- The transfer after some moves. -/
def run (t : Transfer) (moves : List Move) : Transfer := moves.foldl next t

/-- The lines of the messages whose sends came back well. -/
def lines (t : Transfer) : List Bytes :=
  t.results.filterMap fun
    | (m, .ok ()) => some m.line
    | (_, .error _) => none

section
variable {t : Transfer}

/-! ## §2. The account. -/

/-- What holds at any time. -/
structure Faithful (t : Transfer) : Prop where
  given : t.given = if t.stream.isAccepted then 1 else 0
  seen : t.seen = if t.stream.signal = .taken then 1 else 0
  -- Nobody has anything of a stream before it is accepted.
  nothing : t.stream.isAccepted = false → t.inHand = none ∧ t.stream.frames.items = [] ∧ t.received = []
  -- What was sent is read, or queued, or was left behind.
  conserved : ∃ lost, t.received ++ t.stream.frames.items ++ lost = t.lines
    ∧ (t.stream.frames.reader ≠ .gone → lost = [])
  -- A send that came back failed because the caller wants no more.
  results : ∀ r ∈ t.results, r.2 = .ok () ∨ r.2 = .error FrameStream.closedByPeer ∧ t.stream.frames.reader ≠ .listening

theorem faithful_start (capacity : Nat) : (start capacity).Faithful where
  given := rfl
  seen := rfl
  nothing := fun _ => ⟨rfl, rfl, rfl⟩
  conserved := ⟨[], rfl, fun _ => rfl⟩
  results := nofun

/-- What happens to the frames gives no signal. -/
@[simp] theorem withStream_frames (t : Transfer) (frames : Queue Bytes) :
    t.withStream { t.stream with frames } = { t with stream := { t.stream with frames } } := by
  unfold withStream
  rw [if_neg (fun hsignal => hsignal.1 hsignal.2), Nat.add_zero]

/-- Accepting a stream that is accepted is nothing. -/
theorem withStream_accept (h : t.stream.isAccepted = true) : t.withStream t.stream.accept = t := by
  rw [FrameStream.accept_of_isAccepted h]
  exact t.withStream_frames t.stream.frames

/-- Accepting a stream for the first time gives the signal. -/
theorem Faithful.accept (h : t.Faithful) : (t.withStream t.stream.accept).Faithful := by
  by_cases haccepted : t.stream.isAccepted = true
  · rw [withStream_accept haccepted]
    exact h
  · have hsignal : t.stream.signal = .waiting := by simpa [FrameStream.isAccepted] using haccepted
    refine ⟨?_, ?_, fun hnot => ?_, h.conserved, h.results⟩
    · have hgiven := h.given
      simp only [haccepted] at hgiven
      simp [withStream, FrameStream.accept, FrameStream.isAccepted, hsignal, hgiven]
    · have hseen := h.seen
      rw [hsignal] at hseen
      simp [withStream, FrameStream.accept, hsignal, hseen]
    · exact absurd (hnot.symm.trans (FrameStream.isAccepted_accept _)) nofun

/-- Whoever waits with a message has accepted the stream. -/
theorem Faithful.isAccepted_of_inHand (h : t.Faithful) {m : Message} (hhand : t.inHand = some m) :
    t.stream.isAccepted = true := by
  cases haccepted : t.stream.isAccepted with
  | true => rfl
  | false => cases hhand.symm.trans (h.nothing haccepted).1

theorem next_attempt_of_none (h : t.inHand = none) : t.next .attempt = t := by
  unfold next
  rw [h]

/-- **What becomes of the message that a handler waits with.** -/
theorem Faithful.attempt_cases (h : t.Faithful) {m : Message} (hhand : t.inHand = some m) :
    (t.stream.frames.HasRoom ∧ t.next .attempt = { t with
        stream := { t.stream with frames := { t.stream.frames with items := t.stream.frames.items ++ [m.line] } }
        inHand := none
        results := t.results ++ [(m, .ok ())] })
      ∨ (t.stream.frames.IsFull ∧ t.next .attempt = t)
      ∨ (t.stream.frames.IsShut ∧ t.next .attempt = { t with
          inHand := none
          results := t.results ++ [(m, .error FrameStream.closedByPeer)] }) := by
  have haccepted := h.isAccepted_of_inHand hhand
  have hsend := m.sendTo_eq t.stream
  rw [FrameStream.accept_of_isAccepted haccepted, FrameStream.push_eq] at hsend
  simp only [next, hhand, hsend]
  cases hverdict : t.stream.frames.verdict with
  | delivered =>
    rw [Queue.offer_of_delivered m.line hverdict]
    refine .inl ⟨Queue.verdict_eq_delivered_iff.1 hverdict, ?_⟩
    simp only [Verdict.sent, withStream_frames]
  | full =>
    rw [Queue.offer_of_ne m.line (by simp [hverdict])]
    refine .inr (.inl ⟨Queue.verdict_eq_full_iff.1 hverdict, ?_⟩)
    simp only [Verdict.sent, withStream_frames]
  | refused =>
    rw [Queue.offer_of_ne m.line (by simp [hverdict])]
    refine .inr (.inr ⟨Queue.verdict_eq_refused_iff_isShut.1 hverdict, ?_⟩)
    simp only [Verdict.sent, withStream_frames]

/-- An attempt leaves everything about a stream but its frames. -/
theorem Faithful.stream_attempt (h : t.Faithful) :
    ∃ items, (t.next .attempt).stream = { t.stream with frames := { t.stream.frames with items } } := by
  cases hhand : t.inHand with
  | none => exact ⟨_, by rw [next_attempt_of_none hhand]⟩
  | some m =>
    rcases h.attempt_cases hhand with ⟨-, hnext⟩ | ⟨-, hnext⟩ | ⟨-, hnext⟩
    · exact ⟨_, by rw [hnext]⟩
    · exact ⟨_, by rw [hnext]⟩
    · exact ⟨_, by rw [hnext]⟩

/-- A frame that is queued was sent last. -/
theorem Faithful.sent (h : t.Faithful) {m : Message} (hhand : t.inHand = some m) (hroom : t.stream.frames.HasRoom) :
    ({ t with
        stream := { t.stream with frames := { t.stream.frames with items := t.stream.frames.items ++ [m.line] } }
        inHand := none
        results := t.results ++ [(m, .ok ())] } : Transfer).Faithful where
  given := h.given
  seen := h.seen
  nothing := fun hnot => absurd (hnot.symm.trans (h.isAccepted_of_inHand hhand)) nofun
  conserved := by
    obtain ⟨lost, hlines, hlost⟩ := h.conserved
    have hreader : t.stream.frames.reader ≠ .gone := by simp [hroom.1]
    obtain rfl := hlost hreader
    refine ⟨[], ?_, fun _ => rfl⟩
    rw [List.append_nil] at hlines ⊢
    rw [lines, List.filterMap_append, ← lines, ← hlines, ← List.append_assoc]
    rfl
  results := fun r hr => by
    rcases List.mem_append.1 hr with hr | hr
    · exact h.results r hr
    · obtain rfl := List.mem_singleton.1 hr
      exact .inl rfl

/-- A send that failed leaves no frame. -/
theorem Faithful.failed (h : t.Faithful) (m : Message) (hshut : t.stream.frames.IsShut) :
    ({ t with
        inHand := none
        results := t.results ++ [(m, .error FrameStream.closedByPeer)] } : Transfer).Faithful where
  given := h.given
  seen := h.seen
  nothing := fun hnot => ⟨rfl, (h.nothing hnot).2⟩
  conserved := by
    obtain ⟨lost, hlines, hlost⟩ := h.conserved
    refine ⟨lost, ?_, hlost⟩
    rw [lines, List.filterMap_append, ← lines, hlines]
    exact (List.append_nil _).symm
  results := fun r hr => by
    rcases List.mem_append.1 hr with hr | hr
    · exact h.results r hr
    · obtain rfl := List.mem_singleton.1 hr
      exact .inr ⟨rfl, Queue.isShut_iff.1 hshut⟩

theorem next_look (t : Transfer) :
    t.next .look = { t with
      stream := t.stream.lookSignal.2
      seen := t.seen + if t.stream.signal = .given then 1 else 0 } := by
  have hstream : t.withStream t.stream.lookSignal.2 = { t with stream := t.stream.lookSignal.2 } := by
    unfold withStream
    rw [if_neg fun hsignal => t.stream.signal_lookSignal_ne hsignal.2, Nat.add_zero]
  show ({ t.withStream t.stream.lookSignal.2 with seen := _ } : Transfer) = _
  rw [hstream]

/-- The caller finds the signal where it was given and not yet found. -/
theorem Faithful.look (h : t.Faithful) : (t.next .look).Faithful := by
  rw [next_look]
  refine ⟨?_, ?_, fun hnot => h.nothing ?_, h.conserved, h.results⟩
  · rw [h.given, FrameStream.isAccepted_lookSignal]
  · show t.seen + _
      = if (if t.stream.signal = .given then .taken else t.stream.signal) = AcceptSignal.taken then 1 else 0
    rw [h.seen]
    by_cases hsignal : t.stream.signal = .given
    · simp [hsignal]
    · simp [hsignal]
  · exact (FrameStream.isAccepted_lookSignal t.stream).symm.trans hnot

/-- The caller takes what is queued, or leaves it behind when it goes. -/
theorem Faithful.taken (h : t.Faithful) {frames : Queue Bytes} {received : List Bytes} (left : List Bytes)
    (hkept : received ++ frames.items ++ left = t.received ++ t.stream.frames.items)
    (hleft : frames.reader ≠ .gone → left = [] ∧ t.stream.frames.reader ≠ .gone)
    (hshut : t.stream.frames.reader ≠ .listening → frames.reader ≠ .listening) :
    ({ t with stream := { t.stream with frames }, received } : Transfer).Faithful where
  given := h.given
  seen := h.seen
  nothing := fun hnot => by
    obtain ⟨hhand, hitems, hreceived⟩ := h.nothing hnot
    rw [hitems, hreceived, List.append_nil, List.append_eq_nil_iff, List.append_eq_nil_iff] at hkept
    exact ⟨hhand, hkept.1.2, hkept.1.1⟩
  conserved := by
    obtain ⟨lost, hlines, hlost⟩ := h.conserved
    refine ⟨left ++ lost, ?_, fun hreader => ?_⟩
    · rw [← List.append_assoc]
      exact (congrArg (· ++ lost) hkept).trans hlines
    · rw [(hleft hreader).1, hlost (hleft hreader).2, List.append_nil]
  results := fun r hr => (h.results r hr).imp id fun hfailed => ⟨hfailed.1, hshut hfailed.2⟩

theorem next_receive (t : Transfer) (sending : Bool) :
    t.next (.receive sending) = { t with
      stream := { t.stream with frames := (t.stream.frames.receive sending).2 }
      received := t.received ++ (t.stream.frames.receive sending).1.item?.toList } := by
  simp only [next, FrameStream.receive, withStream_frames]

theorem next_close (t : Transfer) :
    t.next .close = { t with stream := { t.stream with frames := t.stream.frames.close } } :=
  t.withStream_frames t.stream.frames.close

theorem next_drop (t : Transfer) :
    t.next .drop = { t with stream := { t.stream with frames := t.stream.frames.drop } } :=
  t.withStream_frames t.stream.frames.drop

/-- **The account is kept, whatever happens next.** -/
theorem Faithful.next (h : t.Faithful) (move : Move) : (t.next move).Faithful := by
  cases move with
  | accept => exact h.accept
  | begin m =>
    have haccept := h.accept
    refine ⟨haccept.given, haccept.seen, fun hnot => ?_, haccept.conserved, haccept.results⟩
    exact absurd (hnot.symm.trans (FrameStream.isAccepted_accept _)) nofun
  | attempt =>
    cases hhand : t.inHand with
    | none => rwa [next_attempt_of_none hhand]
    | some m =>
      rcases h.attempt_cases hhand with ⟨hroom, hnext⟩ | ⟨-, hnext⟩ | ⟨hshut, hnext⟩
      · rw [hnext]
        exact h.sent hhand hroom
      · rw [hnext]
        exact h
      · rw [hnext]
        exact h.failed m hshut
  | abandon => exact ⟨h.given, h.seen, fun hnot => ⟨rfl, (h.nothing hnot).2⟩, h.conserved, h.results⟩
  | look => exact h.look
  | receive sending =>
    rw [next_receive]
    refine h.taken [] ?_ (fun hreader => ⟨rfl, ?_⟩) ?_
    · rw [List.append_nil, List.append_assoc, Queue.items_receive]
    · rwa [Queue.reader_receive] at hreader
    · rw [Queue.reader_receive]
      exact id
  | close =>
    rw [next_close]
    refine h.taken [] ?_ (fun hreader => ⟨rfl, fun hgone => hreader ?_⟩) fun _ => ?_
    · rw [Queue.items_close, List.append_nil]
    · rw [Queue.reader_close, if_pos hgone]
    · rw [Queue.reader_close]
      split
      · exact nofun
      · exact nofun
  | drop =>
    rw [next_drop]
    refine h.taken t.stream.frames.items ?_ (fun hreader => absurd rfl hreader) fun _ => nofun
    rw [Queue.drop, List.append_nil]

theorem Faithful.run (h : t.Faithful) (moves : List Move) : (t.run moves).Faithful := by
  induction moves generalizing t with
  | nil => exact h
  | cons move moves ih => exact ih (h.next move)

/-! ## §3. The end of the caller. -/

/-- What a move does to the caller. -/
def Move.after : Move → Reader → Reader
  | close, r => if r = .gone then .gone else .closed
  | drop, _ => .gone
  | _, r => r

theorem Move.after_ne_listening_iff (move : Move) (r : Reader) :
    move.after r ≠ .listening ↔ r ≠ .listening ∨ move = .close ∨ move = .drop := by
  cases move <;> cases r <;> simp [after]

theorem Move.after_eq_gone_iff (move : Move) (r : Reader) : move.after r = .gone ↔ r = .gone ∨ move = .drop := by
  cases move <;> cases r <;> simp [after]

/-- Only the caller itself stops reading. -/
theorem Faithful.reader_next (h : t.Faithful) (move : Move) :
    (t.next move).stream.frames.reader = move.after t.stream.frames.reader := by
  cases move with
  | attempt =>
    obtain ⟨items, hstream⟩ := h.stream_attempt
    rw [hstream]
    rfl
  | look =>
    rw [next_look]
    rfl
  | receive sending =>
    rw [next_receive]
    exact Queue.reader_receive _ _
  | close =>
    rw [next_close]
    exact Queue.reader_close _
  | _ => rfl

theorem Faithful.reader_run_ne_listening_iff (h : t.Faithful) (moves : List Move) :
    (t.run moves).stream.frames.reader ≠ .listening
      ↔ t.stream.frames.reader ≠ .listening ∨ .close ∈ moves ∨ .drop ∈ moves := by
  induction moves generalizing t with
  | nil => simp [Transfer.run]
  | cons move moves ih =>
    show ((t.next move).run moves).stream.frames.reader ≠ .listening ↔ _
    rw [ih (h.next move), h.reader_next, Move.after_ne_listening_iff, List.mem_cons, List.mem_cons,
      eq_comm (a := Move.close), eq_comm (a := Move.drop), or_assoc, or_or_or_comm]

theorem Faithful.reader_run_eq_gone_iff (h : t.Faithful) (moves : List Move) :
    (t.run moves).stream.frames.reader = .gone ↔ t.stream.frames.reader = .gone ∨ .drop ∈ moves := by
  induction moves generalizing t with
  | nil => simp [Transfer.run]
  | cons move moves ih =>
    show ((t.next move).run moves).stream.frames.reader = .gone ↔ _
    rw [ih (h.next move), h.reader_next, Move.after_eq_gone_iff, List.mem_cons, or_assoc, eq_comm (a := Move.drop)]

/-- An accepted stream stays accepted. -/
theorem Faithful.isAccepted_next (h : t.Faithful) (haccepted : t.stream.isAccepted = true) (move : Move) :
    (t.next move).stream.isAccepted = true := by
  cases move with
  | accept => exact FrameStream.isAccepted_accept _
  | begin m => exact FrameStream.isAccepted_accept _
  | attempt =>
    obtain ⟨items, hstream⟩ := h.stream_attempt
    rw [hstream]
    exact haccepted
  | look =>
    rw [next_look]
    exact (FrameStream.isAccepted_lookSignal _).trans haccepted
  | receive sending => rwa [next_receive]
  | _ => exact haccepted

theorem Faithful.isAccepted_run (h : t.Faithful) (haccepted : t.stream.isAccepted = true) (moves : List Move) :
    (t.run moves).stream.isAccepted = true := by
  induction moves generalizing t with
  | nil => exact haccepted
  | cons move moves ih => exact ih (h.next move) (h.isAccepted_next haccepted move)

theorem Faithful.attempt_of_shut (h : t.Faithful) (hshut : t.stream.frames.reader ≠ .listening) {m : Message}
    (hhand : t.inHand = some m) :
    t.next .attempt = { t with inHand := none, results := t.results ++ [(m, .error FrameStream.closedByPeer)] } := by
  rcases h.attempt_cases hhand with ⟨hroom, -⟩ | ⟨hfull, -⟩ | ⟨-, hnext⟩
  · exact absurd hroom.1 hshut
  · exact absurd hfull.1 hshut
  · exact hnext

/-- A send that comes back after the caller wants no more has failed. -/
theorem Faithful.results_next (h : t.Faithful) (hshut : t.stream.frames.reader ≠ .listening) (move : Move) :
    ∃ failed, (t.next move).results = t.results ++ failed ∧ ∀ r ∈ failed, r.2 = .error FrameStream.closedByPeer := by
  cases move with
  | attempt =>
    cases hhand : t.inHand with
    | none => exact ⟨[], by rw [next_attempt_of_none hhand, List.append_nil], nofun⟩
    | some m =>
      refine ⟨[(m, .error FrameStream.closedByPeer)], by rw [h.attempt_of_shut hshut hhand], fun r hr => ?_⟩
      rw [List.mem_singleton.1 hr]
  | _ => exact ⟨[], (List.append_nil _).symm, nofun⟩

theorem Faithful.results_run (h : t.Faithful) (hshut : t.stream.frames.reader ≠ .listening) (moves : List Move) :
    ∃ failed, (t.run moves).results = t.results ++ failed ∧ ∀ r ∈ failed, r.2 = .error FrameStream.closedByPeer := by
  induction moves generalizing t with
  | nil => exact ⟨[], (List.append_nil _).symm, nofun⟩
  | cons move moves ih =>
    have hnext : (t.next move).stream.frames.reader ≠ .listening := by
      rw [h.reader_next, Move.after_ne_listening_iff]
      exact .inl hshut
    obtain ⟨failed, hresults, hfailed⟩ := h.results_next hshut move
    obtain ⟨failed', hresults', hfailed'⟩ := ih (h.next move) hnext
    refine ⟨failed ++ failed', ?_, fun r hr => (List.mem_append.1 hr).elim (hfailed r) (hfailed' r)⟩
    rw [← List.append_assoc, ← hresults]
    exact hresults'

/-- After a close each read takes the oldest frame, and nothing else happens to
the frames. -/
theorem Faithful.next_of_closed (h : t.Faithful) (hclosed : t.stream.frames.reader = .closed) {move : Move}
    (hmove : move ≠ .drop) :
    (t.next move).received = t.received ++ t.stream.frames.items.take (if move.isReceive then 1 else 0)
      ∧ (t.next move).stream.frames.items = t.stream.frames.items.drop (if move.isReceive then 1 else 0) := by
  have hnothing : t.received = t.received ++ t.stream.frames.items.take 0 := (List.append_nil _).symm
  cases move with
  | attempt =>
    cases hhand : t.inHand with
    | none =>
      rw [next_attempt_of_none hhand]
      exact ⟨hnothing, rfl⟩
    | some m =>
      rw [h.attempt_of_shut (by simp [hclosed]) hhand]
      exact ⟨hnothing, rfl⟩
  | receive sending =>
    rw [next_receive]
    unfold Queue.receive
    cases hitems : t.stream.frames.items with
    | nil => simp [hclosed, hitems, Received.item?, Move.isReceive]
    | cons frame rest => simp [hclosed, Received.item?, Move.isReceive]
  | close =>
    rw [next_close]
    exact ⟨hnothing, Queue.items_close _⟩
  | drop => exact absurd rfl hmove
  | _ => exact ⟨hnothing, rfl⟩

/-- What was queued before a close is read after it, one frame at a time. -/
theorem Faithful.run_of_closed (h : t.Faithful) (hclosed : t.stream.frames.reader = .closed) {moves : List Move}
    (hmoves : .drop ∉ moves) :
    (t.run moves).received = t.received ++ t.stream.frames.items.take (moves.countP Move.isReceive)
      ∧ (t.run moves).stream.frames.items = t.stream.frames.items.drop (moves.countP Move.isReceive) := by
  induction moves generalizing t with
  | nil => exact ⟨(List.append_nil _).symm, rfl⟩
  | cons move moves ih =>
    rw [List.mem_cons, not_or] at hmoves
    have hmove : move ≠ .drop := fun hmove => hmoves.1 hmove.symm
    obtain ⟨hreceived, hitems⟩ := h.next_of_closed hclosed hmove
    have hnext : (t.next move).stream.frames.reader = .closed := by
      rw [h.reader_next, hclosed]
      cases move with
      | drop => exact absurd rfl hmove
      | _ => rfl
    obtain ⟨hreceived', hitems'⟩ := ih (h.next move) hnext hmoves.2
    rw [List.countP_cons, Nat.add_comm]
    refine ⟨hreceived'.trans ?_, hitems'.trans ?_⟩
    · rw [hreceived, hitems, List.append_assoc, List.take_add]
    · rw [hitems, List.drop_drop]

/-! ## §4. What the two ends can rely on. -/

/-- **The signal comes once and before the frames, and the frames are what was
sent.**  Take any moves of the two ends of a stream.  The signal is given at most
once and found at most once, a stream that is accepted stays so, and the signal is
given before a send waits or anything can be read.  What the caller has read and
what is queued are the first lines of the messages whose sends came back well, and
all of them unless the caller has gone.  A send fails just where the caller has
closed the stream or is gone; it waits where there is no room; and it leaves its
line where it comes back well, and nothing otherwise, nor does one that is given
up.  After a close every send that comes back has failed, and what was queued
before can be read, one frame after the other. -/
theorem signal_once_then_frames (capacity : Nat) (moves : List Move) :
    let t := (start capacity).run moves
    (t.given ≤ 1 ∧ t.seen ≤ t.given ∧ (t.stream.isAccepted = true ↔ t.given = 1)
        ∧ ∀ more, t.stream.isAccepted = true → (t.run more).stream.isAccepted = true)
      ∧ (t.inHand ≠ none ∨ t.stream.frames.items ≠ [] ∨ t.received ≠ [] → t.given = 1)
      ∧ (t.received ++ t.stream.frames.items <+: t.lines
        ∧ (.drop ∉ moves → t.received ++ t.stream.frames.items = t.lines))
      ∧ (t.stream.isClosed = true ↔ .close ∈ moves ∨ .drop ∈ moves)
      ∧ (∀ m : Message,
          (∀ e, (m.sendTo t.stream).1 = .failed e
              ↔ e = .unavailable "stream closed by peer" ∧ (.close ∈ moves ∨ .drop ∈ moves))
            ∧ ((m.sendTo t.stream).1 = .blocked ↔ t.stream.frames.IsFull)
            ∧ (m.sendTo t.stream).2.frames.items
                = t.stream.frames.items ++ (if (m.sendTo t.stream).1 = .sent then [m.line] else [])
            ∧ ((t.next (.begin m)).next .abandon).stream.frames = t.stream.frames)
      ∧ (∀ r ∈ t.results, r.2 = .ok ()
          ∨ r.2 = .error (.unavailable "stream closed by peer") ∧ (.close ∈ moves ∨ .drop ∈ moves))
      ∧ (.close ∈ moves ∨ .drop ∈ moves → ∀ more, ∃ failed, (t.run more).results = t.results ++ failed
          ∧ ∀ r ∈ failed, r.2 = .error (.unavailable "stream closed by peer"))
      ∧ (.close ∈ moves → .drop ∉ moves → ∀ more, .drop ∉ more →
          (t.run more).received = t.received ++ t.stream.frames.items.take (more.countP Move.isReceive)
            ∧ (t.run more).stream.frames.items = t.stream.frames.items.drop (more.countP Move.isReceive)) := by
  intro t
  have hstart := faithful_start capacity
  have h : t.Faithful := hstart.run moves
  have hshut : t.stream.frames.reader ≠ .listening ↔ .close ∈ moves ∨ .drop ∈ moves := by
    rw [hstart.reader_run_ne_listening_iff]
    simp [start, FrameStream.start]
  have hgone : t.stream.frames.reader = .gone ↔ .drop ∈ moves := by
    rw [hstart.reader_run_eq_gone_iff]
    simp [start, FrameStream.start]
  refine ⟨⟨?_, ?_, ?_, fun more haccepted => h.isAccepted_run haccepted more⟩, fun hsome => ?_, ⟨?_, fun hdrop => ?_⟩,
    ?_, fun m => ⟨fun e => ?_, ?_, ?_, rfl⟩, fun r hr => ?_, fun hend more => ?_, fun hclose hdrop more hmore => ?_⟩
  · rw [h.given]
    split
    · exact Nat.le_refl 1
    · exact Nat.zero_le 1
  · rw [h.given, h.seen]
    by_cases htaken : t.stream.signal = .taken
    · have haccepted : t.stream.isAccepted = true := by rw [FrameStream.isAccepted, htaken]; rfl
      simp [htaken, haccepted]
    · rw [if_neg htaken]
      exact Nat.zero_le _
  · rw [h.given]
    simp
  · rw [h.given, if_pos]
    cases haccepted : t.stream.isAccepted with
    | true => rfl
    | false =>
      obtain ⟨hhand, hitems, hreceived⟩ := h.nothing haccepted
      exact absurd hsome (by simp [hhand, hitems, hreceived])
  · obtain ⟨lost, hlines, -⟩ := h.conserved
    exact ⟨lost, hlines⟩
  · obtain ⟨lost, hlines, hlost⟩ := h.conserved
    rwa [hlost (mt hgone.1 hdrop), List.append_nil] at hlines
  · rw [← hshut, FrameStream.isClosed, bne_iff_ne]
  · rw [Message.fst_sendTo, Verdict.sent_eq_failed_iff, Queue.verdict_eq_refused_iff, hshut]
    rfl
  · rw [Message.fst_sendTo, Verdict.sent_eq_blocked_iff, Queue.verdict_eq_full_iff]
  · simp only [Message.fst_sendTo, Message.frames_sendTo, Queue.items_offer, Verdict.sent_eq_sent_iff]
  · exact (h.results r hr).imp id fun hfailed => ⟨hfailed.1, hshut.1 hfailed.2⟩
  · exact h.results_run (hshut.2 hend) more
  · have hclosed : t.stream.frames.reader = .closed := by
      have hne := hshut.2 (.inl hclose)
      have hstays := mt hgone.1 hdrop
      cases hreader : t.stream.frames.reader with
      | listening => exact absurd hreader hne
      | closed => rfl
      | gone => exact absurd hreader hstays
    exact h.run_of_closed hclosed hmore

/-- There is room for one frame.  The second message waits until the first is
read; the third is given up; and the fourth comes after the close, before which
the second was queued. -/
theorem queued_frame_outlives_close :
    let a := Message.nothing {}
    let b := Message.value (.string "é")
    let moves := [.begin a, .attempt, .look, .begin b, .attempt, .receive true, .attempt, .begin a, .attempt, .abandon,
      .close, .begin a, .attempt]
    let t := (start 1).run moves
    t.lines = [a.line, b.line] ∧ t.stream.frames.items = [b.line] ∧ t.given = 1
      ∧ t.received ++ t.stream.frames.items = t.lines
      ∧ (t.stream.isAccepted = true ∧ (t.run [.close]).stream.isAccepted = true)
      ∧ (∃ r ∈ t.results, r.2 = .error (.unavailable "stream closed by peer"))
      ∧ (∃ failed, (t.run [.begin b, .attempt]).results = t.results ++ failed
          ∧ ∀ r ∈ failed, r.2 = .error (.unavailable "stream closed by peer"))
      ∧ (t.run [.receive true, .receive true]).received = t.received ++ [b.line] := by
  intro a b moves
  have hclose : Move.close ∈ moves := by simp [moves]
  have hdrop : Move.drop ∉ moves := by simp [moves]
  have hsent : ((start 1).run moves).lines = [a.line, b.line] := by
    simp only [moves, a, b]
    decide +kernel
  have hitems : ((start 1).run moves).stream.frames.items = [b.line] := by
    simp only [moves, a, b]
    decide +kernel
  obtain ⟨r, hr, hisOk⟩ : ∃ r ∈ ((start 1).run moves).results, r.2.isOk = false := by
    simp only [moves, a, b]
    decide +kernel
  have ⟨⟨_, _, haccepted, hstays⟩, hgiven, ⟨_, hlines⟩, _, _, hresults, hfailed, hread⟩ :=
    signal_once_then_frames 1 moves
  have hsignal := hgiven (.inr (.inl (by rw [hitems]; nofun)))
  have hne : r.2 ≠ .ok () := by
    intro hok
    rw [hok] at hisOk
    cases hisOk
  have herror := ((hresults r hr).resolve_left hne).1
  have hsome := haccepted.2 hsignal
  have hmore := (hread hclose hdrop [.receive true, .receive true] (by simp)).1
  rw [hitems] at hmore
  dsimp only
  exact ⟨hsent, hitems, hsignal, hlines hdrop, ⟨hsome, hstays _ hsome⟩, ⟨r, hr, herror⟩, hfailed (.inl hclose) _,
    hmore⟩

end

end Transfer

end CallGateway
