/-
  CallGateway.Proofs.FrameStream
  ──────────────────────────────
  **THE SIGNAL AND THE FRAMES OF A STREAM.**

  The signal that a stream is accepted is given once and stays given.  What
  happens to a frame is what happens to any item that is offered to a queue
  (`FrameStream.push_eq`), and neither part of a stream has to do with the
  other.
-/
import CallGateway.FrameStream
import CallGateway.Proofs.Queue

namespace CallGateway

/-- What a handler is told of a frame, by the verdict on it. -/
def Verdict.sent : Verdict → Sent
  | .delivered => .sent
  | .full => .blocked
  | .refused => .failed FrameStream.closedByPeer

theorem Verdict.sent_eq_sent_iff {v : Verdict} : v.sent = .sent ↔ v = .delivered := by
  cases v <;> simp [sent]

theorem Verdict.sent_eq_blocked_iff {v : Verdict} : v.sent = .blocked ↔ v = .full := by
  cases v <;> simp [sent]

theorem Verdict.sent_eq_failed_iff {v : Verdict} {e : Failure} :
    v.sent = .failed e ↔ e = FrameStream.closedByPeer ∧ v = .refused := by
  cases v <;> simp [sent, eq_comm]

namespace FrameStream

variable {s : FrameStream}

@[simp] theorem isAccepted_accept (s : FrameStream) : s.accept.isAccepted = true := by
  unfold accept isAccepted
  cases s.signal <;> rfl

/-- Frames have nothing to do with the signal. -/
@[simp] theorem isAccepted_frames (s : FrameStream) (frames : Queue Bytes) :
    ({ s with frames } : FrameStream).isAccepted = s.isAccepted := rfl

@[simp] theorem frames_accept (s : FrameStream) : s.accept.frames = s.frames := rfl

/-- The signal is given once. -/
theorem accept_of_isAccepted (h : s.isAccepted = true) : s.accept = s := by
  unfold isAccepted at h
  unfold accept
  rw [if_neg (by simpa using h)]

/-- Whoever looks for the signal finds it once. -/
theorem signal_lookSignal_ne (s : FrameStream) : s.lookSignal.2.signal ≠ .given := by
  unfold lookSignal
  by_cases h : s.signal = .given
  · simp [h]
  · simp [h]

@[simp] theorem isAccepted_lookSignal (s : FrameStream) : s.lookSignal.2.isAccepted = s.isAccepted := by
  unfold lookSignal isAccepted
  by_cases h : s.signal = .given
  · rw [if_pos h, h]
    rfl
  · rw [if_neg h]

/-- A frame is queued if there is room, as long as the caller reads. -/
theorem push_of_listening (h : s.frames.reader = .listening) (frame : Bytes) :
    s.push frame = if s.frames.capacity ≤ s.frames.items.length then (.blocked, s)
      else (.sent, { s with frames := { s.frames with items := s.frames.items ++ [frame] } }) := by
  have hverdict := Queue.verdict_of_listening h
  unfold push
  by_cases hfull : s.frames.capacity ≤ s.frames.items.length
  · rw [if_pos hfull] at hverdict ⊢
    rw [hverdict]
  · rw [if_neg hfull] at hverdict ⊢
    rw [hverdict]
    simp only [Queue.offer_of_delivered frame hverdict]

/-- The caller finds the oldest frame. -/
theorem receive_of_cons (h : s.frames.reader = .listening) {frame : Bytes} {rest : List Bytes}
    (hitems : s.frames.items = frame :: rest) (sending : Bool) :
    s.receive sending = (.item frame, { s with frames := { s.frames with items := rest } }) := by
  unfold receive Queue.receive
  simp only [h, hitems]

/-- With no frame left, the caller waits for as long as someone could send. -/
theorem receive_of_nil (h : s.frames.reader = .listening) (hitems : s.frames.items = []) (sending : Bool) :
    s.receive sending = (if sending then .empty else .disconnected, s) := by
  unfold receive Queue.receive
  simp only [h, hitems]

/-- A frame is offered to the queue, and the handler is told the verdict. -/
theorem push_eq (s : FrameStream) (frame : Bytes) :
    s.push frame = (s.frames.verdict.sent, { s with frames := s.frames.offer frame }) := by
  unfold push
  cases hverdict : s.frames.verdict with
  | delivered => rfl
  | full => rw [Queue.offer_of_ne frame (by simp [hverdict])]; rfl
  | refused => rw [Queue.offer_of_ne frame (by simp [hverdict])]; rfl

end FrameStream

end CallGateway
