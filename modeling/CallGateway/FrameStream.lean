/-
  CallGateway.FrameStream
  ───────────────────────
  **THE FRAMES OF A STREAM.**

  A handler accepts its stream before it sends the first frame; from then on
  the caller has an answer.  Frames wait in a bounded queue for the caller.
-/
import CallGateway.Line
import CallGateway.Queue

namespace CallGateway

/-- What has become of the signal that a stream is accepted. -/
inductive AcceptSignal where
  | waiting
  | given
  | taken
  deriving DecidableEq, Repr, Inhabited

/-- A stream of frames from a handler to a caller. -/
structure FrameStream where
  -- The frames that wait for the caller.
  frames : Queue Bytes
  -- Whether the stream is accepted, and the caller knows.
  signal : AcceptSignal := .waiting
  deriving DecidableEq, Repr, Inhabited

/-- What became of a frame that was sent. -/
inductive Sent where
  | sent
  -- There is no room for it yet.
  | blocked
  | failed (e : Failure)
  deriving DecidableEq, Repr

namespace FrameStream

/-- A stream with room for some frames. -/
def start (capacity : Nat) : FrameStream := { frames := { capacity := capacity } }

/-- The stream is accepted. -/
def isAccepted (s : FrameStream) : Bool := s.signal != .waiting

/-- Accept the stream; the signal is given once. -/
def accept (s : FrameStream) : FrameStream :=
  { s with signal := if s.signal = .waiting then .given else s.signal }

/-- The caller looks for the signal. -/
def lookSignal (s : FrameStream) : AcceptSignal × FrameStream :=
  (s.signal, { s with signal := if s.signal = .given then .taken else s.signal })

/-- What a handler is told when the caller wants no more. -/
def closedByPeer : Failure := .unavailable "stream closed by peer"

/-- Queue a frame. -/
def push (s : FrameStream) (frame : Bytes) : Sent × FrameStream :=
  match s.frames.verdict with
  | .delivered => (.sent, { s with frames := s.frames.offer frame })
  | .full => (.blocked, s)
  | .refused => (.failed closedByPeer, s)

/-- Send a message; this accepts the stream. -/
def send {α : Type} [Wire α] (s : FrameStream) (m : α) : Sent × FrameStream :=
  s.accept.push (encodeLine m)

/-- The caller wants no more. -/
def isClosed (s : FrameStream) : Bool := s.frames.reader != .listening

/-- What the caller finds; it takes the frame.  `sending` says whether
someone could still send. -/
def receive (s : FrameStream) (sending : Bool) : Received Bytes × FrameStream :=
  let (r, frames) := s.frames.receive sending
  (r, { s with frames })

/-- The caller goes. -/
def drop (s : FrameStream) : FrameStream := { s with frames := s.frames.drop }

/-- The caller wants no more, but may take what is queued. -/
def close (s : FrameStream) : FrameStream := { s with frames := s.frames.close }

end FrameStream

end CallGateway
