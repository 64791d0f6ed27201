/-
  CallGateway.OpenStream
  ──────────────────────
  **STREAMS THAT ARE BEING ANSWERED.**

  Once a call is answered with its stream, a failure of the handler can no
  longer be its response: it is counted, and becomes the last line of the
  stream as soon as there is room.
-/
import CallGateway.StreamTask

namespace CallGateway

/-- What happens around a handler whose stream was accepted. -/
inductive Supervision where
  | watching
  -- It failed, and the line that says so waits for room.
  | reporting (line : Bytes)
  | finished

/-- A stream that is an answer. -/
structure OpenStream where
  task : StreamTask
  supervision : Supervision := .watching

namespace OpenStream

/-- Frames can still be sent. -/
def isSending (s : OpenStream) : Bool :=
  match s.supervision with
  | .finished => false
  | _ => true

/-- One step around a handler: its failure is counted and reported once.
Says whether there was anything to do. -/
def supervise (s : OpenStream) (hub : Hub) : Bool × OpenStream × Hub :=
  match s.supervision with
  | .finished => (false, s, hub)
  | .watching =>
    match s.task.outcome? with
    | some (.ok ()) => (true, { s with supervision := .finished }, hub)
    | some (.error e) =>
      (true, { s with supervision := .reporting (encodeLine (ErrorFrame.ofFailure e)) }, hub.countError e.code)
    | none => (false, s, hub)
  | .reporting line =>
    match s.task.stream.push line with
    | (.blocked, _) => (false, s, hub)
    | (_, stream) => (true, ⟨{ s.task with stream }, .finished⟩, hub)

/-- Let the handler and what is around it work until they wait. -/
def run (now : Instant) (s : OpenStream) (hub : Hub) : OpenStream × Hub :=
  let (task, hub) := s.task.run now hub
  -- twice: once for the end of the handler, once for the line that reports it
  let (_, s, hub) := supervise { s with task } hub
  let (_, s, hub) := s.supervise hub
  (s, hub)

/-- What the caller finds. -/
def receive (s : OpenStream) : Received Bytes × OpenStream :=
  let (r, stream) := s.task.stream.receive s.isSending
  (r, { s with task := { s.task with stream } })

/-- The caller goes. -/
def drop (s : OpenStream) : OpenStream :=
  { s with task := { s.task with stream := s.task.stream.drop } }

end OpenStream

end CallGateway
