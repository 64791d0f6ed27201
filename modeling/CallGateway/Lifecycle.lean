/-
  CallGateway.Lifecycle
  ─────────────────────
  **FROM LISTENING TO STOPPED.**

  A server that has started is watched until it is told to stop or its
  listener ends by itself.  Either way the gateway is drained first.  After
  a shutdown signal the listener then takes no new calls, and the calls in
  flight get some time to end; when it is over they are cut off.  The server
  has stopped only when the gateway is drained and the listener has ended.

  The signal, the end of the listener, the end of draining and the end of
  the time may come in any order: each of them is a `LifecycleEvent`, and one that
  means nothing at the moment changes nothing, except that the end of the
  listener is remembered.

  Whoever waits for the end looks at the phase whenever there is a new one.
-/

namespace CallGateway

/-- The phase of a server, as others see it. -/
inductive Phase where
  | created
  | listening
  | draining
  | stopped
  deriving DecidableEq, Repr, Inhabited

/-- The name of a phase. -/
def Phase.label : Phase → String
  | created => "Created"
  | listening => "Listening"
  | draining => "Draining"
  | stopped => "Stopped"

/-- What the supervisor of a server is doing. -/
inductive Watch where
  -- It waits for the signal or the end of the listener.
  | watching
  -- The gateway is being drained after the signal.
  | drainingOnSignal
  -- The gateway is being drained because the listener has ended.
  | drainingOnExit
  -- It waits for the calls in flight.
  | waiting
  -- It has cut them off and waits for the end of the listener.
  | aborting
  | done
  deriving DecidableEq, Repr, Inhabited

/-- The course of a server. -/
structure Lifecycle where
  -- The calls in flight get no time to end.
  impatient : Bool
  watch : Watch := .watching
  -- The phases so far, in order.
  phases : List Phase := [.listening]
  listenerEnded : Bool := false
  -- How often the end of the listener was taken note of.
  joins : Nat := 0
  drains : Nat := 0
  deriving DecidableEq, Repr, Inhabited

/-- What can happen to a server. -/
inductive LifecycleEvent where
  | signal
  | drained
  -- The listener ends: by itself, with the last call, or cut off.
  | listenerEnds
  -- The time for the calls in flight is over.
  | timeout
  deriving DecidableEq, Repr

/-- Whoever waits for a server to stop. -/
inductive Waiter where
  -- It is about to look at the phase.
  | looking
  -- The latest of so many phases was another one, and it waits for the next.
  | waiting (seen : Nat)
  | returned
  deriving DecidableEq, Repr, Inhabited

namespace Lifecycle

/-- A server that has just started. -/
def start (drainTimeoutMs : Nat) : Lifecycle := { impatient := drainTimeoutMs = 0 }

/-- The phase of a server. -/
def phase (l : Lifecycle) : Phase := (l.phases.getLast?).getD .created

/-- A phase begins. -/
def enter (p : Phase) (l : Lifecycle) : Lifecycle := { l with phases := l.phases ++ [p] }

/-- The end of the listener is taken note of, and all has ended. -/
def join (l : Lifecycle) : Lifecycle := { l.enter .stopped with watch := .done, joins := l.joins + 1 }

/-- All has ended, the end of the listener having been noted before. -/
def conclude (l : Lifecycle) : Lifecycle := { l.enter .stopped with watch := .done }

/-- Wait for the end of the listener, which may have come already. -/
def await (w : Watch) (l : Lifecycle) : Lifecycle :=
  if l.listenerEnded then l.join else { l with watch := w }

/-- What an event changes. -/
def step (l : Lifecycle) : LifecycleEvent → Lifecycle
  | .signal =>
    match l.watch with
    | .watching => { l.enter .draining with watch := .drainingOnSignal, drains := l.drains + 1 }
    | _ => l
  | .drained =>
    match l.watch with
    | .drainingOnSignal => l.await (if l.impatient then .aborting else .waiting)
    | .drainingOnExit => l.conclude
    | _ => l
  | .listenerEnds =>
    if l.listenerEnded then l
    else
      -- whoever waits for the end of the listener goes on at once
      let l := { l with listenerEnded := true }
      match l.watch with
      | .watching =>
        { l.enter .draining with watch := .drainingOnExit, joins := l.joins + 1, drains := l.drains + 1 }
      | .waiting | .aborting => l.join
      | _ => l
  | .timeout =>
    match l.watch with
    | .waiting => { l with watch := .aborting }
    | _ => l

/-- What a course of events comes to. -/
def run (l : Lifecycle) (es : List LifecycleEvent) : Lifecycle := es.foldl step l

end Lifecycle

/-- What whoever waits for a server to stop does next. -/
def Waiter.step (l : Lifecycle) : Waiter → Waiter
  | .looking => if l.phase = .stopped then .returned else .waiting l.phases.length
  | .waiting seen =>
    if l.phases.length ≠ seen then .looking
    -- there is nobody left who could announce a phase
    else if l.watch = .done then .returned
    else .waiting seen
  | .returned => .returned

end CallGateway
