/-
  CallGateway.StreamTask
  ──────────────────────
  **A HANDLER AT WORK.**

  A handler that follows a feed subscribes first and accepts its stream only
  then, so that a call that cannot subscribe is refused before anything is
  sent.  It takes one record or report at a time and holds on to its frame
  until there is room.  When the caller goes, or the feed ends, it gives up
  its subscription and ends well.  A handler with actions of its own fails
  where one of them does.  One that cannot go on breaks off without a result.
-/
import CallGateway.FrameStream
import CallGateway.Hub
import CallGateway.Instant
import CallGateway.Service

namespace CallGateway

/-- What a handler is doing. -/
inductive Activity where
  | performing (actions : List Action) (ending : Outcome Unit)
  -- It follows the log as this subscriber; it may have a frame in hand.
  | followingLog (subscriber : Nat) (inHand : Option Bytes)
  /-- It follows the statistics as this subscriber; it may have a frame in
  hand. -/
  | followingStats (subscriber : Nat) (inHand : Option Bytes)
  | ended (result : Outcome Unit)
  | brokenOff

/-- A handler with its stream. -/
structure StreamTask where
  activity : Activity
  stream : FrameStream

namespace StreamTask

/-- A handler begins: one that follows a feed subscribes and accepts. -/
def start (h : Handler) (capacity : Nat) (t : Instant) (hub : Hub) : StreamTask × Hub :=
  let stream := FrameStream.start capacity
  match h with
  | .perform actions ending => (⟨.performing actions ending, stream⟩, hub)
  | .followLog =>
    match hub.log.subscribe with
    | (.taken s, log) => (⟨.followingLog s none, stream.accept⟩, { hub with log })
    | (.refused e, log) => (⟨.ended (.error e), stream⟩, { hub with log })
    | (.brokenOff, log) => (⟨.brokenOff, stream⟩, { hub with log })
  | .followStats seconds =>
    match hub.stats.subscribe t.ms (seconds * 1000) with
    | (.taken s, stats) => (⟨.followingStats s none, stream.accept⟩, { hub with stats })
    | (.refused e, stats) => (⟨.ended (.error e), stream⟩, { hub with stats })
    | (.brokenOff, stats) => (⟨.brokenOff, stream⟩, { hub with stats })

/-- How the handler has come out, once it has ended or broken off. -/
def outcome? (t : StreamTask) : Option (Outcome Unit) :=
  match t.activity with
  | .ended r => some r
  | .brokenOff => some (.error .brokenOff)
  | _ => none

/-- The handler is not at work any more. -/
def isEnded (t : StreamTask) : Bool := t.outcome?.isSome

/-- How a call is answered whose handler begins: with its stream once that
is accepted, or once the handler has ended well; with a failure where the
handler fails before that; and not yet as long as nothing of it has come. -/
def answer? (t : StreamTask) : Option (Outcome Unit) :=
  if t.stream.isAccepted then some (.ok ()) else t.outcome?

/-- A handler gives up its subscription, if it has one, and ends well. -/
def leave (t : StreamTask) (hub : Hub) : StreamTask × Hub :=
  let ended : StreamTask := { t with activity := .ended (.ok ()) }
  match t.activity with
  | .followingLog s _ => (ended, { hub with log := hub.log.drop s })
  | .followingStats s _ => (ended, { hub with stats := hub.stats.drop s })
  | _ => (t, hub)

/-- Queue the frame in hand, and then go on as `next`. -/
def hand (frame : Bytes) (next : Activity) (t : StreamTask) (hub : Hub) : Bool × StreamTask × Hub :=
  match t.stream.push frame with
  | (.sent, stream) => (true, ⟨next, stream⟩, hub)
  | (.blocked, _) => (false, t, hub)
  | (.failed _, _) => (true, t.leave hub)

/-- One step of a handler; says whether there was anything to do.
`heedPeer` decides where the feed has something and the caller is gone. -/
def step (heedPeer : Bool) (now : Instant) (t : StreamTask) (hub : Hub) : Bool × StreamTask × Hub :=
  match t.activity with
  | .ended _ | .brokenOff => (false, t, hub)
  | .performing [] ending => (true, { t with activity := .ended ending }, hub)
  | .performing (.accept :: rest) ending => (true, ⟨.performing rest ending, t.stream.accept⟩, hub)
  | .performing (.send msg :: rest) ending =>
    -- sending accepts the stream, and that is a step of its own
    if !t.stream.isAccepted then (true, { t with stream := t.stream.accept }, hub)
    else match t.stream.send msg with
      | (.sent, stream) => (true, ⟨.performing rest ending, stream⟩, hub)
      | (.blocked, _) => (false, t, hub)
      | (.failed e, stream) => (true, ⟨.ended (.error e), stream⟩, hub)
  | .followingLog s (some frame) => t.hand frame (.followingLog s none) hub
  | .followingLog s none =>
    if heedPeer && t.stream.isClosed then (true, t.leave hub)
    else match hub.log.receive s with
      | (.ready r, log) =>
        (true, { t with activity := .followingLog s (some (encodeLine r.toEvent)) }, { hub with log })
      | (.pending, log) =>
        -- with nothing to send, the end of the caller is all that can come
        if t.stream.isClosed then (true, t.leave hub) else (false, t, { hub with log })
      | (.ended, log) => (true, t.leave { hub with log })
  | .followingStats s (some frame) => t.hand frame (.followingStats s none) hub
  | .followingStats s none =>
    if heedPeer && t.stream.isClosed then (true, t.leave hub)
    else match hub.stats.poll [] s now.ms with
      | (.ready snapshot, stats) =>
        let frame := encodeLine (snapshot.toStat now.wall)
        (true, { t with activity := .followingStats s (some frame) }, { hub with stats })
      | (.pending, stats) =>
        if t.stream.isClosed then (true, t.leave { hub with stats }) else (false, t, { hub with stats })
      | (.ended, stats) => (true, t.leave { hub with stats })

/-- How many steps a handler can take at most before it waits or ends. -/
def stepsLeft (t : StreamTask) (hub : Hub) : Nat :=
  match t.activity with
  | .performing actions _ => 2 * actions.length + 2
  | .followingLog s _ =>
    let queued := (hub.log.handles[s]?).bind fun e => hub.log.exchange.queue? e.queue
    2 * ((queued.map (·.items.length)).getD 0) + 4
  | .followingStats _ _ => 8
  | .ended _ | .brokenOff => 0

/-- Let a handler work until it waits or ends. -/
def run (now : Instant) (t : StreamTask) (hub : Hub) : StreamTask × Hub :=
  go (t.stepsLeft hub) t hub
where
  -- Takes steps while the fuel lasts and there is anything to do.
  go : (fuel : Nat) → StreamTask → Hub → StreamTask × Hub
    | 0, t, hub => (t, hub)
    | fuel + 1, t, hub =>
      match t.step true now hub with
      | (true, t, hub) => go fuel t hub
      | (false, t, hub) => (t, hub)

end StreamTask

end CallGateway
