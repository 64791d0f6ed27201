/-
  CallGateway.Call
  ────────────────
  **WHO CALLS WHAT, AND FROM WHERE.**

  A call is judged, and shown to the subscribers, by its method, its
  consumer and its peer.  The consumer is the text of the first header of
  that name, and the empty text where there is none.
-/
import CallGateway.Message
import CallGateway.MethodName
import CallGateway.Request

namespace CallGateway

/-- The header that names the consumer. -/
def consumerHeader : String := "consumer"

/-- The consumer that the headers name; empty where they name none. -/
def Headers.consumer (hs : Headers) : String :=
  ((hs.first? consumerHeader).bind Headers.valueText?).getD ""

/-- What a call is judged and shown by. -/
structure Call where
  method : MethodName
  consumer : String
  -- The address that the call comes from.
  peer : String
  deriving DecidableEq

namespace Call

/-- The call of a method by a request. -/
def ofRequest (method : MethodName) (headers : Headers) (peer : Option SocketAddress) : Call :=
  { method, consumer := headers.consumer, peer := (peer.map (·.render)).getD "unknown" }

end Call

/-- A call as the subscribers are told about it. -/
structure CallRecord where
  -- Seconds of the Unix clock.
  timestamp : Int64
  consumer : String
  method : String
  -- The address that the call came from.
  peer : String
  deriving DecidableEq, Inhabited

namespace CallRecord

/-- The record of a call at a time. -/
def ofCall (now : Int64) (c : Call) : CallRecord := ⟨now, c.consumer, c.method.full, c.peer⟩

/-- The record as the log stream shows it. -/
def toEvent (r : CallRecord) : Event := ⟨r.timestamp, r.consumer, r.method, r.peer⟩

end CallRecord

end CallGateway
