/-
  CallGateway.Metrics
  ───────────────────
  **WHAT IS COUNTED, AND HOW IT IS SHOWN.**

  A counter has a series for each set of labels that it was used with; the
  order in which the labels are given does not matter.  Counts wrap at 2^64.
  The text shows one line for each series, in order, so that it depends on
  the counts only and not on how they came about.
-/
import CallGateway.Failure

namespace CallGateway

/-! ## §1. Labels. -/

/-- Names with values that tell one series from another. -/
abbrev Labels := List (String × String)

namespace Labels

/-- The order of labels: by name, then by value. -/
def le (a b : String × String) : Bool := a.1 < b.1 || (a.1 == b.1 && !(b.2 < a.2))

/-- The labels in order. -/
def key (labels : Labels) : Labels := labels.mergeSort le

/-- How a character of a label's value is shown. -/
def escapeChar (c : Char) : List Char :=
  if c = '\\' then ['\\', '\\']
  else if c = '"' then ['\\', '"']
  else if c = '\n' then ['\\', 'n']
  else [c]

/-- How a label's value is shown. -/
def escape (value : String) : String := String.ofList (value.toList.flatMap escapeChar)

/-- How one label is shown. -/
def renderOne (label : String × String) : String := label.1 ++ "=\"" ++ escape label.2 ++ "\""

/-- How labels are shown. -/
def render (labels : Labels) : String := ",".intercalate (labels.map renderOne)

end Labels

/-! ## §2. Counters. -/

/-- A counter: the count of each series that was touched. -/
structure Counter where
  -- The series under their ordered labels.
  series : List (Labels × UInt64) := []
  deriving DecidableEq, Repr, Inhabited

namespace Counter

/-- Add to the series of an ordered key, which appears if it is new. -/
def addTo (key : Labels) (n : UInt64) : List (Labels × UInt64) → List (Labels × UInt64)
  | [] => [(key, n)]
  | s :: rest => if s.1 = key then (s.1, s.2 + n) :: rest else s :: addTo key n rest

/-- Add to the series of some labels. -/
def add (c : Counter) (labels : Labels) (n : UInt64) : Counter := ⟨addTo labels.key n c.series⟩

/-- Add one to the series of some labels. -/
def inc (c : Counter) (labels : Labels) : Counter := c.add labels 1

/-- The count of some labels; zero where there is no series. -/
def get (c : Counter) (labels : Labels) : UInt64 := (c.series.lookup labels.key).getD 0

/-- The order of rows: by text, then by count. -/
def rowLe (a b : String × UInt64) : Bool := a.1 < b.1 || (a.1 == b.1 && a.2 ≤ b.2)

/-- The rows of the text: labels and counts in order. -/
def rows (c : Counter) : List (String × UInt64) :=
  (c.series.map fun s => (Labels.render s.1, s.2)).mergeSort rowLe

/-- One line of the text. -/
def renderRow (name : String) (row : String × UInt64) : String :=
  name ++ "\x7b" ++ row.1 ++ "\x7d " ++ toString row.2.toNat ++ "\n"

/-- The lines of a counter. -/
def render (name : String) (c : Counter) : String :=
  "# TYPE " ++ name ++ " counter\n" ++ String.join (c.rows.map (renderRow name))

end Counter

/-! ## §3. The gateway's counters. -/

/-- The counters of the gateway. -/
inductive Family where
  | callsObserved
  | policyDecisions
  -- Records that a full buffer did not take.
  | droppedDeliveries
  | callErrors
  deriving DecidableEq, Repr

/-- The name of a counter in the text. -/
def Family.label : Family → String
  | callsObserved => "rpcgate_calls_observed_total"
  | policyDecisions => "rpcgate_policy_decisions_total"
  | droppedDeliveries => "rpcgate_dropped_deliveries_total"
  | callErrors => "rpcgate_call_errors_total"

/-- Where a record was not taken. -/
inductive Sink where
  -- The buffer in front of the log streams.
  | eventIntake
  | logSubscriber
  | statsSubscriber
  deriving DecidableEq, Repr

/-- The labels of a sink. -/
def Sink.labels : Sink → Labels
  | eventIntake => [("sink", "event_intake")]
  | logSubscriber => [("sink", "log_subscriber")]
  | statsSubscriber => [("sink", "stats_subscriber")]

/-- All that the gateway counts, and whether it is shutting down. -/
structure Metrics where
  callsObserved : Counter := {}
  policyDecisions : Counter := {}
  -- Records that a full buffer did not take.
  droppedDeliveries : Counter := {}
  callErrors : Counter := {}
  draining : Bool := false
  deriving DecidableEq, Repr, Inhabited

namespace Metrics

/-- The counter of a family. -/
def counter (m : Metrics) : Family → Counter
  | .callsObserved => m.callsObserved
  | .policyDecisions => m.policyDecisions
  | .droppedDeliveries => m.droppedDeliveries
  | .callErrors => m.callErrors

/-- Add to a series of a family. -/
def add (m : Metrics) (f : Family) (labels : Labels) (n : UInt64) : Metrics :=
  match f with
  | .callsObserved => { m with callsObserved := m.callsObserved.add labels n }
  | .policyDecisions => { m with policyDecisions := m.policyDecisions.add labels n }
  | .droppedDeliveries => { m with droppedDeliveries := m.droppedDeliveries.add labels n }
  | .callErrors => { m with callErrors := m.callErrors.add labels n }

/-- Count a call of a method. -/
def countCall (m : Metrics) (method : String) : Metrics := m.add .callsObserved [("method", method)] 1

/-- Count records that a sink did not take, if there are any. -/
def countDropped (m : Metrics) (sink : Sink) (n : Nat) : Metrics :=
  if n = 0 then m else m.add .droppedDeliveries sink.labels (UInt64.ofNat n)

/-- Count an allowed call. -/
def countAllowed (m : Metrics) : Metrics := m.add .policyDecisions [("decision", "allow")] 1

/-- Count a denied call. -/
def countDenied (m : Metrics) (code : Code) : Metrics :=
  m.add .policyDecisions [("decision", "deny"), ("code", code.label)] 1

/-- Count a call that failed. -/
def countError (m : Metrics) (code : Code) : Metrics := m.add .callErrors [("code", code.label)] 1

/-- Note that the gateway is shutting down. -/
def setDraining (m : Metrics) : Metrics := { m with draining := true }

/-- How a gauge is shown. -/
def renderGauge (name : String) (value : Nat) : String :=
  "# TYPE " ++ name ++ " gauge\n" ++ name ++ " " ++ toString value ++ "\n"

/-- The text of all counters and of some gauges. -/
def render (m : Metrics) (gauges : List (String × Nat)) : String :=
  String.join
    (([Family.callsObserved, .policyDecisions, .droppedDeliveries, .callErrors].map
        fun f => (m.counter f).render f.label)
      ++ renderGauge "rpcgate_draining" (if m.draining then 1 else 0)
      :: gauges.map fun g => renderGauge g.1 g.2)

end Metrics

end CallGateway
