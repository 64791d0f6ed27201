/-
  CallGateway.StatsFeed.Snapshot
  ──────────────────────────────
  **CALLS BY METHOD AND BY CONSUMER.**

  Every record counts once under its method and once under its consumer.
-/
import CallGateway.Call

namespace CallGateway

/-- Calls by method and by consumer. -/
structure Snapshot where
  byMethod : Dict Nat := .empty
  byConsumer : Dict Nat := .empty
  deriving DecidableEq, Inhabited

namespace Snapshot

/-- One more under a name.  Counts are words of 64 bits only in a message
(`toStat`): fewer than 2 ^ 64 records are taken to come between two reports, so
that no word would overflow before. -/
def bump (d : Dict Nat) (name : String) : Dict Nat := d.insert name ((d.get? name).getD 0 + 1)

/-- Count a record. -/
def count (s : Snapshot) (r : CallRecord) : Snapshot :=
  ⟨bump s.byMethod r.method, bump s.byConsumer r.consumer⟩

/-- The message that reports the counts. -/
def toStat (timestamp : Int64) (s : Snapshot) : Stat :=
  ⟨timestamp, s.byMethod.map UInt64.ofNat, s.byConsumer.map UInt64.ofNat⟩

end Snapshot

end CallGateway
