/-
  CallGateway.StatsFeed.Ticker
  ────────────────────────────
  **WHEN A REPORT IS DUE.**

  A ticker keeps its beat while its ticks are taken in time.  One that is
  taken late sets the beat anew, so that ticks do not pile up.  The first
  tick comes after the interval that is asked for, however long it is, unless
  that is after the end of the clock, which counts seconds in 63 bits.  The
  ticks after it come at the same interval, or every thirty years if it is
  longer than that: so they do even where the clock goes far enough for the
  interval asked for.  No tick comes after the last moment that a tick can
  come at: one that is due later comes then, or at once where that moment has
  passed.
-/

namespace CallGateway

/-- A ticker: when its next tick is due, and how often it ticks; all times
are in milliseconds. -/
structure Ticker where
  due : Nat
  period : Nat
  deriving DecidableEq, Repr, Inhabited

namespace Ticker

/-- A tick that is taken no later than this still counts as in time. -/
def grace : Nat := 5

/-- The end of the clock.  Its seconds are not counted from the start of the
gateway but from a moment before that, so the last day is left out. -/
def clockEnd : Nat := (UInt64.size / 2 - 24 * 60 * 60) * 1000

/-- The longest time from one tick to the next: thirty years of 365 days.
Only the first tick may take longer. -/
def longestPeriod : Nat := 30 * 365 * 24 * 60 * 60 * 1000

/-- The last moment that a tick can come at.  Of the milliseconds that 64 bits
can count, the last two are left out. -/
def lastMoment : Nat := UInt64.size - 3

/-- The first tick comes one period from now, if the clock goes that far.  The
others come at that period or at the longest one, whichever is shorter and
however far the clock goes. -/
def start? (now period : Nat) : Option Ticker :=
  if now + period < clockEnd then some ⟨now + period, min period longestPeriod⟩ else none

/-- When the next tick comes if it is waited for. -/
def comes (t : Ticker) : Nat := min t.due lastMoment

/-- The next tick has come. -/
def isDue (t : Ticker) (now : Nat) : Bool := t.comes ≤ now

/-- Take a due tick: one in time keeps the beat, a late one sets it anew. -/
def take (t : Ticker) (now : Nat) : Ticker :=
  { t with due := (if now ≤ t.due + grace then t.due else now) + t.period }

end Ticker

end CallGateway
