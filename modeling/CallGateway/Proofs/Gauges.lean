/-
  CallGateway.Proofs.Gauges
  ─────────────────────────
  **WHAT THE SUBSCRIBER GAUGES COUNT.**

  The metrics tell how many subscribers are registered with the two feeds.
  These are the subscribers that have come and have not gone; of the statistics
  there may be a stray among them for a while (`gauges_count_handles`).
-/
import CallGateway.Hub
import CallGateway.Proofs.LogFeed.Headcount
import CallGateway.Proofs.StatsFeed.Headcount

namespace CallGateway.Hub

open LogFeed (Shift)
open StatsFeed (Rush)

/-- **The gauges count handles.** Take the two feeds of a hub, new at first,
through any steps of those who publish, of the log's worker, of subscribers and
of shutdowns; any number of records may be on their way to the statistics at the
same time.

* Before the shutdown of the log, the ids that are registered are those of the
  subscribers that have come and have not gone, in the order in which they came.
  The worker strikes off nobody.  Who goes is struck off at once, and nobody
  else is.
* Before the shutdown of the statistics they are those of the subscribers that
  have come and have not gone, and of the strays.  No step of a record strikes
  off a subscriber that has not gone.  Who goes is struck off at once, and nobody
  else is.
* There are strays only where the clock does not reach the first report of a
  subscriber, and none is left after a record that is handed out with nothing in
  between.
* Whoever is refused leaves a feed as it was.
* After the shutdown nobody is registered, and nobody can be struck off.
* So this is what the gauges say. -/
theorem gauges_count_handles (intakeCapacity logBuffer statsBuffer : Nat) (m m' m'' : Metrics)
    (events : List Shift.Event) (steps : List Rush.Event) :
    let w := (Shift.start intakeCapacity logBuffer m).run events
    let v := (Rush.start statsBuffer m').run steps
    let log := w.feed.exchange
    let stats := v.feed.exchange
    (.close ∉ events →
        log.ids = w.live.map (·.id) ∧ (w.next .work).feed.exchange.ids = log.ids
          ∧ ∀ s e, w.feed.handles[s]? = some e → s ∉ w.left →
              (log.remove e.id).1 = true ∧ (w.next (.drop s)).feed.exchange.ids = log.ids.erase e.id)
      ∧ (.shutdown ∉ steps →
        stats.ids.Perm (v.live.map (·.id) ++ v.strays.map (·.id))
          ∧ (∀ step : Rush.Event, step.handsOut = true → ∀ e ∈ v.live, e.id ∈ (v.next step).feed.exchange.ids)
          ∧ (∀ s e, v.handles[s]? = some e → s ∉ v.left →
              (stats.remove e.id).1 = true ∧ (v.next (.drop s)).feed.exchange.ids = stats.ids.erase e.id)
          ∧ ∀ r, (v.run (.launch r :: List.replicate stats.size (.offer 0) ++ [.land 0])).strays = [])
      ∧ ((∀ period, .subscribe period ∈ steps → v.now + period < Ticker.clockEnd) → v.strays = [])
      ∧ ((∀ place, w.feed.subscribe.1 ≠ .taken place) → (w.next .subscribe).feed = w.feed)
      ∧ (∀ period reason, (v.feed.subscribe v.now period).1 = .refused reason → v.next (.subscribe period) = v)
      ∧ (.close ∈ events → ∀ id, log.remove id = (false, log))
      ∧ (.shutdown ∈ steps → ∀ id, stats.remove id = (false, stats))
      ∧ ({ metrics := m'', log := w.feed, stats := v.feed } : Hub).gauges
        = [("rpcgate_log_subscribers", if .close ∈ events then 0 else w.live.length),
          ("rpcgate_stats_subscribers", if .shutdown ∈ steps then 0 else v.live.length + v.strays.length)] := by
  intro w v log stats
  have hw : w.Manned :=
    (Shift.manned_start intakeCapacity logBuffer m).run (Shift.sound_start intakeCapacity logBuffer m) events
  obtain ⟨roll, hv⟩ : ∃ roll, v.Manned roll := (Rush.manned_start statsBuffer m').run steps
  have hlog : log.isOpen = decide (.close ∉ events) := Shift.isOpen_run _ events
  have hstats : stats.isOpen = decide (.shutdown ∉ steps) := Rush.isOpen_run _ steps
  refine ⟨fun hbefore => ?_, fun hbefore => ?_, Rush.strays_run steps rfl,
    LogFeed.subscribe_of_not_taken, fun period reason hrefused => Rush.next_subscribe_of_refused hrefused,
    fun hafter => ?_, fun hafter => ?_, ?_⟩
  · have hopen := hlog.trans (decide_eq_true hbefore)
    exact ⟨hw.ids_eq hopen, hw.ids_work hopen, fun s e he hs => hw.ids_drop hopen he hs⟩
  · have hopen := hstats.trans (decide_eq_true hbefore)
    exact ⟨hv.ids_perm hopen, fun step hstep e he => hv.stays hopen hstep he,
      fun s e he hs => hv.ids_drop hopen he hs, hv.strays_publish hopen⟩
  · exact hw.presence.remove_of_closed (hlog.trans (decide_eq_false (not_not.2 hafter)))
  · exact hv.presence.remove_of_closed (hstats.trans (decide_eq_false (not_not.2 hafter)))
  · have hsize : w.feed.size = if .close ∈ events then 0 else w.live.length := by
      rw [hw.size_eq, show w.feed.exchange.isOpen = _ from hlog]
      simp [ite_not]
    have hsize' : v.feed.size = if .shutdown ∈ steps then 0 else v.live.length + v.strays.length := by
      rw [hv.size_eq, show v.feed.exchange.isOpen = _ from hstats]
      simp [ite_not]
    unfold gauges
    rw [hsize, hsize']

/-- Two subscribers of the log have come and one of them has gone.  The attempt
of a subscriber of the statistics breaks off, and another one is taken. -/
theorem gauges_count_stray : ∃ (w : Shift) (v : Rush),
    w = (Shift.start 4 2 {}).run [.subscribe, .subscribe, .drop 0]
      ∧ v = (Rush.start 2 {}).run [.subscribe Ticker.clockEnd, .subscribe 1000]
      ∧ w.feed.exchange.ids = [2] ∧ w.live.map (·.id) = [2]
      ∧ v.feed.exchange.ids.Perm [2, 1] ∧ v.live.map (·.id) = [2] ∧ v.strays.map (·.id) = [1]
      ∧ ({ log := w.feed, stats := v.feed } : Hub).gauges
        = [("rpcgate_log_subscribers", 1), ("rpcgate_stats_subscribers", 2)] := by
  obtain ⟨hlog, hstats, -, -, -, -, -, hgauges⟩ := gauges_count_handles 4 2 2 {} {} {}
    [.subscribe, .subscribe, .drop 0] [.subscribe Ticker.clockEnd, .subscribe 1000]
  exact ⟨_, _, rfl, rfl, (hlog (by decide)).1, rfl, (hstats (by decide)).1, rfl, rfl, hgauges⟩

/-- The ids that are registered are not those of the handles alone. -/
theorem stray_has_no_handle : ¬∀ steps : List Rush.Event, .shutdown ∉ steps →
    ((Rush.start 2 {}).run steps).feed.exchange.ids = ((Rush.start 2 {}).run steps).live.map (·.id) := by
  intro hids
  have hone := hids [.subscribe Ticker.clockEnd] (by decide)
  have hregistered : ((Rush.start 2 {}).run [.subscribe Ticker.clockEnd]).feed.exchange.ids = [1] := rfl
  have hlive : ((Rush.start 2 {}).run [.subscribe Ticker.clockEnd]).live = [] := rfl
  rw [hregistered, hlive] at hone
  cases hone

end CallGateway.Hub
