/-
  CallGateway.Proofs.Metrics
  ──────────────────────────
  **WHAT A COUNTER SHOWS AFTER ADDING TO IT.**

  Adding to a series changes the count of its labels and no other
  (`Counter.get_add`), so each sink that misses records has a count of its
  own (`Metrics.dropped_countDropped`), and so has each method
  (`Metrics.observed_countCall`) and each code that calls fail with
  (`Metrics.errors_countError`).
-/
import CallGateway.Metrics

namespace CallGateway

/-! ## §1. Series. -/

namespace Counter

theorem lookup_addTo (key key' : Labels) (n : UInt64) (series : List (Labels × UInt64)) :
    ((addTo key n series).lookup key').getD 0
      = (series.lookup key').getD 0 + if key' = key then n else 0 := by
  induction series with
  | nil =>
    unfold addTo
    by_cases h : key' = key
    · simp [h]
    · have hne : (key' == key) = false := by simpa using h
      simp [List.lookup_cons, hne, h]
  | cons s series ih =>
    unfold addTo
    by_cases hs : s.1 = key
    · rw [if_pos hs, List.lookup_cons, List.lookup_cons, hs]
      by_cases h : key' = key
      · simp [h]
      · have hne : (key' == key) = false := by simpa using h
        simp [hne, h]
    · rw [if_neg hs, List.lookup_cons, List.lookup_cons]
      by_cases h : key' = s.1
      · -- the series that is looked up is another one
        have hkey : key' ≠ key := fun heq => hs (h.symm.trans heq)
        simp [h, hs]
      · have hne : (key' == s.1) = false := by simpa using h
        rw [hne]
        exact ih

/-- Adding to a series changes the count of its labels alone. -/
theorem get_add (c : Counter) (labels labels' : Labels) (n : UInt64) :
    (c.add labels n).get labels' = c.get labels' + if labels'.key = labels.key then n else 0 :=
  lookup_addTo labels.key labels'.key n c.series

end Counter

/-! ## §2. Records that were not taken. -/

namespace Metrics

/-- How many records a sink did not take. -/
def dropped (m : Metrics) (s : Sink) : UInt64 := m.droppedDeliveries.get s.labels

/-- A single label is in order. -/
theorem key_singleton (label : String × String) : Labels.key [label] = [label] := List.mergeSort_singleton _

theorem singleton_inj {name value value' : String} : [(name, value)] = [(name, value')] ↔ value = value' := by
  simp

theorem key_labels (s : Sink) : s.labels.key = s.labels := by
  cases s <;> exact key_singleton _

theorem labels_inj {s s' : Sink} : s.labels = s'.labels ↔ s = s' := by
  cases s <;> cases s' <;> decide

/-- Each sink is counted by itself. -/
theorem dropped_countDropped (m : Metrics) (s s' : Sink) (n : Nat) :
    (m.countDropped s n).dropped s' = m.dropped s' + if s' = s then UInt64.ofNat n else 0 := by
  unfold countDropped
  by_cases hn : n = 0
  · simp [hn]
  · rw [if_neg hn]
    show (m.droppedDeliveries.add s.labels (UInt64.ofNat n)).get s'.labels = _
    rw [Counter.get_add, key_labels, key_labels]
    simp only [labels_inj]
    rfl

/-- Nothing else is touched by that. -/
theorem countDropped_eq (m : Metrics) (s : Sink) (n : Nat) :
    ∃ droppedDeliveries, m.countDropped s n = { m with droppedDeliveries } := by
  unfold countDropped
  split
  · exact ⟨_, rfl⟩
  · exact ⟨_, rfl⟩

/-! ## §3. Calls. -/

/-- How many calls of a method were observed. -/
def observed (m : Metrics) (method : String) : UInt64 := m.callsObserved.get [("method", method)]

/-- Each method is counted by itself. -/
theorem observed_countCall (m : Metrics) (method method' : String) :
    (m.countCall method).observed method' = m.observed method' + if method' = method then 1 else 0 := by
  show (m.callsObserved.add [("method", method)] 1).get [("method", method')] = _
  simp only [Counter.get_add, key_singleton, singleton_inj]
  rfl

/-- How many calls failed with a code. -/
def errors (m : Metrics) (code : Code) : UInt64 := m.callErrors.get [("code", code.label)]

theorem label_inj {code code' : Code} : code.label = code'.label ↔ code = code' := by
  cases code <;> cases code' <;> decide

/-- Each code is counted by itself. -/
theorem errors_countError (m : Metrics) (code code' : Code) :
    (m.countError code).errors code' = m.errors code' + if code' = code then 1 else 0 := by
  show (m.callErrors.add [("code", code.label)] 1).get [("code", code'.label)] = _
  simp only [Counter.get_add, key_singleton, singleton_inj, label_inj]
  rfl

end Metrics

end CallGateway
