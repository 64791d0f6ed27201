/-
  CallGateway.Proofs.Metrics.Meters
  ─────────────────────────────────
  **WHAT THE COUNTERS SHOW OF THE CALLS.**

  About a call four things can be counted (`Count`), each by one in one
  series.  A `Meter` gets a number from a counter to which every series adds
  something of its own: the count of one series, or the sum over all of them.
  So what a meter gains is the weight of what was counted, in whatever order
  that was done (`Counted.read`).
-/
import CallGateway.Proofs.Metrics
import Mathlib.Data.UInt

namespace CallGateway

/-! ## §1. Labels. -/

namespace Labels

/-- Labels of one series are the same, up to their order. -/
theorem perm_of_key_eq {labels labels' : Labels} (h : labels.key = labels'.key) : labels.Perm labels' := by
  have hsorted := List.mergeSort_perm labels le
  have hsorted' := List.mergeSort_perm labels' le
  have h : labels.mergeSort le = labels'.mergeSort le := h
  rw [h] at hsorted
  exact hsorted.symm.trans hsorted'

end Labels

/-! ## §2. Meters. -/

namespace Counter

/-- The sum over all series. -/
def total (c : Counter) : UInt64 := (c.series.map (·.2)).sum

theorem sum_addTo (key : Labels) (n : UInt64) (series : List (Labels × UInt64)) :
    ((addTo key n series).map (·.2)).sum = (series.map (·.2)).sum + n := by
  induction series with
  | nil => simp [addTo]
  | cons s series ih =>
    unfold addTo
    split
    · rw [List.map_cons, List.sum_cons, List.map_cons, List.sum_cons, UInt64.add_assoc, UInt64.add_comm n,
        ← UInt64.add_assoc]
    · rw [List.map_cons, List.sum_cons, ih, List.map_cons, List.sum_cons, UInt64.add_assoc]

/-- Whatever the labels are, the sum grows by what is added. -/
theorem total_add (c : Counter) (labels : Labels) (n : UInt64) : (c.add labels n).total = c.total + n :=
  sum_addTo labels.key n c.series

/-- Adding brings one series, if it is new, and no other. -/
theorem mem_series_add {c : Counter} {labels : Labels} {n : UInt64} {s : Labels × UInt64}
    (h : s ∈ (c.add labels n).series) : s.1 = labels.key ∨ ∃ s' ∈ c.series, s.1 = s'.1 := by
  have haddTo : ∀ series : List (Labels × UInt64), s ∈ addTo labels.key n series →
      s.1 = labels.key ∨ ∃ s' ∈ series, s.1 = s'.1 := by
    intro series
    induction series with
    | nil =>
      intro h
      obtain rfl := List.mem_singleton.1 h
      exact .inl rfl
    | cons a series ih =>
      intro h
      unfold addTo at h
      split at h
      · rcases List.mem_cons.1 h with rfl | h
        · exact .inr ⟨a, List.mem_cons_self, rfl⟩
        · exact .inr ⟨s, List.mem_cons_of_mem a h, rfl⟩
      · rcases List.mem_cons.1 h with rfl | h
        · exact .inr ⟨s, List.mem_cons_self, rfl⟩
        · rcases ih h with h | ⟨s', hs', h⟩
          · exact .inl h
          · exact .inr ⟨s', List.mem_cons_of_mem a hs', h⟩
  exact haddTo c.series h

end Counter

/-- A number that is got from a counter; counting under some labels adds to
it what these labels weigh. -/
structure Meter where
  read : Counter → UInt64
  weight : Labels → UInt64
  read_inc : ∀ c labels, read (c.add labels 1) = read c + weight labels
  read_empty : read {} = 0

namespace Meter

/-- The sum over all series. -/
def total : Meter where
  read := Counter.total
  weight _ := 1
  read_inc c labels := c.total_add labels 1
  read_empty := rfl

/-- The count of some labels. -/
def at_ (labels : Labels) : Meter where
  read c := c.get labels
  weight labels' := if labels.key = labels'.key then 1 else 0
  read_inc c labels' := c.get_add labels' labels 1
  read_empty := rfl

end Meter

/-! ## §3. What is counted about calls. -/

/-- One thing that is counted about a call. -/
inductive Count where
  -- A call of a method, under this label.
  | call (label : String)
  -- A verdict of the policy.
  | allowed
  | denied (code : Code)
  -- A failure.
  | error (code : Code)
  deriving DecidableEq, Repr

namespace Count

/-- The counter in which it is counted. -/
def family : Count → Family
  | call _ => .callsObserved
  | allowed | denied _ => .policyDecisions
  | error _ => .callErrors

/-- The labels under which it is counted. -/
def labels : Count → Labels
  | call label => [("method", label)]
  | allowed => [("decision", "allow")]
  | denied code => [("decision", "deny"), ("code", code.label)]
  | error code => [("code", code.label)]

end Count

/-- What some counts weigh in a counter. -/
def Meter.weigh (ρ : Meter) (f : Family) (counts : List Count) : UInt64 :=
  (counts.map fun c => if c.family = f then ρ.weight c.labels else 0).sum

namespace Meter

@[simp] theorem weigh_nil (ρ : Meter) (f : Family) : ρ.weigh f [] = 0 := rfl

@[simp] theorem weigh_cons (ρ : Meter) (f : Family) (c : Count) (counts : List Count) :
    ρ.weigh f (c :: counts) = (if c.family = f then ρ.weight c.labels else 0) + ρ.weigh f counts := by
  unfold weigh
  rw [List.map_cons, List.sum_cons]

theorem weigh_append (ρ : Meter) (f : Family) (counts more : List Count) :
    ρ.weigh f (counts ++ more) = ρ.weigh f counts + ρ.weigh f more := by
  unfold weigh
  rw [List.map_append, List.sum_append]

end Meter

namespace Metrics

/-- Count one thing about a call. -/
def count (m : Metrics) (c : Count) : Metrics := m.add c.family c.labels 1

/-- Adding to a counter leaves the others alone. -/
theorem counter_add (m : Metrics) (f f' : Family) (labels : Labels) (n : UInt64) :
    (m.add f labels n).counter f' = if f = f' then (m.counter f').add labels n else m.counter f' := by
  cases f <;> cases f' <;> rfl

/-- The counters that tell about calls are the same. -/
def SameCounts (m m' : Metrics) : Prop := ∀ f ≠ Family.droppedDeliveries, m'.counter f = m.counter f

/-- From one state to the other these things were counted about calls, and
no others. -/
def Counted (counts : List Count) (m m' : Metrics) : Prop := (counts.foldl count m).SameCounts m'

/-- That records were not taken is counted, but not about calls. -/
theorem counted_dropped {counts : List Count} {m m' : Metrics} {droppedDeliveries : Counter}
    (h : m' = { counts.foldl count m with droppedDeliveries }) : Counted counts m m' := by
  subst h
  intro f hf
  cases f with
  | droppedDeliveries => exact absurd rfl hf
  | _ => rfl

theorem counted_of_eq {counts : List Count} {m m' : Metrics} (h : m' = counts.foldl count m) : Counted counts m m' := by
  subst h
  exact fun f _ => rfl

/-- **What is counted is what a meter gains.** -/
theorem Counted.read {counts : List Count} {m m' : Metrics} (h : Counted counts m m') (ρ : Meter) {f : Family}
    (hf : f ≠ .droppedDeliveries) : ρ.read (m'.counter f) = ρ.read (m.counter f) + ρ.weigh f counts := by
  rw [h f hf]
  clear h
  induction counts generalizing m with
  | nil => exact (UInt64.add_zero _).symm
  | cons c counts ih =>
    rw [List.foldl_cons, ih, ρ.weigh_cons, count, counter_add]
    split
    · rw [ρ.read_inc, UInt64.add_assoc]
    · rw [UInt64.zero_add]

end Metrics

end CallGateway
