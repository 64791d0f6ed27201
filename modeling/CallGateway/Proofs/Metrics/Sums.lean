/-
  CallGateway.Proofs.Metrics.Sums
  ───────────────────────────────
  **A COUNT IS THE SUM OF WHAT WAS ADDED.**

  The count of some labels is the sum of all amounts that were added under
  these labels, in whatever order the labels were given (`After.get_eq`).  A
  sum does not depend on the order of what is added, and the text puts the
  series in an order of its own; so neither the counts nor the text tell in
  what order a counter was used, or how its series are kept
  (`counts_are_sums`).
-/
import CallGateway.Proofs.Metrics.Rendering
import Mathlib.Algebra.BigOperators.Group.List.Basic

namespace CallGateway

/-! ## §1. Labels in any order. -/

namespace Labels

theorem le_antisymm (a b : String × String) (hab : le a b = true) (hba : le b a = true) : a = b := by
  unfold le at hab hba
  grind

/-- **Ordered labels are a canonical form**: labels have the same key just when
they are the same up to their order. -/
theorem key_eq_iff {labels labels' : Labels} : labels.key = labels'.key ↔ labels.Perm labels' := by
  refine ⟨perm_of_key_eq, fun h => ?_⟩
  have hperm : labels.key.Perm labels'.key :=
    ((List.mergeSort_perm labels le).trans h).trans (List.mergeSort_perm labels' le).symm
  exact hperm.eq_of_pairwise (fun a b _ _ => le_antisymm a b) labels.sorted_key labels'.sorted_key

end Labels

namespace Counter

/-! ## §2. Rows in the order of the text. -/

theorem rowLe_total (a b : String × UInt64) : (rowLe a b || rowLe b a) = true := by
  unfold rowLe
  grind

theorem rowLe_trans (a b c : String × UInt64) (hab : rowLe a b = true) (hbc : rowLe b c = true) :
    rowLe a c = true := by
  unfold rowLe at *
  grind

theorem rowLe_antisymm (a b : String × UInt64) (hab : rowLe a b = true) (hba : rowLe b a = true) : a = b := by
  unfold rowLe at hab hba
  grind

/-- The text does not tell in which order the series are kept. -/
theorem render_perm {c c' : Counter} (h : c'.series.Perm c.series) (name : String) :
    c'.render name = c.render name := by
  let row (s : Labels × UInt64) : String × UInt64 := (Labels.render s.1, s.2)
  have hrows : c'.rows = c.rows := by
    have hperm : c'.rows.Perm c.rows :=
      ((List.mergeSort_perm _ rowLe).trans (h.map row)).trans (List.mergeSort_perm _ rowLe).symm
    exact hperm.eq_of_pairwise (fun a b _ _ => rowLe_antisymm a b)
      (List.pairwise_mergeSort rowLe_trans rowLe_total _) (List.pairwise_mergeSort rowLe_trans rowLe_total _)
  rw [render, hrows]
  rfl

/-! ## §3. How a counter is used. -/

/-- One use of a counter. -/
inductive Use where
  | inc (labels : Labels)
  | add (labels : Labels) (n : UInt64)
  deriving DecidableEq, Repr

namespace Use

/-- The labels under which something is added. -/
def labels : Use → Labels
  | inc labels => labels
  | add labels _ => labels

/-- How much is added. -/
def amount : Use → UInt64
  | inc _ => 1
  | add _ n => n

/-- The counter after a use. -/
def apply (c : Counter) : Use → Counter
  | inc labels => c.inc labels
  | add labels n => c.add labels n

theorem apply_eq (c : Counter) (u : Use) : u.apply c = c.add u.labels u.amount := by
  cases u <;> rfl

/-- The series that a use touches, and what it adds to it. -/
def entry (u : Use) : Labels × UInt64 := (u.labels.key, u.amount)

/-- Two uses add the same under the same labels, given in any order. -/
def Alike (u u' : Use) : Prop := u'.amount = u.amount ∧ u'.labels.Perm u.labels

theorem Alike.entry_eq {u u' : Use} (h : u.Alike u') : u'.entry = u.entry :=
  Prod.ext (Labels.key_eq_iff.2 h.2) h.1

end Use

/-- The same uses in any order, each with its labels in any order. -/
def Reordered (us us' : List Use) : Prop := ∃ vs, us.Perm vs ∧ List.Forall₂ Use.Alike vs us'

theorem Reordered.entries {us us' : List Use} (h : Reordered us us') :
    (us'.map Use.entry).Perm (us.map Use.entry) := by
  obtain ⟨vs, hperm, halike⟩ := h
  have hsame : List.Forall₂ Eq (vs.map Use.entry) (us'.map Use.entry) := by
    rw [List.forall₂_map_left_iff, List.forall₂_map_right_iff]
    exact halike.imp fun _ _ hu => hu.entry_eq.symm
  rw [List.forall₂_eq_eq_eq] at hsame
  rw [← hsame]
  exact (hperm.map Use.entry).symm

/-- A counter after some uses.  At any time its series may be put into another
order, as nothing says how they are kept. -/
inductive After : List Use → Counter → Prop where
  | unused : After [] {}
  | use {us : List Use} {c : Counter} (u : Use) : After us c → After (us ++ [u]) (u.apply c)
  -- The series are kept in another order.
  | rearranged {us : List Use} {c c' : Counter} : After us c → c'.series.Perm c.series → After us c'

/-- The counter that some uses lead to. -/
def ofUses (us : List Use) : Counter := us.foldl Use.apply {}

theorem after_ofUses (us : List Use) : After us (ofUses us) := by
  have hrun : ∀ (vs us : List Use) (c : Counter), After us c → After (us ++ vs) (vs.foldl Use.apply c) := by
    intro vs
    induction vs with
    | nil =>
      intro us c h
      rwa [List.append_nil]
    | cons v vs ih =>
      intro us c h
      have hrest := ih _ _ (h.use v)
      rwa [List.append_assoc] at hrest
  exact hrun us [] {} .unused

/-! ## §4. What the uses come to. -/

/-- What was added to a series. -/
def added (key : Labels) (entries : List (Labels × UInt64)) : Nat :=
  ((entries.filter fun e => e.1 = key).map fun e => e.2.toNat).sum

theorem added_append (key : Labels) (entries entries' : List (Labels × UInt64)) :
    added key (entries ++ entries') = added key entries + added key entries' := by
  unfold added
  rw [List.filter_append, List.map_append, List.sum_append]

theorem added_singleton (key : Labels) (e : Labels × UInt64) :
    added key [e] = if e.1 = key then e.2.toNat else 0 := by
  unfold added
  by_cases h : e.1 = key
  · simp [h]
  · simp [h]

/-- What was added does not depend on the order. -/
theorem added_perm {entries entries' : List (Labels × UInt64)} (h : entries'.Perm entries) (key : Labels) :
    added key entries' = added key entries :=
  List.Perm.sum_eq ((h.filter _).map _)

/-- What was added under some labels, in any order. -/
theorem added_entries (labels : Labels) (us : List Use) : added labels.key (us.map Use.entry)
    = ((us.filter fun u => u.labels.Perm labels).map fun u => u.amount.toNat).sum := by
  have hsame : ((fun e : Labels × UInt64 => decide (e.1 = labels.key)) ∘ Use.entry)
      = fun u : Use => decide (u.labels.Perm labels) :=
    funext fun u => decide_eq_decide.2 Labels.key_eq_iff
  unfold added
  rw [List.filter_map, List.map_map, hsame]
  rfl

section After

variable {us us' : List Use} {c c' : Counter}

theorem After.nodup_keys (h : After us c) : c.keys.Nodup := by
  induction h with
  | unused => exact List.nodup_nil
  | use u _ ih =>
    rw [u.apply_eq]
    exact nodup_keys_add ih u.labels u.amount
  | rearranged _ hperm ih => exact (hperm.map Prod.fst).nodup_iff.2 ih

/-- The series are those that were touched. -/
theorem After.mem_keys (h : After us c) {key : Labels} : key ∈ c.keys ↔ key ∈ (us.map Use.entry).map (·.1) := by
  induction h with
  | unused => exact Iff.rfl
  | use u _ ih =>
    rw [u.apply_eq, mem_keys_add, ih, List.map_append, List.map_append, List.mem_append, or_comm]
    exact or_congr_right (eq_comm.trans List.mem_singleton.symm)
  | rearranged _ hperm ih => exact (hperm.map (·.1)).mem_iff.trans ih

/-- **The count of a series is what was added to it**, up to where words begin
anew. -/
theorem After.lookup_eq (h : After us c) (key : Labels) :
    ((c.series.lookup key).getD 0).toNat = added key (us.map Use.entry) % 2 ^ 64 := by
  induction h with
  | unused => rfl
  | @use us c u _ ih =>
    have hlookup := lookup_addTo u.labels.key key u.amount c.series
    rw [u.apply_eq, List.map_append, added_append, List.map_singleton, added_singleton]
    show ((List.lookup key (addTo u.labels.key u.amount c.series)).getD 0).toNat
      = (_ + if u.labels.key = key then u.amount.toNat else 0) % 2 ^ 64
    rw [hlookup, UInt64.toNat_add, ih, Nat.mod_add_mod]
    by_cases hkey : key = u.labels.key
    · rw [if_pos hkey, if_pos hkey.symm]
    · rw [if_neg hkey, if_neg (Ne.symm hkey)]
      rfl
  | @rearranged us c c' h hperm ih =>
    have hnodup := h.nodup_keys
    have hnodup' : c'.keys.Nodup := (hperm.map Prod.fst).nodup_iff.2 hnodup
    have hlookup : c'.series.lookup key = c.series.lookup key := Option.ext fun n =>
      (Entries.lookup_eq_some_iff hnodup').trans (hperm.mem_iff.trans (Entries.lookup_eq_some_iff hnodup).symm)
    rw [hlookup]
    exact ih

theorem After.get_eq (h : After us c) (labels : Labels) : (c.get labels).toNat
    = ((us.filter fun u => u.labels.Perm labels).map fun u => u.amount.toNat).sum % 2 ^ 64 := by
  rw [← added_entries]
  exact h.lookup_eq labels.key

/-- A series that is there has its count. -/
theorem mem_series_iff (h : c.keys.Nodup) {s : Labels × UInt64} :
    s ∈ c.series ↔ s.1 ∈ c.keys ∧ s.2 = (c.series.lookup s.1).getD 0 := by
  have hcount : ∀ {key : Labels} {n : UInt64}, (key, n) ∈ c.series → (c.series.lookup key).getD 0 = n := by
    intro key n hmem
    rw [(Entries.lookup_eq_some_iff h).2 hmem]
    rfl
  constructor
  · intro hmem
    exact ⟨List.mem_map_of_mem (f := (·.1)) hmem, (hcount hmem).symm⟩
  · rintro ⟨hkey, hn⟩
    obtain ⟨⟨key, n⟩, hmem, hkey⟩ := List.mem_map.1 hkey
    obtain ⟨key', n'⟩ := s
    obtain rfl : key = key' := hkey
    obtain rfl : n' = n := hn.trans (hcount hmem)
    exact hmem

/-- **Uses in another order lead to the same series.** -/
theorem After.series_perm (h : After us c) (h' : After us' c') (hus : Reordered us us') :
    c'.series.Perm c.series := by
  have hentries := hus.entries
  refine (List.perm_ext_iff_of_nodup (h'.nodup_keys.of_map _) (h.nodup_keys.of_map _)).2 fun s => ?_
  have hkey : s.1 ∈ c'.keys ↔ s.1 ∈ c.keys := by
    rw [h'.mem_keys, h.mem_keys]
    exact (hentries.map (·.1)).mem_iff
  have hcount : (c'.series.lookup s.1).getD 0 = (c.series.lookup s.1).getD 0 := by
    rw [← UInt64.toNat_inj, h'.lookup_eq, h.lookup_eq, added_perm hentries]
  rw [mem_series_iff h'.nodup_keys, mem_series_iff h.nodup_keys, hkey, hcount]

end After

/-! ## §5. The theorem. -/

/-- **Counts are sums, and the order of the uses cannot be seen.**  Any uses of a
counter lead to one, and however its series are kept meanwhile:

* the count of some labels is the sum of all that was added under them, whatever
  their order, modulo 2^64; it is zero where nothing was;
* after the same uses in any other order, each with its labels in any order,
  every count and the whole text are the same;
* and so is the text of all metrics, where this is said of each counter. -/
theorem counts_are_sums :
    (∀ us, After us (ofUses us))
      ∧ (∀ us c, After us c → ∀ labels,
        (c.get labels).toNat
            = ((us.filter fun u => u.labels.Perm labels).map fun u => u.amount.toNat).sum % 2 ^ 64
          ∧ ((∀ u ∈ us, ¬u.labels.Perm labels) → c.get labels = 0))
      ∧ (∀ us us' c c', After us c → After us' c' → Reordered us us' →
        (∀ labels labels', labels.Perm labels' → c'.get labels' = c.get labels)
          ∧ ∀ name, c'.render name = c.render name)
      ∧ ∀ m m' : Metrics, m'.draining = m.draining →
        (∀ f, ∃ us us', After us (m.counter f) ∧ After us' (m'.counter f) ∧ Reordered us us') →
          ∀ gauges, m'.render gauges = m.render gauges := by
  refine ⟨after_ofUses, ?_, ?_, ?_⟩
  · intro us c h labels
    refine ⟨h.get_eq labels, fun hnone => ?_⟩
    have hfilter : us.filter (fun u => u.labels.Perm labels) = [] :=
      List.filter_eq_nil_iff.2 fun u hu => by simpa using hnone u hu
    rw [← UInt64.toNat_inj, h.get_eq, hfilter]
    rfl
  · intro us us' c c' h h' hus
    refine ⟨fun labels labels' hlabels => ?_, render_perm (h.series_perm h' hus)⟩
    have hkey : labels'.key = labels.key := Labels.key_eq_iff.2 hlabels.symm
    rw [← UInt64.toNat_inj, get, get, h'.lookup_eq, h.lookup_eq, hkey, added_perm hus.entries]
  · intro m m' hdraining hcounters gauges
    have hrender : ∀ f, (m'.counter f).render f.label = (m.counter f).render f.label := by
      intro f
      obtain ⟨us, us', h, h', hus⟩ := hcounters f
      exact render_perm (h.series_perm h' hus) f.label
    unfold Metrics.render
    simp only [List.map_cons, List.map_nil, hrender, hdraining]

/-- Amounts that pass the end of the words, with a name that is given twice. -/
theorem twice_named_label_wraps :
    let us : List Use := [.add [("a", "1"), ("a", "0")] 0xffffffffffffffff, .inc [("b", "")],
      .add [("a", "0"), ("a", "1")] 3]
    let us' : List Use := [.add [("a", "1"), ("a", "0")] 3, .inc [("b", "")],
      .add [("a", "1"), ("a", "0")] 0xffffffffffffffff]
    Reordered us us' ∧ ((ofUses us).get [("a", "0"), ("a", "1")]).toNat = 2
      ∧ (ofUses us).get [("a", "0")] = 0 ∧ (ofUses us').render "x" = (ofUses us).render "x"
      ∧ Metrics.render { callErrors := ofUses us' } [] = Metrics.render { callErrors := ofUses us } [] := by
  intro us us'
  have hswap : List.Perm [("a", "1"), ("a", "0")] [("a", "0"), ("a", "1")] := .swap _ _ _
  have hreordered : Reordered us us' := by
    refine ⟨[.add [("a", "0"), ("a", "1")] 3, .inc [("b", "")],
      .add [("a", "1"), ("a", "0")] 0xffffffffffffffff], by decide, ?_⟩
    exact .cons ⟨rfl, hswap⟩ (.cons ⟨rfl, .refl _⟩ (.cons ⟨rfl, .refl _⟩ .nil))
  have hunused : ∃ vs vs', After vs {} ∧ After vs' {} ∧ Reordered vs vs' := ⟨[], [], .unused, .unused, [], .nil, .nil⟩
  obtain ⟨hafter, hsums, horder, htext⟩ := counts_are_sums
  refine ⟨hreordered, ?_, ?_, (horder us us' _ _ (hafter us) (hafter us') hreordered).2 "x", ?_⟩
  · rw [(hsums us _ (hafter us) [("a", "0"), ("a", "1")]).1]
    decide
  · exact (hsums us _ (hafter us) [("a", "0")]).2 (by decide)
  · refine htext { callErrors := ofUses us } { callErrors := ofUses us' } rfl (fun f => ?_) []
    cases f with
    | callErrors => exact ⟨us, us', hafter us, hafter us', hreordered⟩
    | callsObserved | policyDecisions | droppedDeliveries => exact hunused

end Counter

end CallGateway
