/-
  CallGateway.Proofs.Metrics.Rendering
  ────────────────────────────────────
  **THE TEXT OF THE METRICS TELLS THE COUNTS.**

  The keys of a counter are those of the labels it was used with, each once
  (`mem_keys_after`, `nodup_keys_after`).  The text shows one line for each of
  them, and nothing else down to the gauges (`counterLines_render`), and the
  lines are read back one by one (`samples_render`).  So whoever reads the
  text gets just the counts (`tells_render`), whatever stands in the values of
  the labels and whatever gauges follow.
-/
import CallGateway.Proofs.Metrics.Exposition
import CallGateway.Proofs.Metrics.Meters
import CallGateway.Proofs.Dict

namespace CallGateway

/-! ## §1. The series of a counter. -/

namespace Labels

theorem le_total (a b : String × String) : (le a b || le b a) = true := by
  unfold le
  grind

theorem le_trans (a b c : String × String) (hab : le a b = true) (hbc : le b c = true) : le a c = true := by
  unfold le at *
  grind

/-- The labels of a key stand in order. -/
theorem sorted_key (labels : Labels) : labels.key.Pairwise fun a b => le a b = true :=
  List.pairwise_mergeSort le_trans le_total labels

end Labels

namespace Counter

/-- The keys of the series that were touched. -/
def keys (c : Counter) : List Labels := c.series.map (·.1)

theorem mem_keys_addTo {key key' : Labels} {n : UInt64} {series : List (Labels × UInt64)} :
    key' ∈ (addTo key n series).map (·.1) ↔ key' = key ∨ key' ∈ series.map (·.1) := by
  induction series with
  | nil => simp [addTo]
  | cons s series ih =>
    unfold addTo
    split
    · rename_i hs
      simp [hs]
    · rw [List.map_cons, List.mem_cons, ih, List.map_cons, List.mem_cons]
      exact or_left_comm

theorem nodup_keys_addTo {key : Labels} {n : UInt64} {series : List (Labels × UInt64)}
    (h : (series.map (·.1)).Nodup) : ((addTo key n series).map (·.1)).Nodup := by
  induction series with
  | nil => simp [addTo]
  | cons s series ih =>
    obtain ⟨hnot, hrest⟩ := List.nodup_cons.1 h
    unfold addTo
    split
    · exact h
    · rename_i hs
      rw [List.map_cons, List.nodup_cons, mem_keys_addTo, not_or]
      exact ⟨⟨hs, hnot⟩, ih hrest⟩

theorem mem_keys_add {c : Counter} {labels key : Labels} {n : UInt64} :
    key ∈ (c.add labels n).keys ↔ labels.key = key ∨ key ∈ c.keys := by
  rw [eq_comm]
  exact mem_keys_addTo

theorem nodup_keys_add {c : Counter} (h : c.keys.Nodup) (labels : Labels) (n : UInt64) :
    (c.add labels n).keys.Nodup :=
  nodup_keys_addTo h

/-- What a counter shows, in the order of the text. -/
def shown (c : Counter) : List (Labels × UInt64) :=
  c.series.mergeSort fun s s' => rowLe (Labels.render s.1, s.2) (Labels.render s'.1, s'.2)

theorem shown_perm (c : Counter) : c.shown.Perm c.series := List.mergeSort_perm _ _

theorem rows_eq (c : Counter) : c.rows = c.shown.map fun s => (Labels.render s.1, s.2) := by
  unfold rows shown
  rw [List.map_mergeSort]
  exact fun _ _ _ _ => rfl

end Counter

/-! ## §2. What was counted. -/

namespace Metrics

/-- What changes the metrics. -/
inductive Change where
  | add (f : Family) (labels : Labels) (n : UInt64)
  -- The gateway begins to shut down.
  | drain
  deriving DecidableEq, Repr

def Change.apply (m : Metrics) : Change → Metrics
  | add f labels n => m.add f labels n
  | drain => m.setDraining

/-- The metrics after some changes. -/
def after (changes : List Change) : Metrics := changes.foldl Change.apply {}

/-- A set of labels was used with a counter. -/
def Touched (changes : List Change) (f : Family) (labels : Labels) : Prop :=
  ∃ labels' n, .add f labels' n ∈ changes ∧ labels'.key = labels.key

/-- All names of labels are plain, and the values are anything. -/
def PlainNames (changes : List Change) : Prop :=
  ∀ f labels n, .add f labels n ∈ changes → ∀ l ∈ labels, Exposition.IsPlain l.1

/-- A change adds to a counter or leaves it alone. -/
theorem counter_apply (m : Metrics) (change : Change) (f : Family) :
    (∃ labels n, change = .add f labels n ∧ (change.apply m).counter f = (m.counter f).add labels n)
      ∨ ((∀ labels n, change ≠ .add f labels n) ∧ (change.apply m).counter f = m.counter f) := by
  cases change with
  | add f' labels n =>
    have hcounter := counter_add m f' f labels n
    by_cases hf : f' = f
    · subst hf
      exact .inl ⟨labels, n, rfl, hcounter.trans (if_pos rfl)⟩
    · refine .inr ⟨fun labels' n' h => ?_, hcounter.trans (if_neg hf)⟩
      cases h
      exact hf rfl
  | drain =>
    refine .inr ⟨fun labels n h => ?_, ?_⟩
    · cases h
    · cases f <;> rfl

theorem mem_keys_foldl {changes : List Change} {m : Metrics} {f : Family} {key : Labels} :
    key ∈ ((changes.foldl Change.apply m).counter f).keys
      ↔ (∃ labels n, .add f labels n ∈ changes ∧ labels.key = key) ∨ key ∈ (m.counter f).keys := by
  induction changes generalizing m with
  | nil => simp
  | cons change changes ih =>
    rw [List.foldl_cons, ih]
    rcases counter_apply m change f with ⟨labels, n, rfl, heq⟩ | ⟨hnot, heq⟩
    · rw [heq, Counter.mem_keys_add]
      constructor
      · rintro (⟨labels', n', hmem, hkey⟩ | hkey | hold)
        · exact .inl ⟨labels', n', List.mem_cons_of_mem _ hmem, hkey⟩
        · exact .inl ⟨labels, n, List.mem_cons_self, hkey⟩
        · exact .inr hold
      · rintro (⟨labels', n', hmem, hkey⟩ | hold)
        · rcases List.mem_cons.1 hmem with hhead | hmem
          · cases hhead
            exact .inr (.inl hkey)
          · exact .inl ⟨labels', n', hmem, hkey⟩
        · exact .inr (.inr hold)
    · have hmem : ∀ labels n, .add f labels n ∈ change :: changes ↔ .add f labels n ∈ changes :=
        fun labels n => List.mem_cons.trans (or_iff_right (hnot labels n).symm)
      simp only [heq, hmem]

/-- A key is that of some labels. -/
theorem exists_labels {changes : List Change} {f : Family} {key : Labels}
    (h : key ∈ ((after changes).counter f).keys) :
    ∃ labels n, .add f labels n ∈ changes ∧ labels.key = key := by
  refine (mem_keys_foldl.1 h).resolve_right fun hempty => ?_
  cases f <;> exact List.not_mem_nil hempty

/-- **A counter has the keys of the labels that it was used with**, -/
theorem mem_keys_after {changes : List Change} {f : Family} {labels : Labels} :
    labels.key ∈ ((after changes).counter f).keys ↔ Touched changes f labels :=
  ⟨exists_labels, fun h => mem_keys_foldl.2 (.inl h)⟩

theorem nodup_keys_foldl {changes : List Change} {m : Metrics} {f : Family} (h : (m.counter f).keys.Nodup) :
    ((changes.foldl Change.apply m).counter f).keys.Nodup := by
  induction changes generalizing m with
  | nil => exact h
  | cons change changes ih =>
    refine ih ?_
    rcases counter_apply m change f with ⟨labels, n, -, heq⟩ | ⟨-, heq⟩
    · rw [heq]
      exact Counter.nodup_keys_add h labels n
    · rw [heq]
      exact h

/-- and each of them once. -/
theorem nodup_keys_after (changes : List Change) (f : Family) : ((after changes).counter f).keys.Nodup := by
  refine nodup_keys_foldl ?_
  cases f <;> exact List.nodup_nil

/-- The names in a key are plain. -/
theorem isPlain_of_mem_keys {changes : List Change} (hplain : PlainNames changes) {f : Family} {key : Labels}
    (h : key ∈ ((after changes).counter f).keys) : ∀ l ∈ key, Exposition.IsPlain l.1 := by
  obtain ⟨labels, n, hmem, rfl⟩ := exists_labels h
  intro l hl
  exact hplain f labels n hmem l ((List.mergeSort_perm labels Labels.le).mem_iff.1 hl)

/-- The count of a touched series. -/
theorem mem_series_after {changes : List Change} {f : Family} {labels : Labels} {count : UInt64} :
    (labels.key, count) ∈ ((after changes).counter f).series
      ↔ Touched changes f labels ∧ count = ((after changes).counter f).get labels := by
  have hget : ∀ n, (labels.key, n) ∈ ((after changes).counter f).series →
      ((after changes).counter f).get labels = n := by
    intro n hn
    rw [Counter.get, (Entries.lookup_eq_some_iff (nodup_keys_after changes f)).2 hn]
    rfl
  constructor
  · intro h
    exact ⟨mem_keys_after.1 (List.mem_map_of_mem (f := (·.1)) h), (hget count h).symm⟩
  · rintro ⟨htouched, rfl⟩
    obtain ⟨⟨key, n⟩, hmem, hkey⟩ := List.mem_map.1 (mem_keys_after.2 htouched)
    obtain rfl : key = labels.key := hkey
    rw [hget n hmem]
    exact hmem

end Metrics

/-! ## §3. The lines of the text. -/

namespace Exposition

/-- The lines of a text. -/
def linesIn (text : String) : List (List Char) := text.toList.splitOn '\n'

theorem splitOn_flatMap {ls : List (List Char)} (h : ∀ l ∈ ls, '\n' ∉ l) (rest : List Char) :
    ((ls.flatMap fun l => l ++ ['\n']) ++ rest).splitOn '\n' = ls ++ rest.splitOn '\n' := by
  induction ls with
  | nil => rfl
  | cons l ls ih =>
    rw [List.flatMap_cons, List.append_assoc, List.append_assoc, List.singleton_append,
      List.splitOn_append_cons_self_of_not_mem (h l List.mem_cons_self),
      ih fun l' hl' => h l' (List.mem_cons_of_mem l hl'), List.cons_append]

/-- The line above the lines of a counter. -/
def header (f : Family) : List Char := ("# TYPE " ++ f.label ++ " counter").toList

/-- The line above the line of a gauge. -/
def gaugeHeader (name : String) : List Char := ("# TYPE " ++ name ++ " gauge").toList

/-- The lines about counters: those above the first gauge. -/
def counterLines (text : String) : List (List Char) :=
  (linesIn text).takeWhile fun l => l ≠ gaugeHeader "rpcgate_draining"

/-- **What a reader gets from a text.** -/
def samples (text : String) : List Sample := (counterLines text).filterMap readRow?

end Exposition

open Exposition

/-- All counters, in the order of the text. -/
def Family.all : List Family := [.callsObserved, .policyDecisions, .droppedDeliveries, .callErrors]

theorem Family.mem_all (f : Family) : f ∈ Family.all := by
  cases f <;> decide

theorem Family.isPlain_label (f : Family) : IsPlain f.label := by
  cases f <;> decide

theorem Family.label_injective {f f' : Family} (h : f.label = f'.label) : f = f' := by
  cases f <;> cases f' <;> first | rfl | (revert h; decide)

theorem readRow?_header (f : Family) : readRow? (header f) = none := by
  have hbrace : '{' ∉ header f := by
    rw [header, String.toList_append, String.toList_append, List.mem_append, List.mem_append]
    rintro ((hmem | hmem) | hmem)
    · exact absurd hmem (by decide)
    · exact f.isPlain_label _ hmem (by decide)
    · exact absurd hmem (by decide)
  unfold readRow?
  rw [takeName?_of_notMem hbrace]

/-- The lines of one counter below the header. -/
def Counter.rowLines (c : Counter) (name : String) : List (List Char) := c.shown.map fun s => line name s.1 s.2

theorem toList_header (f : Family) : ("# TYPE " ++ f.label ++ " counter\n").toList = header f ++ ['\n'] := by
  have hend : " counter\n" = " counter" ++ "\n" := rfl
  rw [hend, ← String.append_assoc]
  exact String.toList_append

theorem Counter.toList_render (c : Counter) (f : Family) :
    (c.render f.label).toList = (header f :: c.rowLines f.label).flatMap fun l => l ++ ['\n'] := by
  have hrow : ∀ s : Labels × UInt64,
      (renderRow f.label (Labels.render s.1, s.2)).toList = line f.label s.1 s.2 ++ ['\n'] :=
    fun s => toList_renderRow f.label s.1 s.2
  rw [Counter.render, String.toList_append, toList_header, String.toList_join, rows_eq, List.flatMap_cons,
    rowLines, List.map_map, List.flatMap_map, List.flatMap_map]
  simp only [Function.comp, hrow]

namespace Metrics

/-- The lines about counters. -/
def lines (m : Metrics) : List (List Char) :=
  Family.all.flatMap fun f => header f :: (m.counter f).rowLines f.label

theorem toList_renderGauge (name : String) (value : Nat) :
    (renderGauge name value).toList
      = gaugeHeader name ++ '\n' :: (name ++ " " ++ toString value ++ "\n").toList := by
  have hend : " gauge\n" = " gauge" ++ "\n" := rfl
  have hbreak : ∀ s : String, ("\n" ++ s).toList = '\n' :: s.toList := fun _ => String.toList_append
  rw [renderGauge, hend, gaugeHeader, ← hbreak, ← String.toList_append]
  simp only [String.append_assoc]

theorem toList_render (m : Metrics) (gauges : List (String × Nat)) :
    ∃ rest, (m.render gauges).toList
      = (m.lines.flatMap fun l => l ++ ['\n']) ++ (gaugeHeader "rpcgate_draining" ++ '\n' :: rest) := by
  have hlines : (Family.all.map fun f => (m.counter f).render f.label).flatMap String.toList
      = m.lines.flatMap fun l => l ++ ['\n'] := by
    rw [lines, List.flatMap_map, List.flatMap_assoc]
    simp only [Counter.toList_render]
  rw [Metrics.render, String.toList_join, List.flatMap_append, List.flatMap_cons, toList_renderGauge, ← hlines,
    List.append_assoc, List.cons_append]
  exact ⟨_, rfl⟩

/-- A line about a counter is its header, or the line of a series. -/
theorem mem_lines {m : Metrics} {l : List Char} (h : l ∈ m.lines) :
    (∃ f, l = header f) ∨ ∃ f, ∃ s ∈ (m.counter f).series, l = line f.label s.1 s.2 := by
  obtain ⟨f, -, hl⟩ := List.mem_flatMap.1 h
  rcases List.mem_cons.1 hl with rfl | hl
  · exact .inl ⟨f, rfl⟩
  · obtain ⟨s, hs, rfl⟩ := List.mem_map.1 hl
    exact .inr ⟨f, s, (Counter.shown_perm _).mem_iff.1 hs, rfl⟩

/-! ## §4. What is read. -/

section Reading

variable {changes : List Change} (hplain : PlainNames changes)

include hplain

/-- The line of a series is read back. -/
theorem readRow?_series {f : Family} {s : Labels × UInt64} (hs : s ∈ ((after changes).counter f).series) :
    readRow? (line f.label s.1 s.2) = some ⟨f.label, s.1, s.2.toNat⟩ :=
  readRow?_line f.isPlain_label (isPlain_of_mem_keys hplain (List.mem_map_of_mem (f := (·.1)) hs)) s.2

theorem not_mem_series {f : Family} {s : Labels × UInt64} (hs : s ∈ ((after changes).counter f).series) :
    '\n' ∉ line f.label s.1 s.2 :=
  not_mem_line f.isPlain_label (isPlain_of_mem_keys hplain (List.mem_map_of_mem (f := (·.1)) hs)) s.2

/-- The lines of the text are those about the counters, and then the gauges. -/
theorem linesIn_render (gauges : List (String × Nat)) :
    ∃ rest, linesIn ((after changes).render gauges)
      = (after changes).lines ++ gaugeHeader "rpcgate_draining" :: rest := by
  have hbreak : ∀ l ∈ (after changes).lines, '\n' ∉ l := by
    intro l hl
    rcases mem_lines hl with ⟨f, rfl⟩ | ⟨f, s, hs, rfl⟩
    · cases f <;> decide
    · exact not_mem_series hplain hs
  obtain ⟨rest, htext⟩ := toList_render (after changes) gauges
  refine ⟨rest.splitOn '\n', ?_⟩
  rw [linesIn, htext, splitOn_flatMap hbreak, List.splitOn_append_cons_self_of_not_mem (by decide)]

theorem counterLines_render (gauges : List (String × Nat)) :
    counterLines ((after changes).render gauges) = (after changes).lines := by
  obtain ⟨rest, hlines⟩ := linesIn_render hplain gauges
  have hother : ∀ l ∈ (after changes).lines, decide (l ≠ gaugeHeader "rpcgate_draining") = true := by
    intro l hl
    rcases mem_lines hl with ⟨f, rfl⟩ | ⟨f, s, hs, rfl⟩
    · cases f <;> decide
    · -- the header of a gauge is not read
      refine decide_eq_true fun heq => ?_
      have hheader : readRow? (gaugeHeader "rpcgate_draining") = none := rfl
      rw [← heq, readRow?_series hplain hs] at hheader
      cases hheader
  rw [counterLines, hlines, List.takeWhile_append_of_pos hother]
  simp

theorem filterMap_rowLines (f : Family) :
    (header f :: ((after changes).counter f).rowLines f.label).filterMap readRow?
      = ((after changes).counter f).shown.map fun s => ⟨f.label, s.1, s.2.toNat⟩ := by
  rw [List.filterMap_cons_none (readRow?_header f), Counter.rowLines, List.filterMap_map,
    ← List.filterMap_eq_map']
  exact List.filterMap_congr fun s hs => readRow?_series hplain ((Counter.shown_perm _).mem_iff.1 hs)

/-- **The text is read back family by family.** -/
theorem samples_render (gauges : List (String × Nat)) :
    samples ((after changes).render gauges) = Family.all.flatMap fun f =>
      ((after changes).counter f).shown.map fun s => ⟨f.label, s.1, s.2.toNat⟩ := by
  rw [samples, counterLines_render hplain, lines, List.filterMap_flatMap]
  simp only [filterMap_rowLines hplain]

/-- What is read is what the counters hold. -/
theorem mem_samples {gauges : List (String × Nat)} {s : Sample} :
    s ∈ samples ((after changes).render gauges)
      ↔ ∃ f, ∃ t ∈ ((after changes).counter f).series, s = ⟨f.label, t.1, t.2.toNat⟩ := by
  rw [samples_render hplain, List.mem_flatMap]
  constructor
  · rintro ⟨f, -, hs⟩
    obtain ⟨t, ht, rfl⟩ := List.mem_map.1 hs
    exact ⟨f, t, (Counter.shown_perm _).mem_iff.1 ht, rfl⟩
  · rintro ⟨f, t, ht, rfl⟩
    exact ⟨f, f.mem_all, List.mem_map.2 ⟨t, (Counter.shown_perm _).mem_iff.2 ht, rfl⟩⟩

theorem nodup_samples (gauges : List (String × Nat)) :
    ((samples ((after changes).render gauges)).map fun s => (s.metric, s.labels)).Nodup := by
  rw [samples_render hplain, List.map_flatMap, List.nodup_flatMap]
  constructor
  · -- the series of one family
    intro f _
    have hkeys : (((after changes).counter f).shown.map Prod.fst).Nodup :=
      ((Counter.shown_perm _).map Prod.fst).nodup_iff.2 (nodup_keys_after changes f)
    rw [List.map_map]
    refine List.Nodup.of_map Prod.snd ?_
    rw [List.map_map]
    exact hkeys
  · -- the lines of two families have different metrics
    have hne : Family.all.Pairwise fun f f' => f ≠ f' := by decide
    refine hne.imp fun {f f'} hne => ?_
    simp only [Function.onFun, List.disjoint_left, List.mem_map]
    rintro _ ⟨_, ⟨t, -, rfl⟩, rfl⟩ ⟨_, ⟨t', -, rfl⟩, heq⟩
    exact hne (Family.label_injective (congrArg Prod.fst heq).symm)

end Reading

/-- **A text tells what was counted.** -/
structure Tells (changes : List Change) (text : String) : Prop where
  -- A line about a counter is a header, or is read.
  readable : ∀ l ∈ counterLines text, (∃ f, l = header f) ∨ (readRow? l).isSome
  -- No series has two lines.
  once : ((samples text).map fun s => (s.metric, s.labels)).Nodup
  -- The series that were touched have lines with their counts.
  counts : ∀ f labels count, ⟨f.label, labels.key, count⟩ ∈ samples text
    ↔ Touched changes f labels ∧ count = (((after changes).counter f).get labels).toNat
  -- No other lines are there, and the labels stand in order.
  ours : ∀ s ∈ samples text, ∃ f labels, Touched changes f labels ∧ s.metric = f.label ∧ s.labels = labels.key
    ∧ s.labels.Pairwise fun a b => Labels.le a b = true

theorem tells_render {changes : List Change} (hplain : PlainNames changes) (gauges : List (String × Nat)) :
    Tells changes ((after changes).render gauges) where
  readable l hl := by
    rw [counterLines_render hplain] at hl
    rcases mem_lines hl with ⟨f, rfl⟩ | ⟨f, s, hs, rfl⟩
    · exact .inl ⟨f, rfl⟩
    · exact .inr (by rw [readRow?_series hplain hs]; rfl)
  once := nodup_samples hplain gauges
  counts f labels count := by
    rw [mem_samples hplain]
    constructor
    · rintro ⟨f', ⟨key, n⟩, ht, heq⟩
      obtain ⟨hmetric, hkey, rfl⟩ := Sample.mk.inj heq
      obtain rfl := Family.label_injective hmetric
      obtain rfl : labels.key = key := hkey
      obtain ⟨htouched, rfl⟩ := mem_series_after.1 ht
      exact ⟨htouched, rfl⟩
    · rintro ⟨htouched, rfl⟩
      exact ⟨f, _, mem_series_after.2 ⟨htouched, rfl⟩, rfl⟩
  ours s hs := by
    obtain ⟨f, ⟨key, n⟩, ht, rfl⟩ := (mem_samples hplain).1 hs
    have hkey : key ∈ ((after changes).counter f).keys := List.mem_map_of_mem (f := (·.1)) ht
    obtain ⟨labels, -, -, rfl⟩ := exists_labels hkey
    exact ⟨f, labels, mem_keys_after.1 hkey, rfl, rfl, Labels.sorted_key labels⟩

/-! ## §5. The text tells the counts. -/

/-- Labels that a counter was not used with count nothing. -/
theorem get_of_not_touched {changes : List Change} {f : Family} {labels : Labels}
    (h : ¬Touched changes f labels) : ((after changes).counter f).get labels = 0 := by
  have hnone : ((after changes).counter f).series.lookup labels.key = none := by
    rw [List.lookup_eq_none_iff]
    intro s hs
    rw [bne_iff_ne]
    intro heq
    refine h (mem_keys_after.1 ?_)
    rw [heq]
    exact List.mem_map_of_mem (f := (·.1)) hs
  rw [Counter.get, hnone]
  rfl

/-- Who reads one text for two histories gets the same counts for both. -/
theorem Tells.agree {changes changes' : List Change} {text : String} (h : Tells changes text)
    (h' : Tells changes' text) (f : Family) (labels : Labels) :
    (Touched changes' f labels ↔ Touched changes f labels)
      ∧ ((after changes').counter f).get labels = ((after changes).counter f).get labels := by
  have hall : ∀ count, Touched changes' f labels ∧ count = (((after changes').counter f).get labels).toNat
      ↔ Touched changes f labels ∧ count = (((after changes).counter f).get labels).toNat :=
    fun count => (h'.counts f labels count).symm.trans (h.counts f labels count)
  by_cases htouched : Touched changes f labels
  · obtain ⟨htouched', hcount⟩ := (hall _).2 ⟨htouched, rfl⟩
    exact ⟨iff_of_true htouched' htouched, (UInt64.toNat_inj.1 hcount).symm⟩
  · have htouched' : ¬Touched changes' f labels := fun h' => htouched ((hall _).1 ⟨h', rfl⟩).1
    rw [get_of_not_touched htouched, get_of_not_touched htouched']
    exact ⟨iff_of_false htouched' htouched, rfl⟩

/-- **The text of the metrics is unambiguous.**  Whatever the values of the
labels are, they do not break a line and end at their own closing quote; the
lines of the text are read back as the touched series with their counts, each
once; two series never have the same line; and a text that is shown for two
histories shows the same counts in both, whatever the gauges were. -/
theorem metrics_text_is_unambiguous (changes : List Change) (gauges : List (String × Nat))
    (hplain : PlainNames changes) :
    (∀ (value : String) (rest : List Char), '\n' ∉ (Labels.escape value).toList
        ∧ takeValue? ((Labels.escape value).toList ++ '"' :: rest) = some (value.toList, rest))
      ∧ Tells changes ((after changes).render gauges)
      ∧ (∀ f labels f' labels' n n', Touched changes f labels → Touched changes f' labels' →
          Counter.renderRow f.label (Labels.render labels.key, n)
            = Counter.renderRow f'.label (Labels.render labels'.key, n') →
          f = f' ∧ labels.key = labels'.key ∧ n = n')
      ∧ ∀ changes' gauges', PlainNames changes' →
          (after changes').render gauges' = (after changes).render gauges →
          ∀ f labels, (Touched changes' f labels ↔ Touched changes f labels)
            ∧ ((after changes').counter f).get labels = ((after changes).counter f).get labels := by
  refine ⟨fun value rest => ⟨Labels.not_mem_escape value, takeValue?_escape value rest⟩,
    tells_render hplain gauges, ?_, ?_⟩
  · intro f labels f' labels' n n' htouched htouched' heq
    have hkey := isPlain_of_mem_keys hplain (mem_keys_after.2 htouched)
    have hkey' := isPlain_of_mem_keys hplain (mem_keys_after.2 htouched')
    have hline : line f.label labels.key n = line f'.label labels'.key n' := by
      have htext := congrArg String.toList heq
      rw [toList_renderRow, toList_renderRow] at htext
      exact List.append_cancel_right htext
    -- both lines are read back
    have hread := readRow?_line f.isPlain_label hkey n
    rw [hline, readRow?_line f'.isPlain_label hkey' n'] at hread
    obtain ⟨hmetric, hlabels, hcount⟩ := Sample.mk.inj (Option.some.inj hread)
    exact ⟨Family.label_injective hmetric.symm, hlabels.symm, (UInt64.toNat_inj.1 hcount).symm⟩
  · intro changes' gauges' hplain' hsame
    have htells' := tells_render hplain' gauges'
    rw [hsame] at htells'
    exact (tells_render hplain gauges).agree htells'

/-- A value with a quote, backslashes and line breaks. -/
theorem metrics_text_is_unambiguous_quotes :
    let changes : List Change := [.add .callsObserved [("method", "/a\"b\\n\n,x=")] 3, .drain]
    PlainNames changes ∧ Tells changes ((after changes).render [("rpcgate_connections", 1)]) := by
  have hmethod : IsPlain "method" := by decide
  have hplain : PlainNames [.add .callsObserved [("method", "/a\"b\\n\n,x=")] 3, .drain] := by
    intro f labels n hmem
    simp only [List.mem_cons, Change.add.injEq, List.not_mem_nil, or_false, reduceCtorEq] at hmem
    obtain ⟨-, rfl, -⟩ := hmem
    intro l hl
    obtain rfl := List.mem_singleton.1 hl
    exact hmethod
  exact ⟨hplain, (metrics_text_is_unambiguous _ _ hplain).2.1⟩

end Metrics

end CallGateway
