/-
  CallGateway.Proofs.Line.Segments
  ────────────────────────────────
  **A BUFFER CUTS ITS BYTES AT THE NEWLINES AND NOWHERE ELSE.**

  A text is a number of segments, each ended by a newline, and a rest without
  one (`Segmented`); there is one way only to see it so (`Segmented.unique`).
  Taking lines off the front of a text, one at a time, comes to its end after
  as many turns as there are newlines (`Segmented.takesOff`).  A buffer that
  gets a piece gives the segments whose newlines came with that piece and
  keeps the rest, whatever it got before (`feed_eq_linesOf_segments`).
-/
import CallGateway.Proofs.Line
import Mathlib.Data.List.Basic

namespace CallGateway

/-! ## §1. Segments. -/

/-- The text is these segments, each followed by a newline, and then the
rest, and there are no other newlines in it. -/
structure Segmented (text : Bytes) (segments : List Bytes) (rest : Bytes) : Prop where
  whole : (segments.map (· ++ [Ascii.newline])).flatten ++ rest = text
  bare : ∀ s ∈ segments, Ascii.newline ∉ s
  unended : Ascii.newline ∉ rest

/-- The lines of some segments, newlines kept; a line that is only its
newline is left out. -/
def linesOf (segments : List Bytes) : List Bytes := (segments.filter (· ≠ [])).map (· ++ [Ascii.newline])

/-- A line that is given away is more than its newline, which is its last
byte and the only one. -/
structure IsLine (line : Bytes) : Prop where
  length : 2 ≤ line.length
  newlines : line.count Ascii.newline = 1
  last : line.getLast? = some Ascii.newline

theorem isLine_of_mem {segments : List Bytes} (h : ∀ s ∈ segments, Ascii.newline ∉ s) {line : Bytes}
    (hline : line ∈ linesOf segments) : IsLine line := by
  obtain ⟨s, hs, rfl⟩ := List.mem_map.1 hline
  obtain ⟨hs, hne⟩ := List.mem_filter.1 hs
  have hne : s ≠ [] := by simpa using hne
  refine ⟨?_, ?_, List.getLast?_concat⟩
  · have hpos := List.length_pos_iff.2 hne
    rw [List.length_append, List.length_singleton]
    omega
  · rw [List.count_append, List.count_eq_zero.2 (h s hs)]
    rfl

namespace Segmented

variable {a b text : Bytes} {segments segments' : List Bytes} {rest rest' : Bytes}

theorem nil : Segmented [] [] [] := ⟨rfl, nofun, List.not_mem_nil⟩

/-- A byte in front of a text that is no newline belongs to what comes first
in it. -/
theorem cons {c : UInt8} (hc : c ≠ Ascii.newline) (h : Segmented text segments rest) :
    ∃ segments' rest', Segmented (c :: text) segments' rest' := by
  obtain ⟨rfl, hbare, hrest⟩ := h
  have hfresh : ∀ {s : Bytes}, Ascii.newline ∉ s → Ascii.newline ∉ c :: s := fun hs hmem =>
    (List.mem_cons.1 hmem).elim (fun heq => hc heq.symm) hs
  cases segments with
  | nil => exact ⟨[], c :: rest, rfl, nofun, hfresh hrest⟩
  | cons s segments =>
    refine ⟨(c :: s) :: segments, rest, rfl, fun s' hs' => ?_, hrest⟩
    rcases List.mem_cons.1 hs' with rfl | hs'
    · exact hfresh (hbare s List.mem_cons_self)
    · exact hbare s' (List.mem_cons_of_mem s hs')

theorem exists_segmented (text : Bytes) : ∃ segments rest, Segmented text segments rest := by
  induction text with
  | nil => exact ⟨[], [], nil⟩
  | cons c text ih =>
    obtain ⟨segments, rest, h⟩ := ih
    by_cases hc : c = Ascii.newline
    · refine ⟨[] :: segments, rest, ?_, fun s hs => ?_, h.unended⟩
      · rw [← h.whole, hc]
        rfl
      · rcases List.mem_cons.1 hs with rfl | hs
        · exact List.not_mem_nil
        · exact h.bare s hs
    · exact h.cons hc

/-- What comes later goes on where the rest stands. -/
theorem append (h : Segmented a segments rest) (h' : Segmented (rest ++ b) segments' rest') :
    Segmented (a ++ b) (segments ++ segments') rest' where
  whole := by
    rw [← h.whole, List.append_assoc, ← h'.whole]
    simp
  bare s hs := (List.mem_append.1 hs).elim (h.bare s) (h'.bare s)
  unended := h'.unended

/-- There are as many segments as newlines. -/
theorem length_eq (h : Segmented text segments rest) : segments.length = text.count Ascii.newline := by
  obtain ⟨rfl, hbare, hrest⟩ := h
  rw [List.count_append, List.count_eq_zero.2 hrest]
  induction segments with
  | nil => rfl
  | cons s segments ih =>
    have ih := ih fun s hs => hbare s (List.mem_cons_of_mem _ hs)
    rw [List.map_cons, List.flatten_cons, List.count_append, List.count_append,
      List.count_eq_zero.2 (hbare s List.mem_cons_self), List.length_cons, ih]
    simp [Nat.add_comm]

/-- Splitting a text gives its lines, and leaves its rest. -/
theorem splitLines_eq (h : Segmented text segments rest) : splitLines [] text = (linesOf segments, rest) := by
  obtain ⟨rfl, hbare, hrest⟩ := h
  induction segments with
  | nil =>
    have hopen := splitLines_open hrest [] []
    simp only [List.append_nil] at hopen
    simp [hopen, splitLines, linesOf]
  | cons s segments ih =>
    have ih := ih fun s hs => hbare s (List.mem_cons_of_mem _ hs)
    rw [List.map_cons, List.flatten_cons, List.append_assoc, List.append_assoc,
      splitLines_open (hbare s List.mem_cons_self), List.append_nil, List.singleton_append, splitLines, if_pos rfl,
      ih]
    by_cases hs : s = []
    · simp [linesOf, hs]
    · simp [linesOf, hs]

end Segmented

/-! ## §2. Line after line. -/

/-- Take the first line off a text, newline included. -/
def takeLine? (text : Bytes) : Option (Bytes × Bytes) :=
  (text.findIdx? (· == Ascii.newline)).map fun pos => (text.take (pos + 1), text.drop (pos + 1))

/-- These lines are taken off a text, one in each turn, until there are no
more to take, and this is left. -/
inductive TakesOff : Bytes → List Bytes → Bytes → Prop where
  | done {text : Bytes} : takeLine? text = none → TakesOff text [] text
  | turn {text line rest rest' : Bytes} {lines : List Bytes} :
      takeLine? text = some (line, rest) → TakesOff rest lines rest' → TakesOff text (line :: lines) rest'

theorem findIdx?_newline_of_notMem {text : Bytes} (h : Ascii.newline ∉ text) :
    text.findIdx? (· == Ascii.newline) = none := by
  rw [List.findIdx?_eq_none_iff]
  intro c hc
  exact beq_false_of_ne fun heq => h (heq ▸ hc)

theorem takeLine?_of_notMem {text : Bytes} (h : Ascii.newline ∉ text) : takeLine? text = none := by
  rw [takeLine?, findIdx?_newline_of_notMem h]
  rfl

theorem takeLine?_line {s : Bytes} (h : Ascii.newline ∉ s) (rest : Bytes) :
    takeLine? (s ++ [Ascii.newline] ++ rest) = some (s ++ [Ascii.newline], rest) := by
  have hpos : (s ++ [Ascii.newline] ++ rest).findIdx? (· == Ascii.newline) = some s.length := by
    rw [List.append_assoc, List.findIdx?_append, findIdx?_newline_of_notMem h, List.singleton_append,
      List.findIdx?_cons]
    simp
  have hlength : s.length + 1 = (s ++ [Ascii.newline]).length := by simp
  rw [takeLine?, hpos, Option.map_some, hlength, List.take_left, List.drop_left]

theorem TakesOff.unique {text rest rest' : Bytes} {lines lines' : List Bytes} (h : TakesOff text lines rest)
    (h' : TakesOff text lines' rest') : lines' = lines ∧ rest' = rest := by
  induction h generalizing lines' with
  | done hnone =>
    cases h' with
    | done _ => exact ⟨rfl, rfl⟩
    | turn hsome _ => rw [hnone] at hsome; cases hsome
  | turn hsome _ ih =>
    cases h' with
    | done hnone => rw [hnone] at hsome; cases hsome
    | turn hsome' hrest' =>
      rw [hsome] at hsome'
      obtain ⟨rfl, rfl⟩ := Prod.mk.inj (Option.some.inj hsome')
      obtain ⟨rfl, rfl⟩ := ih hrest'
      exact ⟨rfl, rfl⟩

namespace Segmented

variable {text : Bytes} {segments segments' : List Bytes} {rest rest' : Bytes}

/-- **Taking lines comes to its end.**  There is a turn for each newline, and
the rest is left. -/
theorem takesOff (h : Segmented text segments rest) :
    TakesOff text (segments.map (· ++ [Ascii.newline])) rest := by
  obtain ⟨rfl, hbare, hrest⟩ := h
  induction segments with
  | nil => exact .done (takeLine?_of_notMem hrest)
  | cons s segments ih =>
    have hline := takeLine?_line (hbare s List.mem_cons_self)
      ((segments.map (· ++ [Ascii.newline])).flatten ++ rest)
    rw [List.map_cons, List.flatten_cons, List.append_assoc]
    exact .turn hline (ih fun s hs => hbare s (List.mem_cons_of_mem _ hs))

/-- There is one way only to see a text as segments. -/
theorem unique (h : Segmented text segments rest) (h' : Segmented text segments' rest') :
    segments' = segments ∧ rest' = rest := by
  obtain ⟨hlines, hrest⟩ := h.takesOff.unique h'.takesOff
  refine ⟨?_, hrest⟩
  exact List.map_injective_iff.2 (fun _ _ heq => List.append_cancel_right heq) hlines

end Segmented

/-! ## §3. Buffers. -/

/-- The lines of some segments are those that are more than one byte long. -/
theorem linesOf_eq_filter (segments : List Bytes) :
    linesOf segments = (segments.map (· ++ [Ascii.newline])).filter (1 < ·.length) := by
  unfold linesOf
  rw [List.filter_map]
  congr 1
  refine List.filter_congr fun s _ => ?_
  cases s <;> simp

namespace LineBuffer

/-- A buffer that has got these segments, and keeps the rest, gets a piece. -/
structure Cuts (received : Bytes) (segments : List Bytes) (b : LineBuffer) (piece : Bytes) (new : List Bytes) :
    Prop where
  -- The new segments come after the ones before, and the buffer keeps what is left.
  received : Segmented (received ++ piece) (segments ++ new) (b.push piece).2.remainder
  -- They are those whose newlines came with the piece.
  newlines : new.length = piece.count Ascii.newline
  -- It gives their lines, and no others.
  lines : (b.push piece).1 = linesOf new
  -- It takes line after line until there are no more to take, and gives those
  -- that are more than a newline.
  turns : ∃ taken, TakesOff (b.remainder ++ piece) taken (b.push piece).2.remainder
    ∧ taken.length = piece.count Ascii.newline ∧ (b.push piece).1 = taken.filter (1 < ·.length)

/-- One push. -/
theorem push_cuts {received : Bytes} {segments : List Bytes} {b : LineBuffer}
    (h : Segmented received segments b.remainder) (piece : Bytes) : ∃ new, Cuts received segments b piece new := by
  obtain ⟨new, rest, hnew⟩ := Segmented.exists_segmented (b.remainder ++ piece)
  have hpush : b.push piece = (linesOf new, ⟨rest⟩) := by
    unfold push
    rw [hnew.splitLines_eq]
  have hlength : new.length = piece.count Ascii.newline := by
    rw [hnew.length_eq, List.count_append, List.count_eq_zero.2 h.unended, Nat.zero_add]
  refine ⟨new, ?_, hlength, ?_, new.map (· ++ [Ascii.newline]), ?_, ?_, ?_⟩
  · rw [hpush]
    exact h.append hnew
  · rw [hpush]
  · rw [hpush]
    exact hnew.takesOff
  · rw [List.length_map, hlength]
  · rw [hpush]
    exact linesOf_eq_filter new

/-- A new buffer has the lines of all that it got, and keeps the rest. -/
theorem feed_segmented {pieces segments : List Bytes} {rest : Bytes} (h : Segmented pieces.flatten segments rest) :
    ({} : LineBuffer).feed pieces = (linesOf segments, ⟨rest⟩) := by
  rw [feed_eq List.not_mem_nil, List.nil_append, h.splitLines_eq]

/-- **Every push is exact.**  Take a new buffer and any pieces of any bytes.
The bytes that it got are segments and a rest in one way only; it has given
the lines of these segments, each of them more than its newline and with no
other one in it, and keeps the rest.  With the next piece it gives the lines
whose newlines come with it, taking as many turns.  Only the bytes count:
other pieces that make up the same bytes come to the same. -/
theorem feed_eq_linesOf_segments (pieces : List Bytes) :
    ∃ segments, Segmented pieces.flatten segments (({} : LineBuffer).feed pieces).2.remainder
      ∧ (∀ segments' rest', Segmented pieces.flatten segments' rest' →
          segments' = segments ∧ rest' = (({} : LineBuffer).feed pieces).2.remainder)
      ∧ (({} : LineBuffer).feed pieces).1 = linesOf segments
      ∧ (∀ line ∈ (({} : LineBuffer).feed pieces).1, IsLine line)
      ∧ (∀ piece, ∃ new, Cuts pieces.flatten segments (({} : LineBuffer).feed pieces).2 piece new)
      ∧ ∀ pieces' : List Bytes, pieces'.flatten = pieces.flatten →
          ({} : LineBuffer).feed pieces' = ({} : LineBuffer).feed pieces := by
  obtain ⟨segments, rest, h⟩ := Segmented.exists_segmented pieces.flatten
  have hfeed := feed_segmented h
  refine ⟨segments, ?_, ?_, ?_, ?_, ?_, ?_⟩
  · rw [hfeed]
    exact h
  · rw [hfeed]
    exact fun segments' rest' h' => h.unique h'
  · rw [hfeed]
  · rw [hfeed]
    exact fun line hline => isLine_of_mem h.bare hline
  · rw [hfeed]
    exact fun piece => push_cuts h piece
  · intro pieces' hpieces
    rw [hfeed]
    exact feed_segmented (hpieces ▸ h)

/-- Blank lines are left out, and a newline may come by itself; in one piece
or byte by byte the lines are the same. -/
theorem blank_lines_are_left_out :
    ({} : LineBuffer).feed [[0x61, 0x0a, 0x0a], [0x62], [0x0a, 0x0a, 0x63]] = ([[0x61, 0x0a], [0x62, 0x0a]], ⟨[0x63]⟩)
      ∧ ({} : LineBuffer).feed [[0x61], [0x0a], [0x0a], [0x62], [0x0a], [0x0a], [0x63]]
        = ({} : LineBuffer).feed [[0x61, 0x0a, 0x0a], [0x62], [0x0a, 0x0a, 0x63]] := by
  have hsegmented : Segmented [[0x61, 0x0a, 0x0a], [0x62], [0x0a, 0x0a, 0x63]].flatten
      [[0x61], [], [0x62], []] [0x63] := ⟨by decide, by decide, by decide⟩
  obtain ⟨segments, -, hunique, hlines, -, -, hbytes⟩ :=
    feed_eq_linesOf_segments [[0x61, 0x0a, 0x0a], [0x62], [0x0a, 0x0a, 0x63]]
  obtain ⟨rfl, hrest⟩ := hunique _ _ hsegmented
  refine ⟨Prod.ext hlines ?_, hbytes _ (by decide)⟩
  exact congrArg LineBuffer.mk hrest.symm

end LineBuffer

end CallGateway
