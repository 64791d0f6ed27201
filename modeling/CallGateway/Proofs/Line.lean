/-
  CallGateway.Proofs.Line
  ───────────────────────
  **LINES SURVIVE EVERY WAY OF CUTTING THEM.**

  Two things make a stream of lines readable.  Splitting a text is the same
  as splitting its start and going on with what the start leaves unfinished
  (`splitLines_append`), so that only the bytes count and not the pieces in
  which they come (`LineBuffer.feed_eq`).  And a message that travels has no
  newline in its text, so that its line is one line and holds the message
  (`Travels.decodeLine_line`).
-/
import CallGateway.Proofs.Message

namespace CallGateway

/-! ## §1. Lines from pieces. -/

/-- Bytes without a newline make the unfinished line longer. -/
theorem splitLines_open {bytes : Bytes} (h : Ascii.newline ∉ bytes) (line rest : Bytes) :
    splitLines line (bytes ++ rest) = splitLines (bytes.reverse ++ line) rest := by
  induction bytes generalizing line with
  | nil => rfl
  | cons b bytes ih =>
    have hb : b ≠ Ascii.newline := fun heq => h (heq ▸ List.mem_cons_self)
    have hbytes : Ascii.newline ∉ bytes := fun hmem => h (List.mem_cons_of_mem b hmem)
    rw [List.cons_append, splitLines, if_neg hb, ih hbytes]
    simp

/-- What is left unfinished has no newline. -/
theorem newline_notMem_splitLines {line : Bytes} (h : Ascii.newline ∉ line) (text : Bytes) :
    Ascii.newline ∉ (splitLines line text).2 := by
  induction text generalizing line with
  | nil => simpa [splitLines] using h
  | cons b text ih =>
    rw [splitLines]
    by_cases hb : b = Ascii.newline
    · rw [if_pos hb]
      exact ih List.not_mem_nil
    · rw [if_neg hb]
      exact ih fun hmem => (List.mem_cons.1 hmem).elim (fun heq => hb heq.symm) h

/-- **A text is split at any place.** The lines of the start come first, and
what it leaves unfinished stands before the rest. -/
theorem splitLines_append {line : Bytes} (h : Ascii.newline ∉ line) (a b : Bytes) :
    splitLines line (a ++ b) =
      ((splitLines line a).1 ++ (splitLines [] ((splitLines line a).2 ++ b)).1,
        (splitLines [] ((splitLines line a).2 ++ b)).2) := by
  induction a generalizing line with
  | nil =>
    -- the unfinished line is read again, now in front of `b`
    have hreverse : Ascii.newline ∉ line.reverse := fun hmem => h (List.mem_reverse.1 hmem)
    have hopen := splitLines_open hreverse [] b
    rw [List.reverse_reverse, List.append_nil] at hopen
    simp [splitLines, hopen]
  | cons c a ih =>
    rw [List.cons_append, splitLines, splitLines]
    by_cases hc : c = Ascii.newline
    · rw [if_pos hc, if_pos hc, ih List.not_mem_nil]
      by_cases hline : line = []
      · simp [hline]
      · simp [hline]
    · rw [if_neg hc, if_neg hc]
      exact ih fun hmem => (List.mem_cons.1 hmem).elim (fun heq => hc heq.symm) h

/-- A line that is more than its newline is split off. -/
theorem splitLines_line {body : Bytes} (hbody : Ascii.newline ∉ body) (hne : body ≠ []) (rest : Bytes) :
    splitLines [] (body ++ [Ascii.newline] ++ rest) =
      ((body ++ [Ascii.newline]) :: (splitLines [] rest).1, (splitLines [] rest).2) := by
  rw [List.append_assoc, splitLines_open hbody]
  simp [splitLines, hne]

/-- A text made of lines is split into them, and nothing is left. -/
theorem splitLines_flatten {lines : List Bytes}
    (h : ∀ l ∈ lines, ∃ body, l = body ++ [Ascii.newline] ∧ Ascii.newline ∉ body ∧ body ≠ []) :
    splitLines [] lines.flatten = (lines, []) := by
  induction lines with
  | nil => rfl
  | cons l lines ih =>
    obtain ⟨body, hl, hbody, hne⟩ := h l List.mem_cons_self
    have ih := ih fun l hl => h l (List.mem_cons_of_mem _ hl)
    rw [List.flatten_cons, hl, splitLines_line hbody hne, ih]

namespace LineBuffer

/-- Push pieces one after the other, and collect the lines they complete. -/
def feed : LineBuffer → List Bytes → List Bytes × LineBuffer
  | b, [] => ([], b)
  | b, piece :: pieces =>
    let (lines, b) := b.push piece
    let (more, b) := b.feed pieces
    (lines ++ more, b)

/-- **Only the bytes count.** However they are cut into pieces, the lines
are those of all the bytes together. -/
theorem feed_eq {b : LineBuffer} (h : Ascii.newline ∉ b.remainder) (pieces : List Bytes) :
    b.feed pieces = ((splitLines [] (b.remainder ++ pieces.flatten)).1,
      ⟨(splitLines [] (b.remainder ++ pieces.flatten)).2⟩) := by
  induction pieces generalizing b with
  | nil =>
    have hopen := splitLines_open h [] []
    simp only [List.append_nil] at hopen
    simp [feed, hopen, splitLines]
  | cons piece pieces ih =>
    have hpush : Ascii.newline ∉ (b.push piece).2.remainder := newline_notMem_splitLines List.not_mem_nil _
    have hfeed := ih hpush
    rw [List.flatten_cons, ← List.append_assoc, splitLines_append List.not_mem_nil]
    show ((b.push piece).1 ++ ((b.push piece).2.feed pieces).1, ((b.push piece).2.feed pieces).2) = _
    rw [hfeed]
    rfl

end LineBuffer

/-! ## §2. The line of a message that travels. -/

section
variable {α : Type} [Wire α] {m : α}

/-- The text of a message that travels has no newline. -/
theorem Travels.newline_notMem (h : Travels m) : Ascii.newline ∉ Wire.render m :=
  fun hmem => absurd (h.visible _ hmem) (by decide)

theorem trimNewline_of_notMem {text : Bytes} (h : Ascii.newline ∉ text) : trimNewline text = text :=
  if_neg fun hlast => h (List.mem_of_getLast? hlast)

theorem trimNewline_append (text : Bytes) : trimNewline (text ++ [Ascii.newline]) = text := by
  simp [trimNewline]

/-- The message is read from its text alone. -/
theorem Travels.decodeLine_render (h : Travels m) : decodeLine α (Wire.render m) = .ok m := by
  rw [decodeLine, trimNewline_of_notMem h.newline_notMem, h.reads]

/-- The message is read from its line. -/
theorem Travels.decodeLine_line (h : Travels m) : decodeLine α (encodeLine m) = .ok m := by
  rw [decodeLine, encodeLine, trimNewline_append, h.reads]

end

/-! ## §3. Streams of messages. -/

/-- A message of some type. -/
inductive Message where
  -- A message that has nothing to say.
  | nothing (m : Nothing)
  -- A call on the log stream.
  | event (m : Event)
  -- How often to report.
  | statInterval (m : StatInterval)
  -- Counts on the statistics stream.
  | stat (m : Stat)
  -- The end of a stream that failed.
  | errorFrame (m : ErrorFrame)
  | value (v : Json.Value)

namespace Message

/-- The message as a line. -/
def line : Message → Bytes
  | nothing m => encodeLine m
  | event m => encodeLine m
  | statInterval m => encodeLine m
  | stat m => encodeLine m
  | errorFrame m => encodeLine m
  | value v => encodeLine v

/-- At the type of the message, a line is read as the message. -/
def ReadFrom (line : Bytes) : Message → Prop
  | nothing m => decodeLine Nothing line = .ok m
  | event m => decodeLine Event line = .ok m
  | statInterval m => decodeLine StatInterval line = .ok m
  | stat m => decodeLine Stat line = .ok m
  | errorFrame m => decodeLine ErrorFrame line = .ok m
  | value v => decodeLine Json.Value line = .ok v

/-- A value is one that can be sent: it lists the members of its objects in
order, has no double and is nested at most 127 deep.  Any other message can
be sent. -/
def Sound : Message → Prop
  | value v => v.Canonical ∧ v.FloatFree ∧ v.depth ≤ 127
  | _ => True

/-- A sound message is one line, and is read from it with and without the
newline. -/
theorem exists_line_eq (m : Message) (h : m.Sound) : ∃ body, m.line = body ++ [Ascii.newline]
    ∧ Ascii.newline ∉ body ∧ body ≠ [] ∧ m.ReadFrom m.line ∧ m.ReadFrom body := by
  have of_travels : ∀ {α : Type} [Wire α] {m : α}, Travels m →
      ∃ body, encodeLine m = body ++ [Ascii.newline] ∧ Ascii.newline ∉ body ∧ body ≠ []
        ∧ decodeLine α (encodeLine m) = .ok m ∧ decodeLine α body = .ok m := fun h =>
    ⟨_, rfl, h.newline_notMem, h.ne_nil, h.decodeLine_line, h.decodeLine_render⟩
  cases m with
  | nothing m => exact of_travels m.travels
  | event m => exact of_travels m.travels
  | statInterval m => exact of_travels m.travels
  | stat m => exact of_travels m.travels
  | errorFrame m => exact of_travels m.travels
  | value v =>
    obtain ⟨hcanonical, hfloat, hdepth⟩ := h
    exact of_travels (travels_value hfloat hcanonical hdepth)

/-- **A stream of messages arrives as it was sent.** Every message is one
line with one newline, its last byte.  In whatever pieces the lines come,
an empty buffer gives back these lines in their order and keeps nothing;
and each is read as its message, with and without the newline. -/
theorem feed_map_line_reads_back (ms : List Message) (hms : ∀ m ∈ ms, m.Sound) :
    (∀ m ∈ ms, ∃ body, m.line = body ++ [Ascii.newline] ∧ Ascii.newline ∉ body
      ∧ m.ReadFrom m.line ∧ m.ReadFrom body)
    ∧ ∀ pieces : List Bytes, pieces.flatten = (ms.map line).flatten →
        ({} : LineBuffer).feed pieces = (ms.map line, {}) := by
  refine ⟨?_, ?_⟩
  · intro m hm
    obtain ⟨body, hline, hnewline, -, hread⟩ := exists_line_eq m (hms m hm)
    exact ⟨body, hline, hnewline, hread⟩
  · intro pieces hpieces
    have hsplit : splitLines [] (ms.map line).flatten = (ms.map line, []) := by
      refine splitLines_flatten fun l hl => ?_
      obtain ⟨m, hm, rfl⟩ := List.mem_map.1 hl
      obtain ⟨body, hline, hnewline, hne, -⟩ := exists_line_eq m (hms m hm)
      exact ⟨body, hline, hnewline, hne⟩
    rw [LineBuffer.feed_eq List.not_mem_nil, List.nil_append, hpieces, hsplit]

/-- Two cuts and an empty piece, inside of a character and of an escape. -/
theorem feed_map_line_quoted_text : (Message.value (.array [.string "é\"", .null])).Sound
    ∧ ({} : LineBuffer).feed
      [[0x5b, 0x22, 0xc3], [0xa9, 0x5c], [], [0x22, 0x22, 0x2c, 0x6e, 0x75, 0x6c, 0x6c, 0x5d, 0x0a]]
      = ([Message.line (.value (.array [.string "é\"", .null]))], {}) := by
  have hsound : (Message.value (.array [.string "é\"", .null])).Sound := by
    refine ⟨?_, ?_, by decide⟩
    · exact ⟨trivial, trivial, trivial⟩
    · exact ⟨trivial, trivial, trivial⟩
  refine ⟨hsound, (feed_map_line_reads_back [.value (.array [.string "é\"", .null])] ?_).2 _ (by decide)⟩
  intro m hm
  obtain rfl := List.mem_singleton.1 hm
  exact hsound

end Message

end CallGateway
