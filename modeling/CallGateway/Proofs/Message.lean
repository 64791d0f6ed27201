/-
  CallGateway.Proofs.Message
  ──────────────────────────
  **MESSAGES ARE READ AS THEY ARE WRITTEN.**

  `Travels` says of a message that its text has no control character and is
  read back as the message.  Every message of the wire travels, and so does
  a value without doubles that is not nested too deeply.  A message with fixed
  fields is `MadeOf` them, and at whatever type its text is read, it is its
  fields that are found (`MadeOf.fields?`).
-/
import CallGateway.Line
import CallGateway.Proofs.Json.RoundTrip

namespace CallGateway

open Json (Reads Literal Integer escape renderInt renderObject renderString reads_bool reads_int reads_object
  reads_string contentText?_escape ofLiteral?_ofInt toInt64?_ofInt64 toUInt64?_ofUInt64)
open Json.Surface

/-! ## §1. Messages that travel. -/

/-- The text of a message can be put on a line, and is read back from it. -/
structure Travels {α : Type} [Wire α] (m : α) : Prop where
  visible : ∀ b ∈ Wire.render m, 0x20 ≤ b
  ne_nil : Wire.render m ≠ []
  reads : readMessage? α (Wire.render m) = some m

/-- A message travels if its text is read under a form that stands for it. -/
theorem travels_of_reads {α : Type} [Wire α] {m : α} {s : Json.Surface} {depth : Nat}
    (hreads : Reads (Wire.render m) s depth)
    (hdepth : depth ≤ (Wire.nestingLimit α).getD (Wire.render m).length)
    (hs : Wire.ofSurface? s = some m) : Travels m where
  visible := hreads.visible
  ne_nil := List.ne_nil_of_length_pos hreads.length_pos
  reads := by
    rw [readMessage?, hreads.read? hdepth]
    exact hs

/-! ## §2. Fields. -/

theorem mapM_eq_some {α β : Type} {f : α → Option β} {g : α → β} {xs : List α}
    (h : ∀ x ∈ xs, f x = some (g x)) : xs.mapM f = some (xs.map g) := by
  induction xs with
  | nil => rfl
  | cons x xs ih =>
    rw [List.mapM_cons, h x List.mem_cons_self, ih fun y hy => h y (List.mem_cons_of_mem x hy)]
    rfl

/-- Where each name is there once, what is found is what stands under it. -/
theorem unique?_of_nodup {ms : List (String × Json.Surface)} (hnodup : (ms.map (·.1)).Nodup) (name : String) :
    unique? name ms = some (ms.lookup name) := by
  unfold unique?
  induction ms with
  | nil => rfl
  | cons m ms ih =>
    rw [List.map_cons, List.nodup_cons] at hnodup
    by_cases hname : m.1 = name
    · have hrest : ms.filter (·.1 = name) = [] := by
        refine List.filter_eq_nil_iff.2 fun n hn => ?_
        have hne : n.1 ≠ name := fun heq => hnodup.1 (hname.trans heq.symm ▸ List.mem_map_of_mem hn)
        simpa using hne
      rw [List.filter_cons_of_pos (by simpa using hname), hrest, List.lookup_cons, ← hname, beq_self_eq_true]
    · rw [List.filter_cons_of_neg (by simpa using hname), List.lookup_cons, beq_false_of_ne (Ne.symm hname)]
      exact ih hnodup.2

/-- Members under their written names. -/
def written (ms : List (String × Json.Surface)) : List (Bytes × Json.Surface) :=
  ms.map fun m => (escape (Bytes.ofText m.1), m.2)

/-- Members are read in their order, if every value is read from its form. -/
theorem mapM_written {β : Type} (form : β → Json.Surface) (read? : Json.Surface → Option β)
    (h : ∀ b, read? (form b) = some b) (es : List (String × β)) :
    (written (es.map fun e => (e.1, form e.2))).mapM
      (fun x : Bytes × Json.Surface => do return (← contentText? x.1, ← read? x.2)) = some es := by
  rw [written, List.map_map, List.mapM_map]
  refine (mapM_eq_some (g := id) fun e _ => ?_).trans (by rw [List.map_id])
  simp [contentText?_escape, h]

/-- The fields of a written object are what was written under their names; a
name that was not written has none. -/
theorem fields?_object {ms : List (String × Json.Surface)} (hnodup : (ms.map (·.1)).Nodup) (names : List String) :
    fields? names (object (written ms)) = some (names.map (ms.lookup ·)) := by
  have hmembers : (written ms).mapM
      (fun x : Bytes × Json.Surface => do return (← contentText? x.1, x.2)) = some ms := by
    simpa using mapM_written id some (fun _ => rfl) ms
  show ((written ms).mapM (fun x : Bytes × Json.Surface => do return (← contentText? x.1, x.2)) >>=
    fun members => names.mapM (unique? · members)) = _
  rw [hmembers]
  exact mapM_eq_some fun name _ => unique?_of_nodup hnodup name

theorem uint64?_ofInt (n : UInt64) : uint64? (number (Literal.ofInt n.toNat)) = some n := by
  have h := ofLiteral?_ofInt (Integer.ofUInt64 n)
  rw [uint64?, show Literal.ofInt n.toNat = Literal.ofInt (Integer.ofUInt64 n).val from rfl, h]
  exact toUInt64?_ofUInt64 n

theorem int64?_ofInt (n : Int64) : int64? (number (Literal.ofInt n.toInt)) = some n := by
  have h := ofLiteral?_ofInt (Integer.ofInt64 n)
  rw [int64?, show Literal.ofInt n.toInt = Literal.ofInt (Integer.ofInt64 n).val from rfl, h]
  exact toInt64?_ofInt64 n

/-- The form of counts. -/
def countsForm (d : Dict UInt64) : Json.Surface :=
  object (written (d.entries.map fun e => (e.1, number (Literal.ofInt e.2.toNat))))

/-- Counts are read as an object. -/
theorem reads_counts (d : Dict UInt64) : Reads (renderCounts d) (countsForm d) 1 := by
  have h := reads_object (d.entries.map fun e => (e.1, renderInt e.2.toNat, number (Literal.ofInt e.2.toNat)))
    (by
      intro m hm
      obtain ⟨e, -, rfl⟩ := List.mem_map.1 hm
      exact reads_int e.2.toNat)
  rw [List.map_map, List.map_map] at h
  rw [countsForm, written, List.map_map]
  exact h

/-- The form of counts stands for them. -/
theorem dict?_counts (d : Dict UInt64) : dict? uint64? (countsForm d) = some d := by
  have hentries := mapM_written (fun n : UInt64 => number (Literal.ofInt n.toNat)) uint64? uint64?_ofInt d.entries
  show ((written (d.entries.map fun e => (e.1, number (Literal.ofInt e.2.toNat)))).mapM
    (fun x : Bytes × Json.Surface => do return (← contentText? x.1, ← uint64? x.2)) >>=
      fun es => some (Dict.ofList es)) = _
  rw [hentries]
  exact congrArg some d.ofList_entries

/-! ## §3. Messages and their fields. -/

/-- A field of a message: its name, its text, and the form under which the text
is read. -/
abbrev Field := String × Bytes × Json.Surface

/-- The form of an object with these fields. -/
def objectForm (fields : List Field) : Json.Surface := object (written (fields.map fun f => (f.1, f.2.2)))

/-- The text of a message is an object with these fields. -/
structure MadeOf {α : Type} [Wire α] (fields : List Field) (m : α) : Prop where
  render_eq : Wire.render m = renderObject (fields.map fun f => (f.1, f.2.1))
  nodup : (fields.map (·.1)).Nodup
  reads : ∀ f ∈ fields, Reads f.2.1 f.2.2 1

section
variable {α β : Type} [Wire α] [Wire β] {m : α} {fields : List Field}

theorem MadeOf.reads_render (h : MadeOf fields m) : Reads (Wire.render m) (objectForm fields) 2 := by
  have hobject := reads_object fields h.reads
  rw [← h.render_eq] at hobject
  unfold objectForm written
  rwa [List.map_map]

/-- Braces are part of the text, so it is long enough for what is open in it. -/
theorem MadeOf.two_le_length (h : MadeOf fields m) : 2 ≤ (Wire.render m).length := by
  rw [h.render_eq]
  simp [renderObject]

/-- At any type, the fields are those that the type looks for. -/
theorem MadeOf.fields? (h : MadeOf fields m) (names : List String) :
    fields? names (objectForm fields) = some (names.map ((fields.map fun f => (f.1, f.2.2)).lookup ·)) :=
  fields?_object (by rw [List.map_map]; exact h.nodup) names

/-- At any type, what is read is what is made of the fields. -/
theorem MadeOf.readMessage? (h : MadeOf fields m) (hlimit : Wire.nestingLimit β = none) :
    readMessage? β (Wire.render m) = Wire.ofSurface? (objectForm fields) := by
  rw [CallGateway.readMessage?, hlimit, Option.getD_none, h.reads_render.read? h.two_le_length]
  rfl

/-- A message of fields travels if it is what is made of its fields. -/
theorem MadeOf.travels (h : MadeOf fields m) (hlimit : Wire.nestingLimit α = none)
    (hmake : Wire.ofSurface? (objectForm fields) = some m) : Travels m where
  visible := h.reads_render.visible
  ne_nil := List.ne_nil_of_length_pos h.reads_render.length_pos
  reads := (h.readMessage? hlimit).trans hmake

end

/-- A field that is a text, one that is an integer, and one that is counts. -/
def textField (name text : String) : Field := (name, renderString text, .string (escape (Bytes.ofText text)))

def intField (name : String) (n : Int) : Field := (name, renderInt n, number (Literal.ofInt n))

def countsField (name : String) (d : Dict UInt64) : Field := (name, renderCounts d, countsForm d)

theorem reads_textField (name text : String) : Reads (textField name text).2.1 (textField name text).2.2 1 :=
  (reads_string text).mono (Nat.zero_le 1)

theorem reads_intField (name : String) (n : Int) : Reads (intField name n).2.1 (intField name n).2.2 1 :=
  (reads_int n).mono (Nat.zero_le 1)

theorem reads_countsField (name : String) (d : Dict UInt64) :
    Reads (countsField name d).2.1 (countsField name d).2.2 1 :=
  reads_counts d

/-! ## §4. Every message travels. -/

namespace Nothing

def fields (m : Nothing) : List Field := [("dummy", renderBool m.dummy, .bool m.dummy)]

theorem madeOf (m : Nothing) : MadeOf m.fields m := by
  refine ⟨rfl, by simp [fields], fun f hf => ?_⟩
  obtain rfl := List.mem_singleton.1 hf
  exact (reads_bool m.dummy).mono (Nat.zero_le 1)

theorem travels (m : Nothing) : Travels m := by
  refine m.madeOf.travels rfl ?_
  show (fields? ["dummy"] (objectForm m.fields) >>= _) = _
  rw [m.madeOf.fields?]
  rfl

end Nothing

namespace Event

def fields (m : Event) : List Field :=
  [intField "timestamp" m.timestamp.toInt, textField "consumer" m.consumer, textField "method" m.method,
    textField "host" m.host]

theorem madeOf (m : Event) : MadeOf m.fields m := by
  refine ⟨rfl, by simp [fields, intField, textField], ?_⟩
  simp only [fields, List.forall_mem_cons]
  exact ⟨reads_intField _ _, reads_textField _ _, reads_textField _ _, reads_textField _ _, by simp⟩

theorem travels (m : Event) : Travels m := by
  refine m.madeOf.travels rfl ?_
  show (fields? ["timestamp", "consumer", "method", "host"] (objectForm m.fields) >>= _) = _
  rw [m.madeOf.fields?]
  simp [fields, intField, textField, required?, int64?_ofInt, text?, contentText?_escape, List.lookup_cons]

end Event

namespace StatInterval

def fields (m : StatInterval) : List Field := [intField "interval_seconds" m.intervalSeconds.toNat]

theorem madeOf (m : StatInterval) : MadeOf m.fields m := by
  refine ⟨rfl, by simp [fields], fun f hf => ?_⟩
  obtain rfl := List.mem_singleton.1 hf
  exact reads_intField _ _

theorem travels (m : StatInterval) : Travels m := by
  refine m.madeOf.travels rfl ?_
  show (fields? ["interval_seconds"] (objectForm m.fields) >>= _) = _
  rw [m.madeOf.fields?]
  simp [fields, intField, required?, uint64?_ofInt, List.lookup_cons]

end StatInterval

namespace Stat

def fields (m : Stat) : List Field :=
  [intField "timestamp" m.timestamp.toInt, countsField "by_method" m.byMethod, countsField "by_consumer" m.byConsumer]

theorem madeOf (m : Stat) : MadeOf m.fields m := by
  refine ⟨rfl, by simp [fields, intField, countsField], ?_⟩
  simp only [fields, List.forall_mem_cons]
  exact ⟨reads_intField _ _, reads_countsField _ _, reads_countsField _ _, by simp⟩

theorem travels (m : Stat) : Travels m := by
  refine m.madeOf.travels rfl ?_
  show (fields? ["timestamp", "by_method", "by_consumer"] (objectForm m.fields) >>= _) = _
  rw [m.madeOf.fields?]
  simp [fields, intField, countsField, required?, optional?, int64?_ofInt, dict?_counts, List.lookup_cons]

end Stat

namespace ErrorFrame

def fields (m : ErrorFrame) : List Field := [textField "error" m.error, textField "message" m.message]

theorem madeOf (m : ErrorFrame) : MadeOf m.fields m := by
  refine ⟨rfl, by simp [fields, textField], ?_⟩
  simp only [fields, List.forall_mem_cons]
  exact ⟨reads_textField _ _, reads_textField _ _, by simp⟩

theorem travels (m : ErrorFrame) : Travels m := by
  refine m.madeOf.travels rfl ?_
  show (fields? ["error", "message"] (objectForm m.fields) >>= _) = _
  rw [m.madeOf.fields?]
  simp [fields, textField, required?, text?, contentText?_escape, List.lookup_cons]

end ErrorFrame

/-- A value without doubles travels unless it is nested too deeply. -/
theorem travels_value {v : Json.Value} (hfloat : v.FloatFree) (hcanonical : v.Canonical)
    (hdepth : v.depth ≤ Json.Value.nestingLimit) : Travels v := by
  obtain ⟨s, hreads, hs⟩ := Json.Value.exists_reads v hfloat hcanonical
  exact travels_of_reads hreads hdepth hs

end CallGateway
