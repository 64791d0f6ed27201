/-
  CallGateway.Proofs.RequestBody
  ──────────────────────────────
  **A BODY IS READ AS THE MESSAGE THAT IT WAS.**

  The body of a call is read twice over, as a value and then as a message.  The
  value lists the members of an object in order of their names, in whatever
  order they were written (`decodeBody_line`), and it is just the value that
  the message is answered as; nothing of the message is lost in it
  (`Stat.parseRequest_respond`).  A body of blanks, and one that is `null`,
  stand for the message in which nothing is set (`bodies_round_trip`).
-/
import CallGateway.Proofs.Line
import CallGateway.Proofs.Outcome
import CallGateway.RequestBody
import Mathlib.Data.List.Forall2

namespace CallGateway

open Json (Reads Literal Integer Value ofLiteral?_ofInt toInt64?_ofInt64 toUInt64?_ofUInt64 contentText?_escape)
open Json.Surface

/-! ## §1. From a text to its value. -/

theorem value?_number (n : Integer) : value? (number (Literal.ofInt n.val)) = some (.number (.integer n)) := by
  rw [value?, ofLiteral?_ofInt]
  rfl

/-- A field stands for a value. -/
def Field.StandsFor (f : Field) (v : String × Value) : Prop := f.1 = v.1 ∧ value? f.2.2 = some v.2

theorem standsFor_textField (name text : String) : (textField name text).StandsFor (name, .string text) := by
  refine ⟨rfl, ?_⟩
  show value? (.string (Json.escape (Bytes.ofText text))) = _
  rw [value?, contentText?_escape]
  rfl

theorem standsFor_intField (name : String) (n : Int64) :
    (intField name n.toInt).StandsFor (name, .ofInt64 n) :=
  ⟨rfl, value?_number (.ofInt64 n)⟩

theorem standsFor_wordField (name : String) (n : UInt64) :
    (intField name n.toNat).StandsFor (name, .ofUInt64 n) :=
  ⟨rfl, value?_number (.ofUInt64 n)⟩

/-- Members are put into an object one after the other. -/
theorem valueMembers?_written {fields : List Field} {members : List (String × Value)}
    (h : List.Forall₂ Field.StandsFor fields members) : ∀ d : Dict Value,
      valueMembers? d.entries (written (fields.map fun f => (f.1, f.2.2)))
        = some (members.foldl (fun d m => d.insert m.1 m.2) d).entries := by
  induction h with
  | nil =>
    intro d
    rw [List.map_nil, written, List.map_nil, valueMembers?]
    rfl
  | @cons f m fields members hf _ ih =>
    intro d
    have hrest := ih (d.insert m.1 m.2)
    simp only [written, List.map_cons] at hrest ⊢
    rw [valueMembers?, contentText?_escape, hf.1]
    simp only [hf.2]
    exact hrest

/-- **An object stands for its members, put in order.** -/
theorem value?_objectForm {fields : List Field} {members : List (String × Value)}
    (h : List.Forall₂ Field.StandsFor fields members) : value? (objectForm fields) = some (.ofMembers members) := by
  unfold objectForm
  rw [value?, show ([] : List (String × Value)) = (Dict.empty : Dict Value).entries from rfl, valueMembers?_written h]
  rfl

/-- Members that are in order stay as they are. -/
theorem ofMembers_of_sorted {members : List (String × Value)} (h : Entries.Sorted members) :
    Value.ofMembers members = .object members :=
  congrArg (fun d : Dict Value => Value.object d.entries) (Dict.ofList_entries ⟨members, h⟩)

theorem standsFor_countsField (name : String) (d : Dict UInt64) :
    (countsField name d).StandsFor (name, .ofCounts d) := by
  let fields := d.entries.map fun e => intField e.1 e.2.toNat
  have hfields : List.Forall₂ Field.StandsFor fields (d.map Value.ofUInt64).entries := by
    show List.Forall₂ Field.StandsFor (d.entries.map _) (d.entries.map _)
    rw [List.forall₂_map_left_iff, List.forall₂_map_right_iff]
    exact List.forall₂_same.2 fun e _ => standsFor_wordField e.1 e.2
  have hform : objectForm fields = countsForm d := by
    unfold objectForm countsForm
    rw [List.map_map]
    rfl
  refine ⟨rfl, ?_⟩
  show value? (countsForm d) = some (.ofCounts d)
  rw [← hform, value?_objectForm hfields, ofMembers_of_sorted (d.map Value.ofUInt64).sorted]
  rfl

/-- What is not blank in JSON is not blank in a body either, the form feed being a
control character. -/
theorem decodeBody_between {text before after : Bytes} {s : Json.Surface} {depth : Nat} {v : Value}
    (h : Reads text s depth) (hdepth : depth ≤ Value.nestingLimit) (hv : value? s = some v)
    (hbefore : ∀ b ∈ before, isBlank b = true) (hafter : ∀ b ∈ after, isBlank b = true) :
    decodeBody (before ++ text ++ after) = .ok v := by
  have hnot : ¬ (before ++ text ++ after).all isBodyBlank = true := by
    obtain ⟨b, tail, rfl, hblank, -⟩ := h.start
    have hvisible := h.visible b List.mem_cons_self
    intro hall
    have hb : isBodyBlank b = true := List.all_eq_true.1 hall b (by simp)
    unfold isBodyBlank at hb
    rw [hblank, Bool.false_or, beq_iff_eq] at hb
    rw [hb] at hvisible
    exact absurd hvisible (by decide)
  rw [decodeBody, if_neg hnot, Value.read?, h.read?_between hdepth hbefore hafter]
  simp [hv]

/-- **The body of a message is decoded as its fields**, with blanks around it. -/
theorem MadeOf.decodeBody_line {α : Type} [Wire α] {m : α} {fields : List Field} {members : List (String × Value)}
    (h : MadeOf fields m) (hfields : List.Forall₂ Field.StandsFor fields members) {before after : Bytes}
    (hbefore : ∀ b ∈ before, isBlank b = true) (hafter : ∀ b ∈ after, isBlank b = true) :
    decodeBody (before ++ encodeLine m ++ after) = .ok (.ofMembers members) := by
  -- the newline of the line is one more blank
  have hnewline : ∀ b ∈ Ascii.newline :: after, isBlank b = true := List.forall_mem_cons.2 ⟨rfl, hafter⟩
  have htext : before ++ encodeLine m ++ after = before ++ Wire.render m ++ Ascii.newline :: after := by
    simp [encodeLine]
  rw [htext]
  exact decodeBody_between h.reads_render (by decide) (value?_objectForm hfields) hbefore hnewline

/-! ## §2. From a value to its message. -/

theorem toUInt64_ofUInt64 (n : UInt64) : (Value.ofUInt64 n).toUInt64 = .ok n := by
  unfold Value.ofUInt64 Value.toUInt64
  simp only [toUInt64?_ofUInt64]

theorem toInt64_ofInt64 (n : Int64) : (Value.ofInt64 n).toInt64 = .ok n := by
  unfold Value.ofInt64 Value.toInt64
  simp only [toInt64?_ofInt64]

theorem toCounts_ofCounts (d : Dict UInt64) : (Value.ofCounts d).toCounts = .ok d := by
  have hentries : (d.map Value.ofUInt64).entries.mapM
      (fun m : String × Value => do return (m.1, ← m.2.toUInt64)) = (.ok d.entries : Except RequestFault _) := by
    refine Outcome.mapM_eq_ok_iff.2 ?_
    show (d.entries.map _).map _ = _
    rw [List.map_map]
    refine List.map_congr_left fun e _ => ?_
    show (do return (e.1, ← (Value.ofUInt64 e.2).toUInt64) : Except RequestFault _) = _
    rw [toUInt64_ofUInt64]
    rfl
  show ((d.map Value.ofUInt64).entries.mapM (fun m : String × Value => do return (m.1, ← m.2.toUInt64)) >>=
    fun es => .ok (Dict.ofList es)) = _
  rw [hentries]
  exact congrArg Except.ok d.ofList_entries

/-- Blanks alone are no text at all, and stand for `null`. -/
theorem decodeBody_of_blanks {body : Bytes} (h : ∀ b ∈ body, isBodyBlank b = true) : decodeBody body = .ok .null :=
  if_pos (List.all_eq_true.2 h)

/-- An object that is a message is accepted as this message. -/
theorem parseRequest_object {α : Type} [Transferable α] {members : List (String × Value)} {m : α}
    (h : Transferable.ofValue (.object members) = .ok m) : parseRequest α (.object members) = .ok m := by
  show (Transferable.ofValue (.object members) : Except RequestFault α).mapError _ = _
  rw [h]
  rfl

/-! ## §3. What it is to come back. -/

/-- The blanks that may stand around a value. -/
def valueBlanks : Bytes := [Ascii.space, Ascii.tab, Ascii.newline, Ascii.carriageReturn]

/-- The white space of ASCII. -/
def whiteSpace : Bytes := Ascii.formFeed :: valueBlanks

theorem isBlank_of_mem {b : UInt8} (h : b ∈ valueBlanks) : isBlank b = true := by
  have hall : valueBlanks.all isBlank = true := by decide
  exact List.all_eq_true.1 hall b h

theorem isBodyBlank_of_mem {b : UInt8} (h : b ∈ whiteSpace) : isBodyBlank b = true := by
  have hall : whiteSpace.all isBodyBlank = true := by decide
  exact List.all_eq_true.1 hall b h

/-- Messages of a type come back from what is made of them; and where nothing is
said, the message is this one. -/
structure ComesBack (α : Type) [Wire α] [Transferable α] (silent : α) : Prop where
  -- From a body that is the message, with blanks around it.
  body : ∀ (m : α) (before after : Bytes), before ⊆ valueBlanks → after ⊆ valueBlanks →
    (decodeBody (before ++ encodeLine m ++ after) >>= parseRequest α) = .ok m
  -- From the value that is the answer.
  response : ∀ m : α, parseRequest α (respond m) = .ok m
  -- From a body of nothing but white space, be it empty.
  blank : ∀ body : Bytes, body ⊆ whiteSpace → (decodeBody body >>= parseRequest α) = .ok silent
  null : ∀ before after : Bytes, before ⊆ valueBlanks → after ⊆ valueBlanks →
    (decodeBody (before ++ Bytes.ofText "null" ++ after) >>= parseRequest α) = .ok silent

/-- Messages come back if each is made of fields that stand for the members of its
answer, and if the answer is accepted as the message. -/
theorem ComesBack.of_fields {α : Type} [Wire α] [Transferable α] (fields : α → List Field)
    (members : α → List (String × Value)) (hmade : ∀ m, MadeOf (fields m) m)
    (hfields : ∀ m, List.Forall₂ Field.StandsFor (fields m) (members m))
    (hrespond : ∀ m : α, respond m = .ofMembers (members m)) (hparse : ∀ m : α, parseRequest α (respond m) = .ok m) :
    ComesBack α Transferable.blank where
  body m before after hbefore hafter := by
    rw [(hmade m).decodeBody_line (hfields m) (fun b hb => isBlank_of_mem (hbefore hb))
      (fun b hb => isBlank_of_mem (hafter hb)), ← hrespond]
    exact hparse m
  response := hparse
  blank body hbody := by
    rw [decodeBody_of_blanks fun b hb => isBodyBlank_of_mem (hbody hb)]
    rfl
  null before after hbefore hafter := by
    rw [decodeBody_between Json.reads_null (Nat.zero_le _) (by rw [value?])
      (fun b hb => isBlank_of_mem (hbefore hb)) (fun b hb => isBlank_of_mem (hafter hb))]
    rfl

/-! ## §4. The three messages. -/

namespace Nothing

theorem respond_eq (m : Nothing) : respond m = .ofMembers [("dummy", .bool m.dummy)] := rfl

theorem parseRequest_respond (m : Nothing) : parseRequest Nothing (respond m) = .ok m := rfl

theorem comesBack : ComesBack Nothing Transferable.blank :=
  .of_fields fields _ madeOf (fun m => .cons ⟨rfl, by rw [value?]⟩ .nil) respond_eq parseRequest_respond

end Nothing

namespace StatInterval

theorem respond_eq (m : StatInterval) :
    respond m = .ofMembers [("interval_seconds", .ofUInt64 m.intervalSeconds)] := rfl

theorem parseRequest_respond (m : StatInterval) : parseRequest StatInterval (respond m) = .ok m := by
  refine parseRequest_object ?_
  show (do return ⟨← (Value.ofUInt64 m.intervalSeconds).toUInt64⟩ : Except RequestFault StatInterval) = _
  rw [toUInt64_ofUInt64]
  rfl

theorem comesBack : ComesBack StatInterval Transferable.blank :=
  .of_fields fields _ madeOf (fun _ => .cons (standsFor_wordField _ _) .nil) respond_eq parseRequest_respond

end StatInterval

namespace Stat

/-- In the order of their names the time comes last. -/
theorem respond_eq (m : Stat) : respond m = .ofMembers [("timestamp", .ofInt64 m.timestamp),
    ("by_method", .ofCounts m.byMethod), ("by_consumer", .ofCounts m.byConsumer)] := by
  have hmethod : "by_method" < "timestamp" := by decide
  have hconsumer : "by_consumer" < "by_method" := by decide
  show _ = Value.object (Entries.insert _ _ (Entries.insert _ _ [_]))
  rw [Entries.insert, if_pos hmethod, Entries.insert, if_pos hconsumer]
  rfl

theorem parseRequest_respond (m : Stat) : parseRequest Stat (respond m) = .ok m := by
  refine parseRequest_object ?_
  show (do
    let byConsumer ← (some (Value.ofCounts m.byConsumer)).mapM (·.toCounts)
    let byMethod ← (some (Value.ofCounts m.byMethod)).mapM (·.toCounts)
    return ⟨← (Value.ofInt64 m.timestamp).toInt64, byMethod.getD .empty, byConsumer.getD .empty⟩ :
      Except RequestFault Stat) = _
  simp only [Option.mapM_some, toCounts_ofCounts, toInt64_ofInt64]
  rfl

theorem comesBack : ComesBack Stat Transferable.blank :=
  .of_fields fields _ madeOf (fun _ => .cons (standsFor_intField _ _) (.cons (standsFor_countsField _ _)
    (.cons (standsFor_countsField _ _) .nil))) respond_eq parseRequest_respond

end Stat

/-! ## §5. The theorem. -/

/-- **Requests and responses come back as they were.** Any message of the three
types is read from a body that is this message, with blanks around it, and from
the value that it is answered as.  A body of white space alone, and one that is
`null`, is the message of the type in which nothing is set. -/
theorem bodies_round_trip :
    ComesBack Nothing ⟨false⟩ ∧ ComesBack StatInterval ⟨0⟩ ∧ ComesBack Stat ⟨0, .empty, .empty⟩ :=
  ⟨Nothing.comesBack, StatInterval.comesBack, Stat.comesBack⟩

/-- The least time, the greatest count, and names that must be escaped or are those
of fields; and a body of white space. -/
theorem extreme_report_comes_back :
    let m : Stat := ⟨-9223372036854775808, .ofList [("timestamp", 18446744073709551615), ("", 0)],
      .ofList [("\"é\n", 9223372036854775808)]⟩
    (decodeBody ([0x20, 0x0d, 0x0a] ++ encodeLine m ++ [0x09]) >>= parseRequest Stat) = .ok m
      ∧ parseRequest Stat (respond m) = .ok m
      ∧ (decodeBody [0x0c, 0x20] >>= parseRequest Stat) = .ok ⟨0, .empty, .empty⟩ := by
  intro m
  obtain ⟨-, -, hstat⟩ := bodies_round_trip
  exact ⟨hstat.body m _ _ (by decide) (by decide), hstat.response m, hstat.blank _ (by decide)⟩

end CallGateway
