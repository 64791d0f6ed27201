/-
  CallGateway.Proofs.Json.Reads
  ─────────────────────────────
  **TEXTS THAT ARE READ AS THEY ARE BUILT.**

  `Reads` says of a text that the reader takes just this text, whatever
  follows, and finds out how it is built.  It goes from the parts to the
  whole: from words, numbers and strings (§2) to arrays (§3) and objects
  (§4).  The fuel of the reader lasts for such a text, and none of its bytes
  is a control character, so a newline can end it.
-/
import CallGateway.Proofs.Json.Digits
import CallGateway.Proofs.Json.Escape

namespace CallGateway.Json

open Surface

/-! ## §1. What it is to be read. -/

/-- The reader takes this text and no more, and finds this form; at the
deepest place so many arrays and objects are open. -/
structure Reads (bs : Bytes) (s : Surface) (depth : Nat) : Prop where
  -- It begins with a token that does not end an array.
  start : ∃ b tail, bs = b :: tail ∧ isBlank b = false ∧ b ≠ Ascii.closeBracket
  visible : ∀ b ∈ bs, 0x20 ≤ b
  take : ∀ fuel nesting rest, 2 * bs.length ≤ fuel → depth ≤ nesting → EndsNumber rest →
    takeValue fuel nesting (bs ++ rest) = some (s, rest)

theorem Reads.length_pos {bs : Bytes} {s : Surface} {depth : Nat} (h : Reads bs s depth) : 0 < bs.length := by
  obtain ⟨b, tail, rfl, -⟩ := h.start
  exact Nat.succ_pos _

theorem Reads.mono {bs : Bytes} {s : Surface} {depth depth' : Nat} (h : Reads bs s depth)
    (hdepth : depth ≤ depth') : Reads bs s depth' :=
  ⟨h.start, h.visible, fun fuel nesting rest hfuel hnesting =>
    h.take fuel nesting rest hfuel (Nat.le_trans hdepth hnesting)⟩

theorem skipBlank_cons {b : UInt8} (h : isBlank b = false) (bs : Bytes) : skipBlank (b :: bs) = b :: bs := by
  rw [skipBlank, h]
  rfl

/-- Blanks before a text are skipped. -/
theorem skipBlank_append {blanks : Bytes} (h : ∀ b ∈ blanks, isBlank b = true) (bs : Bytes) :
    skipBlank (blanks ++ bs) = skipBlank bs := by
  induction blanks with
  | nil => rfl
  | cons b blanks ih =>
    rw [List.cons_append, skipBlank, if_pos (h b List.mem_cons_self)]
    exact ih fun b' hb' => h b' (List.mem_cons_of_mem b hb')

theorem takeValue_append {blanks : Bytes} (h : ∀ b ∈ blanks, isBlank b = true) (fuel nesting : Nat) (bs : Bytes) :
    takeValue fuel nesting (blanks ++ bs) = takeValue fuel nesting bs := by
  cases fuel with
  | zero => rw [takeValue.eq_def, takeValue.eq_def]
  | succ fuel =>
    rw [takeValue.eq_def, takeValue.eq_def fuel.succ nesting bs]
    simp only [skipBlank_append h]

theorem endsNumber_of_blanks {blanks : Bytes} (h : ∀ b ∈ blanks, isBlank b = true) : EndsNumber blanks := by
  rintro b bs rfl
  have hb : ((b = Ascii.space ∨ b = Ascii.tab) ∨ b = Ascii.newline) ∨ b = Ascii.carriageReturn := by
    simpa [isBlank] using h b List.mem_cons_self
  rcases hb with ((rfl | rfl) | rfl) | rfl <;> decide

/-- **A text that is read is a whole text**, whatever blanks stand around it. -/
theorem Reads.read?_between {bs before after : Bytes} {s : Surface} {depth nesting : Nat} (h : Reads bs s depth)
    (hdepth : depth ≤ nesting) (hbefore : ∀ b ∈ before, isBlank b = true) (hafter : ∀ b ∈ after, isBlank b = true) :
    Surface.read? nesting (before ++ bs ++ after) = some s := by
  have hskip : skipBlank after = [] := by
    have hnothing := skipBlank_append hafter []
    rwa [List.append_nil] at hnothing
  have htake := h.take (2 * (before ++ bs ++ after).length + 2) nesting after (by simp; omega) hdepth
    (endsNumber_of_blanks hafter)
  rw [← takeValue_append hbefore, ← List.append_assoc] at htake
  rw [Surface.read?, htake]
  exact if_pos hskip

theorem Reads.read? {bs : Bytes} {s : Surface} {depth nesting : Nat} (h : Reads bs s depth)
    (hdepth : depth ≤ nesting) : Surface.read? nesting bs = some s := by
  have hread := h.read?_between hdepth (List.forall_mem_nil _) (List.forall_mem_nil _)
  rwa [List.nil_append, List.append_nil] at hread

/-- The bytes that stand between the parts of a text end a number. -/
theorem endsNumber_cons {b : UInt8} (h : b = Ascii.comma ∨ b = Ascii.closeBracket ∨ b = Ascii.closeBrace)
    (bs : Bytes) : EndsNumber (b :: bs) := by
  intro b' bs' heq
  obtain ⟨rfl, -⟩ := List.cons.inj heq
  rcases h with rfl | rfl | rfl <;> decide

/-! ## §2. Words, numbers and strings. -/

/-- A value that begins with this token is read by it. -/
theorem takeValue_cons {b : UInt8} (hb : isBlank b = false) (fuel nesting : Nat) (rest : Bytes) :
    takeValue (fuel + 1) nesting (b :: rest) =
      if b = Ascii.quote then (takeContent [] rest).map fun (s, rest) => (string s, rest)
      else if b = Ascii.openBracket then
        match nesting with
        | 0 => none
        | nesting + 1 =>
          match skipBlank rest with
          | Ascii.closeBracket :: rest => some (array [], rest)
          | _ => takeItems fuel nesting [] rest
      else if b = Ascii.openBrace then
        match nesting with
        | 0 => none
        | nesting + 1 =>
          match skipBlank rest with
          | Ascii.closeBrace :: rest => some (object [], rest)
          | _ => takeMembers fuel nesting [] rest
      else if b = Ascii.code 'n' then (afterWord? (Bytes.ofText "ull") rest).map (null, ·)
      else if b = Ascii.code 't' then (afterWord? (Bytes.ofText "rue") rest).map (bool true, ·)
      else if b = Ascii.code 'f' then (afterWord? (Bytes.ofText "alse") rest).map (bool false, ·)
      else (takeLiteral? (b :: rest)).map fun (n, rest) => (number n, rest) := by
  rw [takeValue.eq_def]
  dsimp only
  split
  · rename_i hblank
    rw [skipBlank_cons hb] at hblank
    cases hblank
  · rename_i hblank
    rw [skipBlank_cons hb] at hblank
    obtain ⟨rfl, rfl⟩ := List.cons.inj hblank
    rfl

theorem reads_null : Reads (Bytes.ofText "null") null 0 := by
  have htext : Bytes.ofText "null" = [0x6e, 0x75, 0x6c, 0x6c] := by decide
  rw [htext]
  refine ⟨⟨0x6e, _, rfl, by decide, by decide⟩, by simp, ?_⟩
  intro fuel nesting rest hfuel _ _
  obtain ⟨fuel, rfl⟩ : ∃ k, fuel = k + 1 := ⟨fuel - 1, by simp at hfuel; omega⟩
  rw [List.cons_append, takeValue_cons (by decide)]
  rfl

theorem reads_bool (b : Bool) : Reads (Value.bool b).render (bool b) 0 := by
  cases b with
  | true =>
    have htext : (Value.bool true).render = [0x74, 0x72, 0x75, 0x65] := by decide
    rw [htext]
    refine ⟨⟨0x74, _, rfl, by decide, by decide⟩, by simp, ?_⟩
    intro fuel nesting rest hfuel _ _
    obtain ⟨fuel, rfl⟩ : ∃ k, fuel = k + 1 := ⟨fuel - 1, by simp at hfuel; omega⟩
    rw [List.cons_append, takeValue_cons (by decide)]
    rfl
  | false =>
    have htext : (Value.bool false).render = [0x66, 0x61, 0x6c, 0x73, 0x65] := by decide
    rw [htext]
    refine ⟨⟨0x66, _, rfl, by decide, by decide⟩, by simp, ?_⟩
    intro fuel nesting rest hfuel _ _
    obtain ⟨fuel, rfl⟩ : ∃ k, fuel = k + 1 := ⟨fuel - 1, by simp at hfuel; omega⟩
    rw [List.cons_append, takeValue_cons (by decide)]
    rfl

/-- A token that begins an integer begins nothing else. -/
theorem number_token {b : UInt8} (h : b = Ascii.minus ∨ ∃ d < 10, b = digitByte d) :
    isBlank b = false ∧ b ≠ Ascii.closeBracket ∧ b ≠ Ascii.quote ∧ b ≠ Ascii.openBracket ∧ b ≠ Ascii.openBrace
      ∧ b ≠ Ascii.code 'n' ∧ b ≠ Ascii.code 't' ∧ b ≠ Ascii.code 'f' := by
  rcases h with rfl | ⟨d, hd, rfl⟩
  · decide
  · revert d
    decide

theorem le_of_mem_renderNat (n : Nat) : ∀ b ∈ renderNat n, 0x20 ≤ b := by
  intro b hb
  rw [renderNat_eq] at hb
  obtain ⟨d, hd, rfl⟩ := List.mem_map.1 hb
  have hlt := decimal_lt n d hd
  clear hd hb
  revert d
  decide

theorem reads_int (n : Int) : Reads (renderInt n) (number (Literal.ofInt n)) 0 := by
  obtain ⟨b, tail, hrender, htoken⟩ := renderInt_eq_cons n
  obtain ⟨hblank, hclose, hquote, hbracket, hbrace, hn, ht, hf⟩ := number_token htoken
  refine ⟨⟨b, tail, hrender, hblank, hclose⟩, ?_, ?_⟩
  · cases n with
    | ofNat n => exact le_of_mem_renderNat n
    | negSucc n =>
      intro b hb
      rcases List.mem_cons.1 hb with rfl | hb
      · decide
      · exact le_of_mem_renderNat (n + 1) b hb
  · intro fuel nesting rest hfuel _ hrest
    have htake := takeLiteral?_renderInt n hrest
    rw [hrender] at hfuel htake ⊢
    obtain ⟨fuel, rfl⟩ : ∃ k, fuel = k + 1 := ⟨fuel - 1, by simp at hfuel; omega⟩
    rw [List.cons_append] at htake ⊢
    rw [takeValue_cons hblank, if_neg hquote, if_neg hbracket, if_neg hbrace, if_neg hn, if_neg ht, if_neg hf,
      htake]
    rfl

theorem le_of_mem_renderString (s : String) : ∀ b ∈ renderString s, 0x20 ≤ b := by
  intro b hb
  rcases List.mem_append.1 hb with hb | hb
  · rcases List.mem_cons.1 hb with rfl | hb
    · decide
    · exact le_of_mem_escape b hb
  · rw [List.mem_singleton.1 hb]
    decide

theorem reads_string (s : String) : Reads (renderString s) (string (escape (Bytes.ofText s))) 0 := by
  refine ⟨⟨Ascii.quote, _, rfl, by decide, by decide⟩, le_of_mem_renderString s, ?_⟩
  intro fuel nesting rest hfuel _ _
  obtain ⟨fuel, rfl⟩ : ∃ k, fuel = k + 1 := ⟨fuel - 1, by simp [renderString] at hfuel; omega⟩
  have hcontent := takeContent_escape (Bytes.ofText s) [] rest
  show takeValue (fuel + 1) nesting (Ascii.quote :: (escape (Bytes.ofText s) ++ [Ascii.quote] ++ rest)) = _
  rw [takeValue_cons (by decide), if_pos rfl, List.append_assoc]
  show (takeContent [] (escape (Bytes.ofText s) ++ Ascii.quote :: rest)).map _ = _
  rw [hcontent]
  rfl

/-! ## §3. Arrays. -/

section Arrays

variable {depth : Nat}

theorem takeItems_last {fuel nesting : Nat} {bs rest : Bytes} {v : Surface} (acc : List Surface)
    (h : takeValue fuel nesting bs = some (v, Ascii.closeBracket :: rest)) :
    takeItems (fuel + 1) nesting acc bs = some (array (v :: acc).reverse, rest) := by
  rw [takeItems.eq_def]
  simp only [h]
  rfl

theorem takeItems_next {fuel nesting : Nat} {bs rest : Bytes} {v : Surface} (acc : List Surface)
    (h : takeValue fuel nesting bs = some (v, Ascii.comma :: rest)) :
    takeItems (fuel + 1) nesting acc bs = takeItems fuel nesting (v :: acc) rest := by
  rw [takeItems.eq_def]
  simp only [h]
  rfl

/-- The items of an array are read one after the other, up to its end. -/
theorem takeItems_commaJoin (items : List (Bytes × Surface)) (hne : items ≠ [])
    (hitems : ∀ x ∈ items, Reads x.1 x.2 depth) :
    ∀ (acc : List Surface) (fuel nesting : Nat) (rest : Bytes),
      2 * (commaJoin (items.map (·.1))).length + 1 ≤ fuel → depth ≤ nesting →
      takeItems fuel nesting acc (commaJoin (items.map (·.1)) ++ Ascii.closeBracket :: rest)
        = some (array (acc.reverse ++ items.map (·.2)), rest) := by
  induction items with
  | nil => exact absurd rfl hne
  | cons x items ih =>
    intro acc fuel nesting rest hfuel hdepth
    have hx := hitems x List.mem_cons_self
    have hpos := hx.length_pos
    obtain ⟨fuel, rfl⟩ : ∃ k, fuel = k + 1 := ⟨fuel - 1, by omega⟩
    cases items with
    | nil =>
      have hfuel' : 2 * x.1.length + 1 ≤ fuel + 1 := hfuel
      have htake := hx.take fuel nesting (Ascii.closeBracket :: rest) (by omega) hdepth
        (endsNumber_cons (by simp) rest)
      show takeItems (fuel + 1) nesting acc (x.1 ++ Ascii.closeBracket :: rest) = _
      rw [takeItems_last acc htake]
      simp
    | cons y items =>
      have hfuel' : 2 * (x.1 ++ Ascii.comma :: commaJoin ((y :: items).map (·.1))).length + 1 ≤ fuel + 1 := hfuel
      rw [List.length_append, List.length_cons] at hfuel'
      have htake := hx.take fuel nesting
        (Ascii.comma :: (commaJoin ((y :: items).map (·.1)) ++ Ascii.closeBracket :: rest)) (by omega) hdepth
        (endsNumber_cons (by simp) _)
      have hrest := ih (by simp) (fun z hz => hitems z (List.mem_cons_of_mem x hz)) (x.2 :: acc) fuel nesting
        rest (by omega) hdepth
      show takeItems (fuel + 1) nesting acc
        ((x.1 ++ Ascii.comma :: commaJoin ((y :: items).map (·.1))) ++ Ascii.closeBracket :: rest) = _
      rw [List.append_assoc, List.cons_append, takeItems_next acc htake, hrest]
      simp

/-- What is said of all bytes of some texts holds for them joined. -/
theorem forall_mem_commaJoin {texts : List Bytes} (h : ∀ t ∈ texts, ∀ b ∈ t, 0x20 ≤ b) :
    ∀ b ∈ commaJoin texts, 0x20 ≤ b := by
  induction texts with
  | nil => simp [commaJoin]
  | cons t texts ih =>
    have ht := h t List.mem_cons_self
    cases texts with
    | nil => exact ht
    | cons u texts =>
      intro b hb
      rcases List.mem_append.1 (show b ∈ t ++ Ascii.comma :: commaJoin (u :: texts) from hb) with hb | hb
      · exact ht b hb
      · rcases List.mem_cons.1 hb with rfl | hb
        · decide
        · exact ih (fun t' ht' => h t' (List.mem_cons_of_mem t ht')) b hb

/-- An array is read from its items. -/
theorem reads_array {items : List (Bytes × Surface)} (hitems : ∀ x ∈ items, Reads x.1 x.2 depth) :
    Reads (renderArray (items.map (·.1))) (array (items.map (·.2))) (depth + 1) := by
  refine ⟨⟨Ascii.openBracket, _, rfl, by decide, by decide⟩, ?_, ?_⟩
  · intro b hb
    rcases List.mem_append.1 hb with hb | hb
    · rcases List.mem_cons.1 hb with rfl | hb
      · decide
      · refine forall_mem_commaJoin ?_ b hb
        intro t ht
        obtain ⟨x, hx, rfl⟩ := List.mem_map.1 ht
        exact (hitems x hx).visible
    · rw [List.mem_singleton.1 hb]
      decide
  · intro fuel nesting rest hfuel hnesting _
    rw [renderArray, List.length_append, List.length_cons] at hfuel
    obtain ⟨fuel, rfl⟩ : ∃ k, fuel = k + 1 := ⟨fuel - 1, by omega⟩
    obtain ⟨nesting, rfl⟩ : ∃ k, nesting = k + 1 := ⟨nesting - 1, by omega⟩
    have htext : renderArray (items.map (·.1)) ++ rest
        = Ascii.openBracket :: (commaJoin (items.map (·.1)) ++ Ascii.closeBracket :: rest) := by
      simp [renderArray]
    rw [htext, takeValue_cons (by decide), if_neg (by decide), if_pos rfl]
    cases items with
    | nil => rfl
    | cons x items =>
      -- the first token is an item's and does not end the array
      obtain ⟨b, tail, hb, hblank, hclose⟩ := (hitems x List.mem_cons_self).start
      have hstart : ∃ tail', commaJoin ((x :: items).map (·.1)) ++ Ascii.closeBracket :: rest = b :: tail' := by
        cases items with
        | nil => exact ⟨_, by simp [commaJoin, hb]; rfl⟩
        | cons y items => exact ⟨_, by simp [commaJoin, hb]; rfl⟩
      obtain ⟨tail', htail'⟩ := hstart
      have hall := takeItems_commaJoin (x :: items) (by simp) hitems [] fuel nesting rest
        (by simp at hfuel ⊢; omega) (by omega)
      simp only [htail', skipBlank_cons hblank] at hall ⊢
      split
      · rename_i heq
        exact absurd (List.cons.inj heq).1 hclose
      · exact hall

end Arrays

/-! ## §4. Objects. -/

section Objects

variable {depth : Nat}

/-- A member of an object as it is written. -/
def memberText (m : String × Bytes) : Bytes := renderString m.1 ++ Ascii.colon :: m.2

theorem renderObject_eq (members : List (String × Bytes)) :
    renderObject members = Ascii.openBrace :: commaJoin (members.map memberText) ++ [Ascii.closeBrace] := rfl

/-- A name is read up to its colon. -/
theorem takeName?_render (name : String) (rest : Bytes) :
    takeName? (renderString name ++ Ascii.colon :: rest) = some (escape (Bytes.ofText name), rest) := by
  have hcontent := takeContent_escape (Bytes.ofText name) [] (Ascii.colon :: rest)
  have htext : renderString name ++ Ascii.colon :: rest
      = Ascii.quote :: (escape (Bytes.ofText name) ++ Ascii.quote :: Ascii.colon :: rest) := by
    simp [renderString, escape]
  rw [htext]
  show (takeContent [] (escape (Bytes.ofText name) ++ Ascii.quote :: Ascii.colon :: rest) >>= _) = _
  rw [hcontent]
  rfl

theorem takeMembers_last {fuel nesting : Nat} {bs bs' rest name : Bytes} {v : Surface}
    (acc : List (Bytes × Surface)) (hname : takeName? bs = some (name, bs'))
    (h : takeValue fuel nesting bs' = some (v, Ascii.closeBrace :: rest)) :
    takeMembers (fuel + 1) nesting acc bs = some (object ((name, v) :: acc).reverse, rest) := by
  rw [takeMembers.eq_def]
  simp only [hname, h]
  rfl

theorem takeMembers_next {fuel nesting : Nat} {bs bs' rest name : Bytes} {v : Surface}
    (acc : List (Bytes × Surface)) (hname : takeName? bs = some (name, bs'))
    (h : takeValue fuel nesting bs' = some (v, Ascii.comma :: rest)) :
    takeMembers (fuel + 1) nesting acc bs = takeMembers fuel nesting ((name, v) :: acc) rest := by
  rw [takeMembers.eq_def]
  simp only [hname, h]
  rfl

/-- The members of an object are read one after the other, up to its end. -/
theorem takeMembers_commaJoin (members : List (String × Bytes × Surface)) (hne : members ≠ [])
    (hmembers : ∀ m ∈ members, Reads m.2.1 m.2.2 depth) :
    ∀ (acc : List (Bytes × Surface)) (fuel nesting : Nat) (rest : Bytes),
      2 * (commaJoin (members.map fun m => memberText (m.1, m.2.1))).length + 1 ≤ fuel → depth ≤ nesting →
      takeMembers fuel nesting acc
          (commaJoin (members.map fun m => memberText (m.1, m.2.1)) ++ Ascii.closeBrace :: rest)
        = some (object (acc.reverse ++ members.map fun m => (escape (Bytes.ofText m.1), m.2.2)), rest) := by
  induction members with
  | nil => exact absurd rfl hne
  | cons m members ih =>
    intro acc fuel nesting rest hfuel hdepth
    have hm := hmembers m List.mem_cons_self
    obtain ⟨fuel, rfl⟩ : ∃ k, fuel = k + 1 := ⟨fuel - 1, by omega⟩
    cases members with
    | nil =>
      have hfuel' : 2 * (renderString m.1 ++ Ascii.colon :: m.2.1).length + 1 ≤ fuel + 1 := hfuel
      rw [List.length_append, List.length_cons] at hfuel'
      have htake := hm.take fuel nesting (Ascii.closeBrace :: rest) (by omega) hdepth
        (endsNumber_cons (by simp) rest)
      show takeMembers (fuel + 1) nesting acc
        ((renderString m.1 ++ Ascii.colon :: m.2.1) ++ Ascii.closeBrace :: rest) = _
      rw [List.append_assoc, List.cons_append, takeMembers_last acc (takeName?_render m.1 _) htake]
      simp
    | cons m' members =>
      have hfuel' : 2 * ((renderString m.1 ++ Ascii.colon :: m.2.1)
          ++ Ascii.comma :: commaJoin ((m' :: members).map fun m => memberText (m.1, m.2.1))).length + 1
          ≤ fuel + 1 := hfuel
      rw [List.length_append, List.length_append, List.length_cons, List.length_cons] at hfuel'
      have htake := hm.take fuel nesting (Ascii.comma ::
        (commaJoin ((m' :: members).map fun m => memberText (m.1, m.2.1)) ++ Ascii.closeBrace :: rest))
        (by omega) hdepth (endsNumber_cons (by simp) _)
      have hrest := ih (by simp) (fun z hz => hmembers z (List.mem_cons_of_mem m hz))
        ((escape (Bytes.ofText m.1), m.2.2) :: acc) fuel nesting rest (by omega) hdepth
      show takeMembers (fuel + 1) nesting acc
        (((renderString m.1 ++ Ascii.colon :: m.2.1)
          ++ Ascii.comma :: commaJoin ((m' :: members).map fun m => memberText (m.1, m.2.1)))
          ++ Ascii.closeBrace :: rest) = _
      rw [List.append_assoc, List.append_assoc, List.cons_append, List.cons_append,
        takeMembers_next acc (takeName?_render m.1 _) htake, hrest]
      simp

/-- An object is read from its members. -/
theorem reads_object (members : List (String × Bytes × Surface))
    (hmembers : ∀ m ∈ members, Reads m.2.1 m.2.2 depth) :
    Reads (renderObject (members.map fun m => (m.1, m.2.1)))
      (object (members.map fun m => (escape (Bytes.ofText m.1), m.2.2))) (depth + 1) := by
  rw [renderObject_eq, List.map_map]
  refine ⟨⟨Ascii.openBrace, _, rfl, by decide, by decide⟩, ?_, ?_⟩
  · intro b hb
    rcases List.mem_append.1 hb with hb | hb
    · rcases List.mem_cons.1 hb with rfl | hb
      · decide
      · refine forall_mem_commaJoin ?_ b hb
        intro t ht b hb
        obtain ⟨m, hm, rfl⟩ := List.mem_map.1 ht
        rcases List.mem_append.1 (show b ∈ renderString m.1 ++ Ascii.colon :: m.2.1 from hb) with hb | hb
        · exact le_of_mem_renderString m.1 b hb
        · rcases List.mem_cons.1 hb with rfl | hb
          · decide
          · exact (hmembers m hm).visible b hb
    · rw [List.mem_singleton.1 hb]
      decide
  · intro fuel nesting rest hfuel hnesting _
    rw [List.length_append, List.length_cons] at hfuel
    obtain ⟨fuel, rfl⟩ : ∃ k, fuel = k + 1 := ⟨fuel - 1, by omega⟩
    obtain ⟨nesting, rfl⟩ : ∃ k, nesting = k + 1 := ⟨nesting - 1, by omega⟩
    have htext : Ascii.openBrace :: commaJoin (members.map (memberText ∘ fun m => (m.1, m.2.1)))
          ++ [Ascii.closeBrace] ++ rest
        = Ascii.openBrace :: (commaJoin (members.map fun m => memberText (m.1, m.2.1))
          ++ Ascii.closeBrace :: rest) := by
      simp [Function.comp_def]
    rw [htext, takeValue_cons (by decide), if_neg (by decide), if_neg (by decide), if_pos rfl]
    cases members with
    | nil => rfl
    | cons m members =>
      -- the first token is the quote of a name
      have hstart : ∃ tail, commaJoin ((m :: members).map fun m => memberText (m.1, m.2.1))
          ++ Ascii.closeBrace :: rest = Ascii.quote :: tail := by
        cases members with
        | nil => exact ⟨_, rfl⟩
        | cons m' members => exact ⟨_, rfl⟩
      obtain ⟨tail, htail⟩ := hstart
      have hall := takeMembers_commaJoin (m :: members) (by simp) hmembers [] fuel nesting rest
        (by simp [Function.comp_def] at hfuel ⊢; omega) (by omega)
      rw [htail] at hall ⊢
      exact hall

end Objects

end CallGateway.Json
