/-
  CallGateway.Proofs.Text.Utf8
  ────────────────────────────
  **WHERE A CHARACTER BEGINS AND ENDS AMONG BYTES.**

  The encoding of a text is that of its characters in a row.  A character's
  bytes are read back from their front whatever follows
  (`encodeChar_append_inj`), and only the first of them can begin a
  character, so a cut in the bytes of a text falls between two characters
  or leaves bytes none of which begins one (`encode_cut`).  Bytes below 128
  stand for one character each, and for nothing else.
-/
import CallGateway.Bytes

namespace CallGateway

namespace Utf8

/-! ## §1. Characters in a row. -/

/-- The bytes of some characters in a row. -/
def encode (cs : List Char) : Bytes := cs.flatMap String.utf8EncodeChar

@[simp] theorem encode_nil : encode [] = [] := rfl

@[simp] theorem encode_cons (c : Char) (cs : List Char) :
    encode (c :: cs) = String.utf8EncodeChar c ++ encode cs := rfl

@[simp] theorem encode_append (cs ds : List Char) : encode (cs ++ ds) = encode cs ++ encode ds := by
  simp [encode]

/-- A text is encoded character by character. -/
theorem ofText_eq (s : String) : Bytes.ofText s = encode s.toList := by
  have h : s.toByteArray = (encode s.toList).toByteArray := by
    have henc : (encode s.toList).toByteArray = s.toList.utf8Encode := by
      simp [encode, List.utf8Encode]
    rw [henc, String.utf8Encode_toList]
  rw [Bytes.ofText, h, List.data_toByteArray]

theorem ofText_ofList (cs : List Char) : Bytes.ofText (String.ofList cs) = encode cs := by
  rw [ofText_eq, String.toList_ofList]

/-- The character at the front can be told whatever follows it. -/
theorem encodeChar_append_inj {c d : Char} {x y : Bytes}
    (h : String.utf8EncodeChar c ++ x = String.utf8EncodeChar d ++ y) : c = d ∧ x = y := by
  have hcd : c = d := by
    have h' := congrArg (fun bs => bs.toByteArray.utf8DecodeChar? 0) h
    simpa [List.toByteArray_append, ByteArray.utf8DecodeChar?_utf8EncodeChar_append] using h'
  subst hcd
  exact ⟨rfl, List.append_cancel_left h⟩

/-! ## §2. Bytes that begin no character. -/

/-- None of these bytes begins a character. -/
def Inner (bs : Bytes) : Prop := ∀ b ∈ bs, ¬b.IsUTF8FirstByte

theorem inner_nil : Inner [] := by simp [Inner]

/-- The bytes of a character after the first one begin no character. -/
theorem inner_drop (c : Char) {n : Nat} (hn : 0 < n) :
    Inner ((String.utf8EncodeChar c).drop n) := by
  intro b hb
  obtain ⟨i, hi, rfl⟩ := List.mem_iff_getElem.1 hb
  rw [List.getElem_drop, UInt8.isUTF8FirstByte_getElem_utf8EncodeChar]
  omega

/-- The first byte of a character begins one. -/
theorem encodeChar_eq_cons (c : Char) :
    ∃ b bs, String.utf8EncodeChar c = b :: bs ∧ b.IsUTF8FirstByte := by
  cases h : String.utf8EncodeChar c with
  | nil => exact absurd h String.utf8EncodeChar_ne_nil
  | cons b bs =>
    refine ⟨b, bs, rfl, ?_⟩
    have hfirst := UInt8.isUTF8FirstByte_getElem_zero_utf8EncodeChar (c := c)
    simpa [h] using hfirst

/-- A cut in the bytes of a text falls between two characters, or within
one. -/
theorem encode_cut {cs : List Char} {front back : Bytes} (h : encode cs = front ++ back) :
    (∃ as bs, cs = as ++ bs ∧ back = encode bs)
      ∨ ∃ as c bs tail, cs = as ++ c :: bs ∧ back = tail ++ encode bs ∧ tail ≠ [] ∧ Inner tail := by
  induction cs generalizing front with
  | nil =>
    obtain ⟨-, rfl⟩ := List.append_eq_nil_iff.1 h.symm
    exact .inl ⟨[], [], rfl, rfl⟩
  | cons c cs ih =>
    rcases front.eq_nil_or_concat with rfl | hfront
    · exact .inl ⟨[], c :: cs, rfl, h.symm⟩
    · have hpos : 0 < front.length := by
        obtain ⟨_, _, rfl⟩ := hfront
        simp
      rw [encode_cons] at h
      by_cases hlen : front.length < (String.utf8EncodeChar c).length
      · -- the cut is within the first character
        refine .inr ⟨[], c, cs, (String.utf8EncodeChar c).drop front.length, rfl, ?_, ?_,
          inner_drop c hpos⟩
        · have hdrop := congrArg (List.drop front.length) h
          rw [List.drop_left, List.drop_append_of_le_length (Nat.le_of_lt hlen)] at hdrop
          exact hdrop.symm
        · simpa using hlen
      · have hdrop := congrArg (List.drop (String.utf8EncodeChar c).length) h
        rw [List.drop_left, List.drop_append_of_le_length (by omega)] at hdrop
        rcases ih hdrop with ⟨as, bs, rfl, hback⟩ | ⟨as, d, bs, tail, rfl, hback⟩
        · exact .inl ⟨c :: as, bs, rfl, hback⟩
        · exact .inr ⟨c :: as, d, bs, tail, rfl, hback⟩

/-! ## §3. Characters below 128. -/

/-- A character below 128 is a single byte. -/
theorem encodeChar_of_lt {c : Char} (h : c.val < 0x80) :
    String.utf8EncodeChar c = [Ascii.code c] := by
  refine String.utf8EncodeChar_eq_singleton (Char.utf8Size_eq_one_iff.2 ?_)
  rw [UInt32.lt_iff_toNat_lt] at h
  rw [UInt32.le_iff_toNat_le]
  exact Nat.le_of_lt_succ h

private theorem not_or_lt (x y : UInt8) (hy : 0x80 ≤ y) : ¬(x ||| y) < 0x80 := by
  rw [UInt8.le_iff_toNat_le] at hy
  rw [UInt8.lt_iff_toNat_lt, UInt8.toNat_or]
  have hle : y.toNat ≤ x.toNat ||| y.toNat := Nat.right_le_or
  exact Nat.not_lt.2 (Nat.le_trans hy hle)

/-- A byte below 128 is a character of its own. -/
theorem eq_of_mem_encodeChar {c : Char} {b : UInt8} (hb : b ∈ String.utf8EncodeChar c)
    (hlt : b < 0x80) : c.val < 0x80 ∧ b = Ascii.code c := by
  rcases c.utf8Size_eq with hc | hc | hc | hc
  · refine ⟨?_, ?_⟩
    · have h := Char.utf8Size_eq_one_iff.1 hc
      rw [UInt32.le_iff_toNat_le] at h
      rw [UInt32.lt_iff_toNat_lt]
      exact Nat.lt_succ_of_le h
    · rw [String.utf8EncodeChar_eq_singleton hc] at hb
      simpa [Ascii.code] using hb
  · rw [String.utf8EncodeChar_eq_cons_cons hc] at hb
    simp only [List.mem_cons, List.not_mem_nil, or_false] at hb
    rcases hb with rfl | rfl <;> exact absurd hlt (not_or_lt _ _ (by decide))
  · rw [String.utf8EncodeChar_eq_cons_cons_cons hc] at hb
    simp only [List.mem_cons, List.not_mem_nil, or_false] at hb
    rcases hb with rfl | rfl | rfl <;> exact absurd hlt (not_or_lt _ _ (by decide))
  · rw [String.utf8EncodeChar_eq_cons_cons_cons_cons hc] at hb
    simp only [List.mem_cons, List.not_mem_nil, or_false] at hb
    rcases hb with rfl | rfl | rfl | rfl <;> exact absurd hlt (not_or_lt _ _ (by decide))

/-- Characters below 128 have different bytes. -/
theorem code_inj {c d : Char} (hc : c.val < 0x80) (hd : d.val < 0x80)
    (h : Ascii.code c = Ascii.code d) : c = d := by
  have hn := congrArg UInt8.toNat h
  simp only [Ascii.code, UInt32.toNat_toUInt8] at hn
  rw [UInt32.lt_iff_toNat_lt] at hc hd
  simp only [UInt32.reduceToNat] at hc hd
  refine Char.ext (UInt32.toNat_inj.1 ?_)
  omega

/-- A byte below 128 occurs in the bytes of a text just where its character
occurs in the text. -/
theorem code_mem_encode {c : Char} (hc : c.val < 0x80) {cs : List Char} :
    Ascii.code c ∈ encode cs ↔ c ∈ cs := by
  have hcode : Ascii.code c < 0x80 := by
    rw [UInt32.lt_iff_toNat_lt] at hc
    rw [UInt8.lt_iff_toNat_lt, Ascii.code, UInt32.toNat_toUInt8]
    simp only [UInt32.reduceToNat] at hc
    simp only [UInt8.reduceToNat]
    omega
  constructor
  · intro h
    obtain ⟨d, hd, hmem⟩ := List.mem_flatMap.1 h
    have ⟨hdlt, heq⟩ := eq_of_mem_encodeChar hmem hcode
    rwa [code_inj hc hdlt heq]
  · intro h
    refine List.mem_flatMap.2 ⟨c, h, ?_⟩
    rw [encodeChar_of_lt hc]
    exact List.mem_singleton_self _

/-- Bytes below 128 are the bytes of a text. -/
theorem exists_ofText_eq {bs : Bytes} (h : ∀ b ∈ bs, b < 0x80) : ∃ s, Bytes.ofText s = bs := by
  suffices hchars : ∃ cs, encode cs = bs by
    obtain ⟨cs, rfl⟩ := hchars
    exact ⟨String.ofList cs, ofText_ofList cs⟩
  induction bs with
  | nil => exact ⟨[], rfl⟩
  | cons b bs ih =>
    obtain ⟨cs, hcs⟩ := ih fun x hx => h x (List.mem_cons_of_mem b hx)
    have hb : b.toNat < 0x80 := UInt8.lt_iff_toNat_lt.1 (h b List.mem_cons_self)
    have hlt : (Char.ofUInt8 b).val < 0x80 := by
      rw [UInt32.lt_iff_toNat_lt]
      show b.toUInt32.toNat < _
      rw [UInt8.toNat_toUInt32]
      exact hb
    refine ⟨Char.ofUInt8 b :: cs, ?_⟩
    rw [encode_cons, encodeChar_of_lt hlt, hcs, List.singleton_append]
    show b.toUInt32.toUInt8 :: bs = b :: bs
    rw [UInt8.toUInt8_toUInt32]

end Utf8

end CallGateway
