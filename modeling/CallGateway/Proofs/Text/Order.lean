/-
  CallGateway.Proofs.Text.Order
  ─────────────────────────────
  **THE ORDER OF TEXTS IS THAT OF THEIR BYTES.**

  Texts are compared by their characters.  Whoever compares their encodings
  byte by byte finds the same order (`ofText_lt_ofText_iff`).  The bytes of a
  character are the digits of its number to the base 64, the highest first,
  each above a mark (`map_toNat_encodeChar`).  The mark of the first one
  grows with the number of digits, and the others have the same mark.
-/
import CallGateway.Proofs.Text.Utf8
import Mathlib.Algebra.GroupWithZero.Nat
import Mathlib.Tactic.SplitIfs

namespace CallGateway

namespace Utf8

/-! ## §1. The bytes of a character as numbers. -/

/-- The bytes of the character that has this number. -/
def units (n : Nat) : List Nat :=
  if n < 0x80 then [n]
  else if n < 0x800 then [0xc0 + n / 64, 0x80 + n % 64]
  else if n < 0x10000 then [0xe0 + n / 4096, 0x80 + n / 64 % 64, 0x80 + n % 64]
  else [0xf0 + n / 262144, 0x80 + n / 4096 % 64, 0x80 + n / 64 % 64, 0x80 + n % 64]

/-- The low bits of a byte above a mark. -/
theorem toNat_and_or {mask mark : UInt8} (x : UInt8) (bits lead : Nat) (hmask : mask.toNat = 2 ^ bits - 1)
    (hmark : mark.toNat = 2 ^ bits * lead) :
    (x &&& mask ||| mark).toNat = 2 ^ bits * lead + x.toNat % 2 ^ bits := by
  have hlow : x.toNat % 2 ^ bits < 2 ^ bits := Nat.mod_lt _ (Nat.two_pow_pos bits)
  rw [UInt8.toNat_or, UInt8.toNat_and, hmask, hmark, Nat.and_two_pow_sub_one_eq_mod, Nat.or_comm,
    ← Nat.two_pow_add_eq_or_of_lt hlow]

/-- A number without its last bits, as a byte. -/
theorem toNat_toUInt8_shiftRight (v : UInt32) {places : UInt32} (h : places.toNat < 32) :
    (v >>> places).toUInt8.toNat = v.toNat / 2 ^ places.toNat % 256 := by
  rw [UInt32.toNat_toUInt8, UInt32.toNat_shiftRight, Nat.mod_eq_of_lt h, Nat.shiftRight_eq_div_pow]

/-- **The bytes of a character go by its number.** -/
theorem map_toNat_encodeChar (c : Char) : (String.utf8EncodeChar c).map UInt8.toNat = units c.val.toNat := by
  have hlast : c.val.toUInt8.toNat = c.val.toNat % 256 := UInt32.toNat_toUInt8 c.val
  have hsix : (c.val >>> 6).toUInt8.toNat = c.val.toNat / 64 % 256 := toNat_toUInt8_shiftRight c.val (by decide)
  have htwelve : (c.val >>> 12).toUInt8.toNat = c.val.toNat / 4096 % 256 :=
    toNat_toUInt8_shiftRight c.val (by decide)
  have hcontinued (x : UInt8) : (x &&& 63 ||| 128).toNat = 0x80 + x.toNat % 64 := toNat_and_or x 6 2 rfl rfl
  have hsmall : c.val.toNat < 0x110000 := by
    rcases c.valid with h | h
    · exact Nat.lt_trans h (by decide)
    · exact h.2
  -- how many bytes there are tells between which bounds the number lies
  rcases c.utf8Size_eq with hsize | hsize | hsize | hsize
  · have hmost := UInt32.le_iff_toNat_le.1 (Char.utf8Size_eq_one_iff.1 hsize)
    simp only [UInt32.reduceToNat] at hmost
    rw [String.utf8EncodeChar_eq_singleton hsize, units, if_pos (by omega)]
    simp only [List.map_cons, List.map_nil, hlast, List.cons.injEq, and_true]
    omega
  · obtain ⟨hleast, hmost⟩ := Char.utf8Size_eq_two_iff.1 hsize
    rw [UInt32.lt_iff_toNat_lt] at hleast
    rw [UInt32.le_iff_toNat_le] at hmost
    simp only [UInt32.reduceToNat] at hleast hmost
    have hfirst (x : UInt8) : (x &&& 31 ||| 192).toNat = 0xc0 + x.toNat % 32 := toNat_and_or x 5 6 rfl rfl
    rw [String.utf8EncodeChar_eq_cons_cons hsize, units, if_neg (by omega), if_pos (by omega)]
    simp only [List.map_cons, List.map_nil, hfirst, hcontinued, hsix, hlast, List.cons.injEq, and_true]
    omega
  · obtain ⟨hleast, hmost⟩ := Char.utf8Size_eq_three_iff.1 hsize
    rw [UInt32.lt_iff_toNat_lt] at hleast
    rw [UInt32.le_iff_toNat_le] at hmost
    simp only [UInt32.reduceToNat] at hleast hmost
    have hfirst (x : UInt8) : (x &&& 15 ||| 224).toNat = 0xe0 + x.toNat % 16 := toNat_and_or x 4 14 rfl rfl
    rw [String.utf8EncodeChar_eq_cons_cons_cons hsize, units, if_neg (by omega), if_neg (by omega),
      if_pos (by omega)]
    simp only [List.map_cons, List.map_nil, hfirst, hcontinued, htwelve, hsix, hlast, List.cons.injEq, and_true]
    omega
  · have hleast := UInt32.lt_iff_toNat_lt.1 (Char.utf8Size_eq_four_iff.1 hsize)
    simp only [UInt32.reduceToNat] at hleast
    have hfirst (x : UInt8) : (x &&& 7 ||| 240).toNat = 0xf0 + x.toNat % 8 := toNat_and_or x 3 30 rfl rfl
    have heighteen : (c.val >>> 18).toUInt8.toNat = c.val.toNat / 262144 % 256 :=
      toNat_toUInt8_shiftRight c.val (by decide)
    rw [String.utf8EncodeChar_eq_cons_cons_cons_cons hsize, units, if_neg (by omega), if_neg (by omega),
      if_neg (by omega)]
    simp only [List.map_cons, List.map_nil, hfirst, hcontinued, heighteen, htwelve, hsix, hlast,
      List.cons.injEq, and_true]
    omega

/-! ## §2. Comparing bytes. -/

/-- The bytes of a smaller number come first, whatever follows them. -/
theorem units_append_lt {m n : Nat} (h : m < n) (x y : List Nat) : units m ++ x < units n ++ y := by
  -- where the two have as many bytes their digits decide, and the first mark otherwise
  unfold units
  split_ifs <;> simp only [List.cons_append, List.nil_append, List.cons_lt_cons_iff] <;> omega

/-- Bytes are compared as the numbers that they are. -/
theorem map_toNat_lt_iff {bs bs' : Bytes} : bs.map UInt8.toNat < bs'.map UInt8.toNat ↔ bs < bs' := by
  induction bs generalizing bs' with
  | nil => cases bs' <;> simp
  | cons b bs ih =>
    cases bs' with
    | nil => simp
    | cons b' bs' =>
      simp only [List.map_cons, List.cons_lt_cons_iff, ih, UInt8.lt_iff_toNat_lt, UInt8.toNat_inj]

/-- A smaller character is told by its bytes. -/
theorem encodeChar_append_lt {c d : Char} (h : c < d) (x y : Bytes) :
    String.utf8EncodeChar c ++ x < String.utf8EncodeChar d ++ y := by
  rw [← map_toNat_lt_iff, List.map_append, List.map_append, map_toNat_encodeChar, map_toNat_encodeChar]
  exact units_append_lt (UInt32.lt_iff_toNat_lt.1 (Char.lt_def.1 h)) _ _

theorem encode_lt_encode {cs ds : List Char} (h : cs < ds) : encode cs < encode ds := by
  induction cs generalizing ds with
  | nil =>
    cases ds with
    | nil => exact absurd h (List.lt_irrefl [])
    | cons d ds =>
      obtain ⟨b, bs, hd, -⟩ := encodeChar_eq_cons d
      rw [encode_cons, hd]
      exact List.nil_lt_cons _ _
  | cons c cs ih =>
    cases ds with
    | nil => exact absurd h (List.not_lt_nil _)
    | cons d ds =>
      rcases List.cons_lt_cons_iff.1 h with hlt | ⟨rfl, hlt⟩
      · exact encodeChar_append_lt hlt _ _
      · exact List.append_left_lt (ih hlt)

end Utf8

/-- **Texts are in the order of their bytes.** -/
theorem Bytes.ofText_lt_ofText_iff {s t : String} : ofText s < ofText t ↔ s < t := by
  have hkept {s t : String} (h : s < t) : ofText s < ofText t := by
    rw [Utf8.ofText_eq, Utf8.ofText_eq]
    exact Utf8.encode_lt_encode (String.lt_iff.1 h)
  constructor
  · intro h
    by_cases hst : s < t
    · exact hst
    · -- otherwise the bytes are the same ones, or in the opposite order
      rcases Std.le_iff_lt_or_eq.1 (Std.not_lt.1 hst) with hts | rfl
      · exact absurd h (List.lt_asymm (hkept hts))
      · exact absurd h (List.lt_irrefl _)
  · exact hkept

end CallGateway
