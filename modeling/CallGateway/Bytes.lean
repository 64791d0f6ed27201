/-
  CallGateway.Bytes
  ─────────────────
  **BYTES AND TEXT.**

  What travels over a connection is a list of bytes.  Text enters as its
  UTF-8 encoding and is read back only from well-formed UTF-8.
-/

namespace CallGateway

/-- A run of bytes as it travels over a connection. -/
abbrev Bytes := List UInt8

namespace Bytes

/-- The UTF-8 encoding of a text. -/
def ofText (s : String) : Bytes := s.toByteArray.data.toList

/-- The text that these bytes encode, if they are well-formed UTF-8. -/
def toText? (bs : Bytes) : Option String := String.fromUTF8? ⟨bs.toArray⟩

/-- Encoding loses nothing. -/
@[simp] theorem toText?_ofText (s : String) : toText? (ofText s) = some s := by
  have h : (⟨(ofText s).toArray⟩ : ByteArray) = s.toByteArray := by simp [ofText]
  unfold toText? String.fromUTF8?
  simp [h, s.isValidUTF8, String.fromUTF8]

/-- Different texts have different encodings. -/
theorem ofText_inj {s t : String} (h : ofText s = ofText t) : s = t := by
  have := congrArg toText? h
  simpa using this

end Bytes

/-! ## Names of the ASCII bytes that the formats give a meaning. -/

namespace Ascii

/-- The byte of a character below 128. -/
def code (c : Char) : UInt8 := c.val.toUInt8

@[match_pattern] abbrev tab : UInt8 := 0x09
@[match_pattern] abbrev newline : UInt8 := 0x0a
@[match_pattern] abbrev formFeed : UInt8 := 0x0c
@[match_pattern] abbrev carriageReturn : UInt8 := 0x0d
@[match_pattern] abbrev space : UInt8 := 0x20
@[match_pattern] abbrev quote : UInt8 := 0x22
@[match_pattern] abbrev star : UInt8 := 0x2a
@[match_pattern] abbrev plus : UInt8 := 0x2b
@[match_pattern] abbrev comma : UInt8 := 0x2c
@[match_pattern] abbrev minus : UInt8 := 0x2d
@[match_pattern] abbrev dot : UInt8 := 0x2e
@[match_pattern] abbrev zero : UInt8 := 0x30
@[match_pattern] abbrev colon : UInt8 := 0x3a
@[match_pattern] abbrev openBracket : UInt8 := 0x5b
@[match_pattern] abbrev backslash : UInt8 := 0x5c
@[match_pattern] abbrev closeBracket : UInt8 := 0x5d
@[match_pattern] abbrev openBrace : UInt8 := 0x7b
@[match_pattern] abbrev closeBrace : UInt8 := 0x7d

/-- A decimal digit. -/
def isDigit (b : UInt8) : Bool := zero ≤ b && b ≤ 0x39

/-- The value of a decimal digit. -/
def digit (b : UInt8) : Nat := (b - zero).toNat

end Ascii

end CallGateway
