/-
  CallGateway.Text.Quoted
  ───────────────────────
  **TEXT IN QUOTES, FOR MESSAGES.**

  A message that quotes a text shows it between double quotes, with the
  quote, the backslash and everything that cannot be shown escaped.
-/
import CallGateway.Text.Printable

namespace CallGateway.Text

/-- The lower-case hexadecimal digits of a number. -/
def hexText (n : Nat) : String := String.ofList (Nat.toDigits 16 n)

/-- How one character stands in a quoted text. -/
def quoteChar (c : Char) : String :=
  if c = '\x00' then "\\0"
  else if c = '\t' then "\\t"
  else if c = '\r' then "\\r"
  else if c = '\n' then "\\n"
  else if c = '"' then "\\\""
  else if c = '\\' then "\\\\"
  else if isPrintable c then c.toString
  else "\\u\x7b" ++ hexText c.toNat ++ "\x7d"

/-- A text in quotes. -/
def quoted (s : String) : String := "\"" ++ String.join (s.toList.map quoteChar) ++ "\""

end CallGateway.Text
