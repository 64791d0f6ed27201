/-
  CallGateway.Line
  ────────────────
  **ONE MESSAGE PER LINE.**

  A stream is a sequence of lines, each of them one message and the newline
  that ends it.  `LineBuffer` puts the lines together again from the pieces
  in which they arrive.
-/
import CallGateway.Message

namespace CallGateway

/-! ## §1. Lines. -/

/-- A message as a line of a stream. -/
def encodeLine {α : Type} [Wire α] (m : α) : Bytes := Wire.render m ++ [Ascii.newline]

/-- A line without the newline at its end. -/
def trimNewline (line : Bytes) : Bytes :=
  if line.getLast? = some Ascii.newline then line.dropLast else line

/-- The message of a text. -/
def readMessage? (α : Type) [Wire α] (text : Bytes) : Option α :=
  (Json.Surface.read? ((Wire.nestingLimit α).getD text.length) text).bind Wire.ofSurface?

/-- The message of a line, with or without its newline. -/
def decodeLine (α : Type) [Wire α] (line : Bytes) : Outcome α :=
  match readMessage? α (trimNewline line) with
  | some m => .ok m
  | none => .error (.badRequest "invalid ndjson line")

/-! ## §2. Lines from pieces. -/

/-- The complete lines at the start of a text, newlines kept, and the rest.
The bytes of the first line that came before are given last one first; a
line that is only its newline is left out. -/
def splitLines (line : Bytes) : Bytes → List Bytes × Bytes
  | [] => ([], line.reverse)
  | b :: bs =>
    if b = Ascii.newline then
      let (lines, rest) := splitLines [] bs
      (if line = [] then lines else (b :: line).reverse :: lines, rest)
    else splitLines (b :: line) bs

/-- The bytes since the last newline, kept until their line is complete. -/
structure LineBuffer where
  remainder : Bytes := []

namespace LineBuffer

/-- Add a piece, and take out the lines that it completes. -/
def push (b : LineBuffer) (piece : Bytes) : List Bytes × LineBuffer :=
  let (lines, rest) := splitLines [] (b.remainder ++ piece)
  (lines, ⟨rest⟩)

end LineBuffer

end CallGateway
