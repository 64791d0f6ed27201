/-
  CallGateway.Policy.Glob
  ───────────────────────
  **WILDCARDS.**

  In a glob a star stands for any run of bytes, the empty one included, and
  every other byte for itself.  The matcher walks through glob and text side
  by side and remembers only the latest star: where the walk cannot go on,
  that star takes one byte more and the walk starts again behind it.
-/
import CallGateway.Bytes

namespace CallGateway.Glob

/-- Walks through what is left of a glob and of a text.  `retry` holds the
glob behind the latest star and the text from where that star ends. -/
def walk (glob text : Bytes) (retry : Option (Bytes × Bytes)) : Bool :=
  match text with
  | [] => glob.all (· == Ascii.star)
  | b :: bs =>
    match glob with
    | g :: gs =>
      if g = Ascii.star then walk gs (b :: bs) (some (gs, b :: bs))
      else if g = b then walk gs bs retry
      else
        -- the latest star takes one byte more
        match retry with
        | some (behind, _ :: rest) => walk behind rest (some (behind, rest))
        | _ => false
    | [] =>
      -- the glob is used up and the text is not: the star must take more
      match retry with
      | some (behind, _ :: rest) => walk behind rest (some (behind, rest))
      | _ => false
termination_by (max (retry.elim 0 (·.2.length)) text.length, glob.length + text.length)
decreasing_by
  · simp only [Prod.lex_def]
    cases retry with
    | none => simp only [Option.elim, List.length_cons]; omega
    | some r => simp only [Option.elim, List.length_cons]; omega
  · simp only [Prod.lex_def]
    cases retry with
    | none => simp only [Option.elim, List.length_cons]; omega
    | some r => simp only [Option.elim, List.length_cons]; omega
  · simp only [Option.elim, List.length_cons, Prod.lex_def]
    omega
  · simp only [Option.elim, List.length_cons, Prod.lex_def]
    omega

/-- A text has the form that a glob describes. -/
def accepts (glob text : Bytes) : Bool := walk glob text none

end CallGateway.Glob
