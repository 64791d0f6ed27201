/-
  CallGateway.Yaml.Document
  ─────────────────────────
  **READING A DOCUMENT THROUGH ITS ALIASES.**

  Several nodes may have one number: of those the one that begins last
  counts, also for aliases before it.  So an alias can lead forward, or into
  a node that it is part of.  A reading follows an alias only where it comes
  upon one, and at most a hundred times for every part of the document, so
  that a short text cannot stand for a long one without limit.
-/
import CallGateway.Yaml.Node

namespace CallGateway.Yaml

/-- A whole document. -/
structure Document where
  root : Node
  -- The nodes that have a number, the one that begins last first.
  numbered : List (Nat × Node)

/-- A reading of a document; its state is how many aliases it may still
follow. -/
abbrev Reading := ReaderT Document (StateT Nat Option)

namespace Document

/-- How many aliases a reading may follow. -/
def aliasLimit (d : Document) : Nat := 100 * d.root.parts

/-- What a reading makes of a document. -/
def read? {α : Type} (d : Document) (r : Node → Reading α) : Option α :=
  ((r d.root).run d |>.run d.aliasLimit).map (·.1)

end Document

namespace Node

/-- The node that stands here, or that the alias here stands for. -/
def follow : Node → Reading Node
  | .alias number => do
    match ← get with
    | 0 => failure
    | left + 1 =>
      set left
      match (← read).numbered.lookup number with
      | some n => return n
      | none => failure
  | n => return n

end Node

end CallGateway.Yaml
