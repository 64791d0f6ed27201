/-
  CallGateway.Yaml.Token
  ──────────────────────
  **THE TOKENS OF A YAML TEXT.**

  Indentation has become tokens: a block collection has a token where it
  begins and one where it ends, and a key is announced by a token in front
  of it, however it was recognised.
-/
import CallGateway.Bytes

namespace CallGateway.Yaml

/-- What a node is tagged with.  A tag is made of bytes: what is written in
it with percent signs need not be the encoding of a text. -/
abbrev Tag := Bytes

/-- How a scalar is written. -/
inductive Style where
  | plain
  | singleQuoted
  | doubleQuoted
  -- As an indented block whose line breaks are kept.
  | literal
  -- As an indented block whose line breaks are folded.
  | folded
  deriving DecidableEq, Repr

/-- A token of a YAML text. -/
inductive Token where
  | versionDirective (major minor : Nat)
  -- The directive that gives a tag handle its meaning.
  | tagDirective (handle : String) (tagStart : Tag)
  | documentStart
  | documentEnd
  | blockSequenceStart
  | blockMappingStart
  | blockEnd
  | flowSequenceStart
  | flowSequenceEnd
  | flowMappingStart
  | flowMappingEnd
  -- The hyphen of a block sequence's entry.
  | blockEntry
  -- The comma between entries of a flow collection.
  | flowEntry
  | key
  | value
  -- A node that was given a name before.
  | alias (name : String)
  -- The name of the node that follows.
  | anchor (name : String)
  -- The tag of the node that follows.
  | tag (handle : String) (suffix : Tag)
  | scalar (text : String) (style : Style)
  deriving DecidableEq, Repr

end CallGateway.Yaml
