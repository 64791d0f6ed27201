/-
  CallGateway.Yaml.Node
  ─────────────────────
  **WHAT A YAML DOCUMENT HOLDS.**

  A node is a scalar, a sequence, a mapping or an alias.  A place where a
  node could stand and none does holds the empty plain scalar.  An alias
  says the number of the node that it stands for; which node has a number
  is settled only by the whole document.
-/
import CallGateway.Yaml.Token

namespace CallGateway.Yaml

/-- A node of a document. -/
inductive Node where
  -- A text, how it was written, and its full tag if it has one.
  | scalar (text : String) (style : Style) (tag : Option Tag)
  | sequence (items : List Node)
  -- Keys with their values as they stand, repeated keys included.
  | mapping (entries : List (Node × Node))
  | alias (number : Nat)
  deriving Inhabited

namespace Node

/-- What stands where no node was written. -/
def absent : Node := .scalar "" .plain none

mutual

/-- How many parts a node has: a scalar and an alias are one part, and a
collection has a beginning and an end beside what it holds. -/
def parts : Node → Nat
  | .scalar _ _ _ => 1
  | .sequence items => partsOfItems items + 2
  | .mapping entries => partsOfEntries entries + 2
  | .alias _ => 1

/-- How many parts some items have. -/
def partsOfItems : List Node → Nat
  | [] => 0
  | n :: ns => parts n + partsOfItems ns

/-- How many parts some keys and values have. -/
def partsOfEntries : List (Node × Node) → Nat
  | [] => 0
  | (k, v) :: es => parts k + parts v + partsOfEntries es

end

end Node

end CallGateway.Yaml
