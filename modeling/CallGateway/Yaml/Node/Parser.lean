/-
  CallGateway.Yaml.Node.Parser
  ────────────────────────────
  **FROM TOKENS TO A DOCUMENT.**

  A text must hold exactly one document.  A node with a name gets a number:
  how many names are known where it begins.  A name that is given again is
  no new name, so its number can be that of another name too.
-/
import CallGateway.Dict
import CallGateway.Yaml.Document
import CallGateway.Yaml.Token.Lexer

namespace CallGateway.Yaml

/-- What is known in the middle of a document. -/
structure Parser where
  tokens : List Token
  names : Dict Nat := .empty
  /-- The nodes that have a number, the one that begins last first; what
  stands for a node that is not complete is `Node.absent`. -/
  numbered : List (Nat × Node) := []
  handles : List (String × Tag) := []

namespace Parser

/-! ## §1. Tokens ahead. -/

/-- The next token is one of these. -/
def sees (p : Parser) (ts : List Token) : Bool := (p.tokens.head?).any ts.contains

/-- The next token is one of these, or there is none. -/
def seesOrEnd (p : Parser) (ts : List Token) : Bool := (p.tokens.head?).all ts.contains

/-- Go past one token. -/
def skip (p : Parser) : Parser := { p with tokens := p.tokens.tail }

/-! ## §2. Names and tags. -/

/-- The full tag of a handle and a suffix. -/
def fullTag? (p : Parser) (handle : String) (suffix : Tag) : Option Tag :=
  if handle = "" then some suffix else (p.handles.lookup handle).map (· ++ suffix)

/-- The name and the tag in front of a node, in either order. -/
def takeProperties? (p : Parser) : Option (Option String × Option Tag × Parser) :=
  match p.tokens with
  | .anchor name :: .tag handle suffix :: _ | .tag handle suffix :: .anchor name :: _ => do
    return (some name, some (← p.fullTag? handle suffix), p.skip.skip)
  | .anchor name :: _ => some (some name, none, p.skip)
  | .tag handle suffix :: _ => do return (none, some (← p.fullTag? handle suffix), p.skip)
  | _ => some (none, none, p)

/-- Note that a node with this name begins, and give it a number. -/
def declare (name : Option String) (p : Parser) : Parser :=
  match name with
  | some name =>
    let number := p.names.entries.length
    { p with names := p.names.insert name number, numbered := (number, .absent) :: p.numbered }
  | none => p

/-- Complete the node that got its number when so many nodes had one. -/
def define (name : Option String) (earlier : Nat) (n : Node) (p : Parser) : Parser :=
  match name with
  | some _ => { p with
      numbered := p.numbered.modify (p.numbered.length - 1 - earlier) fun e => (e.1, n) }
  | none => p

/-! ## §3. Nodes. -/

mutual

/-- One node.  `block` allows a block collection, `bare` a sequence whose
hyphens are not indented. -/
def node? (block bare : Bool) : (fuel : Nat) → Parser → Option (Node × Parser)
  | 0, _ => none
  | fuel + 1, p =>
    match p.tokens with
    | .alias name :: _ => (p.names.get? name).map fun number => (.alias number, p.skip)
    | _ => do
      let earlier := p.numbered.length
      let (name, tag, p) ← p.takeProperties?
      let p := p.declare name
      let (n, p) ← content? block bare (name.isSome || tag.isSome) tag fuel p
      return (n, p.define name earlier n)

/-- A node behind its name and tag. -/
def content? (block bare proper : Bool) (tag : Option Tag) : (fuel : Nat) → Parser → Option (Node × Parser)
  | 0, _ => none
  | fuel + 1, p =>
    match p.tokens with
    | .scalar text style :: _ => some (.scalar text style tag, p.skip)
    | .flowSequenceStart :: _ => flowItems? true [] fuel p.skip
    | .flowMappingStart :: _ => flowEntries? true [] fuel p.skip
    | .blockEntry :: _ => if bare then bareItems? [] fuel p else leftOut p
    | .blockSequenceStart :: _ => if block then blockItems? [] fuel p.skip else leftOut p
    | .blockMappingStart :: _ => if block then blockEntries? [] fuel p.skip else leftOut p
    | _ => leftOut p
where
  -- Only a node with a name or a tag can be left out here.
  leftOut (p : Parser) : Option (Node × Parser) :=
    if proper then some (.scalar "" .plain tag, p) else none

/-- The items of an indented block sequence, after those in `acc`, the
latest first. -/
def blockItems? (acc : List Node) : (fuel : Nat) → Parser → Option (Node × Parser)
  | 0, _ => none
  | fuel + 1, p =>
    match p.tokens with
    | .blockEntry :: _ =>
      let p := p.skip
      if p.sees [.blockEntry, .blockEnd] then blockItems? (.absent :: acc) fuel p
      else do
        let (n, p) ← node? true false fuel p
        blockItems? (n :: acc) fuel p
    | .blockEnd :: _ => some (.sequence acc.reverse, p.skip)
    | _ => none

/-- The items of a block sequence that is not indented. -/
def bareItems? (acc : List Node) : (fuel : Nat) → Parser → Option (Node × Parser)
  | 0, _ => none
  | fuel + 1, p =>
    match p.tokens with
    | .blockEntry :: _ =>
      let p := p.skip
      if p.sees [.blockEntry, .key, .value, .blockEnd] then bareItems? (.absent :: acc) fuel p
      else do
        let (n, p) ← node? true false fuel p
        bareItems? (n :: acc) fuel p
    | _ => some (.sequence acc.reverse, p)

/-- The entries of a block mapping. -/
def blockEntries? (acc : List (Node × Node)) : (fuel : Nat) → Parser → Option (Node × Parser)
  | 0, _ => none
  | fuel + 1, p =>
    match p.tokens with
    | .key :: _ => do
      let (k, p) ← blockPart? fuel p.skip
      let (v, p) ← if p.sees [.value] then blockPart? fuel p.skip else some (.absent, p)
      blockEntries? ((k, v) :: acc) fuel p
    | .blockEnd :: _ => some (.mapping acc.reverse, p.skip)
    | _ => none

/-- A key or a value of a block mapping. -/
def blockPart? : (fuel : Nat) → Parser → Option (Node × Parser)
  | 0, _ => none
  | fuel + 1, p =>
    if p.sees [.key, .value, .blockEnd] then some (.absent, p) else node? true true fuel p

/-- The items of a sequence in brackets. -/
def flowItems? (first : Bool) (acc : List Node) : (fuel : Nat) → Parser → Option (Node × Parser)
  | 0, _ => none
  | fuel + 1, p => do
    if p.sees [.flowSequenceEnd] then return (.sequence acc.reverse, p.skip)
    let p ← if first then some p else if p.sees [.flowEntry] then some p.skip else none
    match p.tokens with
    | .flowSequenceEnd :: _ => return (.sequence acc.reverse, p.skip)
    | .key :: _ =>
      let (n, p) ← flowPair? fuel p.skip
      flowItems? false (n :: acc) fuel p
    | _ =>
      let (n, p) ← node? false false fuel p
      flowItems? false (n :: acc) fuel p

/-- An item that is a key with its value.  Where the key is left out, the
token behind it goes with it. -/
def flowPair? : (fuel : Nat) → Parser → Option (Node × Parser)
  | 0, _ => none
  | fuel + 1, p => do
    let ends : List Token := [.flowEntry, .flowSequenceEnd]
    let (k, p) ← if p.sees (.value :: ends) then some (.absent, p.skip) else node? false false fuel p
    let (v, p) ← if p.sees [.value] ∧ !p.skip.sees ends then node? false false fuel p.skip
      else some (.absent, if p.sees [.value] then p.skip else p)
    return (.mapping [(k, v)], p)

/-- The entries of a mapping in braces. -/
def flowEntries? (first : Bool) (acc : List (Node × Node)) : (fuel : Nat) → Parser → Option (Node × Parser)
  | 0, _ => none
  | fuel + 1, p => do
    if p.sees [.flowMappingEnd] then return (.mapping acc.reverse, p.skip)
    let p ← if first then some p else if p.sees [.flowEntry] then some p.skip else none
    let ends : List Token := [.flowEntry, .flowMappingEnd]
    match p.tokens with
    | .flowMappingEnd :: _ => return (.mapping acc.reverse, p.skip)
    | .key :: _ =>
      let p := p.skip
      let (k, p) ← if p.sees (.value :: ends) then some (.absent, p) else node? false false fuel p
      let (v, p) ← if p.sees [.value] ∧ !p.skip.sees ends then node? false false fuel p.skip
        else some (.absent, if p.sees [.value] then p.skip else p)
      flowEntries? false ((k, v) :: acc) fuel p
    | _ =>
      let (k, p) ← node? false false fuel p
      flowEntries? false ((k, .absent) :: acc) fuel p

end

/-! ## §4. Documents. -/

/-- What the handles stand for that need no directive. -/
def standardHandles : List (String × Tag) :=
  [("!", Bytes.ofText "!"), ("!!", Bytes.ofText "tag:yaml.org,2002:")]

/-- The directives in front of a document: at most one version, which must
be 1.1 or 1.2, and one meaning for each handle. -/
def takeDirectives? : List Token → (version : Bool) → List (String × Tag) →
    Option (List (String × Tag) × List Token)
  | .versionDirective major minor :: ts, version, handles =>
    if version ∨ major ≠ 1 ∨ (minor ≠ 1 ∧ minor ≠ 2) then none else takeDirectives? ts true handles
  | .tagDirective handle start :: ts, version, handles =>
    if (handles.lookup handle).isSome then none
    else takeDirectives? ts version (handles ++ [(handle, start)])
  | ts, _, handles => some (handles, ts)

/-- A document's tokens up to where its content begins; its start must be
marked if there are directives. -/
def enter? (tokens : List Token) : Option Parser :=
  match tokens with
  | [] => none
  | .versionDirective _ _ :: _ | .tagDirective _ _ :: _ | .documentStart :: _ => do
    match ← takeDirectives? tokens false [] with
    | (handles, .documentStart :: ts) => return { tokens := ts, handles := handles ++ standardHandles }
    | _ => none
  | _ => some { tokens, handles := standardHandles }

end Parser

/-- The document that a text holds, if it holds exactly one. -/
def Document.ofText? (text : String) : Option Document := do
  let tokens ← Token.ofText? text
  let p ← Parser.enter? tokens
  let marked := p.tokens.length < tokens.length
  let (n, p) ←
    if marked && p.seesOrEnd [.documentStart, .documentEnd] then some (.absent, p)
    else Parser.node? true false (4 * tokens.length + 4) p
  if p.tokens.all (· == .documentEnd) then return ⟨n, p.numbered⟩ else none

end CallGateway.Yaml
