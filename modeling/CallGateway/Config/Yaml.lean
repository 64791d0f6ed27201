/-
  CallGateway.Config.Yaml
  ───────────────────────
  **CONFIGURATIONS IN YAML.**

  A configuration is a mapping that may hold no field twice and none that is
  unknown; the access table may repeat a consumer, and the last entry
  counts.  Where a mapping or a sequence is expected, nothing at all stands
  for the empty one.  A number is a plain scalar, in decimal without zeros
  in front or with `0x`, `0o` or `0b`; any scalar is a text.  Wherever a
  node is looked at, an alias may stand for it.
-/
import CallGateway.Config
import CallGateway.Yaml.Node.Parser

namespace CallGateway

namespace Yaml.Node

/-! ## §1. What a node stands for. -/

/-- Nothing is written here. -/
def isAbsent : Node → Bool
  | scalar "" .plain _ => true
  | _ => false

/-- The text of a scalar. -/
def text (n : Node) : Reading String := do
  match ← n.follow with
  | scalar text _ _ => return text
  | _ => failure

/-- The entries of a mapping under the texts of their keys. -/
def entries (n : Node) : Reading (List (String × Node)) := do
  match ← n.follow with
  | mapping entries => entries.mapM fun (k, v) => return (← k.text, v)
  | n => if n.isAbsent then return [] else failure

/-- The items of a sequence. -/
def items (n : Node) : Reading (List Node) := do
  match ← n.follow with
  | sequence items => return items
  | n => if n.isAbsent then return [] else failure

/-- The value of a digit in a base up to sixteen. -/
def digitIn? (base : Nat) (c : Char) : Option Nat := (hexDigit? c).filter (· < base)

/-- The number of one digit or more. -/
def number? (base : Nat) (cs : List Char) : Option Nat :=
  if cs = [] then none else cs.foldlM (fun n c => (digitIn? base c).map (n * base + ·)) 0

/-- The number of a text, with at most one plus in front. -/
def natText? (text : String) : Option Nat :=
  let cs := text.toList
  let cs := if cs.head? = some '+' then cs.tail else cs
  match cs with
  | '0' :: 'x' :: ds => number? 16 ds
  | '0' :: 'o' :: ds => number? 8 ds
  | '0' :: 'b' :: ds => number? 2 ds
  | '0' :: _ :: _ => none
  | ds => number? 10 ds

/-- The tag of integers. -/
def integerTag : Tag := Bytes.ofText "tag:yaml.org,2002:int"

/-- The number below a bound that a scalar stands for. -/
def nat (bound : Nat) (n : Node) : Reading Nat := do
  match ← n.follow with
  | scalar text style tag =>
    if style = .plain ∨ (style = .literal ∧ tag = some integerTag) then
      match (natText? text).filter (· < bound) with
      | some v => return v
      | none => failure
    else failure
  | _ => failure

/-! ## §2. Fields. -/

/-- The entries of a mapping in which every name is known and none is
repeated. -/
def fields (names : List String) (n : Node) : Reading (List (String × Node)) := do
  let entries ← n.entries
  let keys := entries.map (·.1)
  if keys.all names.contains && keys.eraseDups.length = keys.length then return entries else failure

/-- A field, or what it is when it is missing. -/
def field {α : Type} (fields : List (String × Node)) (name : String) (missing : Reading α)
    (read : Node → Reading α) : Reading α :=
  match fields.lookup name with
  | some n => read n
  | none => missing

end Yaml.Node

open Yaml (Reading)
open Yaml.Node (field)

/-! ## §3. The configuration. -/

namespace ServerConfig

/-- How the server is set up, as a node says it. -/
def ofNode (n : Yaml.Node) : Reading ServerConfig := do
  let fields ← n.fields ["listen", "event_buffer", "subscriber_buffer", "max_stats_interval_secs",
    "drain_timeout_ms"]
  let d : ServerConfig := {}
  let word := Yaml.Node.nat UInt64.size
  return {
    listen := ← field fields "listen" (pure d.listen) (·.text)
    eventBuffer := ← field fields "event_buffer" (pure d.eventBuffer) word
    subscriberBuffer := ← field fields "subscriber_buffer" (pure d.subscriberBuffer) word
    maxStatsIntervalSecs := ← field fields "max_stats_interval_secs" (pure d.maxStatsIntervalSecs) word
    drainTimeoutMs := ← field fields "drain_timeout_ms" (pure d.drainTimeoutMs) word }

end ServerConfig

namespace Config

/-- The access table of a node. -/
def tableOfNode (n : Yaml.Node) : Reading AccessTable := do
  let table ← (← n.entries).mapM fun (consumer, patterns) => do
    return (consumer, ← (← patterns.items).mapM (·.text))
  return (Dict.ofList table).entries

/-- The configuration of a node. -/
def ofNode (n : Yaml.Node) : Reading Config := do
  let fields ← n.fields ["version", "server", "acl"]
  return {
    version := ← field fields "version" failure (Yaml.Node.nat UInt32.size)
    server := ← field fields "server" (pure {}) ServerConfig.ofNode
    acl := ← field fields "acl" (pure []) tableOfNode }

/-- The configuration that a text holds, if it is sound. -/
def ofYaml (text : String) : Outcome Config :=
  match (Yaml.Document.ofText? text).bind (·.read? ofNode) with
  | some c => do c.validate; return c
  | none => .error (.badRequest "invalid yaml")

/-- The configuration that a file holds; `none` is a file that cannot be
read. -/
def ofFile (content : Option Bytes) : Outcome Config :=
  match content.bind Bytes.toText? with
  | some text => ofYaml text
  | none => .error (.internal "read config failed")

end Config

end CallGateway
