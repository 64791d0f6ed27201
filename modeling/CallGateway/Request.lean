/-
  CallGateway.Request
  ───────────────────
  **REQUESTS.**

  A request has a verb, a target, headers and a body.  Its path is the
  target without host and query.  Of several headers under one name the
  first counts, and the case of a name does not matter.
-/
import CallGateway.Bytes
import CallGateway.Net.SocketAddress

namespace CallGateway

/-! ## §1. Headers. -/

/-- Headers of a request in their order. -/
abbrev Headers := List (String × Bytes)

namespace Headers

/-- The name of a header in lower case, by which headers are compared. -/
def fold (name : String) : String := String.ofList (name.toList.map Char.toLower)

/-- The first value under a name. -/
def first? (hs : Headers) (name : String) : Option Bytes :=
  (hs.find? fun h => fold h.1 = name).map (·.2)

/-- A byte that a value may hold to be read as text. -/
def isTextByte (b : UInt8) : Bool := b == Ascii.tab || (0x20 ≤ b && b < 0x7f)

/-- The text of a value. -/
def valueText? (value : Bytes) : Option String :=
  if value.all isTextByte then Bytes.toText? value else none

end Headers

/-! ## §2. Requests. -/

/-- A request. -/
structure Request where
  verb : String
  /-- The target: a path, or an address with host and path; a query may
  follow. -/
  target : String
  headers : Headers := []
  body : Bytes := []
  -- The address that the request comes from.
  peer : Option SocketAddress := none

namespace Request

/-- The text from the first place on where a given one stands, without it. -/
def afterText? (sep : List Char) : List Char → Option (List Char)
  | [] => if sep = [] then some [] else none
  | c :: cs => if sep.isPrefixOf (c :: cs) then some ((c :: cs).drop sep.length) else afterText? sep cs

/-- The path of a target, without host and query. -/
def pathOf (target : String) : String :=
  let bare := target.toList.takeWhile fun c => c ≠ '?' && c ≠ '#'
  let path := match bare with
    | '/' :: _ => bare
    | _ => match afterText? "://".toList bare with
      | some rest => rest.dropWhile (· ≠ '/')
      | none => bare
  if path = [] then "/" else String.ofList path

/-- The path of a request. -/
def path (r : Request) : String := pathOf r.target

end Request

end CallGateway
