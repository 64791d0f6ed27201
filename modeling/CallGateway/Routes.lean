/-
  CallGateway.Routes
  ──────────────────
  **WHICH SERVICE ANSWERS A METHOD.**

  Services register their methods under full names.  The table holds one
  route for each name, the one that was registered last.
-/
import CallGateway.Service

namespace CallGateway

/-- Where a method leads. -/
structure Route where
  kind : MethodKind
  service : Service

/-- The registered methods under their full names. -/
abbrev Routes := Dict Route

namespace Routes

/-- The full name of a service's method. -/
def fullName (service method : String) : String := "/" ++ service ++ "/" ++ method

/-- Register the methods of a service; a method that was there is replaced. -/
def register (r : Routes) (s : Service) : Routes :=
  s.methods.foldl (fun r m => Dict.insert r (fullName s.name m.1) ⟨m.2, s⟩) r

/-- The route of a method. -/
def resolve? (r : Routes) (method : String) : Option Route := Dict.get? r method

/-- A method is registered. -/
def contains (r : Routes) (method : String) : Bool := (r.resolve? method).isSome

/-- The registered methods in order. -/
def methods (r : Routes) : List String := Dict.keys r

end Routes

end CallGateway
