/-
  CallGateway.MethodName
  ──────────────────────
  **NAMES OF METHODS.**

  A method has a name of the form `/service/method`: two segments, neither
  of them empty and neither with a slash inside.
-/
import CallGateway.Failure

namespace CallGateway

/-- A text up to its first slash, and what follows the slash. -/
def splitSlash? : List Char → Option (List Char × List Char)
  | [] => none
  | c :: cs => if c = '/' then some ([], cs) else (splitSlash? cs).map fun (s, rest) => (c :: s, rest)

/-- A segment of a method's name. -/
def IsSegment (s : String) : Prop := s ≠ "" ∧ '/' ∉ s.toList

/-- The name of a method. -/
structure MethodName where
  service : String
  -- The segment that names the method within its service.
  method : String
  service_segment : IsSegment service
  method_segment : IsSegment method
  deriving DecidableEq

namespace MethodName

/-- The whole name. -/
def full (n : MethodName) : String := "/" ++ n.service ++ "/" ++ n.method

/-- Why a text names no method. -/
inductive Fault where
  -- It does not begin with a slash.
  | noLeadingSlash
  -- It has fewer or more than two segments, or an empty one.
  | notTwoSegments
  deriving DecidableEq, Repr

/-- What the caller is told about a text that names no method. -/
def Fault.message (text : String) : Fault → String
  | noLeadingSlash => "method must start with '/': " ++ text
  | notTwoSegments => "method must be /service/method: " ++ text

/-- A list of characters without slash makes a segment, unless it is empty. -/
theorem isSegment_ofList {cs : List Char} (h : cs ≠ []) (hs : '/' ∉ cs) :
    IsSegment (String.ofList cs) := by
  refine ⟨fun he => h ?_, by simpa using hs⟩
  have := congrArg String.toList he
  simpa using this

/-- The part before the first slash has no slash. -/
theorem slash_not_mem_of_split {cs a b : List Char} (h : splitSlash? cs = some (a, b)) :
    '/' ∉ a := by
  induction cs generalizing a with
  | nil => simp [splitSlash?] at h
  | cons c cs ih =>
    unfold splitSlash? at h
    split at h
    · simp only [Option.some.injEq, Prod.mk.injEq] at h
      simp [← h.1]
    · rename_i hc
      obtain ⟨⟨s, r⟩, hs, he⟩ := Option.map_eq_some_iff.1 h
      simp only [Prod.mk.injEq] at he
      rw [← he.1]
      simp only [List.mem_cons, not_or]
      exact ⟨fun hh => hc hh.symm, ih (he.2 ▸ hs)⟩

/-- The method that a text names. -/
def find (text : String) : Except Fault MethodName :=
  match text.toList with
  | '/' :: rest =>
    match hs : splitSlash? rest with
    | some (s, m) =>
      if h : s ≠ [] ∧ m ≠ [] ∧ '/' ∉ m then
        .ok ⟨String.ofList s, String.ofList m, isSegment_ofList h.1 (slash_not_mem_of_split hs),
          isSegment_ofList h.2.1 h.2.2⟩
      else .error .notTwoSegments
    | none => .error .notTwoSegments
  | _ => .error .noLeadingSlash

/-- The method that a text names; anything else is a bad request. -/
def parse (text : String) : Outcome MethodName :=
  (find text).mapError fun fault => .badRequest (fault.message text)

/-- The method of two segments. -/
def ofParts (service method : String) : Outcome MethodName := parse ("/" ++ service ++ "/" ++ method)

end MethodName

end CallGateway
