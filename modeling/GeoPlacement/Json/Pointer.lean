import GeoPlacement.Json.Basic

/-!
# Pointers into documents

A pointer names a part of a document by the way to it: a list of steps, each after a slash, that
are member names or positions. In a step, `~1` stands for a slash and `~0` for a tilde.
-/

namespace GeoPlacement

namespace Pointer

/-- A step with its two escapes resolved; any other tilde stands for itself. -/
def unescape : List Char → List Char
  | [] => []
  | '~' :: '1' :: rest => '/' :: unescape rest
  | '~' :: '0' :: rest => '~' :: unescape rest
  | c :: rest => c :: unescape rest

/-- A position: decimal digits without a leading zero. -/
def position? (step : List Char) : Option Nat :=
  match splitDigits step with
  | ([], _) => none
  | (d :: ds, []) => if d = 0 ∧ ds ≠ [] then none else some (natOfDigits (d :: ds))
  | (_, _ :: _) => none

/-- The part of a document at the end of one step. -/
def step? (step : List Char) : Json → Option Json
  | .obj members => Members.get? (String.ofList (unescape step)) members
  | .arr items => (position? step).bind fun i => items[i]?
  | _ => none

/-- The steps of a pointer, of which the empty one has none. Any other begins with a slash. -/
def steps? (pointer : List Char) : Option (List (List Char)) :=
  match pointer with
  | [] => some []
  | '/' :: rest => some (rest.splitOn '/')
  | _ => none

end Pointer

/-- The part of a document that a pointer names. -/
def Json.pointer? (pointer : String) (value : Json) : Option Json :=
  (Pointer.steps? pointer.toList).bind fun steps =>
    steps.foldlM (fun part step => Pointer.step? step part) value

end GeoPlacement
