import GeoPlacement.Decimal.Scaled
import GeoPlacement.Geo.Polygon
import GeoPlacement.Json.Reader

/-!
# Rings as tenants write them

A tenant writes a ring as a JSON list of points, each a list that starts with longitude and
latitude. `Ring.read?` turns such a text into a polygon over doubles or says what is wrong with
it, the earliest of the three faults first.
-/

namespace GeoPlacement

/-- What may be wrong with a written ring. -/
inductive RingError
  /-- The text is no list of lists of numbers. -/
  | malformed
  /-- The ring has fewer than three points. -/
  | tooFewPoints (found : Nat)
  /-- A point has fewer than two coordinates. -/
  | missingCoordinate (index : Nat)
deriving Repr, DecidableEq

/-- The text of a ring's fault; the fault of a malformed text is named by its reader. -/
def RingError.message : RingError → Option String
  | malformed => none
  | tooFewPoints found => some s!"A polygon needs at least 3 points, found {found}."
  | missingCoordinate index => some s!"Point {index} has no longitude and latitude pair."

namespace Ring

/-- A coordinate as a double. -/
def coordinate? : Json → Option Float
  | .int value => scaledInt? value
  | .decimal literal => literal.scaled?
  | _ => none

/-- The written coordinates of each point. -/
def coordinates? (text : String) : Option (List (List Float)) :=
  (Json.read? text).bind (Json.list? (Json.list? coordinate?))

/-- The points of a ring, numbered from `index`; coordinates after the first two are ignored. -/
def points (index : Nat) : List (List Float) → Except RingError (List (Point Float))
  | [] => .ok []
  | (lon :: lat :: _) :: rest => do
    let later ← points (index + 1) rest
    .ok (⟨lon, lat⟩ :: later)
  | _ :: _ => .error (.missingCoordinate index)

/-- The polygon of a list of coordinates. -/
def ofCoordinates (raw : List (List Float)) : Except RingError (Polygon Float) := do
  if raw.length < 3 then throw (.tooFewPoints raw.length)
  let vertices ← points 0 raw
  if h : 3 ≤ vertices.length then .ok ⟨vertices, h⟩ else .error (.tooFewPoints vertices.length)

/-- The polygon of a written ring. -/
def read? (text : String) : Except RingError (Polygon Float) :=
  match coordinates? text with
  | none => .error .malformed
  | some raw => ofCoordinates raw

/-- Whether a text is a well-formed ring. -/
def isWellFormed (text : String) : Bool :=
  (read? text).isOk

end Ring

end GeoPlacement
