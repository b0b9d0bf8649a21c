import GeoPlacement.Decimal.Shortest
import GeoPlacement.Json.Value

/-!
# Rounded documents

A server that keeps a document keeps its numbers in 64 bits: integers that fit, signed or unsigned,
stay as they are, and any other number becomes a double. `Json.rounded` is the document as such a
server sends it again, with the digits of each double that tell it from all others.
-/

namespace GeoPlacement

namespace Json

/-- Whether an integer fits 64 bits, signed or unsigned. -/
def fitsWord (value : Int) : Bool :=
  Int64.minValue.toInt ≤ value && value < UInt64.size

/-- The number of a double; a number that no double can hold stays as it was written. -/
def ofDouble (written : Json) (double : Option Float) : Json :=
  match double with
  | some x => .decimal (Decimal.shortest x)
  | none => written

mutual

/-- The **document** of which all numbers are rounded to 64 bits. -/
def rounded : Json → Json
  | .null => .null
  | .bool value => .bool value
  | .int value => if fitsWord value then .int value else ofDouble (.int value) (scaledInt? value)
  | .decimal literal => ofDouble (.decimal literal) literal.scaled?
  | .str value => .str value
  | .arr items => .arr (roundedItems items)
  | .obj members => .obj (roundedMembers members)
  | .unreadable => .unreadable

/-- The items of a list, rounded. -/
def roundedItems : List Json → List Json
  | [] => []
  | item :: rest => rounded item :: roundedItems rest

/-- The members of an object, rounded. -/
def roundedMembers : List (String × Json) → List (String × Json)
  | [] => []
  | (name, member) :: rest => (name, rounded member) :: roundedMembers rest

end

end Json

end GeoPlacement
