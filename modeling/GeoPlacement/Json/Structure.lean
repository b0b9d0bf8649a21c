import GeoPlacement.Json.Basic

/-!
# Structures and constants

The structures of a resource, unlike the objects of a cluster, may be written in two ways: as an
object, in which no member stands twice, or as the list of the members in the order of declaration,
trailing members with a default left out. The constants of an enumeration have two ways as well.
-/

namespace GeoPlacement

/-- The members of a structure written as an object or as a list in the order of `names`. -/
def Json.structure? (names : List String) : Json → Option Members
  | .obj members => some members
  | .arr items => if items.length ≤ names.length then some (names.zip items) else none
  | _ => none

/-- The name of a constant of an enumeration, written as a string or as an object whose only
member has that name and holds nothing. -/
def Json.constant? : Json → Option String
  | .str name => some name
  | .obj [(name, .null)] => some name
  | _ => none

end GeoPlacement
