import GeoPlacement.Decimal.Scaled
import GeoPlacement.Json.Basic

/-!
# The value of a document

A document as it was written may hold more than a value does: names that stand twice, numbers that
no double can hold, parts that are well formed and nothing else. `Json.value?` is the value of a
document, if it has one. Of two members with one name the later value counts, in the place of the
first.
-/

namespace GeoPlacement

namespace Json

mutual

/-- The **value** of a document: every name once, every number in range, every part readable. -/
def value? : Json → Option Json
  | .null => some .null
  | .bool value => some (.bool value)
  | .int value => (scaledInt? value).map fun _ => .int value
  | .decimal literal => literal.scaled?.map fun _ => .decimal literal
  | .str value => some (.str value)
  | .arr items => (itemValues? items).map .arr
  | .obj members => (memberValues? members []).map .obj
  | .unreadable => none

/-- The values of the items of a list. -/
def itemValues? : List Json → Option (List Json)
  | [] => some []
  | item :: rest => do
    let head ← value? item
    let tail ← itemValues? rest
    some (head :: tail)

/-- The values of the members of an object, after those that were `seen`. -/
def memberValues? : List (String × Json) → (seen : Members) → Option Members
  | [], seen => some seen
  | (name, member) :: rest, seen => do
    let value ← value? member
    memberValues? rest (seen.set name value)

end

end Json

end GeoPlacement
