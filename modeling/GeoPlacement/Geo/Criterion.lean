import GeoPlacement.Resource.Labels

/-!
# Criteria

What a selector compares: one of four labels of a node, or its position with the areas enclosed
by rings. A selector names its criterion in any mixture of upper and lower case.
-/

namespace GeoPlacement

/-- What a selector compares. -/
inductive Criterion
  | city
  | state
  | country
  | continent
  | polygon
deriving Repr, DecidableEq, Inhabited

namespace Criterion

/-- All criteria. -/
def all : List Criterion := [.city, .state, .country, .continent, .polygon]

/-- The name of a criterion in lower case. -/
def name : Criterion → String
  | city => "city"
  | state => "state"
  | country => "country"
  | continent => "continent"
  | polygon => "polygon"

/-- The criterion of a name; the case of ASCII letters does not matter. -/
def ofName? (name : String) : Option Criterion :=
  let lower := name.map Char.toLower
  all.find? (·.name == lower)

/-- The node label that a criterion compares, none for the position. -/
def labelKey : Criterion → Option String
  | city => some Label.city
  | state => some Label.state
  | country => some Label.country
  | continent => some Label.continent
  | polygon => none

end Criterion

end GeoPlacement
