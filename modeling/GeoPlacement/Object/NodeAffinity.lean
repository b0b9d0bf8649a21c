import GeoPlacement.Object.Catalog

/-!
# Node affinity

The part of a pod's description that says on which nodes the pod may run. A **required** node
selector is a list of terms; a term lists requirements on the labels of a node and on its
fields. What a scheduler makes of them is defined in `GeoPlacement.Placement.Scheduling`.
-/

namespace GeoPlacement

/-- One requirement on a label or a field of a node. -/
structure NodeRequirement where
  key : String
  operator : String
  values : Option (List String) := none
deriving Repr, DecidableEq, Inhabited

/-- A term of a node selector. -/
structure NodeSelectorTerm where
  matchExpressions : Option (List NodeRequirement) := none
  matchFields : Option (List NodeRequirement) := none
deriving Repr, DecidableEq, Inhabited

/-- A term that makes some nodes preferable to others. -/
structure PreferredTerm where
  preference : NodeSelectorTerm
  weight : Int
deriving Repr, DecidableEq, Inhabited

/-- The node affinity of a pod. -/
structure NodeAffinity where
  preferred : Option (List PreferredTerm) := none
  required : Option (List NodeSelectorTerm) := none
deriving Repr, DecidableEq, Inhabited

namespace NodeRequirement

/-- Reads a requirement. -/
def read? (value : Json) : Option NodeRequirement := do
  let m ← value.members?
  some {
    key := ← m.orElse "key" "" Json.str?
    operator := ← m.orElse "operator" "" Json.str?
    values := ← m.optional "values" Json.strings? }

/-- Writes a requirement. -/
def write (r : NodeRequirement) : Json :=
  .obj <|
    [("key", .str r.key), ("operator", .str r.operator)] ++
    Json.member? "values" Json.ofStrings r.values

end NodeRequirement

namespace NodeSelectorTerm

/-- Reads a term. -/
def read? (value : Json) : Option NodeSelectorTerm := do
  let m ← value.members?
  some {
    matchExpressions := ← m.optional "matchExpressions" (Json.list? NodeRequirement.read?)
    matchFields := ← m.optional "matchFields" (Json.list? NodeRequirement.read?) }

/-- Writes a term. -/
def write (t : NodeSelectorTerm) : Json :=
  .obj <|
    Json.member? "matchExpressions" (Json.ofList NodeRequirement.write) t.matchExpressions ++
    Json.member? "matchFields" (Json.ofList NodeRequirement.write) t.matchFields

end NodeSelectorTerm

namespace PreferredTerm

/-- Reads a preferred term. -/
def read? (value : Json) : Option PreferredTerm := do
  let m ← value.members?
  some {
    preference := ← m.orElse "preference" {} NodeSelectorTerm.read?
    weight := ← m.orElse "weight" 0 fun j => (Shape.int32? j).bind Json.int? }

/-- Writes a preferred term. -/
def write (t : PreferredTerm) : Json :=
  .obj [("preference", t.preference.write), ("weight", .int t.weight)]

end PreferredTerm

namespace NodeAffinity

/-- The member of the preferred terms. -/
def preferredName : String := "preferredDuringSchedulingIgnoredDuringExecution"

/-- The member of the required node selector. -/
def requiredName : String := "requiredDuringSchedulingIgnoredDuringExecution"

/-- Reads the terms of a node selector. -/
def selectorTerms? (value : Json) : Option (List NodeSelectorTerm) := do
  let m ← value.members?
  m.orElse "nodeSelectorTerms" [] (Json.list? NodeSelectorTerm.read?)

/-- Reads a node affinity. -/
def read? (value : Json) : Option NodeAffinity := do
  let m ← value.members?
  some {
    preferred := ← m.optional preferredName (Json.list? PreferredTerm.read?)
    required := ← m.optional requiredName selectorTerms? }

/-- Writes a node affinity. -/
def write (a : NodeAffinity) : Json :=
  .obj <|
    Json.member? preferredName (Json.ofList PreferredTerm.write) a.preferred ++
    Json.member? requiredName
      (fun terms => .obj [("nodeSelectorTerms", Json.ofList NodeSelectorTerm.write terms)])
      a.required

end NodeAffinity

end GeoPlacement
