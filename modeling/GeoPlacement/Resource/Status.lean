import GeoPlacement.Json.Structure

/-!
# Status

What the operator reports about a resource: how many of its workloads are placed, the overall
state, and messages for the tenant.
-/

namespace GeoPlacement

/-- The overall state of a resource. Any state that is not one of the first three reads as
unknown. -/
inductive State
  | success
  | partly
  | failure
  | unknown
deriving Repr, DecidableEq, Inhabited

namespace State

/-- The name of a state. -/
def name : State → String
  | success => "success"
  | partly => "partial"
  | failure => "failure"
  | unknown => "unknown"

/-- The state of a name. -/
def ofName (name : String) : State :=
  if name = "success" then success
  else if name = "partial" then partly
  else if name = "failure" then failure
  else unknown

/-- Reads a state. -/
def read? (value : Json) : Option State :=
  value.constant?.map ofName

/-- Writes a state. -/
def write (s : State) : Json :=
  .str s.name

end State

/-- The status of a resource. -/
structure Status where
  /-- The number of placed workloads over the number of declared ones. -/
  ready : String
  state : State
  message : List String := []
  observedGeneration : Option Int64 := none
deriving Repr, DecidableEq, Inhabited

namespace Status

/-- The members of a status in the order of declaration. -/
def names : List String := ["ready", "state", "message", "observedGeneration"]

/-- Reads a status. -/
def read? (value : Json) : Option Status := do
  let m ← value.structure? names
  some {
    ready := ← m.required "ready" Json.str?
    state := ← m.required "state" State.read?
    message := ← m.absentOr "message" [] Json.strings?
    observedGeneration := ← m.maybe "observedGeneration" Json.int64? }

/-- Writes a status. -/
def write (s : Status) : Json :=
  .obj <|
    [("ready", .str s.ready), ("state", s.state.write), ("message", Json.ofStrings s.message)] ++
    Json.member? "observedGeneration" Json.ofInt64 s.observedGeneration

end Status

end GeoPlacement
