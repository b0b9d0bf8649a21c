import GeoPlacement.Object.Workload

/-!
# Nodes

The machines of the cluster. The operator reads a node's labels, whether it may be scheduled on,
its taints, its addresses and its conditions.
-/

namespace GeoPlacement

/-- A mark by which a node repels pods. -/
structure Taint where
  effect : String
  key : String
  timeAdded : Option String := none
  value : Option String := none
deriving Repr, DecidableEq, Inhabited

/-- An address of a node. -/
structure NodeAddress where
  address : String
  type : String
deriving Repr, DecidableEq, Inhabited

/-- A condition that a node reports about itself. -/
structure NodeCondition where
  details : Record := []
  status : String
  type : String
deriving Inhabited

/-- The description of a node. -/
structure NodeSpec where
  others : Record := []
  taints : Option (List Taint) := none
  unschedulable : Option Bool := none
deriving Inhabited

/-- The status of a node. -/
structure NodeStatus where
  addresses : Option (List NodeAddress) := none
  capacity : Record := []
  conditions : Option (List NodeCondition) := none
  details : Record := []
deriving Inhabited

/-- A node of the cluster. -/
structure Node where
  metadata : Metadata := {}
  spec : Option NodeSpec := none
  status : Option NodeStatus := none
deriving Inhabited

namespace Taint

/-- Reads a taint. -/
def read? (value : Json) : Option Taint := do
  let m ← value.members?
  some {
    effect := ← m.orElse "effect" "" Json.str?
    key := ← m.orElse "key" "" Json.str?
    timeAdded := ← m.optional "timeAdded" fun j => j.str?.bind Timestamp.canonical?
    value := ← m.optional "value" Json.str? }

/-- Writes a taint. -/
def write (t : Taint) : Json :=
  .obj <|
    [("effect", .str t.effect), ("key", .str t.key)] ++
    Json.member? "timeAdded" .str t.timeAdded ++ Json.member? "value" .str t.value

end Taint

namespace NodeAddress

/-- Reads an address. -/
def read? (value : Json) : Option NodeAddress := do
  let m ← value.members?
  some {
    address := ← m.orElse "address" "" Json.str?
    type := ← m.orElse "type" "" Json.str? }

/-- Writes an address. -/
def write (a : NodeAddress) : Json :=
  .obj [("address", .str a.address), ("type", .str a.type)]

end NodeAddress

namespace NodeCondition

/-- Reads a condition. -/
def read? (value : Json) : Option NodeCondition := do
  let m ← value.members?
  some {
    details := ← Shape.readFields? Catalog.conditionFields m
    status := ← m.orElse "status" "" Json.str?
    type := ← m.orElse "type" "" Json.str? }

/-- Writes a condition. -/
def write (c : NodeCondition) : Json :=
  .obj (c.details ++ [("status", .str c.status), ("type", .str c.type)])

end NodeCondition

namespace NodeSpec

/-- Reads the description of a node. -/
def read? (value : Json) : Option NodeSpec := do
  let m ← value.members?
  some {
    others := ← Shape.readFields? Catalog.nodeFields m
    taints := ← m.optional "taints" (Json.list? Taint.read?)
    unschedulable := ← m.optional "unschedulable" Json.bool? }

/-- Writes the description of a node. -/
def write (s : NodeSpec) : Json :=
  .obj <|
    s.others ++ Json.member? "taints" (Json.ofList Taint.write) s.taints ++
    Json.member? "unschedulable" .bool s.unschedulable

end NodeSpec

namespace NodeStatus

/-- Reads the status of a node. -/
def read? (value : Json) : Option NodeStatus := do
  let m ← value.members?
  some {
    addresses := ← m.optional "addresses" (Json.list? NodeAddress.read?)
    capacity := ← Shape.readFields? Catalog.nodeCapacity m
    conditions := ← m.optional "conditions" (Json.list? NodeCondition.read?)
    details := ← Shape.readFields? Catalog.nodeDetails m }

/-- Writes the status of a node. -/
def write (s : NodeStatus) : Json :=
  .obj <|
    Json.member? "addresses" (Json.ofList NodeAddress.write) s.addresses ++ s.capacity ++
    Json.member? "conditions" (Json.ofList NodeCondition.write) s.conditions ++ s.details

end NodeStatus

namespace Node

/-- Reads a node. -/
def read? (value : Json) : Option Node := do
  let m ← value.members?
  m.expected "apiVersion" "v1"
  m.expected "kind" "Node"
  some {
    metadata := ← m.orElse "metadata" {} Metadata.read?
    spec := ← m.optional "spec" NodeSpec.read?
    status := ← m.optional "status" NodeStatus.read? }

/-- Writes a node. -/
def write (n : Node) : Json :=
  .obj <|
    [("apiVersion", .str "v1"), ("kind", .str "Node"), ("metadata", n.metadata.write)] ++
    Json.member? "spec" NodeSpec.write n.spec ++
    Json.member? "status" NodeStatus.write n.status

/-- The taints of a node. -/
def taints (n : Node) : List Taint :=
  (n.spec.bind NodeSpec.taints).getD []

/-- The addresses of a node. -/
def addresses (n : Node) : List NodeAddress :=
  (n.status.bind NodeStatus.addresses).getD []

/-- The conditions of a node. -/
def conditions (n : Node) : List NodeCondition :=
  (n.status.bind NodeStatus.conditions).getD []

end Node

end GeoPlacement
