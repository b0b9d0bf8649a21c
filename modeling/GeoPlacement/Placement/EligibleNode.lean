import GeoPlacement.Decimal.Nearest
import GeoPlacement.Geo.Polygon
import GeoPlacement.Object.Node
import GeoPlacement.Resource.Labels

/-!
# Eligible nodes

The nodes that may receive workloads: ready, not closed to scheduling, and without a taint that
keeps everything away. Of an eligible node only its hostname, its labels and its position matter
for placement.
-/

namespace GeoPlacement

namespace Node

/-- The effect of a taint that keeps new pods away. -/
def noSchedule : String := "NoSchedule"

/-- The taints that, with the effect `noSchedule`, take a node out of consideration. -/
def blockingTaints : List String := [
  "node-role.kubernetes.io/master",
  "node-role.kubernetes.io/control-plane",
  "node.kubernetes.io/unschedulable"]

/-- Whether a node reports that it is ready. -/
def isReady (n : Node) : Bool :=
  n.conditions.any fun condition => condition.type == "Ready" && condition.status == "True"

/-- Whether a node is closed to new pods. -/
def isUnschedulable (n : Node) : Bool :=
  (n.spec.bind NodeSpec.unschedulable).getD false

/-- Whether a taint takes the node out of consideration. -/
def isTainted (n : Node) : Bool :=
  n.taints.any fun taint => taint.effect == noSchedule && blockingTaints.contains taint.key

/-- Whether a node may receive workloads. -/
def isEligible (n : Node) : Bool :=
  n.isReady && !n.isUnschedulable && !n.isTainted

/-- The name by which the scheduler knows a node: its hostname label, or else its own name. -/
def hostname (n : Node) : String :=
  (n.metadata.label? Label.hostname).getD n.metadata.displayName

end Node

/-- Reads a coordinate from a label. Labels cannot hold a sign, so the hemisphere is written in
front: `s` and `w` turn a positive number negative, `n` and `e` leave it. A label without a
hemisphere is read as it stands. -/
def coordinate? (label : String) : Option Float :=
  match label.toList with
  | [] => none
  | first :: rest =>
    let hemisphere := first.toLower
    if hemisphere ∈ ['n', 's', 'e', 'w'] then
      match parseDouble? (String.ofList rest) with
      | none => none
      | some value =>
        let value := if hemisphere ∈ ['s', 'w'] && 0 < value then -value else value
        if value.isFinite then some value else none
    else
      parseDouble? label

/-- What matters of a node for placement. -/
structure EligibleNode where
  hostname : String
  labels : StringMap
  position : Option (Point Float)

namespace EligibleNode

/-- The value of a label. -/
def label? (n : EligibleNode) (key : String) : Option String :=
  n.labels.get? key

/-- The position that the labels of a node give, if both coordinates can be read. -/
def position? (labels : StringMap) : Option (Point Float) := do
  let lon ← (labels.get? Label.longitude).bind coordinate?
  let lat ← (labels.get? Label.latitude).bind coordinate?
  some ⟨lon, lat⟩

/-- What matters of a node, if it is eligible. -/
def ofNode? (n : Node) : Option EligibleNode :=
  if n.isEligible then
    let labels := n.metadata.labels.getD .empty
    some { hostname := n.hostname, labels, position := position? labels }
  else
    none

end EligibleNode

end GeoPlacement
