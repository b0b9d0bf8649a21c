import GeoPlacement.Object.NodeAffinity
import GeoPlacement.Placement.EligibleNode

/-!
# What a scheduler makes of node affinity

A scheduler puts a pod on a node only if the node is **admitted** by the required terms of the
pod's node affinity: by one of the terms at least, that is by all requirements of that term. The
preferred terms rank nodes and admit or exclude none.

## Rules

- `In` asks for a label with one of the values, `NotIn` for its absence or another value.
- `Exists` asks for the label, `DoesNotExist` for its absence.
- A term without requirements admits nothing, nor does a requirement with another operator.
-/

namespace GeoPlacement

namespace NodeRequirement

/-- Whether a requirement is met by the value of its key, if there is one. -/
def isMetBy (r : NodeRequirement) (value : Option String) : Bool :=
  let listed := value.any (r.values.getD []).contains
  match r.operator with
  | "In" => listed
  | "NotIn" => !listed
  | "Exists" => value.isSome
  | "DoesNotExist" => value.isNone
  | _ => false

end NodeRequirement

namespace NodeSelectorTerm

/-- Whether a term asks for anything. -/
def isEmpty (t : NodeSelectorTerm) : Bool :=
  (t.matchExpressions.getD []).isEmpty && (t.matchFields.getD []).isEmpty

/-- Whether a term admits a node with certain labels and fields. -/
def admits (t : NodeSelectorTerm) (labels fields : String → Option String) : Bool :=
  !t.isEmpty &&
    (t.matchExpressions.getD []).all (fun r => r.isMetBy (labels r.key)) &&
    (t.matchFields.getD []).all (fun r => r.isMetBy (fields r.key))

end NodeSelectorTerm

/-- Whether a node affinity **admits** a node with certain labels and fields. -/
def NodeAffinity.admits (a : NodeAffinity) (labels fields : String → Option String) : Bool :=
  match a.required with
  | none => true
  | some terms => terms.any (·.admits labels fields)

/-- Whether a node affinity admits an eligible node, of which only the labels are known. -/
def NodeAffinity.admitsNode (a : NodeAffinity) (n : EligibleNode) : Bool :=
  a.admits n.label? fun _ => none

end GeoPlacement
