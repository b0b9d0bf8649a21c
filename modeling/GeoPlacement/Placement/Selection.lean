import GeoPlacement.Geo.Criterion
import GeoPlacement.Geo.Ring
import GeoPlacement.Placement.EligibleNode
import GeoPlacement.Resource.Selector

/-!
# Selections

A selector is resolved against the eligible nodes to a **selection**: the hostnames it stands for
at the moment, and what went wrong on the way. Nodes are taken in the order of the scan, each
hostname once, until the wanted quantity is reached. Hostnames that the selector resolved to
before are taken first, so that workloads do not move without need.
-/

namespace GeoPlacement

/-- A problem with a selector, reported to the tenant. -/
inductive Diagnostic
  /-- Fewer nodes match than are wanted. -/
  | fewerNodes (found wanted : Nat) (value : String)
  /-- A value is no well-formed ring. -/
  | malformedRing (value : String)
deriving Repr, DecidableEq

namespace Diagnostic

/-- The number of characters to which values are cut in messages. -/
def excerptLength : Nat := 16

/-- The beginning of a value, marked if the value is longer. -/
def excerpt (value : String) : String :=
  let chars := value.toList
  if excerptLength < chars.length then
    String.ofList (chars.take excerptLength) ++ "..."
  else
    value

/-- The message for the tenant. -/
def message : Diagnostic → String
  | fewerNodes found wanted value =>
    s!"Fewer nodes issue, {found} node(s) found instead of {wanted} for {excerpt value}"
  | malformedRing value => s!"{excerpt value} has a GeoJSON format error"

end Diagnostic

/-- The outcome of resolving one selector. The `key` is empty where the selector's criterion is
not known. -/
structure Selection where
  key : String
  operator : Operator
  hostnames : List String
  diagnostics : List Diagnostic
deriving Repr, DecidableEq

namespace Selection

/-- The number of problems. -/
def failures (s : Selection) : Nat :=
  s.diagnostics.length

end Selection

/-! ### Picking hostnames -/

/-- Whether a quantity is reached; a quantity of zero never is. -/
def isFull (quantity : Nat) (chosen : List String) : Bool :=
  quantity != 0 && quantity ≤ chosen.length

/-- Adds the hostnames of a scan, each once, and stops where the quantity is reached. -/
def pick (quantity : Nat) (chosen : List String) : List String → List String
  | [] => chosen
  | hostname :: rest =>
    if isFull quantity chosen then chosen
    else pick quantity (if hostname ∈ chosen then chosen else chosen ++ [hostname]) rest

/-- Keeps matching hostnames that are already placed, then fills up in scan order. -/
def pickSticky (quantity : Nat) (matching placed : List String) : List String :=
  pick quantity (pick quantity [] (matching.filter (· ∈ placed))) matching

/-! ### Matching nodes -/

/-- The nodes that match by a label, in scan order: value by value where one of the values is
asked for, in the order of the nodes where none of them is. -/
def matchingByLabel (s : Selector) (key : String) (nodes : List EligibleNode) :
    List EligibleNode :=
  match s.operator with
  | .anyOf => s.value.flatMap fun value => nodes.filter fun node => node.label? key == some value
  | .noneOf => nodes.filter fun node =>
    match node.label? key with
    | none => true
    | some label => !s.value.contains label

/-- The nodes with a position that matches some areas, in scan order; a node without a position
never matches. -/
def matchingByPosition (operator : Operator) (areas : List (Polygon Float))
    (nodes : List EligibleNode) : List EligibleNode :=
  let inside (area : Polygon Float) (node : EligibleNode) : Bool :=
    node.position.any area.contains
  match operator with
  | .anyOf => areas.flatMap fun area => nodes.filter (inside area)
  | .noneOf => nodes.filter fun node =>
    node.position.isSome && !areas.any fun area => inside area node

/-- The well-formed rings among the values of a selector. -/
def areas (s : Selector) : List (Polygon Float) :=
  s.value.filterMap fun value => (Ring.read? value).toOption

/-- One diagnostic for each value that is no well-formed ring. -/
def ringDiagnostics (s : Selector) : List Diagnostic :=
  (s.value.filter fun value => !Ring.isWellFormed value).map .malformedRing

/-- The nodes that match a selector by a criterion, in scan order. Without a single well-formed
ring nothing matches by position. -/
def matchingNodes (criterion : Criterion) (s : Selector) (nodes : List EligibleNode) :
    List EligibleNode :=
  match criterion.labelKey with
  | some key => matchingByLabel s key nodes
  | none =>
    match areas s with
    | [] => []
    | rings => matchingByPosition s.operator rings nodes

/-- The problems with the values of a selector. -/
def valueDiagnostics (criterion : Criterion) (s : Selector) : List Diagnostic :=
  match criterion.labelKey with
  | some _ => []
  | none => ringDiagnostics s

/-- The diagnostic of a selector that found too few hostnames. -/
def shortfall (s : Selector) (hostnames : List String) : List Diagnostic :=
  let wanted := s.quantity.toNat
  if wanted != 0 && hostnames.length < wanted then
    [.fewerNodes hostnames.length wanted (", ".intercalate s.value)]
  else
    []

/-- **Resolves** a selector against the eligible nodes. `placed` holds the hostnames to which it
resolved before. A criterion that is not known passes through as an empty requirement. -/
def Selection.resolve (s : Selector) (nodes : List EligibleNode) (placed : List String) :
    Selection :=
  match Criterion.ofName? s.name with
  | none => { key := "", operator := s.operator, hostnames := [], diagnostics := [] }
  | some criterion =>
    let matching := (matchingNodes criterion s nodes).map EligibleNode.hostname
    let hostnames := pickSticky s.quantity.toNat matching placed
    { key := Label.hostname
      operator := s.operator
      hostnames
      diagnostics := valueDiagnostics criterion s ++ shortfall s hostnames }

end GeoPlacement
