import GeoPlacement.Controller.Index
import GeoPlacement.Placement.EligibleNode

/-!
# Triggers

Which resources a node event affects. A **tracker** remembers a fingerprint of every node that was
seen: its addresses, in whatever order, and whether it was eligible. A node that is new or has
other addresses affects every resource that names its hostname; a node that is lost affects those
of them that asked for recovery; a node that has come back affects every resource that asked for
recovery and is not fully placed.
-/

namespace GeoPlacement

/-- What is remembered of a node. -/
structure Fingerprint where
  /-- Type and address of each address, in ascending order. -/
  addresses : List (String × String)
  available : Bool
deriving Repr, DecidableEq

namespace Fingerprint

/-- The order of addresses. -/
def addressLe (a b : String × String) : Bool :=
  a.1 < b.1 || (a.1 == b.1 && a.2 ≤ b.2)

/-- The fingerprint of a node. -/
def ofNode (n : Node) : Fingerprint where
  addresses := (n.addresses.map fun a => (a.type, a.address)).mergeSort addressLe
  available := n.isEligible

end Fingerprint

/-- How a node differs from what was remembered of it. -/
structure NodeChange where
  /-- The node is new, or its addresses are others. -/
  readdressed : Bool
  /-- Whether the node is eligible now, if that has changed. -/
  available : Option Bool
deriving Repr, DecidableEq

/-- The fingerprints of the nodes seen so far, by name. -/
structure NodeTracker where
  seen : Table String Fingerprint := .empty
deriving Inhabited

namespace NodeTracker

/-- The change from a remembered fingerprint to the current one. -/
def change (previous : Option Fingerprint) (current : Fingerprint) : NodeChange :=
  match previous with
  | none => ⟨true, none⟩
  | some old =>
    ⟨old.addresses != current.addresses,
      if old.available = current.available then none else some current.available⟩

/-- Compares a node with what is remembered of it and remembers it as it is. -/
def observe (t : NodeTracker) (n : Node) : NodeChange × NodeTracker :=
  let current := Fingerprint.ofNode n
  let name := n.metadata.displayName
  (change (t.seen.get? name) current, ⟨t.seen.insert name current⟩)

/-- Forgets a node. -/
def forget (t : NodeTracker) (n : Node) : NodeTracker :=
  ⟨t.seen.erase n.metadata.displayName⟩

end NodeTracker

/-- The cache key of a resource. -/
def SelectiveDeployment.reference (o : SelectiveDeployment) : ObjectRef :=
  o.metadata.reference

namespace Trigger

/-- The resources among some candidates that asked for recovery. -/
def recovering (resources : Cache SelectiveDeployment) (candidates : List ObjectRef) :
    List ObjectRef :=
  candidates.filter fun candidate =>
    (resources.get? candidate).any fun object => object.spec.recovery

/-- Whether a resource is known not to be fully placed. -/
def isDegraded (object : SelectiveDeployment) : Bool :=
  object.status.any fun status => status.state == .partly || status.state == .failure

/-- The resources that asked for recovery and are not fully placed. -/
def degraded (resources : Cache SelectiveDeployment) : List ObjectRef :=
  (resources.objects.filter fun object => object.spec.recovery && isDegraded object).map
    SelectiveDeployment.reference

/-- The resources affected by a change of a node with a hostname. -/
def affectedByChange (index : WorkloadIndex) (resources : Cache SelectiveDeployment)
    (hostname : String) (change : NodeChange) : List ObjectRef :=
  let owners := index.ownersOf hostname
  let readdressed := if change.readdressed then owners else []
  let reassessed :=
    match change.available with
    | some false => recovering resources owners
    | some true => degraded resources
    | none => []
  (readdressed ++ reassessed).eraseDups

/-- The resources **affected** by a node event, and what is remembered after it. -/
def affected (tracker : NodeTracker) (index : WorkloadIndex)
    (resources : Cache SelectiveDeployment) : WatchEvent Node → List ObjectRef × NodeTracker
  | .apply node | .initApply node =>
    let (change, tracker) := tracker.observe node
    (affectedByChange index resources node.hostname change, tracker)
  | .delete node => (recovering resources (index.ownersOf node.hostname), tracker.forget node)
  | .init | .initDone => ([], tracker)

end Trigger

end GeoPlacement
