import GeoPlacement.Resource.SelectiveDeployment

/-!
# Ownership

A workload belongs to the resource that is its controller. `Metadata.setOwner` makes a resource
the only controller of an object and marks the object as managed; `Metadata.ownership` says what
an object is to a resource. A workload claimed by another resource is left alone.
-/

namespace GeoPlacement

/-- What a workload is to a resource. -/
inductive Ownership
  | owned
  | unclaimed
  /-- Another resource, of the given name, claims the workload. -/
  | foreign (owner : String)
deriving Repr, DecidableEq

namespace Metadata

/-- The reference by which a resource controls an object, if the resource has a name and an
identifier. -/
def controllerReference? (owner : Metadata) : Option OwnerReference := do
  let name ← owner.name
  let uid ← owner.uid
  some {
    apiVersion := resourceApiVersion
    blockOwnerDeletion := none
    controller := some true
    kind := resourceKind
    name
    uid }

/-- Makes the given reference the only controller, after the references that control nothing. -/
def setController (m : Metadata) (reference : OwnerReference) : Metadata :=
  { m with ownerReferences := some (m.owners.filter (!·.isController) ++ [reference]) }

/-- Marks an object as managed by this operator. -/
def markManaged (m : Metadata) : Metadata :=
  m.setLabel Label.managedBy Label.manager

/-- Makes a resource the only controller of an object. This fails where the resource has no name
or no identifier. -/
def setOwner? (m owner : Metadata) : Option Metadata :=
  owner.controllerReference?.map fun reference => (m.setController reference).markManaged

/-- The references to resources of the operator's own kind. -/
def claims (m : Metadata) : List OwnerReference :=
  m.owners.filter (·.kind == resourceKind)

/-- What an object is to a resource: foreign as soon as one of its claims is not the resource's. -/
def ownership (m owner : Metadata) : Ownership :=
  match m.claims.find? (fun claim => some claim.uid != owner.uid) with
  | some claim => .foreign claim.name
  | none => if m.claims.isEmpty then .unclaimed else .owned

end Metadata

end GeoPlacement
