import GeoPlacement.Object.Catalog

/-!
# Metadata

What every object of a cluster carries: its name and namespace, its labels and annotations, the
references to its owners, and the members that the server sets. `Metadata.read?` and
`Metadata.write` convert from and to documents.
-/

namespace GeoPlacement

/-- A reference from an object to one of its owners. The one marked as controller manages the
object. -/
structure OwnerReference where
  apiVersion : String
  blockOwnerDeletion : Option Bool
  controller : Option Bool
  kind : String
  name : String
  uid : String
deriving Repr, DecidableEq, Inhabited

namespace OwnerReference

/-- Whether the owner manages the object. -/
def isController (r : OwnerReference) : Bool :=
  r.controller == some true

/-- Reads a reference. -/
def read? (value : Json) : Option OwnerReference := do
  let m ← value.members?
  some {
    apiVersion := ← m.orElse "apiVersion" "" Json.str?
    blockOwnerDeletion := ← m.optional "blockOwnerDeletion" Json.bool?
    controller := ← m.optional "controller" Json.bool?
    kind := ← m.orElse "kind" "" Json.str?
    name := ← m.orElse "name" "" Json.str?
    uid := ← m.orElse "uid" "" Json.str? }

/-- Writes a reference. -/
def write (r : OwnerReference) : Json :=
  .obj <|
    [("apiVersion", .str r.apiVersion)] ++
    Json.member? "blockOwnerDeletion" .bool r.blockOwnerDeletion ++
    Json.member? "controller" .bool r.controller ++
    [("kind", .str r.kind), ("name", .str r.name), ("uid", .str r.uid)]

end OwnerReference

/-- The metadata of an object. -/
structure Metadata where
  annotations : Option StringMap := none
  creationTimestamp : Option String := none
  deletionGracePeriodSeconds : Option Int64 := none
  deletionTimestamp : Option String := none
  finalizers : Option (List String) := none
  generateName : Option String := none
  generation : Option Int64 := none
  labels : Option StringMap := none
  managedFields : Option (List Json) := none
  name : Option String := none
  inNamespace : Option String := none
  ownerReferences : Option (List OwnerReference) := none
  resourceVersion : Option String := none
  selfLink : Option String := none
  uid : Option String := none
deriving Inhabited

namespace Metadata

/-- The value of a label. -/
def label? (m : Metadata) (key : String) : Option String :=
  m.labels.bind (·.get? key)

/-- The value of an annotation. -/
def annotation? (m : Metadata) (key : String) : Option String :=
  m.annotations.bind (·.get? key)

/-- The owners of the object, none where no list is written. -/
def owners (m : Metadata) : List OwnerReference :=
  m.ownerReferences.getD []

/-- The controller of the object: the first reference marked so. -/
def controller? (m : Metadata) : Option OwnerReference :=
  m.owners.find? OwnerReference.isController

/-- The name of the object, or else the prefix from which the server makes one. -/
def displayName (m : Metadata) : String :=
  (m.name.or m.generateName).getD ""

/-- Sets a label, creating the map if there is none. -/
def setLabel (m : Metadata) (key value : String) : Metadata :=
  { m with labels := some ((m.labels.getD .empty).insert key value) }

/-- Sets an annotation, creating the map if there is none. -/
def annotate (m : Metadata) (key value : String) : Metadata :=
  { m with annotations := some ((m.annotations.getD .empty).insert key value) }

/-- Removes an annotation. A map is created if there is none. -/
def unannotate (m : Metadata) (key : String) : Metadata :=
  { m with annotations := some ((m.annotations.getD .empty).erase key) }

/-- Reads metadata. -/
def read? (value : Json) : Option Metadata := do
  let m ← value.members?
  let time (j : Json) : Option String := j.str?.bind Timestamp.canonical?
  some {
    annotations := ← m.optional "annotations" Shape.stringMap?
    creationTimestamp := ← m.optional "creationTimestamp" time
    deletionGracePeriodSeconds := ← m.optional "deletionGracePeriodSeconds" Json.int64?
    deletionTimestamp := ← m.optional "deletionTimestamp" time
    finalizers := ← m.optional "finalizers" Json.strings?
    generateName := ← m.optional "generateName" Json.str?
    generation := ← m.optional "generation" Json.int64?
    labels := ← m.optional "labels" Shape.stringMap?
    managedFields := ← m.optional "managedFields" (Json.list? Catalog.managedFields.read?)
    name := ← m.optional "name" Json.str?
    inNamespace := ← m.optional "namespace" Json.str?
    ownerReferences := ← m.optional "ownerReferences" (Json.list? OwnerReference.read?)
    resourceVersion := ← m.optional "resourceVersion" Json.str?
    selfLink := ← m.optional "selfLink" Json.str?
    uid := ← m.optional "uid" Json.str? }

/-- Writes metadata. -/
def write (m : Metadata) : Json :=
  .obj <|
    Json.member? "annotations" Shape.ofStringMap m.annotations ++
    Json.member? "creationTimestamp" .str m.creationTimestamp ++
    Json.member? "deletionGracePeriodSeconds" Json.ofInt64 m.deletionGracePeriodSeconds ++
    Json.member? "deletionTimestamp" .str m.deletionTimestamp ++
    Json.member? "finalizers" Json.ofStrings m.finalizers ++
    Json.member? "generateName" .str m.generateName ++
    Json.member? "generation" Json.ofInt64 m.generation ++
    Json.member? "labels" Shape.ofStringMap m.labels ++
    Json.member? "managedFields" .arr m.managedFields ++
    Json.member? "name" .str m.name ++
    Json.member? "namespace" .str m.inNamespace ++
    Json.member? "ownerReferences" (Json.ofList OwnerReference.write) m.ownerReferences ++
    Json.member? "resourceVersion" .str m.resourceVersion ++
    Json.member? "selfLink" .str m.selfLink ++
    Json.member? "uid" .str m.uid

end Metadata

end GeoPlacement
