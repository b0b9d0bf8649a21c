import GeoPlacement.Controller.Cache
import GeoPlacement.Placement.Compile
import GeoPlacement.Resource.SelectiveDeployment

/-!
# The index of workloads

A cache of the managed workloads of each kind, asked two ways: which resources own a workload
that names a hostname, and where the workloads of a resource are placed at the moment.
-/

namespace GeoPlacement

/-- The caches of the five kinds of workloads. -/
structure WorkloadIndex where
  ofKind : Kind → Cache Workload := fun _ => {}

/-- The cache key of a workload. -/
def Workload.reference (w : Workload) : ObjectRef :=
  w.metadata.reference

/-- The references to the resources that claim a workload. -/
def Workload.ownerRefs (w : Workload) : List ObjectRef :=
  (w.metadata.owners.filter (·.kind == resourceKind)).map fun owner =>
    ⟨w.metadata.inNamespace, owner.name⟩

/-- The hostnames that the affinity of a workload names, term by term. -/
def Workload.placement (w : Workload) : List (List String) :=
  (w.nodeAffinity.map NodeAffinity.hostnames).getD []

/-- Whether the affinity of a workload names a hostname, with whatever operator. -/
def Workload.namesHost (w : Workload) (hostname : String) : Bool :=
  w.placement.any (·.contains hostname)

/-- Whether the resource with an identifier controls a workload. -/
def Workload.isControlledBy (w : Workload) (uid : String) : Bool :=
  w.metadata.owners.any fun owner => owner.isController && owner.uid == uid

namespace WorkloadIndex

instance : Inhabited WorkloadIndex := ⟨{}⟩

/-- The index after the list of each kind has arrived. -/
def ofLists (listed : Kind → List Workload) : WorkloadIndex :=
  ⟨fun kind => Cache.ofList Workload.reference (listed kind)⟩

/-- Applies a function to the cache of a kind. -/
def modify (index : WorkloadIndex) (kind : Kind) (f : Cache Workload → Cache Workload) :
    WorkloadIndex :=
  ⟨fun other => if other = kind then f (index.ofKind other) else index.ofKind other⟩

/-- Takes an event of the watch of a kind into account. -/
def observe (index : WorkloadIndex) (kind : Kind) (event : WatchEvent Workload) : WorkloadIndex :=
  index.modify kind fun cache => cache.observe Workload.reference event

/-- Whether all five lists can be relied on. -/
def readiness (index : WorkloadIndex) : Readiness :=
  .together (Kind.all.map fun kind => (index.ofKind kind).readiness)

/-- All indexed workloads. -/
def workloads (index : WorkloadIndex) : List Workload :=
  Kind.all.flatMap fun kind => (index.ofKind kind).objects

/-- The resources that own a workload whose affinity names a hostname, each once. -/
def ownersOf (index : WorkloadIndex) (hostname : String) : List ObjectRef :=
  ((index.workloads.filter (·.namesHost hostname)).flatMap Workload.ownerRefs).eraseDups

/-- The name and the placement of a workload, if it has a node affinity. -/
def placed? (w : Workload) : Option (String × List (List String)) :=
  w.nodeAffinity.map fun affinity => (w.metadata.displayName, affinity.hostnames)

/-- The order of placements: by name, then by hostnames. -/
def precedes (a b : String × List (List String)) : Bool :=
  a.1 < b.1 || (a.1 == b.1 && a.2 < b.2)

/-- The first of some placements in their order. -/
def first? : List (String × List (List String)) → Option (String × List (List String))
  | [] => none
  | head :: rest =>
    match first? rest with
    | none => some head
    | some other => if precedes other head then some other else some head

/-- The hostnames, term by term, that the workloads of a resource name at the moment. All of them
share one affinity; the one of the first by name is taken. -/
def placementOf (index : WorkloadIndex) (object : SelectiveDeployment) : List (List String) :=
  match object.uid with
  | none => []
  | some uid =>
    ((first? ((index.workloads.filter (·.isControlledBy uid)).filterMap placed?)).map
      Prod.snd).getD []

end WorkloadIndex

end GeoPlacement
