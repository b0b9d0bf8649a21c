import GeoPlacement.Object.Workload
import GeoPlacement.Resource.Labels
import GeoPlacement.Resource.Selector
import GeoPlacement.Resource.Status

/-!
# Selective deployments

The operator's own resource: a tenant declares workloads, grouped by kind, and the selectors that
say where they may run. Older manifests name the declared workloads `workloads` instead of
`controllers`; both are read, one at a time, and the newer name is written.
-/

namespace GeoPlacement

/-- The declared workloads, grouped by kind. -/
structure Controllers where
  deployment : List Workload := []
  daemonSet : List Workload := []
  statefulSet : List Workload := []
  job : List Workload := []
  cronJob : List Workload := []
deriving Inhabited

namespace Controllers

/-- The member that holds the workloads of a kind. -/
def memberName : Kind → String
  | .deployment => "deployment"
  | .daemonSet => "daemonset"
  | .statefulSet => "statefulset"
  | .job => "job"
  | .cronJob => "cronjob"

/-- The declared workloads of a kind. -/
def ofKind (c : Controllers) : Kind → List Workload
  | .deployment => c.deployment
  | .daemonSet => c.daemonSet
  | .statefulSet => c.statefulSet
  | .job => c.job
  | .cronJob => c.cronJob

/-- All declared workloads, kind by kind, in the order of declaration within a kind. -/
def declared (c : Controllers) : List Workload :=
  Kind.all.flatMap c.ofKind

/-- The number of declared workloads. -/
def size (c : Controllers) : Nat :=
  c.deployment.length + c.daemonSet.length + c.statefulSet.length + c.job.length +
    c.cronJob.length

/-- Whether nothing is declared. -/
def isEmpty (c : Controllers) : Bool :=
  c.size == 0

/-- The size of a declaration is the number of its workloads. -/
theorem length_declared (c : Controllers) : c.declared.length = c.size := by
  simp [declared, Kind.all, ofKind, size]
  omega

/-- Reads the declared workloads. -/
def read? (value : Json) : Option Controllers := do
  let m ← value.structure? (Kind.all.map memberName)
  let ofKind (kind : Kind) : Option (List Workload) :=
    m.absentOr (memberName kind) [] (Json.list? (Workload.read? kind))
  some {
    deployment := ← ofKind .deployment
    daemonSet := ← ofKind .daemonSet
    statefulSet := ← ofKind .statefulSet
    job := ← ofKind .job
    cronJob := ← ofKind .cronJob }

/-- Writes the declared workloads; a kind of which none is declared is left out. -/
def write (c : Controllers) : Json :=
  .obj <| Kind.all.flatMap fun kind =>
    match c.ofKind kind with
    | [] => []
    | workloads => [(memberName kind, Json.ofList Workload.write workloads)]

end Controllers

/-- What a tenant asks for. -/
structure Spec where
  controllers : Controllers := {}
  selector : List Selector := []
  /-- Whether the placement is to be computed anew when a chosen node is lost. -/
  recovery : Bool := false
deriving Inhabited

namespace Spec

/-- The members of a description in the order of declaration. -/
def names : List String := ["controllers", "selector", "recovery"]

/-- The declared workloads under either of their two names, but not under both. -/
def controllers? (m : Members) : Option Controllers :=
  match m.all "controllers" ++ m.all "workloads" with
  | [] => some {}
  | [value] => Controllers.read? value
  | _ :: _ :: _ => none

/-- Reads a description. -/
def read? (value : Json) : Option Spec := do
  let m ← value.structure? names
  some {
    controllers := ← controllers? m
    selector := ← m.absentOr "selector" [] (Json.list? Selector.read?)
    recovery := ← m.absentOr "recovery" false Json.bool? }

/-- Writes a description. -/
def write (s : Spec) : Json :=
  .obj [("controllers", s.controllers.write), ("selector", Json.ofList Selector.write s.selector),
    ("recovery", .bool s.recovery)]

end Spec

/-- A **selective deployment**. -/
structure SelectiveDeployment where
  metadata : Metadata
  spec : Spec
  status : Option Status := none
deriving Inhabited

namespace SelectiveDeployment

/-- The members of a resource where it is written as a list, which then has all of them. -/
def members? : Json → Option Members
  | .obj members => some members
  | .arr [metadata, spec, status] =>
    some [("metadata", metadata), ("spec", spec), ("status", status)]
  | _ => none

/-- Reads a resource. -/
def read? (value : Json) : Option SelectiveDeployment := do
  let m ← members? value
  some {
    metadata := ← m.required "metadata" Metadata.read?
    spec := ← m.required "spec" Spec.read?
    status := ← m.maybe "status" Status.read? }

/-- Writes a resource. -/
def write (o : SelectiveDeployment) : Json :=
  .obj <|
    [("apiVersion", .str resourceApiVersion), ("kind", .str resourceKind),
      ("metadata", o.metadata.write), ("spec", o.spec.write)] ++
    Json.member? "status" Status.write o.status

/-- The namespace of a resource. -/
def inNamespace (o : SelectiveDeployment) : Option String :=
  o.metadata.inNamespace

/-- The identifier that the server gave a resource. -/
def uid (o : SelectiveDeployment) : Option String :=
  o.metadata.uid

end SelectiveDeployment

end GeoPlacement
