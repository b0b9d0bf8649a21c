import GeoPlacement.Object.PodTemplate

/-!
# Workloads

The five kinds of objects that run pods from a template: deployments, daemon sets, stateful sets,
jobs and cron jobs. Four of them hold their template in their own description; a cron job holds
it in the description of the job that it starts, one level deeper (`WorkloadSpec.scheduled`).
`Workload.template?` and `Workload.mapTemplate` reach the template of either form.
-/

namespace GeoPlacement

/-- The kinds of workloads, in the order in which they are processed. -/
inductive Kind
  | deployment
  | daemonSet
  | statefulSet
  | job
  | cronJob
deriving Repr, DecidableEq, Inhabited

namespace Kind

/-- All kinds, in order. -/
def all : List Kind := [.deployment, .daemonSet, .statefulSet, .job, .cronJob]

/-- The name of a kind as it stands in objects and messages. -/
def name : Kind → String
  | deployment => "Deployment"
  | daemonSet => "DaemonSet"
  | statefulSet => "StatefulSet"
  | job => "Job"
  | cronJob => "CronJob"

/-- The kind of a name. -/
def ofName? (name : String) : Option Kind :=
  all.find? (·.name == name)

/-- The group of interfaces to which a kind belongs. -/
def group : Kind → String
  | job | cronJob => "batch"
  | _ => "apps"

/-- The group with its version. -/
def apiVersion (k : Kind) : String :=
  k.group ++ "/v1"

/-- The name under which the server lists the objects of a kind. -/
def plural : Kind → String
  | deployment => "deployments"
  | daemonSet => "daemonsets"
  | statefulSet => "statefulsets"
  | job => "jobs"
  | cronJob => "cronjobs"

/-- The members of the description written before the template. -/
def leadingFields : Kind → List (String × Bool × Shape)
  | deployment => [
      Shape.maybe "minReadySeconds" .int32, Shape.maybe "paused" .flag,
      Shape.maybe "progressDeadlineSeconds" .int32, Shape.maybe "replicas" .int32,
      Shape.maybe "revisionHistoryLimit" .int32, Shape.needed "selector" Catalog.labelSelector,
      Shape.maybe "strategy" .object]
  | daemonSet => [
      Shape.maybe "minReadySeconds" .int32, Shape.maybe "revisionHistoryLimit" .int32,
      Shape.needed "selector" Catalog.labelSelector]
  | statefulSet => [
      Shape.maybe "minReadySeconds" .int32, Shape.maybe "ordinals" .object,
      Shape.maybe "persistentVolumeClaimRetentionPolicy" .object, Shape.maybe "podManagementPolicy" .text,
      Shape.maybe "replicas" .int32, Shape.maybe "revisionHistoryLimit" .int32,
      Shape.needed "selector" Catalog.labelSelector, Shape.maybe "serviceName" .text]
  | job | cronJob => [
      Shape.maybe "activeDeadlineSeconds" .int64, Shape.maybe "backoffLimit" .int32,
      Shape.maybe "backoffLimitPerIndex" .int32, Shape.maybe "completionMode" .text,
      Shape.maybe "completions" .int32, Shape.maybe "managedBy" .text, Shape.maybe "manualSelector" .flag,
      Shape.maybe "maxFailedIndexes" .int32, Shape.maybe "parallelism" .int32,
      Shape.maybe "podFailurePolicy" .object, Shape.maybe "podReplacementPolicy" .text,
      Shape.maybe "selector" Catalog.labelSelector, Shape.maybe "successPolicy" .object,
      Shape.maybe "suspend" .flag]

/-- The members of the description written after the template. -/
def trailingFields : Kind → List (String × Bool × Shape)
  | deployment => []
  | daemonSet => [Shape.maybe "updateStrategy" .object]
  | statefulSet => [Shape.maybe "updateStrategy" .object, Shape.maybe "volumeClaimTemplates" Catalog.objects]
  | job | cronJob => [Shape.maybe "ttlSecondsAfterFinished" .int32]

end Kind

/-- The members of a cron job's schedule written before its job. -/
def Catalog.scheduleLeading : List (String × Bool × Shape) := [
  Shape.maybe "concurrencyPolicy" .text, Shape.maybe "failedJobsHistoryLimit" .int32]

/-- The members of a cron job's schedule written after its job. -/
def Catalog.scheduleTrailing : List (String × Bool × Shape) := [
  Shape.needed "schedule" .text, Shape.maybe "startingDeadlineSeconds" .int64,
  Shape.maybe "successfulJobsHistoryLimit" .int32, Shape.maybe "suspend" .flag, Shape.maybe "timeZone" .text]

/-- A description with a pod template in it. -/
structure TemplateSpec where
  leading : Record
  template : PodTemplate
  trailing : Record
deriving Inhabited

namespace TemplateSpec

/-- Reads the description of a workload; for a cron job, that of its job. -/
def read? (kind : Kind) (value : Json) : Option TemplateSpec := do
  let m ← value.members?
  some {
    leading := ← Shape.readFields? kind.leadingFields m
    template := ← m.orElse "template" {} PodTemplate.read?
    trailing := ← Shape.readFields? kind.trailingFields m }

/-- Writes a description. -/
def write (s : TemplateSpec) : Json :=
  .obj (s.leading ++ [("template", s.template.write)] ++ s.trailing)

end TemplateSpec

/-- The job that a cron job starts. -/
structure JobTemplate where
  metadata : Option Metadata := none
  spec : Option TemplateSpec := none
deriving Inhabited

namespace JobTemplate

/-- Reads the job of a cron job. -/
def read? (value : Json) : Option JobTemplate := do
  let m ← value.members?
  some {
    metadata := ← m.optional "metadata" Metadata.read?
    spec := ← m.optional "spec" (TemplateSpec.read? .cronJob) }

/-- Writes the job of a cron job. -/
def write (t : JobTemplate) : Json :=
  .obj <|
    Json.member? "metadata" Metadata.write t.metadata ++
    Json.member? "spec" TemplateSpec.write t.spec

end JobTemplate

/-- The description of a workload. -/
inductive WorkloadSpec
  /-- The template stands in the description itself. -/
  | direct (spec : TemplateSpec)
  /-- The template stands in the job that a schedule starts. -/
  | scheduled (leading : Record) (job : JobTemplate) (trailing : Record)
deriving Inhabited

namespace WorkloadSpec

/-- The pod template, which a schedule may lack. -/
def template? : WorkloadSpec → Option PodTemplate
  | direct spec => some spec.template
  | scheduled _ job _ => job.spec.map TemplateSpec.template

/-- Applies a function to the pod template. -/
def mapTemplate (f : PodTemplate → PodTemplate) : WorkloadSpec → WorkloadSpec
  | direct spec => direct { spec with template := f spec.template }
  | scheduled leading job trailing =>
    scheduled leading
      { job with spec := job.spec.map fun spec => { spec with template := f spec.template } }
      trailing

/-- Reads the description of a workload of a kind. -/
def read? (kind : Kind) (value : Json) : Option WorkloadSpec :=
  match kind with
  | .cronJob => do
    let m ← value.members?
    let leading ← Shape.readFields? Catalog.scheduleLeading m
    let job ← m.orElse "jobTemplate" {} JobTemplate.read?
    let trailing ← Shape.readFields? Catalog.scheduleTrailing m
    some (scheduled leading job trailing)
  | _ => (TemplateSpec.read? kind value).map direct

/-- Writes a description. -/
def write : WorkloadSpec → Json
  | direct spec => spec.write
  | scheduled leading job trailing =>
    .obj (leading ++ [("jobTemplate", job.write)] ++ trailing)

end WorkloadSpec

/-- A **workload**: an object of one of the five kinds. -/
structure Workload where
  kind : Kind
  metadata : Metadata := {}
  spec : Option WorkloadSpec := none
  status : Option Json := none
deriving Inhabited

/-- Reads a member that, wherever it is written, has to hold the expected text. -/
def Members.expected (m : Members) (name text : String) : Option Unit :=
  if (m.all name).all (·.str? == some text) then some () else none

namespace Workload

/-- The name of the workload. -/
def name (w : Workload) : Option String :=
  w.metadata.name

/-- The pod template of the workload, if it has one. -/
def template? (w : Workload) : Option PodTemplate :=
  w.spec.bind WorkloadSpec.template?

/-- Applies a function to the pod template, if there is one. -/
def mapTemplate (f : PodTemplate → PodTemplate) (w : Workload) : Workload :=
  { w with spec := w.spec.map (WorkloadSpec.mapTemplate f) }

/-- The node affinity of the pods of the workload. -/
def nodeAffinity (w : Workload) : Option NodeAffinity :=
  w.template?.bind PodTemplate.nodeAffinity

/-- Reads a workload of a kind. -/
def read? (kind : Kind) (value : Json) : Option Workload := do
  let m ← value.members?
  m.expected "apiVersion" kind.apiVersion
  m.expected "kind" kind.name
  some {
    kind
    metadata := ← m.orElse "metadata" {} Metadata.read?
    spec := ← m.optional "spec" (WorkloadSpec.read? kind)
    status := ← m.optional "status" (Shape.read? .object) }

/-- Writes a workload. -/
def write (w : Workload) : Json :=
  .obj <|
    [("apiVersion", .str w.kind.apiVersion), ("kind", .str w.kind.name),
      ("metadata", w.metadata.write)] ++
    Json.member? "spec" WorkloadSpec.write w.spec ++
    Json.member? "status" id w.status

/-! ### The template is where it was put -/

/-- The pod template is what the function makes of the one before. -/
theorem template?_mapTemplate (f : PodTemplate → PodTemplate) (w : Workload) :
    (w.mapTemplate f).template? = w.template?.map f := by
  rcases w with ⟨kind, metadata, _ | spec, status⟩
  · rfl
  · rcases spec with spec | ⟨leading, ⟨jobMetadata, _ | spec⟩, trailing⟩ <;> rfl

/-- Two functions may be applied at once. -/
theorem mapTemplate_mapTemplate (f g : PodTemplate → PodTemplate) (w : Workload) :
    (w.mapTemplate f).mapTemplate g = w.mapTemplate (g ∘ f) := by
  rcases w with ⟨kind, metadata, _ | spec, status⟩
  · rfl
  · rcases spec with spec | ⟨leading, ⟨jobMetadata, _ | spec⟩, trailing⟩ <;> rfl

end Workload

end GeoPlacement
