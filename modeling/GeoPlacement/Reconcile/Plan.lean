import GeoPlacement.Cluster.Ownership
import GeoPlacement.Cluster.Request
import GeoPlacement.Digest.Sha256
import GeoPlacement.Placement.Compile
import GeoPlacement.Reconcile.Report

/-!
# Plans

A plan is the placement resolved for one pass over a resource. Executing it applies every
declared workload in turn: the **desired** object is derived from the declaration, the stored one
is looked up, and the two are brought together by at most one write. Workloads are independent:
a failure of one does not keep the others from being applied.

An object that is in sync with the desired one is not written. What is compared is what the
operator owns: the digest of the declaration, the mark of management, the controller and the node
affinity.
-/

namespace GeoPlacement

/-- Why a plan cannot be executed at all. -/
inductive PlanError
  /-- The resource has no namespace. -/
  | missingNamespace
  /-- The resource lacks what it takes to own a workload. -/
  | missingOwner
deriving Repr, DecidableEq

/-- The text of a failure. -/
def PlanError.message : PlanError → String
  | missingNamespace => "Missing resource namespace."
  | missingOwner => "Could not take owner reference."

/-- The placement resolved for one pass. -/
structure Plan where
  selections : List Selection
  affinity : Option NodeAffinity
deriving Repr, DecidableEq

namespace Plan

/-- Resolves the selectors of a description. `placed` holds the hostnames of each term that is
written to the workloads at the moment; terms and selectors belong together by position. -/
def resolveAll (nodes : List EligibleNode) : List Selector → List (List String) → List Selection
  | [], _ => []
  | selector :: rest, placed =>
    Selection.resolve selector nodes (placed.headD []) :: resolveAll nodes rest placed.tail

/-- The plan for a description. -/
def make (spec : Spec) (nodes : List EligibleNode) (placed : List (List String)) : Plan :=
  let selections := resolveAll nodes spec.selector placed
  { selections, affinity := compile selections }

/-! ### The desired object -/

/-- Clears what a server sets on an object and puts it into a namespace. -/
def clearServerFields (inNamespace : String) (m : Metadata) : Metadata :=
  { m with
    inNamespace := some inNamespace
    resourceVersion := none
    uid := none
    generation := none
    creationTimestamp := none
    deletionTimestamp := none
    managedFields := none }

/-- Applies a function to the metadata of a workload. -/
def mapMetadata (f : Metadata → Metadata) (w : Workload) : Workload :=
  { w with metadata := f w.metadata }

/-- The digest of an object as it is written, apart from the annotation that will hold it. -/
def digest (w : Workload) : String :=
  Sha256.hex w.write.compact

/-- Annotates an object with its digest. -/
def withDigest (w : Workload) : Workload :=
  let bare := mapMetadata (·.unannotate templateHash) w
  mapMetadata (·.annotate templateHash (digest bare)) bare

/-- Derives the object to be stored from its declaration: `none` inside if the declaration has no
pod template to carry the affinity. -/
def desired (plan : Plan) (owner : Metadata) (inNamespace : String) (declared : Workload) :
    Except PlanError (Option Workload) :=
  match (mapMetadata (clearServerFields inNamespace) declared).injectAffinity plan.affinity with
  | (false, _) => .ok none
  | (true, placed) =>
    match placed.metadata.setOwner? owner with
    | none => .error .missingOwner
    | some metadata => .ok (some (withDigest { placed with metadata }))

/-- Whether a stored object still carries what the operator owns of the desired one. -/
def inSync (current desired : Workload) : Bool :=
  current.metadata.annotation? templateHash == desired.metadata.annotation? templateHash &&
    current.metadata.label? Label.managedBy == desired.metadata.label? Label.managedBy &&
    current.metadata.controller? == desired.metadata.controller? &&
    current.nodeAffinity == desired.nodeAffinity

/-! ### Execution -/

/-- The object by which a stored one is replaced, which carries the version that was read. -/
def carryVersion (current desired : Workload) : Workload :=
  mapMetadata (fun m => { m with resourceVersion := current.metadata.resourceVersion }) desired

/-- Creates an object. -/
def create (inNamespace : String) (object : Workload) : ClusterDialogue Outcome :=
  .ask (.create inNamespace object) fun
    | .ok _ => .done .created
    | .error error => .done (.failed .create error.message)

/-- Replaces an object. -/
def replace (inNamespace : String) (object : Workload) : ClusterDialogue Outcome :=
  .ask (.replace inNamespace object) fun
    | .ok _ => .done .updated
    | .error error => .done (.failed .update error.message)

/-- Brings the stored object to the desired one. -/
def settle (owner : Metadata) (inNamespace : String) (desired : Workload) :
    Option Workload → ClusterDialogue Outcome
  | none => create inNamespace desired
  | some current =>
    match current.metadata.ownership owner with
    | .foreign other => .done (.inUse other)
    | .unclaimed => replace inNamespace (carryVersion current desired)
    | .owned =>
      if inSync current desired then .done .unchanged
      else replace inNamespace (carryVersion current desired)

/-- Applies one declared workload. -/
def apply (plan : Plan) (owner : Metadata) (inNamespace : String) (declared : Workload) :
    ClusterDialogue (Except PlanError Outcome) :=
  match declared.name with
  | none => .done (.ok (.invalid "missing name"))
  | some name =>
    match plan.desired owner inNamespace declared with
    | .error error => .done (.error error)
    | .ok none => .done (.ok (.invalid "missing pod template"))
    | .ok (some desired) =>
      .ask (.get declared.kind inNamespace name) fun
        | .error error => .done (.ok (.failed .get error.message))
        | .ok current => (settle owner inNamespace desired current).bind fun outcome =>
          .done (.ok outcome)

/-- Applies declared workloads in order and reports on each. -/
def applyAll (plan : Plan) (owner : Metadata) (inNamespace : String) :
    List Workload → ClusterDialogue (Except PlanError (List Report))
  | [] => .done (.ok [])
  | declared :: rest =>
    (plan.apply owner inNamespace declared).bind fun
      | .error error => .done (.error error)
      | .ok outcome =>
        let report : Report := ⟨declared.kind, declared.metadata.displayName, outcome⟩
        (applyAll plan owner inNamespace rest).bind fun reports =>
          .done (reports.map (report :: ·))

/-- **Executes** a plan for a resource. -/
def execute (plan : Plan) (object : SelectiveDeployment) :
    ClusterDialogue (Except PlanError (List Report)) :=
  match object.inNamespace with
  | none => .done (.error .missingNamespace)
  | some inNamespace =>
    plan.applyAll object.metadata inNamespace object.spec.controllers.declared

end Plan

end GeoPlacement
