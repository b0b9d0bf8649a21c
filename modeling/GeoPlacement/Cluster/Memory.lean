import GeoPlacement.Cluster.Count
import GeoPlacement.Cluster.Request
import GeoPlacement.Collection.Table

/-!
# A cluster in memory

`Cluster` holds workloads by kind, namespace and name and answers the requests of the operator
like a server does: it refuses to create what is there, to replace what is not, and to replace an
object from a version that is no longer the stored one. Failures of single workloads can be
injected, and the successful writes are counted.

Versions are numbers of 64 bits. After the last of them the next one is zero, as it is where sums
**wrap around** (`Cluster.answer`). Where sums are **checked**, a request for the version after the
last one stops the whole run instead (`Cluster.checkedAnswer`).
-/

namespace GeoPlacement

/-- Where a workload is kept. -/
structure WorkloadKey where
  kind : Kind
  inNamespace : String
  name : String
deriving Repr, DecidableEq

/-- A cluster that keeps its objects in memory. -/
structure Cluster where
  workloads : Table WorkloadKey Workload := .empty
  /-- The status last written for a resource, by name. -/
  statuses : Table String Status := .empty
  /-- The workloads whose writes fail, in whatever namespace. -/
  writeFaults : List (Kind × String) := []
  /-- The workloads whose reads fail, in whatever namespace. -/
  readFaults : List (Kind × String) := []
  /-- The failure with which every write of a status ends, if any. -/
  statusFault : Option StatusError := none
  /-- The number of workloads created or replaced. -/
  writes : Nat := 0
deriving Inhabited

namespace Cluster

/-- The stored workload of a key. -/
def stored (c : Cluster) (key : WorkloadKey) : Option Workload :=
  c.workloads.get? key

/-- Puts a workload as it is, without counting it as a write. -/
def put (c : Cluster) (inNamespace : String) (w : Workload) : Cluster :=
  { c with workloads := c.workloads.insert ⟨w.kind, inNamespace, w.metadata.displayName⟩ w }

/-- The number of a resource version, zero where it is missing or no number of 64 bits. -/
def versionNumber (w : Workload) : UInt64 :=
  .ofNat ((w.metadata.resourceVersion.bind (readCount? UInt64.size)).getD 0)

/-- The workload as it is stored under a namespace and a version. -/
def stamp (inNamespace : String) (version : UInt64) (w : Workload) : Workload :=
  { w with metadata := { w.metadata with
      inNamespace := some inNamespace
      resourceVersion := some (toString version) } }

/-- The version under which a workload may be stored: the first one for a creation, the next one
for a replacement of the version that is there. The sum wraps around to zero after the last
version. -/
def nextVersion (current : Option Workload) (w : Workload) (isCreation : Bool) :
    Except Refusal UInt64 :=
  match current, isCreation with
  | some _, true => .error .alreadyExists
  | none, false => .error .notFound
  | none, true => .ok 1
  | some old, false =>
    if old.metadata.resourceVersion = w.metadata.resourceVersion then .ok (versionNumber old + 1)
    else .error .modified

/-- Creates or replaces a workload. -/
def write (c : Cluster) (inNamespace : String) (w : Workload) (isCreation : Bool) :
    Except ClientError Workload × Cluster :=
  match w.name with
  | none => (.error .missingName, c)
  | some name =>
    if (w.kind, name) ∈ c.writeFaults then
      (.error (.refused w.kind name .rejected), c)
    else
      let key : WorkloadKey := ⟨w.kind, inNamespace, name⟩
      match nextVersion (c.stored key) w isCreation with
      | .error cause => (.error (.refused w.kind name cause), c)
      | .ok version =>
        let object := stamp inNamespace version w
        (.ok object, { c with
          workloads := c.workloads.insert key object, writes := c.writes + 1 })

/-- Looks a workload up. -/
def read (c : Cluster) (kind : Kind) (inNamespace name : String) :
    Except ClientError (Option Workload) :=
  if (kind, name) ∈ c.readFaults then .error (.refused kind name .unreadable)
  else .ok (c.stored ⟨kind, inNamespace, name⟩)

/-- Writes the status of a resource. -/
def writeStatus (c : Cluster) (o : SelectiveDeployment) (s : Status) :
    Except StatusError Unit × Cluster :=
  match c.statusFault with
  | some error => (.error error, c)
  | none => (.ok (), { c with statuses := c.statuses.insert o.metadata.displayName s })

/-- **Answers** a request. -/
def respond : (r : Request) → Cluster → r.Reply × Cluster
  | .get kind inNamespace name, c => (c.read kind inNamespace name, c)
  | .create inNamespace object, c => c.write inNamespace object true
  | .replace inNamespace object, c => c.write inNamespace object false
  | .setStatus object status, c => c.writeStatus object status

/-- Runs a dialogue against the cluster. -/
def answer {α : Type} (c : Cluster) (d : ClusterDialogue α) : α × Cluster :=
  d.answer respond c

/-- Whether the answer to a request takes the version after the last one: a replacement that is not
refused does, of a workload that is stored under the last version. -/
def wrapsAround (c : Cluster) : Request → Bool
  | .replace inNamespace object =>
    object.name.any fun name =>
      !c.writeFaults.contains (object.kind, name) &&
        (c.stored ⟨object.kind, inNamespace, name⟩).any fun current =>
          current.metadata.resourceVersion == object.metadata.resourceVersion &&
            versionNumber current + 1 == 0
  | .get .. | .create .. | .setStatus .. => false

/-- Runs a dialogue against the cluster **with sums checked**: there is no result once a version
would wrap around. -/
def checkedAnswer {α : Type} (c : Cluster) (d : ClusterDialogue α) : Option (α × Cluster) :=
  d.answerUnless respond (fun request c => c.wrapsAround request) c

variable {α β : Type} {c : Cluster}

/-- A question is answered before the run goes on. -/
theorem answer_ask (request : Request) (next : request.Reply → ClusterDialogue α) :
    c.answer (.ask request next) = (c.respond request).2.answer (next (c.respond request).1) :=
  rfl

/-- A question stops the run, or is answered before the run goes on. -/
theorem checkedAnswer_ask (request : Request) (next : request.Reply → ClusterDialogue α) :
    c.checkedAnswer (.ask request next) =
      if c.wrapsAround request = true then none
      else (c.respond request).2.checkedAnswer (next (c.respond request).1) :=
  rfl

/-- One dialogue after another is run against the cluster that the first one leaves. -/
theorem answer_bind (d : ClusterDialogue α) (f : α → ClusterDialogue β) :
    c.answer (d.bind f) = (c.answer d).2.answer (f (c.answer d).1) :=
  d.answer_bind ..

/-- One dialogue after another is stopped if either one is. -/
theorem checkedAnswer_bind (d : ClusterDialogue α) (f : α → ClusterDialogue β) :
    c.checkedAnswer (d.bind f) =
      (c.checkedAnswer d).bind fun result => result.2.checkedAnswer (f result.1) :=
  d.answerUnless_bind ..

/-- A dialogue is stopped, or has the result that it has where sums wrap around. -/
theorem checkedAnswer_eq_none_or (c : Cluster) (d : ClusterDialogue α) :
    c.checkedAnswer d = none ∨ c.checkedAnswer d = some (c.answer d) :=
  d.answerUnless_eq_none_or ..

end Cluster

end GeoPlacement
