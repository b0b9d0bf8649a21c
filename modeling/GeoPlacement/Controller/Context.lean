import GeoPlacement.Controller.Backoff
import GeoPlacement.Cluster.Memory
import GeoPlacement.Controller.Trigger
import GeoPlacement.Reconcile.Pass

/-!
# The context of passes

What a pass works with besides the cluster: the caches of nodes and workloads and the counts of
failures. `Context.pass?` is the pass over a resource as the caches stand, `Context.afterPass`
says when the resource is due again.
-/

namespace GeoPlacement

/-- The cache key of a node. -/
def Node.reference (n : Node) : ObjectRef :=
  n.metadata.reference

/-- The order of optional names: a missing one comes first. -/
def nameLe : Option String → Option String → Bool
  | none, _ => true
  | some _, none => false
  | some a, some b => a ≤ b

/-- The nodes of a cache in the order of their names. -/
def snapshot (nodes : Cache Node) : List Node :=
  nodes.objects.mergeSort fun a b => nameLe a.metadata.name b.metadata.name

/-- The eligible nodes of a cache in the order of their names. -/
def eligibleNodes (nodes : Cache Node) : List EligibleNode :=
  (snapshot nodes).filterMap EligibleNode.ofNode?

/-- What passes work with. -/
structure Context where
  nodes : Cache Node := {}
  index : WorkloadIndex := {}
  backoff : Backoff
  /-- The time after which a resource is due again without any event. -/
  resync : Nat
deriving Inhabited

namespace Context

/-- Whether a pass may start: the nodes are awaited before the workloads. -/
def readiness (ctx : Context) : Readiness :=
  ctx.nodes.readiness.andThen ctx.index.readiness

/-- The pass over a resource as the caches stand, `none` while their lists are incomplete. -/
def pass? (ctx : Context) (object : SelectiveDeployment) :
    Option (ClusterDialogue (Except PassError Unit)) :=
  match ctx.readiness with
  | .pending => none
  | .lost => some (.done (.error .cacheLost))
  | .ready => some (pass object (eligibleNodes ctx.nodes) (ctx.index.placementOf object))

/-- The delay of a resource whose pass failed. A resource that is given up is due again like any
other. -/
def retry (ctx : Context) (reference : ObjectRef) : Nat × Context :=
  let (delay, backoff) := ctx.backoff.next reference
  (delay.getD ctx.resync, { ctx with backoff })

/-- The count of failures after a pass, which a pass that succeeded starts over. -/
def settle (ctx : Context) (reference : ObjectRef) (result : Except PassError Unit) : Context :=
  match result with
  | .ok () => { ctx with backoff := ctx.backoff.reset reference }
  | .error _ => ctx

/-- The delay before a resource is due again after a pass. -/
def afterPass (ctx : Context) (reference : ObjectRef) (result : Except PassError Unit) :
    Nat × Context :=
  match result with
  | .ok () => (ctx.resync, ctx.settle reference result)
  | .error _ => ctx.retry reference

/-- Runs a pass against a cluster in memory. -/
def reconcile? (ctx : Context) (object : SelectiveDeployment) (cluster : Cluster) :
    Option (Except PassError Unit × Context × Cluster) :=
  (ctx.pass? object).map fun dialogue =>
    let (result, cluster) := cluster.answer dialogue
    (result, ctx.settle object.reference result, cluster)

end Context

end GeoPlacement
