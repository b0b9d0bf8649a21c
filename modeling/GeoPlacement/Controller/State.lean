import GeoPlacement.Controller.Context
import GeoPlacement.Controller.Generation
import GeoPlacement.Controller.Schedule

/-!
# The state of the controller

All that the controller knows between two events: its caches, the fingerprints of the nodes, the
generations it has seen, the counts of failures and the passes to come. The functions below say
what an event does to it and when passes start and end. What a pass does in between is its
dialogue with the cluster, which is held by whoever runs the controller.

## Rules

- A resource that is listed, new or changed is due if it is news; a node event makes due what it
  affects. Resources that are gone make nothing due.
- No pass starts before the resources are listed, none for a resource while another one for it is
  running, and none beyond the bound on passes that run at a time.
- A pass over a resource that is gone does nothing.
- When a pass has ended, its resource is due again after the resync interval, or after the delay
  of its failure.
-/

namespace GeoPlacement

/-- The state of the **controller**. -/
structure Controller where
  context : Context
  resources : Cache SelectiveDeployment := {}
  tracker : NodeTracker := {}
  generations : Generations := {}
  schedule : Schedule
  /-- How many passes may run at a time; zero sets no bound. -/
  threadiness : Nat
  /-- The resources over which a pass is running. -/
  running : List ObjectRef := []
deriving Inhabited

namespace Controller

/-- The controller as it starts, if its backoff can be set up. -/
def ofSettings? (s : Settings) : Option Controller :=
  (Backoff.ofSettings? s.backoff).map fun backoff => {
    context := { backoff, resync := s.resyncSeconds * 1000 }
    schedule := { debounce := s.debounceSeconds * 1000 }
    threadiness := s.threadiness }

/-- Whether every list that the controller depends on has arrived. -/
def isSynced (c : Controller) : Bool :=
  c.resources.isReady && c.context.readiness == .ready

/-! ### Events -/

/-- Takes a node event into account at a time. -/
def observeNode (c : Controller) (now : Nat) (event : WatchEvent Node) : Controller :=
  let nodes := c.context.nodes.observe Node.reference event
  let (affected, tracker) := Trigger.affected c.tracker c.context.index c.resources event
  { c with
    context := { c.context with nodes }
    tracker
    schedule := c.schedule.requestAll now affected }

/-- Asks for a pass over a resource that was seen, if it is news. -/
def consider (c : Controller) (now : Nat) (object : SelectiveDeployment) : Controller :=
  let (isNews, generations) := c.generations.observe object.metadata
  { c with
    generations
    schedule := if isNews then c.schedule.request now now object.reference else c.schedule }

/-- Takes an event of the resources into account at a time. -/
def observeResource (c : Controller) (now : Nat) (event : WatchEvent SelectiveDeployment) :
    Controller :=
  let c := { c with resources := c.resources.observe SelectiveDeployment.reference event }
  match event with
  | .apply object | .initApply object => c.consider now object
  | .init | .initDone | .delete _ => c

/-- Takes an event of the workloads of a kind into account. -/
def observeWorkload (c : Controller) (kind : Kind) (event : WatchEvent Workload) : Controller :=
  { c with context := { c.context with index := c.context.index.observe kind event } }

/-! ### Passes -/

/-- Whether another pass may run. -/
def hasCapacity (c : Controller) : Bool :=
  c.threadiness == 0 || c.running.length < c.threadiness

/-- The resource over which the next pass may start: due, and not under a pass. -/
def startable? (c : Controller) : Option ObjectRef :=
  if c.resources.isReady && c.hasCapacity then
    c.schedule.due.find? fun reference => !c.running.contains reference
  else none

/-- Starts the pass over a resource: the resource as it stands, none if it is gone. -/
def start (c : Controller) (reference : ObjectRef) : Option SelectiveDeployment × Controller :=
  let c := { c with schedule := c.schedule.take reference }
  match c.resources.get? reference with
  | none => (none, c)
  | some object => (some object, { c with running := reference :: c.running })

/-- Ends the pass that was started for a reference over an object. Failures are counted for the
object, which may belong to the whole cluster where the reference names a namespace. -/
def finish (c : Controller) (now : Nat) (reference : ObjectRef) (object : SelectiveDeployment)
    (result : Except PassError Unit) : Controller :=
  let (delay, context) := c.context.afterPass object.reference result
  { c with
    context
    schedule := c.schedule.request now (now + delay) reference
    running := c.running.erase reference }

end Controller

end GeoPlacement
