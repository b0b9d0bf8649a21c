import GeoPlacement.Controller.Startup
import GeoPlacement.Controller.State
import GeoPlacement.Simulation.Server

/-!
# The controller in a simulated world

A `World` is the controller, a server, the watches between them, the passes that wait for an
answer, and what is still to be done to the server from outside, on a clock that jumps from one
occurrence to the next. Nothing takes time but the latency of the server and the delays of the
controller. `World.next?` names the earliest occurrence, `World.perform` says what it does, and
`World.run` lets occurrences follow each other up to a horizon.

## Conventions

- Times are in milliseconds from the start.
- Of the occurrences of one moment, the first in the order of `World.upcoming` comes first.
- What a request does to the server happens when its latency is over; a rule is chosen when the
  request is made.
- A list or watch that fails is tried again after `World.retryDelay`, which grows with the number of
  failures since the last event. A watch that is broken off misses changes, which the next list or
  the watch that takes its place brings.
- A change to an object that cannot be read is a failure of the watch as well. The watch passes over
  it and stays open, and the changes after it wait for as long.
-/

namespace GeoPlacement

/-- What is done to a server from outside. -/
inductive Action
  | put (key : ObjectKey) (object : Json)
  | delete (key : ObjectKey)
  /-- The open watch of a collection is broken off. -/
  | breakOff (collection : Watched)
  | addRule (rule : Rule)
  | setLatency (latency : Nat)
  /-- The controller is told to stop. -/
  | terminate

/-- The state of the watch of a collection. Its failures are counted from the last event. -/
inductive Feed
  /-- The collection will be listed. -/
  | listing (time : Nat)
  /-- The collection was listed and will be watched; meanwhile changes are missed. -/
  | connecting (time failures : Nat) (missed : List Change)
  /-- Changes are delivered as they happen. -/
  | watching (failures : Nat)
  /-- The watch rests after an object that could not be read, and changes wait. Once they are
  delivered, it ends if it was broken off. -/
  | resting (time failures : Nat) (waiting : List Change) (isBroken : Bool)
  /-- A request of the watch is never answered. -/
  | silent

/-- A request that is not answered yet. -/
structure Exchange where
  request : HttpRequest
  made : Nat
  /-- The time of the answer, none if there will be no answer. -/
  due : Option Nat
  /-- The failure that a rule answers with. -/
  failure : Option HttpResponse
  next : HttpResponse → HttpDialogue (Except PassError Unit)

/-- How far a pass has come. -/
inductive Stage
  /-- The pass waits for the lists that it depends on. -/
  | awaiting
  | asking (exchange : Exchange)

/-- A pass that runs. -/
structure RunningPass where
  /-- The resource as it stood when the pass started. -/
  object : SelectiveDeployment
  stage : Stage

/-- A write that a server has answered. -/
structure LogEntry where
  time : Nat
  method : Method
  path : String
  status : Nat
  body : Json

/-- How a run ends. -/
inductive Ending
  /-- The horizon was reached. -/
  | running
  /-- The controller has stopped. -/
  | stopped (time : Nat)
  | failed (error : CacheSyncError) (time : Nat)
deriving Repr, DecidableEq

/-- What may happen next. -/
inductive Occurrence
  /-- The time for the first lists is over. -/
  | deadline
  | act (action : Action)
  /-- A collection is listed or watched, or its watch goes on. -/
  | connect (collection : Watched)
  /-- A pass that waited for lists goes on. -/
  | resume (reference : ObjectRef)
  /-- The request of a pass is answered. -/
  | answer (reference : ObjectRef)
  /-- The schedule is looked at. -/
  | schedule

/-- The simulated world. -/
structure World where
  clock : Nat := 0
  controller : Controller
  server : Server := {}
  feeds : Table Watched Feed := .empty
  /-- The passes that run, by the references for which they were started. -/
  passes : Table ObjectRef RunningPass := .empty
  /-- The actions to come, in order, each not before its time. -/
  agenda : List (Nat × Action) := []
  /-- The time by which the first lists have to be there. -/
  deadline : Nat
  isStopping : Bool := false
  ending : Option Ending := none
  /-- The writes, the latest first. -/
  log : List LogEntry := []

/-- Reads the object of an event. -/
def WatchEvent.read? {α β : Type} (read : α → Option β) : WatchEvent α → Option (WatchEvent β)
  | .init => some .init
  | .initApply object => (read object).map .initApply
  | .initDone => some .initDone
  | .apply object => (read object).map .apply
  | .delete object => (read object).map .delete

/-- What a watch delivers for a change: an object that is no longer shown counts as gone. -/
def Change.event? (change : Change) : Option (WatchEvent Json) :=
  let shown := change.key.collection.shows
  match change.before.filter shown, change.after.filter shown with
  | _, some object => some (.apply object)
  | some object, none => some (.delete object)
  | none, none => none

/-- Takes an event of a collection into account at a time, unless its object cannot be read. -/
def Controller.observe? (c : Controller) (now : Nat) (collection : Watched)
    (event : WatchEvent Json) : Option Controller :=
  match collection with
  | .nodes => (event.read? Node.read?).map (c.observeNode now)
  | .resources => (event.read? SelectiveDeployment.read?).map (c.observeResource now)
  | .workloads kind => (event.read? (Workload.read? kind)).map (c.observeWorkload kind)

namespace World

/-- The time after which a list or watch is tried again that failed after so many failures: it
doubles with each of them, up to a bound. -/
def retryDelay (failures : Nat) : Nat :=
  min (800 <<< min failures 6) 30000 * 5 / 4

/-! ### Watches -/

/-- Sets the state of the watch of a collection. -/
def setFeed (w : World) (collection : Watched) (feed : Feed) : World :=
  { w with feeds := w.feeds.insert collection feed }

/-- Lets the watch of a collection deliver changes in order, up to one that cannot be read. -/
def catchUp (w : World) (collection : Watched) (failures : Nat) (isBroken : Bool) :
    List Change → World
  | [] =>
    if isBroken then w.setFeed collection (.listing (w.clock + retryDelay failures))
    else w.setFeed collection (.watching failures)
  | change :: waiting =>
    match change.event? with
    | none => w.catchUp collection failures isBroken waiting
    | some event =>
      match w.controller.observe? w.clock collection event with
      | some controller => { w with controller }.catchUp collection 0 isBroken waiting
      | none =>
        let time := w.clock + retryDelay failures
        w.setFeed collection (.resting time (failures + 1) waiting isBroken)

/-- Lets the watch of a collection see a change. -/
def deliver (w : World) (change : Change) : World :=
  let collection := change.key.collection
  match w.feeds.get? collection with
  | some (.watching failures) => w.catchUp collection failures false [change]
  | some (.connecting time failures missed) =>
    w.setFeed collection (.connecting time failures (missed ++ [change]))
  | some (.resting time failures waiting false) =>
    w.setFeed collection (.resting time failures (waiting ++ [change]) false)
  | some (.listing _) | some (.resting _ _ _ true) | some .silent | none => w

/-- Watches a collection that was listed, after so many failures. -/
def watch (w : World) (collection : Watched) (failures : Nat) (missed : List Change) : World :=
  let (answer, server) := w.server.applyRules "WATCH" collection.path
  let w := { w with server }
  match answer with
  | some .hang => w.setFeed collection .silent
  | some (.failure ..) =>
    w.setFeed collection (.connecting (w.clock + retryDelay failures) (failures + 1) missed)
  | none => w.catchUp collection failures false missed

/-- The controller after the list of a collection has arrived. -/
def listed? (w : World) (collection : Watched) : Option Controller :=
  let events : List (WatchEvent Json) :=
    [.init] ++ (w.server.visible collection).map .initApply ++ [.initDone]
  events.foldlM (fun c event => c.observe? w.clock collection event) w.controller

/-- Lists a collection. -/
def list (w : World) (collection : Watched) : World :=
  let (answer, server) := w.server.applyRules "LIST" collection.path
  let w := { w with server }
  let again := w.setFeed collection (.listing (w.clock + retryDelay 0))
  match answer with
  | some .hang => w.setFeed collection .silent
  | some (.failure ..) => again
  | none =>
    match w.listed? collection with
    | some controller => { w with controller }.watch collection 0 []
    | none => again

/-- Goes on with the watch of a collection. -/
def connect (w : World) (collection : Watched) : World :=
  match w.feeds.get? collection with
  | some (.listing _) => w.list collection
  | some (.connecting _ failures missed) => w.watch collection failures missed
  | some (.resting _ failures waiting isBroken) =>
    w.catchUp collection failures isBroken waiting
  | some (.watching _) | some .silent | none => w

/-! ### Passes -/

/-- Ends the run when the controller is to stop and no pass is left. -/
def settle (w : World) : World :=
  if w.isStopping && w.passes.entries.isEmpty then { w with ending := some (.stopped w.clock) }
  else w

/-- Goes on with a pass: its next request is made, or it has ended. -/
def proceed (w : World) (reference : ObjectRef) (object : SelectiveDeployment) :
    HttpDialogue (Except PassError Unit) → World
  | .done result =>
    settle { w with
      controller := w.controller.finish w.clock reference object result
      passes := w.passes.erase reference }
  | .ask request next =>
    let (answer, server) := w.server.applyRules request.method.name request.path
    let due := if answer = some .hang then none else some (w.clock + server.latency)
    let failure := match answer with
      | some (.failure status reason) => some (Server.refuse status reason)
      | some .hang | none => none
    let exchange : Exchange := { request, made := w.clock, due, failure, next }
    { w with server, passes := w.passes.insert reference ⟨object, .asking exchange⟩ }

/-- Starts a pass, or lets it wait for the lists it depends on. -/
def begin (w : World) (reference : ObjectRef) (object : SelectiveDeployment) : World :=
  match w.controller.context.pass? object with
  | none => { w with passes := w.passes.insert reference ⟨object, .awaiting⟩ }
  | some dialogue => w.proceed reference object (HttpDialogue.carry dialogue)

/-- The body of a write as it is logged; of a status, nothing but the status. -/
def loggedBody (request : HttpRequest) : Json :=
  let body := request.body.getD .null
  match Target.ofPath? request.path with
  | some ⟨_, _, _, true⟩ => ((body.members?).bind (·.get? "status")).getD .null
  | _ => body

/-- Logs a write with the status it was answered with. -/
def record (w : World) (exchange : Exchange) (response : HttpResponse) : World :=
  match exchange.request.method with
  | .get => w
  | method =>
    let entry : LogEntry :=
      { time := exchange.made, method, path := exchange.request.path
        status := response.status, body := loggedBody exchange.request }
    { w with log := entry :: w.log }

/-- Answers the request of a pass. -/
def answer (w : World) (reference : ObjectRef) (object : SelectiveDeployment)
    (exchange : Exchange) : World :=
  match exchange.failure with
  | some response =>
    (w.record exchange response).proceed reference object (exchange.next response)
  | none =>
    let (response, server, change) := w.server.respond exchange.request
    let w := ({ w with server }.record exchange response)
    let w := match change with
      | some change => w.deliver change
      | none => w
    w.proceed reference object (exchange.next response)

/-- Lets scheduled passes become due and starts the first that may start. -/
def consult (w : World) : World :=
  let w := { w with controller :=
    { w.controller with schedule := w.controller.schedule.promote w.clock } }
  match w.controller.startable? with
  | none => w
  | some reference =>
    let (object, controller) := w.controller.start reference
    let w := { w with controller }
    match object with
    | none => w
    | some object => w.begin reference object

/-! ### Actions -/

/-- Tells the controller to stop; told twice, it stops at once. -/
def terminate (w : World) : World :=
  if w.isStopping then { w with ending := some (.stopped w.clock) }
  else settle { w with isStopping := true }

/-- Does what is to be done from outside. -/
def act (w : World) : Action → World
  | .put key object =>
    let (server, change) := w.server.store key object
    { w with server }.deliver change
  | .delete key =>
    let (server, change) := w.server.remove key
    { w with server }.deliver change
  | .breakOff collection =>
    match w.feeds.get? collection with
    | some (.watching failures) =>
      w.setFeed collection (.listing (w.clock + retryDelay failures))
    | some (.resting time failures waiting _) =>
      w.setFeed collection (.resting time failures waiting true)
    | some (.listing _) | some (.connecting ..) | some .silent | none => w
  | .addRule rule => { w with server := { w.server with rules := w.server.rules ++ [rule] } }
  | .setLatency latency => { w with server := { w.server with latency } }
  | .terminate => w.terminate

/-! ### Occurrences -/

/-- The end of the time for the first lists. -/
def upcomingDeadline (w : World) : List (Nat × Occurrence) :=
  if w.controller.isSynced then [] else [(w.deadline, .deadline)]

/-- The next action. -/
def upcomingAction (w : World) : List (Nat × Occurrence) :=
  (w.agenda.head?.map fun entry => (entry.1, .act entry.2)).toList

/-- The next step of a watch. -/
def upcomingConnection (entry : Watched × Feed) : Option (Nat × Occurrence) :=
  match entry.2 with
  | .listing time | .connecting time .. | .resting time .. => some (time, .connect entry.1)
  | .watching _ | .silent => none

/-- The next step of a pass. -/
def upcomingStage (w : World) (entry : ObjectRef × RunningPass) : Option (Nat × Occurrence) :=
  match entry.2.stage with
  | .awaiting =>
    if w.controller.context.readiness = .pending then none
    else some (w.clock, .resume entry.1)
  | .asking exchange => exchange.due.map fun due => (due, .answer entry.1)

/-- The next look at the schedule. -/
def upcomingSchedule (w : World) : List (Nat × Occurrence) :=
  if w.isStopping then []
  else if w.controller.startable?.isSome then [(w.clock, .schedule)]
  else (w.controller.schedule.nextTime?.map fun time => (time, .schedule)).toList

/-- All that may happen next. -/
def upcoming (w : World) : List (Nat × Occurrence) :=
  w.upcomingDeadline ++ w.upcomingAction ++ w.feeds.entries.filterMap upcomingConnection ++
    w.passes.entries.filterMap w.upcomingStage ++ w.upcomingSchedule

/-- The earliest of some occurrences, of equally early ones the first. -/
def earliest? : List (Nat × Occurrence) → Option (Nat × Occurrence)
  | [] => none
  | head :: rest =>
    match earliest? rest with
    | none => some head
    | some other => if other.1 < head.1 then some other else some head

/-- What happens next, unless the run has ended. What is late happens now. -/
def next? (w : World) : Option (Nat × Occurrence) :=
  match w.ending with
  | some _ => none
  | none => (earliest? w.upcoming).map fun (time, occurrence) => (max w.clock time, occurrence)

/-- Lets something happen. -/
def perform (w : World) : Occurrence → World
  | .deadline => { w with ending := some (.failed .elapsed w.clock) }
  | .act action => { w with agenda := w.agenda.tail }.act action
  | .connect collection => w.connect collection
  | .resume reference =>
    match w.passes.get? reference with
    | some ⟨object, .awaiting⟩ => w.begin reference object
    | some ⟨_, .asking _⟩ | none => w
  | .answer reference =>
    match w.passes.get? reference with
    | some ⟨object, .asking exchange⟩ => w.answer reference object exchange
    | some ⟨_, .awaiting⟩ | none => w
  | .schedule => w.consult

/-- The world after what happens next, if that is before the horizon. -/
def step? (horizon : Nat) (w : World) : Option World :=
  match w.next? with
  | none => none
  | some (time, occurrence) =>
    if time < horizon then some ({ w with clock := time }.perform occurrence) else none

/-- The world after all that happens before the horizon, in so many steps at most. -/
def runWithin (horizon : Nat) : Nat → World → World
  | 0, w => w
  | steps + 1, w =>
    match w.step? horizon with
    | none => w
    | some w => runWithin horizon steps w

/-- The number of steps that a run may take: far more than the passes of a run need, whose
delays are positive. -/
def budget (horizon : Nat) : Nat :=
  100000 + 1000 * horizon

/-- The world after all that happens before the horizon. -/
def run (horizon : Nat) (w : World) : World :=
  runWithin horizon (budget horizon) w

end World

end GeoPlacement
