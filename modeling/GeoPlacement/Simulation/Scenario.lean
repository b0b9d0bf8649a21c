import GeoPlacement.Simulation.World

/-!
# Scenarios

A scenario is what a simulated run starts from: the settings of the controller, the objects and
rules of the server, and the actions from outside. `Scenario.run` plays it up to its horizon and
answers how the run ended and which writes the server saw.
-/

namespace GeoPlacement

/-- What a run starts from. -/
structure Scenario where
  settings : Settings := {}
  objects : List (Watched × Json) := []
  rules : List Rule := []
  latency : Nat := 0
  /-- The actions in order, each with its time. -/
  actions : List (Nat × Action) := []
  /-- The time up to which the run is watched. -/
  horizon : Nat

/-- What was seen of a run. -/
structure Trace where
  ending : Ending
  /-- The writes in the order of their answers. -/
  log : List LogEntry

namespace LogEntry

/-- The name of the written object, empty where the body has none. -/
def name (e : LogEntry) : String :=
  (Server.text? e.body "name").getD ""

/-- The order of two writes by path, then by name. -/
def placeLe (a b : LogEntry) : Bool :=
  a.path < b.path || (a.path == b.path && a.name ≤ b.name)

/-- The order of two writes by time, then by path and name. -/
def timeLe (a b : LogEntry) : Bool :=
  a.time < b.time || (a.time == b.time && placeLe a b)

end LogEntry

/-- The writes by time, path and name, or by path and name alone. -/
def Trace.sorted (t : Trace) (byTime : Bool) : List LogEntry :=
  t.log.mergeSort (if byTime then LogEntry.timeLe else LogEntry.placeLe)

namespace Scenario

/-- The server of a scenario. -/
def server (s : Scenario) : Server :=
  let empty : Server := { rules := s.rules, latency := s.latency }
  s.objects.foldl
    (fun server (collection, object) => (server.store (Server.keyOf collection object) object).1)
    empty

/-- The world of a scenario at its start: every collection is about to be listed. -/
def world (s : Scenario) (controller : Controller) : World where
  controller
  server := s.server
  feeds := Watched.all.foldl (fun feeds collection => feeds.insert collection (.listing 0)) .empty
  agenda := s.actions
  deadline := s.settings.cacheSyncTimeoutSeconds * 1000

/-- **Plays** a scenario. There is no run where the controller cannot be set up. -/
def run (s : Scenario) : Option Trace :=
  (Controller.ofSettings? s.settings).map fun controller =>
    let world := (s.world controller).run s.horizon
    ⟨world.ending.getD .running, world.log.reverse⟩

end Scenario

end GeoPlacement
