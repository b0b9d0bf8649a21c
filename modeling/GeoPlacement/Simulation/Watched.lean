import GeoPlacement.Cluster.Exchange
import GeoPlacement.Object.Node

/-!
# Watched collections

The seven collections that the operator watches, the paths under which they are listed, and what
it sees of them: of the workloads only those that are marked as managed.
-/

namespace GeoPlacement

/-- A collection that the operator watches. -/
inductive Watched
  | nodes
  | resources
  | workloads (kind : Kind)
deriving Repr, DecidableEq

namespace Watched

/-- All watched collections. -/
def all : List Watched := [.resources, .nodes] ++ Kind.all.map .workloads

/-- The name of a collection in paths. -/
def plural : Watched → String
  | nodes => "nodes"
  | resources => resourcePlural
  | workloads kind => kind.plural

/-- The collection of a name. -/
def ofPlural? (plural : String) : Option Watched :=
  all.find? fun collection => collection.plural == plural

/-- The path of a collection. -/
def path : Watched → String
  | nodes => "/api/v1/nodes"
  | resources => ServerPath.everywhere resourceApiVersion resourcePlural
  | workloads kind => ServerPath.everywhere kind.apiVersion kind.plural

/-- The value of the mark of management on an object. -/
def managedBy? (object : Json) : Option String := do
  let metadata ← (← object.members?).get? "metadata"
  let labels ← (← metadata.members?).get? "labels"
  ((← labels.members?).get? Label.managedBy).bind Json.str?

/-- Whether a watch of a collection delivers an object. -/
def shows (w : Watched) (object : Json) : Bool :=
  match w with
  | nodes | resources => true
  | workloads _ => managedBy? object == some Label.manager

end Watched

end GeoPlacement
