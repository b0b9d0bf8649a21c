import GeoPlacement.Object.Metadata
import GeoPlacement.Object.NodeAffinity

/-!
# Pod templates

The template from which a workload makes its pods. The operator reads and sets the node affinity
of a template; the other members are carried along.
-/

namespace GeoPlacement

/-- The three affinities of a pod. -/
structure Affinity where
  nodeAffinity : Option NodeAffinity := none
  podAffinity : Option Json := none
  podAntiAffinity : Option Json := none
deriving Inhabited

namespace Affinity

/-- Whether no affinity is given. -/
def isEmpty (a : Affinity) : Bool :=
  a.nodeAffinity.isNone && a.podAffinity.isNone && a.podAntiAffinity.isNone

/-- Reads an affinity. -/
def read? (value : Json) : Option Affinity := do
  let m ← value.members?
  some {
    nodeAffinity := ← m.optional "nodeAffinity" NodeAffinity.read?
    podAffinity := ← m.optional "podAffinity" Catalog.podAffinity.read?
    podAntiAffinity := ← m.optional "podAntiAffinity" Catalog.podAffinity.read? }

/-- Writes an affinity. -/
def write (a : Affinity) : Json :=
  .obj <|
    Json.member? "nodeAffinity" NodeAffinity.write a.nodeAffinity ++
    Json.member? "podAffinity" id a.podAffinity ++
    Json.member? "podAntiAffinity" id a.podAntiAffinity

end Affinity

/-- The description of a pod: its affinity, the one member written before it, and all the members
written after it. -/
structure PodSpec where
  activeDeadlineSeconds : Option Int64 := none
  affinity : Option Affinity := none
  others : Record := [("containers", .arr [])]
deriving Inhabited

namespace PodSpec

/-- Reads the description of a pod. -/
def read? (value : Json) : Option PodSpec := do
  let m ← value.members?
  some {
    activeDeadlineSeconds := ← m.optional "activeDeadlineSeconds" Json.int64?
    affinity := ← m.optional "affinity" Affinity.read?
    others := ← Shape.readFields? Catalog.podFields m }

/-- Writes the description of a pod. -/
def write (s : PodSpec) : Json :=
  .obj <|
    Json.member? "activeDeadlineSeconds" Json.ofInt64 s.activeDeadlineSeconds ++
    Json.member? "affinity" Affinity.write s.affinity ++
    s.others

end PodSpec

/-- A template of pods. -/
structure PodTemplate where
  metadata : Option Metadata := none
  spec : Option PodSpec := none
deriving Inhabited

namespace PodTemplate

/-- Reads a template. -/
def read? (value : Json) : Option PodTemplate := do
  let m ← value.members?
  some {
    metadata := ← m.optional "metadata" Metadata.read?
    spec := ← m.optional "spec" PodSpec.read? }

/-- Writes a template. -/
def write (t : PodTemplate) : Json :=
  .obj <|
    Json.member? "metadata" Metadata.write t.metadata ++
    Json.member? "spec" PodSpec.write t.spec

/-- The node affinity of a template. -/
def nodeAffinity (t : PodTemplate) : Option NodeAffinity :=
  t.spec.bind fun spec => spec.affinity.bind Affinity.nodeAffinity

end PodTemplate

end GeoPlacement
