import GeoPlacement.Object.Workload
import GeoPlacement.Placement.Selection

/-!
# Selections as node affinity

The selections of a resource are compiled into one required node selector, a term for each
selection in order. `NodeAffinity.hostnames` reads such a selector back, and
`PodTemplate.setNodeAffinity` puts it into a pod template.
-/

namespace GeoPlacement

/-- The requirement of a selection on the hostname of a node. -/
def Selection.requirement (s : Selection) : NodeRequirement where
  key := s.key
  operator := s.operator.name
  values := some s.hostnames

/-- The node selector term of a selection. -/
def Selection.term (s : Selection) : NodeSelectorTerm where
  matchExpressions := some [s.requirement]

/-- The node affinity of a list of selections, none where nothing is selected by. -/
def compile (selections : List Selection) : Option NodeAffinity :=
  match selections with
  | [] => none
  | _ => some { required := some (selections.map Selection.term) }

namespace NodeSelectorTerm

/-- The hostnames that a term names, whatever its operator. -/
def hostnames (t : NodeSelectorTerm) : List String :=
  ((t.matchExpressions.getD []).filter (·.key == Label.hostname)).flatMap (·.values.getD [])

end NodeSelectorTerm

/-- The hostnames named by each required term, in order. -/
def NodeAffinity.hostnames (a : NodeAffinity) : List (List String) :=
  (a.required.getD []).map NodeSelectorTerm.hostnames

/-- Replaces the node affinity of a pod, keeping its affinities to other pods. An affinity that
is left with nothing is removed. -/
def PodSpec.setNodeAffinity (a : Option NodeAffinity) (spec : PodSpec) : PodSpec :=
  let affinity := { spec.affinity.getD {} with nodeAffinity := a }
  { spec with affinity := if affinity.isEmpty then none else some affinity }

/-- Replaces the node affinity of a template. A template without a description gets an empty one,
unless there is nothing to set. -/
def PodTemplate.setNodeAffinity (a : Option NodeAffinity) (t : PodTemplate) : PodTemplate :=
  if t.spec.isNone && a.isNone then t
  else { t with spec := some ((t.spec.getD {}).setNodeAffinity a) }

/-- Replaces the node affinity of a workload; nothing changes where it has no pod template. -/
def Workload.setNodeAffinity (a : Option NodeAffinity) (w : Workload) : Workload :=
  w.mapTemplate (PodTemplate.setNodeAffinity a)

/-- **Injects** a node affinity into a workload. The answer tells whether there is a pod template
to carry it. -/
def Workload.injectAffinity (a : Option NodeAffinity) (w : Workload) : Bool × Workload :=
  match w.template? with
  | none => (false, w)
  | some _ => (true, w.setNodeAffinity a)

end GeoPlacement
