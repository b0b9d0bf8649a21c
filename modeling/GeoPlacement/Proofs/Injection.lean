import GeoPlacement.Controller.Index
import Mathlib.Tactic.ByContra

/-!
# Injecting a node affinity

A workload is more than its node affinity: the pods of its template have affinities to other pods,
and there is all that stands outside of the pods' affinity. `Workload.IsInjected` says of two
workloads that the second is the first with a given node affinity, in terms of what is read off
them and without saying how it is made. There is at most one such workload
(`Workload.IsInjected.unique`), so the laws of `IsLawfulInjection` leave no choice: the operator's
injection keeps them and is the only function that does.

The layers on the way to the affinity may be absent. The proofs go through two facts about them: a
pod template is what stands outside of its affinity together with that affinity
(`PodTemplate.setAffinity_affinity?`), and what becomes of a workload is decided by what becomes of
its template (`Workload.mapTemplate_eq_iff`).

## Main results

* `Workload.isInjected_setNodeAffinity`: the workload that is made is the one that is described.
* `Workload.setNodeAffinity_setNodeAffinity_iff`: when the first of two injections leaves no trace.
* `Workload.setNodeAffinity_self_iff`: when injecting the affinity that is there changes nothing.
* `placement_compile`: what is read back of compiled selections.
* `isLawfulInjection_iff`: the operator's injection is the one lawful injection.
-/

namespace GeoPlacement

/-! ### Affinities -/

namespace Affinity

/-- The affinity with its node affinity replaced, none if nothing is left of it. -/
def withNode (a : Option NodeAffinity) (affinity : Option Affinity) : Option Affinity :=
  let replaced : Affinity := { affinity.getD {} with nodeAffinity := a }
  if replaced.isEmpty then none else some replaced

variable {affinity other : Option Affinity}

/-- An affinity is empty iff all three of its parts are missing. -/
theorem isEmpty_eq_true_iff {a : Affinity} : a.isEmpty = true ↔
    a.nodeAffinity = none ∧ a.podAffinity = none ∧ a.podAntiAffinity = none := by
  simp only [isEmpty, Bool.and_eq_true, Option.isNone_iff_eq_none, and_assoc]

/-- Affinities that are not kept empty are the same if their members are. -/
theorem eq_of_members (h : ∀ a, affinity = some a → a.isEmpty = false)
    (h' : ∀ a, other = some a → a.isEmpty = false)
    (hnode : affinity.bind nodeAffinity = other.bind nodeAffinity)
    (hpod : affinity.bind podAffinity = other.bind podAffinity)
    (hanti : affinity.bind podAntiAffinity = other.bind podAntiAffinity) : affinity = other := by
  rcases affinity with _ | ⟨node, pod, anti⟩ <;> rcases other with _ | ⟨node', pod', anti'⟩
  · rfl
  · have hempty := isEmpty_eq_true_iff.mpr ⟨hnode.symm, hpod.symm, hanti.symm⟩
    exact absurd hempty (ne_true_of_eq_false (h' _ rfl))
  · have hempty := isEmpty_eq_true_iff.mpr ⟨hnode, hpod, hanti⟩
    exact absurd hempty (ne_true_of_eq_false (h _ rfl))
  · obtain ⟨rfl, rfl, rfl⟩ : node = node' ∧ pod = pod' ∧ anti = anti' := ⟨hnode, hpod, hanti⟩
    rfl

/-- What is left by a replaced node affinity is never an empty affinity. -/
theorem isEmpty_of_withNode {a : Option NodeAffinity} {left : Affinity}
    (h : withNode a affinity = some left) : left.isEmpty = false := by
  simp only [withNode] at h
  split at h
  · cases h
  · next hleft =>
    obtain rfl := Option.some.inj h
    exact eq_false_of_ne_true hleft

/-- The node affinity that was set is the one that is found. -/
@[simp] theorem nodeAffinity_withNode (a : Option NodeAffinity) (affinity : Option Affinity) :
    (withNode a affinity).bind nodeAffinity = a := by
  simp only [withNode]
  split
  · next hempty => exact (isEmpty_eq_true_iff.mp hempty).1.symm
  · rfl

/-- Setting the node affinity keeps the affinity to other pods. -/
@[simp] theorem podAffinity_withNode (a : Option NodeAffinity) (affinity : Option Affinity) :
    (withNode a affinity).bind podAffinity = affinity.bind podAffinity := by
  have hkept : (affinity.getD {}).podAffinity = affinity.bind podAffinity := by
    cases affinity <;> rfl
  simp only [withNode]
  split
  · next hempty => exact (isEmpty_eq_true_iff.mp hempty).2.1.symm.trans hkept
  · exact hkept

@[simp] theorem podAntiAffinity_withNode (a : Option NodeAffinity) (affinity : Option Affinity) :
    (withNode a affinity).bind podAntiAffinity = affinity.bind podAntiAffinity := by
  have hkept : (affinity.getD {}).podAntiAffinity = affinity.bind podAntiAffinity := by
    cases affinity <;> rfl
  simp only [withNode]
  split
  · next hempty => exact (isEmpty_eq_true_iff.mp hempty).2.2.symm.trans hkept
  · exact hkept

/-- Of two replacements the second counts. -/
theorem withNode_withNode (a b : Option NodeAffinity) (affinity : Option Affinity) :
    withNode b (withNode a affinity) = withNode b affinity :=
  eq_of_members (fun _ => isEmpty_of_withNode) (fun _ => isEmpty_of_withNode)
    (by simp only [nodeAffinity_withNode]) (by simp only [podAffinity_withNode])
    (by simp only [podAntiAffinity_withNode])

end Affinity

/-! ### Pod templates -/

namespace PodTemplate

/-- The affinity of the pods of a template. -/
def affinity? (t : PodTemplate) : Option Affinity :=
  t.spec.bind PodSpec.affinity

/-- Replaces the affinity of the pods of a template, if it has a description of them. -/
def setAffinity (affinity : Option Affinity) (t : PodTemplate) : PodTemplate :=
  { t with spec := t.spec.map fun spec => { spec with affinity } }

/-- The template with a description of its pods, an empty one if there is none. -/
def withSpec (t : PodTemplate) : PodTemplate :=
  { t with spec := some (t.spec.getD {}) }

/-- **A template is put together** from what stands outside of the affinity of its pods and that
affinity. -/
theorem setAffinity_affinity? (t : PodTemplate) :
    (t.setAffinity none).setAffinity t.affinity? = t := by
  rcases t with ⟨metadata, _ | spec⟩ <;> rfl

variable (a b : Option NodeAffinity) (t : PodTemplate)

/-- The node affinity of a template is part of the affinity of its pods. -/
theorem nodeAffinity_eq : t.nodeAffinity = t.affinity?.bind Affinity.nodeAffinity := by
  rw [nodeAffinity, affinity?, Option.bind_assoc]

/-- Setting the node affinity of a template replaces that part of the affinity of its pods. -/
@[simp] theorem affinity?_setNodeAffinity :
    (t.setNodeAffinity a).affinity? = Affinity.withNode a t.affinity? := by
  rcases t with ⟨metadata, _ | spec⟩
  · cases a <;> rfl
  · rfl

/-- Apart from the affinity of the pods, a template with a node affinity set gets a description of
its pods at most. -/
@[simp] theorem setAffinity_setNodeAffinity : (t.setNodeAffinity a).setAffinity none =
    (if a = none then t else t.withSpec).setAffinity none := by
  rcases t with ⟨metadata, _ | spec⟩ <;> cases a <;> rfl

/-- **The first of two injections leaves no trace** in a template iff it does not have to describe
the pods of the template alone. -/
theorem setNodeAffinity_setNodeAffinity_iff :
    (t.setNodeAffinity a).setNodeAffinity b = t.setNodeAffinity b ↔
      t.spec ≠ none ∨ b ≠ none ∨ a = none := by
  constructor
  · intro h
    by_contra hnothing
    simp only [not_or, not_not] at hnothing
    obtain ⟨hspec, rfl, ha⟩ := hnothing
    obtain ⟨value, rfl⟩ := Option.ne_none_iff_exists'.mp ha
    have hnone : (t.setNodeAffinity none).spec = none := by
      simp [setNodeAffinity, hspec]
    have hsome : ((t.setNodeAffinity (some value)).setNodeAffinity none).spec ≠ none := by
      simp [setNodeAffinity]
    exact hsome (h ▸ hnone)
  · intro hkept
    have houtside : ((t.setNodeAffinity a).setNodeAffinity b).setAffinity none =
        (t.setNodeAffinity b).setAffinity none := by
      rcases t with ⟨metadata, _ | spec⟩
      · rcases hkept with hspec | hb | rfl
        · exact absurd rfl hspec
        · obtain ⟨value, rfl⟩ := Option.ne_none_iff_exists'.mp hb
          cases a <;> rfl
        · rfl
      · cases a <;> cases b <;> rfl
    rw [← setAffinity_affinity? ((t.setNodeAffinity a).setNodeAffinity b), houtside]
    simp only [affinity?_setNodeAffinity, Affinity.withNode_withNode]
    rw [← affinity?_setNodeAffinity, setAffinity_affinity?]

/-- **Injecting the affinity that is there** changes nothing, unless an empty affinity is kept. -/
theorem setNodeAffinity_self_iff : t.setNodeAffinity t.nodeAffinity = t ↔
    ∀ affinity, t.affinity? = some affinity → affinity.isEmpty = false := by
  constructor
  · intro h affinity haffinity
    rw [← h, affinity?_setNodeAffinity] at haffinity
    exact Affinity.isEmpty_of_withNode haffinity
  · intro hkept
    have hinside : Affinity.withNode t.nodeAffinity t.affinity? = t.affinity? := by
      refine Affinity.eq_of_members (fun _ => Affinity.isEmpty_of_withNode) hkept ?_ ?_ ?_
      · rw [Affinity.nodeAffinity_withNode, nodeAffinity_eq]
      · exact Affinity.podAffinity_withNode ..
      · exact Affinity.podAntiAffinity_withNode ..
    have houtside : (t.setNodeAffinity t.nodeAffinity).setAffinity none = t.setAffinity none := by
      rcases t with ⟨metadata, _ | spec⟩
      · rfl
      · rw [setAffinity_setNodeAffinity]
        split <;> rfl
    rw [← setAffinity_affinity? (t.setNodeAffinity t.nodeAffinity), houtside,
      affinity?_setNodeAffinity, hinside, setAffinity_affinity?]

end PodTemplate

/-! ### Workloads -/

namespace Workload

/-- The description of the pods of a workload. -/
def podSpec? (w : Workload) : Option PodSpec :=
  w.template?.bind PodTemplate.spec

/-- The affinity of the pods of a workload. -/
def affinity? (w : Workload) : Option Affinity :=
  w.template?.bind PodTemplate.affinity?

/-- The affinity of the pods of a workload to other pods. -/
def podAffinity (w : Workload) : Option Json :=
  w.affinity?.bind Affinity.podAffinity

/-- The aversion of the pods of a workload to other pods. -/
def podAntiAffinity (w : Workload) : Option Json :=
  w.affinity?.bind Affinity.podAntiAffinity

/-- The workload without the affinity of its pods. -/
def withoutAffinity (w : Workload) : Workload :=
  w.mapTemplate (PodTemplate.setAffinity none)

/-- The workload with a description of its pods, an empty one if its template has none. -/
def withPodSpec (w : Workload) : Workload :=
  w.mapTemplate PodTemplate.withSpec

/-- The workload with what it takes to carry a node affinity: a description of its pods, if there is
an affinity at all. -/
def carrying (a : Option NodeAffinity) (w : Workload) : Workload :=
  if a = none then w else w.withPodSpec

/-- The second of two workloads is the first with the node affinity `a`. It keeps the affinities to
other pods and all that stands outside of the pods' affinity, but for a description of the pods
that there has to be to carry `a`, and it has no affinity that is left with nothing. -/
structure IsInjected (a : Option NodeAffinity) (before after : Workload) : Prop where
  nodeAffinity : after.nodeAffinity = a
  podAffinity : after.podAffinity = before.podAffinity
  podAntiAffinity : after.podAntiAffinity = before.podAntiAffinity
  others : after.withoutAffinity = (before.carrying a).withoutAffinity
  notEmpty : ∀ affinity, after.affinity? = some affinity → affinity.isEmpty = false

section Layers

variable {w w' : Workload} {f g : PodTemplate → PodTemplate}

/-- Two changes of a workload come to the same iff they do at the template that is there. -/
theorem mapTemplate_eq_iff :
    w.mapTemplate f = w.mapTemplate g ↔ ∀ t, w.template? = some t → f t = g t := by
  rcases w with ⟨kind, metadata, _ | spec, status⟩
  · simp [mapTemplate, template?]
  · rcases spec with spec | ⟨leading, ⟨jobMetadata, _ | spec⟩, trailing⟩ <;>
      simp [mapTemplate, template?, WorkloadSpec.mapTemplate, WorkloadSpec.template?]

theorem mapTemplate_id : w.mapTemplate id = w := by
  rcases w with ⟨kind, metadata, _ | spec, status⟩
  · rfl
  · rcases spec with spec | ⟨leading, ⟨jobMetadata, _ | spec⟩, trailing⟩ <;> rfl

/-- A workload is left as it is iff its template is, if it has one. -/
theorem mapTemplate_eq_self_iff :
    w.mapTemplate f = w ↔ ∀ t, w.template? = some t → f t = t := by
  have hid := mapTemplate_eq_iff (w := w) (f := f) (g := id)
  rwa [mapTemplate_id] at hid

/-- A workload is put together from what stands outside of the affinity of its pods and that
affinity. -/
theorem mapTemplate_setAffinity_affinity? (w : Workload) :
    w.withoutAffinity.mapTemplate (PodTemplate.setAffinity w.affinity?) = w := by
  rw [withoutAffinity, mapTemplate_mapTemplate]
  refine mapTemplate_eq_self_iff.mpr fun t ht => ?_
  rw [affinity?, ht, Option.bind_some]
  exact t.setAffinity_affinity?

/-- The node affinity of a workload is part of the affinity of its pods. -/
theorem nodeAffinity_eq (w : Workload) :
    w.nodeAffinity = w.affinity?.bind Affinity.nodeAffinity := by
  rw [nodeAffinity, affinity?, Option.bind_assoc]
  exact congrArg _ (funext PodTemplate.nodeAffinity_eq)

/-- **There is at most one workload** that is another with a given node affinity. -/
theorem IsInjected.unique {a : Option NodeAffinity} {before : Workload} (h : before.IsInjected a w)
    (h' : before.IsInjected a w') : w = w' := by
  have haffinity : w.affinity? = w'.affinity? := by
    refine Affinity.eq_of_members h.notEmpty h'.notEmpty ?_ ?_ ?_
    · rw [← nodeAffinity_eq, ← nodeAffinity_eq, h.nodeAffinity, h'.nodeAffinity]
    · exact h.podAffinity.trans h'.podAffinity.symm
    · exact h.podAntiAffinity.trans h'.podAntiAffinity.symm
  rw [← mapTemplate_setAffinity_affinity? w, h.others, haffinity, ← h'.others,
    mapTemplate_setAffinity_affinity?]

end Layers

/-! ### The laws -/

variable (a b : Option NodeAffinity) (w : Workload)

/-- Apart from the affinity of the pods, setting a node affinity adds what it takes to carry one. -/
theorem withoutAffinity_setNodeAffinity :
    (w.setNodeAffinity a).withoutAffinity = (w.carrying a).withoutAffinity := by
  simp only [withoutAffinity, setNodeAffinity, carrying, mapTemplate_mapTemplate]
  have htemplate := fun t => PodTemplate.setAffinity_setNodeAffinity a t
  split
  · next ha =>
    refine mapTemplate_eq_iff.mpr fun t _ => ?_
    rw [Function.comp_apply, htemplate, if_pos ha]
  · next ha =>
    rw [withPodSpec, mapTemplate_mapTemplate]
    refine mapTemplate_eq_iff.mpr fun t _ => ?_
    rw [Function.comp_apply, Function.comp_apply, htemplate, if_neg ha]

/-- **The workload that is made is the one that is described.** -/
theorem isInjected_setNodeAffinity {w : Workload} (h : w.template? ≠ none) :
    w.IsInjected a (w.setNodeAffinity a) := by
  obtain ⟨t, ht⟩ := Option.ne_none_iff_exists'.mp h
  have hbefore : w.affinity? = t.affinity? := by
    rw [affinity?, ht, Option.bind_some]
  have hafter : (w.setNodeAffinity a).affinity? = Affinity.withNode a w.affinity? := by
    rw [hbefore, affinity?, setNodeAffinity, template?_mapTemplate, ht, Option.map_some,
      Option.bind_some, PodTemplate.affinity?_setNodeAffinity]
  refine ⟨?_, ?_, ?_, withoutAffinity_setNodeAffinity a w, ?_⟩
  · rw [nodeAffinity_eq, hafter, Affinity.nodeAffinity_withNode]
  · rw [podAffinity, hafter, Affinity.podAffinity_withNode, podAffinity]
  · rw [podAntiAffinity, hafter, Affinity.podAntiAffinity_withNode, podAntiAffinity]
  · intro affinity haffinity
    exact Affinity.isEmpty_of_withNode (hafter ▸ haffinity)

/-- **The first of two injections leaves no trace** iff it does not have to describe the pods of the
workload alone. -/
theorem setNodeAffinity_setNodeAffinity_iff :
    (w.setNodeAffinity a).setNodeAffinity b = w.setNodeAffinity b ↔
      w.template? = none ∨ w.podSpec? ≠ none ∨ b ≠ none ∨ a = none := by
  simp only [setNodeAffinity, mapTemplate_mapTemplate, mapTemplate_eq_iff, Function.comp_apply,
    PodTemplate.setNodeAffinity_setNodeAffinity_iff, podSpec?]
  cases w.template? <;> simp

/-- **Injecting the affinity that is there** changes nothing, unless an empty affinity is kept. -/
theorem setNodeAffinity_self_iff : w.setNodeAffinity w.nodeAffinity = w ↔
    ∀ affinity, w.affinity? = some affinity → affinity.isEmpty = false := by
  rw [setNodeAffinity, mapTemplate_eq_self_iff, affinity?]
  cases ht : w.template? with
  | none => simp
  | some t =>
      have hnode : w.nodeAffinity = t.nodeAffinity := by
        rw [nodeAffinity, ht, Option.bind_some]
      simpa [hnode] using t.setNodeAffinity_self_iff

/-- A workload without a template refuses every affinity and stays as it is. -/
theorem injectAffinity_of_no_template {w : Workload} (h : w.template? = none) :
    w.injectAffinity a = (false, w) := by
  rw [injectAffinity, h]

/-- A workload with a template takes every affinity. -/
theorem injectAffinity_of_template {w : Workload} (h : w.template? ≠ none) :
    w.injectAffinity a = (true, w.setNodeAffinity a) := by
  obtain ⟨t, ht⟩ := Option.ne_none_iff_exists'.mp h
  rw [injectAffinity, ht]

end Workload

/-! ### Reading compiled selections back -/

/-- The term of a selection names the hostnames of the selection if it is about hostnames. -/
theorem Selection.hostnames_term (s : Selection) :
    s.term.hostnames = if s.key = Label.hostname then s.hostnames else [] := by
  by_cases hkey : s.key = Label.hostname <;>
    simp [term, requirement, NodeSelectorTerm.hostnames, hkey]

/-- **Reading back**: the compiled affinity names the hostnames of each selection about hostnames
and none for the others. -/
theorem placement_compile (selections : List Selection) :
    ((compile selections).map NodeAffinity.hostnames).getD [] =
      selections.map fun s => if s.key = Label.hostname then s.hostnames else [] := by
  have hterms : selections.map (fun s => s.term.hostnames) =
      selections.map fun s => if s.key = Label.hostname then s.hostnames else [] :=
    List.map_congr_left fun s _ => s.hostnames_term
  rw [← hterms]
  cases selections with
  | nil => rfl
  | cons selection rest => simp [compile, NodeAffinity.hostnames]

/-! ### Lawful injections -/

/-- What makes a function that injects affinities **lawful**: it refuses the workloads without a
pod template, it makes of the others what is described, of two injections the first leaves no
trace unless the second has nothing to put into a template without a description of its pods,
injecting the affinity that is there changes nothing unless an empty one is kept, and compiled
selections can be read back. -/
structure IsLawfulInjection (inject : Option NodeAffinity → Workload → Bool × Workload) :
    Prop where
  refuses_iff : ∀ a w, inject a w = (false, w) ↔ w.template? = none
  injects : ∀ a w, w.template? ≠ none →
    (inject a w).1 = true ∧ w.IsInjected a (inject a w).2
  overwrites_iff : ∀ a b w, inject b (inject a w).2 = inject b w ↔
    w.template? = none ∨ w.podSpec? ≠ none ∨ b ≠ none ∨ a = none
  restores_iff : ∀ w, (inject w.nodeAffinity w).2 = w ↔
    ∀ affinity, w.affinity? = some affinity → affinity.isEmpty = false
  readsBack : ∀ selections w, w.template? ≠ none →
    (inject (compile selections) w).2.placement =
      selections.map fun s => if s.key = Label.hostname then s.hostnames else []

namespace Workload

/-- **An affinity is refused** iff there is no template to hold it. -/
theorem injectAffinity_eq_refusal_iff (a : Option NodeAffinity) (w : Workload) :
    w.injectAffinity a = (false, w) ↔ w.template? = none := by
  constructor
  · intro h
    by_contra htemplate
    rw [injectAffinity_of_template a htemplate] at h
    cases h
  · exact injectAffinity_of_no_template a

/-- Of two injections the first leaves no trace under the same conditions as it does where the
template is known to be there. -/
theorem injectAffinity_injectAffinity_iff (a b : Option NodeAffinity) (w : Workload) :
    (w.injectAffinity a).2.injectAffinity b = w.injectAffinity b ↔
      w.template? = none ∨ w.podSpec? ≠ none ∨ b ≠ none ∨ a = none := by
  by_cases h : w.template? = none
  · rw [injectAffinity_of_no_template a h]
    exact iff_of_true rfl (.inl h)
  · have hkept : (w.setNodeAffinity a).template? ≠ none := by
      rw [setNodeAffinity, template?_mapTemplate]
      exact fun hnone => h (Option.map_eq_none_iff.mp hnone)
    rw [injectAffinity_of_template a h, injectAffinity_of_template b h,
      injectAffinity_of_template b hkept, Prod.mk.injEq, and_iff_right rfl]
    exact setNodeAffinity_setNodeAffinity_iff a b w

/-- **Putting back what is there** changes nothing iff the pods have no affinity that is empty. -/
theorem injectAffinity_nodeAffinity_iff (w : Workload) :
    (w.injectAffinity w.nodeAffinity).2 = w ↔
      ∀ affinity, w.affinity? = some affinity → affinity.isEmpty = false := by
  by_cases h : w.template? = none
  · rw [injectAffinity_of_no_template _ h, affinity?, h, Option.bind_none]
    exact iff_of_true rfl fun affinity haffinity => by cases haffinity
  · rw [injectAffinity_of_template _ h]
    exact w.setNodeAffinity_self_iff

/-- The operator's injection is lawful. -/
theorem isLawful_injectAffinity : IsLawfulInjection injectAffinity where
  refuses_iff := injectAffinity_eq_refusal_iff
  injects := by
    intro a w h
    rw [injectAffinity_of_template a h]
    exact ⟨rfl, isInjected_setNodeAffinity a h⟩
  overwrites_iff := injectAffinity_injectAffinity_iff
  restores_iff := injectAffinity_nodeAffinity_iff
  readsBack := by
    intro selections w h
    rw [injectAffinity_of_template _ h, placement, (isInjected_setNodeAffinity _ h).nodeAffinity]
    exact placement_compile selections

end Workload

/-- **The operator's injection is the one lawful injection.** -/
theorem isLawfulInjection_iff (inject : Option NodeAffinity → Workload → Bool × Workload) :
    IsLawfulInjection inject ↔ inject = Workload.injectAffinity := by
  constructor
  · intro h
    funext a w
    by_cases htemplate : w.template? = none
    · rw [(h.refuses_iff a w).mpr htemplate, Workload.injectAffinity_of_no_template a htemplate]
    · obtain ⟨htrue, hinjected⟩ := h.injects a w htemplate
      have hsame := hinjected.unique (Workload.isInjected_setNodeAffinity a htemplate)
      rw [Workload.injectAffinity_of_template a htemplate]
      exact Prod.ext htrue hsame
  · rintro rfl
    exact Workload.isLawful_injectAffinity

end GeoPlacement
