import GeoPlacement.Proofs.Desired

/-!
# Deriving is a projection

The desired object of a declaration can itself be declared. This module shows that it is then its
own desired object, digest included, and that it stays so when a server has set the members that
are the server's to set. More generally it says which declarations have the same desired object:
those that **declare the same** (`Workload.DeclaresSame`), whatever namespace, server-set members,
mark of management, digest, controllers or node affinity are written on them.

The digest plays no part in the proofs: two desired objects are the same iff they are the same
without their digests (`Plan.withDigest_eq_iff`), so no collision could make two of them one.

## Main results

* `Plan.metadata_eq_iff`: the metadata of two desired objects are the same, but for the digests, iff
  what is declared in them is.
* `Workload.spec_setNodeAffinity_eq_iff`: the same of their descriptions.
* `Plan.desired_eq_desired_iff`: two declarations have the same desired object iff they declare the
  same.
* `Plan.desired_projection`: deriving again changes nothing.
-/

namespace GeoPlacement

/-! ### Declaring the same -/

/-- Two metadata that **declare the same**. They may differ in their namespaces, in what a server
sets, in the digest, in the mark of management and in the controllers. -/
structure Metadata.DeclaresSame (m m' : Metadata) : Prop where
  name : m.name = m'.name
  generateName : m.generateName = m'.generateName
  finalizers : m.finalizers = m'.finalizers
  gracePeriod : m.deletionGracePeriodSeconds = m'.deletionGracePeriodSeconds
  selfLink : m.selfLink = m'.selfLink
  annotations : ∀ key, key ≠ templateHash → m.annotation? key = m'.annotation? key
  labels : ∀ key, key ≠ Label.managedBy → m.label? key = m'.label? key
  owners : m.owners.filter (!·.isController) = m'.owners.filter (!·.isController)

/-- Two workloads that **declare the same**. Apart from their metadata they may differ in the node
affinity of their pods only. -/
structure Workload.DeclaresSame (w w' : Workload) : Prop where
  kind : w.kind = w'.kind
  metadata : w.metadata.DeclaresSame w'.metadata
  podAffinity : w.podAffinity = w'.podAffinity
  podAntiAffinity : w.podAntiAffinity = w'.podAntiAffinity
  others : w.withoutAffinity.spec = w'.withoutAffinity.spec
  status : w.status = w'.status

/-- The members that a server sets on the objects that it stores. -/
structure ServerFields where
  resourceVersion : Option String := none
  uid : Option String := none
  generation : Option Int64 := none
  creationTimestamp : Option String := none
  managedFields : Option (List Json) := none

/-- The workload as a server keeps it, with its members set. -/
def ServerFields.setOn (fields : ServerFields) (w : Workload) : Workload :=
  Plan.mapMetadata
    (fun m => { m with
      resourceVersion := fields.resourceVersion
      uid := fields.uid
      generation := fields.generation
      creationTimestamp := fields.creationTimestamp
      managedFields := fields.managedFields })
    w

/-! ### Metadata -/

namespace Metadata

/-- An annotation is looked up in the annotations, which are none if they are missing. -/
theorem get?_annotations (m : Metadata) (key : String) :
    (m.annotations.getD .empty).get? key = m.annotation? key := by
  rw [annotation?]
  cases m.annotations <;> rfl

/-- So is a label in the labels. -/
theorem get?_labels (m : Metadata) (key : String) :
    (m.labels.getD .empty).get? key = m.label? key := by
  rw [label?]
  cases m.labels <;> rfl

end Metadata

namespace Plan

variable {reference : OwnerReference} {inNamespace : String} {m m' : Metadata}

/-- **The metadata of two desired objects** are the same, but for the digests, iff what is declared
in them is. -/
theorem metadata_eq_iff :
    (storedMetadata reference inNamespace m).unannotate templateHash =
        (storedMetadata reference inNamespace m').unannotate templateHash ↔
      m.DeclaresSame m' := by
  simp only [storedMetadata, clearServerFields, Metadata.setController, Metadata.markManaged,
    Metadata.setLabel, Metadata.unannotate, Metadata.mk.injEq, Option.some.injEq, true_and,
    and_true, StringMap.erase_eq_erase_iff, StringMap.insert_eq_insert_iff,
    Metadata.get?_annotations, Metadata.get?_labels, List.append_cancel_right_eq]
  constructor
  · rintro ⟨hannotations, hgrace, hfinalizers, hgenerate, hlabels, hname, howners, hlink⟩
    exact ⟨hname, hgenerate, hfinalizers, hgrace, hlink, hannotations, hlabels, howners⟩
  · rintro ⟨hname, hgenerate, hfinalizers, hgrace, hlink, hannotations, hlabels, howners⟩
    exact ⟨hannotations, hgrace, hfinalizers, hgenerate, hlabels, hname, howners, hlink⟩

/-- The metadata of a stored object declare what was declared. -/
theorem declaresSame_stored {plan : Plan} {owner : Metadata} {declared : Workload}
    (hreference : owner.controllerReference? = some reference) (fields : ServerFields) :
    declared.metadata.DeclaresSame
      (fields.setOn (withDigest (plan.undigested reference inNamespace declared))).metadata := by
  obtain ⟨kind, m, spec, status⟩ := declared
  refine ⟨rfl, rfl, rfl, rfl, rfl, ?_, ?_, ?_⟩
  · intro key hkey
    change _ = (((m.annotations.getD .empty).erase templateHash).insert templateHash _).get? key
    rw [StringMap.get?_insert, if_neg hkey.symm, StringMap.get?_erase, if_neg hkey.symm,
      m.get?_annotations]
  · intro key hkey
    change _ = ((m.labels.getD .empty).insert Label.managedBy Label.manager).get? key
    rw [StringMap.get?_insert, if_neg hkey.symm, m.get?_labels]
  · have hcontroller := (Metadata.of_controllerReference hreference).1
    change _ = (m.owners.filter (!·.isController) ++ [reference]).filter (!·.isController)
    rw [List.filter_append, List.filter_filter]
    simp [hcontroller]

end Plan

/-! ### Descriptions -/

namespace Workload

variable {a : Option NodeAffinity} {w w' : Workload}

/-- Workloads are described alike iff they are but for the affinities of their pods, and these are
the same. -/
theorem spec_eq_iff : w.spec = w'.spec ↔
    w.withoutAffinity.spec = w'.withoutAffinity.spec ∧ w.affinity? = w'.affinity? := by
  constructor
  · intro h
    have htemplate : w.template? = w'.template? := by
      rw [template?, template?, h]
    refine ⟨?_, ?_⟩
    · exact congrArg (Option.map (WorkloadSpec.mapTemplate (PodTemplate.setAffinity none))) h
    · rw [affinity?, affinity?, htemplate]
  · rintro ⟨hothers, haffinity⟩
    rw [← mapTemplate_setAffinity_affinity? w, ← mapTemplate_setAffinity_affinity? w', ← haffinity]
    exact congrArg (Option.map (WorkloadSpec.mapTemplate (PodTemplate.setAffinity w.affinity?)))
      hothers

/-- **The descriptions of two desired objects** are the same iff all but the node affinity is. -/
theorem spec_setNodeAffinity_eq_iff (h : w.template? ≠ none) (h' : w'.template? ≠ none) :
    (w.setNodeAffinity a).spec = (w'.setNodeAffinity a).spec ↔
      w.podAffinity = w'.podAffinity ∧ w.podAntiAffinity = w'.podAntiAffinity ∧
        (w.carrying a).withoutAffinity.spec = (w'.carrying a).withoutAffinity.spec := by
  have hmade := isInjected_setNodeAffinity a h
  have hmade' := isInjected_setNodeAffinity a h'
  rw [spec_eq_iff, hmade.others, hmade'.others, ← hmade.podAffinity, ← hmade'.podAffinity,
    ← hmade.podAntiAffinity, ← hmade'.podAntiAffinity]
  constructor
  · rintro ⟨hothers, haffinity⟩
    refine ⟨?_, ?_, hothers⟩
    · rw [podAffinity, podAffinity, haffinity]
    · rw [podAntiAffinity, podAntiAffinity, haffinity]
  · rintro ⟨hpod, hanti, hothers⟩
    refine ⟨hothers, Affinity.eq_of_members hmade.notEmpty hmade'.notEmpty ?_ hpod hanti⟩
    rw [← nodeAffinity_eq, ← nodeAffinity_eq, hmade.nodeAffinity, hmade'.nodeAffinity]

section Carrying

variable (a) (w)

/-- Carrying an affinity keeps the kind. -/
@[simp] theorem kind_carrying : (w.carrying a).kind = w.kind := by
  rw [carrying]
  split <;> rfl

@[simp] theorem metadata_carrying : (w.carrying a).metadata = w.metadata := by
  rw [carrying]
  split <;> rfl

@[simp] theorem status_carrying : (w.carrying a).status = w.status := by
  rw [carrying]
  split <;> rfl

@[simp] theorem affinity?_carrying : (w.carrying a).affinity? = w.affinity? := by
  rw [carrying]
  split
  · rfl
  · rw [withPodSpec, affinity?, affinity?, template?_mapTemplate]
    rcases w.template? with _ | ⟨metadata, _ | spec⟩ <;> rfl

@[simp] theorem podAffinity_carrying : (w.carrying a).podAffinity = w.podAffinity := by
  rw [podAffinity, podAffinity, affinity?_carrying]

@[simp] theorem podAntiAffinity_carrying :
    (w.carrying a).podAntiAffinity = w.podAntiAffinity := by
  rw [podAntiAffinity, podAntiAffinity, affinity?_carrying]

variable {a} {w}

/-- It neither adds nor removes a template. -/
theorem template?_carrying_eq_none_iff : (w.carrying a).template? = none ↔ w.template? = none := by
  rw [carrying]
  split
  · exact Iff.rfl
  · rw [withPodSpec, template?_mapTemplate, Option.map_eq_none_iff]

/-- The spec that carries an affinity, apart from the affinity of the pods, depends on the spec
only. -/
theorem spec_withoutAffinity_carrying (h : w.spec = w'.spec) :
    (w.carrying a).withoutAffinity.spec = (w'.carrying a).withoutAffinity.spec := by
  have hcarrying : (w.carrying a).spec = (w'.carrying a).spec := by
    rw [Workload.carrying, Workload.carrying]
    split
    · exact h
    · exact congrArg (Option.map (WorkloadSpec.mapTemplate PodTemplate.withSpec)) h
  exact (spec_eq_iff.mp hcarrying).1

/-- Two workloads that carry an affinity declare the same iff their parts do, for which the affinity
matters in the spec only. -/
theorem declaresSame_carrying_iff : (w.carrying a).DeclaresSame (w'.carrying a) ↔
    w.kind = w'.kind ∧ w.metadata.DeclaresSame w'.metadata ∧ w.status = w'.status ∧
      w.podAffinity = w'.podAffinity ∧ w.podAntiAffinity = w'.podAntiAffinity ∧
      (w.carrying a).withoutAffinity.spec = (w'.carrying a).withoutAffinity.spec := by
  constructor
  · rintro ⟨hkind, hmetadata, hpod, hanti, hothers, hstatus⟩
    simp only [kind_carrying, metadata_carrying, status_carrying, podAffinity_carrying,
      podAntiAffinity_carrying] at hkind hmetadata hpod hanti hstatus
    exact ⟨hkind, hmetadata, hstatus, hpod, hanti, hothers⟩
  · rintro ⟨hkind, hmetadata, hstatus, hpod, hanti, hothers⟩
    constructor <;> simpa

/-- What declares the same does so with a description of pods in it, too. -/
theorem DeclaresSame.carrying (h : w.DeclaresSame w') :
    (w.carrying a).DeclaresSame (w'.carrying a) := by
  have hpodSpec : ∀ w : Workload,
      w.withPodSpec.withoutAffinity = w.withoutAffinity.withPodSpec := fun w => by
    simp only [withPodSpec, withoutAffinity, mapTemplate_mapTemplate]
    refine mapTemplate_eq_iff.mpr fun t _ => ?_
    rcases t with ⟨metadata, _ | spec⟩ <;> rfl
  refine declaresSame_carrying_iff.mpr
    ⟨h.kind, h.metadata, h.status, h.podAffinity, h.podAntiAffinity, ?_⟩
  by_cases ha : a = none
  · simpa only [Workload.carrying, if_pos ha] using h.others
  · simp only [Workload.carrying, if_neg ha, hpodSpec]
    exact congrArg (Option.map (WorkloadSpec.mapTemplate PodTemplate.withSpec)) h.others

end Carrying

/-- A workload has a template iff it has one without the affinity of its pods. -/
theorem template?_eq_none_iff_of_others (h : w.withoutAffinity.spec = w'.withoutAffinity.spec) :
    w.template? = none ↔ w'.template? = none := by
  have hsame : w.withoutAffinity.template? = w'.withoutAffinity.template? := by
    rw [template?, template?, h]
  simp only [withoutAffinity, template?_mapTemplate] at hsame
  rw [← Option.map_eq_none_iff (f := PodTemplate.setAffinity none), hsame, Option.map_eq_none_iff]

end Workload

namespace Plan

variable {plan : Plan} {owner : Metadata} {inNamespace : String} {reference : OwnerReference}
  {declared other w w' : Workload}

/-- Digests do not tell desired objects apart that are the same without them, nor make two of them
one. -/
theorem withDigest_eq_iff : withDigest w = withDigest w' ↔
    mapMetadata (·.unannotate templateHash) w = mapMetadata (·.unannotate templateHash) w' := by
  have hbare : ∀ w : Workload, mapMetadata (·.unannotate templateHash) (withDigest w) =
      mapMetadata (·.unannotate templateHash) w := fun w => by
    simp only [withDigest, mapMetadata, Metadata.unannotate, Metadata.annotate, Option.getD_some,
      StringMap.erase_insert, StringMap.erase_erase]
  constructor
  · intro h
    rw [← hbare w, h, hbare w']
  · intro h
    simp only [withDigest, h]

/-- The desired objects of two declarations are the same iff the declarations declare the same,
once both can carry the affinity of the plan. -/
theorem withDigest_undigested_eq_iff (h : w.template? ≠ none) (h' : w'.template? ≠ none) :
    withDigest (plan.undigested reference inNamespace w) =
        withDigest (plan.undigested reference inNamespace w') ↔
      (w.carrying plan.affinity).DeclaresSame (w'.carrying plan.affinity) := by
  have hparts : mapMetadata (·.unannotate templateHash) (plan.undigested reference inNamespace w) =
        mapMetadata (·.unannotate templateHash) (plan.undigested reference inNamespace w') ↔
      w.kind = w'.kind ∧ w.metadata.DeclaresSame w'.metadata ∧
        (w.setNodeAffinity plan.affinity).spec = (w'.setNodeAffinity plan.affinity).spec ∧
        w.status = w'.status := by
    rw [← @metadata_eq_iff reference inNamespace]
    simp only [mapMetadata, undigested, Workload.mk.injEq]
    rfl
  rw [withDigest_eq_iff, hparts, Workload.spec_setNodeAffinity_eq_iff h h',
    Workload.declaresSame_carrying_iff]
  constructor
  · rintro ⟨hkind, hmetadata, ⟨hpod, hanti, hothers⟩, hstatus⟩
    exact ⟨hkind, hmetadata, hstatus, hpod, hanti, hothers⟩
  · rintro ⟨hkind, hmetadata, hstatus, hpod, hanti, hothers⟩
    exact ⟨hkind, hmetadata, ⟨hpod, hanti, hothers⟩, hstatus⟩

/-- **Two declarations have the same desired object** iff they declare the same, once both can carry
the affinity of the plan. -/
theorem desired_eq_desired_iff (htemplate : declared.template? ≠ none)
    (hreference : owner.controllerReference? = some reference) :
    plan.desired owner inNamespace other = plan.desired owner inNamespace declared ↔
      (declared.carrying plan.affinity).DeclaresSame (other.carrying plan.affinity) := by
  rw [desired_eq plan inNamespace htemplate hreference]
  by_cases hother : other.template? = none
  · rw [desired_of_no_template hother]
    refine iff_of_false (fun h => by cases h) fun h => htemplate ?_
    have hnone := (Workload.template?_eq_none_iff_of_others h.others).mpr
      (Workload.template?_carrying_eq_none_iff.mpr hother)
    exact Workload.template?_carrying_eq_none_iff.mp hnone
  · rw [desired_eq plan inNamespace hother hreference, Except.ok.injEq, Option.some.injEq,
      eq_comm, withDigest_undigested_eq_iff htemplate hother]

/-- What is stored of a desired object declares what was declared, once that can carry the affinity
of the plan. -/
theorem declaresSame_carrying_stored (htemplate : declared.template? ≠ none)
    (hreference : owner.controllerReference? = some reference) (fields : ServerFields) :
    (declared.carrying plan.affinity).DeclaresSame
      (Workload.carrying plan.affinity
        (fields.setOn (withDigest (plan.undigested reference inNamespace declared)))) := by
  have hmade := Workload.isInjected_setNodeAffinity plan.affinity htemplate
  have hsettled := (declared.setNodeAffinity_setNodeAffinity_iff plan.affinity plan.affinity).mpr
    (.inr (.inr (Classical.em _).symm))
  have hothers : ((declared.setNodeAffinity plan.affinity).carrying plan.affinity).withoutAffinity =
      (declared.carrying plan.affinity).withoutAffinity := by
    rw [← Workload.withoutAffinity_setNodeAffinity, hsettled,
      Workload.withoutAffinity_setNodeAffinity]
  exact Workload.declaresSame_carrying_iff.mpr ⟨rfl, declaresSame_stored hreference fields, rfl,
    hmade.podAffinity.symm, hmade.podAntiAffinity.symm,
    (congrArg Workload.spec hothers).symm.trans (Workload.spec_withoutAffinity_carrying rfl)⟩

/-- **Deriving is a projection.** The desired object of a declaration with a pod template is its own
desired object, digest included, also when a server has set its members of it. Declarations that
declare the same have the same desired object, and they are all that have it, once they can carry
the affinity of the plan. -/
theorem desired_projection (plan : Plan) (owner : Metadata) (inNamespace : String)
    (declared : Workload) {name uid : String} (hname : owner.name = some name)
    (huid : owner.uid = some uid) (htemplate : declared.template? ≠ none) :
    ∃ desired, plan.desired owner inNamespace declared = .ok (some desired) ∧
      plan.desired owner inNamespace desired = .ok (some desired) ∧
      (∀ fields : ServerFields,
        plan.desired owner inNamespace (fields.setOn desired) = .ok (some desired)) ∧
      (∀ other, declared.DeclaresSame other →
        plan.desired owner inNamespace other = .ok (some desired)) ∧
      ∀ other, plan.desired owner inNamespace other = .ok (some desired) ↔
        (declared.carrying plan.affinity).DeclaresSame (other.carrying plan.affinity) := by
  obtain ⟨reference, hreference⟩ := Metadata.exists_controllerReference hname huid
  have hdesired := desired_eq plan inNamespace htemplate hreference
  have hiff : ∀ other, plan.desired owner inNamespace other =
      .ok (some (withDigest (plan.undigested reference inNamespace declared))) ↔
        (declared.carrying plan.affinity).DeclaresSame (other.carrying plan.affinity) :=
    fun other => by rw [← hdesired, desired_eq_desired_iff htemplate hreference]
  have hstored : ∀ fields : ServerFields, plan.desired owner inNamespace
      (fields.setOn (withDigest (plan.undigested reference inNamespace declared))) =
        .ok (some (withDigest (plan.undigested reference inNamespace declared))) := fun fields =>
    (hiff _).mpr (declaresSame_carrying_stored htemplate hreference fields)
  exact ⟨_, hdesired, hstored {}, hstored, fun other h => (hiff other).mpr h.carrying, hiff⟩

/-- A job that is started every night, with a node affinity of its own. -/
def nightly : Workload where
  kind := .cronJob
  metadata := { name := some "nightly" }
  spec := some <| .scheduled []
    { spec := some {
        leading := []
        template := { spec := some { affinity := some { nodeAffinity := some {} } } }
        trailing := [] } }
    [("schedule", .str "0 3 * * *")]

/-- The desired object of the nightly job is its own. -/
theorem desired_projection_nightly : ∃ desired,
    (Plan.mk [] none).desired { name := some "sd", uid := some "uid" } "tenant" nightly =
        .ok (some desired) ∧
      (Plan.mk [] none).desired { name := some "sd", uid := some "uid" } "tenant" desired =
        .ok (some desired) := by
  have htemplate : nightly.template? ≠ none := Option.some_ne_none _
  obtain ⟨desired, hdesired, hagain, -⟩ := desired_projection (Plan.mk [] none)
    { name := some "sd", uid := some "uid" } "tenant" nightly rfl rfl htemplate
  exact ⟨desired, hdesired, hagain⟩

end Plan

end GeoPlacement
