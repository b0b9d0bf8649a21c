import GeoPlacement.Cluster.Memory
import GeoPlacement.Proofs.Injection
import GeoPlacement.Reconcile.Plan

/-!
# The desired object of a declared workload

`Plan.desired` derives what is to be stored from a declaration. What the rest of the theory needs
of it is collected in one structure, `Plan.IsDerived`; how the digest is computed plays no part.

## Main results

* `Plan.desired_eq`: what the desired object of a declaration with a pod template is.
* `Plan.exists_desired`: a declaration with a pod template has a desired object.
* `Plan.IsDerived.ownership`: the desired object is owned by the resource it is derived for.
* `Plan.inSync_stamp`: the version under which an object is stored does not matter.
* `Metadata.ownership_eq_foreign`: what one resource owns is foreign to every other.
-/

namespace GeoPlacement

namespace Metadata

/-- A resource with a name and an identifier can refer to itself. -/
theorem exists_controllerReference {owner : Metadata} {name uid : String}
    (hname : owner.name = some name) (huid : owner.uid = some uid) :
    ∃ reference, owner.controllerReference? = some reference := by
  rw [controllerReference?, hname, huid]
  exact ⟨_, rfl⟩

/-- The reference of a resource to itself is a controller's and a claim, under its identifier. -/
theorem of_controllerReference {owner : Metadata} {reference : OwnerReference}
    (h : owner.controllerReference? = some reference) : reference.isController = true ∧
      reference.kind = resourceKind ∧ owner.uid = some reference.uid := by
  obtain ⟨name, -, h⟩ := Option.bind_eq_some_iff.mp h
  obtain ⟨uid, huid, h⟩ := Option.bind_eq_some_iff.mp h
  obtain rfl := Option.some.inj h
  exact ⟨rfl, rfl, huid⟩

/-- An object is owned by a resource iff there are claims and all of them are the resource's. -/
theorem ownership_eq_owned_iff {m owner : Metadata} :
    m.ownership owner = .owned ↔
      m.claims ≠ [] ∧ ∀ claim ∈ m.claims, some claim.uid = owner.uid := by
  rw [ownership]
  cases hfind : m.claims.find? (fun claim => some claim.uid != owner.uid) with
  | some other =>
      have hother := List.find?_some hfind
      have hmem := List.mem_of_find?_eq_some hfind
      constructor
      · intro h
        cases h
      · rintro ⟨-, hall⟩
        exact absurd (hall other hmem) (bne_iff_ne.mp hother)
  | none =>
      have hall : ∀ claim ∈ m.claims, some claim.uid = owner.uid := fun claim hclaim => by
        simpa using List.find?_eq_none.mp hfind claim hclaim
      cases hclaims : m.claims with
      | nil => simp
      | cons claim rest => simpa [hclaims] using hall

/-- Whether an object is **claimed elsewhere**: it refers to another resource of the operator's
kind, but not as its controller. -/
def ClaimedElsewhere (m owner : Metadata) : Prop :=
  ∃ r ∈ m.owners, r.isController = false ∧ r.kind = resourceKind ∧ some r.uid ≠ owner.uid

/-- Whatever has a resource for its controller has a claim. -/
theorem claims_ne_nil {m owner : Metadata} {others : List OwnerReference}
    {reference : OwnerReference} (hreference : owner.controllerReference? = some reference)
    (howners : m.owners = others ++ [reference]) : m.claims ≠ [] := by
  obtain ⟨-, hkind, -⟩ := of_controllerReference hreference
  simp [claims, howners, hkind]

/-- **The only controller of an object owns it** unless the object is claimed elsewhere. -/
theorem ownership_eq_owned_iff_of_owners {m m' owner : Metadata} {reference : OwnerReference}
    (hreference : owner.controllerReference? = some reference)
    (howners : m'.owners = m.owners.filter (!·.isController) ++ [reference]) :
    m'.ownership owner = .owned ↔ ¬ m.ClaimedElsewhere owner := by
  obtain ⟨-, -, huid⟩ := of_controllerReference hreference
  rw [ownership_eq_owned_iff, and_iff_right (claims_ne_nil hreference howners), claims, howners,
    List.filter_append]
  constructor
  · rintro hall ⟨r, hr, hcontrols, hclaims, hother⟩
    refine hother (hall r (List.mem_append_left _ ?_))
    simp [hr, hcontrols, hclaims]
  · refine fun hnone claim hclaim => ?_
    rcases List.mem_append.mp hclaim with hkept | hown
    · simp only [List.mem_filter, Bool.not_eq_true', beq_iff_eq] at hkept
      exact Decidable.byContradiction fun hother =>
        hnone ⟨claim, hkept.1.1, hkept.1.2, hkept.2, hother⟩
    · obtain rfl := List.mem_singleton.mp (List.mem_filter.mp hown).1
      exact huid.symm

/-- What one resource owns is foreign to every other. -/
theorem ownership_eq_foreign {m owner other : Metadata} (h : m.ownership other = .owned)
    (hne : other.uid ≠ owner.uid) : ∃ name, m.ownership owner = .foreign name := by
  obtain ⟨hsome, hall⟩ := ownership_eq_owned_iff.mp h
  obtain ⟨claim, rest, hclaims⟩ := List.exists_cons_of_ne_nil hsome
  have hother : (some claim.uid != owner.uid) = true := by
    rw [hall claim (hclaims ▸ List.mem_cons_self)]
    exact bne_iff_ne.mpr hne
  rw [ownership, hclaims, List.find?_cons, hother]
  exact ⟨_, rfl⟩

end Metadata

namespace Plan

/-- What a plan makes of a declaration: an object of the same kind and name that is managed for
the resource, is controlled by it alone and carries the affinity of the plan. -/
structure IsDerived (plan : Plan) (owner : Metadata) (declared desired : Workload) : Prop where
  kind : desired.kind = declared.kind
  name : desired.name = declared.name
  owners : ∃ reference, owner.controllerReference? = some reference ∧
    desired.metadata.owners = declared.metadata.owners.filter (!·.isController) ++ [reference]
  managed : desired.metadata.label? Label.managedBy = some Label.manager
  nodeAffinity : desired.nodeAffinity = plan.affinity

/-! ### Deriving -/

/-- The metadata of the desired object of a declaration, but for the digest. -/
def storedMetadata (reference : OwnerReference) (inNamespace : String) (m : Metadata) : Metadata :=
  ((clearServerFields inNamespace m).setController reference).markManaged

/-- The desired object of a declaration, but for the digest. -/
def undigested (plan : Plan) (reference : OwnerReference) (inNamespace : String)
    (declared : Workload) : Workload :=
  mapMetadata (storedMetadata reference inNamespace) (declared.setNodeAffinity plan.affinity)

variable {plan : Plan} {owner : Metadata} {inNamespace : String} {declared desired : Workload}
  {reference : OwnerReference}

/-- A declaration without a pod template has no desired object. -/
theorem desired_of_no_template (h : declared.template? = none) :
    plan.desired owner inNamespace declared = .ok none := by
  have hcleared : (mapMetadata (clearServerFields inNamespace) declared).template? = none := h
  rw [Plan.desired, Workload.injectAffinity_of_no_template _ hcleared]

/-- A declaration with a pod template has none either where its resource cannot be referred to. -/
theorem desired_of_no_reference (plan : Plan) (inNamespace : String) {template : PodTemplate}
    (htemplate : declared.template? = some template)
    (hreference : owner.controllerReference? = none) :
    plan.desired owner inNamespace declared = .error .missingOwner := by
  have hcleared : (mapMetadata (clearServerFields inNamespace) declared).template? ≠ none :=
    Option.ne_none_iff_exists'.mpr ⟨template, htemplate⟩
  rw [Plan.desired, Workload.injectAffinity_of_template _ hcleared]
  simp only [Metadata.setOwner?, hreference, Option.map_none]

/-- **The desired object** of a declaration with a pod template is the undigested one with its
digest, if the resource can be referred to. -/
theorem desired_eq (plan : Plan) (inNamespace : String) (htemplate : declared.template? ≠ none)
    (hreference : owner.controllerReference? = some reference) :
    plan.desired owner inNamespace declared =
      .ok (some (withDigest (plan.undigested reference inNamespace declared))) := by
  have hcleared : (mapMetadata (clearServerFields inNamespace) declared).template? ≠ none :=
    htemplate
  rw [Plan.desired, Workload.injectAffinity_of_template _ hcleared]
  simp only [Metadata.setOwner?, hreference, Option.map_some]
  rfl

/-- **Every declaration with a pod template has a desired object**, if its resource can be
referred to. -/
theorem exists_desired (plan : Plan) (inNamespace : String) {template : PodTemplate}
    (htemplate : declared.template? = some template)
    (hreference : owner.controllerReference? = some reference) :
    ∃ desired, plan.desired owner inNamespace declared = .ok (some desired) ∧
      plan.IsDerived owner declared desired := by
  have hsome : declared.template? ≠ none := Option.ne_none_iff_exists'.mpr ⟨_, htemplate⟩
  refine ⟨_, desired_eq plan inNamespace hsome hreference, rfl, rfl,
    ⟨reference, hreference, rfl⟩, ?_, ?_⟩
  · exact (StringMap.get?_insert ..).trans (if_pos rfl)
  · exact (Workload.isInjected_setNodeAffinity plan.affinity hsome).nodeAffinity

/-- A declaration with a desired object has a pod template. -/
theorem exists_template_of_desired
    (h : plan.desired owner inNamespace declared = .ok (some desired)) :
    ∃ template, declared.template? = some template :=
  Option.ne_none_iff_exists'.mp fun hnone => by
    rw [desired_of_no_template hnone] at h
    cases h

/-- A desired object is the undigested one of its declaration with its digest. -/
theorem exists_reference_of_desired
    (h : plan.desired owner inNamespace declared = .ok (some desired)) :
    ∃ reference, owner.controllerReference? = some reference ∧
      desired = withDigest (plan.undigested reference inNamespace declared) := by
  obtain ⟨template, htemplate⟩ := exists_template_of_desired h
  cases hreference : owner.controllerReference? with
  | none =>
      rw [desired_of_no_reference plan inNamespace htemplate hreference] at h
      cases h
  | some reference =>
      rw [desired_eq plan inNamespace (Option.ne_none_iff_exists'.mpr ⟨_, htemplate⟩)
        hreference] at h
      exact ⟨reference, rfl, (Option.some.inj (Except.ok.inj h)).symm⟩

/-- A desired object is derived from its declaration. -/
theorem isDerived_of_desired (h : plan.desired owner inNamespace declared = .ok (some desired)) :
    plan.IsDerived owner declared desired := by
  obtain ⟨template, htemplate⟩ := exists_template_of_desired h
  obtain ⟨reference, hreference, -⟩ := exists_reference_of_desired h
  obtain ⟨other, hother, hderived⟩ := exists_desired plan inNamespace htemplate hreference
  obtain rfl : other = desired := Option.some.inj (Except.ok.inj (hother.symm.trans h))
  exact hderived

/-! ### What the desired object is to its resource -/

/-- **The desired object is owned** by its resource, unless the declaration refers to another
resource without making it the controller. -/
theorem IsDerived.ownership (h : plan.IsDerived owner declared desired)
    (hclaims : ∀ r ∈ declared.metadata.owners, r.isController = false → r.kind = resourceKind →
      some r.uid = owner.uid) : desired.metadata.ownership owner = .owned := by
  obtain ⟨reference, hreference, howners⟩ := h.owners
  refine (Metadata.ownership_eq_owned_iff_of_owners hreference howners).mpr ?_
  rintro ⟨r, hr, hcontrols, hkind, hother⟩
  exact hother (hclaims r hr hcontrols hkind)

/-- The resource is the controller of the desired object. -/
theorem IsDerived.controller (h : plan.IsDerived owner declared desired) :
    desired.metadata.controller? = owner.controllerReference? := by
  obtain ⟨reference, hreference, howners⟩ := h.owners
  have hcontroller := (Metadata.of_controllerReference hreference).1
  have hothers : (declared.metadata.owners.filter (!·.isController)).find?
      OwnerReference.isController = none := by
    refine List.find?_eq_none.mpr fun r hr => ?_
    simpa using (List.mem_filter.mp hr).2
  rw [Metadata.controller?, howners, List.find?_append, hothers, hreference]
  simp [hcontroller]

/-! ### Being in sync -/

/-- Whether an object is in sync does not depend on the version under which it is stored. -/
theorem inSync_stamp (version : UInt64) (current desired : Workload) :
    inSync (Cluster.stamp inNamespace version current) desired = inSync current desired :=
  rfl

/-- Every object is in sync with itself. -/
theorem inSync_self (w : Workload) : inSync w w = true := by
  rw [inSync]
  simp only [beq_self_eq_true, Bool.and_self]

/-- Objects in sync have the same affinity. -/
theorem nodeAffinity_of_inSync {current : Workload} (h : inSync current desired = true) :
    current.nodeAffinity = desired.nodeAffinity := by
  simp only [inSync, Bool.and_eq_true, beq_iff_eq] at h
  exact h.2

/-- An object whose controller is a resource is controlled by the identifier of the resource. -/
theorem isControlledBy_of_controller {current : Workload} {reference : OwnerReference}
    {uid : String} (hcontroller : current.metadata.controller? = owner.controllerReference?)
    (hreference : owner.controllerReference? = some reference) (huid : owner.uid = some uid) :
    current.isControlledBy uid = true := by
  obtain ⟨hmarked, -, huid'⟩ := Metadata.of_controllerReference hreference
  obtain rfl : uid = reference.uid := Option.some.inj (huid.symm.trans huid')
  have hmem : reference ∈ current.metadata.owners :=
    List.mem_of_find?_eq_some (hcontroller.trans hreference)
  exact List.any_eq_true.mpr ⟨reference, hmem, by simp [hmarked]⟩

/-- An object in sync with a desired object is controlled by the same resource. -/
theorem isControlledBy_of_inSync {current : Workload} {uid : String}
    (hderived : plan.IsDerived owner declared desired) (huid : owner.uid = some uid)
    (h : inSync current desired = true) : current.isControlledBy uid = true := by
  obtain ⟨reference, hreference, -⟩ := hderived.owners
  simp only [inSync, Bool.and_eq_true, beq_iff_eq] at h
  exact isControlledBy_of_controller (h.1.2.trans hderived.controller) hreference huid

end Plan

end GeoPlacement
