import GeoPlacement.Proofs.Independence
import Mathlib.Tactic.SplitIfs

/-!
# Whether a resource recognises what it wrote

A pass makes the resource the only controller of what it writes, and keeps the references to other
owners that the declaration carries. Whether an object belongs to a resource, however, is read off
all references to resources of the operator's kind, also those that are no controller's. A
declaration may therefore be **claimed elsewhere** (`Metadata.ClaimedElsewhere`): its object is
written, and from then on it is foreign to the resource that wrote it.

## Main results

* `Metadata.ownership_setOwner?_iff`: what an object is to the resource that was made its
  controller.
* `Plan.exists_stored_of_written`: what is stored for a workload that is reported as written.
* `written_recognised_iff`: whether a pass recognises what an earlier one wrote.
-/

namespace GeoPlacement

namespace Metadata

variable {m m' owner : Metadata}

/-- What has claims is either owned or foreign. -/
theorem exists_foreign_iff (hclaims : m.claims ≠ []) :
    (∃ other, m.ownership owner = .foreign other) ↔ m.ownership owner ≠ .owned := by
  rw [ownership]
  cases m.claims.find? fun claim => some claim.uid != owner.uid with
  | some claim => simp
  | none => simp [hclaims]

/-- **The new controller of an object owns it** iff the object was not claimed elsewhere. -/
theorem ownership_setOwner?_iff (h : m.setOwner? owner = some m') :
    m'.ownership owner = .owned ↔ ¬ m.ClaimedElsewhere owner := by
  obtain ⟨reference, hreference, rfl⟩ := Option.map_eq_some_iff.mp h
  exact ownership_eq_owned_iff_of_owners hreference rfl

end Metadata

/-- Whether a workload was created or updated. -/
def Outcome.isWritten : Outcome → Bool
  | created | updated => true
  | _ => false

namespace Plan

variable {plan : Plan} {owner : Metadata} {inNamespace : String} {c : Cluster}
  {declared : List Workload} {w : Workload} {key : WorkloadKey}

/-! ### Single steps of a pass -/

/-- **What is stored for a workload that is reported as written** is its desired object. -/
theorem exists_stored_of_written (h : (plan.effect owner inNamespace c w).1.isWritten = true) :
    ∃ key desired version, w.key? inNamespace = some key ∧
      plan.desired owner inNamespace w = .ok (some desired) ∧
      (plan.afterOne owner inNamespace c w).stored key =
        some (Cluster.stamp key.inNamespace version desired) := by
  rcases plan.effect_cases owner inNamespace c w with
    ⟨key, desired, outcome, hkey, hdesired, -, heffect⟩ | ⟨outcome, heffect, hreason⟩
  · exact ⟨key, desired, _, hkey, hdesired, stored_afterOne_of_effect heffect⟩
  · rw [heffect] at h
    rcases hreason with hfailure | ⟨rfl, -⟩
    · cases outcome <;> cases h <;> cases hfailure
    · cases h

/-- A workload is reported as in use iff what is stored under its key is foreign. -/
theorem exists_inUse_iff {desired stored : Workload} (hkey : w.key? inNamespace = some key)
    (hdesired : plan.desired owner inNamespace w = .ok (some desired))
    (hreadable : (key.kind, key.name) ∉ c.readFaults) (hstored : c.stored key = some stored) :
    (∃ other, (plan.effect owner inNamespace c w).1 = .inUse other) ↔
      ∃ other, stored.metadata.ownership owner = .foreign other := by
  rw [effect_of_desired c hkey hdesired, if_neg hreadable, hstored]
  cases howner : stored.metadata.ownership owner with
  | foreign other => simp [deed, howner]
  | unclaimed | owned =>
      simp only [deed, howner]
      split_ifs <;> simp

/-- **A desired object that was stored** is reported as in use by whatever plan finds it iff its
declaration is claimed elsewhere. -/
theorem recognised_iff {later : Plan} {desired : Workload} {version : UInt64}
    (hkey : w.key? inNamespace = some key)
    (hdesired : plan.desired owner inNamespace w = .ok (some desired))
    (hreadable : (key.kind, key.name) ∉ c.readFaults)
    (hstored : c.stored key = some (Cluster.stamp key.inNamespace version desired)) :
    (∃ other, (later.effect owner inNamespace c w).1 = .inUse other) ↔
      w.metadata.ClaimedElsewhere owner := by
  obtain ⟨reference, hreference, howners⟩ := (isDerived_of_desired hdesired).owners
  obtain ⟨template, htemplate⟩ := exists_template_of_desired hdesired
  obtain ⟨desired', hdesired', -⟩ := exists_desired later inNamespace htemplate hreference
  rw [exists_inUse_iff hkey hdesired' hreadable hstored]
  have hclaims : desired.metadata.claims ≠ [] := Metadata.claims_ne_nil hreference howners
  have howned := Metadata.ownership_eq_owned_iff_of_owners hreference howners
  exact (Metadata.exists_foreign_iff hclaims).trans ((not_congr howned).trans not_not)

end Plan

/-! ### Two passes -/

/-- **What a pass wrote is recognised** by its resource unless the declaration is claimed elsewhere.
The resource has a namespace, a name and an identifier. Whatever carries references of its own
belongs to the resource that is made its controller iff it is not claimed elsewhere. For a workload
that a pass reports as created or updated, the object stored at the end of that step therefore
belongs to the resource iff its declaration is not claimed elsewhere; and a later pass that finds
the object as it was left reports it as in use iff the declaration is claimed elsewhere. -/
theorem written_recognised_iff (plan : Plan) (object : SelectiveDeployment) (c : Cluster)
    {inNamespace name uid : String} (hnamespace : object.inNamespace = some inNamespace)
    (hname : object.metadata.name = some name) (huid : object.uid = some uid) :
    (∀ m m' : Metadata, m.setOwner? object.metadata = some m' →
      (m'.ownership object.metadata = .owned ↔ ¬ m.ClaimedElsewhere object.metadata)) ∧
    ∃ reports after, c.answer (plan.execute object) = (.ok reports, after) ∧
      reports.length = object.spec.controllers.declared.length ∧
      ∀ (i : Nat) (w : Workload) (r : Report), object.spec.controllers.declared[i]? = some w →
        reports[i]? = some r → r.outcome.isWritten = true →
        ∃ key stored, w.key? inNamespace = some key ∧
          (c.answer (plan.applyAll object.metadata inNamespace
            (object.spec.controllers.declared.take (i + 1)))).2.stored key = some stored ∧
          (stored.metadata.ownership object.metadata = .owned ↔
            ¬ w.metadata.ClaimedElsewhere object.metadata) ∧
          ∀ (later : Plan) (c' : Cluster), (key.kind, key.name) ∉ c'.readFaults →
            (c'.answer (later.applyAll object.metadata inNamespace
              (object.spec.controllers.declared.take i))).2.stored key = some stored →
            ∃ reports' after' r', c'.answer (later.execute object) = (.ok reports', after') ∧
              reports'[i]? = some r' ∧
              ((∃ other, r'.outcome = .inUse other) ↔
                w.metadata.ClaimedElsewhere object.metadata) := by
  obtain ⟨reference, hreference⟩ := Metadata.exists_controllerReference hname huid
  set declared := object.spec.controllers.declared with hdeclared
  refine ⟨fun m m' => Metadata.ownership_setOwner?_iff, _, _,
    plan.answer_execute_outcomes c object hnamespace hreference, ?_, fun i w r hw hr hwritten => ?_⟩
  · rw [List.length_map, ← List.length_map Prod.fst, Plan.map_fst_outcomes]
  · rw [Plan.getElem?_map_reportOn, hw] at hr
    obtain rfl := Option.some.inj hr
    obtain ⟨key, desired, version, hkey, hdesired, hstored⟩ :=
      Plan.exists_stored_of_written hwritten
    obtain ⟨_, hreference', howners⟩ := (Plan.isDerived_of_desired hdesired).owners
    refine ⟨key, Cluster.stamp key.inNamespace version desired, hkey, ?_,
      Metadata.ownership_eq_owned_iff_of_owners hreference' howners,
      fun later c' hreadable hfound => ?_⟩
    · rw [Plan.answer_applyAll_outcomes hreference]
      exact (congrArg (·.stored key) (Plan.after_take_succ hw)).trans hstored
    · rw [Plan.answer_applyAll_outcomes hreference] at hfound
      set before := later.after object.metadata inNamespace c' (declared.take i) with hbefore
      have hreadable' : (key.kind, key.name) ∉ before.readFaults := by
        rwa [hbefore, Plan.readFaults_after]
      refine ⟨_, _, later.report object.metadata inNamespace before w,
        later.answer_execute_outcomes c' object hnamespace hreference, ?_,
        Plan.recognised_iff hkey hdesired hreadable' hfound⟩
      rw [Plan.getElem?_map_reportOn, hw, Option.map_some]

/-- A deployment that refers to nobody is recognised by the resource that created it. -/
theorem written_recognised_iff_web :
    ∃ after stored, ({} : Cluster).answer ((Plan.make {} [] []).execute (declaring ["web"] [])) =
        (.ok [⟨.deployment, "web", .created⟩], after) ∧
      after.stored ⟨.deployment, "tenant", "web"⟩ = some stored ∧
      stored.metadata.ownership (declaring ["web"] []).metadata = .owned := by
  obtain ⟨-, reports, after, hanswer, -, hall⟩ :=
    written_recognised_iff (Plan.make {} [] []) (declaring ["web"] []) {} rfl rfl rfl
  obtain rfl : [⟨.deployment, "web", .created⟩] = reports :=
    Except.ok.inj (congrArg Prod.fst hanswer)
  obtain ⟨key, stored, hkey, hstored, howned, -⟩ := hall 0 _ _ rfl rfl rfl
  obtain rfl := Option.some.inj hkey
  obtain rfl := congrArg Prod.snd hanswer
  refine ⟨_, stored, hanswer, hstored, howned.mpr ?_⟩
  rintro ⟨r, hr, -⟩
  cases hr

/-- A deployment that refers to a resource, but not as its controller. -/
def entrusted : Workload :=
  { plainWorkload .deployment "web" with
    metadata := {
      name := some "web"
      ownerReferences := some [{
        apiVersion := resourceApiVersion
        blockOwnerDeletion := none
        controller := none
        kind := resourceKind
        name := "sd-b"
        uid := "uid-b" }] } }

/-- Another resource, which declares that deployment. -/
def entrustedTo : SelectiveDeployment where
  metadata := { name := some "sd-a", inNamespace := some "tenant", uid := some "uid-a" }
  spec := { controllers := { deployment := [entrusted] } }

/-- A resource does not recognise everything that it wrote. -/
theorem not_written_recognised :
    ¬ ∀ (plan : Plan) (object : SelectiveDeployment) (c : Cluster) (inNamespace name uid : String),
      object.inNamespace = some inNamespace → object.metadata.name = some name →
      object.uid = some uid →
      ∀ reports after, c.answer (plan.execute object) = (.ok reports, after) →
        ∀ (i : Nat) (w : Workload) (r : Report),
          object.spec.controllers.declared[i]? = some w → reports[i]? = some r →
          r.outcome.isWritten = true →
          ∃ key stored, w.key? inNamespace = some key ∧
            (c.answer (plan.applyAll object.metadata inNamespace
              (object.spec.controllers.declared.take (i + 1)))).2.stored key = some stored ∧
            stored.metadata.ownership object.metadata = .owned := by
  intro h
  obtain ⟨key, stored, hkey, hstored, howned⟩ := h (Plan.make {} [] []) entrustedTo {}
    "tenant" "sd-a" "uid-a" rfl rfl rfl _ _ rfl 0 entrusted _ rfl rfl rfl
  obtain rfl := Option.some.inj hkey
  obtain rfl := Option.some.inj hstored
  have hforeign : Ownership.foreign "sd-b" = .owned := howned
  cases hforeign

end GeoPlacement
