import GeoPlacement.Proofs.CheckedSums
import GeoPlacement.Reconcile.Pass

/-!
# Repair

Whatever is stored at the start, one pass brings every workload that the resource may have into
sync, and the next pass finds nothing to do. The workloads that are **taken** are those that have a
name and a pod template, can be read, and are not claimed by another resource; the others are
reported alike by both passes.

A later pass is first described for any plan (`Plan.effect_again`): it writes a workload that was
taken iff the object that was left is not in sync with what the later plan makes of the
declaration. For the same plan that is never so.

Versions are numbers of 64 bits, and a stored one may be the last. Where sums wrap around, it is
repaired like any other. Where they are checked, the first pass is stopped there and repairs nothing
more (`Plan.IsInRange`); the second one writes nothing, and so it is never stopped.

## Main results

* `Plan.exists_stored_of_taken`: what is stored for a taken workload after a pass.
* `Plan.effect_again`: what a later pass does with it.
* `sync_repairs`: one pass repairs, the next one writes nothing.
-/

namespace GeoPlacement

/-- Whether a declared workload is **taken** under a key: it has a name and a pod template, and
what is stored under its key can be read and is not claimed by another resource. -/
structure Workload.TakenAs (w : Workload) (owner : Metadata) (inNamespace : String) (c : Cluster)
    (key : WorkloadKey) : Prop where
  key_eq : w.key? inNamespace = some key
  template : w.template? ≠ none
  readable : (key.kind, key.name) ∉ c.readFaults
  unclaimed : ∀ current, c.stored key = some current →
    ∀ other, current.metadata.ownership owner ≠ .foreign other

namespace Plan

variable {plan : Plan} {owner : Metadata} {inNamespace : String} {c : Cluster}
  {declared : List Workload} {w : Workload} {key : WorkloadKey}

/-! ### Deeds -/

/-- What another resource claims is reported as in use. -/
theorem deed_of_foreign {current desired : Workload} {other : String} (isRejected : Bool)
    (h : current.metadata.ownership owner = .foreign other) :
    deed owner desired key isRejected (some current) = (.inUse other, none) := by
  simp only [deed, h]

/-- What the resource owns is left as it is where it is in sync and replaced where it is not. -/
theorem deed_of_owned {current desired : Workload}
    (h : current.metadata.ownership owner = .owned) :
    deed owner desired key false (some current) =
      if inSync current desired then (.unchanged, none)
      else (.updated,
        some (Cluster.stamp key.inNamespace (Cluster.versionNumber current + 1) desired)) := by
  simp only [deed, h, Bool.false_eq_true, if_false]

/-- **A deed brings a workload into sync** that may be written. -/
theorem exists_of_deed (key : WorkloadKey) {desired : Workload} {found : Option Workload}
    (hdesired : desired.metadata.ownership owner = .owned)
    (hfound : ∀ current, found = some current →
      ∀ other, current.metadata.ownership owner ≠ .foreign other) :
    ∃ stored, (deed owner desired key false found).2.or found = some stored ∧
      stored.metadata.ownership owner = .owned ∧ inSync stored desired = true := by
  have hstamped : ∀ version,
      inSync (Cluster.stamp key.inNamespace version desired) desired = true := fun version =>
    (inSync_stamp ..).trans (inSync_self desired)
  cases found with
  | none => exact ⟨_, rfl, hdesired, hstamped 1⟩
  | some current =>
      cases howner : current.metadata.ownership owner with
      | foreign other => exact absurd howner (hfound current rfl other)
      | unclaimed =>
          simp only [deed, howner, Bool.false_eq_true, if_false]
          exact ⟨_, rfl, hdesired, hstamped _⟩
      | owned =>
          rw [deed_of_owned howner]
          split
          · next hsync => exact ⟨current, rfl, howner, hsync⟩
          · exact ⟨_, rfl, hdesired, hstamped _⟩

/-! ### The two passes -/

/-- **A later pass**, by whatever plan, writes what was taken iff it is not in sync with what that
plan makes of the declaration. -/
theorem effect_again {plan : Plan} {c' : Cluster} {desired stored : Workload}
    (htaken : w.TakenAs owner inNamespace c key) (hread : c'.readFaults = c.readFaults)
    (hwrite : c'.writeFaults = [])
    (hdesired : plan.desired owner inNamespace w = .ok (some desired))
    (hstored : c'.stored key = some stored)
    (howned : stored.metadata.ownership owner = .owned) :
    plan.effect owner inNamespace c' w =
      if inSync stored desired then (.unchanged, none)
      else (.updated, some (key,
        Cluster.stamp key.inNamespace (Cluster.versionNumber stored + 1) desired)) := by
  have hreadable : (key.kind, key.name) ∉ c'.readFaults := hread ▸ htaken.readable
  rw [effect_of_desired c' htaken.key_eq hdesired, if_neg hreadable, hwrite, hstored]
  simp only [List.not_mem_nil, decide_false, deed_of_owned howned]
  split <;> rfl

variable {reference : OwnerReference} (hreference : owner.controllerReference? = some reference)

include hreference

/-- **A workload that is not taken** is not written; what is reported of it depends neither on the
plan nor on the other workloads. -/
theorem exists_effect_of_not_taken (h : ∀ key, ¬ w.TakenAs owner inNamespace c key) :
    ∃ outcome, ((∃ other, outcome = .inUse other) ∨ (∃ reason, outcome = .invalid reason) ∨
        ∃ key, w.key? inNamespace = some key ∧ (key.kind, key.name) ∈ c.readFaults) ∧
      ∀ (plan : Plan) (c' : Cluster), c'.readFaults = c.readFaults →
        (∀ key, w.key? inNamespace = some key → c'.stored key = c.stored key) →
        plan.effect owner inNamespace c' w = (outcome, none) := by
  cases hkey : w.key? inNamespace with
  | none =>
      exact ⟨_, Or.inr (Or.inl ⟨_, rfl⟩),
        fun plan c' _ _ => effect_of_no_name plan owner c' hkey⟩
  | some key =>
      cases htemplate : w.template? with
      | none =>
          exact ⟨_, Or.inr (Or.inl ⟨_, rfl⟩),
            fun plan c' _ _ => effect_of_no_template plan owner c' hkey htemplate⟩
      | some template =>
          by_cases hread : (key.kind, key.name) ∈ c.readFaults
          · refine ⟨.failed .get (ClientError.refused key.kind key.name .unreadable).message,
              Or.inr (Or.inr ⟨key, rfl, hread⟩), fun plan c' hsame _ => ?_⟩
            obtain ⟨desired, hdesired, -⟩ := exists_desired plan inNamespace htemplate hreference
            rw [effect_of_desired c' hkey hdesired, hsame, if_pos hread]
          · have hforeign : ¬ ∀ current, c.stored key = some current →
                ∀ other, current.metadata.ownership owner ≠ .foreign other := fun hfree =>
              h key ⟨hkey, by simp [htemplate], hread, hfree⟩
            push Not at hforeign
            obtain ⟨current, hcurrent, other, hother⟩ := hforeign
            refine ⟨.inUse other, Or.inl ⟨other, rfl⟩, fun plan c' hsame hstored => ?_⟩
            obtain ⟨desired, hdesired, -⟩ := exists_desired plan inNamespace htemplate hreference
            rw [effect_of_desired c' hkey hdesired, hsame, if_neg hread, hstored key rfl, hcurrent,
              deed_of_foreign _ hother]
            rfl

/-- **What is stored for a taken workload** after a pass is owned by the resource and in sync with
what the plan makes of the declaration. -/
theorem exists_stored_of_taken (plan : Plan)
    (hdistinct : (declared.filterMap (·.key? inNamespace)).Nodup) (hw : w ∈ declared)
    (hclaims : ∀ r ∈ w.metadata.owners, r.isController = false → r.kind = resourceKind →
      some r.uid = owner.uid)
    (hwrite : c.writeFaults = []) (htaken : w.TakenAs owner inNamespace c key) :
    ∃ desired stored, plan.desired owner inNamespace w = .ok (some desired) ∧
      (c.keepAll (plan.effects owner inNamespace c declared)).stored key = some stored ∧
      stored.metadata.ownership owner = .owned ∧ inSync stored desired = true := by
  obtain ⟨template, htemplate⟩ := Option.ne_none_iff_exists'.mp htaken.template
  obtain ⟨desired, hdesired, hderived⟩ := exists_desired plan inNamespace htemplate hreference
  obtain ⟨stored, hstored, howned, hsync⟩ :=
    exists_of_deed key (hderived.ownership hclaims) htaken.unclaimed
  refine ⟨desired, stored, hdesired, ?_, howned, hsync⟩
  rw [stored_effects hdistinct hw htaken.key_eq, effect_of_desired c htaken.key_eq hdesired,
    if_neg htaken.readable, ← hstored]
  simp only [hwrite, List.not_mem_nil, decide_false, Option.map_map]
  cases (deed owner desired key false (c.stored key)).2 <;> rfl

/-- A workload that is not taken is not written by a pass, nor by any later one, and is reported
alike. -/
theorem exists_effect_after_of_not_taken (plan : Plan)
    (hdistinct : (declared.filterMap (·.key? inNamespace)).Nodup) (hw : w ∈ declared)
    (h : ∀ key, ¬ w.TakenAs owner inNamespace c key) :
    ∃ outcome, ((∃ other, outcome = .inUse other) ∨ (∃ reason, outcome = .invalid reason) ∨
        ∃ key, w.key? inNamespace = some key ∧ (key.kind, key.name) ∈ c.readFaults) ∧
      plan.effect owner inNamespace c w = (outcome, none) ∧
      ∀ later : Plan, later.effect owner inNamespace
        (c.keepAll (plan.effects owner inNamespace c declared)) w = (outcome, none) := by
  obtain ⟨outcome, hreason, heffect⟩ := exists_effect_of_not_taken hreference h
  have hbefore := heffect plan c rfl fun _ _ => rfl
  refine ⟨outcome, hreason, hbefore, fun later => ?_⟩
  refine heffect later _ (c.readFaults_keepAll _) fun key hkey => ?_
  rw [stored_effects hdistinct hw hkey, hbefore]
  rfl

/-- A taken workload is found in sync by a second pass with the same plan. -/
theorem effect_after_of_taken (plan : Plan)
    (hdistinct : (declared.filterMap (·.key? inNamespace)).Nodup) (hw : w ∈ declared)
    (hclaims : ∀ r ∈ w.metadata.owners, r.isController = false → r.kind = resourceKind →
      some r.uid = owner.uid)
    (hwrite : c.writeFaults = []) (htaken : w.TakenAs owner inNamespace c key) :
    plan.effect owner inNamespace (c.keepAll (plan.effects owner inNamespace c declared)) w =
      (.unchanged, none) := by
  obtain ⟨desired, stored, hdesired, hstored, howned, hsync⟩ :=
    exists_stored_of_taken hreference plan hdistinct hw hclaims hwrite htaken
  rw [effect_again htaken (c.readFaults_keepAll _) ((c.writeFaults_keepAll _).trans hwrite)
    hdesired hstored howned, if_pos hsync]

/-- **A second pass with the same plan** writes nothing. -/
theorem effects_after (plan : Plan)
    (hdistinct : (declared.filterMap (·.key? inNamespace)).Nodup)
    (hclaims : ∀ w ∈ declared, ∀ r ∈ w.metadata.owners, r.isController = false →
      r.kind = resourceKind → some r.uid = owner.uid)
    (hwrite : c.writeFaults = []) :
    plan.effects owner inNamespace (c.keepAll (plan.effects owner inNamespace c declared))
      declared = [] := by
  refine List.filterMap_eq_nil_iff.mpr fun w hw => ?_
  by_cases h : ∃ key, w.TakenAs owner inNamespace c key
  · obtain ⟨key, h⟩ := h
    rw [effect_after_of_taken hreference plan hdistinct hw (hclaims w hw) hwrite h]
  · obtain ⟨outcome, -, -, heffect⟩ :=
      exists_effect_after_of_not_taken hreference plan hdistinct hw (not_exists.mp h)
    rw [heffect plan]

end Plan

/-! ### Passes -/

/-- What a pass reports and stores where its plan can be executed. -/
theorem answer_execute {object : SelectiveDeployment} {inNamespace : String}
    {reference : OwnerReference} (hnamespace : object.inNamespace = some inNamespace)
    (hreference : object.metadata.controllerReference? = some reference)
    (hdistinct : (object.spec.controllers.declared.filterMap (·.key? inNamespace)).Nodup)
    (plan : Plan) (c : Cluster) :
    c.answer (plan.execute object) =
      (.ok (object.spec.controllers.declared.map (plan.report object.metadata inNamespace c)),
        c.keepAll (plan.effects object.metadata inNamespace c
          object.spec.controllers.declared)) := by
  rw [Plan.execute, hnamespace]
  exact Plan.answer_applyAll hreference hdistinct

/-- What is summed up is what was reported. -/
theorem answer_sync {object : SelectiveDeployment} {nodes : List EligibleNode}
    {placed : List (List String)} {reports : List Report} {c c' : Cluster}
    (h : c.answer ((Plan.make object.spec nodes placed).execute object) = (.ok reports, c')) :
    c.answer (sync object nodes placed) =
      (.ok (Summary.of (Plan.make object.spec nodes placed).selections reports), c') := by
  simp only [sync, Cluster.answer_bind, h]
  rfl

/-- Summing up does not stop a pass. -/
theorem completes_sync {object : SelectiveDeployment} {nodes : List EligibleNode}
    {placed : List (List String)} {isInRange : Prop} {reports : List Report} {c c' : Cluster}
    (h : c.Completes ((Plan.make object.spec nodes placed).execute object) isInRange (.ok reports)
      c') :
    c.Completes (sync object nodes placed) isInRange
      (.ok (Summary.of (Plan.make object.spec nodes placed).selections reports)) c' :=
  h.map fun reports => reports.map (Summary.of (Plan.make object.spec nodes placed).selections)

/-- **One pass repairs, the next one writes nothing.** The resource has a namespace, a name and an
identifier, its workloads have distinct keys and are not claimed for another resource by their
declaration, and no request fails. After a pass, every workload that was taken is stored, owned and
in sync. A second pass with the same nodes and placements leaves the cluster as it is; it reports
these workloads as unchanged and the others as the first pass did. Where sums are checked, the first
pass does so iff it is in range, as it is where each stored version has a next one, and the second
pass always does. -/
theorem sync_repairs (object : SelectiveDeployment) (nodes : List EligibleNode)
    (placed : List (List String)) (c : Cluster) {inNamespace name uid : String}
    (hnamespace : object.inNamespace = some inNamespace)
    (hname : object.metadata.name = some name) (huid : object.uid = some uid)
    (hdistinct : (object.spec.controllers.declared.filterMap (·.key? inNamespace)).Nodup)
    (hclaims : ∀ w ∈ object.spec.controllers.declared, ∀ r ∈ w.metadata.owners,
      r.isController = false → r.kind = resourceKind → some r.uid = object.uid)
    (hwrite : c.writeFaults = []) (hread : c.readFaults = []) :
    ∃ (first second : List Report) (after : Cluster),
      c.Completes ((Plan.make object.spec nodes placed).execute object)
        ((Plan.make object.spec nodes placed).IsInRange object.metadata inNamespace c
          object.spec.controllers.declared)
        (.ok first) after ∧
      c.Completes (sync object nodes placed)
        ((Plan.make object.spec nodes placed).IsInRange object.metadata inNamespace c
          object.spec.controllers.declared)
        (.ok (Summary.of (Plan.make object.spec nodes placed).selections first)) after ∧
      (c.HasRoom → (Plan.make object.spec nodes placed).IsInRange object.metadata inNamespace c
        object.spec.controllers.declared) ∧
      after.Completes ((Plan.make object.spec nodes placed).execute object) True (.ok second)
        after ∧
      after.Completes (sync object nodes placed) True
        (.ok (Summary.of (Plan.make object.spec nodes placed).selections second)) after ∧
      second.length = object.spec.controllers.declared.length ∧
      ∀ (i : Nat) (w : Workload), object.spec.controllers.declared[i]? = some w →
        (∀ key, w.TakenAs object.metadata inNamespace c key → ∃ desired stored,
          (Plan.make object.spec nodes placed).desired object.metadata inNamespace w =
            .ok (some desired) ∧
          after.stored key = some stored ∧
          stored.metadata.ownership object.metadata = .owned ∧
          Plan.inSync stored desired = true ∧
          second[i]? = some ⟨w.kind, w.metadata.displayName, .unchanged⟩) ∧
        ((∀ key, ¬ w.TakenAs object.metadata inNamespace c key) → ∃ outcome,
          ((∃ other, outcome = .inUse other) ∨ ∃ reason, outcome = .invalid reason) ∧
          first[i]? = some ⟨w.kind, w.metadata.displayName, outcome⟩ ∧
          second[i]? = some ⟨w.kind, w.metadata.displayName, outcome⟩) := by
  obtain ⟨reference, hreference⟩ := Metadata.exists_controllerReference hname huid
  set plan := Plan.make object.spec nodes placed with hplan
  set declared := object.spec.controllers.declared with hdeclared
  set after := c.keepAll (plan.effects object.metadata inNamespace c declared) with hafter
  have hfirst := answer_execute hnamespace hreference hdistinct plan c
  have hsecond := answer_execute hnamespace hreference hdistinct plan after
  have hnothing := Plan.effects_after hreference plan hdistinct hclaims hwrite
  rw [hnothing, Cluster.keepAll_nil] at hsecond
  have hrange : plan.IsInRange object.metadata inNamespace after declared :=
    (Plan.isInRange_iff_of_nodup hdistinct).mpr fun w hw =>
      Plan.not_overruns_of_eq_none (List.filterMap_eq_nil_iff.mp hnothing w hw)
  have hrepairs := Plan.completes_execute hnamespace hreference hfirst
  have hrests := Plan.completes_execute hnamespace hreference hsecond
  rw [eq_true hrange] at hrests
  refine ⟨_, _, after, hrepairs, completes_sync hrepairs, fun hroom => ?_, hrests,
    completes_sync hrests, List.length_map .., fun i w hi => ⟨fun key htaken => ?_, fun hnot => ?_⟩⟩
  · exact (Plan.isInRange_iff_of_nodup hdistinct).mpr fun w _ =>
      Plan.not_overruns_of_hasRoom hroom w
  · have hw := List.mem_of_getElem? hi
    obtain ⟨desired, stored, hdesired, hstored, howned, hsync⟩ :=
      Plan.exists_stored_of_taken hreference plan hdistinct hw (hclaims w hw) hwrite htaken
    have heffect :=
      Plan.effect_after_of_taken hreference plan hdistinct hw (hclaims w hw) hwrite htaken
    refine ⟨desired, stored, hdesired, hstored, howned, hsync, ?_⟩
    rw [List.getElem?_map, hi, Option.map_some, Plan.report, heffect]
  · obtain ⟨outcome, hreason, hbefore, heffect⟩ := Plan.exists_effect_after_of_not_taken
      hreference plan hdistinct (List.mem_of_getElem? hi) hnot
    refine ⟨outcome, ?_, ?_, ?_⟩
    · rcases hreason with h | h | ⟨key, -, hfault⟩
      · exact Or.inl h
      · exact Or.inr h
      · rw [hread] at hfault
        cases hfault
    · rw [List.getElem?_map, hi, Option.map_some, Plan.report, hbefore]
    · rw [List.getElem?_map, hi, Option.map_some, Plan.report, heffect plan]

/-- A workload without any affinity. -/
def bareWorkload (name : Option String) : Workload where
  kind := .deployment
  metadata := { name }
  spec := some (.direct { leading := [], template := {}, trailing := [] })

/-- A resource that declares a workload of a name and one without. -/
def twoWorkloads : SelectiveDeployment where
  metadata := { name := some "sd", inNamespace := some "tenant", uid := some "uid" }
  spec := { controllers := { deployment := [bareWorkload (some "web"), bareWorkload none] } }

/-- A cluster in which the workload is there already, but belongs to nobody. -/
def strayCluster : Cluster :=
  ({} : Cluster).put "tenant" (bareWorkload (some "web"))

/-- The stray workload is repaired by the first pass and left alone by the second one. -/
theorem sync_repairs_stray :
    ∃ (first second : List Report) (after : Cluster),
      strayCluster.answer ((Plan.make twoWorkloads.spec [] []).execute twoWorkloads) =
        (.ok first, after) ∧
      after.answer ((Plan.make twoWorkloads.spec [] []).execute twoWorkloads) =
        (.ok second, after) ∧
      after.checkedAnswer ((Plan.make twoWorkloads.spec [] []).execute twoWorkloads) =
        some (.ok second, after) ∧
      second[0]? = some ⟨.deployment, "web", .unchanged⟩ := by
  obtain ⟨first, second, after, hfirst, -, -, hsecond, -, -, hreports⟩ :=
    sync_repairs twoWorkloads [] [] strayCluster rfl rfl rfl (by decide) (by decide) rfl rfl
  have htaken : (bareWorkload (some "web")).TakenAs twoWorkloads.metadata "tenant" strayCluster
      ⟨.deployment, "tenant", "web"⟩ := by
    refine ⟨rfl, Option.some_ne_none _, List.not_mem_nil, fun current hcurrent other => ?_⟩
    obtain rfl : bareWorkload (some "web") = current := Option.some.inj hcurrent
    have hfree : (bareWorkload (some "web")).metadata.ownership twoWorkloads.metadata =
        .unclaimed := rfl
    exact fun h => by cases hfree.symm.trans h
  obtain ⟨-, -, -, -, -, -, hunchanged⟩ := (hreports 0 _ rfl).1 _ htaken
  exact ⟨first, second, after, hfirst.answer, hsecond.answer, hsecond.checkedAnswer_iff.mpr trivial,
    hunchanged⟩

/-- A cluster in which the workload belongs to nobody and has the last version. -/
def lastVersionCluster : Cluster :=
  ({} : Cluster).put "tenant" { bareWorkload (some "web") with
    metadata := { name := some "web", resourceVersion := some "18446744073709551615" } }

/-- There the first pass stores the version zero, or is stopped where sums are checked. -/
example :
    ((lastVersionCluster.answer (sync twoWorkloads [] [])).2.stored
        ⟨.deployment, "tenant", "web"⟩).bind (·.metadata.resourceVersion) = some "0" ∧
      (lastVersionCluster.checkedAnswer (sync twoWorkloads [] [])).isNone = true := by
  decide +kernel

end GeoPlacement
