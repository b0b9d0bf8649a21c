import GeoPlacement.Proofs.Application

/-!
# Applying workloads one after another

What is declared twice is applied twice, and then the second time to what the first one has left
behind. So where keys may come again, a pass is described step by step: by the cluster after a
number of declared workloads (`Plan.after`) and by what each of them comes to when its turn comes
(`Plan.outcomes`).

## Main results

* `Plan.exists_stored_afterOne`: a workload that does not fail is in sync after its turn.
* `Plan.answer_applyAll_outcomes`: what applying declared workloads comes to, whatever their keys.
* `Plan.agreesOn_after_of_notMem`: a key for which nothing is declared is left alone.
-/

namespace GeoPlacement

namespace Plan

variable (plan : Plan) (owner : Metadata) (inNamespace : String)

/-- The cluster after one declared workload was applied. -/
def afterOne (c : Cluster) (w : Workload) : Cluster :=
  c.keepAll (plan.effect owner inNamespace c w).2.toList

/-- The cluster after declared workloads were applied one after another. -/
def after (c : Cluster) (declared : List Workload) : Cluster :=
  declared.foldl (plan.afterOne owner inNamespace) c

/-- What is reported of each of some declared workloads when they are applied one after another. -/
def outcomes : Cluster → List Workload → List (Workload × Outcome)
  | _, [] => []
  | c, w :: rest => (w, (plan.effect owner inNamespace c w).1) ::
      outcomes (plan.afterOne owner inNamespace c w) rest

/-- The report on an outcome. -/
def reportOn (outcome : Workload × Outcome) : Report :=
  ⟨outcome.1.kind, outcome.1.metadata.displayName, outcome.2⟩

variable {plan owner inNamespace} {c : Cluster} {declared : List Workload}

/-- What an effect stores is stored after it. -/
theorem stored_afterOne_of_effect {w stored : Workload} {key : WorkloadKey} {outcome : Outcome}
    (h : plan.effect owner inNamespace c w = (outcome, some (key, stored))) :
    (plan.afterOne owner inNamespace c w).stored key = some stored := by
  rw [afterOne, h, Option.toList_some, Cluster.stored_keepAll_one, if_pos rfl]

/-- **What does not fail is in sync**: a workload on which no failure is reported has a desired
object, and what is then stored under its key is in sync with it. -/
theorem exists_stored_afterOne {w : Workload}
    (h : (plan.effect owner inNamespace c w).1.isFailure = false) :
    ∃ key desired stored, w.key? inNamespace = some key ∧
      plan.desired owner inNamespace w = .ok (some desired) ∧
      (plan.afterOne owner inNamespace c w).stored key = some stored ∧
      inSync stored desired = true := by
  rcases plan.effect_cases owner inNamespace c w with
    ⟨key, desired, outcome, hkey, hdesired, -, heffect⟩ | ⟨outcome, heffect, hreason⟩
  · exact ⟨key, desired, _, hkey, hdesired, stored_afterOne_of_effect heffect,
      (inSync_stamp ..).trans (inSync_self desired)⟩
  · rw [heffect] at h
    obtain ⟨-, key, desired, current, hkey, hdesired, hcurrent, hsync⟩ :=
      hreason.resolve_left (by rw [h]; exact Bool.false_ne_true)
    refine ⟨key, desired, current, hkey, hdesired, ?_, hsync⟩
    rw [afterOne, heffect]
    exact hcurrent

/-- There is one outcome for each declared workload, in order. -/
theorem map_fst_outcomes :
    (plan.outcomes owner inNamespace c declared).map Prod.fst = declared := by
  induction declared generalizing c with
  | nil => rfl
  | cons w rest ih => rw [outcomes, List.map_cons, ih]

/-- Declared workloads and the reports on them belong together by position. -/
theorem zip_outcomes :
    declared.zip ((plan.outcomes owner inNamespace c declared).map reportOn) =
      (plan.outcomes owner inNamespace c declared).map fun outcome =>
        (outcome.1, reportOn outcome) := by
  set outcomes := plan.outcomes owner inNamespace c declared with houtcomes
  have hdeclared : outcomes.map Prod.fst = declared := map_fst_outcomes
  rw [← hdeclared, List.zip_map']

/-- What is reported of a workload is its effect on what the workloads before it left behind. -/
theorem getElem?_outcomes (plan : Plan) (owner : Metadata) (inNamespace : String) (c : Cluster)
    (declared : List Workload) (i : Nat) :
    (plan.outcomes owner inNamespace c declared)[i]? = declared[i]?.map fun w =>
      (w, (plan.effect owner inNamespace
        (plan.after owner inNamespace c (declared.take i)) w).1) := by
  induction declared generalizing c i with
  | nil => rfl
  | cons head rest ih =>
      cases i with
      | zero => rfl
      | succ i => exact ih (plan.afterOne owner inNamespace c head) i

/-- What is reported of single workloads when they are applied one after another. -/
theorem getElem?_map_reportOn (plan : Plan) (owner : Metadata) (inNamespace : String) (c : Cluster)
    (declared : List Workload) (i : Nat) :
    ((plan.outcomes owner inNamespace c declared).map reportOn)[i]? =
      declared[i]?.map (plan.report owner inNamespace
        (plan.after owner inNamespace c (declared.take i))) := by
  rw [List.getElem?_map, getElem?_outcomes, Option.map_map]
  rfl

/-- After one more step, one more workload is applied. -/
theorem after_take_succ {i : Nat} (hw : declared[i]? = some w) :
    plan.after owner inNamespace c (declared.take (i + 1)) =
      plan.afterOne owner inNamespace
        (plan.after owner inNamespace c (declared.take i)) w := by
  rw [List.take_add_one, hw, after, List.foldl_append]
  rfl

/-- Applying workloads does not change which reads fail. -/
theorem readFaults_after (declared : List Workload) :
    (plan.after owner inNamespace c declared).readFaults = c.readFaults := by
  induction declared generalizing c with
  | nil => rfl
  | cons head rest ih => exact ih.trans (c.readFaults_keepAll _)

/-- **Applying declared workloads**, whatever their keys, has their effects one after another. -/
theorem answer_applyAll_outcomes {reference : OwnerReference}
    (hreference : owner.controllerReference? = some reference) :
    c.answer (plan.applyAll owner inNamespace declared) =
      (.ok ((plan.outcomes owner inNamespace c declared).map reportOn),
        plan.after owner inNamespace c declared) := by
  induction declared generalizing c with
  | nil => rfl
  | cons w rest ih =>
      have happly : c.answer (plan.apply owner inNamespace w) =
          (.ok (plan.effect owner inNamespace c w).1, plan.afterOne owner inNamespace c w) :=
        plan.answer_apply inNamespace c w hreference
      have hrest := ih (c := plan.afterOne owner inNamespace c w)
      simp only [applyAll, Cluster.answer_bind, happly, hrest]
      rfl

/-- What executing a plan comes to, whatever the keys of the declared workloads. -/
theorem answer_execute_outcomes (plan : Plan) (c : Cluster) (object : SelectiveDeployment)
    {reference : OwnerReference}
    (hnamespace : object.inNamespace = some inNamespace)
    (hreference : object.metadata.controllerReference? = some reference) :
    c.answer (plan.execute object) =
      (.ok ((plan.outcomes object.metadata inNamespace c object.spec.controllers.declared).map
          reportOn),
        plan.after object.metadata inNamespace c object.spec.controllers.declared) := by
  rw [execute, hnamespace]
  exact answer_applyAll_outcomes hreference

/-! ### Keys for which nothing is declared -/

variable {key : WorkloadKey}

/-- A workload with another key or without one leaves a key alone. -/
theorem agreesOn_afterOne {w : Workload} (hkey : w.key? inNamespace ≠ some key) :
    (plan.afterOne owner inNamespace c w).AgreesOn c key := by
  refine .of_keepAll fun hmem => ?_
  obtain ⟨entry, hentry, rfl⟩ := List.mem_map.mp hmem
  exact hkey (key_of_effect (Option.mem_toList.mp hentry))

/-- **A key for which nothing is declared** is left alone. -/
theorem agreesOn_after_of_notMem (h : ∀ w ∈ declared, w.key? inNamespace ≠ some key) :
    (plan.after owner inNamespace c declared).AgreesOn c key := by
  induction declared generalizing c with
  | nil => exact .refl c key
  | cons w rest ih =>
      obtain ⟨hw, hrest⟩ := List.forall_mem_cons.mp h
      exact (ih hrest).trans (agreesOn_afterOne hw)

end Plan

end GeoPlacement
