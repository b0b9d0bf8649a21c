import GeoPlacement.Proofs.Admission
import GeoPlacement.Proofs.Independence
import GeoPlacement.Proofs.ReadBack
import GeoPlacement.Proofs.Repair
import GeoPlacement.Proofs.Resolution

/-!
# The reverse index reads back what passes write

A pass writes workloads by one set of rules and the index of workloads reads them by others: it is
fed by watches that select on a label, finds owners by the kind of a reference, finds placements by
controller and identifier, and takes hostnames from the requirements on one key. This module shows
that the two sides fit. A workload that a pass has applied **bears the marks** of its plan, and
these are all that the index looks at.

## Main results

* `Plan.bearsMarks_after`: applied workloads bear the marks of the plan in the end.
* `index_reads_back`: after a pass, the index knows the resource and its placement.
-/

namespace GeoPlacement

/-! ### What a watch selects -/

/-- Whether a workload carries the label by which the watches of the operator select. -/
def Workload.isManaged (w : Workload) : Bool :=
  w.metadata.label? Label.managedBy == some Label.manager

/-- The part of a cluster that the watches of the operator see. -/
def Cluster.managed (c : Cluster) : Cluster :=
  { c with workloads := ⟨c.workloads.entries.filter (·.2.isManaged),
      c.workloads.distinct.sublist (List.filter_sublist.map _)⟩ }

/-- What is managed is stored, under the same key. -/
theorem Cluster.stored_managed_eq_some_iff (c : Cluster) (key : WorkloadKey) (w : Workload) :
    c.managed.stored key = some w ↔ c.stored key = some w ∧ w.isManaged = true := by
  rw [stored, stored, ← Table.mem_entries_iff, ← Table.mem_entries_iff, managed]
  exact List.mem_filter

/-- Whether stored workloads carry the namespaces under which they are stored. -/
def Cluster.IsNamespaced (c : Cluster) : Prop :=
  ∀ key w, c.stored key = some w → w.metadata.inNamespace = some key.inNamespace

namespace WorkloadIndex

/-- Whether an index holds exactly the workloads of a cluster that the watches select. -/
def Watches (index : WorkloadIndex) (c : Cluster) : Prop :=
  ∀ kind w, w ∈ (index.ofKind kind).objects ↔
    (∃ key, key.kind = kind ∧ c.stored key = some w) ∧ w.isManaged = true

/-- An index that watches a cluster holds its managed part. -/
theorem watches_iff_holds {index : WorkloadIndex} {c : Cluster} :
    index.Watches c ↔ index.Holds c.managed := by
  refine forall_congr' fun kind => forall_congr' fun w => ?_
  simp only [Cluster.stored_managed_eq_some_iff, ← and_assoc, exists_and_right]

end WorkloadIndex

/-! ### What a plan leaves behind -/

namespace Plan

/-- Whether a workload **bears the marks** of a plan: it lies in the namespace of the resource, is
controlled by it, is marked as managed and carries the affinity of the plan. -/
structure BearsMarks (plan : Plan) (owner : Metadata) (inNamespace : String) (w : Workload) :
    Prop where
  inNamespace : w.metadata.inNamespace = some inNamespace
  controller : w.metadata.controller? = owner.controllerReference?
  managed : w.metadata.label? Label.managedBy = some Label.manager
  nodeAffinity : w.nodeAffinity = plan.affinity

variable {plan : Plan} {owner : Metadata} {inNamespace : String} {declared desired : Workload}

/-- What is in sync with a desired object bears the marks, if it lies in the namespace. -/
theorem bearsMarks_of_inSync {current : Workload} (hderived : plan.IsDerived owner declared desired)
    (hin : current.metadata.inNamespace = some inNamespace)
    (h : inSync current desired = true) : plan.BearsMarks owner inNamespace current := by
  simp only [inSync, Bool.and_eq_true, beq_iff_eq] at h
  obtain ⟨⟨⟨-, hlabel⟩, hcontroller⟩, haffinity⟩ := h
  exact ⟨hin, hcontroller.trans hderived.controller, hlabel.trans hderived.managed,
    haffinity.trans hderived.nodeAffinity⟩

/-- An object that was stored for a desired one bears the marks. -/
theorem bearsMarks_stamp (hderived : plan.IsDerived owner declared desired) (version : UInt64) :
    plan.BearsMarks owner inNamespace (Cluster.stamp inNamespace version desired) :=
  ⟨rfl, hderived.controller, hderived.managed, hderived.nodeAffinity⟩

variable {c : Cluster}

/-- Applying a workload leaves a key as it is or stores what bears the marks. -/
theorem stored_afterOne_cases (w : Workload) (key : WorkloadKey) :
    (plan.afterOne owner inNamespace c w).stored key = c.stored key ∨
      ∃ now, (plan.afterOne owner inNamespace c w).stored key = some now ∧
        plan.BearsMarks owner key.inNamespace now := by
  rcases plan.effect_cases owner inNamespace c w with
    ⟨written, desired, outcome, hkey, hdesired, -, heffect⟩ | ⟨outcome, heffect, -⟩
  · rw [afterOne, heffect, Option.toList_some, Cluster.stored_keepAll_one]
    by_cases hsame : written = key
    · subst hsame
      exact .inr ⟨_, if_pos rfl, bearsMarks_stamp (isDerived_of_desired hdesired) _⟩
    · exact .inl (if_neg hsame)
  · rw [afterOne, heffect]
    exact .inl rfl

/-- Applying workloads leaves a key as it is or stores what bears the marks. -/
theorem stored_after_cases (declared : List Workload) (key : WorkloadKey) :
    (plan.after owner inNamespace c declared).stored key = c.stored key ∨
      ∃ now, (plan.after owner inNamespace c declared).stored key = some now ∧
        plan.BearsMarks owner key.inNamespace now := by
  induction declared generalizing c with
  | nil => exact .inl rfl
  | cons w rest ih =>
      rcases ih (c := plan.afterOne owner inNamespace c w) with hsame | hmarked
      · rcases stored_afterOne_cases w key with hone | ⟨now, hone, hmarks⟩
        · exact .inl (hsame.trans hone)
        · exact .inr ⟨now, hsame.trans hone, hmarks⟩
      · exact .inr hmarked

/-- Stored workloads still carry their namespaces after a workload was applied. -/
theorem isNamespaced_afterOne (h : c.IsNamespaced) (w : Workload) :
    (plan.afterOne owner inNamespace c w).IsNamespaced := by
  intro key now hnow
  rcases stored_afterOne_cases w key with hsame | ⟨other, hother, hmarks⟩
  · exact h key now (hsame.symm.trans hnow)
  · obtain rfl := Option.some.inj (hother.symm.trans hnow)
    exact hmarks.inNamespace

/-- **A workload that was applied** bears the marks of the plan, whether it was written or was
there already. -/
theorem bearsMarks_afterOne (h : c.IsNamespaced) {w : Workload}
    (hsuccess : (plan.effect owner inNamespace c w).1.isFailure = false) :
    ∃ key now, w.key? inNamespace = some key ∧
      (plan.afterOne owner inNamespace c w).stored key = some now ∧
      plan.BearsMarks owner key.inNamespace now := by
  obtain ⟨key, desired, now, hkey, hdesired, hnow, hsync⟩ := exists_stored_afterOne hsuccess
  exact ⟨key, now, hkey, hnow, bearsMarks_of_inSync (isDerived_of_desired hdesired)
    (isNamespaced_afterOne h w key now hnow) hsync⟩

/-- **What was applied bears the marks in the end**: a workload on which no failure is reported
leaves the marks of the plan under its key, whatever is applied after it. Later workloads of its key
may overwrite what was stored, but bear the marks as well. -/
theorem bearsMarks_after_of_mem (h : c.IsNamespaced) {declared : List Workload}
    {outcome : Workload × Outcome} (hmem : outcome ∈ plan.outcomes owner inNamespace c declared)
    (hsuccess : outcome.2.isFailure = false) :
    ∃ key now, outcome.1.key? inNamespace = some key ∧
      (plan.after owner inNamespace c declared).stored key = some now ∧
      plan.BearsMarks owner key.inNamespace now := by
  induction declared generalizing c with
  | nil => cases hmem
  | cons head rest ih =>
      rcases List.mem_cons.mp hmem with rfl | hmem
      · obtain ⟨key, now, hkey, hnow, hmarks⟩ := bearsMarks_afterOne h hsuccess
        rcases stored_after_cases rest key with hsame | ⟨later, hlater, hmarks'⟩
        · exact ⟨key, now, hkey, hsame.trans hnow, hmarks⟩
        · exact ⟨key, later, hkey, hlater, hmarks'⟩
      · exact ih (isNamespaced_afterOne h head) hmem

/-- Workloads that were all applied bear the marks of the plan in the end. -/
theorem bearsMarks_after (h : c.IsNamespaced) {declared : List Workload}
    (hsuccess : ∀ outcome ∈ plan.outcomes owner inNamespace c declared,
      outcome.2.isFailure = false) {w : Workload} (hw : w ∈ declared) :
    ∃ key now, w.key? inNamespace = some key ∧
      (plan.after owner inNamespace c declared).stored key = some now ∧
      plan.BearsMarks owner key.inNamespace now := by
  have hmap : w ∈ (plan.outcomes owner inNamespace c declared).map Prod.fst := by
    rwa [map_fst_outcomes]
  obtain ⟨outcome, houtcome, rfl⟩ := List.mem_map.mp hmap
  exact bearsMarks_after_of_mem h houtcome (hsuccess outcome houtcome)

/-- A key under which nothing was applied stays as it was. -/
theorem stored_after_of_failures {declared : List Workload} {key : WorkloadKey}
    (h : ∀ outcome ∈ plan.outcomes owner inNamespace c declared,
      outcome.1.key? inNamespace = some key → outcome.2.isFailure = true) :
    (plan.after owner inNamespace c declared).stored key = c.stored key := by
  induction declared generalizing c with
  | nil => rfl
  | cons head rest ih =>
      obtain ⟨hhead, hrest⟩ := List.forall_mem_cons.mp h
      refine (ih hrest).trans ?_
      rcases plan.effect_cases owner inNamespace c head with
        ⟨written, desired, outcome, hkey, -, hsuccess, heffect⟩ | ⟨outcome, heffect, -⟩
      · have hne : written ≠ key := by
          rintro rfl
          have hfailure := hhead hkey
          rw [heffect] at hfailure
          exact absurd (hfailure.symm.trans hsuccess) (by decide)
        rw [afterOne, heffect, Option.toList_some, Cluster.stored_keepAll_one, if_neg hne]
      · rw [afterOne, heffect]
        rfl

/-- Stored workloads still carry their namespaces after workloads were applied. -/
theorem isNamespaced_after (h : c.IsNamespaced) (declared : List Workload) :
    (plan.after owner inNamespace c declared).IsNamespaced := by
  induction declared generalizing c with
  | nil => exact h
  | cons head rest ih => exact ih (isNamespaced_afterOne h head)

/-! ### What the index makes of the marks -/

namespace BearsMarks

variable {w : Workload}

/-- A workload that bears the marks is managed. -/
theorem isManaged (h : plan.BearsMarks owner inNamespace w) : w.isManaged = true := by
  rw [Workload.isManaged, h.managed, beq_self_eq_true]

/-- The resource is among those that the index finds as owners. -/
theorem mem_ownerRefs (h : plan.BearsMarks owner inNamespace w) {name uid : String}
    (hname : owner.name = some name) (huid : owner.uid = some uid) :
    (⟨some inNamespace, name⟩ : ObjectRef) ∈ w.ownerRefs := by
  have hreference : owner.controllerReference? = some ⟨resourceApiVersion, none, some true,
      resourceKind, name, uid⟩ := by
    rw [Metadata.controllerReference?, hname, huid]
    rfl
  have hmem := List.mem_of_find?_eq_some (h.controller.trans hreference)
  rw [Workload.ownerRefs, h.inNamespace]
  exact List.mem_map.mpr ⟨_, List.mem_filter.mpr ⟨hmem, beq_self_eq_true _⟩, rfl⟩

end BearsMarks

end Plan

/-- **The index reads back what a pass writes.** The resource has a namespace, a name and an
identifier and declares some workload; all that is stored carries its namespace. After a pass that
has created, updated or left unchanged every declared workload, an index of what the watches select
finds the resource as an owner on every hostname that the pass has selected. If the resource
controls nothing but declared workloads, its placement is read back as the hostnames of the
selections. -/
theorem index_reads_back (object : SelectiveDeployment) (nodes : List EligibleNode)
    (placed : List (List String)) (c : Cluster) {inNamespace name uid : String}
    (hnamespace : object.inNamespace = some inNamespace)
    (hname : object.metadata.name = some name) (huid : object.uid = some uid)
    (hnamespaced : c.IsNamespaced) (hdeclared : object.spec.controllers.declared ≠ [])
    {reports : List Report} {after : Cluster}
    (hexecute : c.answer ((Plan.make object.spec nodes placed).execute object) =
      (.ok reports, after))
    (hsuccess : ∀ report ∈ reports, report.outcome = .created ∨ report.outcome = .updated ∨
      report.outcome = .unchanged)
    (index : WorkloadIndex) (hwatches : index.Watches after) :
    c.answer (sync object nodes placed) =
        (.ok (Summary.of (Plan.make object.spec nodes placed).selections reports), after) ∧
      (∀ selection ∈ (Plan.make object.spec nodes placed).selections,
        ∀ hostname ∈ selection.hostnames,
          (⟨some inNamespace, name⟩ : ObjectRef) ∈ index.ownersOf hostname) ∧
      ((∀ key w, after.stored key = some w → w.isControlledBy uid = true →
          ∃ declared ∈ object.spec.controllers.declared, declared.key? inNamespace = some key) →
        index.placementOf object =
          (Plan.make object.spec nodes placed).selections.map Selection.hostnames) := by
  obtain ⟨reference, hreference⟩ := Metadata.exists_controllerReference hname huid
  set plan := Plan.make object.spec nodes placed with hplan
  have hrun := plan.answer_execute_outcomes c object hnamespace hreference
  obtain ⟨rfl, rfl⟩ : reports = _ ∧ after = _ := by
    simpa [hexecute] using hrun
  have happlied : ∀ w ∈ object.spec.controllers.declared, ∃ key now,
      w.key? inNamespace = some key ∧
      (plan.after object.metadata inNamespace c object.spec.controllers.declared).stored key =
        some now ∧ plan.BearsMarks object.metadata key.inNamespace now := by
    refine fun w hw => Plan.bearsMarks_after hnamespaced (fun outcome houtcome => ?_) hw
    have hreport := hsuccess _ (List.mem_map_of_mem houtcome)
    rcases hreport with h | h | h <;> exact congrArg Outcome.isFailure h
  have hhostnames : (plan.affinity.map NodeAffinity.hostnames).getD [] =
      plan.selections.map Selection.hostnames :=
    Plan.placement_compile_resolveAll
  obtain ⟨first, hfirst⟩ := List.exists_mem_of_ne_nil _ hdeclared
  obtain ⟨key, now, hkey, hnow, hmarks⟩ := happlied first hfirst
  have hin : key.inNamespace = inNamespace := by
    by_contra hne
    exact Workload.ne_key_of_namespace hne hkey
  refine ⟨answer_sync hexecute, fun selection hselection hostname hhostname => ?_, fun hown => ?_⟩
  · refine WorkloadIndex.mem_ownersOf_iff.mpr ⟨now, ?_, ?_, hin ▸ hmarks.mem_ownerRefs hname huid⟩
    · refine List.mem_flatMap.mpr ⟨key.kind, by cases key.kind <;> decide, ?_⟩
      exact (hwatches key.kind now).mpr ⟨⟨key, rfl, hnow⟩, hmarks.isManaged⟩
    · rw [Workload.namesHost, Workload.placement, hmarks.nodeAffinity, hhostnames]
      exact List.any_eq_true.mpr ⟨selection.hostnames, List.mem_map_of_mem hselection,
        List.contains_iff_mem.mpr hhostname⟩
  · rw [← hhostnames]
    refine WorkloadIndex.placementOf_eq (WorkloadIndex.watches_iff_holds.mp hwatches) huid ?_ ?_
    · intro other w hw hcontrolled
      obtain ⟨hw, -⟩ := (Cluster.stored_managed_eq_some_iff ..).mp hw
      obtain ⟨declared, hmem, hother⟩ := hown other w hw hcontrolled
      obtain ⟨key', now', hkey', hnow', hmarks'⟩ := happlied declared hmem
      obtain rfl : other = key' := Option.some.inj (hother.symm.trans hkey')
      obtain rfl : now' = w := Option.some.inj (hnow'.symm.trans hw)
      exact hmarks'.nodeAffinity
    · exact ⟨key, now, (Cluster.stored_managed_eq_some_iff ..).mpr ⟨hnow, hmarks.isManaged⟩,
        Plan.isControlledBy_of_controller hmarks.controller hreference huid⟩

/-- A resource that places a deployment and a job in France. -/
def placedInFrance : SelectiveDeployment :=
  { declaring ["web"] ["batch"] with
    spec := { (declaring ["web"] ["batch"]).spec with selector := [byCountry .anyOf "FR"] } }

/-- A cluster in which the deployment is there already, but belongs to nobody. -/
def unclaimedCluster : Cluster :=
  ({} : Cluster).put "tenant"
    { kind := .deployment, metadata := { name := some "web", inNamespace := some "tenant" } }

/-- The deployment is taken over and the job created; both are found again on the node in France. -/
theorem index_reads_back_in_france :
    ∃ (after : Cluster) (index : WorkloadIndex), index.Watches after ∧
      (unclaimedCluster.answer
        (sync placedInFrance [nodeIn "fr-1" "FR", nodeIn "us-1" "US"] [])).2 = after ∧
      (⟨some "tenant", "sd"⟩ : ObjectRef) ∈ index.ownersOf "fr-1" ∧
      index.placementOf placedInFrance = [["fr-1"]] := by
  have hnamespaced : unclaimedCluster.IsNamespaced := by
    intro key w hw
    have hmem := (unclaimedCluster.workloads.mem_entries_iff key w).mpr hw
    obtain ⟨rfl, rfl⟩ := Prod.mk.inj (List.mem_singleton.mp hmem)
    rfl
  set plan := Plan.make placedInFrance.spec [nodeIn "fr-1" "FR", nodeIn "us-1" "US"] [] with hplan
  have hexecute := plan.answer_execute_outcomes unclaimedCluster placedInFrance rfl rfl
  have hselections : plan.selections = [⟨Label.hostname, .anyOf, ["fr-1"], []⟩] := by
    decide +kernel
  have houtcomes : (plan.outcomes placedInFrance.metadata "tenant" unclaimedCluster
      placedInFrance.spec.controllers.declared).map Prod.snd = [.updated, .created] := rfl
  set after := plan.after placedInFrance.metadata "tenant" unclaimedCluster
    placedInFrance.spec.controllers.declared with hafter
  have hsuccess : ∀ report ∈ (plan.outcomes placedInFrance.metadata "tenant" unclaimedCluster
      placedInFrance.spec.controllers.declared).map Plan.reportOn,
      report.outcome = .created ∨ report.outcome = .updated ∨ report.outcome = .unchanged := by
    intro report hreport
    obtain ⟨outcome, houtcome, rfl⟩ := List.mem_map.mp hreport
    have hmem : outcome.2 ∈ [Outcome.updated, Outcome.created] :=
      houtcomes ▸ List.mem_map_of_mem houtcome
    rcases List.mem_pair.mp hmem with h | h
    · exact .inr (.inl h)
    · exact .inl h
  have hwatches : (WorkloadIndex.ofCluster after.managed).Watches after :=
    WorkloadIndex.watches_iff_holds.mpr (WorkloadIndex.holds_ofCluster _)
  obtain ⟨hsync, howners, hplacement⟩ := index_reads_back placedInFrance _ [] unclaimedCluster rfl
    rfl rfl hnamespaced (List.cons_ne_nil _ _) hexecute hsuccess _ hwatches
  refine ⟨after, _, hwatches, congrArg Prod.snd hsync,
    howners _ (hselections ▸ List.mem_singleton_self _) "fr-1" (List.mem_singleton_self _), ?_⟩
  rw [hplacement, ← hplan, hselections]
  · rfl
  · intro key w hw hcontrolled
    by_contra hnone
    push Not at hnone
    have hstored := (Plan.agreesOn_after_of_notMem hnone).stored.symm.trans hw
    have hmem := (unclaimedCluster.workloads.mem_entries_iff key w).mpr hstored
    obtain ⟨-, rfl⟩ := Prod.mk.inj (List.mem_singleton.mp hmem)
    cases hcontrolled

end GeoPlacement
