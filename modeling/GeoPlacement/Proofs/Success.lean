import GeoPlacement.Proofs.AllOrNothing
import GeoPlacement.Proofs.Independence
import GeoPlacement.Proofs.Repair
import GeoPlacement.Proofs.StatusConsistency

/-!
# What a success says

A summary is made of reports, each on a workload at the moment it was applied. Where it says
success, none of them is of a failure, so that every workload was brought into sync with its desired
object when its turn came.

Workloads that are declared for one key replace each other, and no pass notices: each of them is
reported as created or updated. What is stored in the end is in sync with the last of them, and with
an earlier one only as far as their digests agree.

## Main results

* `Plan.exists_stored_after`: what is stored after workloads were applied without a failure.
* `stored_of_success`: what is stored after a success, for every declared workload.
-/

namespace GeoPlacement

/-! ### The last declaration of a key -/

namespace Workload

variable {inNamespace : String} {key : WorkloadKey} {declared : List Workload} {w : Workload}

/-- The last of the workloads that are declared for a key. -/
def lastFor? (inNamespace : String) (key : WorkloadKey) (declared : List Workload) :
    Option Workload :=
  (declared.filter (·.key? inNamespace = some key)).getLast?

/-- Nothing is declared for a key without a last declaration. -/
theorem lastFor?_eq_none_iff :
    lastFor? inNamespace key declared = none ↔ ∀ w ∈ declared, w.key? inNamespace ≠ some key := by
  simp [lastFor?]

/-- A declaration is the last one unless another follows. -/
theorem lastFor?_cons : lastFor? inNamespace key (w :: declared) =
    (lastFor? inNamespace key declared).or
      (if w.key? inNamespace = some key then some w else none) := by
  by_cases hkey : w.key? inNamespace = some key
  · simp [lastFor?, hkey, List.getLast?_cons, Option.or_some]
  · simp [lastFor?, hkey]

end Workload

namespace Plan

variable {plan : Plan} {owner : Metadata} {inNamespace : String} {c : Cluster}
  {declared : List Workload} {w : Workload} {key : WorkloadKey}

/-! ### Objects of one plan -/

/-- **One object serves two declarations** of a plan as far as their digests agree: in sync with
what is desired for one, it is in sync with what is desired for the other iff the digests are the
same. -/
theorem inSync_iff_of_isDerived {last desired own stored : Workload}
    (hown : plan.IsDerived owner w own) (hdesired : plan.IsDerived owner last desired)
    (hsync : inSync stored desired = true) : inSync stored own = true ↔
      own.metadata.annotation? templateHash = desired.metadata.annotation? templateHash := by
  simp only [inSync, Bool.and_eq_true, beq_iff_eq] at hsync ⊢
  obtain ⟨⟨⟨hdigest, hmanaged⟩, hcontroller⟩, haffinity⟩ := hsync
  rw [hdigest, hmanaged, hcontroller, haffinity, hown.managed, hdesired.managed, hown.controller,
    hdesired.controller, hown.nodeAffinity, hdesired.nodeAffinity]
  exact ⟨fun h => h.1.1.1.symm, fun h => ⟨⟨⟨h.symm, rfl⟩, rfl⟩, rfl⟩⟩

/-! ### Applying without a failure -/

/-- The outcome of a workload is that of its effect on some cluster. -/
theorem mem_outcomes_of_mem (plan : Plan) (owner : Metadata) (inNamespace : String) (c : Cluster)
    (hw : w ∈ declared) :
    ∃ c', (w, (plan.effect owner inNamespace c' w).1) ∈
      plan.outcomes owner inNamespace c declared := by
  obtain ⟨i, hi⟩ := List.mem_iff_getElem?.mp hw
  refine ⟨plan.after owner inNamespace c (declared.take i), List.mem_iff_getElem?.mpr ⟨i, ?_⟩⟩
  rw [getElem?_outcomes, hi, Option.map_some]

/-- **What is stored after workloads were applied** without a failure is in sync with what is
desired for the last declaration of its key. What is stored for a workload stays if nothing after it
is declared for the key. -/
theorem exists_stored_after
    (h : ∀ outcome ∈ plan.outcomes owner inNamespace c declared, outcome.2.isFailure = false)
    (hlast : Workload.lastFor? inNamespace key declared = some w) :
    ∃ desired stored, plan.desired owner inNamespace w = .ok (some desired) ∧
      (plan.after owner inNamespace c declared).stored key = some stored ∧
      inSync stored desired = true := by
  induction declared generalizing c with
  | nil => cases hlast
  | cons head rest ih =>
      obtain ⟨hhead, hrest⟩ := List.forall_mem_cons.mp h
      rw [Workload.lastFor?_cons] at hlast
      cases hlater : Workload.lastFor? inNamespace key rest with
      | some later =>
          rw [hlater, Option.some_or] at hlast
          exact ih hrest (hlater.trans hlast)
      | none =>
          rw [hlater, Option.none_or] at hlast
          obtain ⟨hkey, rfl⟩ : head.key? inNamespace = some key ∧ head = w := by simpa using hlast
          obtain ⟨other, desired, stored, hother, hdesired, hstored, hsync⟩ :=
            exists_stored_afterOne hhead
          obtain rfl := Option.some.inj (hkey.symm.trans hother)
          refine ⟨desired, stored, hdesired, ?_, hsync⟩
          exact (agreesOn_after_of_notMem
            (Workload.lastFor?_eq_none_iff.mp hlater)).stored.trans hstored

/-! ### Resources that cannot own -/

/-- Where the resource cannot be referred to, workloads are reported as failures only. -/
theorem isFailure_of_applyAll (hreference : owner.controllerReference? = none)
    {reports : List Report} {after : Cluster}
    (h : c.answer (plan.applyAll owner inNamespace declared) = (.ok reports, after)) :
    ∀ r ∈ reports, r.outcome.isFailure = true := by
  rcases applyAll_of_no_reference hreference plan inNamespace declared with
    ⟨-, hfails⟩ | ⟨-, others, hall, hfailures⟩
  · rw [hfails] at h
    cases congrArg Prod.fst h
  · rw [hall] at h
    obtain rfl : others = reports := Except.ok.inj (congrArg Prod.fst h)
    exact hfailures

end Plan

/-! ### Passes -/

/-- What is summed up was reported by executing the plan. -/
theorem exists_reports_of_sync {object : SelectiveDeployment} {nodes : List EligibleNode}
    {placed : List (List String)} {summary : Summary} {c after : Cluster}
    (h : c.answer (sync object nodes placed) = (.ok summary, after)) :
    ∃ reports, c.answer ((Plan.make object.spec nodes placed).execute object) =
        (.ok reports, after) ∧
      summary = Summary.of (Plan.make object.spec nodes placed).selections reports := by
  rw [sync, Cluster.answer_bind] at h
  obtain ⟨hresult, hafter⟩ := Prod.mk.inj h
  obtain ⟨reports, hreports, hsummary⟩ := exists_of_map_eq_ok hresult
  exact ⟨reports, Prod.ext hreports hafter, hsummary.symm⟩

/-- Execution that reports on some workload without a failure has a resource that can own. -/
theorem exists_reference_of_execute {plan : Plan} {object : SelectiveDeployment}
    {reports : List Report} {c after : Cluster}
    (h : c.answer (plan.execute object) = (.ok reports, after)) {r : Report} (hr : r ∈ reports)
    (hsuccess : r.outcome.isFailure = false) :
    ∃ inNamespace reference, object.inNamespace = some inNamespace ∧
      object.metadata.controllerReference? = some reference := by
  rw [Plan.execute] at h
  cases hnamespace : object.inNamespace with
  | none =>
      rw [hnamespace] at h
      cases congrArg Prod.fst h
  | some inNamespace =>
      rw [hnamespace] at h
      cases hreference : object.metadata.controllerReference? with
      | some reference => exact ⟨inNamespace, reference, rfl, rfl⟩
      | none =>
          have hfailure := Plan.isFailure_of_applyAll hreference h r hr
          exact absurd (hfailure.symm.trans hsuccess) (by decide)

/-- A success comes from workloads that were all applied without a failure. -/
theorem exists_outcomes_of_success {object : SelectiveDeployment} {nodes : List EligibleNode}
    {placed : List (List String)} {summary : Summary} {c after : Cluster}
    (h : c.answer (sync object nodes placed) = (.ok summary, after))
    (hsuccess : summary.state = .success) :
    ∃ inNamespace, object.inNamespace = some inNamespace ∧
      after = (Plan.make object.spec nodes placed).after object.metadata inNamespace c
        object.spec.controllers.declared ∧
      ∀ outcome ∈ (Plan.make object.spec nodes placed).outcomes object.metadata inNamespace c
        object.spec.controllers.declared, outcome.2.isFailure = false := by
  obtain ⟨reports, hreports, rfl⟩ := exists_reports_of_sync h
  obtain ⟨hsome, -, hnone⟩ := Summary.state_of_eq_success_iff.mp hsuccess
  obtain ⟨r, hr⟩ := List.exists_mem_of_ne_nil reports hsome
  obtain ⟨inNamespace, reference, hnamespace, hreference⟩ :=
    exists_reference_of_execute hreports hr (hnone r hr)
  obtain ⟨houtcomes, hafter⟩ := Prod.mk.inj
    ((Plan.answer_execute_outcomes _ c object hnamespace hreference).symm.trans hreports)
  refine ⟨inNamespace, hnamespace, hafter.symm, fun outcome houtcome => ?_⟩
  exact hnone _ (Except.ok.inj houtcomes ▸ List.mem_map_of_mem houtcome)

/-- **A success is truthful** about the last declaration of each key. After a pass with a success,
every declared workload has a name and a desired object; under its key an object is stored that is
in sync with what is desired for the last of the workloads declared for that key. With what is
desired for the workload itself it is in sync iff both desired objects bear the same digest. -/
theorem stored_of_success (object : SelectiveDeployment) (nodes : List EligibleNode)
    (placed : List (List String)) (c : Cluster) {summary : Summary} {after : Cluster}
    (h : c.answer (sync object nodes placed) = (.ok summary, after))
    (hsuccess : summary.state = .success) :
    ∃ inNamespace, object.inNamespace = some inNamespace ∧
      ∀ w ∈ object.spec.controllers.declared, ∃ key own last desired stored,
        w.key? inNamespace = some key ∧
        (Plan.make object.spec nodes placed).desired object.metadata inNamespace w =
          .ok (some own) ∧
        Workload.lastFor? inNamespace key object.spec.controllers.declared = some last ∧
        (Plan.make object.spec nodes placed).desired object.metadata inNamespace last =
          .ok (some desired) ∧
        after.stored key = some stored ∧
        Plan.inSync stored desired = true ∧
        (Plan.inSync stored own = true ↔
          own.metadata.annotation? templateHash = desired.metadata.annotation? templateHash) := by
  obtain ⟨inNamespace, hnamespace, rfl, hall⟩ := exists_outcomes_of_success h hsuccess
  refine ⟨inNamespace, hnamespace, fun w hw => ?_⟩
  obtain ⟨c', hmem⟩ := Plan.mem_outcomes_of_mem _ object.metadata inNamespace c hw
  obtain ⟨key, own, -, hkey, hown, -, -⟩ := Plan.exists_stored_afterOne (hall _ hmem)
  obtain ⟨last, hlast⟩ := Option.ne_none_iff_exists'.mp fun hnever =>
    Workload.lastFor?_eq_none_iff.mp hnever w hw hkey
  obtain ⟨desired, stored, hdesired, hstored, hsync⟩ := Plan.exists_stored_after hall hlast
  exact ⟨key, own, last, desired, stored, hkey, hown, hlast, hdesired, hstored, hsync,
    Plan.inSync_iff_of_isDerived (Plan.isDerived_of_desired hown)
      (Plan.isDerived_of_desired hdesired) hsync⟩

/-- A deployment with a number of replicas. -/
def replicated (replicas : Int) : Workload where
  kind := .deployment
  metadata := { name := some "web" }
  spec := some (.direct {
    leading := [("replicas", .int replicas)]
    template := {}
    trailing := [] })

/-- A resource that declares one deployment twice, with different numbers of replicas. -/
def declaringTwice : SelectiveDeployment where
  metadata := { name := some "sd", inNamespace := some "tenant", uid := some "uid" }
  spec := { controllers := { deployment := [replicated 1, replicated 2] } }

/-- What is desired for such a deployment, apart from its digest. -/
def replicatedBare (replicas : Int) : Workload where
  kind := .deployment
  metadata := {
    name := some "web"
    inNamespace := some "tenant"
    labels := some (StringMap.empty.insert Label.managedBy Label.manager)
    annotations := some .empty
    ownerReferences :=
      some [⟨resourceApiVersion, none, some true, resourceKind, "sd", "uid"⟩] }
  spec := some (.direct {
    leading := [("replicas", .int replicas)]
    template := {}
    trailing := [] })

/-- The desired object bears the digest of the bare one. -/
theorem desired_replicated (replicas : Int) :
    (Plan.make declaringTwice.spec [] []).desired declaringTwice.metadata "tenant"
        (replicated replicas) =
      .ok (some (Plan.mapMetadata (·.annotate templateHash (Plan.digest (replicatedBare replicas)))
        (replicatedBare replicas))) :=
  rfl

/-- The resource reports success for its first pass. -/
theorem exists_success_declaringTwice : ∃ summary after,
    ({} : Cluster).answer (sync declaringTwice [] []) = (.ok summary, after) ∧
      summary.state = .success := by
  have hreports := (Plan.make declaringTwice.spec [] []).answer_execute_outcomes {} declaringTwice
    rfl rfl
  refine ⟨_, _, answer_sync hreports, Summary.state_of_eq_success_iff.mpr ⟨?_, rfl, ?_⟩⟩
  · exact List.cons_ne_nil _ _
  · intro r hr
    rcases List.mem_cons.mp hr with rfl | hr
    · rfl
    · obtain rfl := List.mem_singleton.mp hr
      change (Plan.effect _ _ _ _ (replicated 2)).1.isFailure = false
      rw [Plan.effect_of_desired _ rfl (desired_replicated 2)]
      split
      · next hfault => exact absurd hfault List.not_mem_nil
      · change (Plan.deed _ _ _ false (some _)).1.isFailure = false
        rw [Plan.deed_of_owned rfl]
        split <;> rfl

/-- What is stored after that pass is in sync with the second declaration. -/
theorem stored_of_success_declaringTwice : ∃ summary after desired stored,
    ({} : Cluster).answer (sync declaringTwice [] []) = (.ok summary, after) ∧
      summary.state = .success ∧
      (Plan.make declaringTwice.spec [] []).desired declaringTwice.metadata "tenant"
        (replicated 2) = .ok (some desired) ∧
      after.stored ⟨.deployment, "tenant", "web"⟩ = some stored ∧
      Plan.inSync stored desired = true := by
  obtain ⟨summary, after, hanswer, hstate⟩ := exists_success_declaringTwice
  obtain ⟨inNamespace, hnamespace, hall⟩ :=
    stored_of_success declaringTwice [] [] {} hanswer hstate
  obtain rfl := Option.some.inj hnamespace
  obtain ⟨key, own, last, desired, stored, hkey, -, hlast, hdesired, hstored, hsync, -⟩ :=
    hall (replicated 1) List.mem_cons_self
  obtain rfl := Option.some.inj hkey
  obtain rfl := Option.some.inj hlast
  exact ⟨summary, after, desired, stored, hanswer, hstate, hdesired, hstored, hsync⟩

/-- A quoted string, from the list of its characters. -/
theorem Json.quote_eq (s : String) : Json.quote s =
    "\"" ++ s.toList.foldl (fun text c => text ++ Json.escape c) "" ++ "\"" := by
  rw [Json.quote, String.foldl_eq_foldl_toList]

/-- The document of which the digest is taken. -/
theorem write_replicatedBare (replicas : Int) : (replicatedBare replicas).write = .obj [
    ("apiVersion", .str "apps/v1"),
    ("kind", .str "Deployment"),
    ("metadata", .obj [
      ("annotations", .obj []),
      ("labels", .obj [("app.kubernetes.io/managed-by", .str "selective-deployment-operator")]),
      ("name", .str "web"),
      ("namespace", .str "tenant"),
      ("ownerReferences", .arr [.obj [
        ("apiVersion", .str "apps.edgenet.io/v1alpha1"),
        ("controller", .bool true),
        ("kind", .str "SelectiveDeployment"),
        ("name", .str "sd"),
        ("uid", .str "uid")]])]),
    ("spec", .obj [("replicas", .int replicas), ("template", .obj [])])] :=
  rfl

/-- The digests of the two declarations differ. No property of digests tells two of them apart: both
are computed, over six blocks each. -/
theorem digest_replicatedBare_ne :
    Plan.digest (replicatedBare 1) ≠ Plan.digest (replicatedBare 2) := by
  simp only [Plan.digest, write_replicatedBare, Json.compact, Json.compactMembers,
    Json.compactItems, Json.quote_eq]
  decide +kernel

/-- A success does not tell the truth about a workload that is declared twice. -/
theorem not_stored_of_success :
    ¬ ∀ (object : SelectiveDeployment) (nodes : List EligibleNode) (placed : List (List String))
      (c : Cluster) (summary : Summary) (after : Cluster),
      c.answer (sync object nodes placed) = (.ok summary, after) → summary.state = .success →
      ∀ inNamespace, object.inNamespace = some inNamespace →
        ∀ w ∈ object.spec.controllers.declared, ∃ key own stored,
          w.key? inNamespace = some key ∧
          (Plan.make object.spec nodes placed).desired object.metadata inNamespace w =
            .ok (some own) ∧
          after.stored key = some stored ∧ Plan.inSync stored own = true := by
  intro h
  obtain ⟨summary, after, hanswer, hstate⟩ := exists_success_declaringTwice
  obtain ⟨inNamespace, hnamespace, rfl, hall⟩ := exists_outcomes_of_success hanswer hstate
  obtain rfl := Option.some.inj hnamespace
  obtain ⟨key, own, stored, hkey, hown, hstored, hsync⟩ :=
    h declaringTwice [] [] {} summary _ hanswer hstate "tenant" rfl (replicated 1)
      List.mem_cons_self
  obtain rfl := Option.some.inj hkey
  have hlast : Workload.lastFor? "tenant" ⟨.deployment, "tenant", "web"⟩
      declaringTwice.spec.controllers.declared = some (replicated 2) := rfl
  obtain ⟨desired, stored', hdesired, hstored', hsync'⟩ := Plan.exists_stored_after hall hlast
  obtain rfl := Option.some.inj (hstored.symm.trans hstored')
  have hsame := (Plan.inSync_iff_of_isDerived (Plan.isDerived_of_desired hown)
    (Plan.isDerived_of_desired hdesired) hsync').mp hsync
  obtain rfl := Option.some.inj (Except.ok.inj ((desired_replicated 1).symm.trans hown))
  obtain rfl := Option.some.inj (Except.ok.inj ((desired_replicated 2).symm.trans hdesired))
  exact digest_replicatedBare_ne (Option.some.inj hsame)

end GeoPlacement
