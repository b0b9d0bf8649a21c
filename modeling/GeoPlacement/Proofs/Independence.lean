import GeoPlacement.Proofs.CheckedSums

/-!
# Workloads of one pass are independent

Applying declared workloads one after another, each may see what the earlier ones have left behind.
But all that is read or written for a workload lies under its own key, so what becomes of a key
depends on the key alone: on what is stored under it, on whether its requests fail, and on the
declarations for it in their order. Nothing else that is declared, stored, reordered or failing
plays a part.

The comparison is always with a shorter run: what a pass does to a key is what it would do if only
the workloads of the key were declared (`Plan.agreesOn_after`). Two passes that share these
workloads then do the same.

This is so where sums wrap around. Where they are checked, a pass is stopped at a workload that has
the last version and is replaced, and does not come to the later ones; it is independent as long as
it is in range (`Plan.IsInRange`).

## Main results

* `Plan.agreesOn_after`: the other workloads do not matter for a key.
* `execute_independent`: two passes that agree on a key do the same to it.
-/

namespace GeoPlacement

namespace Plan

/-! ### One key -/

variable {plan : Plan} {owner : Metadata} {inNamespace : String} {c c' : Cluster}
  {declared : List Workload} {key : WorkloadKey}

variable (plan owner)

/-- **The other workloads do not matter for a key.** Among the workloads that are picked out are all
those of the key, and besides them at most some without a key; clusters that agree on the key still
do so after all declared workloads were applied to one of them and those picked out to the other,
and these are reported alike. A workload that is picked out changes both clusters alike, and any
other one changes the first of them only, under another key. -/
theorem agreesOn_after (declared : List Workload) {isPicked : Workload → Bool}
    (hpicked : ∀ w, w.key? inNamespace = some key → isPicked w = true)
    (hothers : ∀ w, isPicked w = true → ∀ other, w.key? inNamespace = some other → other = key)
    (h : c.AgreesOn c' key) :
    (plan.after owner inNamespace c declared).AgreesOn
        (plan.after owner inNamespace c' (declared.filter isPicked)) key ∧
      (plan.outcomes owner inNamespace c declared).filter (fun outcome => isPicked outcome.1) =
        plan.outcomes owner inNamespace c' (declared.filter isPicked) := by
  induction declared generalizing c c' with
  | nil => exact ⟨h, rfl⟩
  | cons w rest ih =>
      by_cases hw : isPicked w = true
      · have heffect : plan.effect owner inNamespace c w = plan.effect owner inNamespace c' w :=
          effect_congr fun other hother => hothers w hw other hother ▸ h
        have hnext : (plan.afterOne owner inNamespace c w).AgreesOn
            (plan.afterOne owner inNamespace c' w) key := by
          rw [afterOne, afterOne, heffect]
          exact h.keepAll _
        obtain ⟨hagrees, houtcomes⟩ := ih hnext
        rw [List.filter_cons_of_pos hw]
        refine ⟨hagrees, ?_⟩
        simp only [outcomes, List.filter_cons, hw, if_true, houtcomes, heffect]
      · have hkey : w.key? inNamespace ≠ some key := fun hkey => hw (hpicked w hkey)
        obtain ⟨hagrees, houtcomes⟩ := ih ((agreesOn_afterOne hkey).trans h)
        rw [List.filter_cons_of_neg hw]
        refine ⟨hagrees, ?_⟩
        simp only [outcomes, List.filter_cons, hw, Bool.false_eq_true, if_false, houtcomes]

/-- Two runs over the same workloads of a key do the same to it. -/
theorem agreesOn_after_of_filter_eq {isPicked : Workload → Bool} {other : List Workload}
    (hpicked : ∀ w, w.key? inNamespace = some key → isPicked w = true)
    (hothers : ∀ w, isPicked w = true → ∀ other, w.key? inNamespace = some other → other = key)
    (h : c.AgreesOn c' key) (hsame : declared.filter isPicked = other.filter isPicked) :
    (plan.after owner inNamespace c declared).AgreesOn
        (plan.after owner inNamespace c' other) key ∧
      (plan.outcomes owner inNamespace c declared).filter (fun outcome => isPicked outcome.1) =
        (plan.outcomes owner inNamespace c' other).filter (fun outcome => isPicked outcome.1) := by
  obtain ⟨hagrees, houtcomes⟩ :=
    plan.agreesOn_after owner declared hpicked hothers h
  obtain ⟨hagrees', houtcomes'⟩ :=
    plan.agreesOn_after owner other hpicked hothers (.refl c' key)
  rw [hsame] at hagrees houtcomes
  exact ⟨hagrees.trans hagrees'.symm, houtcomes.trans houtcomes'.symm⟩

variable {plan owner}

/-! ### Reports -/

/-- The reports on the declared workloads of a key, found by their position. -/
def reportsOn (inNamespace : String) (key : WorkloadKey) (declared : List Workload)
    (reports : List Report) : List Report :=
  ((declared.zip reports).filter fun pair => pair.1.key? inNamespace = some key).map Prod.snd

/-- The reports on a key are made of the outcomes of the workloads that have it. -/
theorem reportsOn_outcomes :
    reportsOn inNamespace key declared ((plan.outcomes owner inNamespace c declared).map reportOn) =
      ((plan.outcomes owner inNamespace c declared).filter
        fun outcome => outcome.1.key? inNamespace = some key).map reportOn := by
  rw [reportsOn, zip_outcomes, List.filter_map, List.map_map]
  rfl

end Plan

/-- The namespace of a workload's key is that of the resource. -/
theorem Workload.ne_key_of_namespace {w : Workload} {inNamespace : String} {key : WorkloadKey}
    (h : key.inNamespace ≠ inNamespace) : w.key? inNamespace ≠ some key := by
  intro hkey
  obtain ⟨name, -, rfl⟩ := Option.map_eq_some_iff.mp hkey
  exact h rfl

/-- Whether messages name a workload as they would name that of a key. A workload without a name is
shown under the prefix of its generated name. -/
def Workload.isShownAs (key : WorkloadKey) (w : Workload) : Bool :=
  w.kind = key.kind ∧ w.metadata.displayName = key.name

/-- A workload is shown under its key. -/
theorem Workload.isShownAs_of_key {w : Workload} {inNamespace : String} {key : WorkloadKey}
    (h : w.key? inNamespace = some key) : w.isShownAs key = true := by
  obtain ⟨name, hname, rfl⟩ := Option.map_eq_some_iff.mp h
  have hname' : w.metadata.name = some name := hname
  simp [isShownAs, Metadata.displayName, hname']

/-- A workload that is shown under a key of its namespace has this key, if it has one. -/
theorem Workload.key_of_isShownAs {w : Workload} {inNamespace : String} {key other : WorkloadKey}
    (hin : key.inNamespace = inNamespace) (h : w.isShownAs key = true)
    (hother : w.key? inNamespace = some other) : other = key := by
  obtain ⟨hkind, hshown⟩ := of_decide_eq_true h
  obtain ⟨name, hname, rfl⟩ := Option.map_eq_some_iff.mp hother
  have hname' : w.metadata.name = some name := hname
  have hshown : name = key.name := by simpa [Metadata.displayName, hname'] using hshown
  rw [hkind, hshown, ← hin]

/-- Whether a report names the workload of a key. -/
def Report.names (key : WorkloadKey) (r : Report) : Bool :=
  r.kind = key.kind ∧ r.name = key.name

/-- **Workloads of one pass are independent.** Two resources have the same metadata, with a
namespace, a name and an identifier, and declare the same workloads for a key, in the same order.
Two clusters agree on the key. Then the same plan, executed for one resource against one cluster and
for the other against the other, leaves the same object under the key and reports the same about its
workloads. What no workload is declared for stays as it was. Where sums are checked, either pass
does so as long as no workload overruns the versions, and none does where each stored version may be
followed by as many others as workloads are declared. -/
theorem execute_independent (plan : Plan) (a b : SelectiveDeployment) (c d : Cluster)
    (key : WorkloadKey) {inNamespace name uid : String} (hmetadata : b.metadata = a.metadata)
    (hnamespace : a.inNamespace = some inNamespace) (hname : a.metadata.name = some name)
    (huid : a.uid = some uid) (hagree : c.AgreesOn d key)
    (hdeclared : a.spec.controllers.declared.filter (·.key? inNamespace = some key) =
      b.spec.controllers.declared.filter (·.key? inNamespace = some key)) :
    ∃ reports reports' after after',
      c.Completes (plan.execute a)
        (plan.IsInRange a.metadata inNamespace c a.spec.controllers.declared) (.ok reports) after ∧
      d.Completes (plan.execute b)
        (plan.IsInRange b.metadata inNamespace d b.spec.controllers.declared) (.ok reports')
        after' ∧
      (∀ bound, c.VersionsAtMost bound →
        bound + a.spec.controllers.declared.length < UInt64.size →
        plan.IsInRange a.metadata inNamespace c a.spec.controllers.declared) ∧
      (∀ bound, d.VersionsAtMost bound →
        bound + b.spec.controllers.declared.length < UInt64.size →
        plan.IsInRange b.metadata inNamespace d b.spec.controllers.declared) ∧
      reports.length = a.spec.controllers.declared.length ∧
      reports'.length = b.spec.controllers.declared.length ∧
      after.stored key = after'.stored key ∧
      Plan.reportsOn inNamespace key a.spec.controllers.declared reports =
        Plan.reportsOn inNamespace key b.spec.controllers.declared reports' ∧
      (key.inNamespace = inNamespace →
        a.spec.controllers.declared.filter (·.isShownAs key) =
          b.spec.controllers.declared.filter (·.isShownAs key) →
        reports.filter (·.names key) = reports'.filter (·.names key)) ∧
      ∀ other, (other.inNamespace ≠ inNamespace ∨
          ∀ w ∈ a.spec.controllers.declared, w.key? inNamespace ≠ some other) →
        after.stored other = c.stored other := by
  obtain ⟨reference, hreference⟩ := Metadata.exists_controllerReference hname huid
  have hnamespace' : b.inNamespace = some inNamespace := by
    rw [SelectiveDeployment.inNamespace, hmetadata]
    exact hnamespace
  have hfirst := plan.answer_execute_outcomes c a hnamespace hreference
  have hsecond := plan.answer_execute_outcomes d b hnamespace' (hmetadata ▸ hreference)
  have hcompletes := Plan.completes_execute hnamespace hreference hfirst
  have hcompletes' := Plan.completes_execute hnamespace' (hmetadata ▸ hreference) hsecond
  rw [hmetadata] at hcompletes' ⊢
  obtain ⟨hstored, houtcomes⟩ := plan.agreesOn_after_of_filter_eq a.metadata
    (fun w hw => decide_eq_true hw)
    (fun w hw other hother => Option.some.inj (hother.symm.trans (of_decide_eq_true hw)))
    hagree hdeclared
  refine ⟨_, _, _, _, hcompletes, hcompletes', fun bound => Plan.isInRange_of_versionsAtMost,
    fun bound => Plan.isInRange_of_versionsAtMost, ?_, ?_, hstored.stored, ?_, fun hin hshown => ?_,
    fun other hother => (Plan.agreesOn_after_of_notMem fun w hw => ?_).stored⟩
  · rw [List.length_map, ← List.length_map Prod.fst, Plan.map_fst_outcomes]
  · rw [List.length_map, ← List.length_map Prod.fst, Plan.map_fst_outcomes]
  · rw [Plan.reportsOn_outcomes, Plan.reportsOn_outcomes, houtcomes]
  · have hnames : ∀ outcomes : List (Workload × Outcome),
        (outcomes.map Plan.reportOn).filter (·.names key) =
          (outcomes.filter fun outcome => outcome.1.isShownAs key).map Plan.reportOn := fun _ =>
      List.filter_map
    rw [hnames, hnames]
    congr 1
    exact (plan.agreesOn_after_of_filter_eq a.metadata (fun w hw => Workload.isShownAs_of_key hw)
      (fun w hw other hother => Workload.key_of_isShownAs hin hw hother) hagree hshown).2
  · rcases hother with hother | hother
    · exact Workload.ne_key_of_namespace hother
    · exact hother w hw

/-- A workload of a kind with nothing but a name and a pod template. -/
def plainWorkload (kind : Kind) (name : String) : Workload where
  kind
  metadata := { name := some name }
  spec := some (.direct { leading := [], template := {}, trailing := [] })

/-- A resource that declares the given deployments and jobs. -/
def declaring (deployments jobs : List String) : SelectiveDeployment where
  metadata := { name := some "sd", inNamespace := some "tenant", uid := some "uid" }
  spec := { controllers := {
    deployment := deployments.map (plainWorkload .deployment)
    job := jobs.map (plainWorkload .job) } }

/-- A cluster that stores a deployment and rejects the writes of some workloads. -/
def storing (name : String) (writeFaults : List (Kind × String)) : Cluster :=
  { ({} : Cluster).put "tenant" (plainWorkload .deployment name) with writeFaults }

/-- What such a cluster stores has no version yet. -/
theorem versionsAtMost_storing (name : String) (writeFaults : List (Kind × String)) :
    (storing name writeFaults).VersionsAtMost 0 := by
  intro key w hw
  have hw : (Cluster.put {} "tenant" (plainWorkload .deployment name)).stored key = some w := hw
  rw [Cluster.stored, Cluster.put, Table.get?_insert, Table.get?_empty] at hw
  split at hw
  · obtain rfl := Option.some.inj hw
    exact Nat.le_refl 0
  · cases hw

/-- A deployment is taken over alike beside a job that is rejected and after another deployment,
also where sums are checked. -/
theorem execute_independent_web :
    ∃ reports reports' after after',
      (storing "web" [(.job, "batch")]).answer
          ((Plan.make {} [] []).execute (declaring ["web"] ["batch"])) = (.ok reports, after) ∧
      (storing "web" [(.job, "batch")]).checkedAnswer
          ((Plan.make {} [] []).execute (declaring ["web"] ["batch"])) =
        some (.ok reports, after) ∧
      (storing "web" [(.deployment, "db")]).answer
          ((Plan.make {} [] []).execute (declaring ["db", "web"] [])) = (.ok reports', after') ∧
      after.stored ⟨.deployment, "tenant", "web"⟩ = after'.stored ⟨.deployment, "tenant", "web"⟩ ∧
      reports.filter (·.names ⟨.deployment, "tenant", "web"⟩) =
        reports'.filter (·.names ⟨.deployment, "tenant", "web"⟩) := by
  obtain ⟨reports, reports', after, after', hfirst, hsecond, hroom, -, -, -, hstored, -,
      hreports, -⟩ :=
    execute_independent (Plan.make {} [] []) (declaring ["web"] ["batch"])
      (declaring ["db", "web"] []) (storing "web" [(.job, "batch")])
      (storing "web" [(.deployment, "db")]) ⟨.deployment, "tenant", "web"⟩
      rfl rfl rfl rfl ⟨rfl, by decide, by decide⟩ rfl
  have hrange := hroom 0 (versionsAtMost_storing "web" _) (by decide)
  exact ⟨reports, reports', after, after', hfirst.answer, hfirst.checkedAnswer_iff.mpr hrange,
    hsecond.answer, hstored, hreports rfl rfl⟩

end GeoPlacement
