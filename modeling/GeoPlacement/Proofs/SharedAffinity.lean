import GeoPlacement.Proofs.Idempotence
import GeoPlacement.Proofs.ReverseIndex

/-!
# Workloads that share an affinity

The placement from which a pass starts is read off the first workload of a resource by name, as if
all of them had the same node affinity. They do after a pass that has applied every workload that is
stored for the resource. But a workload that a pass leaves out, because it is declared no more or
could not be applied, stays as it is: nothing rewrites it, and nothing deletes it.

Here passes over one resource follow one another in any number. In between, the resource is edited
at will, nodes come and go, and reads begin or cease to fail; no write fails. What is known of such
a **history** is a log with one note for each pass: the affinity of its plan, and the keys of the
workloads that it applied. All that is stored can be read off the log (`History.reflects`).

## Main results

* `Plan.stored_after_appliedKeys`: what a pass leaves behind, key by key.
* `History.reflects`: what is stored has the affinity of the last pass that applied it.
* `History.sharesAffinity_iff`: when the workloads of a resource share an affinity.
* `History.not_sharesAffinity`: they do not always share one.
-/

namespace GeoPlacement

/-- Whether the stored workloads that a resource controls **share** one affinity. -/
def Cluster.SharesAffinity (c : Cluster) (uid : String) : Prop :=
  ∀ key w key' w', c.stored key = some w → c.stored key' = some w' →
    w.isControlledBy uid = true → w'.isControlledBy uid = true → w.nodeAffinity = w'.nodeAffinity

/-! ### What a pass applies -/

/-- The keys of the declared workloads on which no failure is reported. -/
def appliedKeys (inNamespace : String) (declared : List Workload) (reports : List Report) :
    List WorkloadKey :=
  ((declared.zip reports).filter fun pair => !pair.2.outcome.isFailure).filterMap fun pair =>
    pair.1.key? inNamespace

namespace Plan

variable {plan : Plan} {owner : Metadata} {inNamespace : String} {c : Cluster}
  {declared : List Workload} {key : WorkloadKey}

/-- A key is applied iff it is that of a workload with an outcome that is no failure. -/
theorem mem_appliedKeys_iff :
    key ∈ appliedKeys inNamespace declared
        ((plan.outcomes owner inNamespace c declared).map reportOn) ↔
      ∃ outcome ∈ plan.outcomes owner inNamespace c declared,
        outcome.2.isFailure = false ∧ outcome.1.key? inNamespace = some key := by
  simp [appliedKeys, zip_outcomes, reportOn, ← exists_and_right, and_assoc]

/-- **What a pass leaves behind**: what bears the marks of its plan under the keys that it applied,
and under the other keys what was there before. -/
theorem stored_after_appliedKeys (plan : Plan) (owner : Metadata) (inNamespace : String)
    (declared : List Workload) (h : c.IsNamespaced) (key : WorkloadKey) :
    (key ∈ appliedKeys inNamespace declared
        ((plan.outcomes owner inNamespace c declared).map reportOn) →
      ∃ now, (plan.after owner inNamespace c declared).stored key = some now ∧
        plan.BearsMarks owner key.inNamespace now) ∧
    (key ∉ appliedKeys inNamespace declared
        ((plan.outcomes owner inNamespace c declared).map reportOn) →
      (plan.after owner inNamespace c declared).stored key = c.stored key) := by
  rw [mem_appliedKeys_iff]
  constructor
  · rintro ⟨outcome, houtcome, hsuccess, hkey⟩
    obtain ⟨key', now, hkey', hnow, hmarks⟩ := bearsMarks_after_of_mem h houtcome hsuccess
    obtain rfl : key' = key := Option.some.inj (hkey'.symm.trans hkey)
    exact ⟨now, hnow, hmarks⟩
  · refine fun hleft => stored_after_of_failures fun outcome houtcome hkey => ?_
    by_contra hsuccess
    exact hleft ⟨outcome, houtcome, Bool.eq_false_iff.mpr hsuccess, hkey⟩

end Plan

/-! ### Histories -/

/-- What is noted of a pass: the affinity of its plan, and the keys of the workloads that it
applied. -/
structure PlacementNote where
  affinity : Option NodeAffinity
  applied : List WorkloadKey

/-- The note of a pass over a resource, as the caches and the cluster stand. -/
def Context.placementNote (ctx : Context) (object : SelectiveDeployment) (inNamespace : String)
    (c : Cluster) : PlacementNote :=
  let plan := Plan.make object.spec (eligibleNodes ctx.nodes) (ctx.index.placementOf object)
  { affinity := plan.affinity
    applied :=
      match (c.answer (plan.execute object)).1 with
      | .ok reports => appliedKeys inNamespace object.spec.controllers.declared reports
      | .error _ => [] }

/-- A **history** of one resource, with its log and the cluster in the end. It starts from a cluster
without workloads in which no write fails, of a workload or of a status. Each pass is over the
resource as it stands then, with the nodes of that time and an index that has caught up. -/
inductive History (inNamespace name uid : String) : List PlacementNote → Cluster → Prop
  | start {c : Cluster} (hnothing : ∀ key, c.stored key = none) (hwrite : c.writeFaults = [])
      (hstatus : c.statusFault = none) : History inNamespace name uid [] c
  | pass {log : List PlacementNote} {c after : Cluster} (h : History inNamespace name uid log c)
      {object : SelectiveDeployment} {ctx ctx' : Context} {result : Except PassError Unit}
      (hnamespace : object.inNamespace = some inNamespace)
      (hname : object.metadata.name = some name) (huid : object.uid = some uid)
      (hready : ctx.readiness = .ready) (hindex : ctx.index.Watches c)
      (hreconcile : ctx.reconcile? object c = some (result, ctx', after)) :
      History inNamespace name uid (log ++ [ctx.placementNote object inNamespace c]) after
  | reads {log : List PlacementNote} {c : Cluster} (h : History inNamespace name uid log c)
      (readFaults : List (Kind × String)) :
      History inNamespace name uid log { c with readFaults }

/-- The affinity of the last pass that applied the workload of a key. -/
def lastAffinity? (key : WorkloadKey) (log : List PlacementNote) : Option (Option NodeAffinity) :=
  (log.filter (key ∈ ·.applied)).getLast?.map PlacementNote.affinity

/-- One more pass counts for the keys that it applied. -/
theorem lastAffinity?_concat (key : WorkloadKey) (log : List PlacementNote) (note : PlacementNote) :
    lastAffinity? key (log ++ [note]) =
      if key ∈ note.applied then some note.affinity else lastAffinity? key log := by
  by_cases hmem : key ∈ note.applied <;> simp [lastAffinity?, List.filter_append, hmem]

/-- What a history leaves behind **reflects its log**: what is stored is the resource's own, and has
the affinity of the last pass that applied it. -/
structure Reflects (uid : String) (log : List PlacementNote) (c : Cluster) : Prop where
  namespaced : c.IsNamespaced
  own : ∀ key w, c.stored key = some w → w.isControlledBy uid = true ∧ w.isManaged = true
  nodeAffinity : ∀ key, (c.stored key).map Workload.nodeAffinity = lastAffinity? key log

namespace Reflects

variable {uid : String} {log : List PlacementNote} {note : PlacementNote} {c : Cluster}

/-- Only the workloads of a cluster matter. -/
theorem congr {c' : Cluster} (h : Reflects uid log c) (hsame : c'.workloads = c.workloads) :
    Reflects uid log c' := by
  have hstored : c'.stored = c.stored := funext fun key => congrArg (Table.get? · key) hsame
  refine ⟨fun key w hw => h.namespaced key w ?_, fun key w hw => h.own key w ?_, fun key => ?_⟩
  · rwa [hstored] at hw
  · rwa [hstored] at hw
  · rw [hstored, h.nodeAffinity]

/-- **One more pass** is reflected by its note. -/
theorem after (h : Reflects uid log c) {owner : Metadata} {reference : OwnerReference}
    (hreference : owner.controllerReference? = some reference) (huid : owner.uid = some uid)
    (plan : Plan) (inNamespace : String) (declared : List Workload) :
    Reflects uid
      (log ++ [⟨plan.affinity, appliedKeys inNamespace declared
        ((plan.outcomes owner inNamespace c declared).map Plan.reportOn)⟩])
      (plan.after owner inNamespace c declared) := by
  have hpass := plan.stored_after_appliedKeys owner inNamespace declared h.namespaced
  refine ⟨Plan.isNamespaced_after h.namespaced declared, fun key w hw => ?_, fun key => ?_⟩
  · obtain ⟨happlied, hleft⟩ := hpass key
    by_cases hmem : key ∈ appliedKeys inNamespace declared
        ((plan.outcomes owner inNamespace c declared).map Plan.reportOn)
    · obtain ⟨now, hnow, hmarks⟩ := happlied hmem
      obtain rfl : now = w := Option.some.inj (hnow.symm.trans hw)
      exact ⟨Plan.isControlledBy_of_controller hmarks.controller hreference huid,
        hmarks.isManaged⟩
    · exact h.own key w ((hleft hmem).symm.trans hw)
  · obtain ⟨happlied, hleft⟩ := hpass key
    rw [lastAffinity?_concat]
    split
    · next hmem =>
      obtain ⟨now, hnow, hmarks⟩ := happlied hmem
      rw [hnow, Option.map_some, hmarks.nodeAffinity]
    · next hmem => rw [hleft hmem, h.nodeAffinity]

variable (h : Reflects uid log c)

include h

/-- What is noted last of a key is what is stored under it. -/
theorem lastAffinity?_eq_some_iff {key : WorkloadKey} {a : Option NodeAffinity} :
    lastAffinity? key log = some a ↔ ∃ w, c.stored key = some w ∧ w.nodeAffinity = a := by
  rw [← h.nodeAffinity, Option.map_eq_some_iff]

/-- The workloads share an affinity iff the same is noted last of all their keys. -/
theorem shares_iff_of_log : c.SharesAffinity uid ↔ ∀ key key' a a',
    lastAffinity? key log = some a → lastAffinity? key' log = some a' → a = a' := by
  constructor
  · intro hshared key key' a a' ha ha'
    obtain ⟨w, hw, rfl⟩ := h.lastAffinity?_eq_some_iff.mp ha
    obtain ⟨w', hw', rfl⟩ := h.lastAffinity?_eq_some_iff.mp ha'
    exact hshared key w key' w' hw hw' (h.own key w hw).1 (h.own key' w' hw').1
  · intro hsame key w key' w' hw hw' _ _
    exact hsame key key' _ _ (h.lastAffinity?_eq_some_iff.mpr ⟨w, hw, rfl⟩)
      (h.lastAffinity?_eq_some_iff.mpr ⟨w', hw', rfl⟩)

end Reflects

namespace History

variable {inNamespace name uid : String} {log : List PlacementNote} {note : PlacementNote}
  {c : Cluster}

/-- **Every history reflects its log.** A note is made of what the plan answers, which is what
becomes of the declared workloads. -/
theorem reflects (h : History inNamespace name uid log c) : Reflects uid log c := by
  induction h with
  | start hnothing hwrite hstatus =>
      refine ⟨fun key w hw => ?_, fun key w hw => ?_, fun key => ?_⟩
      · cases (hnothing key).symm.trans hw
      · cases (hnothing key).symm.trans hw
      · rw [hnothing]
        rfl
  | @pass log c after h object ctx ctx' result hnamespace hname huid hready hindex hreconcile ih =>
      obtain ⟨reference, hreference⟩ := Metadata.exists_controllerReference hname huid
      set plan := Plan.make object.spec (eligibleNodes ctx.nodes) (ctx.index.placementOf object)
        with hplan
      have hexecute := plan.answer_execute_outcomes c object hnamespace hreference
      have hnote : ctx.placementNote object inNamespace c = ⟨plan.affinity,
          appliedKeys inNamespace object.spec.controllers.declared
            ((plan.outcomes object.metadata inNamespace c
              object.spec.controllers.declared).map Plan.reportOn)⟩ := by
        rw [Context.placementNote, ← hplan, hexecute]
      obtain ⟨statuses, hafter⟩ := exists_answer_pass object (eligibleNodes ctx.nodes)
        (ctx.index.placementOf object) c
      rw [eq_answer_of_reconcile hready hreconcile, hafter, ← hplan, hexecute, hnote]
      exact (ih.after hreference huid plan inNamespace _).congr rfl
  | reads h readFaults ih => exact ih.congr rfl

/-- **When the workloads of a resource share an affinity.** After each pass of a history they do iff
the same affinity was noted last of every key. If the pass applied some workload, this comes to
every key that it left out having been applied last with the affinity of this pass. So the workloads
share an affinity if none that is stored was left out; and where they do, the affinity of the pass
is what is read back as the placement. -/
theorem sharesAffinity_iff (h : History inNamespace name uid (log ++ [note]) c) :
    (c.SharesAffinity uid ↔ ∀ key key' a a', lastAffinity? key (log ++ [note]) = some a →
      lastAffinity? key' (log ++ [note]) = some a' → a = a') ∧
    (note.applied ≠ [] → (c.SharesAffinity uid ↔
      ∀ key a, key ∉ note.applied → lastAffinity? key log = some a → a = note.affinity)) ∧
    ((∀ key, c.stored key ≠ none → key ∈ note.applied) → c.SharesAffinity uid) ∧
    (note.applied ≠ [] → c.SharesAffinity uid →
      ∀ (object : SelectiveDeployment) (index : WorkloadIndex), object.uid = some uid →
        index.Watches c →
        index.placementOf object = (note.affinity.map NodeAffinity.hostnames).getD []) := by
  have hreflects := h.reflects
  have hshared := hreflects.shares_iff_of_log
  have happlied : ∀ key ∈ note.applied, lastAffinity? key (log ++ [note]) = some note.affinity :=
    fun key hkey => by rw [lastAffinity?_concat, if_pos hkey]
  have henough : (∀ key a, lastAffinity? key (log ++ [note]) = some a → a = note.affinity) →
      c.SharesAffinity uid := fun hall =>
    hshared.mpr fun key key' a a' ha ha' => (hall key a ha).trans (hall key' a' ha').symm
  refine ⟨hshared, fun hsome => ?_, fun hall => henough fun key a ha => ?_,
    fun hsome hshares object index hobject hwatches => ?_⟩
  · obtain ⟨first, hfirst⟩ := List.exists_mem_of_ne_nil _ hsome
    constructor
    · intro hshares key a hkey ha
      refine hshared.mp hshares key first a note.affinity ?_ (happlied first hfirst)
      rw [lastAffinity?_concat, if_neg hkey, ha]
    · refine fun hothers => henough fun key a ha => ?_
      rw [lastAffinity?_concat] at ha
      split at ha
      · exact (Option.some.inj ha).symm
      · next hkey => exact hothers key a hkey ha
  · obtain ⟨w, hw, -⟩ := hreflects.lastAffinity?_eq_some_iff.mp ha
    have hkey := happlied key (hall key (by rw [hw]; exact Option.some_ne_none w))
    exact Option.some.inj (ha.symm.trans hkey)
  · obtain ⟨first, hfirst⟩ := List.exists_mem_of_ne_nil _ hsome
    obtain ⟨w, hw, haffinity⟩ := hreflects.lastAffinity?_eq_some_iff.mp (happlied first hfirst)
    obtain ⟨hown, hmanaged⟩ := hreflects.own first w hw
    refine WorkloadIndex.placementOf_eq (WorkloadIndex.watches_iff_holds.mp hwatches) hobject ?_
      ⟨first, w, (Cluster.stored_managed_eq_some_iff ..).mpr ⟨hw, hmanaged⟩, hown⟩
    intro key other hother hcontrolled
    have hother := ((Cluster.stored_managed_eq_some_iff ..).mp hother).1
    exact (hshares key other first w hother hw hcontrolled hown).trans haffinity

end History

/-! ### A workload that is declared no more -/

/-- A context without nodes, with an index that has caught up with a cluster. -/
def caughtUp (c : Cluster) : Context :=
  contextOf { isReady := true } c.managed

/-- What a pass leaves behind in that context. -/
def passedOver (object : SelectiveDeployment) (c : Cluster) : Cluster :=
  (c.answer (pass object (eligibleNodes (caughtUp c).nodes)
    ((caughtUp c).index.placementOf object))).2

/-- Every history goes on with a pass in that context. -/
theorem History.next {inNamespace name uid : String} {log : List PlacementNote} {c : Cluster}
    (h : History inNamespace name uid log c) {object : SelectiveDeployment}
    (hnamespace : object.inNamespace = some inNamespace)
    (hname : object.metadata.name = some name) (huid : object.uid = some uid) :
    History inNamespace name uid (log ++ [(caughtUp c).placementNote object inNamespace c])
      (passedOver object c) := by
  have hready : (caughtUp c).readiness = .ready := rfl
  obtain ⟨result, ctx', hreconcile⟩ := reconcile_of_ready hready object c
  exact h.pass hnamespace hname huid hready
    (WorkloadIndex.watches_iff_holds.mpr (WorkloadIndex.holds_ofCluster _)) hreconcile

/-- The cluster after a pass over a resource with a selector. -/
def placedCluster : Cluster :=
  passedOver placedInFrance {}

/-- The same resource declares another deployment instead, and no selector. -/
def replacedCluster : Cluster :=
  passedOver (declaring ["db"] []) placedCluster

/-- The first pass of the history. -/
theorem history_placedCluster : History "tenant" "sd" "uid"
    ([] ++ [(caughtUp {}).placementNote placedInFrance "tenant" {}]) placedCluster :=
  History.next (.start (fun _ => rfl) rfl rfl) rfl rfl rfl

/-- Its second pass, after the declaration was edited. -/
theorem history_replacedCluster : History "tenant" "sd" "uid"
    ([(caughtUp {}).placementNote placedInFrance "tenant" {}] ++
      [(caughtUp placedCluster).placementNote (declaring ["db"] []) "tenant" placedCluster])
    replacedCluster :=
  history_placedCluster.next rfl rfl rfl

/-- The workloads of the first pass share an affinity; those that the second pass leaves out keep
it, and do not share that of the new deployment. -/
theorem History.sharesAffinity_iff_replaced :
    placedCluster.SharesAffinity "uid" ∧ ¬ replacedCluster.SharesAffinity "uid" := by
  obtain ⟨-, hfirst, -, -⟩ := History.sharesAffinity_iff history_placedCluster
  obtain ⟨-, hsecond, -, -⟩ := History.sharesAffinity_iff history_replacedCluster
  refine ⟨(hfirst (List.cons_ne_nil _ _)).mpr fun key a _ ha => ?_, fun hshared => ?_⟩
  · cases ha
  have hleft := (hsecond (List.cons_ne_nil _ _)).mp hshared ⟨.deployment, "tenant", "web"⟩
    ((caughtUp {}).placementNote placedInFrance "tenant" {}).affinity (by decide) rfl
  revert hleft
  decide

/-- **Workloads do not always share an affinity.** After an edit that puts one deployment in the
place of another and changes the selectors, the old one still has the old affinity. -/
theorem History.not_sharesAffinity :
    ¬ ∀ (inNamespace name uid : String) (log : List PlacementNote) (c : Cluster),
      History inNamespace name uid log c → c.SharesAffinity uid := by
  intro h
  have hshared := h _ _ _ _ _ history_replacedCluster
  have hsame := history_replacedCluster.reflects.shares_iff_of_log.mp hshared
    ⟨.deployment, "tenant", "web"⟩ ⟨.deployment, "tenant", "db"⟩ _ none rfl rfl
  revert hsame
  decide

end GeoPlacement
