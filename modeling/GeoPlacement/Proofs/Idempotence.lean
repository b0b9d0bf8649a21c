import GeoPlacement.Controller.Context
import GeoPlacement.Proofs.ReadBack
import GeoPlacement.Proofs.Repair
import GeoPlacement.Proofs.Resolution

/-!
# A second reconcile

What one pass has stored is read back from the index of workloads and becomes the placement that
the next pass starts from. A second pass over the same resource and the same nodes therefore
resolves the selectors with other placed hostnames than the first one did, and the workloads are
written again unless this gives the same selections.

The loop does not close in one step. Sticky picking takes the hostnames of the placement in the
order of the scan, so the selections of the first pass come back as sets but not always as lists,
and hostnames in another order make another node affinity. It closes in two
(`Plan.resolveAll_settles`).

## Main results

* `Plan.effects_second_eq_nil_iff`: when a second pass, by another plan, writes nothing.
* `writes_second_pass_iff`: when a second pass over the same nodes writes nothing.
* `writes_second_pass_iff_of_own`: the same from what is stored before the first pass.
* `reconcile_second_writes_iff`: when a second reconcile writes nothing.
* `not_reconcile_second_writes`: it does not always write nothing.
-/

namespace GeoPlacement

/-! ### A second plan -/

namespace Plan

variable {plan later : Plan} {owner : Metadata} {inNamespace : String} {c : Cluster}
  {declared : List Workload} {w : Workload} {key : WorkloadKey} {reference : OwnerReference}

/-- Desired objects depend on a plan by its affinity only. -/
theorem effect_congr_plan (h : later.affinity = plan.affinity) (c : Cluster) (w : Workload) :
    later.effect owner inNamespace c w = plan.effect owner inNamespace c w := by
  have hdesired : later.desired owner inNamespace w = plan.desired owner inNamespace w := by
    rw [Plan.desired, Plan.desired, h]
  rw [effect, effect, hdesired]

section Second

variable (hreference : owner.controllerReference? = some reference)
  (hdistinct : (declared.filterMap (·.key? inNamespace)).Nodup)
  (hclaims : ∀ w ∈ declared, ∀ r ∈ w.metadata.owners, r.isController = false →
    r.kind = resourceKind → some r.uid = owner.uid)
  (hwrite : c.writeFaults = [])

include hreference hdistinct hclaims hwrite

/-- A workload that was taken and is not written by a second plan is reported as unchanged, and the
two plans have the same affinity. -/
theorem effect_second_of_nil
    (hnothing : later.effects owner inNamespace
      (c.keepAll (plan.effects owner inNamespace c declared)) declared = [])
    (hw : w ∈ declared) (htaken : w.TakenAs owner inNamespace c key) :
    later.effect owner inNamespace (c.keepAll (plan.effects owner inNamespace c declared)) w =
        (.unchanged, none) ∧ later.affinity = plan.affinity := by
  obtain ⟨desired, stored, hdesired, hstored, howned, hsync⟩ :=
    exists_stored_of_taken hreference plan hdistinct hw (hclaims w hw) hwrite htaken
  obtain ⟨template, htemplate⟩ := Option.ne_none_iff_exists'.mp htaken.template
  obtain ⟨desired', hdesired', hderived'⟩ := exists_desired later inNamespace htemplate hreference
  have heffect := effect_again htaken (c.readFaults_keepAll _)
    ((c.writeFaults_keepAll _).trans hwrite) hdesired' hstored howned
  have hkept := List.filterMap_eq_nil_iff.mp hnothing w hw
  by_cases hsync' : inSync stored desired' = true
  · rw [if_pos hsync'] at heffect
    have hbefore :=
      (nodeAffinity_of_inSync hsync).trans (isDerived_of_desired hdesired).nodeAffinity
    have hafter := (nodeAffinity_of_inSync hsync').trans hderived'.nodeAffinity
    exact ⟨heffect, hafter.symm.trans hbefore⟩
  · rw [heffect, if_neg hsync'] at hkept
    cases hkept

/-- **A second pass by another plan** writes nothing iff there is nothing to write or the two plans
have the same affinity. -/
theorem effects_second_eq_nil_iff :
    later.effects owner inNamespace (c.keepAll (plan.effects owner inNamespace c declared))
        declared = [] ↔
      (∀ w ∈ declared, ∀ key, ¬ w.TakenAs owner inNamespace c key) ∨
        later.affinity = plan.affinity := by
  constructor
  · intro hnothing
    by_contra hnot
    push Not at hnot
    obtain ⟨⟨w, hw, key, htaken⟩, hne⟩ := hnot
    exact hne
      (effect_second_of_nil hreference hdistinct hclaims hwrite hnothing hw htaken).2
  · rintro (hnone | hsame)
    · refine List.filterMap_eq_nil_iff.mpr fun w hw => ?_
      obtain ⟨outcome, -, -, heffect⟩ :=
        exists_effect_after_of_not_taken hreference plan hdistinct hw (hnone w hw)
      rw [heffect later]
    · have heffects := effects_after hreference plan hdistinct hclaims hwrite
      simp only [effects, effect_congr_plan hsame]
      exact heffects

end Second

end Plan

/-! ### Passes -/

/-- A pass writes a status after the workloads. -/
theorem exists_answer_pass (object : SelectiveDeployment) (nodes : List EligibleNode)
    (placed : List (List String)) (c : Cluster) :
    ∃ statuses, (c.answer (pass object nodes placed)).2 =
      { (c.answer ((Plan.make object.spec nodes placed).execute object)).2 with statuses } := by
  obtain ⟨reports, after, hexecute⟩ : ∃ reports after,
      c.answer ((Plan.make object.spec nodes placed).execute object) = (reports, after) :=
    ⟨_, _, rfl⟩
  rw [hexecute]
  simp only [pass, sync, Cluster.answer_bind, hexecute]
  cases reports with
  | error error => exact ⟨after.statuses, rfl⟩
  | ok reports =>
      simp only [Except.map, Cluster.answer, Dialogue.answer, concludePass, Cluster.respond]
      obtain ⟨statuses, hstatus⟩ := after.exists_writeStatus object ((Summary.of
        (Plan.make object.spec nodes placed).selections reports).status object.metadata.generation)
      refine ⟨statuses, hstatus ▸ ?_⟩
      cases (after.writeStatus object _).1 <;> rfl

/-- A reconcile whose context is ready is a pass. -/
theorem reconcile_of_ready {ctx : Context} (h : ctx.readiness = .ready)
    (object : SelectiveDeployment) (c : Cluster) :
    ∃ result ctx', ctx.reconcile? object c = some (result, ctx',
      (c.answer (pass object (eligibleNodes ctx.nodes) (ctx.index.placementOf object))).2) := by
  rw [Context.reconcile?, Context.pass?, h]
  exact ⟨_, _, rfl⟩

/-- What a reconcile leaves behind where its context is ready. -/
theorem eq_answer_of_reconcile {ctx ctx' : Context} {object : SelectiveDeployment}
    {c after : Cluster} {result : Except PassError Unit} (hready : ctx.readiness = .ready)
    (h : ctx.reconcile? object c = some (result, ctx', after)) :
    after =
      (c.answer (pass object (eligibleNodes ctx.nodes) (ctx.index.placementOf object))).2 := by
  obtain ⟨result', ctx'', hpass⟩ := reconcile_of_ready hready object c
  rw [hpass] at h
  injection h with h
  injection h with _ h
  injection h with _ h
  exact h.symm

section Passes

variable {object : SelectiveDeployment} {inNamespace : String} {reference : OwnerReference}
  (hnamespace : object.inNamespace = some inNamespace)
  (hreference : object.metadata.controllerReference? = some reference)
  (hdistinct : (object.spec.controllers.declared.filterMap (·.key? inNamespace)).Nodup)

include hnamespace hreference hdistinct

/-- What a pass leaves behind: the effects of its plan, and a status. -/
theorem exists_pass_cluster (nodes : List EligibleNode) (placed : List (List String))
    (c : Cluster) :
    ∃ statuses, (c.answer (pass object nodes placed)).2 =
      { c.keepAll ((Plan.make object.spec nodes placed).effects object.metadata inNamespace c
          object.spec.controllers.declared) with statuses } := by
  obtain ⟨statuses, hpass⟩ := exists_answer_pass object nodes placed c
  refine ⟨statuses, hpass.trans ?_⟩
  rw [answer_execute hnamespace hreference hdistinct]

/-- What a second pass leaves behind. The status that the first one wrote plays no part in it. -/
theorem exists_second_pass_cluster (nodes : List EligibleNode) (placed later : List (List String))
    (c : Cluster) :
    ∃ statuses, ((c.answer (pass object nodes placed)).2.answer (pass object nodes later)).2 =
      { (c.answer (pass object nodes placed)).2.keepAll
          ((Plan.make object.spec nodes later).effects object.metadata inNamespace
            (c.keepAll ((Plan.make object.spec nodes placed).effects object.metadata inNamespace c
              object.spec.controllers.declared)) object.spec.controllers.declared) with
        statuses } := by
  obtain ⟨statuses, hfirst⟩ :=
    exists_pass_cluster hnamespace hreference hdistinct nodes placed c
  rw [hfirst]
  exact exists_pass_cluster hnamespace hreference hdistinct nodes later _

variable {c : Cluster} (hclaims : ∀ w ∈ object.spec.controllers.declared, ∀ r ∈ w.metadata.owners,
    r.isController = false → r.kind = resourceKind → some r.uid = object.uid)
  (hwrite : c.writeFaults = [])

include hclaims hwrite

/-- **A second pass** writes nothing iff there is nothing to write or its placement resolves to
the same selections. -/
theorem writes_second_pass_iff (nodes : List EligibleNode) (placed later : List (List String)) :
    ((c.answer (pass object nodes placed)).2.answer (pass object nodes later)).2.writes =
        (c.answer (pass object nodes placed)).2.writes ↔
      (∀ w ∈ object.spec.controllers.declared, ∀ key,
        ¬ w.TakenAs object.metadata inNamespace c key) ∨
      Plan.resolveAll nodes object.spec.selector later =
        Plan.resolveAll nodes object.spec.selector placed := by
  obtain ⟨statuses, hsecond⟩ :=
    exists_second_pass_cluster hnamespace hreference hdistinct nodes placed later c
  rw [hsecond]
  simp only [Cluster.writes_keepAll, Nat.add_eq_left, List.length_eq_zero_iff]
  rw [Plan.effects_second_eq_nil_iff hreference hdistinct hclaims hwrite]
  simp only [Plan.make, Plan.compile_resolveAll_inj]

/-- A second pass that writes nothing leaves the workloads as they are and reports every one that
was taken as unchanged. -/
theorem reports_second_pass (nodes : List EligibleNode) (placed later : List (List String))
    (h : ((c.answer (pass object nodes placed)).2.answer (pass object nodes later)).2.writes =
      (c.answer (pass object nodes placed)).2.writes) :
    ((c.answer (pass object nodes placed)).2.answer (pass object nodes later)).2.workloads =
        (c.answer (pass object nodes placed)).2.workloads ∧
      ∃ reports, ((c.answer (pass object nodes placed)).2.answer
          ((Plan.make object.spec nodes later).execute object)).1 = .ok reports ∧
        ∀ (i : Nat) (w : Workload), object.spec.controllers.declared[i]? = some w →
          ∀ key, w.TakenAs object.metadata inNamespace c key →
            reports[i]? = some ⟨w.kind, w.metadata.displayName, .unchanged⟩ := by
  obtain ⟨statuses, hsecond⟩ :=
    exists_second_pass_cluster hnamespace hreference hdistinct nodes placed later c
  obtain ⟨statuses', hfirst⟩ := exists_pass_cluster hnamespace hreference hdistinct nodes placed c
  rw [hsecond] at h ⊢
  simp only [Cluster.writes_keepAll, Nat.add_eq_left, List.length_eq_zero_iff] at h
  have hreports := answer_execute hnamespace hreference hdistinct
    (Plan.make object.spec nodes later) (c.answer (pass object nodes placed)).2
  refine ⟨by rw [h, Cluster.keepAll_nil], _, congrArg Prod.fst hreports,
    fun i w hi key htaken => ?_⟩
  have heffect : (Plan.make object.spec nodes later).effect object.metadata inNamespace
      (c.answer (pass object nodes placed)).2 w = (.unchanged, none) := by
    rw [hfirst]
    exact (Plan.effect_second_of_nil hreference hdistinct hclaims hwrite h
      (List.mem_of_getElem? hi) htaken).1
  rw [List.getElem?_map, hi, Option.map_some, Plan.report, heffect]

/-- **A second pass over shared affinities.** If all workloads that the resource controls carry the
affinity of the first pass, a pass with the placement read back from them writes nothing iff there
is nothing to write or the first pass has each selection in the order of the scan. -/
theorem writes_second_pass_iff_of_shared {uid : String} (huid : object.uid = some uid)
    {nodes : List EligibleNode} {placed : List (List String)} {index : WorkloadIndex}
    (hholds : index.Holds (c.answer (pass object nodes placed)).2)
    (hshared : ∀ key w, (c.answer (pass object nodes placed)).2.stored key = some w →
      w.isControlledBy uid = true →
      w.nodeAffinity = compile (Plan.resolveAll nodes object.spec.selector placed)) :
    ((c.answer (pass object nodes placed)).2.answer
          (pass object nodes (index.placementOf object))).2.writes =
        (c.answer (pass object nodes placed)).2.writes ↔
      (∀ w ∈ object.spec.controllers.declared, ∀ key,
        ¬ w.TakenAs object.metadata inNamespace c key) ∨
      List.Forall₂ (fun s selection => selection.hostnames.Sublist (s.scan nodes).eraseDups)
        object.spec.selector (Plan.resolveAll nodes object.spec.selector placed) := by
  rw [writes_second_pass_iff hnamespace hreference hdistinct hclaims hwrite]
  by_cases hnone : ∀ w ∈ object.spec.controllers.declared, ∀ key,
      ¬ w.TakenAs object.metadata inNamespace c key
  · exact iff_of_true (Or.inl hnone) (Or.inl hnone)
  · have hsome : ∃ key w, (c.answer (pass object nodes placed)).2.stored key = some w ∧
        w.isControlledBy uid = true := by
      push Not at hnone
      obtain ⟨w, hw, key, htaken⟩ := hnone
      obtain ⟨desired, stored, hdesired, hstored, -, hsync⟩ := Plan.exists_stored_of_taken
        hreference (Plan.make object.spec nodes placed) hdistinct hw (hclaims w hw) hwrite htaken
      obtain ⟨statuses, hfirst⟩ :=
        exists_pass_cluster hnamespace hreference hdistinct nodes placed c
      refine ⟨key, stored, ?_, Plan.isControlledBy_of_inSync
        (Plan.isDerived_of_desired hdesired) huid hsync⟩
      rw [hfirst]
      exact hstored
    rw [WorkloadIndex.placementOf_eq hholds huid hshared hsome, Plan.placement_compile_resolveAll,
      Plan.resolveAll_again_iff]

/-- **The workloads share the affinity of a pass** if, before it, all that the resource controlled
were among those that the pass takes. -/
theorem nodeAffinity_after_pass {uid : String} (nodes : List EligibleNode)
    (placed : List (List String))
    (hown : ∀ key w, c.stored key = some w → w.isControlledBy uid = true →
      ∃ declared ∈ object.spec.controllers.declared,
        declared.TakenAs object.metadata inNamespace c key)
    {key : WorkloadKey} {w : Workload}
    (hw : (c.answer (pass object nodes placed)).2.stored key = some w)
    (hcontrolled : w.isControlledBy uid = true) :
    w.nodeAffinity = compile (Plan.resolveAll nodes object.spec.selector placed) := by
  obtain ⟨statuses, hfirst⟩ := exists_pass_cluster hnamespace hreference hdistinct nodes placed c
  rw [hfirst] at hw
  by_cases htaken : ∃ declared ∈ object.spec.controllers.declared,
      declared.TakenAs object.metadata inNamespace c key
  · obtain ⟨declared, hdeclared, htaken⟩ := htaken
    obtain ⟨desired, stored, hdesired, hstored, -, hsync⟩ := Plan.exists_stored_of_taken
      hreference (Plan.make object.spec nodes placed) hdistinct hdeclared
      (hclaims declared hdeclared) hwrite htaken
    obtain rfl : stored = w := Option.some.inj (hstored.symm.trans hw)
    exact (Plan.nodeAffinity_of_inSync hsync).trans
      (Plan.isDerived_of_desired hdesired).nodeAffinity
  · have hkey : key ∉ ((Plan.make object.spec nodes placed).effects object.metadata inNamespace c
        object.spec.controllers.declared).map Prod.fst := by
      intro hmem
      obtain ⟨entry, hentry, rfl⟩ := List.mem_map.mp hmem
      obtain ⟨declared, hdeclared, heffect⟩ := List.mem_filterMap.mp hentry
      have hkey := Plan.key_of_effect heffect
      by_cases hother : ∃ key, declared.TakenAs object.metadata inNamespace c key
      · obtain ⟨key, hother⟩ := hother
        obtain rfl : key = entry.1 := Option.some.inj (hother.key_eq.symm.trans hkey)
        exact htaken ⟨declared, hdeclared, hother⟩
      · obtain ⟨outcome, -, hnothing, -⟩ := Plan.exists_effect_after_of_not_taken hreference
          (Plan.make object.spec nodes placed) hdistinct hdeclared (not_exists.mp hother)
        rw [hnothing] at heffect
        cases heffect
    exact absurd (hown key w ((c.stored_keepAll_of_notMem hkey).symm.trans hw) hcontrolled) htaken

variable (object c) in
/-- **A second pass over own workloads.** If, before the first pass, all workloads that the resource
controls are among those that it takes, a pass with the placement read back writes nothing iff there
is nothing to write or the first pass has each selection in the order of the scan. -/
theorem writes_second_pass_iff_of_own {uid : String} (huid : object.uid = some uid)
    (nodes : List EligibleNode) (placed : List (List String)) {index : WorkloadIndex}
    (hholds : index.Holds (c.answer (pass object nodes placed)).2)
    (hown : ∀ key w, c.stored key = some w → w.isControlledBy uid = true →
      ∃ declared ∈ object.spec.controllers.declared,
        declared.TakenAs object.metadata inNamespace c key) :
    ((c.answer (pass object nodes placed)).2.answer
          (pass object nodes (index.placementOf object))).2.writes =
        (c.answer (pass object nodes placed)).2.writes ↔
      (∀ w ∈ object.spec.controllers.declared, ∀ key,
        ¬ w.TakenAs object.metadata inNamespace c key) ∨
      List.Forall₂ (fun s selection => selection.hostnames.Sublist (s.scan nodes).eraseDups)
        object.spec.selector (Plan.resolveAll nodes object.spec.selector placed) :=
  writes_second_pass_iff_of_shared hnamespace hreference hdistinct hclaims hwrite huid hholds
    fun _ _ hw hcontrolled =>
      nodeAffinity_after_pass hnamespace hreference hdistinct hclaims hwrite nodes placed hown hw
        hcontrolled

end Passes

/-! ### Reconciles -/

/-- **When a second reconcile writes nothing.** The resource has a namespace, a name and an
identifier, its workloads have distinct keys and refer to no owners, and no write fails. After a
reconcile, a second one over the same nodes, with an index that holds what is stored then, writes
no workload iff there is none to write, or the placement that is read back resolves to the same
selections; it then reports the workloads as unchanged. Where all workloads that the resource
controls share the affinity of the first pass, this comes to each of its selections having the
hostnames in the order of the scan. -/
theorem reconcile_second_writes_iff (ctx : Context) (object : SelectiveDeployment) (c : Cluster)
    {inNamespace name uid : String} (hready : ctx.readiness = .ready)
    (hnamespace : object.inNamespace = some inNamespace)
    (hname : object.metadata.name = some name) (huid : object.uid = some uid)
    (hdistinct : (object.spec.controllers.declared.filterMap (·.key? inNamespace)).Nodup)
    (howners : ∀ w ∈ object.spec.controllers.declared, w.metadata.owners = [])
    (hwrite : c.writeFaults = []) :
    ∃ result ctx' first, ctx.reconcile? object c = some (result, ctx', first) ∧
      ∀ later : Context, later.readiness = .ready → later.nodes = ctx.nodes →
        later.index.Holds first →
        ∃ result' ctx'' second, later.reconcile? object first = some (result', ctx'', second) ∧
          (second.writes = first.writes ↔
            (∀ w ∈ object.spec.controllers.declared, ∀ key,
              ¬ w.TakenAs object.metadata inNamespace c key) ∨
            Plan.resolveAll (eligibleNodes ctx.nodes) object.spec.selector
                (later.index.placementOf object) =
              Plan.resolveAll (eligibleNodes ctx.nodes) object.spec.selector
                (ctx.index.placementOf object)) ∧
          (second.writes = first.writes → second.workloads = first.workloads ∧
            ∃ reports, (first.answer ((Plan.make object.spec (eligibleNodes ctx.nodes)
                (later.index.placementOf object)).execute object)).1 = .ok reports ∧
              ∀ (i : Nat) (w : Workload), object.spec.controllers.declared[i]? = some w →
                ∀ key, w.TakenAs object.metadata inNamespace c key →
                  reports[i]? = some ⟨w.kind, w.metadata.displayName, .unchanged⟩) ∧
          ((∀ key w, first.stored key = some w → w.isControlledBy uid = true →
              w.nodeAffinity = compile (Plan.resolveAll (eligibleNodes ctx.nodes)
                object.spec.selector (ctx.index.placementOf object))) →
            (second.writes = first.writes ↔
              (∀ w ∈ object.spec.controllers.declared, ∀ key,
                ¬ w.TakenAs object.metadata inNamespace c key) ∨
              List.Forall₂
                (fun s selection => selection.hostnames.Sublist
                  (s.scan (eligibleNodes ctx.nodes)).eraseDups)
                object.spec.selector
                (Plan.resolveAll (eligibleNodes ctx.nodes) object.spec.selector
                  (ctx.index.placementOf object)))) := by
  obtain ⟨reference, hreference⟩ := Metadata.exists_controllerReference hname huid
  have hclaims : ∀ w ∈ object.spec.controllers.declared, ∀ r ∈ w.metadata.owners,
      r.isController = false → r.kind = resourceKind → some r.uid = object.uid := by
    intro w hw r hr
    rw [howners w hw] at hr
    cases hr
  obtain ⟨result, ctx', hfirst⟩ := reconcile_of_ready hready object c
  refine ⟨result, ctx', _, hfirst, fun later hlater hnodes hholds => ?_⟩
  obtain ⟨result', ctx'', hsecond⟩ := reconcile_of_ready hlater object
    (c.answer (pass object (eligibleNodes ctx.nodes) (ctx.index.placementOf object))).2
  rw [hnodes] at hsecond
  exact ⟨result', ctx'', _, hsecond,
    writes_second_pass_iff hnamespace hreference hdistinct hclaims hwrite _ _ _,
    reports_second_pass hnamespace hreference hdistinct hclaims hwrite _ _ _,
    writes_second_pass_iff_of_shared hnamespace hreference hdistinct hclaims hwrite huid hholds⟩

/-- A context in which the index holds a cluster. -/
def contextOf (nodes : Cache Node) (c : Cluster) : Context where
  nodes
  index := .ofCluster c
  backoff := default
  resync := 0

/-- A node in France that is ready. -/
def frenchNode (name : String) : Node where
  metadata := {
    name := some name
    labels := some (.ofList [(Label.hostname, name), (Label.country, "FR")]) }
  status := some { conditions := some [{ status := "True", type := "Ready" }] }

/-- Two nodes. -/
def frenchNodes : Cache Node :=
  .ofList Node.reference [frenchNode "fr-1", frenchNode "fr-2"]

/-- A resource that asks for all nodes in France. -/
def frenchResource : SelectiveDeployment :=
  { twoWorkloads with
    spec.selector := [{ name := "country", value := ["FR"], operator := .anyOf }] }

/-- Both nodes are eligible, in the order of their names. -/
theorem eligibleNodes_french :
    eligibleNodes frenchNodes =
      [⟨"fr-1", .ofList [(Label.hostname, "fr-1"), (Label.country, "FR")], none⟩,
        ⟨"fr-2", .ofList [(Label.hostname, "fr-2"), (Label.country, "FR")], none⟩] := by
  have hsnapshot : snapshot frenchNodes = [frenchNode "fr-1", frenchNode "fr-2"] :=
    List.mergeSort_of_pairwise (by decide)
  rw [eligibleNodes, hsnapshot]
  rfl

/-- A cluster with one workload stores nothing else. -/
theorem eq_of_stored_put {inNamespace : String} {w w' : Workload} {key : WorkloadKey}
    (h : (({} : Cluster).put inNamespace w).stored key = some w') :
    key = ⟨w.kind, inNamespace, w.metadata.displayName⟩ ∧ w' = w := by
  rw [Cluster.stored, Cluster.put, Table.get?_insert] at h
  split at h
  · next hkey => exact ⟨hkey.symm, (Option.some.inj h).symm⟩
  · cases h

/-- The stray workload is placed by one reconcile and left alone by the next one. -/
theorem reconcile_second_writes_iff_stray :
    ∃ result ctx' first,
      (contextOf frenchNodes strayCluster).reconcile? frenchResource strayCluster =
        some (result, ctx', first) ∧
      ∃ result' ctx'' second,
        (contextOf frenchNodes first).reconcile? frenchResource first =
          some (result', ctx'', second) ∧
        second.writes = first.writes := by
  obtain ⟨result, ctx', first, hfirst, hlater⟩ :=
    reconcile_second_writes_iff (contextOf frenchNodes strayCluster) frenchResource strayCluster
      rfl rfl rfl rfl (by decide) (by decide) rfl
  obtain ⟨result', ctx'', second, hsecond, -, -, hwrites⟩ :=
    hlater (contextOf frenchNodes first) rfl rfl (WorkloadIndex.holds_ofCluster first)
  refine ⟨result, ctx', first, hfirst, result', ctx'', second, hsecond, ?_⟩
  refine (hwrites fun key w hw hcontrolled => ?_).mpr (Or.inr ?_)
  · rw [eq_answer_of_reconcile rfl hfirst] at hw
    refine nodeAffinity_after_pass rfl rfl (by decide) (by decide) rfl _ _ ?_ hw hcontrolled
    intro key w hw hcontrolled
    obtain ⟨-, rfl⟩ := eq_of_stored_put hw
    cases hcontrolled
  · have hplacement : (contextOf frenchNodes strayCluster).index.placementOf frenchResource = [] :=
      rfl
    rw [hplacement]
    dsimp only [contextOf]
    rw [eligibleNodes_french]
    decide +kernel

/-! ### Nodes that arrive between two passes -/

/-- What the resource owned while there was but the second node. -/
def frenchWorkload : Workload :=
  (Plan.mapMetadata
    (fun m => { m with ownerReferences := frenchResource.metadata.controllerReference?.map ([·]) })
    (bareWorkload (some "web"))).setNodeAffinity
      (compile [{ key := Label.hostname, operator := .anyOf, hostnames := ["fr-2"]
                  diagnostics := [] }])

/-- The cluster with that workload. -/
def frenchCluster : Cluster :=
  ({} : Cluster).put "tenant" frenchWorkload

/-- The workload is the resource's own. -/
theorem takenAs_frenchCluster :
    (bareWorkload (some "web")).TakenAs frenchResource.metadata "tenant" frenchCluster
      ⟨.deployment, "tenant", "web"⟩ := by
  refine ⟨rfl, Option.some_ne_none _, List.not_mem_nil, fun current hcurrent other => ?_⟩
  obtain ⟨-, rfl⟩ := eq_of_stored_put hcurrent
  have howned : frenchWorkload.metadata.ownership frenchResource.metadata = .owned := rfl
  exact fun h => by cases howned.symm.trans h

/-- **A second reconcile may write.** When a node comes first by name that came last in time, the
first reconcile puts it after the nodes that it keeps, and the second one puts it before them. -/
theorem not_reconcile_second_writes :
    ¬ ∀ (ctx : Context) (object : SelectiveDeployment) (c : Cluster)
        (inNamespace name uid : String), ctx.readiness = .ready →
        object.inNamespace = some inNamespace → object.metadata.name = some name →
        object.uid = some uid →
        (object.spec.controllers.declared.filterMap (·.key? inNamespace)).Nodup →
        (∀ w ∈ object.spec.controllers.declared, w.metadata.owners = []) →
        c.writeFaults = [] →
        ∃ result ctx' first, ctx.reconcile? object c = some (result, ctx', first) ∧
          ∀ later : Context, later.readiness = .ready → later.nodes = ctx.nodes →
            later.index.Holds first →
            ∃ result' ctx'' second,
              later.reconcile? object first = some (result', ctx'', second) ∧
              second.writes = first.writes := by
  intro h
  obtain ⟨result, ctx', first, hfirst, hlater⟩ := h (contextOf frenchNodes frenchCluster)
    frenchResource frenchCluster "tenant" "sd" "uid" rfl rfl rfl rfl (by decide) (by decide) rfl
  obtain ⟨result', ctx'', second, hsecond, hsame⟩ :=
    hlater (contextOf frenchNodes first) rfl rfl (WorkloadIndex.holds_ofCluster first)
  obtain rfl := eq_answer_of_reconcile rfl hsecond
  obtain rfl := eq_answer_of_reconcile rfl hfirst
  have hown : ∀ key w, frenchCluster.stored key = some w → w.isControlledBy "uid" = true →
      ∃ declared ∈ frenchResource.spec.controllers.declared,
        declared.TakenAs frenchResource.metadata "tenant" frenchCluster key := by
    intro key w hw _
    obtain ⟨rfl, -⟩ := eq_of_stored_put hw
    exact ⟨_, List.mem_cons_self, takenAs_frenchCluster⟩
  have hholds := WorkloadIndex.holds_ofCluster (frenchCluster.answer (pass frenchResource
    (eligibleNodes frenchNodes) [["fr-2"]])).2
  rcases (writes_second_pass_iff_of_own frenchResource rfl rfl (by decide) frenchCluster
    (by decide) rfl rfl _ _ hholds hown).mp hsame with hnone | hscan
  · exact hnone _ List.mem_cons_self _ takenAs_frenchCluster
  · rw [eligibleNodes_french] at hscan
    revert hscan
    decide +kernel

end GeoPlacement
