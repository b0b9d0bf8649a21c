import GeoPlacement.Proofs.Desired
import GeoPlacement.Proofs.Versions
import Mathlib.Data.List.Basic
import Mathlib.Tactic.Set

/-!
# What applying declared workloads comes to

Against a cluster in memory, applying a declared workload is a function of what the cluster holds
under one key: `Plan.effect` says what is reported and what is stored, without a dialogue. A
workload is not affected by the others that are applied before it, as long as they have other
keys, so that the effects of a whole list can be read off the cluster at the start.

## Main results

* `Plan.effect_cases`: what an effect may be, in two cases.
* `Plan.effect_congr`: clusters that agree on the key of a workload have the same effect on it.
* `Plan.apply_cases`: how a declared workload is applied, in two cases.
* `Plan.answer_apply`: applying one declared workload has its effect.
* `Plan.answer_applyAll`: applying workloads with distinct keys has the effects of all of them.
* `Plan.stored_effects`: what is stored in the end under the key of each.
-/

namespace GeoPlacement

/-- The key under which a declared workload is kept in a namespace, if it has a name. -/
def Workload.key? (inNamespace : String) (w : Workload) : Option WorkloadKey :=
  w.name.map fun name => ⟨w.kind, inNamespace, name⟩

/-- Where keys are distinct, a workload does not have the key of a later one. -/
theorem Workload.key_ne_of_nodup {inNamespace : String} {head w : Workload} {rest : List Workload}
    (hdistinct : ((head :: rest).filterMap (·.key? inNamespace)).Nodup) (hw : w ∈ rest)
    {key : WorkloadKey} (hkey : w.key? inNamespace = some key) :
    head.key? inNamespace ≠ some key := by
  intro hhead
  rw [List.filterMap_cons_some hhead] at hdistinct
  exact (List.nodup_cons.mp hdistinct).1 (List.mem_filterMap.mpr ⟨w, hw, hkey⟩)

/-! ### Successful writes -/

namespace Cluster

/-- The cluster after successful writes. -/
def keepAll (c : Cluster) (entries : List (WorkloadKey × Workload)) : Cluster :=
  entries.foldl (fun c entry => c.keep entry.1 entry.2) c

variable (c : Cluster)

@[simp] theorem keepAll_nil : c.keepAll [] = c :=
  rfl

theorem keepAll_cons (entry : WorkloadKey × Workload) (entries : List (WorkloadKey × Workload)) :
    c.keepAll (entry :: entries) = (c.keep entry.1 entry.2).keepAll entries :=
  rfl

/-- Keeping a workload changes what is stored under its key only. -/
theorem stored_keepAll_one (key query : WorkloadKey) (w : Workload) :
    (c.keepAll [(key, w)]).stored query = if key = query then some w else c.stored query :=
  c.stored_keep ..

/-- Only the keys that are written change. -/
theorem stored_keepAll_of_notMem {entries : List (WorkloadKey × Workload)} {key : WorkloadKey}
    (h : key ∉ entries.map Prod.fst) : (c.keepAll entries).stored key = c.stored key := by
  induction entries generalizing c with
  | nil => rfl
  | cons entry rest ih =>
      obtain ⟨hne, hrest⟩ : key ≠ entry.1 ∧ key ∉ rest.map Prod.fst := by
        simpa [List.map_cons, List.mem_cons] using h
      rw [keepAll_cons, ih _ hrest, stored_keep, if_neg (Ne.symm hne)]

/-- What is kept later is kept on top of what was kept before. -/
theorem keepAll_append (entries later : List (WorkloadKey × Workload)) :
    c.keepAll (entries ++ later) = (c.keepAll entries).keepAll later :=
  List.foldl_append

/-- Successful writes are counted, and nothing but the workloads and the count changes. -/
theorem keepAll_eq (entries : List (WorkloadKey × Workload)) :
    c.keepAll entries = { c with
      workloads := (c.keepAll entries).workloads
      writes := c.writes + entries.length } := by
  induction entries generalizing c with
  | nil => rfl
  | cons entry rest ih =>
      rw [keepAll_cons, ih]
      simp only [keep, List.length_cons, Cluster.mk.injEq, true_and]
      omega

/-- Keeping workloads makes no other reads fail. -/
@[simp] theorem readFaults_keepAll (entries : List (WorkloadKey × Workload)) :
    (c.keepAll entries).readFaults = c.readFaults := by
  rw [keepAll_eq]

/-- Keeping workloads makes no other writes fail. -/
@[simp] theorem writeFaults_keepAll (entries : List (WorkloadKey × Workload)) :
    (c.keepAll entries).writeFaults = c.writeFaults := by
  rw [keepAll_eq]

/-- Every kept workload counts as a write. -/
theorem writes_keepAll (entries : List (WorkloadKey × Workload)) :
    (c.keepAll entries).writes = c.writes + entries.length := by
  rw [keepAll_eq]

/-- **What is stored after the writes for some workloads**, each under its own key: what was
written for a workload, or else what was stored before. -/
theorem stored_keepAll_filterMap {inNamespace : String}
    {written : Workload → Option (WorkloadKey × Workload)}
    (hwritten : ∀ w entry, written w = some entry → w.key? inNamespace = some entry.1)
    {workloads : List Workload} (hdistinct : (workloads.filterMap (·.key? inNamespace)).Nodup)
    {w : Workload} (hw : w ∈ workloads) {key : WorkloadKey} (hkey : w.key? inNamespace = some key) :
    (c.keepAll (workloads.filterMap written)).stored key =
      ((written w).map Prod.snd).or (c.stored key) := by
  induction workloads generalizing c with
  | nil => cases hw
  | cons head rest ih =>
      have hcons : (head :: rest).filterMap written =
          (written head).toList ++ rest.filterMap written := by
        cases h : written head <;> simp [h]
      have hrest : (rest.filterMap (·.key? inNamespace)).Nodup :=
        hdistinct.sublist ((List.sublist_cons_self head rest).filterMap _)
      rw [hcons, keepAll_append]
      rcases List.mem_cons.mp hw with rfl | hw
      · have hkeys : key ∉ (rest.filterMap written).map Prod.fst := by
          intro hmem
          obtain ⟨entry, hentry, rfl⟩ := List.mem_map.mp hmem
          obtain ⟨other, hother, hsome⟩ := List.mem_filterMap.mp hentry
          exact Workload.key_ne_of_nodup hdistinct hother (hwritten other entry hsome) hkey
        rw [stored_keepAll_of_notMem _ hkeys]
        cases h : written w with
        | none => rfl
        | some entry =>
            obtain rfl : key = entry.1 := Option.some.inj (hkey.symm.trans (hwritten w entry h))
            exact (c.stored_keep ..).trans (if_pos rfl)
      · rw [ih _ hrest hw]
        congr 1
        cases h : written head with
        | none => rfl
        | some entry =>
            have hne : entry.1 ≠ key := by
              rintro rfl
              exact Workload.key_ne_of_nodup hdistinct hw hkey (hwritten head entry h)
            exact (c.stored_keep ..).trans (if_neg hne)

end Cluster

/-! ### Agreement on a key -/

/-- Whether two clusters **agree on a key**: the same is stored under it, and the same of its
requests fail. -/
structure Cluster.AgreesOn (c c' : Cluster) (key : WorkloadKey) : Prop where
  stored : c.stored key = c'.stored key
  readFault : (key.kind, key.name) ∈ c.readFaults ↔ (key.kind, key.name) ∈ c'.readFaults
  writeFault : (key.kind, key.name) ∈ c.writeFaults ↔ (key.kind, key.name) ∈ c'.writeFaults

namespace Cluster.AgreesOn

variable {c c' d : Cluster} {key : WorkloadKey}

theorem refl (c : Cluster) (key : WorkloadKey) : c.AgreesOn c key :=
  ⟨rfl, Iff.rfl, Iff.rfl⟩

theorem symm (h : c.AgreesOn c' key) : c'.AgreesOn c key :=
  ⟨h.stored.symm, h.readFault.symm, h.writeFault.symm⟩

theorem trans (h : c.AgreesOn c' key) (h' : c'.AgreesOn d key) : c.AgreesOn d key :=
  ⟨h.stored.trans h'.stored, h.readFault.trans h'.readFault, h.writeFault.trans h'.writeFault⟩

/-- Clusters still agree after the same write. -/
theorem keepAll (h : c.AgreesOn c' key) (entry : Option (WorkloadKey × Workload)) :
    (c.keepAll entry.toList).AgreesOn (c'.keepAll entry.toList) key := by
  refine ⟨?_, by simpa using h.readFault, by simpa using h.writeFault⟩
  cases entry with
  | none => exact h.stored
  | some entry => rw [Option.toList_some, stored_keepAll_one, stored_keepAll_one, h.stored]

/-- A cluster agrees on a key with what it was before writes under other keys. -/
theorem of_keepAll {entries : List (WorkloadKey × Workload)} (h : key ∉ entries.map Prod.fst) :
    (c.keepAll entries).AgreesOn c key :=
  ⟨c.stored_keepAll_of_notMem h, by simp, by simp⟩

end Cluster.AgreesOn

/-! ### One workload -/

namespace Plan

/-- What becomes of a desired object, from what is stored under its key and whether writes of it
are rejected: what is reported, and what is stored instead, if anything. -/
def deed (owner : Metadata) (desired : Workload) (key : WorkloadKey) (isRejected : Bool) :
    Option Workload → Outcome × Option Workload
  | none =>
    if isRejected then
      (.failed .create (ClientError.refused key.kind key.name .rejected).message, none)
    else (.created, some (Cluster.stamp key.inNamespace 1 desired))
  | some current =>
    let replaced : Outcome × Option Workload :=
      if isRejected then
        (.failed .update (ClientError.refused key.kind key.name .rejected).message, none)
      else
        (.updated,
          some (Cluster.stamp key.inNamespace (Cluster.versionNumber current + 1) desired))
    match current.metadata.ownership owner with
    | .foreign other => (.inUse other, none)
    | .unclaimed => replaced
    | .owned => if inSync current desired then (.unchanged, none) else replaced

/-- The **effect** of applying a declared workload: what is reported, and what is stored under
which key, if anything. -/
def effect (plan : Plan) (owner : Metadata) (inNamespace : String) (c : Cluster)
    (declared : Workload) : Outcome × Option (WorkloadKey × Workload) :=
  match declared.key? inNamespace, plan.desired owner inNamespace declared with
  | none, _ => (.invalid "missing name", none)
  | some key, .ok (some desired) =>
    if c.readFaults.contains (key.kind, key.name) then
      (.failed .get (ClientError.refused key.kind key.name .unreadable).message, none)
    else
      let (outcome, stored) :=
        deed owner desired key (c.writeFaults.contains (key.kind, key.name)) (c.stored key)
      (outcome, stored.map (key, ·))
  | some _, _ => (.invalid "missing pod template", none)

variable {owner : Metadata} {inNamespace : String}

/-- A workload without a name is reported as such. -/
theorem effect_of_no_name (plan : Plan) (owner : Metadata) (c : Cluster) {w : Workload}
    (h : w.key? inNamespace = none) :
    plan.effect owner inNamespace c w = (.invalid "missing name", none) := by
  rw [effect, h]

/-- A workload without a pod template is reported as such. -/
theorem effect_of_no_template (plan : Plan) (owner : Metadata) (c : Cluster) {w : Workload}
    {key : WorkloadKey}
    (hkey : w.key? inNamespace = some key) (h : w.template? = none) :
    plan.effect owner inNamespace c w = (.invalid "missing pod template", none) := by
  rw [effect, hkey, desired_of_no_template h]

/-- The effect on a workload with a name and a pod template, from its desired object. -/
theorem effect_of_desired {plan : Plan} {w desired : Workload} {key : WorkloadKey} (c : Cluster)
    (hkey : w.key? inNamespace = some key)
    (hdesired : plan.desired owner inNamespace w = .ok (some desired)) :
    plan.effect owner inNamespace c w =
      if (key.kind, key.name) ∈ c.readFaults then
        (.failed .get (ClientError.refused key.kind key.name .unreadable).message, none)
      else
        ((deed owner desired key ((key.kind, key.name) ∈ c.writeFaults) (c.stored key)).1,
          (deed owner desired key ((key.kind, key.name) ∈ c.writeFaults) (c.stored key)).2.map
            (key, ·)) := by
  rw [effect, hkey, hdesired]
  simp only [List.contains_eq_mem, decide_eq_true_eq]

/-- **A deed** stores the desired object under the next version, which is no failure, or nothing:
because the workload could not be applied, or because what is stored is in sync. -/
theorem deed_cases (owner : Metadata) (desired : Workload) (key : WorkloadKey) (isRejected : Bool)
    (found : Option Workload) :
    (∃ outcome, outcome.isFailure = false ∧ deed owner desired key isRejected found =
        (outcome, some (Cluster.stamp key.inNamespace (Cluster.versionAfter found) desired))) ∨
      ∃ outcome, deed owner desired key isRejected found = (outcome, none) ∧
        (outcome.isFailure = true ∨ outcome = .unchanged ∧ ∃ current, found = some current ∧
          inSync current desired = true) := by
  cases found with
  | none =>
      cases isRejected with
      | true => exact .inr ⟨_, rfl, .inl rfl⟩
      | false => exact .inl ⟨_, rfl, rfl⟩
  | some current =>
      cases howner : current.metadata.ownership owner with
      | foreign other => exact .inr ⟨.inUse other, by simp only [deed, howner], .inl rfl⟩
      | unclaimed =>
          simp only [deed, howner]
          cases isRejected with
          | true => exact .inr ⟨_, rfl, .inl rfl⟩
          | false => exact .inl ⟨_, rfl, rfl⟩
      | owned =>
          simp only [deed, howner]
          split
          · next hsync => exact .inr ⟨_, rfl, .inr ⟨rfl, current, rfl, hsync⟩⟩
          · cases isRejected with
            | true => exact .inr ⟨_, rfl, .inl rfl⟩
            | false => exact .inl ⟨_, rfl, rfl⟩

/-- **What applying one workload comes to**: its desired object is stored under its key and the next
version, which is no failure, or nothing is stored, because the workload could not be applied or is
in sync. -/
theorem effect_cases (plan : Plan) (owner : Metadata) (inNamespace : String) (c : Cluster)
    (w : Workload) :
    (∃ key desired outcome, w.key? inNamespace = some key ∧
        plan.desired owner inNamespace w = .ok (some desired) ∧ outcome.isFailure = false ∧
        plan.effect owner inNamespace c w = (outcome, some (key,
          Cluster.stamp key.inNamespace (Cluster.versionAfter (c.stored key)) desired))) ∨
      ∃ outcome, plan.effect owner inNamespace c w = (outcome, none) ∧
        (outcome.isFailure = true ∨ outcome = .unchanged ∧ ∃ key desired current,
          w.key? inNamespace = some key ∧ plan.desired owner inNamespace w = .ok (some desired) ∧
          c.stored key = some current ∧ inSync current desired = true) := by
  cases hkey : w.key? inNamespace with
  | none => exact .inr ⟨_, effect_of_no_name plan owner c hkey, .inl rfl⟩
  | some key =>
      cases hdesired : plan.desired owner inNamespace w with
      | error error => exact .inr ⟨_, by rw [effect, hkey, hdesired], .inl rfl⟩
      | ok result =>
          cases result with
          | none => exact .inr ⟨_, by rw [effect, hkey, hdesired], .inl rfl⟩
          | some desired =>
              rw [effect_of_desired c hkey hdesired]
              split
              · exact .inr ⟨_, rfl, .inl rfl⟩
              · rcases deed_cases owner desired key ((key.kind, key.name) ∈ c.writeFaults)
                  (c.stored key) with
                  ⟨outcome, hsuccess, hdeed⟩ | ⟨outcome, hdeed, hreason⟩
                · refine .inl ⟨key, desired, outcome, rfl, rfl, hsuccess, ?_⟩
                  rw [hdeed]
                  rfl
                · refine .inr ⟨outcome, by rw [hdeed]; rfl, hreason.imp_right ?_⟩
                  rintro ⟨hunchanged, current, hcurrent, hsync⟩
                  exact ⟨hunchanged, key, desired, current, rfl, rfl, hcurrent, hsync⟩

/-- A creation of what is not stored succeeds or is rejected. -/
theorem answer_create {c : Cluster} {desired : Workload} {name : String}
    (hname : desired.name = some name)
    (hstored : c.stored ⟨desired.kind, inNamespace, name⟩ = none) :
    c.answer (create inNamespace desired) =
      if (desired.kind, name) ∈ c.writeFaults then
        (.failed .create (ClientError.refused desired.kind name .rejected).message, c)
      else
        (.created, c.keep ⟨desired.kind, inNamespace, name⟩
          (Cluster.stamp inNamespace 1 desired)) := by
  rw [Cluster.answer, create, Dialogue.answer, Cluster.respond]
  by_cases hfault : (desired.kind, name) ∈ c.writeFaults
  · rw [if_pos hfault, Cluster.write_of_fault hname hfault]
    rfl
  · rw [if_neg hfault, Cluster.write_of_nextVersion hname hfault (by rw [hstored]; rfl)]
    rfl

/-- A replacement that carries the stored version succeeds or is rejected. -/
theorem answer_replace {c : Cluster} {desired current : Workload} {name : String}
    (hname : desired.name = some name)
    (hstored : c.stored ⟨desired.kind, inNamespace, name⟩ = some current) :
    c.answer (replace inNamespace (carryVersion current desired)) =
      if (desired.kind, name) ∈ c.writeFaults then
        (.failed .update (ClientError.refused desired.kind name .rejected).message, c)
      else
        (.updated, c.keep ⟨desired.kind, inNamespace, name⟩
          (Cluster.stamp inNamespace (Cluster.versionNumber current + 1) desired)) := by
  have hname' : (carryVersion current desired).name = some name := hname
  have hkind : (carryVersion current desired).kind = desired.kind := rfl
  have hnext : Cluster.nextVersion
      (c.stored ⟨(carryVersion current desired).kind, inNamespace, name⟩)
      (carryVersion current desired) false = .ok (Cluster.versionNumber current + 1) := by
    rw [hkind, hstored]
    exact if_pos rfl
  rw [Cluster.answer, replace, Dialogue.answer, Cluster.respond]
  by_cases hfault : (desired.kind, name) ∈ c.writeFaults
  · rw [if_pos hfault, Cluster.write_of_fault hname' hfault]
    rfl
  · rw [if_neg hfault, Cluster.write_of_nextVersion hname' hfault hnext]
    rfl

/-- Bringing the stored object to the desired one is the deed. -/
theorem answer_settle (owner : Metadata) (inNamespace : String) (c : Cluster)
    {desired : Workload} {name : String} (hname : desired.name = some name) :
    c.answer (settle owner inNamespace desired (c.stored ⟨desired.kind, inNamespace, name⟩)) =
      ((deed owner desired ⟨desired.kind, inNamespace, name⟩
          ((desired.kind, name) ∈ c.writeFaults)
          (c.stored ⟨desired.kind, inNamespace, name⟩)).1,
        c.keepAll (((deed owner desired ⟨desired.kind, inNamespace, name⟩
          ((desired.kind, name) ∈ c.writeFaults)
          (c.stored ⟨desired.kind, inNamespace, name⟩)).2.map
            ((⟨desired.kind, inNamespace, name⟩ : WorkloadKey), ·)).toList)) := by
  cases hstored : c.stored ⟨desired.kind, inNamespace, name⟩ with
  | none =>
      rw [settle, answer_create hname hstored, deed]
      by_cases hfault : (desired.kind, name) ∈ c.writeFaults <;> simp [hfault, Cluster.keepAll_cons]
  | some current =>
      rw [settle, deed]
      cases current.metadata.ownership owner with
      | foreign other => rfl
      | unclaimed =>
          dsimp only
          rw [answer_replace hname hstored]
          by_cases hfault : (desired.kind, name) ∈ c.writeFaults <;>
            simp [hfault, Cluster.keepAll_cons]
      | owned =>
          dsimp only
          split
          · rfl
          · rw [answer_replace hname hstored]
            by_cases hfault : (desired.kind, name) ∈ c.writeFaults <;>
              simp [hfault, Cluster.keepAll_cons]

/-- **How a declared workload is applied**, if the resource can own it: one without a name or a pod
template is invalid, and any other one is looked up and brought to its desired object. -/
theorem apply_cases (plan : Plan) (inNamespace : String) (declared : Workload)
    {reference : OwnerReference} (hreference : owner.controllerReference? = some reference) :
    (∃ reason, plan.apply owner inNamespace declared = .done (.ok (.invalid reason)) ∧
        ∀ c, plan.effect owner inNamespace c declared = (.invalid reason, none)) ∨
      ∃ name desired, desired.name = some name ∧
        declared.key? inNamespace = some ⟨desired.kind, inNamespace, name⟩ ∧
        plan.desired owner inNamespace declared = .ok (some desired) ∧
        ∃ next,
          plan.apply owner inNamespace declared = .ask (.get desired.kind inNamespace name) next ∧
          (∀ error, next (.error error) = .done (.ok (.failed .get error.message))) ∧
          ∀ current, next (.ok current) =
            (settle owner inNamespace desired current).bind fun outcome => .done (.ok outcome) := by
  cases hname : declared.name with
  | none =>
      have hkey : declared.key? inNamespace = none := by
        rw [Workload.key?, hname, Option.map_none]
      exact .inl ⟨_, by rw [apply, hname], fun c => effect_of_no_name plan owner c hkey⟩
  | some name =>
      have hkey : declared.key? inNamespace = some ⟨declared.kind, inNamespace, name⟩ := by
        rw [Workload.key?, hname, Option.map_some]
      cases htemplate : declared.template? with
      | none =>
          exact .inl ⟨_, by rw [apply, hname, desired_of_no_template htemplate],
            fun c => effect_of_no_template plan owner c hkey htemplate⟩
      | some template =>
          obtain ⟨desired, hdesired, hderived⟩ :=
            exists_desired plan inNamespace htemplate hreference
          refine .inr ⟨name, desired, hderived.name.trans hname, ?_, hdesired, ?_⟩
          · rw [hkey, hderived.kind]
          · rw [apply, hname, hdesired, hderived.kind]
            exact ⟨_, rfl, fun error => rfl, fun current => rfl⟩

/-- **Applying one declared workload** has its effect, if the resource can own it. -/
theorem answer_apply (plan : Plan) (inNamespace : String) (c : Cluster) (declared : Workload)
    {reference : OwnerReference} (hreference : owner.controllerReference? = some reference) :
    c.answer (plan.apply owner inNamespace declared) =
      (.ok (plan.effect owner inNamespace c declared).1,
        c.keepAll (plan.effect owner inNamespace c declared).2.toList) := by
  rcases apply_cases plan inNamespace declared hreference with
    ⟨reason, happly, heffect⟩ |
    ⟨name, desired, hname, hkey, hdesired, next, happly, hfailed, hfound⟩
  · rw [happly, heffect]
    rfl
  · rw [happly, effect_of_desired c hkey hdesired, Cluster.answer_ask, Cluster.respond,
      Cluster.read]
    by_cases hfault : (desired.kind, name) ∈ c.readFaults
    · rw [if_pos hfault, if_pos hfault, hfailed]
      rfl
    · rw [if_neg hfault, if_neg hfault, hfound, Cluster.answer_bind,
        answer_settle owner inNamespace c hname]
      rfl

/-! ### All workloads -/

variable {plan : Plan} {c : Cluster}

/-- What is stored for a workload is stored under its own key. -/
theorem key_of_effect {declared : Workload} {entry : WorkloadKey × Workload}
    (h : (plan.effect owner inNamespace c declared).2 = some entry) :
    declared.key? inNamespace = some entry.1 := by
  rcases plan.effect_cases owner inNamespace c declared with
    ⟨key, desired, outcome, hkey, -, -, heffect⟩ | ⟨outcome, heffect, -⟩
  · rw [heffect] at h
    obtain rfl := Option.some.inj h
    exact hkey
  · rw [heffect] at h
    cases h

/-- The effect depends on what the cluster holds under the key of the workload only. -/
theorem effect_congr {c' : Cluster} {declared : Workload}
    (h : ∀ key, declared.key? inNamespace = some key → c.AgreesOn c' key) :
    plan.effect owner inNamespace c declared = plan.effect owner inNamespace c' declared := by
  rw [effect, effect]
  cases hkey : declared.key? inNamespace with
  | none => rfl
  | some key =>
      rcases plan.desired owner inNamespace declared with error | (_ | desired)
      · rfl
      · rfl
      · have hagrees := h key hkey
        simp only [List.contains_eq_mem, hagrees.stored, hagrees.readFault, hagrees.writeFault]

/-- What applying declared workloads stores. -/
def effects (plan : Plan) (owner : Metadata) (inNamespace : String) (c : Cluster)
    (declared : List Workload) : List (WorkloadKey × Workload) :=
  declared.filterMap fun w => (plan.effect owner inNamespace c w).2

/-- The report on a declared workload. -/
def report (plan : Plan) (owner : Metadata) (inNamespace : String) (c : Cluster)
    (declared : Workload) : Report :=
  ⟨declared.kind, declared.metadata.displayName, (plan.effect owner inNamespace c declared).1⟩

/-- **Applying workloads with distinct keys** has the effects of all of them, each as if it were
the only one. -/
theorem answer_applyAll {declared : List Workload} {reference : OwnerReference}
    (hreference : owner.controllerReference? = some reference)
    (hdistinct : (declared.filterMap (·.key? inNamespace)).Nodup) :
    c.answer (plan.applyAll owner inNamespace declared) =
      (.ok (declared.map (plan.report owner inNamespace c)),
        c.keepAll (plan.effects owner inNamespace c declared)) := by
  induction declared generalizing c with
  | nil => rfl
  | cons head rest ih =>
      set next := c.keepAll (plan.effect owner inNamespace c head).2.toList with hnext
      have hrest : (rest.filterMap (·.key? inNamespace)).Nodup :=
        hdistinct.sublist ((List.sublist_cons_self head rest).filterMap _)
      have hsame : ∀ w ∈ rest, plan.effect owner inNamespace next w =
          plan.effect owner inNamespace c w := by
        intro w hw
        refine effect_congr fun key hkey => .of_keepAll fun hmem => ?_
        obtain ⟨entry, hentry, rfl⟩ := List.mem_map.mp hmem
        exact Workload.key_ne_of_nodup hdistinct hw hkey
          (key_of_effect (Option.mem_toList.mp hentry))
      have hreports : rest.map (plan.report owner inNamespace next) =
          rest.map (plan.report owner inNamespace c) :=
        List.map_congr_left fun w hw => by rw [report, report, hsame w hw]
      have heffects : plan.effects owner inNamespace next rest =
          plan.effects owner inNamespace c rest :=
        List.filterMap_congr fun w hw => by rw [hsame w hw]
      have hcons : plan.effects owner inNamespace c (head :: rest) =
          (plan.effect owner inNamespace c head).2.toList ++
            plan.effects owner inNamespace c rest := by
        cases h : (plan.effect owner inNamespace c head).2 <;> simp [effects, h]
      have happly := plan.answer_apply inNamespace c head hreference
      have hall := ih (c := next) hrest
      rw [hreports, heffects] at hall
      simp only [applyAll, Cluster.answer_bind, happly, ← hnext, hall]
      rw [hcons, Cluster.keepAll_append]
      rfl

/-- What is stored under the key of a workload after all effects. -/
theorem stored_effects {declared : List Workload}
    (hdistinct : (declared.filterMap (·.key? inNamespace)).Nodup) {w : Workload}
    (hw : w ∈ declared) {key : WorkloadKey} (hkey : w.key? inNamespace = some key) :
    (c.keepAll (plan.effects owner inNamespace c declared)).stored key =
      ((plan.effect owner inNamespace c w).2.map Prod.snd).or (c.stored key) :=
  c.stored_keepAll_filterMap (fun _ _ h => key_of_effect h) hdistinct hw hkey

end Plan

end GeoPlacement
