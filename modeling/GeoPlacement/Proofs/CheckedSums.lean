import GeoPlacement.Proofs.Succession

/-!
# Passes in which sums are checked

A version is the one before it and one, so there is none after the last number of 64 bits. Where
sums wrap around, the next version is zero and a pass goes on. Where sums are checked, the pass
stops there, and nothing is reported of it.

Up to such a stop the two are the same. `Cluster.Completes` says of a dialogue what it comes to in
both cases: a pass stops iff one of its workloads, when its turn comes, is replaced under the last
version (`Plan.checkedAnswer_applyAll_iff`). That cannot be where every stored version may be
followed by as many others as the pass may ask for: one for each declaration, or just one if no key
is declared twice.

## Main results

* `Plan.checkedAnswer_apply`: when one declared workload stops a pass.
* `Plan.checkedAnswer_applyAll_iff`: when a pass is stopped.
* `Plan.isInRange_of_versionsAtMost`: a pass with room for all declarations is not stopped.
* `Plan.isInRange_iff_of_nodup`: a pass without repeated keys, judged by the versions at its start.
-/

namespace GeoPlacement

/-! ### Dialogues -/

namespace Cluster

variable {α β : Type} {c : Cluster}

/-- A single question is stopped or has the answer that it has where sums wrap around. -/
theorem checkedAnswer_ask_of_done {request : Request} {next : request.Reply → ClusterDialogue α}
    (h : ∀ reply, ∃ value, next reply = .done value) :
    c.checkedAnswer (.ask request next) =
      if c.wrapsAround request = true then none else some (c.answer (.ask request next)) := by
  obtain ⟨value, hvalue⟩ := h (c.respond request).1
  rw [checkedAnswer_ask, answer_ask, hvalue]
  rfl

/-- Whether a dialogue **completes** against a cluster, with a value and another cluster that it
leaves behind. It does where sums wrap around. Where they are checked it does so iff it is in range,
and is stopped if it is not. -/
structure Completes (c : Cluster) (d : ClusterDialogue α) (isInRange : Prop) (value : α)
    (after : Cluster) : Prop where
  answer : c.answer d = (value, after)
  checkedAnswer_iff : c.checkedAnswer d = some (value, after) ↔ isInRange
  checkedAnswer_eq_none : ¬ isInRange → c.checkedAnswer d = none

variable {d : ClusterDialogue α} {isInRange : Prop} {value : α} {after : Cluster}

/-- What comes to a value where sums wrap around completes if it is known when it is not stopped. -/
theorem completes_of_answer (hanswer : c.answer d = (value, after))
    (hrange : c.checkedAnswer d = some (c.answer d) ↔ isInRange) :
    c.Completes d isInRange value after where
  answer := hanswer
  checkedAnswer_iff := hanswer ▸ hrange
  checkedAnswer_eq_none hnot := (c.checkedAnswer_eq_none_or d).resolve_right (mt hrange.mp hnot)

/-- What is made of the value of a dialogue does not stop it. -/
theorem Completes.map (h : c.Completes d isInRange value after) (f : α → β) :
    c.Completes (d.bind fun value => .done (f value)) isInRange (f value) after := by
  have hanswer : c.answer (d.bind fun value => .done (f value)) = (f value, after) := by
    rw [answer_bind, h.answer]
    rfl
  refine completes_of_answer hanswer ?_
  rw [hanswer, checkedAnswer_bind]
  by_cases hrange : isInRange
  · rw [h.checkedAnswer_iff.mpr hrange]
    exact iff_of_true rfl hrange
  · rw [h.checkedAnswer_eq_none hrange]
    exact iff_of_false (fun hnone => by cases hnone) hrange

end Cluster

/-! ### One workload -/

namespace Plan

variable {owner : Metadata} {inNamespace : String} {c : Cluster}

/-- **Whether applying a declared workload overruns** the versions: it stores something, and under
the version after the last one. -/
def Overruns (plan : Plan) (owner : Metadata) (inNamespace : String) (c : Cluster)
    (w : Workload) : Prop :=
  ∃ entry, (plan.effect owner inNamespace c w).2 = some entry ∧
    Cluster.versionAfter (c.stored entry.1) = 0

instance (plan : Plan) (owner : Metadata) (inNamespace : String) (c : Cluster) (w : Workload) :
    Decidable (plan.Overruns owner inNamespace c w) :=
  decidable_of_iff (((plan.effect owner inNamespace c w).2.any fun entry =>
    Cluster.versionAfter (c.stored entry.1) == 0) = true) (by simp [Overruns, Option.any_eq_true])

/-- A creation is not stopped. -/
theorem checkedAnswer_create (object : Workload) :
    c.checkedAnswer (create inNamespace object) = some (c.answer (create inNamespace object)) := by
  rw [create, Cluster.checkedAnswer_ask_of_done fun reply => by cases reply <;> exact ⟨_, rfl⟩]
  rfl

/-- A replacement that carries the stored version is stopped iff it is not rejected and the version
is the last one. -/
theorem checkedAnswer_replace {desired current : Workload} {name : String}
    (hname : desired.name = some name)
    (hstored : c.stored ⟨desired.kind, inNamespace, name⟩ = some current) :
    c.checkedAnswer (replace inNamespace (carryVersion current desired)) =
      if (desired.kind, name) ∉ c.writeFaults ∧ Cluster.versionNumber current + 1 = 0 then none
      else some (c.answer (replace inNamespace (carryVersion current desired))) := by
  have hwraps : c.wrapsAround (.replace inNamespace (carryVersion current desired)) = true ↔
      (desired.kind, name) ∉ c.writeFaults ∧ Cluster.versionNumber current + 1 = 0 := by
    have hname' : (carryVersion current desired).name = some name := hname
    have hkind : (carryVersion current desired).kind = desired.kind := rfl
    have hversion : (carryVersion current desired).metadata.resourceVersion =
      current.metadata.resourceVersion := rfl
    simp [Cluster.wrapsAround, hname', hkind, hversion, hstored]
  rw [replace, Cluster.checkedAnswer_ask_of_done fun reply => by cases reply <;> exact ⟨_, rfl⟩]
  simp only [hwraps]

/-- Bringing the stored object to the desired one is stopped iff the deed stores something under the
version after the last one. -/
theorem checkedAnswer_settle (owner : Metadata) (inNamespace : String) (c : Cluster)
    {desired : Workload} {name : String} (hname : desired.name = some name) :
    c.checkedAnswer
        (settle owner inNamespace desired (c.stored ⟨desired.kind, inNamespace, name⟩)) =
      if (deed owner desired ⟨desired.kind, inNamespace, name⟩
            ((desired.kind, name) ∈ c.writeFaults)
            (c.stored ⟨desired.kind, inNamespace, name⟩)).2 ≠ none ∧
          Cluster.versionAfter (c.stored ⟨desired.kind, inNamespace, name⟩) = 0 then none
      else some (c.answer
        (settle owner inNamespace desired (c.stored ⟨desired.kind, inNamespace, name⟩))) := by
  cases hstored : c.stored ⟨desired.kind, inNamespace, name⟩ with
  | none => rw [settle, checkedAnswer_create, if_neg fun h => absurd h.2 (by decide)]
  | some current =>
      have hreplace := checkedAnswer_replace hname hstored
      rw [settle, deed, Cluster.versionAfter, Option.elim_some]
      cases current.metadata.ownership owner with
      | foreign other => exact (if_neg fun h => h.1 rfl).symm
      | unclaimed =>
          dsimp only
          rw [hreplace]
          by_cases hfault : (desired.kind, name) ∈ c.writeFaults <;> simp [hfault]
      | owned =>
          dsimp only
          split
          · exact (if_neg fun h => h.1 rfl).symm
          · rw [hreplace]
            by_cases hfault : (desired.kind, name) ∈ c.writeFaults <;> simp [hfault]

/-- What stores nothing does not overrun the versions. -/
theorem not_overruns_of_eq_none {plan : Plan} {w : Workload}
    (h : (plan.effect owner inNamespace c w).2 = none) : ¬ plan.Overruns owner inNamespace c w := by
  rintro ⟨entry, hentry, -⟩
  rw [h] at hentry
  cases hentry

/-- **Applying one declared workload** is stopped iff it overruns the versions. -/
theorem checkedAnswer_apply (plan : Plan) (inNamespace : String) (c : Cluster) (declared : Workload)
    {reference : OwnerReference} (hreference : owner.controllerReference? = some reference) :
    c.checkedAnswer (plan.apply owner inNamespace declared) =
      if plan.Overruns owner inNamespace c declared then none
      else some (c.answer (plan.apply owner inNamespace declared)) := by
  rcases apply_cases plan inNamespace declared hreference with
    ⟨reason, happly, heffect⟩ |
    ⟨name, desired, hname, hkey, hdesired, next, happly, hfailed, hfound⟩
  · rw [if_neg (not_overruns_of_eq_none (congrArg Prod.snd (heffect c))), happly]
    rfl
  · have heffect := effect_of_desired c hkey hdesired
    have hasked : ∀ inNamespace name, c.wrapsAround (.get desired.kind inNamespace name) = false :=
      fun _ _ => rfl
    rw [happly, Cluster.checkedAnswer_ask, Cluster.answer_ask, hasked, Cluster.respond,
      Cluster.read]
    by_cases hfault : (desired.kind, name) ∈ c.readFaults
    · rw [if_pos hfault] at heffect ⊢
      rw [if_neg (not_overruns_of_eq_none (congrArg Prod.snd heffect)), hfailed]
      rfl
    · rw [if_neg hfault] at heffect ⊢
      have hoverruns : plan.Overruns owner inNamespace c declared ↔
          (deed owner desired ⟨desired.kind, inNamespace, name⟩
              ((desired.kind, name) ∈ c.writeFaults)
              (c.stored ⟨desired.kind, inNamespace, name⟩)).2 ≠ none ∧
            Cluster.versionAfter (c.stored ⟨desired.kind, inNamespace, name⟩) = 0 := by
        rw [Overruns, heffect]
        simp [Option.ne_none_iff_exists']
      simp only [hoverruns, hfound, Cluster.checkedAnswer_bind, Cluster.answer_bind,
        checkedAnswer_settle owner inNamespace c hname, Bool.false_eq_true, if_false]
      split <;> rfl

/-! ### All workloads -/

/-- **Whether a pass is in range**: no declared workload overruns the versions when its turn
comes. -/
def IsInRange (plan : Plan) (owner : Metadata) (inNamespace : String) :
    Cluster → List Workload → Prop
  | _, [] => True
  | c, w :: rest => ¬ plan.Overruns owner inNamespace c w ∧
      IsInRange plan owner inNamespace (plan.afterOne owner inNamespace c w) rest

variable {plan : Plan} {declared : List Workload}

/-- **Applying declared workloads** has the result that it has where sums wrap around iff the pass
is in range. -/
theorem checkedAnswer_applyAll_iff {reference : OwnerReference}
    (hreference : owner.controllerReference? = some reference) :
    c.checkedAnswer (plan.applyAll owner inNamespace declared) =
        some (c.answer (plan.applyAll owner inNamespace declared)) ↔
      plan.IsInRange owner inNamespace c declared := by
  induction declared generalizing c with
  | nil => exact iff_of_true rfl trivial
  | cons w rest ih =>
      have hchecked := plan.checkedAnswer_apply inNamespace c w hreference
      have hanswer : c.answer (plan.apply owner inNamespace w) =
          (.ok (plan.effect owner inNamespace c w).1, plan.afterOne owner inNamespace c w) :=
        plan.answer_apply inNamespace c w hreference
      rw [applyAll, Cluster.checkedAnswer_bind, hchecked, Cluster.answer_bind, hanswer, IsInRange]
      by_cases hoverruns : plan.Overruns owner inNamespace c w
      · rw [if_pos hoverruns]
        exact iff_of_false (fun h => by cases h) fun h => h.1 hoverruns
      · rw [if_neg hoverruns, Option.bind_some, ← ih]
        dsimp only
        rw [Cluster.checkedAnswer_bind, Cluster.answer_bind]
        rcases Cluster.checkedAnswer_eq_none_or (plan.afterOne owner inNamespace c w)
          (plan.applyAll owner inNamespace rest) with hstopped | hsame
        · rw [hstopped]
          exact iff_of_false (fun h => by cases h) fun h => by cases h.2
        · rw [hsame]
          exact iff_of_true rfl ⟨hoverruns, rfl⟩

/-- **A pass completes** with what it comes to where sums wrap around. -/
theorem completes_execute {plan : Plan} {object : SelectiveDeployment} {reference : OwnerReference}
    {value : Except PlanError (List Report)} {after : Cluster}
    (hnamespace : object.inNamespace = some inNamespace)
    (hreference : object.metadata.controllerReference? = some reference)
    (hanswer : c.answer (plan.execute object) = (value, after)) :
    c.Completes (plan.execute object)
      (plan.IsInRange object.metadata inNamespace c object.spec.controllers.declared) value
      after := by
  refine Cluster.completes_of_answer hanswer ?_
  rw [execute, hnamespace]
  exact checkedAnswer_applyAll_iff hreference

/-! ### Room -/

/-- What is stored for a workload has the next version under its key. -/
theorem versionNumber_of_effect {w : Workload} {entry : WorkloadKey × Workload}
    (h : (plan.effect owner inNamespace c w).2 = some entry) :
    Cluster.versionNumber entry.2 = Cluster.versionAfter (c.stored entry.1) := by
  rcases plan.effect_cases owner inNamespace c w with
    ⟨key, desired, outcome, -, -, -, heffect⟩ | ⟨outcome, heffect, -⟩
  · rw [heffect] at h
    obtain rfl := Option.some.inj h
    exact Cluster.versionNumber_stamp ..
  · rw [heffect] at h
    cases h

/-- Applying a workload raises the stored versions by one at most. -/
theorem versionsAtMost_afterOne {bound : Nat} (h : c.VersionsAtMost bound)
    (hbound : bound + 1 < UInt64.size) (w : Workload) :
    (plan.afterOne owner inNamespace c w).VersionsAtMost (bound + 1) := by
  rw [afterOne]
  cases heffect : (plan.effect owner inNamespace c w).2 with
  | none => exact h.mono (Nat.le_succ bound)
  | some entry => exact h.keep hbound (versionNumber_of_effect heffect)

/-- A workload for which there is room does not overrun the versions. -/
theorem not_overruns_of_hasRoom (h : c.HasRoom) (w : Workload) :
    ¬ plan.Overruns owner inNamespace c w := by
  rintro ⟨entry, -, hzero⟩
  exact h.versionAfter_ne_zero entry.1 hzero

/-- **With room for all declarations** a pass is in range. -/
theorem isInRange_of_versionsAtMost {bound : Nat} (h : c.VersionsAtMost bound)
    (hbound : bound + declared.length < UInt64.size) :
    plan.IsInRange owner inNamespace c declared := by
  induction declared generalizing c bound with
  | nil => trivial
  | cons w rest ih =>
      rw [List.length_cons] at hbound
      exact ⟨not_overruns_of_hasRoom (h.hasRoom (by omega)) w,
        ih (versionsAtMost_afterOne h (by omega) w) (by omega)⟩

/-- Whether a workload overruns the versions depends on its key only. -/
theorem overruns_congr {c' : Cluster} {w : Workload}
    (h : ∀ key, w.key? inNamespace = some key → c.AgreesOn c' key) :
    plan.Overruns owner inNamespace c w ↔ plan.Overruns owner inNamespace c' w := by
  rw [Overruns, Overruns, effect_congr h]
  refine exists_congr fun entry => and_congr_right fun hentry => ?_
  rw [(h entry.1 (key_of_effect hentry)).stored]

/-- **A pass without repeated keys** is in range iff none of its workloads overruns the versions
that are stored at the start. -/
theorem isInRange_iff_of_nodup (hdistinct : (declared.filterMap (·.key? inNamespace)).Nodup) :
    plan.IsInRange owner inNamespace c declared ↔
      ∀ w ∈ declared, ¬ plan.Overruns owner inNamespace c w := by
  induction declared generalizing c with
  | nil => simp [IsInRange]
  | cons head rest ih =>
      have hrest : (rest.filterMap (·.key? inNamespace)).Nodup :=
        hdistinct.sublist ((List.sublist_cons_self head rest).filterMap _)
      have hsame : ∀ w ∈ rest, plan.Overruns owner inNamespace
          (plan.afterOne owner inNamespace c head) w ↔ plan.Overruns owner inNamespace c w :=
        fun w hw => overruns_congr fun key hkey =>
          agreesOn_afterOne (Workload.key_ne_of_nodup hdistinct hw hkey)
      rw [IsInRange, ih hrest, List.forall_mem_cons]
      exact and_congr_right fun _ => forall₂_congr fun w hw => not_congr (hsame w hw)

end Plan

end GeoPlacement
