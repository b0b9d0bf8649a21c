import GeoPlacement.Proofs.Retries
import GeoPlacement.Proofs.RoundTrip

/-!
# All or nothing

A plan fails as a whole for two reasons only: the resource has no namespace, or it lacks what it
takes to own a workload. The second one comes to light at a declared workload with a name and a pod
template, before anything is asked about it. Workloads ahead of that one lack the name or the
template, so that nothing was asked about them either. A plan that fails therefore leaves everything
as it was, and one that does not fail reports on every declared workload.

Who answers is left open, as it is for transcripts: objects may come and go between two requests,
and any of them may fail.

## Main results

* `Plan.applyAll_of_no_reference`: what becomes of the workloads of a resource that cannot own.
* `Plan.map_of_applyAll`: there is one report for each declared workload, in order.
* `Plan.reportsOrRests`: when a plan fails, and what it leaves behind.
* `all_or_nothing`: so do whole passes, with their status and the counts of failures.
-/

namespace GeoPlacement

/-- What a mapped result holds was made of a result. -/
theorem exists_of_map_eq_ok {ε α β : Type} {f : α → β} {x : Except ε α} {b : β}
    (h : x.map f = .ok b) : ∃ a, x = .ok a ∧ f a = b := by
  cases x with
  | error e => cases h
  | ok a => exact ⟨a, rfl, Except.ok.inj h⟩

/-- Whether a declared workload is **complete**: requests are made about complete ones only. -/
def Workload.isComplete (w : Workload) : Bool :=
  w.name.isSome && w.template?.isSome

/-- A resource can be referred to iff it has a name and an identifier. -/
theorem Metadata.controllerReference?_eq_none_iff {owner : Metadata} :
    owner.controllerReference? = none ↔ owner.name = none ∨ owner.uid = none := by
  rw [controllerReference?]
  cases owner.name <;> cases owner.uid <;> simp

namespace Plan

variable {owner : Metadata} {inNamespace : String} {declared : List Workload}

/-! ### Resources that cannot own -/

section NoReference

variable (hreference : owner.controllerReference? = none)

include hreference

/-- Nothing is asked about a workload where its resource cannot be referred to: the plan fails if
the workload is complete, and otherwise the workload is invalid. -/
theorem apply_of_no_reference (plan : Plan) (inNamespace : String) (w : Workload) :
    (w.isComplete = true ∧ plan.apply owner inNamespace w = .done (.error .missingOwner)) ∨
      (w.isComplete = false ∧
        ∃ reason, plan.apply owner inNamespace w = .done (.ok (.invalid reason))) := by
  rw [apply]
  cases hname : w.name with
  | none => exact .inr ⟨by simp [Workload.isComplete, hname], _, rfl⟩
  | some name =>
      cases htemplate : w.template? with
      | none =>
          rw [desired_of_no_template htemplate]
          exact .inr ⟨by simp [Workload.isComplete, htemplate], _, rfl⟩
      | some template =>
          rw [desired_of_no_reference plan inNamespace htemplate hreference]
          exact .inl ⟨by simp [Workload.isComplete, hname, htemplate], rfl⟩

/-- **Nothing is asked about any workload** where their resource cannot be referred to: the plan
fails if one of them is complete, and otherwise all of them are reported as failures. -/
theorem applyAll_of_no_reference (plan : Plan) (inNamespace : String) (declared : List Workload) :
    (declared.any Workload.isComplete = true ∧
        plan.applyAll owner inNamespace declared = .done (.error .missingOwner)) ∨
      (declared.any Workload.isComplete = false ∧
        ∃ reports, plan.applyAll owner inNamespace declared = .done (.ok reports) ∧
          ∀ r ∈ reports, r.outcome.isFailure = true) := by
  induction declared with
  | nil => exact .inr ⟨rfl, [], rfl, fun r hr => absurd hr List.not_mem_nil⟩
  | cons head rest ih =>
      rw [applyAll, List.any_cons]
      rcases apply_of_no_reference hreference plan inNamespace head with
        ⟨hcomplete, hhead⟩ | ⟨hcomplete, reason, hhead⟩
      · rw [hhead, hcomplete]
        exact .inl ⟨rfl, rfl⟩
      · rw [hhead, hcomplete, Bool.false_or, Dialogue.bind_done]
        rcases ih with ⟨hany, hrest⟩ | ⟨hnone, reports, hrest, hfailures⟩
        · exact .inl ⟨hany, by simp only [hrest]; rfl⟩
        · refine .inr ⟨hnone, _ :: reports, by simp only [hrest]; rfl, ?_⟩
          exact List.forall_mem_cons.mpr ⟨rfl, hfailures⟩

end NoReference

/-! ### Reports -/

section Respondent

variable {σ : Type} (respond : (request : Request) → σ → request.Reply × σ) (s : σ)

/-- **There is one report for each declared workload**, in order, whatever is answered. -/
theorem map_of_applyAll {plan : Plan} {reports : List Report}
    (h : ((plan.applyAll owner inNamespace declared).answer respond s).1 = .ok reports) :
    reports.map (fun r => (r.kind, r.name)) =
      declared.map fun w => (w.kind, w.metadata.displayName) := by
  induction declared generalizing s reports with
  | nil =>
      obtain rfl : [] = reports := Except.ok.inj h
      rfl
  | cons head rest ih =>
      rw [applyAll, Dialogue.answer_bind] at h
      cases hhead : ((plan.apply owner inNamespace head).answer respond s).1 with
      | error error =>
          rw [hhead] at h
          cases h
      | ok outcome =>
          rw [hhead, Dialogue.answer_bind] at h
          obtain ⟨others, hothers, rfl⟩ := exists_of_map_eq_ok h
          rw [List.map_cons, List.map_cons, ih _ hothers]

/-- A plan **reports or rests** when it is executed for a resource: it fails only for want of a
namespace, or of a name or an identifier where some declared workload is complete; it has asked
nothing then, and left everything as it was. Otherwise there is one report for each declared
workload, kind by kind and in the order of declaration within a kind. -/
structure ReportsOrRests (plan : Plan) (object : SelectiveDeployment) : Prop where
  missingNamespace_iff :
    ((plan.execute object).answer respond s).1 = .error .missingNamespace ↔
      object.inNamespace = none
  missingOwner_iff :
    ((plan.execute object).answer respond s).1 = .error .missingOwner ↔
      object.inNamespace ≠ none ∧ (object.metadata.name = none ∨ object.uid = none) ∧
        object.spec.controllers.declared.any Workload.isComplete = true
  rests : ∀ error, ((plan.execute object).answer respond s).1 = .error error →
    (plan.execute object).transcript respond s = [] ∧
      ((plan.execute object).answer respond s).2 = s
  subjects : ∀ reports, ((plan.execute object).answer respond s).1 = .ok reports →
    reports.map (fun r => (r.kind, r.name)) =
      Kind.all.flatMap fun kind =>
        (object.spec.controllers.ofKind kind).map fun w => (w.kind, w.metadata.displayName)
  kinds : ∀ reports, ((plan.execute object).answer respond s).1 = .ok reports →
    object.spec.controllers.IsGrouped →
      reports.map Report.kind =
        Kind.all.flatMap fun kind =>
          List.replicate (object.spec.controllers.ofKind kind).length kind

/-- What is reported when a plan is executed. -/
theorem map_of_execute {plan : Plan} {object : SelectiveDeployment} {reports : List Report}
    (h : ((plan.execute object).answer respond s).1 = .ok reports) :
    reports.map (fun r => (r.kind, r.name)) =
      object.spec.controllers.declared.map fun w => (w.kind, w.metadata.displayName) := by
  rw [execute] at h
  cases hnamespace : object.inNamespace with
  | none =>
      rw [hnamespace] at h
      cases h
  | some inNamespace =>
      rw [hnamespace] at h
      exact map_of_applyAll respond s h

/-- There are as many reports as declared workloads. -/
theorem length_of_execute {plan : Plan} {object : SelectiveDeployment} {reports : List Report}
    (h : ((plan.execute object).answer respond s).1 = .ok reports) :
    reports.length = object.spec.controllers.size := by
  have hlength := congrArg List.length (map_of_execute respond s h)
  rwa [List.length_map, List.length_map, Controllers.length_declared] at hlength

/-- A plan is executed in one of three ways: it is over at once for want of a namespace, or of what
it takes to own a complete workload, or it comes to reports. -/
theorem execute_cases (plan : Plan) (object : SelectiveDeployment) :
    (object.inNamespace = none ∧ plan.execute object = .done (.error .missingNamespace)) ∨
      ((object.inNamespace ≠ none ∧ (object.metadata.name = none ∨ object.uid = none) ∧
          object.spec.controllers.declared.any Workload.isComplete = true) ∧
        plan.execute object = .done (.error .missingOwner)) ∨
      ((object.inNamespace ≠ none ∧
          ¬ ((object.metadata.name = none ∨ object.uid = none) ∧
            object.spec.controllers.declared.any Workload.isComplete = true)) ∧
        ∃ reports, ((plan.execute object).answer respond s).1 = .ok reports) := by
  rw [execute]
  cases hnamespace : object.inNamespace with
  | none => exact .inl ⟨rfl, rfl⟩
  | some inNamespace =>
      refine .inr ?_
      have hsome : some inNamespace ≠ none := Option.some_ne_none _
      have hlacks : object.metadata.controllerReference? = none ↔
          object.metadata.name = none ∨ object.uid = none :=
        Metadata.controllerReference?_eq_none_iff
      rw [← hlacks]
      cases hreference : object.metadata.controllerReference? with
      | none =>
          rcases applyAll_of_no_reference hreference plan inNamespace
            object.spec.controllers.declared with ⟨hany, hfails⟩ | ⟨hnone, reports, hall, -⟩
          · exact .inl ⟨⟨hsome, rfl, hany⟩, hfails⟩
          · refine .inr ⟨⟨hsome, by simp [hnone]⟩, reports, ?_⟩
            simp only [hall]
            rfl
      | some reference =>
          obtain ⟨-, -, -, hreports⟩ := transcript_applyAll respond s hreference plan inNamespace
            object.spec.controllers.declared
          exact .inr ⟨⟨hsome, by simp⟩, hreports⟩

/-- **Every plan reports or rests**, whatever it is answered. -/
theorem reportsOrRests (plan : Plan) (object : SelectiveDeployment) :
    plan.ReportsOrRests respond s object where
  missingNamespace_iff := by
    rcases execute_cases respond s plan object with
      ⟨hnone, hdone⟩ | ⟨⟨hsome, -⟩, hdone⟩ | ⟨⟨hsome, -⟩, reports, hreports⟩
    · simp [hdone, hnone, Dialogue.answer]
    · simp [hdone, hsome, Dialogue.answer]
    · simp [hreports, hsome]
  missingOwner_iff := by
    rcases execute_cases respond s plan object with
      ⟨hnone, hdone⟩ | ⟨hlacks, hdone⟩ | ⟨⟨-, hnot⟩, reports, hreports⟩
    · simp [hdone, hnone, Dialogue.answer]
    · exact iff_of_true (by rw [hdone]; rfl) hlacks
    · exact iff_of_false (by simp [hreports]) fun h => hnot h.2
  rests error h := by
    rcases execute_cases respond s plan object with
      ⟨-, hdone⟩ | ⟨-, hdone⟩ | ⟨-, reports, hreports⟩
    · rw [hdone]
      exact ⟨rfl, rfl⟩
    · rw [hdone]
      exact ⟨rfl, rfl⟩
    · cases hreports.symm.trans h
  subjects reports h := by
    rw [map_of_execute respond s h, Controllers.declared, List.map_flatMap]
  kinds reports h hgrouped := by
    have hfirst := congrArg (List.map Prod.fst) (map_of_execute respond s h)
    rw [List.map_map, List.map_map] at hfirst
    exact hfirst.trans (Controllers.map_kind_declared hgrouped)

end Respondent

end Plan

/-! ### Passes -/

section Pass

variable {σ : Type} (respond : (request : Request) → σ → request.Reply × σ) (s : σ)
  (object : SelectiveDeployment) (nodes : List EligibleNode) (placed : List (List String))

/-- A pass whose plan fails asks nothing and leaves everything as it was. -/
theorem pass_of_error {error : PlanError}
    (h : (executed respond s object nodes placed).1 = .error error) :
    (pass object nodes placed).answer respond s = (.error (.plan error), s) ∧
      (pass object nodes placed).transcript respond s = [] := by
  obtain ⟨htranscript, hstate⟩ :=
    (Plan.reportsOrRests respond s (Plan.make object.spec nodes placed) object).rests error h
  rw [executed] at h
  simp only [pass, sync, Dialogue.bind_assoc, Dialogue.bind_done, Dialogue.transcript_bind,
    Dialogue.answer_bind, h, htranscript, hstate, List.nil_append]
  exact ⟨rfl, rfl⟩

/-- The status of a pass is about all declared workloads. -/
theorem ready_statusOf {reports : List Report}
    (h : (executed respond s object nodes placed).1 = .ok reports) :
    (statusOf object nodes placed reports).ready =
      s!"{object.spec.controllers.size - Summary.countFailures
        (Plan.make object.spec nodes placed).selections reports}/{object.spec.controllers.size}" := by
  rw [← Plan.length_of_execute respond s h]
  rfl

end Pass

/-- **A pass reports on everything or touches nothing.** Whatever is answered, every plan reports or
rests. If the plan of a pass fails, the pass asks nothing, so that neither an object nor the status
is written, and the counts of failures stay as they are; against a cluster in memory it changes
nothing at all. If the plan does not fail, the pass goes on to write a status, which is about as
many workloads as are declared. -/
theorem all_or_nothing (object : SelectiveDeployment) {σ : Type}
    (respond : (request : Request) → σ → request.Reply × σ) (s : σ) :
    (∀ plan : Plan, plan.ReportsOrRests respond s object) ∧
    (∀ nodes placed error, (executed respond s object nodes placed).1 = .error error →
      (pass object nodes placed).answer respond s = (.error (.plan error), s) ∧
      (pass object nodes placed).transcript respond s = [] ∧
      ∀ ctx : Context,
        ctx.settle object.reference ((pass object nodes placed).answer respond s).1 = ctx) ∧
    (∀ nodes placed reports, (executed respond s object nodes placed).1 = .ok reports →
      (pass object nodes placed).transcript respond s =
        ((Plan.make object.spec nodes placed).execute object).transcript respond s ++
          [⟨.setStatus object (statusOf object nodes placed reports),
            statusReply respond s object nodes placed reports⟩] ∧
      reports.length = object.spec.controllers.size ∧
      (statusOf object nodes placed reports).ready =
        s!"{object.spec.controllers.size - Summary.countFailures
          (Plan.make object.spec nodes placed).selections reports}/{object.spec.controllers.size}") ∧
    ∀ (ctx : Context) (c : Cluster) (error : PlanError), ctx.readiness = .ready →
      (c.answer ((Plan.make object.spec (eligibleNodes ctx.nodes)
        (ctx.index.placementOf object)).execute object)).1 = .error error →
      ctx.reconcile? object c = some (.error (.plan error), ctx, c) := by
  refine ⟨fun plan => plan.reportsOrRests respond s object, fun nodes placed error h => ?_,
    fun nodes placed reports h => ?_, fun ctx c error hready h => ?_⟩
  · obtain ⟨hanswer, htranscript⟩ := pass_of_error respond s object nodes placed h
    refine ⟨hanswer, htranscript, fun ctx => ?_⟩
    rw [hanswer]
    rfl
  · exact ⟨(answer_pass_of_ok respond s object nodes placed h).1,
      Plan.length_of_execute respond s h, ready_statusOf respond s object nodes placed h⟩
  · obtain ⟨hanswer, -⟩ := pass_of_error Cluster.respond c object (eligibleNodes ctx.nodes)
      (ctx.index.placementOf object) h
    simp only [Context.reconcile?, Context.pass?, hready, Option.map_some, Cluster.answer, hanswer]
    rfl

/-- A resource without an identifier, which declares a deployment without a name, and a job. -/
def ownerless : SelectiveDeployment where
  metadata := { name := some "sd", inNamespace := some "tenant" }
  spec := { controllers := {
    deployment := [{ kind := .deployment }]
    job := [{
      kind := .job
      metadata := { name := some "batch" }
      spec := some (.direct { leading := [], template := {}, trailing := [] }) }] } }

/-- A context with caches that are ready and empty. -/
def readyContext : Context :=
  Runs.retryingOnce.withCaches { isReady := true } ⟨fun _ => { isReady := true }⟩

/-- The resource without an identifier is left alone, behind a workload that is invalid; a resource
that can own has a report for each of its workloads, the invalid one included. -/
theorem all_or_nothing_ownerless :
    (executed Plan.stubborn () ownerless [] []).1 = .error .missingOwner ∧
    (pass ownerless [] []).transcript Plan.stubborn () = [] ∧
    readyContext.reconcile? ownerless {} =
      some (.error (.plan .missingOwner), readyContext, {}) ∧
    ∃ reports, (executed Plan.stubborn () Plan.straying [] []).1 = .ok reports ∧
      reports.map (fun r => (r.kind, r.name)) = [(.deployment, "web"), (.deployment, "")] := by
  obtain ⟨hplan, hpass, -, hreconcile⟩ := all_or_nothing ownerless Plan.stubborn ()
  have herror : (executed Plan.stubborn () ownerless [] []).1 = .error .missingOwner :=
    (hplan _).missingOwner_iff.mpr ⟨by decide, .inr rfl, rfl⟩
  refine ⟨herror, (hpass [] [] _ herror).2.1, hreconcile _ {} _ rfl rfl, ?_⟩
  obtain ⟨hrules, -⟩ := all_or_nothing Plan.straying Plan.stubborn ()
  have hreports := hrules (Plan.make Plan.straying.spec [] [])
  cases hresult : (executed Plan.stubborn () Plan.straying [] []).1 with
  | ok reports => exact ⟨reports, rfl, hreports.subjects reports hresult⟩
  | error error =>
      cases error with
      | missingNamespace => cases hreports.missingNamespace_iff.mp hresult
      | missingOwner => exact absurd (hreports.missingOwner_iff.mp hresult).2.1 (by decide)

end GeoPlacement
