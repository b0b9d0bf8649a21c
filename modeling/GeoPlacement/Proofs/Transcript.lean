import GeoPlacement.Proofs.Discipline
import Mathlib.Data.List.Forall2

/-!
# The transcript of a pass

What a plan asks of a cluster, as seen by whoever answers. The respondent is arbitrary: it may keep
any state, give any object for any look-up and fail at will. Still the requests about each declared
workload keep to the same rules, so that a resource stays inside its namespace and leaves alone what
it may not have.

A **transcript** is the list of requests with their answers. That of a plan falls into one part for
each declared workload, in order, and `Plan.KeepsRules` says what such a part looks like.

## Main results

* `Dialogue.transcript_bind`: the transcripts of dialogues that follow one another are appended.
* `Plan.followsUp_settle`: what is asked after a look-up fits its answer.
* `Plan.keepsRules_apply`: the requests about one declared workload keep to the rules.
* `Plan.transcript_execute`: so do those about all workloads of a resource.
-/

namespace GeoPlacement

namespace Dialogue

variable {Q : Type} {A : Q → Type} {α β σ : Type}

/-- An entry of a transcript: a question and the answer that it was given. -/
structure Entry (Q : Type) (A : Q → Type) where
  question : Q
  answer : A question

/-- The **transcript** of a run against a respondent: what is asked and answered, in order. -/
def transcript (respond : (q : Q) → σ → A q × σ) : Dialogue Q A α → σ → List (Entry Q A)
  | done _, _ => []
  | ask q next, s =>
    ⟨q, (respond q s).1⟩ :: (next (respond q s).1).transcript respond (respond q s).2

/-- The transcripts of dialogues that follow one another are appended. -/
theorem transcript_bind (respond : (q : Q) → σ → A q × σ) (d : Dialogue Q A α)
    (f : α → Dialogue Q A β) (s : σ) :
    (d.bind f).transcript respond s = d.transcript respond s ++
      (f (d.answer respond s).1).transcript respond (d.answer respond s).2 := by
  induction d generalizing s with
  | done value => rfl
  | ask q next ih => rw [bind_ask, transcript, transcript, answer, ih, List.cons_append]

end Dialogue

/-- A request to a cluster and the answer that it was given. -/
abbrev ClusterEntry := Dialogue.Entry Request Request.Reply

/-- An entry about a write that is no creation is about a replacement. -/
theorem Request.exists_eq_replace {entry : ClusterEntry} {inNamespace : String}
    {object : Workload} (h : entry.question.write? = some (inNamespace, object, false)) :
    ∃ reply, entry = ⟨.replace inNamespace object, reply⟩ := by
  obtain ⟨question, answer⟩ := entry
  cases question with
  | get kind inNamespace name => cases h
  | create inNamespace object => cases h
  | replace inNamespace object =>
      cases h
      exact ⟨answer, rfl⟩
  | setStatus object status => cases h

namespace Plan

/-! ### The rules -/

/-- Whether an object is **fit to be stored** for a declared workload: it has the kind and the name
of the declaration, lies in the namespace of the resource wherever the declaration would put it, is
controlled by the resource alone, is marked as managed and carries the affinity of the plan. -/
structure IsFit (plan : Plan) (owner : Metadata) (inNamespace : String)
    (declared object : Workload) : Prop where
  kind : object.kind = declared.kind
  name : object.name = declared.name
  inNamespace : object.metadata.inNamespace = some inNamespace
  controllers : ∃ reference, owner.controllerReference? = some reference ∧
    object.metadata.owners.filter OwnerReference.isController = [reference]
  managed : object.metadata.label? Label.managedBy = some Label.manager
  nodeAffinity : object.nodeAffinity = plan.affinity

/-- Whether a workload that was found has to be **replaced** by a desired object: it is not claimed
by another resource, and not both owned and in sync. -/
def MustReplace (owner : Metadata) (desired current : Workload) : Prop :=
  (∀ other, current.metadata.ownership owner ≠ .foreign other) ∧
    ¬ (current.metadata.ownership owner = .owned ∧ inSync current desired = true)

/-- What **follows on a look-up**, given the answer to it: one write at most, of an object that is
fit to be stored; a creation iff nothing was found, and a replacement iff what was found has to be
replaced, under the version that was found. -/
structure FollowsUp (plan : Plan) (owner : Metadata) (inNamespace : String)
    (declared desired : Workload) (found : Except ClientError (Option Workload))
    (writes : List ClusterEntry) : Prop where
  atMostOne : writes.length ≤ 1
  fit : ∀ entry ∈ writes, ∃ object isCreation,
    entry.question.write? = some (inNamespace, object, isCreation) ∧
      plan.IsFit owner inNamespace declared object
  creates_iff : (∃ entry ∈ writes, ∃ object,
      entry.question.write? = some (inNamespace, object, true)) ↔ found = .ok none
  replaces_iff : (∃ entry ∈ writes, ∃ object,
      entry.question.write? = some (inNamespace, object, false)) ↔
    ∃ current, found = .ok (some current) ∧ MustReplace owner desired current
  version : ∀ entry ∈ writes, ∀ object current,
    entry.question.write? = some (inNamespace, object, false) → found = .ok (some current) →
      object.metadata.resourceVersion = current.metadata.resourceVersion

/-- The **rules** for what is asked about one declared workload: nothing if it has no name or no
pod template, and otherwise one look-up in the namespace of the resource and what follows on it. -/
structure KeepsRules (plan : Plan) (owner : Metadata) (inNamespace : String) (declared : Workload)
    (entries : List ClusterEntry) : Prop where
  silent : declared.name = none ∨ declared.template? = none → entries = []
  asked : ∀ name, declared.name = some name → declared.template? ≠ none →
    ∃ desired found writes, plan.desired owner inNamespace declared = .ok (some desired) ∧
      entries = ⟨.get declared.kind inNamespace name, found⟩ :: writes ∧
      plan.FollowsUp owner inNamespace declared desired found writes

/-! ### What is written -/

variable {plan : Plan} {owner : Metadata} {inNamespace : String} {declared desired : Workload}

/-- Desired objects lie in the namespace they are derived for. -/
theorem inNamespace_of_desired (h : plan.desired owner inNamespace declared = .ok (some desired)) :
    desired.metadata.inNamespace = some inNamespace := by
  obtain ⟨reference, -, rfl⟩ := exists_reference_of_desired h
  rfl

/-- A desired object is fit to be stored. -/
theorem isFit_of_desired (h : plan.desired owner inNamespace declared = .ok (some desired)) :
    plan.IsFit owner inNamespace declared desired := by
  have hderived := isDerived_of_desired h
  obtain ⟨reference, hreference, howners⟩ := hderived.owners
  have hcontroller := (Metadata.of_controllerReference hreference).1
  refine ⟨hderived.kind, hderived.name, inNamespace_of_desired h, ⟨reference, hreference, ?_⟩,
    hderived.managed, hderived.nodeAffinity⟩
  rw [howners, List.filter_append, List.filter_filter]
  simp [hcontroller]

/-- The version that an object carries does not matter. -/
theorem IsFit.carryVersion (h : plan.IsFit owner inNamespace declared desired)
    (current : Workload) :
    plan.IsFit owner inNamespace declared (carryVersion current desired) :=
  ⟨h.kind, h.name, h.inNamespace, h.controllers, h.managed, h.nodeAffinity⟩

/-! ### What follows on a look-up -/

/-- What belongs to nobody has to be replaced. -/
theorem mustReplace_of_unclaimed {current : Workload}
    (h : current.metadata.ownership owner = .unclaimed) : MustReplace owner desired current := by
  rw [MustReplace, h]
  simp

/-- Nothing has to follow where something was found that need not be replaced, or the look-up
failed. -/
theorem followsUp_nil {found : Except ClientError (Option Workload)} (hfound : found ≠ .ok none)
    (hkept : ∀ current, found = .ok (some current) → ¬ MustReplace owner desired current) :
    plan.FollowsUp owner inNamespace declared desired found [] where
  atMostOne := Nat.zero_le 1
  fit := by simp
  creates_iff := by simpa using hfound
  replaces_iff := by simpa using hkept
  version := by simp

/-- A creation follows where nothing was found. -/
theorem followsUp_create (h : plan.IsFit owner inNamespace declared desired)
    (reply : Except ClientError Workload) :
    plan.FollowsUp owner inNamespace declared desired (.ok none)
      [⟨.create inNamespace desired, reply⟩] where
  atMostOne := Nat.le_refl 1
  fit := by simpa [Request.write?] using h
  creates_iff := by simp [Request.write?]
  replaces_iff := by simp [Request.write?]
  version := by simp [Request.write?]

/-- A replacement follows where what was found has to be replaced. -/
theorem followsUp_replace (h : plan.IsFit owner inNamespace declared desired) {current : Workload}
    (hcurrent : MustReplace owner desired current) (reply : Except ClientError Workload) :
    plan.FollowsUp owner inNamespace declared desired (.ok (some current))
      [⟨.replace inNamespace (carryVersion current desired), reply⟩] where
  atMostOne := Nat.le_refl 1
  fit := by simpa [Request.write?] using h.carryVersion current
  creates_iff := by simp [Request.write?]
  replaces_iff := by simpa [Request.write?] using hcurrent
  version := by
    intro entry hentry object other hwrite hfound
    obtain rfl := List.mem_singleton.mp hentry
    cases hwrite
    cases hfound
    rfl

section Respondent

variable {σ : Type} (respond : (request : Request) → σ → request.Reply × σ) (s : σ)

/-- A creation is a single exchange. -/
theorem transcript_create (object : Workload) :
    (create inNamespace object).transcript respond s =
      [⟨.create inNamespace object, (respond (.create inNamespace object) s).1⟩] := by
  rw [create, Dialogue.transcript]
  cases (respond (.create inNamespace object) s).1 <;> rfl

/-- So is a replacement. -/
theorem transcript_replace (object : Workload) :
    (replace inNamespace object).transcript respond s =
      [⟨.replace inNamespace object, (respond (.replace inNamespace object) s).1⟩] := by
  rw [replace, Dialogue.transcript]
  cases (respond (.replace inNamespace object) s).1 <;> rfl

/-- **What follows on a look-up** fits its answer, whoever answers. -/
theorem followsUp_settle (hfit : plan.IsFit owner inNamespace declared desired)
    (found : Option Workload) :
    plan.FollowsUp owner inNamespace declared desired (.ok found)
      ((settle owner inNamespace desired found).transcript respond s) := by
  cases found with
  | none =>
      rw [settle, transcript_create]
      exact followsUp_create hfit _
  | some current =>
      have hkept : ¬ MustReplace owner desired current →
          plan.FollowsUp owner inNamespace declared desired (.ok (some current)) [] := by
        intro hnot
        refine followsUp_nil (fun h => by cases h) fun other hother => ?_
        cases hother
        exact hnot
      rw [settle]
      cases howner : current.metadata.ownership owner with
      | foreign other => exact hkept fun h => h.1 other howner
      | unclaimed =>
          dsimp only
          rw [transcript_replace]
          exact followsUp_replace hfit (mustReplace_of_unclaimed howner) _
      | owned =>
          dsimp only
          split
          · next hsync => exact hkept fun h => h.2 ⟨howner, hsync⟩
          · next hsync =>
            rw [transcript_replace]
            refine followsUp_replace hfit ⟨fun other h => ?_, fun h => hsync h.2⟩ _
            cases howner.symm.trans h

/-! ### All requests -/

variable {reference : OwnerReference} (hreference : owner.controllerReference? = some reference)

include hreference

/-- **The requests about one declared workload** keep to the rules, and applying it never makes the
whole plan fail. -/
theorem keepsRules_apply (plan : Plan) (inNamespace : String) (declared : Workload) :
    plan.KeepsRules owner inNamespace declared
        ((plan.apply owner inNamespace declared).transcript respond s) ∧
      ∃ outcome, ((plan.apply owner inNamespace declared).answer respond s).1 = .ok outcome := by
  rw [apply]
  cases hname : declared.name with
  | none => exact ⟨⟨fun _ => rfl, fun name h => by cases hname.symm.trans h⟩, _, rfl⟩
  | some name =>
      cases htemplate : declared.template? with
      | none =>
          rw [desired_of_no_template htemplate]
          exact ⟨⟨fun _ => rfl, fun name _ h => absurd htemplate h⟩, _, rfl⟩
      | some template =>
          obtain ⟨desired, hdesired, -⟩ := exists_desired plan inNamespace htemplate hreference
          have hloud : ¬ (declared.name = none ∨ declared.template? = none) := by
            simp [hname, htemplate]
          rw [hdesired]
          dsimp only [Dialogue.transcript, Dialogue.answer]
          generalize hfound : (respond (.get declared.kind inNamespace name) s).1 = found
          cases found with
          | error error =>
              refine ⟨⟨fun h => absurd h hloud, fun other hother _ => ?_⟩, _, rfl⟩
              obtain rfl : name = other := Option.some.inj (hname.symm.trans hother)
              exact ⟨desired, .error error, [], hdesired, rfl,
                followsUp_nil (fun h => by cases h) fun current h => by cases h⟩
          | ok found =>
              refine ⟨⟨fun h => absurd h hloud, fun other hother _ => ?_⟩, ?_⟩
              · obtain rfl : name = other := Option.some.inj (hname.symm.trans hother)
                refine ⟨desired, .ok found, _, hdesired, rfl, ?_⟩
                rw [Dialogue.transcript_bind]
                simp only [Dialogue.transcript, List.append_nil]
                exact followsUp_settle respond _ (isFit_of_desired hdesired) found
              · rw [Dialogue.answer_bind]
                exact ⟨_, rfl⟩

/-- The requests about declared workloads fall into one part for each, in order. -/
theorem transcript_applyAll (plan : Plan) (inNamespace : String) (declared : List Workload) :
    ∃ parts, (plan.applyAll owner inNamespace declared).transcript respond s = parts.flatten ∧
      List.Forall₂ (plan.KeepsRules owner inNamespace) declared parts ∧
      ∃ reports, ((plan.applyAll owner inNamespace declared).answer respond s).1 = .ok reports := by
  induction declared generalizing s with
  | nil => exact ⟨[], rfl, .nil, [], rfl⟩
  | cons head rest ih =>
      obtain ⟨hrules, outcome, houtcome⟩ :=
        keepsRules_apply respond s hreference plan inNamespace head
      obtain ⟨parts, htranscript, hparts, reports, hreports⟩ :=
        ih ((plan.apply owner inNamespace head).answer respond s).2
      refine ⟨_ :: parts, ?_, .cons hrules hparts,
        ⟨head.kind, head.metadata.displayName, outcome⟩ :: reports, ?_⟩
      · rw [applyAll, Dialogue.transcript_bind, houtcome]
        simp only [Dialogue.transcript_bind, Dialogue.transcript, List.append_nil, htranscript,
          List.flatten_cons]
      · rw [applyAll, Dialogue.answer_bind, houtcome]
        simp only [Dialogue.answer_bind, Dialogue.answer, hreports]
        rfl

end Respondent

/-- **Requests keep to the rules**, whatever they are answered with. The resource has a namespace, a
name and an identifier. Executing a plan for it ends with reports, and the requests that are made
fall into one part for each declared workload, in order. Nothing is asked about a workload without a
name or a pod template. About any other one there is one look-up, and at most one write after it: of
an object that lies in the namespace of the resource, is controlled by the resource alone, is marked
as managed and has the affinity of the plan. -/
theorem transcript_execute (plan : Plan) (object : SelectiveDeployment)
    {inNamespace name uid : String} (hnamespace : object.inNamespace = some inNamespace)
    (hname : object.metadata.name = some name) (huid : object.uid = some uid) {σ : Type}
    (respond : (request : Request) → σ → request.Reply × σ) (s : σ) :
    ∃ parts, (plan.execute object).transcript respond s = parts.flatten ∧
      List.Forall₂ (plan.KeepsRules object.metadata inNamespace)
        object.spec.controllers.declared parts ∧
      ∃ reports, ((plan.execute object).answer respond s).1 = .ok reports := by
  obtain ⟨reference, hreference⟩ := Metadata.exists_controllerReference hname huid
  rw [execute, hnamespace]
  exact transcript_applyAll respond s hreference plan inNamespace _

/-- A resource that declares a workload for another namespace, under another controller, and one
without a name. -/
def straying : SelectiveDeployment where
  metadata := { name := some "sd", inNamespace := some "tenant", uid := some "uid" }
  spec := { controllers := { deployment := [
    { kind := .deployment
      metadata := {
        name := some "web"
        inNamespace := some "elsewhere"
        ownerReferences := some [⟨"apps/v1", none, some true, "ReplicaSet", "rs", "rs-uid"⟩] }
      spec := some (.direct { leading := [], template := {}, trailing := [] }) },
    { kind := .deployment }] } }

/-- What a look-up of the workload is answered with: one that belongs to nobody. -/
def strayAnswer : Workload where
  kind := .deployment
  metadata := { name := some "web", resourceVersion := some "7" }

/-- A respondent that finds the same workload everywhere and rejects every write. -/
def stubborn : (request : Request) → Unit → request.Reply × Unit
  | .get .., s => (.ok (some strayAnswer), s)
  | .create .., s => (.error .missingName, s)
  | .replace .., s => (.error .missingName, s)
  | .setStatus .., s => (.error .rejected, s)

/-- The workload is looked up and replaced in the namespace of the resource; nothing is asked about
the one without a name. -/
theorem transcript_execute_straying :
    ∃ object reply, ((make straying.spec [] []).execute straying).transcript stubborn () =
        [⟨.get .deployment "tenant" "web", .ok (some strayAnswer)⟩,
          ⟨.replace "tenant" object, reply⟩] ∧
      object.metadata.inNamespace = some "tenant" ∧
      object.metadata.resourceVersion = some "7" ∧
      (object.metadata.owners.filter OwnerReference.isController).map OwnerReference.uid =
        ["uid"] := by
  obtain ⟨parts, htranscript, hparts, -⟩ :=
    transcript_execute (make straying.spec [] []) straying rfl rfl rfl stubborn ()
  obtain ⟨web, _, hweb, hrest, rfl⟩ := List.forall₂_cons_left_iff.mp hparts
  obtain ⟨nameless, _, hnameless, hnil, rfl⟩ := List.forall₂_cons_left_iff.mp hrest
  obtain rfl := List.forall₂_nil_left_iff.mp hnil
  obtain ⟨desired, found, writes, -, rfl, hwrites⟩ := hweb.asked "web" rfl (Option.some_ne_none _)
  rw [hnameless.silent (.inl rfl)] at htranscript
  have hhead : some ⟨.get .deployment "tenant" "web", .ok (some strayAnswer)⟩ =
      some (⟨.get .deployment "tenant" "web", found⟩ : ClusterEntry) :=
    congrArg List.head? htranscript
  obtain rfl : .ok (some strayAnswer) = found :=
    eq_of_heq (Dialogue.Entry.mk.inj (Option.some.inj hhead)).2
  obtain ⟨entry, hentry, object, hobject⟩ :=
    hwrites.replaces_iff.mpr ⟨strayAnswer, rfl, mustReplace_of_unclaimed rfl⟩
  obtain ⟨_, isCreation, hobject', hfit⟩ := hwrites.fit entry hentry
  obtain ⟨rfl, rfl⟩ : object = _ ∧ false = isCreation := by simpa [hobject] using hobject'
  have hversion := hwrites.version entry hentry object strayAnswer hobject rfl
  obtain rfl : writes = [entry] := by
    rcases writes with _ | ⟨first, _ | ⟨second, rest⟩⟩
    · cases hentry
    · rw [List.mem_singleton.mp hentry]
    · exact absurd hwrites.atMostOne (by simp)
  obtain ⟨reply, rfl⟩ := Request.exists_eq_replace hobject
  obtain ⟨reference, hreference, hcontrollers⟩ := hfit.controllers
  refine ⟨object, reply, htranscript, hfit.inNamespace, hversion, ?_⟩
  rw [hcontrollers, ← Option.some.inj hreference]
  rfl

end Plan

end GeoPlacement
