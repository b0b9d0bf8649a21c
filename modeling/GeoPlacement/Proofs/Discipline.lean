import GeoPlacement.Proofs.Desired
import GeoPlacement.Reconcile.Pass

/-!
# The discipline of a pass

A pass never writes blindly. Before every write it looks the workload up, and what it then asks
for fits what it saw: an object is created where there was none, and it replaces what the resource
may have under the version that was read. `Disciplined` states this of a dialogue whatever the
answers are, so that it can be used where passes take turns and a look-up is out of date by the
time of the write.

## Main results

* `Disciplined.bind`: dialogues that are disciplined from the start can follow one another.
* `disciplined_pass`: every pass is disciplined.
-/

namespace GeoPlacement

/-- What is known of one key: the workload that was found under it, or that there was none. -/
abbrev Finding := WorkloadKey × Option Workload

namespace Request

/-- What a request asks to be stored: the namespace, the object, and whether nothing may be there
yet. -/
def write? : Request → Option (String × Workload × Bool)
  | get .. => none
  | create inNamespace object => some (inNamespace, object, true)
  | replace inNamespace object => some (inNamespace, object, false)
  | setStatus .. => none

/-- A request to store something is answered by a write. -/
theorem respond_of_write {r : Request} {inNamespace : String} {object : Workload}
    {isCreation : Bool} (h : r.write? = some (inNamespace, object, isCreation)) (c : Cluster) :
    (c.respond r).2 = (c.write inNamespace object isCreation).2 := by
  cases r with
  | get kind inNamespace name => cases h
  | create inNamespace object =>
      cases h
      rfl
  | replace inNamespace object =>
      cases h
      rfl
  | setStatus object status => cases h

/-- What is known after a request. Only a look-up tells anything, and only about the key that was
looked up last. -/
def learned : (r : Request) → r.Reply → Option Finding
  | get kind inNamespace name, .ok found => some (⟨kind, inNamespace, name⟩, found)
  | get .., .error _ => none
  | create .., _ => none
  | replace .., _ => none
  | setStatus .., _ => none

/-- What is known after a cluster in memory answered: a look-up was made, and this is what is
stored. -/
theorem learned_respond {r : Request} {c : Cluster} {key : WorkloadKey} {found : Option Workload}
    (h : r.learned (c.respond r).1 = some (key, found)) :
    r = get key.kind key.inNamespace key.name ∧ c.stored key = found := by
  cases r with
  | get kind inNamespace name =>
      rw [Cluster.respond, Cluster.read] at h
      split at h
      · cases h
      · obtain ⟨rfl, rfl⟩ := Prod.mk.inj (Option.some.inj h)
        exact ⟨rfl, rfl⟩
  | create inNamespace object => cases h
  | replace inNamespace object => cases h
  | setStatus object status => cases h

/-- Whether a request of a resource **fits** what is known. -/
def Fits (owner : Metadata) (known : Option Finding) : Request → Prop
  | get .. => True
  | create inNamespace object => ∃ name, object.name = some name ∧
      known = some (⟨object.kind, inNamespace, name⟩, none)
  | replace inNamespace object => ∃ name current, object.name = some name ∧
      known = some (⟨object.kind, inNamespace, name⟩, some current) ∧
      object.metadata.resourceVersion = current.metadata.resourceVersion ∧
      ∀ other, current.metadata.ownership owner ≠ .foreign other
  | setStatus .. => True

end Request

/-- Whether every request of a dialogue fits what is known when it is asked. -/
def Disciplined {α : Type} (owner : Metadata) : Option Finding → ClusterDialogue α → Prop
  | _, .done _ => True
  | known, .ask request next => request.Fits owner known ∧
      ∀ reply, Disciplined owner (request.learned reply) (next reply)

variable {α β : Type} {owner : Metadata} {known : Option Finding}

/-- **Disciplined dialogues follow one another**, provided the later ones rely on nothing that
was known before. -/
theorem Disciplined.bind {d : ClusterDialogue α} {f : α → ClusterDialogue β}
    (hd : Disciplined owner known d) (hf : ∀ value known, Disciplined owner known (f value)) :
    Disciplined owner known (d.bind f) := by
  induction d generalizing known with
  | done value => exact hf value known
  | ask request next ih =>
      obtain ⟨hfits, hnext⟩ := hd
      exact ⟨hfits, fun reply => ih reply (hnext reply)⟩

/-! ### Passes -/

namespace Plan

variable (plan : Plan) (inNamespace : String)

/-- What a look-up is followed by fits its result. -/
theorem disciplined_settle {desired : Workload} {name : String} (hname : desired.name = some name)
    (found : Option Workload) :
    Disciplined owner (some (⟨desired.kind, inNamespace, name⟩, found))
      (settle owner inNamespace desired found) := by
  have hreplace : ∀ current : Workload,
      (∀ other, current.metadata.ownership owner ≠ .foreign other) →
      Disciplined owner (some (⟨desired.kind, inNamespace, name⟩, some current))
        (replace inNamespace (carryVersion current desired)) := fun current howner =>
    ⟨⟨name, current, hname, rfl, rfl, howner⟩, fun reply => by cases reply <;> trivial⟩
  cases found with
  | none => exact ⟨⟨name, hname, rfl⟩, fun reply => by cases reply <;> trivial⟩
  | some current =>
      rw [settle]
      cases howner : current.metadata.ownership owner with
      | foreign other => trivial
      | unclaimed => exact hreplace current fun other h => by cases howner.symm.trans h
      | owned =>
          dsimp only
          split
          · trivial
          · exact hreplace current fun other h => by cases howner.symm.trans h

/-- Applying a workload is disciplined, whatever was known before. -/
theorem disciplined_apply (declared : Workload) :
    Disciplined owner known (plan.apply owner inNamespace declared) := by
  rw [apply]
  cases hname : declared.name with
  | none => trivial
  | some name =>
      cases hdesired : plan.desired owner inNamespace declared with
      | error error => trivial
      | ok result =>
          cases result with
          | none => trivial
          | some desired =>
              have hderived := isDerived_of_desired hdesired
              refine ⟨trivial, fun reply => ?_⟩
              cases reply with
              | error error => trivial
              | ok found =>
                  have hsettle : Disciplined owner (some (⟨desired.kind, inNamespace, name⟩, found))
                      (settle owner inNamespace desired found) :=
                    disciplined_settle inNamespace (hderived.name.trans hname) found
                  rw [hderived.kind] at hsettle
                  exact hsettle.bind fun outcome known => trivial

/-- So is applying many of them. -/
theorem disciplined_applyAll (declared : List Workload) :
    Disciplined owner known (plan.applyAll owner inNamespace declared) := by
  induction declared generalizing known with
  | nil => trivial
  | cons head rest ih =>
      refine (plan.disciplined_apply inNamespace head).bind fun outcome known => ?_
      cases outcome with
      | error error => trivial
      | ok outcome => exact ih.bind fun reports known => trivial

/-- **A pass is disciplined.** -/
theorem disciplined_execute (object : SelectiveDeployment) :
    Disciplined object.metadata known (plan.execute object) := by
  rw [execute]
  cases object.inNamespace with
  | none => trivial
  | some inNamespace => exact plan.disciplined_applyAll inNamespace _

end Plan

/-- **Every pass is disciplined**, whatever is known before. -/
theorem disciplined_pass (object : SelectiveDeployment) (nodes : List EligibleNode)
    (placed : List (List String)) :
    Disciplined object.metadata known (pass object nodes placed) := by
  have hsync : Disciplined object.metadata known (sync object nodes placed) :=
    ((Plan.make object.spec nodes placed).disciplined_execute object).bind fun reports known =>
      trivial
  refine hsync.bind fun result known => ?_
  cases result with
  | error error => trivial
  | ok summary => exact ⟨trivial, fun reply => by cases reply <;> trivial⟩

end GeoPlacement
