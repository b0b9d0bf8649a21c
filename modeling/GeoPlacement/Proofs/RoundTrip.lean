import GeoPlacement.Resource.SelectiveDeployment
import Mathlib.Data.List.Basic

/-!
# Reading back what is written

Every type of the resource is read by one set of rules and written by another: members have names of
their own, defaults, an older name, an order for the positional form; what is empty is left out or
not. This module shows that the two sets fit. Whatever a resource holds, it is read again from what
is written for it.

The objects of a cluster that a resource embeds, its metadata and its workloads, are written and
read by the rules of the cluster. That these fit for the objects at hand is assumed
(`SelectiveDeployment.EmbedsWell`); everything around them is the resource's own.

## Main results

* `Json.ReadsBack.list`: lists read back whose items do.
* `Spec.readsBack`, `Status.readsBack`: so do the parts of a resource.
* `Spec.read?_rename`: the older name of the declared workloads is as good as the newer one.
* `Spec.read?_of_both_names`: but not next to it.
* `SelectiveDeployment.encoding_agrees`: resources read back.
* `SelectiveDeployment.isGrouped_of_read`: what is read as a workload of a kind is of that kind.
-/

namespace GeoPlacement

/-! ### Values that read back -/

/-- Whether a value **reads back**: it is read again from what is written for it. -/
def Json.ReadsBack {α : Type} (read : Json → Option α) (write : α → Json) (value : α) : Prop :=
  read (write value) = some value

namespace Json.ReadsBack

variable {α : Type} {read : Json → Option α} {write : α → Json} {values : List α}

/-- Items that read back do so one after another. -/
theorem mapM_map (h : ∀ value ∈ values, ReadsBack read write value) :
    (values.map write).mapM read = some values := by
  induction values with
  | nil => rfl
  | cons head rest ih =>
      obtain ⟨hhead, hrest⟩ := List.forall_mem_cons.mp h
      rw [ReadsBack] at hhead
      simp [hhead, ih hrest]

/-- **Lists read back** whose items do. -/
theorem list (h : ∀ value ∈ values, ReadsBack read write value) :
    ReadsBack (list? read) (ofList write) values :=
  mapM_map h

/-- Lists of strings read back. -/
theorem strings (values : List String) : ReadsBack strings? ofStrings values :=
  list fun _ _ => rfl

/-- A natural number of 32 bits reads back. -/
theorem uint32 (value : UInt32) : ReadsBack uint32? (fun n : UInt32 => .int n.toNat) value := by
  have hlt := value.toNat_lt_size
  have hrange : 0 ≤ (value.toNat : Int) ∧ (value.toNat : Int) < UInt32.size := by omega
  rw [ReadsBack, uint32?, if_pos hrange, Int.toNat_natCast]
  simp

/-- An integer of 64 bits reads back. -/
theorem int64 (value : Int64) : ReadsBack int64? ofInt64 value := by
  have hrange : Int64.minValue.toInt ≤ value.toInt ∧ value.toInt ≤ Int64.maxValue.toInt :=
    ⟨value.minValue_le_toInt, value.toInt_le⟩
  rw [ReadsBack, ofInt64, int64?, if_pos hrange, Int64.ofInt_toInt]

end Json.ReadsBack

/-! ### Members -/

namespace Members

variable {α : Type} {name other : String} {m : Members} {value : Json} {write : α → Json}

@[simp] theorem all_nil : all name [] = [] := rfl

@[simp] theorem all_cons : all name ((other, value) :: m) =
    if other = name then value :: all name m else all name m := by
  rw [all, List.filterMap_cons]
  split <;> simp_all [all]

@[simp] theorem all_append (m' : Members) : all name (m ++ m') = all name m ++ all name m' :=
  List.filterMap_append

/-- What is written for a value that may be missing. -/
@[simp] theorem all_member? (found : Option α) : all name (Json.member? other write found) =
    if other = name then found.toList.map write else [] := by
  cases found <;> simp [Json.member?]

end Members

/-! ### Selectors and status -/

open Json (ReadsBack)

/-- Operators read back. -/
theorem Operator.readsBack (o : Operator) : ReadsBack Operator.read? Operator.write o := by
  cases o <;> rfl

/-- **Selectors read back.** -/
theorem Selector.readsBack (s : Selector) : ReadsBack Selector.read? Selector.write s := by
  have hvalue := ReadsBack.strings s.value
  have hoperator := s.operator.readsBack
  have hquantity := ReadsBack.uint32 s.quantity
  simp only [ReadsBack] at *
  simp [Selector.read?, Selector.write, Json.structure?, Members.required, Members.absentOr,
    Json.str?, hvalue, hoperator, hquantity]

/-- States read back. -/
theorem State.readsBack (s : State) : ReadsBack State.read? State.write s := by
  cases s <;> rfl

/-- **A status reads back**, with or without a generation. -/
theorem Status.readsBack (s : Status) : ReadsBack Status.read? Status.write s := by
  have hmessage := ReadsBack.strings s.message
  have hstate := s.state.readsBack
  have hgeneration : ∀ generation, Members.nullable Json.int64? (Json.ofInt64 generation) =
      some (some generation) := fun generation =>
    congrArg (Option.map some) (ReadsBack.int64 generation)
  simp only [ReadsBack] at hmessage hstate ⊢
  obtain ⟨ready, state, message, generation⟩ := s
  cases generation <;>
    simp_all [Status.read?, Status.write, Json.structure?, Members.required, Members.absentOr,
      Members.maybe, Json.str?]

/-! ### Declared workloads -/

namespace Controllers

/-- Whether all declared workloads read back as workloads of their kind. -/
def EmbedsWell (c : Controllers) : Prop :=
  ∀ kind, ∀ w ∈ c.ofKind kind, ReadsBack (Workload.read? kind) Workload.write w

/-- The member that is written for the workloads of a kind, if there are any. -/
def membersOf (c : Controllers) (kind : Kind) : Members :=
  if c.ofKind kind = [] then []
  else [(memberName kind, Json.ofList Workload.write (c.ofKind kind))]

/-- What is written are the members of all kinds. -/
theorem write_eq (c : Controllers) : c.write = .obj (Kind.all.flatMap c.membersOf) := by
  rw [write]
  refine congrArg (fun f => Json.obj (Kind.all.flatMap f)) (funext fun kind => ?_)
  rw [membersOf]
  cases c.ofKind kind <;> rfl

/-- Kinds have members of their own. -/
theorem memberName_inj {kind other : Kind} : memberName other = memberName kind ↔ other = kind := by
  cases kind <;> cases other <;> decide

/-- Under the name of a kind nothing but its own member is written. -/
theorem all_membersOf (c : Controllers) (kind : Kind) :
    Members.all (memberName kind) (Kind.all.flatMap c.membersOf) =
      Members.all (memberName kind) (c.membersOf kind) := by
  have hother : ∀ other, other ≠ kind →
      Members.all (memberName kind) (c.membersOf other) = [] := by
    intro other hne
    rw [membersOf]
    split
    · rfl
    · simp [memberName_inj, hne]
  cases kind <;> simp [Kind.all, hother]

/-- The workloads of a kind read back. -/
theorem absentOr_membersOf {c : Controllers} (h : c.EmbedsWell) (kind : Kind) :
    Members.absentOr (Kind.all.flatMap c.membersOf) (memberName kind) []
      (Json.list? (Workload.read? kind)) = some (c.ofKind kind) := by
  rw [Members.absentOr, all_membersOf, membersOf]
  by_cases hnone : c.ofKind kind = []
  · rw [if_pos hnone, hnone]
    rfl
  · rw [if_neg hnone, Members.all_cons, if_pos rfl]
    exact ReadsBack.list (h kind)

/-- **Declared workloads read back**, kind by kind. -/
theorem readsBack {c : Controllers} (h : c.EmbedsWell) :
    ReadsBack Controllers.read? Controllers.write c := by
  rw [ReadsBack, write_eq, read?]
  simp only [Json.structure?, Option.bind_eq_bind, Option.bind_some, absentOr_membersOf h]
  rfl

end Controllers

/-! ### Members under other names -/

namespace Members

variable {old new name : String} {m : Members} {f : Json → Json}

/-- Gives the members of one name another name. -/
def rename (old new : String) (m : Members) : Members :=
  m.map fun (name, value) => (if name = old then new else name, value)

/-- Applies a function to the values under a name. -/
def mapValues (name : String) (f : Json → Json) (m : Members) : Members :=
  m.map fun (other, value) => (other, if other = name then f value else value)

/-- Nothing is left under the old name. -/
theorem all_rename_old (h : old ≠ new) : all old (rename old new m) = [] := by
  rw [all, rename, List.filterMap_map, List.filterMap_eq_nil_iff]
  rintro ⟨name, value⟩ -
  by_cases hname : name = old <;> simp [hname, h.symm]

/-- The values of both names are under the new one. -/
theorem all_rename_new (h : old ≠ new) :
    (all new (rename old new m)).Perm (all old m ++ all new m) := by
  induction m with
  | nil => exact .nil
  | cons member rest ih =>
      obtain ⟨name, value⟩ := member
      rw [rename, List.map_cons]
      change (all new ((if name = old then new else name, value) :: rename old new rest)).Perm _
      simp only [all_cons]
      by_cases hold : name = old
      · simpa [hold, h] using ih
      · by_cases hnew : name = new
        · simpa [hold, hnew, h.symm] using (ih.cons value).trans List.perm_middle.symm
        · simpa [hold, hnew] using ih

/-- What has other names stays. -/
theorem all_rename_of_ne (hold : name ≠ old) (hnew : name ≠ new) :
    all name (rename old new m) = all name m := by
  rw [all, rename, List.filterMap_map, all]
  refine List.filterMap_congr fun member _ => ?_
  by_cases hname : member.1 = old
  · simp [hname, hold.symm, hnew.symm]
  · simp [hname]

/-- The values under a name to which a function was applied. -/
theorem all_mapValues : all name (mapValues name f m) = (all name m).map f := by
  rw [all, mapValues, List.filterMap_map, all, List.map_filterMap]
  refine List.filterMap_congr fun member _ => ?_
  by_cases hname : member.1 = name <;> simp [hname]

/-- What has other names stays. -/
theorem all_mapValues_of_ne {other : String} (h : other ≠ name) :
    all other (mapValues name f m) = all other m := by
  rw [all, mapValues, List.filterMap_map, all]
  refine List.filterMap_congr fun member _ => ?_
  by_cases hname : member.1 = name <;> simp [hname, h.symm]

end Members

namespace Json

/-- Gives the members of one name another name. -/
def renameMember (old new : String) : Json → Json
  | obj members => obj (Members.rename old new members)
  | value => value

/-- Applies a function to the values under a name. -/
def mapMember (name : String) (f : Json → Json) : Json → Json
  | obj members => obj (Members.mapValues name f members)
  | value => value

end Json

/-! ### Specifications -/

namespace Spec

/-- **Specifications read back** whose workloads do. -/
theorem readsBack {s : Spec} (h : s.controllers.EmbedsWell) :
    ReadsBack Spec.read? Spec.write s := by
  have hselector : ReadsBack (Json.list? Selector.read?) (Json.ofList Selector.write) s.selector :=
    ReadsBack.list fun selector _ => selector.readsBack
  have hcontrollers := Controllers.readsBack h
  simp only [ReadsBack] at hselector hcontrollers ⊢
  simp [Spec.read?, Spec.write, Json.structure?, controllers?, Members.absentOr, Json.bool?,
    hselector, hcontrollers]

/-- The order does not matter in which the values under the two names are found. None and one come
in one order only, and more than one are refused in any order. -/
theorem controllers?_congr {m m' : Members}
    (h : (m'.all "controllers" ++ m'.all "workloads").Perm
      (m.all "controllers" ++ m.all "workloads")) : controllers? m' = controllers? m := by
  rw [controllers?, controllers?]
  generalize m.all "controllers" ++ m.all "workloads" = values at h ⊢
  rcases values with _ | ⟨value, _ | ⟨second, rest⟩⟩
  · rw [List.perm_nil.mp h]
  · rw [List.perm_singleton.mp h]
  · obtain ⟨a, b, others, hvalues⟩ : ∃ a b others,
        m'.all "controllers" ++ m'.all "workloads" = a :: b :: others := by
      have hlength := h.length_eq
      generalize m'.all "controllers" ++ m'.all "workloads" = values' at hlength ⊢
      rcases values' with _ | ⟨a, _ | ⟨b, others⟩⟩
      · simp at hlength
      · simp at hlength
      · exact ⟨a, b, others, rfl⟩
    rw [hvalues]

/-- **The older name** of the declared workloads is read like the newer one. -/
theorem read?_rename (value : Json) :
    read? (value.renameMember "controllers" "workloads") = read? value := by
  cases value with
  | obj m =>
      have hcontrollers : controllers? (Members.rename "controllers" "workloads" m) =
          controllers? m := by
        refine controllers?_congr ?_
        rw [Members.all_rename_old (by decide), List.nil_append]
        exact Members.all_rename_new (by decide)
      have hselector : Members.all "selector" (Members.rename "controllers" "workloads" m) =
          Members.all "selector" m := Members.all_rename_of_ne (by decide) (by decide)
      have hrecovery : Members.all "recovery" (Members.rename "controllers" "workloads" m) =
          Members.all "recovery" m := Members.all_rename_of_ne (by decide) (by decide)
      simp only [Json.renameMember, read?, Json.structure?, Option.bind_eq_bind, Option.bind_some,
        hcontrollers, Members.absentOr, hselector, hrecovery]
  | _ => rfl

/-- A specification with both names of the declared workloads is refused. -/
theorem read?_of_both_names {m : Members} (hnew : m.all "controllers" ≠ [])
    (hold : m.all "workloads" ≠ []) : read? (.obj m) = none := by
  have hnone : controllers? m = none := by
    obtain ⟨a, as, ha⟩ := List.exists_cons_of_ne_nil hnew
    obtain ⟨b, bs, hb⟩ := List.exists_cons_of_ne_nil hold
    rw [controllers?, ha, hb]
    cases as <;> rfl
  simp [read?, Json.structure?, hnone]

end Spec

/-! ### Resources -/

namespace SelectiveDeployment

/-- Whether the objects that a resource **embeds**, its metadata and its workloads, read back. -/
def EmbedsWell (o : SelectiveDeployment) : Prop :=
  ReadsBack Metadata.read? Metadata.write o.metadata ∧ o.spec.controllers.EmbedsWell

/-- **Resources read back** whose embedded objects do. -/
theorem readsBack {o : SelectiveDeployment} (h : o.EmbedsWell) :
    ReadsBack SelectiveDeployment.read? SelectiveDeployment.write o := by
  obtain ⟨hmetadata, hcontrollers⟩ := h
  have hspec := Spec.readsBack hcontrollers
  have hstatus : ∀ status : Status, Members.nullable Status.read? status.write =
      some (some status) := fun status => congrArg (Option.map some) status.readsBack
  simp only [ReadsBack] at hmetadata hspec ⊢
  obtain ⟨metadata, spec, status⟩ := o
  cases status <;>
    simp_all [SelectiveDeployment.read?, SelectiveDeployment.write, members?, Members.required,
      Members.maybe]

/-- Under the older name of its declared workloads a resource is read as the same. -/
theorem read?_rename (value : Json) :
    read? (value.mapMember "spec" (Json.renameMember "controllers" "workloads")) = read? value := by
  cases value with
  | obj m =>
      set f := Json.renameMember "controllers" "workloads"
      have hspec : Members.required (Members.mapValues "spec" f m) "spec" Spec.read? =
          Members.required m "spec" Spec.read? := by
        rw [Members.required, Members.required, Members.all_mapValues]
        rcases Members.all "spec" m with _ | ⟨spec, _ | ⟨second, rest⟩⟩
        · rfl
        · exact Spec.read?_rename spec
        · rfl
      have hmetadata : Members.all "metadata" (Members.mapValues "spec" f m) =
          Members.all "metadata" m :=
        Members.all_mapValues_of_ne (by decide)
      have hstatus : Members.all "status" (Members.mapValues "spec" f m) = Members.all "status" m :=
        Members.all_mapValues_of_ne (by decide)
      simp only [Json.mapMember, read?, members?, Option.bind_eq_bind, Option.bind_some, hspec]
      simp only [Members.required, Members.maybe, hmetadata, hstatus]
  | _ => rfl

/-- A resource is refused if its specification has both names of the declared workloads. -/
theorem read?_of_both_names {value : Json} {members m : Members}
    (hvalue : members? value = some members) (hspec : ("spec", .obj m) ∈ members)
    (hnew : m.all "controllers" ≠ []) (hold : m.all "workloads" ≠ []) : read? value = none := by
  have hmem : .obj m ∈ members.all "spec" := List.mem_filterMap.mpr ⟨_, hspec, if_pos rfl⟩
  have hnone : members.required "spec" Spec.read? = none := by
    rw [Members.required]
    split
    · next spec heq =>
      rw [heq] at hmem
      rw [← List.mem_singleton.mp hmem]
      exact Spec.read?_of_both_names hnew hold
    · rfl
  simp [read?, hvalue, hnone]

/-- **Encoding and decoding agree.** A resource whose embedded objects read back reads back itself,
also where its declared workloads are given their older name. Under that name every document is read
as the same, and next to the newer one it is refused. Whatever a document holds that is read, in
either form, is read again from what is written for it. -/
theorem encoding_agrees :
    (∀ o : SelectiveDeployment, o.EmbedsWell → read? o.write = some o ∧
      read? (o.write.mapMember "spec" (Json.renameMember "controllers" "workloads")) = some o) ∧
    (∀ value : Json,
      read? (value.mapMember "spec" (Json.renameMember "controllers" "workloads")) =
        read? value) ∧
    (∀ (value : Json) (members m : Members), members? value = some members →
      ("spec", .obj m) ∈ members → m.all "controllers" ≠ [] → m.all "workloads" ≠ [] →
      read? value = none) ∧
    ∀ (value : Json) (o : SelectiveDeployment), read? value = some o → o.EmbedsWell →
      read? o.write = some o :=
  ⟨fun o h => ⟨readsBack h, (read?_rename o.write).trans (readsBack h)⟩, read?_rename,
    fun _ _ _ hvalue hspec hnew hold => read?_of_both_names hvalue hspec hnew hold,
    fun _ _ _ h => readsBack h⟩

/-- A deployment whose required members are written. -/
def fullDeployment : Workload where
  kind := .deployment
  metadata := { name := some "web" }
  spec := some (.direct {
    leading := [("replicas", .int 2), ("selector", .obj [])]
    template := {}
    trailing := [] })

/-- A cron job whose required members are written. -/
def fullCronJob : Workload where
  kind := .cronJob
  metadata := { name := some "batch" }
  spec := some (.scheduled [] {} [("schedule", .str "@daily")])

/-- A resource with two kinds of workloads and a status in an unknown state. -/
def fullResource : SelectiveDeployment where
  metadata := { name := some "sd", inNamespace := some "tenant", uid := some "uid" }
  spec := {
    controllers := { deployment := [fullDeployment], cronJob := [fullCronJob] }
    selector := [{ name := "country", value := ["FR", "US"], operator := .noneOf, quantity := 2 }]
    recovery := true }
  status := some { ready := "0/2", state := .unknown }

/-- The same resource with its specification, a selector and the status in their positional forms.
-/
def positionalResource : Json :=
  .arr [
    fullResource.metadata.write,
    .arr [
      .arr [.arr [fullDeployment.write], .arr [], .arr [], .arr [], .arr [fullCronJob.write]],
      .arr [.arr [.str "country", .arr [.str "FR", .str "US"], .str "NotIn", .int 2]],
      .bool true],
    .arr [.str "0/2", .str "Running Partially"]]

/-- The resource reads back, under both names and from its positional form. -/
theorem encoding_agrees_fullResource :
    read? fullResource.write = some fullResource ∧
    read? (fullResource.write.mapMember "spec" (Json.renameMember "controllers" "workloads")) =
      some fullResource ∧
    read? positionalResource = some fullResource ∧
    read? (.arr [fullResource.metadata.write,
      .obj [("workloads", .obj []), ("controllers", .obj [])], .null]) = none := by
  obtain ⟨hwritten, -, hboth, hread⟩ := encoding_agrees
  have hpositional : read? positionalResource = some fullResource := rfl
  have hembeds : fullResource.EmbedsWell := by
    refine ⟨rfl, fun kind w hw => ?_⟩
    cases kind with
    | deployment =>
        obtain rfl := List.mem_singleton.mp hw
        rfl
    | cronJob =>
        obtain rfl := List.mem_singleton.mp hw
        rfl
    | daemonSet | statefulSet | job => cases hw
  exact ⟨hread _ _ hpositional hembeds, (hwritten _ hembeds).2, hpositional,
    hboth _ _ _ rfl (List.mem_cons_of_mem _ List.mem_cons_self) (by simp) (by simp)⟩

end SelectiveDeployment

/-! ### Workloads among those of their kind -/

/-- Items that were read as a list were read one by one. -/
theorem Json.exists_of_mem_mapM {α : Type} {read : Json → Option α} {items : List Json}
    {values : List α} (h : items.mapM read = some values) {a : α} (ha : a ∈ values) :
    ∃ item, read item = some a := by
  induction items generalizing values with
  | nil =>
      obtain rfl : [] = values := Option.some.inj h
      cases ha
  | cons item rest ih =>
      simp only [List.mapM_cons, Option.bind_eq_bind, Option.bind_eq_some_iff] at h
      obtain ⟨head, hhead, tail, htail, h⟩ := h
      obtain rfl := Option.some.inj h
      rcases List.mem_cons.mp ha with rfl | ha
      · exact ⟨item, hhead⟩
      · exact ih htail ha

/-- A workload that was read as one of a kind is of that kind. -/
theorem Workload.kind_of_read {kind : Kind} {value : Json} {w : Workload}
    (h : Workload.read? kind value = some w) : w.kind = kind := by
  simp only [Workload.read?, Option.bind_eq_bind, Option.bind_eq_some_iff] at h
  obtain ⟨m, -, -, -, -, -, metadata, -, spec, -, status, -, h⟩ := h
  obtain rfl := Option.some.inj h
  rfl

namespace Controllers

/-- Workloads are **grouped** if each is declared among those of its kind. -/
def IsGrouped (c : Controllers) : Prop :=
  ∀ kind, ∀ w ∈ c.ofKind kind, w.kind = kind

/-- The kinds of grouped workloads come one after another. -/
theorem map_kind_declared {c : Controllers} (h : c.IsGrouped) :
    c.declared.map Workload.kind =
      Kind.all.flatMap fun kind => List.replicate (c.ofKind kind).length kind := by
  have hkind : ∀ kind, (c.ofKind kind).map Workload.kind =
      List.replicate (c.ofKind kind).length kind := fun kind =>
    List.eq_replicate_iff.mpr ⟨List.length_map _, fun other hother => by
      obtain ⟨w, hw, rfl⟩ := List.mem_map.mp hother
      exact h kind w hw⟩
  simp only [declared, List.map_flatMap, hkind]

/-- The workloads that were read under one name are of one kind. -/
theorem kind_of_absentOr {kind : Kind} {m : Members} {name : String} {workloads : List Workload}
    (h : m.absentOr name [] (Json.list? (Workload.read? kind)) = some workloads) :
    ∀ w ∈ workloads, w.kind = kind := by
  intro w hw
  rw [Members.absentOr] at h
  split at h
  · obtain rfl := Option.some.inj h
    cases hw
  · obtain ⟨items, -, hitems⟩ := Option.bind_eq_some_iff.mp h
    obtain ⟨item, hitem⟩ := Json.exists_of_mem_mapM hitems hw
    exact Workload.kind_of_read hitem
  · cases h

/-- Workloads that were read are grouped. -/
theorem isGrouped_of_read {value : Json} {c : Controllers}
    (h : Controllers.read? value = some c) : c.IsGrouped := by
  simp only [Controllers.read?, Option.bind_eq_bind, Option.bind_eq_some_iff] at h
  obtain ⟨m, -, deployment, hdeployment, daemonSet, hdaemonSet, statefulSet, hstatefulSet, job,
    hjob, cronJob, hcronJob, h⟩ := h
  obtain rfl := Option.some.inj h
  intro kind
  cases kind with
  | deployment => exact kind_of_absentOr hdeployment
  | daemonSet => exact kind_of_absentOr hdaemonSet
  | statefulSet => exact kind_of_absentOr hstatefulSet
  | job => exact kind_of_absentOr hjob
  | cronJob => exact kind_of_absentOr hcronJob

end Controllers

/-- **The workloads of a resource that was read are grouped.** -/
theorem SelectiveDeployment.isGrouped_of_read {value : Json} {o : SelectiveDeployment}
    (h : SelectiveDeployment.read? value = some o) : o.spec.controllers.IsGrouped := by
  simp only [SelectiveDeployment.read?, Option.bind_eq_bind, Option.bind_eq_some_iff] at h
  obtain ⟨members, -, metadata, -, spec, hspec, status, -, h⟩ := h
  obtain rfl := Option.some.inj h
  rw [Members.required] at hspec
  split at hspec
  · simp only [Spec.read?, Option.bind_eq_bind, Option.bind_eq_some_iff] at hspec
    obtain ⟨m, -, controllers, hcontrollers, selector, -, recovery, -, hspec⟩ := hspec
    obtain rfl := Option.some.inj hspec
    rw [Spec.controllers?] at hcontrollers
    split at hcontrollers
    · obtain rfl := Option.some.inj hcontrollers
      intro kind w hw
      cases kind <;> cases hw
    · exact Controllers.isGrouped_of_read hcontrollers
    · cases hcontrollers
  · cases hspec

end GeoPlacement
