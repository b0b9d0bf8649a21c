import GeoPlacement.Cluster.Memory
import GeoPlacement.Controller.Index
import Mathlib.Data.List.Nodup
import Mathlib.Tactic.Set

/-!
# Reading the index of workloads

The placement of a resource is read off the index of workloads: of those that the resource
controls, the first by name tells where all of them are. This module says what an index has to do
with a cluster, which owners it finds on a hostname, and what is read back as the placement where
the workloads share one affinity.

## Main results

* `WorkloadIndex.mem_ownersOf_iff`: which resources own a workload on a hostname.
* `WorkloadIndex.placementOf_eq`: what is read back where the workloads share one affinity.
* `WorkloadIndex.holds_ofCluster`: there is an index for everything that a cluster may store.
-/

namespace GeoPlacement

namespace WorkloadIndex

/-- **Owners on a hostname**: the resources that some indexed workload refers to which names the
hostname. -/
theorem mem_ownersOf_iff {index : WorkloadIndex} {hostname : String} {ref : ObjectRef} :
    ref ∈ index.ownersOf hostname ↔
      ∃ w ∈ index.workloads, w.namesHost hostname = true ∧ ref ∈ w.ownerRefs := by
  simp only [ownersOf, List.mem_eraseDups, List.mem_flatMap, List.mem_filter, and_assoc]

/-- The first of some placements is one of them, and there is one unless there are none. -/
theorem exists_first {l : List (String × List (List String))} (h : l ≠ []) :
    ∃ x ∈ l, first? l = some x := by
  induction l with
  | nil => exact absurd rfl h
  | cons head rest ih =>
      rw [first?]
      cases hrest : rest with
      | nil => exact ⟨head, List.mem_cons_self, rfl⟩
      | cons next others =>
          obtain ⟨x, hx, hfirst⟩ := ih (by simp [hrest])
          rw [← hrest, hfirst]
          dsimp only
          split
          · exact ⟨x, List.mem_cons_of_mem _ hx, rfl⟩
          · exact ⟨head, List.mem_cons_self, rfl⟩

/-- Whether an index holds exactly the workloads that a cluster stores. -/
def Holds (index : WorkloadIndex) (c : Cluster) : Prop :=
  ∀ kind w, w ∈ (index.ofKind kind).objects ↔ ∃ key, key.kind = kind ∧ c.stored key = some w

/-- An index that holds a cluster lists what is stored under any key. -/
theorem Holds.mem_workloads_iff {index : WorkloadIndex} {c : Cluster} (h : index.Holds c)
    {w : Workload} : w ∈ index.workloads ↔ ∃ key, c.stored key = some w := by
  rw [workloads, List.mem_flatMap]
  constructor
  · rintro ⟨kind, -, hw⟩
    obtain ⟨key, -, hstored⟩ := (h kind w).mp hw
    exact ⟨key, hstored⟩
  · rintro ⟨key, hstored⟩
    exact ⟨key.kind, by cases key.kind <;> decide, (h key.kind w).mpr ⟨key, rfl, hstored⟩⟩

/-- **What is read back** where all workloads of a resource share one affinity, and there is one. -/
theorem placementOf_eq {index : WorkloadIndex} {c : Cluster} {object : SelectiveDeployment}
    {uid : String} {affinity : Option NodeAffinity} (hholds : index.Holds c)
    (huid : object.uid = some uid)
    (hshared : ∀ key w, c.stored key = some w → w.isControlledBy uid = true →
      w.nodeAffinity = affinity)
    (hsome : ∃ key w, c.stored key = some w ∧ w.isControlledBy uid = true) :
    index.placementOf object = (affinity.map NodeAffinity.hostnames).getD [] := by
  obtain ⟨key, w, hw, hcontrolled⟩ := hsome
  set own := index.workloads.filter (·.isControlledBy uid) with hown
  have hmem : ∀ w ∈ own, w.nodeAffinity = affinity := by
    intro w hw
    obtain ⟨hw, hcontrolled⟩ := List.mem_filter.mp hw
    obtain ⟨key, hstored⟩ := hholds.mem_workloads_iff.mp hw
    exact hshared key w hstored hcontrolled
  have hin : w ∈ own := List.mem_filter.mpr ⟨hholds.mem_workloads_iff.mpr ⟨key, hw⟩, hcontrolled⟩
  rw [placementOf, huid]
  dsimp only
  rw [← hown]
  cases haffinity : affinity with
  | none =>
      have hnothing : own.filterMap placed? = [] := by
        refine List.filterMap_eq_nil_iff.mpr fun w hw => ?_
        rw [placed?, hmem w hw, haffinity, Option.map_none]
      rw [hnothing]
      rfl
  | some a =>
      have hplaced : ∀ w ∈ own, placed? w = some (w.metadata.displayName, a.hostnames) := by
        intro w hw
        rw [placed?, hmem w hw, haffinity, Option.map_some]
      have hne : own.filterMap placed? ≠ [] :=
        List.ne_nil_of_mem (List.mem_filterMap.mpr ⟨w, hin, hplaced w hin⟩)
      obtain ⟨x, hx, hfirst⟩ := exists_first hne
      obtain ⟨w', hw', hx⟩ := List.mem_filterMap.mp hx
      rw [hplaced w' hw'] at hx
      rw [hfirst, ← Option.some.inj hx]
      rfl

/-! ### The index of a cluster -/

/-- The stored workloads of a kind by namespace and name. -/
def entriesOfKind (c : Cluster) (kind : Kind) : List (ObjectRef × Workload) :=
  (c.workloads.entries.filter (·.1.kind = kind)).map fun entry =>
    (⟨some entry.1.inNamespace, entry.1.name⟩, entry.2)

/-- The stored workloads of a kind have distinct references. Within one kind, namespace and name are
the whole key. -/
theorem nodup_entriesOfKind (c : Cluster) (kind : Kind) :
    ((entriesOfKind c kind).map Prod.fst).Nodup := by
  have hkeys : ((c.workloads.entries.filter (·.1.kind = kind)).map Prod.fst).Nodup :=
    c.workloads.distinct.sublist (List.filter_sublist.map _)
  have hmap : (entriesOfKind c kind).map Prod.fst =
      ((c.workloads.entries.filter (·.1.kind = kind)).map Prod.fst).map
        fun key => (⟨some key.inNamespace, key.name⟩ : ObjectRef) := by
    simp [entriesOfKind, Function.comp_def]
  rw [hmap]
  refine hkeys.map_on fun a ha b hb hsame => ?_
  have hkind : ∀ key ∈ (c.workloads.entries.filter (·.1.kind = kind)).map Prod.fst,
      key.kind = kind := by
    simp only [List.mem_map, List.mem_filter, decide_eq_true_eq]
    rintro key ⟨entry, ⟨-, h⟩, rfl⟩
    exact h
  obtain ⟨hnamespace, hname⟩ := ObjectRef.mk.inj hsame
  cases a
  cases b
  simp_all

/-- The index of what a cluster stores. -/
def ofCluster (c : Cluster) : WorkloadIndex where
  ofKind kind := { content := ⟨entriesOfKind c kind, nodup_entriesOfKind c kind⟩, isReady := true }

/-- The index of what a cluster stores holds it. -/
theorem holds_ofCluster (c : Cluster) : (ofCluster c).Holds c := by
  intro kind w
  have hobjects : ((ofCluster c).ofKind kind).objects = (entriesOfKind c kind).map Prod.snd := rfl
  rw [hobjects]
  simp only [entriesOfKind, List.map_map, List.mem_map, List.mem_filter, decide_eq_true_eq,
    Function.comp_apply]
  constructor
  · rintro ⟨⟨key, w⟩, ⟨hmem, hkind⟩, rfl⟩
    exact ⟨key, hkind, (c.workloads.mem_entries_iff key w).mp hmem⟩
  · rintro ⟨key, hkind, hstored⟩
    exact ⟨(key, w), ⟨(c.workloads.mem_entries_iff key w).mpr hstored, hkind⟩, rfl⟩

end WorkloadIndex

end GeoPlacement
