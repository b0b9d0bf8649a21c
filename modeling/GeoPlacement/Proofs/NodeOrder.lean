import GeoPlacement.Proofs.NodeLoss
import Mathlib.Data.List.Sort
import Mathlib.Data.String.Basic

/-!
# The order of nodes

A store of nodes hands its nodes out in whatever order it keeps them, which depends on how they
came in. Selections are cut to a quantity, and affinities are compared as lists; so passes work with
the nodes in the order of their names. This module shows that this order is a canonical one: two
stores that hold the same eligible nodes, however they came to hold them and whatever else they
hold, lead to the same placement.

## Main results

* `isInventory_nodesAfter`: whatever the events were, a store holds one node for each name.
* `pairwise_snapshot`: in the order of their names, the nodes of a store ascend strictly.
* `placement_canonical`: placement depends on the eligible nodes alone.
-/

namespace GeoPlacement

/-! ### Stores of nodes -/

/-- The store of nodes after some events, in whatever order they came. -/
def nodesAfter (history : List (WatchEvent Node)) : Cache Node :=
  history.foldl (Cache.observe Node.reference) {}

/-- Whether an event is about a node that has a name and belongs to the whole cluster, if it is
about a node. -/
def WatchEvent.IsClusterWide : WatchEvent Node → Prop
  | .apply node | .initApply node | .delete node => node.IsClusterWide
  | .init | .initDone => True

/-- Whether a table holds nodes of a cluster, each under its reference. -/
def Table.IsKeyed (t : Table ObjectRef Node) : Prop :=
  ∀ ref node, t.get? ref = some node → node.IsClusterWide ∧ node.reference = ref

namespace Table.IsKeyed

variable {t : Table ObjectRef Node} {node : Node}

theorem empty : (Table.empty : Table ObjectRef Node).IsKeyed := by
  intro ref node h
  cases h

/-- A table stays keyed when it takes in a node under the reference of that node. -/
theorem insert (h : t.IsKeyed) (hnode : node.IsClusterWide) :
    (t.insert node.reference node).IsKeyed := by
  intro ref other hother
  rw [get?_insert] at hother
  split at hother
  · next href =>
    obtain rfl := Option.some.inj hother
    exact ⟨hnode, href⟩
  · exact h ref other hother

/-- A table stays keyed when a node is taken out. -/
theorem erase (h : t.IsKeyed) (ref : ObjectRef) : (t.erase ref).IsKeyed := by
  intro query other hother
  rw [get?_erase] at hother
  split at hother
  · cases hother
  · exact h query other hother

end Table.IsKeyed

/-- Whether some nodes can be those of one cluster: all have a name and belong to the whole cluster,
and no two of them share a name. -/
structure IsInventory (nodes : List Node) : Prop where
  wide : ∀ node ∈ nodes, node.IsClusterWide
  distinct : (nodes.map Node.trackedName).Nodup

/-- Whether nodes can be those of one cluster does not depend on their order. -/
theorem IsInventory.perm {nodes nodes' : List Node} (h : IsInventory nodes)
    (hperm : nodes'.Perm nodes) : IsInventory nodes' where
  wide node hnode := h.wide node (hperm.mem_iff.mp hnode)
  distinct := (hperm.map Node.trackedName).nodup_iff.mpr h.distinct

/-- A table of nodes under their references has one for each name. -/
theorem Table.IsKeyed.isInventory {t : Table ObjectRef Node} (h : t.IsKeyed) :
    IsInventory t.values := by
  have hentry : ∀ entry ∈ t.entries, entry.2.IsClusterWide ∧ entry.2.reference = entry.1 :=
    fun entry hmem => h entry.1 entry.2 ((t.mem_entries_iff entry.1 entry.2).mp hmem)
  refine ⟨fun node hnode => ?_, ?_⟩
  · obtain ⟨entry, hmem, rfl⟩ := List.mem_map.mp hnode
    exact (hentry entry hmem).1
  · have hkeys : t.entries.map Prod.fst =
        (t.values.map Node.trackedName).map fun name => ⟨none, name⟩ := by
      rw [values, List.map_map, List.map_map]
      refine List.map_congr_left fun entry hmem => ?_
      rw [← (hentry entry hmem).2, (hentry entry hmem).1.reference_eq]
      rfl
    exact (hkeys ▸ t.distinct).of_map _

/-- Whether a cache of nodes holds them under their references, also those of a list that is under
way. -/
structure Cache.IsKeyed (c : Cache Node) : Prop where
  content : c.content.IsKeyed
  incoming : c.incoming.IsKeyed

/-- An event keeps it so. -/
theorem Cache.IsKeyed.observe {c : Cache Node} {event : WatchEvent Node} (h : c.IsKeyed)
    (hevent : event.IsClusterWide) : (c.observe Node.reference event).IsKeyed := by
  unfold Cache.observe
  split
  · exact h
  · cases event with
    | init => exact ⟨h.content, .empty⟩
    | initApply node => exact ⟨h.content, h.incoming.insert hevent⟩
    | initDone => exact ⟨h.incoming, .empty⟩
    | apply node => exact ⟨h.content.insert hevent, h.incoming⟩
    | delete node => exact ⟨h.content.erase _, h.incoming⟩

/-- **A store holds one node for each name**, whatever the events were. -/
theorem isInventory_nodesAfter {history : List (WatchEvent Node)}
    (h : ∀ event ∈ history, event.IsClusterWide) : IsInventory (nodesAfter history).objects := by
  have hkeyed : (nodesAfter history).IsKeyed := by
    induction history using List.reverseRecOn with
    | nil => exact ⟨.empty, .empty⟩
    | append_singleton history event ih =>
        have hbefore := ih fun other hmem => h other (List.mem_append_left _ hmem)
        have hafter : nodesAfter (history ++ [event]) =
            (nodesAfter history).observe Node.reference event := by
          rw [nodesAfter, List.foldl_append]
          rfl
        rw [hafter]
        exact hbefore.observe (h event (by simp))
  exact hkeyed.content.isInventory

/-! ### Names in order -/

/-- The order of optional names is transitive. -/
theorem nameLe_trans {a b c : Option String} (hab : nameLe a b = true) (hbc : nameLe b c = true) :
    nameLe a c = true := by
  cases a with
  | none => rfl
  | some a =>
      cases b with
      | none => cases hab
      | some b =>
          cases c with
          | none => cases hbc
          | some c =>
              rw [nameLe, decide_eq_true_iff] at hab hbc ⊢
              exact hab.trans hbc

/-- Of two optional names one comes no later than the other. -/
theorem nameLe_total (a b : Option String) : (nameLe a b || nameLe b a) = true := by
  cases a with
  | none => rfl
  | some a =>
      cases b with
      | none => rfl
      | some b =>
          rw [nameLe, nameLe, Bool.or_eq_true, decide_eq_true_iff, decide_eq_true_iff]
          exact le_total a b

/-- The nodes of a store in order are its nodes. -/
theorem perm_snapshot (store : Cache Node) : (snapshot store).Perm store.objects :=
  List.mergeSort_perm _ _

/-- **The order of names** ascends strictly, as each name stands once. -/
theorem pairwise_snapshot {store : Cache Node} (h : IsInventory store.objects) :
    (snapshot store).Pairwise fun a b => a.trackedName < b.trackedName := by
  have hinventory := h.perm (perm_snapshot store)
  have hle : (snapshot store).Pairwise fun a b => nameLe a.metadata.name b.metadata.name := by
    rw [snapshot]
    refine List.pairwise_mergeSort (fun a b c hab hbc => ?_) (fun a b => ?_) _
    · exact nameLe_trans hab hbc
    · exact nameLe_total _ _
  have hne : (snapshot store).Pairwise fun a b => a.trackedName ≠ b.trackedName :=
    List.pairwise_map.mp hinventory.distinct
  refine List.Pairwise.imp_of_mem (fun {a b} ha hb hab => ?_) (hle.and hne)
  obtain ⟨name, hname⟩ := (hinventory.wide a ha).named
  obtain ⟨name', hname'⟩ := (hinventory.wide b hb).named
  have htracked : a.trackedName = name := by
    rw [Node.trackedName, Metadata.displayName, hname]; rfl
  have htracked' : b.trackedName = name' := by
    rw [Node.trackedName, Metadata.displayName, hname']; rfl
  have hnames : name ≤ name' := by
    have hname_le := hab.1
    rwa [hname, hname', nameLe, decide_eq_true_iff] at hname_le
  rw [htracked, htracked']
  exact lt_of_le_of_ne hnames (htracked ▸ htracked' ▸ hab.2)

/-- Nodes whose names ascend strictly are determined by which nodes they are. -/
theorem eq_of_ascending {nodes nodes' : List Node}
    (h : nodes.Pairwise fun a b => a.trackedName < b.trackedName)
    (h' : nodes'.Pairwise fun a b => a.trackedName < b.trackedName)
    (hmem : ∀ node, node ∈ nodes ↔ node ∈ nodes') : nodes = nodes' := by
  have hne : ∀ a b : Node, a.trackedName < b.trackedName → a ≠ b := by
    rintro a b hlt rfl
    exact lt_irrefl _ hlt
  have hperm : nodes.Perm nodes' :=
    (List.perm_ext_iff_of_nodup (h.imp fun hlt => hne _ _ hlt) (h'.imp fun hlt => hne _ _ hlt)).mpr
      hmem
  exact List.Perm.eq_of_pairwise (fun a b _ _ hab hba => (lt_asymm hab hba).elim) h h' hperm

/-! ### Eligible nodes in order -/

/-- A node that is not eligible gives no entry. -/
theorem ofNode?_eq_none {node : Node} (h : node.isEligible = false) :
    EligibleNode.ofNode? node = none := by
  rw [EligibleNode.ofNode?, h]
  rfl

/-- An eligible node gives one. -/
theorem exists_ofNode? {node : Node} (h : node.isEligible = true) :
    ∃ entry, EligibleNode.ofNode? node = some entry := by
  rw [EligibleNode.ofNode?, if_pos h]
  exact ⟨_, rfl⟩

/-- Among some nodes, the eligible ones have an entry each. -/
theorem map_some_filterMap_ofNode? (nodes : List Node) :
    (nodes.filterMap EligibleNode.ofNode?).map some =
      (nodes.filter Node.isEligible).map EligibleNode.ofNode? := by
  induction nodes with
  | nil => rfl
  | cons node rest ih =>
      cases h : node.isEligible with
      | false =>
          rw [List.filterMap_cons_none (ofNode?_eq_none h), ih,
            List.filter_cons_of_neg (Bool.eq_false_iff.mp h)]
      | true =>
          obtain ⟨entry, hentry⟩ := exists_ofNode? h
          rw [List.filterMap_cons_some hentry, List.filter_cons_of_pos h, List.map_cons,
            List.map_cons, ih, hentry]

/-- A node is eligible iff it is ready, open to pods, and without a taint that keeps them away. -/
theorem isEligible_iff {node : Node} : node.isEligible = true ↔
    node.isReady = true ∧ node.isUnschedulable = false ∧ node.isTainted = false := by
  simp only [Node.isEligible, Bool.and_eq_true, Bool.not_eq_true', and_assoc]

/-- **The order of nodes is canonical.** Two stores went through any events about nodes of a
cluster, and hand out their nodes in any order. If they hold the same eligible nodes, whatever other
nodes they hold, then both give the same list: one entry for each of these nodes, which are the
ready ones that are open to pods and have no taint that keeps them away, in the order of their
names. And so the placement of any resource is the same. -/
theorem placement_canonical (spec : Spec) (placed : List (List String))
    (history history' : List (WatchEvent Node)) (store store' : Cache Node)
    (hwide : ∀ event ∈ history, event.IsClusterWide)
    (hwide' : ∀ event ∈ history', event.IsClusterWide)
    (hlisted : store.objects.Perm (nodesAfter history).objects)
    (hlisted' : store'.objects.Perm (nodesAfter history').objects)
    (hsame : ∀ node, node.isEligible = true → (node ∈ store.objects ↔ node ∈ store'.objects)) :
    (∃ nodes : List Node, nodes.Pairwise (fun a b => a.trackedName < b.trackedName) ∧
      (∀ node, node ∈ nodes ↔ node ∈ store.objects ∧
        node.isReady = true ∧ node.isUnschedulable = false ∧ node.isTainted = false) ∧
      (eligibleNodes store).map some = nodes.map EligibleNode.ofNode?) ∧
    eligibleNodes store = eligibleNodes store' ∧
    Plan.make spec (eligibleNodes store) placed = Plan.make spec (eligibleNodes store') placed := by
  have hascending : ((snapshot store).filter Node.isEligible).Pairwise
      fun a b => a.trackedName < b.trackedName :=
    (pairwise_snapshot ((isInventory_nodesAfter hwide).perm hlisted)).filter _
  have hascending' : ((snapshot store').filter Node.isEligible).Pairwise
      fun a b => a.trackedName < b.trackedName :=
    (pairwise_snapshot ((isInventory_nodesAfter hwide').perm hlisted')).filter _
  have hmem : ∀ (s : Cache Node) (node : Node), node ∈ (snapshot s).filter Node.isEligible ↔
      node ∈ s.objects ∧ node.isEligible = true := fun s node => by
    rw [List.mem_filter, (perm_snapshot s).mem_iff]
  have hnodes : (snapshot store).filter Node.isEligible =
      (snapshot store').filter Node.isEligible := by
    refine eq_of_ascending hascending hascending' fun node => ?_
    rw [hmem, hmem]
    exact and_congr_left (hsame node)
  have heligible : eligibleNodes store = eligibleNodes store' := by
    refine List.map_injective_iff.mpr (Option.some_injective _) ?_
    rw [eligibleNodes, eligibleNodes, map_some_filterMap_ofNode?, map_some_filterMap_ofNode?,
      hnodes]
  refine ⟨⟨_, hascending, fun node => ?_, map_some_filterMap_ofNode? _⟩, heligible, ?_⟩
  · rw [hmem, isEligible_iff]
  · rw [heligible]

/-- Nodes are heard of one by one, in another order than that of their names, and one of them is
closed to new pods. -/
def heardSingly : List (WatchEvent Node) :=
  [.apply (Trigger.readyNode "fr-2"), .apply (Trigger.cordonedNode "us-1"),
    .apply (Trigger.readyNode "fr-1")]

/-- The same nodes are listed in order, without the one that is closed to new pods and with one that
is deleted later. -/
def heardListed : List (WatchEvent Node) :=
  [.init, .initApply (Trigger.readyNode "de-1"), .initApply (Trigger.readyNode "fr-1"),
    .initApply (Trigger.readyNode "fr-2"), .initDone, .delete (Trigger.readyNode "de-1")]

/-- A resource that wants one node, wherever it is. -/
def anywhere : Spec where
  selector := [{ name := "Country", value := [], operator := .noneOf, quantity := 1 }]

/-- Both lead to the same placement. -/
theorem placement_canonical_listed :
    eligibleNodes (nodesAfter heardSingly) = eligibleNodes (nodesAfter heardListed) ∧
      Plan.make anywhere (eligibleNodes (nodesAfter heardSingly)) [["us-1"]] =
        Plan.make anywhere (eligibleNodes (nodesAfter heardListed)) [["us-1"]] := by
  have hready : ∀ name, (Trigger.readyNode name).IsClusterWide := fun name => ⟨⟨name, rfl⟩, rfl⟩
  have hcordoned : (Trigger.cordonedNode "us-1").IsClusterWide := ⟨⟨"us-1", rfl⟩, rfl⟩
  have hsingly : (nodesAfter heardSingly).objects = [Trigger.readyNode "fr-2",
      Trigger.cordonedNode "us-1", Trigger.readyNode "fr-1"] := rfl
  have hlisted : (nodesAfter heardListed).objects =
      [Trigger.readyNode "fr-1", Trigger.readyNode "fr-2"] := rfl
  refine (placement_canonical anywhere [["us-1"]] heardSingly heardListed _ _ ?_ ?_ (.refl _)
    (.refl _) fun node heligible => ?_).2
  · simp [heardSingly, WatchEvent.IsClusterWide, hready, hcordoned]
  · simp [heardListed, WatchEvent.IsClusterWide, hready]
  · have hopen : node ≠ Trigger.cordonedNode "us-1" := by
      rintro rfl
      exact absurd heligible (by decide)
    rw [hsingly, hlisted]
    simp [hopen, or_comm]

end GeoPlacement
