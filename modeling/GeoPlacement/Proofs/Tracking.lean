import GeoPlacement.Controller.Context
import Mathlib.Data.List.Induction

/-!
# The store of nodes and the tracker

Two states evolve from the events of the watch of nodes: the store, which takes the nodes of a list
over all at once when the list is complete, and the tracker, which remembers each node as soon as it
is listed. `NodeView` holds both. This module says which events a watch can deliver and how far the
two agree then.

## What a watch delivers

A watch begins with a list: `init`, one `initApply` for each node, each name once, and `initDone`.
Single changes follow. At any time the watch may break off and list again; a list that breaks off
starts over. Nodes have a name and belong to the whole cluster.

## Main results

* `NodeView.agrees_of_delivered`: between lists, the tracker remembers every node as the store holds
  it; within a list, it remembers the nodes listed so far as they were listed.
* `Delivered.exists_listing`: the events of a list that is under way.
* `NodeView.remembered?_run`: the tracker remembers the last sighting of every name.
-/

namespace GeoPlacement

/-! ### Nodes of a cluster -/

/-- Whether a node has a name and belongs to the whole cluster. -/
structure Node.IsClusterWide (n : Node) : Prop where
  named : ∃ name, n.metadata.name = some name
  inNamespace : n.metadata.inNamespace = none

/-- The name by which the tracker knows a node. -/
def Node.trackedName (n : Node) : String :=
  n.metadata.displayName

/-- The store and the tracker know the nodes of a cluster by the same name. -/
theorem Node.IsClusterWide.reference_eq {n : Node} (h : n.IsClusterWide) :
    n.reference = ⟨none, n.trackedName⟩ := by
  obtain ⟨name, hname⟩ := h.named
  simp [Node.reference, Metadata.reference, Node.trackedName, Metadata.displayName, hname,
    h.inNamespace]

/-- Nodes of one reference have one name. -/
theorem Node.IsClusterWide.trackedName_inj {m n : Node} (hm : m.IsClusterWide)
    (hn : n.IsClusterWide) : m.reference = n.reference ↔ m.trackedName = n.trackedName := by
  rw [hm.reference_eq, hn.reference_eq, ObjectRef.mk.injEq]
  simp

/-! ### The tracker -/

namespace NodeTracker

/-- What is remembered of a name. -/
def remembered? (t : NodeTracker) (name : String) : Option Fingerprint :=
  t.seen.get? name

/-- The tracker after an event. -/
def after (t : NodeTracker) : WatchEvent Node → NodeTracker
  | .apply node | .initApply node => (t.observe node).2
  | .delete node => t.forget node
  | .init | .initDone => t

variable (t : NodeTracker) (node : Node) (name : String)

/-- A node that is applied is remembered as it is, and the others stay as they were. -/
theorem remembered?_after_apply : (t.after (.apply node)).remembered? name =
    if node.trackedName = name then some (.ofNode node) else t.remembered? name :=
  Table.get?_insert ..

/-- So is a node of a list. -/
theorem remembered?_after_initApply : (t.after (.initApply node)).remembered? name =
    if node.trackedName = name then some (.ofNode node) else t.remembered? name :=
  Table.get?_insert ..

/-- A node that is deleted is forgotten. -/
theorem remembered?_after_delete : (t.after (.delete node)).remembered? name =
    if node.trackedName = name then none else t.remembered? name :=
  Table.get?_erase ..

/-- What is made of a node is a matter of what is remembered of its name. -/
theorem observe_fst : (t.observe node).1 =
    change (t.remembered? node.trackedName) (.ofNode node) :=
  rfl

variable {previous : Option Fingerprint} {current : Fingerprint}

/-- A node counts as new or moved iff nothing is remembered of it, or other addresses are. -/
theorem readdressed_change_iff : (change previous current).readdressed = true ↔
    previous = none ∨ ∃ old, previous = some old ∧ old.addresses ≠ current.addresses := by
  cases previous <;> simp [change]

/-- A node counts as lost or come back iff the contrary is remembered of it. -/
theorem available_change_iff {available : Bool} :
    (change previous current).available = some available ↔
      current.available = available ∧ ∃ old, previous = some old ∧ old.available = !available := by
  cases previous with
  | none => simp [change]
  | some old =>
      cases hold : old.available <;> cases hcurrent : current.available <;> cases available <;>
        simp [change, hold, hcurrent]

end NodeTracker

/-- Whom a node event affects plays no part in what is remembered after it. -/
theorem Trigger.affected_snd (t : NodeTracker) (index : WorkloadIndex)
    (resources : Cache SelectiveDeployment) (event : WatchEvent Node) :
    (Trigger.affected t index resources event).2 = t.after event := by
  cases event <;> rfl

/-! ### The events of a watch -/

/-- How far the watch of nodes has come. -/
inductive WatchPhase
  /-- Nothing was delivered yet. -/
  | starting
  /-- A list is under way, and these nodes were listed so far. -/
  | listing (nodes : List Node)
  /-- The last list is complete, and single changes are delivered. -/
  | watching

/-- Whether the watch **delivers** an event in a phase, and the phase after it. -/
inductive WatchPhase.Delivers : WatchPhase → WatchEvent Node → WatchPhase → Prop
  | init (phase : WatchPhase) : Delivers phase .init (.listing [])
  | initApply {nodes : List Node} {node : Node} (hnode : node.IsClusterWide)
      (hnew : ∀ other ∈ nodes, other.trackedName ≠ node.trackedName) :
      Delivers (.listing nodes) (.initApply node) (.listing (nodes ++ [node]))
  | initDone (nodes : List Node) : Delivers (.listing nodes) .initDone .watching
  | apply {node : Node} (hnode : node.IsClusterWide) : Delivers .watching (.apply node) .watching
  | delete {node : Node} (hnode : node.IsClusterWide) : Delivers .watching (.delete node) .watching

/-- Whether the watch can have **delivered** the events of a history, from its start to a phase. -/
inductive Delivered : List (WatchEvent Node) → WatchPhase → Prop
  | start : Delivered [] .starting
  | next {history : List (WatchEvent Node)} {phase phase' : WatchPhase} {event : WatchEvent Node}
      (hhistory : Delivered history phase) (hevent : phase.Delivers event phase') :
      Delivered (history ++ [event]) phase'

/-- **A list that is under way** is the end of the history: its `init` and the nodes listed. -/
theorem Delivered.exists_listing {history : List (WatchEvent Node)} {nodes : List Node}
    (h : Delivered history (.listing nodes)) :
    ∃ earlier phase, Delivered earlier phase ∧
      history = earlier ++ .init :: nodes.map .initApply := by
  generalize hphase : WatchPhase.listing nodes = phase at h
  induction h generalizing nodes with
  | start => cases hphase
  | @next history phase phase' event hhistory hevent ih =>
      cases hevent with
      | init phase =>
          cases hphase
          exact ⟨history, phase, hhistory, rfl⟩
      | initApply hnode hnew =>
          cases hphase
          obtain ⟨earlier, phase, hearlier, rfl⟩ := ih rfl
          exact ⟨earlier, phase, hearlier, by simp⟩
      | initDone nodes => cases hphase
      | apply hnode => cases hphase
      | delete hnode => cases hphase

/-! ### The two states -/

/-- The store of nodes, with the tracker beside it. -/
structure NodeView where
  store : Cache Node := {}
  tracker : NodeTracker := {}

namespace NodeView

/-- Both states after an event. -/
def observe (v : NodeView) (event : WatchEvent Node) : NodeView :=
  ⟨v.store.observe Node.reference event, v.tracker.after event⟩

/-- Both states after a history. -/
def run (history : List (WatchEvent Node)) : NodeView :=
  history.foldl observe {}

/-- The last event of a history is observed after all others. -/
theorem run_concat (history : List (WatchEvent Node)) (event : WatchEvent Node) :
    run (history ++ [event]) = (run history).observe event := by
  rw [run, run, List.foldl_append]
  rfl

/-- How far the two states **agree** in a phase. -/
structure Agrees (v : NodeView) (phase : WatchPhase) : Prop where
  isOpen : v.store.hasEnded = false
  /-- Nodes are held under their references. -/
  held : ∀ ref node, v.store.kept? ref = some node → node.IsClusterWide ∧ node.reference = ref
  /-- Between lists, every node is remembered as it is held. -/
  watched : phase = .watching → ∀ ref node, v.store.kept? ref = some node →
    v.tracker.remembered? node.trackedName = some (.ofNode node)
  /-- Within a list, the nodes listed so far are kept aside and remembered as they were listed. -/
  listed : ∀ nodes, phase = .listing nodes →
    (∀ ref node, v.store.incoming.get? ref = some node ↔ node ∈ nodes ∧ node.reference = ref) ∧
    (∀ node ∈ nodes, node.IsClusterWide ∧
      v.tracker.remembered? node.trackedName = some (.ofNode node)) ∧
    (nodes.map Node.trackedName).Nodup

variable {v : NodeView}

/-- The two states agree at the start. -/
theorem agrees_start : ({} : NodeView).Agrees .starting where
  isOpen := rfl
  held _ _ h := by cases h
  watched h := by cases h
  listed _ h := by cases h

/-- A list begins with nothing kept aside. -/
theorem Agrees.init {phase : WatchPhase} (h : v.Agrees phase) :
    (v.observe .init).Agrees (.listing []) where
  isOpen := (Cache.hasEnded_observe ..).trans h.isOpen
  held ref node hnode := by
    rw [observe, Cache.kept?_observe_init] at hnode
    exact h.held ref node hnode
  watched hphase := by cases hphase
  listed nodes hphase := by
    cases hphase
    refine ⟨fun ref node => ?_, by simp, List.nodup_nil⟩
    rw [observe, Cache.incoming_observe_init _ h.isOpen, Table.get?_empty]
    simp

/-- A node that is listed is kept aside and remembered. Those listed before it have other names, and
so they stay as they were. -/
theorem Agrees.initApply {nodes : List Node} {node : Node} (h : v.Agrees (.listing nodes))
    (hnode : node.IsClusterWide) (hnew : ∀ other ∈ nodes, other.trackedName ≠ node.trackedName) :
    (v.observe (.initApply node)).Agrees (.listing (nodes ++ [node])) where
  isOpen := (Cache.hasEnded_observe ..).trans h.isOpen
  held ref other hother := by
    rw [observe, Cache.kept?_observe_initApply] at hother
    exact h.held ref other hother
  watched hphase := by cases hphase
  listed all hphase := by
    cases hphase
    obtain ⟨hincoming, hlisted, hnodup⟩ := h.listed nodes rfl
    refine ⟨fun ref other => ?_, fun other hother => ?_, ?_⟩
    · rw [observe, Cache.incoming_observe_initApply _ _ h.isOpen, Table.get?_insert]
      rw [List.mem_append, List.mem_singleton]
      by_cases href : node.reference = ref
      · have hgone : ¬ (other ∈ nodes ∧ other.reference = ref) := by
          rintro ⟨hmem, hsame⟩
          exact hnew other hmem
            (((hlisted other hmem).1.trackedName_inj hnode).mp (hsame.trans href.symm))
        rw [if_pos href, Option.some.injEq, or_and_right]
        exact ⟨fun h => .inr ⟨h.symm, h ▸ href⟩, fun h => (h.resolve_left hgone).1.symm⟩
      · rw [if_neg href, hincoming, or_and_right]
        exact ⟨.inl, fun h => h.resolve_right fun hother => href (hother.1 ▸ hother.2)⟩
    · rw [observe, NodeTracker.remembered?_after_initApply]
      rcases List.mem_append.mp hother with hmem | hmem
      · rw [if_neg (hnew other hmem).symm]
        exact hlisted other hmem
      · obtain rfl := List.mem_singleton.mp hmem
        exact ⟨hnode, if_pos rfl⟩
    · rw [List.map_append, List.map_singleton, List.nodup_append]
      refine ⟨hnodup, List.pairwise_singleton _ _, fun a ha b hb => ?_⟩
      obtain ⟨other, hother, rfl⟩ := List.mem_map.mp ha
      rw [List.mem_singleton.mp hb]
      exact hnew other hother

/-- Once the list is complete, all nodes that are held were listed. -/
theorem Agrees.initDone {nodes : List Node} (h : v.Agrees (.listing nodes)) :
    (v.observe .initDone).Agrees .watching := by
  obtain ⟨hincoming, hlisted, -⟩ := h.listed nodes rfl
  have hheld : ∀ ref node, (v.observe .initDone).store.kept? ref = some node →
      node ∈ nodes ∧ node.reference = ref := by
    intro ref node hnode
    rw [observe, Cache.kept?_observe_initDone _ _ h.isOpen] at hnode
    exact (hincoming ref node).mp hnode
  exact {
    isOpen := (Cache.hasEnded_observe ..).trans h.isOpen
    held := fun ref node hnode =>
      ⟨(hlisted node (hheld ref node hnode).1).1, (hheld ref node hnode).2⟩
    watched := fun _ ref node hnode => (hlisted node (hheld ref node hnode).1).2
    listed := fun _ hphase => by cases hphase }

/-- A node that is new or has changed is held and remembered alike. -/
theorem Agrees.apply {node : Node} (h : v.Agrees .watching) (hnode : node.IsClusterWide) :
    (v.observe (.apply node)).Agrees .watching := by
  have hkept := fun ref => Cache.kept?_observe_apply Node.reference node ref h.isOpen
  exact {
    isOpen := (Cache.hasEnded_observe ..).trans h.isOpen
    held := fun ref other hother => by
      rw [observe, hkept] at hother
      split at hother
      · next href =>
        obtain rfl := Option.some.inj hother
        exact ⟨hnode, href⟩
      · exact h.held ref other hother
    watched := fun _ ref other hother => by
      rw [observe, hkept] at hother
      rw [observe, NodeTracker.remembered?_after_apply]
      split at hother
      · obtain rfl := Option.some.inj hother
        exact if_pos rfl
      · next href =>
        obtain ⟨hwide, hsame⟩ := h.held ref other hother
        rw [if_neg fun hname => href (((hnode.trackedName_inj hwide).mpr hname).trans hsame)]
        exact h.watched rfl ref other hother
    listed := fun _ hphase => by cases hphase }

/-- A node that is gone is neither held nor remembered. -/
theorem Agrees.delete {node : Node} (h : v.Agrees .watching) (hnode : node.IsClusterWide) :
    (v.observe (.delete node)).Agrees .watching := by
  have hkept := fun ref => Cache.kept?_observe_delete Node.reference node ref h.isOpen
  exact {
    isOpen := (Cache.hasEnded_observe ..).trans h.isOpen
    held := fun ref other hother => by
      rw [observe, hkept] at hother
      split at hother
      · cases hother
      · exact h.held ref other hother
    watched := fun _ ref other hother => by
      rw [observe, hkept] at hother
      rw [observe, NodeTracker.remembered?_after_delete]
      split at hother
      · cases hother
      · next href =>
        obtain ⟨hwide, hsame⟩ := h.held ref other hother
        rw [if_neg fun hname => href (((hnode.trackedName_inj hwide).mpr hname).trans hsame)]
        exact h.watched rfl ref other hother
    listed := fun _ hphase => by cases hphase }

/-- **The two states agree** after every history that a watch can deliver. -/
theorem agrees_of_delivered {history : List (WatchEvent Node)} {phase : WatchPhase}
    (h : Delivered history phase) : (run history).Agrees phase := by
  induction h with
  | start => exact agrees_start
  | @next history phase phase' event hhistory hevent ih =>
      rw [run_concat]
      cases hevent with
      | init phase => exact ih.init
      | initApply hnode hnew => exact ih.initApply hnode hnew
      | initDone nodes => exact ih.initDone
      | apply hnode => exact ih.apply hnode
      | delete hnode => exact ih.delete hnode

end NodeView

/-! ### Sightings -/

/-- The sighting of a name after an event, from the one before it. -/
def WatchEvent.sighting? (name : String) (before : Option Node) : WatchEvent Node → Option Node
  | .apply node | .initApply node => if node.trackedName = name then some node else before
  | .delete node => if node.trackedName = name then none else before
  | .init | .initDone => before

/-- The **last sighting** of a name in a history: the node as it was last listed, new or changed,
and none if it never was, or was deleted since. -/
def lastSighting? (history : List (WatchEvent Node)) (name : String) : Option Node :=
  history.foldl (WatchEvent.sighting? name) none

/-- The last event of a history updates the last sighting. -/
theorem lastSighting?_concat (history : List (WatchEvent Node)) (event : WatchEvent Node)
    (name : String) : lastSighting? (history ++ [event]) name =
      event.sighting? name (lastSighting? history name) := by
  rw [lastSighting?, lastSighting?, List.foldl_append]
  rfl

/-- **What the tracker remembers** is the last sighting of every name. It takes no notice of how
lists begin and end. -/
theorem NodeView.remembered?_run (history : List (WatchEvent Node)) (name : String) :
    (run history).tracker.remembered? name = (lastSighting? history name).map .ofNode := by
  induction history using List.reverseRecOn with
  | nil => rfl
  | append_singleton history event ih =>
      rw [run_concat, observe, lastSighting?_concat]
      cases event with
      | init => exact ih
      | initDone => exact ih
      | initApply node =>
          rw [NodeTracker.remembered?_after_initApply, WatchEvent.sighting?, ih]
          split <;> rfl
      | apply node =>
          rw [NodeTracker.remembered?_after_apply, WatchEvent.sighting?, ih]
          split <;> rfl
      | delete node =>
          rw [NodeTracker.remembered?_after_delete, WatchEvent.sighting?, ih]
          split <;> rfl

end GeoPlacement
