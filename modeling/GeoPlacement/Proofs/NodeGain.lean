import GeoPlacement.Proofs.NodeLoss

/-!
# Nodes that come back

A node is gained when an event makes the store hold it as eligible that did not hold it so before.
Resources that asked for recovery and are not fully placed wait for such nodes. Whether they are
told is a matter of the last sighting of the node, with which the tracker compares it. A node that
was seen as not eligible has come back, and everyone who waits is told. A node without a sighting,
because it was never seen or was deleted since, has nothing to be compared with. It counts as new,
and tells only those who have workloads on its hostname already.

## Main results

* `Trigger.mem_degraded_iff`: who waits for nodes.
* `Trigger.gain_noticed`: a node that comes back is noticed by all of them.
* `Trigger.not_gain_noticed`: a node that joins the cluster is not.
-/

namespace GeoPlacement

/-! ### Waiting for nodes -/

/-- Whether a resource **waits for nodes**: it asked for recovery, and its status says that it is
placed in part or not at all. -/
structure SelectiveDeployment.AwaitsNodes (object : SelectiveDeployment) : Prop where
  recovery : object.spec.recovery = true
  status : ∃ status, object.status = some status ∧
    (status.state = .partly ∨ status.state = .failure)

namespace NodeTracker

variable {t : NodeTracker} {node : Node}

/-- A node that was not eligible when it was seen last and is now has come back. -/
theorem available_of_regained {old : Fingerprint}
    (hold : t.remembered? node.trackedName = some old) (hlost : old.available = false)
    (hnow : node.isEligible = true) : (t.observe node).1.available = some true := by
  rw [observe_fst, available_change_iff]
  exact ⟨hnow, old, hold, hlost⟩

end NodeTracker

namespace Trigger

/-- **Who waits for nodes** is found in the cache of resources. -/
theorem mem_degraded_iff {resources : Cache SelectiveDeployment} {ref : ObjectRef} :
    ref ∈ degraded resources ↔
      ∃ object ∈ resources.objects, object.AwaitsNodes ∧ object.reference = ref := by
  have hawaits : ∀ object : SelectiveDeployment,
      (object.spec.recovery && isDegraded object) = true ↔ object.AwaitsNodes := by
    intro object
    rw [isDegraded, Bool.and_eq_true, Option.any_eq_true]
    simp only [Bool.or_eq_true, beq_iff_eq]
    exact ⟨fun ⟨hrecovery, hstatus⟩ => ⟨hrecovery, hstatus⟩, fun h => ⟨h.recovery, h.status⟩⟩
  simp only [degraded, List.mem_map, List.mem_filter, hawaits, and_assoc]

/-- Whether an event **reaches all who wait** for nodes, whatever the index and the resources are.
-/
def ReachesWaiting (t : NodeTracker) (event : WatchEvent Node) : Prop :=
  ∀ (index : WorkloadIndex) (resources : Cache SelectiveDeployment),
    ∀ object ∈ resources.objects, object.AwaitsNodes →
      object.reference ∈ (affected t index resources event).1

variable {t : NodeTracker} {node : Node}

/-- A node that comes back reaches all who wait for nodes. -/
theorem reachesWaiting_of_regained {old : Fingerprint}
    (hold : t.remembered? node.trackedName = some old) (hlost : old.available = false)
    (hnow : node.isEligible = true) : ReachesWaiting t (.apply node) := by
  intro index resources object hobject hawaits
  have hwaits : object.reference ∈ degraded resources :=
    mem_degraded_iff.mpr ⟨object, hobject, hawaits, rfl⟩
  exact mem_affectedByChange_iff.mpr
    (.inr (.inr ⟨hwaits, NodeTracker.available_of_regained hold hlost hnow⟩))

/-- A node that is new to the tracker reaches those who own workloads on its hostname. -/
theorem mem_affected_of_new (hnew : t.remembered? node.trackedName = none) (index : WorkloadIndex)
    (resources : Cache SelectiveDeployment) (ref : ObjectRef) :
    ref ∈ (affected t index resources (.apply node)).1 ↔ ref ∈ index.ownersOf node.hostname := by
  have hchange : ref ∈ affectedByChange index resources node.hostname (t.observe node).1 ↔
      ref ∈ index.ownersOf node.hostname := by
    rw [NodeTracker.observe_fst, hnew, mem_affectedByChange_iff]
    simp [NodeTracker.change]
  exact hchange

end Trigger

/-! ### Nodes that are gained -/

/-- Whether the node under a reference is **gained** by an event: the store holds it as eligible
after the event and did not before, because it held it as not eligible or not at all. -/
structure NodeView.Gains (v : NodeView) (event : WatchEvent Node) (ref : ObjectRef) : Prop where
  before : ∀ node, v.store.kept? ref = some node → node.isEligible = false
  after : ∃ node, (v.observe event).store.kept? ref = some node ∧ node.isEligible = true

namespace NodeView

variable {v : NodeView} {ref : ObjectRef} {now : Node}

/-- The node that is gained by a change is the one that was changed. -/
theorem Gains.of_apply (h : v.Gains (.apply now) ref) (hopen : v.store.hasEnded = false) :
    now.reference = ref ∧ now.isEligible = true := by
  obtain ⟨node, hnode, heligible⟩ := h.after
  rw [observe, Cache.kept?_observe_apply _ _ _ hopen] at hnode
  split at hnode
  · next href =>
    obtain rfl := Option.some.inj hnode
    exact ⟨href, heligible⟩
  · exact absurd (heligible.symm.trans (h.before node hnode)) (by decide)

end NodeView

namespace Trigger

open NodeView

variable {history : List (WatchEvent Node)} {ref : ObjectRef} {now : Node}

/-- **A node that comes back is noticed.** Single changes are delivered, and one of them makes the
store hold a node as eligible that it did not hold so before. If the store held the node at all, or
the node was not eligible when it was seen last, then everyone who waits for nodes is reached. If
there is no sighting of the node, because it was never seen or was deleted since, then those are
reached who own workloads on its hostname. -/
theorem gain_noticed (hhistory : Delivered history .watching) (hnow : now.IsClusterWide)
    (hgain : (run history).Gains (.apply now) ref) :
    ((run history).store.kept? ref ≠ none → ReachesWaiting (run history).tracker (.apply now)) ∧
      (∀ old, lastSighting? history now.trackedName = some old → old.isEligible = false →
        ReachesWaiting (run history).tracker (.apply now)) ∧
      (lastSighting? history now.trackedName = none →
        ∀ (index : WorkloadIndex) (resources : Cache SelectiveDeployment) (other : ObjectRef),
          other ∈ (affected (run history).tracker index resources (.apply now)).1 ↔
            other ∈ index.ownersOf now.hostname) := by
  have hagrees := agrees_of_delivered hhistory
  obtain ⟨href, heligible⟩ := hgain.of_apply hagrees.isOpen
  refine ⟨fun hheld => ?_, fun old hold hlost => ?_, fun hnone index resources other => ?_⟩
  · obtain ⟨old, hold⟩ := Option.ne_none_iff_exists'.mp hheld
    obtain ⟨hwide, hsame⟩ := hagrees.held ref old hold
    have hremembered := hagrees.watched rfl ref old hold
    rw [(hwide.trackedName_inj hnow).mp (hsame.trans href.symm)] at hremembered
    exact reachesWaiting_of_regained hremembered (hgain.before old hold) heligible
  · have hremembered := remembered?_run history now.trackedName
    rw [hold] at hremembered
    exact reachesWaiting_of_regained hremembered hlost heligible
  · have hremembered := remembered?_run history now.trackedName
    rw [hnone] at hremembered
    exact mem_affected_of_new hremembered index resources other

/-- A resource that asked for recovery and could not be placed. -/
def unplaced : SelectiveDeployment :=
  { patient with status := some { ready := "0/1", state := .failure } }

/-- A cache that keeps this resource only. -/
def onlyUnplaced : Cache SelectiveDeployment where
  content := ⟨[(unplaced.reference, unplaced)], List.nodup_singleton _⟩

/-- It waits for nodes. -/
theorem awaitsNodes_unplaced : unplaced.AwaitsNodes :=
  ⟨rfl, _, rfl, .inr rfl⟩

/-- A watch that lists the node `fr-1` as closed to new pods, and does so again when it begins
anew. -/
theorem delivered_cordoned : Delivered [.init, .initApply (cordonedNode "fr-1"), .initDone, .init,
    .initApply (cordonedNode "fr-1"), .initDone] .watching :=
  (((((Delivered.start.next (.init _)).next (.initApply ⟨⟨_, rfl⟩, rfl⟩ (by simp))).next
    (.initDone _)).next (.init _)).next (.initApply ⟨⟨_, rfl⟩, rfl⟩ (by simp))).next (.initDone _)

/-- The node `fr-1` is opened to pods again. -/
theorem gain_noticed_uncordoned : unplaced.reference ∈
    (affected (run [.init, .initApply (cordonedNode "fr-1"), .initDone, .init,
      .initApply (cordonedNode "fr-1"), .initDone]).tracker {} onlyUnplaced
      (.apply (readyNode "fr-1"))).1 := by
  have hgain : (run [.init, .initApply (cordonedNode "fr-1"), .initDone, .init,
      .initApply (cordonedNode "fr-1"), .initDone]).Gains (.apply (readyNode "fr-1"))
      ⟨none, "fr-1"⟩ := by
    refine ⟨fun node hnode => ?_, readyNode "fr-1", rfl, by decide⟩
    obtain rfl : cordonedNode "fr-1" = node := Option.some.inj hnode
    decide
  exact (gain_noticed delivered_cordoned ⟨⟨_, rfl⟩, rfl⟩ hgain).1 (Option.some_ne_none _) {}
    onlyUnplaced unplaced (List.mem_singleton_self _) awaitsNodes_unplaced

/-- **Not every node that is gained is noticed**: one that joins the cluster as eligible, after a
list that was empty, reaches nobody who waits. -/
theorem not_gain_noticed :
    ¬ ∀ (history : List (WatchEvent Node)) (now : Node) (ref : ObjectRef),
      Delivered history .watching → now.IsClusterWide → (run history).Gains (.apply now) ref →
        ReachesWaiting (run history).tracker (.apply now) := by
  intro h
  have hhistory : Delivered [.init, .initDone] .watching :=
    (Delivered.start.next (.init _)).next (.initDone _)
  have hgain : (run [.init, .initDone]).Gains (.apply (readyNode "fr-1")) ⟨none, "fr-1"⟩ :=
    ⟨fun node hnode => (by cases hnode), readyNode "fr-1", rfl, by decide⟩
  have hreached := h _ _ _ hhistory ⟨⟨_, rfl⟩, rfl⟩ hgain {} onlyUnplaced unplaced
    (List.mem_singleton_self _) awaitsNodes_unplaced
  exact List.not_mem_nil ((mem_affected_of_new rfl {} onlyUnplaced _).mp hreached)

end Trigger

end GeoPlacement
