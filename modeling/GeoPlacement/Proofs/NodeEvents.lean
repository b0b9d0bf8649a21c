import GeoPlacement.Proofs.NodeGain
import GeoPlacement.Proofs.Picking
import Mathlib.Data.Prod.Lex
import Mathlib.Data.String.Basic

/-!
# Whom a node event affects

A node event affects resources for up to three reasons: a node that is new or has moved concerns
all who own a workload on its hostname, a node that is lost those of them who asked for recovery,
and a node that has come back those who wait for nodes. Which of these apply is decided by the
tracker, that is, by all events before. This module says it by the history itself: what counts is
the node of this name as it was **last applied**, if it was not deleted since.

## Main results

* `Fingerprint.addresses_ofNode_eq_iff`: fingerprints tell nodes apart by their addresses, whatever
  the order in which these are listed.
* `lastSighting?_eq_some_iff`: the last sighting of a name is the node as it was last applied.
* `Trigger.answer_congr`: events about other nodes and the order of addresses have no influence.
* `Trigger.answer_exact`: whom an event affects, by the history.
-/

namespace GeoPlacement

/-! ### Addresses -/

/-- Type and address of each address of a node. -/
def Node.addressPairs (n : Node) : List (String × String) :=
  n.addresses.map fun a => (a.type, a.address)

namespace Fingerprint

/-- Addresses are in the order of their types, and within a type in their own. -/
theorem addressLe_iff {a b : String × String} : addressLe a b = true ↔ toLex a ≤ toLex b := by
  rw [Prod.Lex.toLex_le_toLex, addressLe, Bool.or_eq_true, Bool.and_eq_true, decide_eq_true_iff,
    beq_iff_eq, decide_eq_true_iff]

/-- The addresses of a fingerprint are in order. -/
theorem pairwise_addresses_ofNode (n : Node) :
    (ofNode n).addresses.Pairwise fun a b => addressLe a b = true := by
  refine List.pairwise_mergeSort (fun a b c hab hbc => ?_) (fun a b => ?_) _
  · rw [addressLe_iff] at hab hbc ⊢
    exact hab.trans hbc
  · rw [Bool.or_eq_true, addressLe_iff, addressLe_iff]
    exact le_total _ _

/-- **Fingerprints** have the same addresses iff the nodes have them, each as often. -/
theorem addresses_ofNode_eq_iff {m n : Node} :
    (ofNode m).addresses = (ofNode n).addresses ↔ m.addressPairs.Perm n.addressPairs := by
  have hm : (ofNode m).addresses.Perm m.addressPairs := List.mergeSort_perm _ _
  have hn : (ofNode n).addresses.Perm n.addressPairs := List.mergeSort_perm _ _
  constructor
  · intro h
    exact hm.symm.trans (h ▸ hn)
  · intro h
    have hanti : ∀ a b : String × String, addressLe a b = true → addressLe b a = true → a = b := by
      intro a b hab hba
      rw [addressLe_iff] at hab hba
      exact toLex.injective (le_antisymm hab hba)
    exact List.Perm.eq_of_pairwise (fun a b _ _ => hanti a b) (pairwise_addresses_ofNode m)
      (pairwise_addresses_ofNode n) (hm.trans (h.trans hn.symm))

end Fingerprint

/-! ### Histories -/

namespace WatchEvent

/-- Whether an event is about the nodes of a name. -/
def concerns (name : String) : WatchEvent Node → Bool
  | .apply node | .initApply node | .delete node => node.trackedName == name
  | .init | .initDone => false

/-- Whether an event **applies** a node: lists it, or says that it is new or has changed. -/
def Applies (event : WatchEvent Node) (node : Node) : Prop :=
  event = .apply node ∨ event = .initApply node

end WatchEvent

/-- Whether the node of a name was **last applied** as the given one: it was applied so, and no
event since was about the name. A name that was never applied, or was deleted since, has no such
node. -/
def LastApplied (history : List (WatchEvent Node)) (name : String) (old : Node) : Prop :=
  ∃ earlier event later, history = earlier ++ event :: later ∧ event.Applies old ∧
    old.trackedName = name ∧ ∀ other ∈ later, WatchEvent.concerns name other = false

/-- One more event is the last one about the name, or it is not about the name. -/
theorem lastApplied_concat_iff {history : List (WatchEvent Node)} {event : WatchEvent Node}
    {name : String} {old : Node} : LastApplied (history ++ [event]) name old ↔
      event.Applies old ∧ old.trackedName = name ∨
        event.concerns name = false ∧ LastApplied history name old := by
  constructor
  · rintro ⟨earlier, applied, later, hsplit, happlies, hname, hlater⟩
    rcases List.eq_nil_or_concat later with rfl | ⟨later, last, rfl⟩
    · obtain ⟨-, hlast⟩ := List.append_inj' hsplit rfl
      obtain rfl : event = applied := List.singleton_injective hlast
      exact .inl ⟨happlies, hname⟩
    · rw [List.concat_eq_append, ← List.cons_append, ← List.append_assoc] at hsplit
      obtain ⟨hhistory, hlast⟩ := List.append_inj' hsplit rfl
      obtain rfl : event = last := List.singleton_injective hlast
      refine .inr ⟨hlater event (by simp), earlier, applied, later, hhistory, happlies, hname, ?_⟩
      exact fun other hother => hlater other (by simp [hother])
  · rintro (⟨happlies, hname⟩ | ⟨hquiet, earlier, applied, later, rfl, happlies, hname, hlater⟩)
    · exact ⟨history, event, [], rfl, happlies, hname, by simp⟩
    · refine ⟨earlier, applied, later ++ [event], by simp, happlies, hname, fun other hother => ?_⟩
      rcases List.mem_append.mp hother with hmem | hmem
      · exact hlater other hmem
      · rwa [List.mem_singleton.mp hmem]

/-- **The last sighting** of a name is its node as it was last applied. -/
theorem lastSighting?_eq_some_iff {history : List (WatchEvent Node)} {name : String} {old : Node} :
    lastSighting? history name = some old ↔ LastApplied history name old := by
  induction history using List.reverseRecOn with
  | nil => simp [lastSighting?, LastApplied]
  | append_singleton history event ih =>
      have happly : ∀ node : Node, (if node.trackedName = name then some node
            else lastSighting? history name) = some old ↔
          node = old ∧ old.trackedName = name ∨
            (node.trackedName == name) = false ∧ LastApplied history name old := by
        intro node
        by_cases hname : node.trackedName = name
        · simp only [hname, if_true, Option.some.injEq, beq_self_eq_true, Bool.true_eq_false,
            false_and, or_false]
          exact ⟨fun h => ⟨h, h ▸ hname⟩, And.left⟩
        · have hother : ¬ (node = old ∧ old.trackedName = name) := fun h => hname (h.1 ▸ h.2)
          simp [hname, hother, ih]
      rw [lastSighting?_concat, lastApplied_concat_iff]
      cases event with
      | init => simp [WatchEvent.sighting?, WatchEvent.Applies, WatchEvent.concerns, ih]
      | initDone => simp [WatchEvent.sighting?, WatchEvent.Applies, WatchEvent.concerns, ih]
      | apply node =>
          simpa [WatchEvent.sighting?, WatchEvent.Applies, WatchEvent.concerns] using happly node
      | initApply node =>
          simpa [WatchEvent.sighting?, WatchEvent.Applies, WatchEvent.concerns] using happly node
      | delete node =>
          by_cases hname : node.trackedName = name <;>
            simp [WatchEvent.sighting?, WatchEvent.Applies, WatchEvent.concerns, hname, ih]

/-- A name has no sighting iff it was never applied, or was deleted since. -/
theorem lastSighting?_eq_none_iff {history : List (WatchEvent Node)} {name : String} :
    lastSighting? history name = none ↔ ¬ ∃ old, LastApplied history name old := by
  simp only [← lastSighting?_eq_some_iff, Option.eq_none_iff_forall_ne_some, not_exists]

/-- Events about other names do not change what is sighted of a name. -/
theorem lastSighting?_filter (history : List (WatchEvent Node)) (name : String) :
    lastSighting? (history.filter (WatchEvent.concerns name)) name =
      lastSighting? history name := by
  have hquiet : ∀ (event : WatchEvent Node) (before : Option Node), event.concerns name = false →
      event.sighting? name before = before := by
    intro event before h
    cases event <;> simp_all [WatchEvent.concerns, WatchEvent.sighting?]
  induction history using List.reverseRecOn with
  | nil => rfl
  | append_singleton history event ih =>
      rw [List.filter_append, List.filter_singleton, lastSighting?_concat]
      cases h : event.concerns name with
      | true => rw [cond_true, lastSighting?_concat, ih]
      | false => rw [cond_false, List.append_nil, ih, hquiet event _ h]

/-! ### Nodes that are alike -/

/-- Two nodes are **alike** if they differ at most in the order of their addresses, and in what has
no influence on where workloads may be. -/
structure Node.Alike (m n : Node) : Prop where
  metadata : m.metadata = n.metadata
  eligible : m.isEligible = n.isEligible
  addresses : m.addressPairs.Perm n.addressPairs

namespace Node.Alike

variable {m n : Node}

/-- Nodes that are alike have one fingerprint. -/
theorem fingerprint (h : m.Alike n) : Fingerprint.ofNode m = Fingerprint.ofNode n := by
  rw [Fingerprint.mk.injEq]
  exact ⟨Fingerprint.addresses_ofNode_eq_iff.mpr h.addresses, h.eligible⟩

/-- They are tracked under one name. -/
theorem trackedName (h : m.Alike n) : m.trackedName = n.trackedName := by
  rw [Node.trackedName, h.metadata, Node.trackedName]

/-- They have one hostname. -/
theorem hostname (h : m.Alike n) : m.hostname = n.hostname := by
  rw [Node.hostname, h.metadata, Node.hostname]

end Node.Alike

/-- Two events are alike if they say the same of nodes that are alike. -/
inductive WatchEvent.Alike : WatchEvent Node → WatchEvent Node → Prop
  | init : Alike .init .init
  | initApply {m n : Node} (h : m.Alike n) : Alike (.initApply m) (.initApply n)
  | initDone : Alike .initDone .initDone
  | apply {m n : Node} (h : m.Alike n) : Alike (.apply m) (.apply n)
  | delete {m n : Node} (h : m.Alike n) : Alike (.delete m) (.delete n)

/-- After events that are alike, what is sighted of a name has the same fingerprint. -/
theorem WatchEvent.Alike.sighting? {event event' : WatchEvent Node} (h : event.Alike event')
    {name : String} {before before' : Option Node}
    (hbefore : before.map Fingerprint.ofNode = before'.map Fingerprint.ofNode) :
    (event.sighting? name before).map Fingerprint.ofNode =
      (event'.sighting? name before').map Fingerprint.ofNode := by
  cases h with
  | init => exact hbefore
  | initDone => exact hbefore
  | apply h | initApply h =>
      rw [WatchEvent.sighting?, WatchEvent.sighting?, h.trackedName]
      split
      · rw [Option.map_some, Option.map_some, h.fingerprint]
      · exact hbefore
  | delete h =>
      rw [WatchEvent.sighting?, WatchEvent.sighting?, h.trackedName]
      split
      · rfl
      · exact hbefore

/-- So it is after histories that are alike event by event. They are followed from their beginning,
whatever was sighted before. -/
theorem map_ofNode_lastSighting?_congr {history history' : List (WatchEvent Node)}
    (h : List.Forall₂ WatchEvent.Alike history history') (name : String) :
    (lastSighting? history name).map Fingerprint.ofNode =
      (lastSighting? history' name).map Fingerprint.ofNode := by
  have hfold : ∀ before before' : Option Node,
      before.map Fingerprint.ofNode = before'.map Fingerprint.ofNode →
      (history.foldl (WatchEvent.sighting? name) before).map Fingerprint.ofNode =
        (history'.foldl (WatchEvent.sighting? name) before').map Fingerprint.ofNode := by
    induction h with
    | nil => exact fun _ _ hbefore => hbefore
    | cons hevent _ ih =>
        intro before before' hbefore
        exact ih _ _ (hevent.sighting? hbefore)
  exact hfold none none rfl

namespace Trigger

/-! ### Answers -/

/-- What a trigger is asked about: an event, with the index and the resources as they are then. -/
structure Occasion where
  event : WatchEvent Node
  index : WorkloadIndex
  resources : Cache SelectiveDeployment

/-- The tracker after some occasions, one after another. -/
def trackerAfter (occasions : List Occasion) : NodeTracker :=
  occasions.foldl (fun t o => (affected t o.index o.resources o.event).2) {}

/-- Whom an event **affects** after some occasions. -/
def answer (occasions : List Occasion) (index : WorkloadIndex)
    (resources : Cache SelectiveDeployment) (event : WatchEvent Node) : List ObjectRef :=
  (affected (trackerAfter occasions) index resources event).1

variable {occasions : List Occasion} {index : WorkloadIndex}
  {resources : Cache SelectiveDeployment} {event : WatchEvent Node} {node : Node}

/-- The tracker evolves with the events alone. -/
theorem trackerAfter_eq (occasions : List Occasion) :
    trackerAfter occasions = (NodeView.run (occasions.map Occasion.event)).tracker := by
  induction occasions using List.reverseRecOn with
  | nil => rfl
  | append_singleton occasions o ih =>
      rw [List.map_append, List.map_singleton, NodeView.run_concat, NodeView.observe, ← ih,
        trackerAfter, List.foldl_append]
      exact affected_snd ..

/-- How a node that is applied **differs from its last sighting** in a history. -/
def changeSince (history : List (WatchEvent Node)) (node : Node) : NodeChange :=
  NodeTracker.change ((lastSighting? history node.trackedName).map .ofNode) (.ofNode node)

/-- Whom an event affects that applies a node is a matter of how the node differs. -/
theorem answer_of_applies (h : event.Applies node) : answer occasions index resources event =
    affectedByChange index resources node.hostname
      (changeSince (occasions.map Occasion.event) node) := by
  rw [changeSince, ← NodeView.remembered?_run, ← trackerAfter_eq, ← NodeTracker.observe_fst]
  rcases h with rfl | rfl <;> rfl

/-- A deleted node is answered with those who are on it and recover. -/
theorem answer_of_delete : answer occasions index resources (.delete node) =
    recovering resources (index.ownersOf node.hostname) :=
  rfl

/-- Nobody is named twice. -/
theorem nodup_answer (occasions : List Occasion) (index : WorkloadIndex)
    (resources : Cache SelectiveDeployment) (event : WatchEvent Node) :
    (answer occasions index resources event).Nodup := by
  have hchange : ∀ (hostname : String) (change : NodeChange),
      (affectedByChange index resources hostname change).Nodup := fun hostname change =>
    nodup_eraseDups _
  cases event with
  | init => exact List.nodup_nil
  | initDone => exact List.nodup_nil
  | apply node => exact hchange _ _
  | initApply node => exact hchange _ _
  | delete node => exact (nodup_eraseDups _).filter _

/-- **Nothing else has an influence**: neither events about other nodes, nor the order of
addresses, nor the index and the resources of earlier occasions. -/
theorem answer_congr {occasions' : List Occasion} {event' : WatchEvent Node}
    (hevent : event.Alike event')
    (hhistory : ∀ name, event.concerns name = true → List.Forall₂ WatchEvent.Alike
      ((occasions.map Occasion.event).filter (WatchEvent.concerns name))
      ((occasions'.map Occasion.event).filter (WatchEvent.concerns name))) :
    answer occasions index resources event = answer occasions' index resources event' := by
  have happly : ∀ {m n : Node} {e e' : WatchEvent Node}, m.Alike n → e.Applies m → e'.Applies n →
      List.Forall₂ WatchEvent.Alike
        ((occasions.map Occasion.event).filter (WatchEvent.concerns m.trackedName))
        ((occasions'.map Occasion.event).filter (WatchEvent.concerns m.trackedName)) →
      answer occasions index resources e = answer occasions' index resources e' := by
    intro m n e e' halike hm hn hsame
    have hseen := map_ofNode_lastSighting?_congr hsame m.trackedName
    rw [lastSighting?_filter, lastSighting?_filter] at hseen
    rw [answer_of_applies hm, answer_of_applies hn, changeSince, changeSince, hseen,
      halike.trackedName, halike.fingerprint, halike.hostname]
  cases hevent with
  | init => rfl
  | initDone => rfl
  | apply halike => exact happly halike (.inl rfl) (.inl rfl) (hhistory _ (beq_self_eq_true _))
  | initApply halike => exact happly halike (.inr rfl) (.inr rfl) (hhistory _ (beq_self_eq_true _))
  | delete halike => rw [answer_of_delete, answer_of_delete, halike.hostname]

/-- A node counts as new or moved iff it was not applied before, or has other addresses than when
it was last applied. -/
theorem readdressed_changeSince_iff {history : List (WatchEvent Node)} :
    (changeSince history node).readdressed = true ↔
      (¬ ∃ old, LastApplied history node.trackedName old) ∨
        ∃ old, LastApplied history node.trackedName old ∧
          ¬ old.addressPairs.Perm node.addressPairs := by
  rw [changeSince, NodeTracker.readdressed_change_iff, Option.map_eq_none_iff,
    lastSighting?_eq_none_iff]
  refine or_congr_right ?_
  simp only [Option.map_eq_some_iff, lastSighting?_eq_some_iff]
  constructor
  · rintro ⟨_, ⟨old, hold, rfl⟩, hmoved⟩
    exact ⟨old, hold, fun hperm => hmoved (Fingerprint.addresses_ofNode_eq_iff.mpr hperm)⟩
  · rintro ⟨old, hold, hmoved⟩
    exact ⟨_, ⟨old, hold, rfl⟩, fun hsame =>
      hmoved (Fingerprint.addresses_ofNode_eq_iff.mp hsame)⟩

/-- A node counts as lost or come back iff it was last applied the other way. -/
theorem available_changeSince_iff {history : List (WatchEvent Node)} {available : Bool} :
    (changeSince history node).available = some available ↔
      node.isEligible = available ∧
        ∃ old, LastApplied history node.trackedName old ∧ old.isEligible = !available := by
  rw [changeSince, NodeTracker.available_change_iff]
  refine and_congr_right fun _ => ?_
  simp only [Option.map_eq_some_iff, lastSighting?_eq_some_iff]
  constructor
  · rintro ⟨_, ⟨old, hold, rfl⟩, havailable⟩
    exact ⟨old, hold, havailable⟩
  · rintro ⟨old, hold, havailable⟩
    exact ⟨_, ⟨old, hold, rfl⟩, havailable⟩

/-- **Whom a node event affects**, after any occasions. An event that applies a node affects, each
once: the owners of workloads on its hostname if it was not applied before or has other addresses
than when it was last applied; those of them that asked for recovery if it was eligible then and is
not now; and all who wait for nodes if it was not and is now. An event that deletes it affects the
owners that asked for recovery. Lists affect nobody as they begin and end. What was said of other
nodes before, and the order of addresses, has no influence. -/
theorem answer_exact (occasions : List Occasion) (index : WorkloadIndex)
    (resources : Cache SelectiveDeployment) :
    (∀ (node : Node) (event : WatchEvent Node), event.Applies node →
      (answer occasions index resources event).Nodup ∧
      ∀ ref, ref ∈ answer occasions index resources event ↔
        ref ∈ index.ownersOf node.hostname ∧
          ((¬ ∃ old, LastApplied (occasions.map Occasion.event) node.trackedName old) ∨
            ∃ old, LastApplied (occasions.map Occasion.event) node.trackedName old ∧
              ¬ old.addressPairs.Perm node.addressPairs) ∨
        (ref ∈ index.ownersOf node.hostname ∧
            ∃ object, resources.get? ref = some object ∧ object.spec.recovery = true) ∧
          node.isEligible = false ∧
          (∃ old, LastApplied (occasions.map Occasion.event) node.trackedName old ∧
            old.isEligible = true) ∨
        (∃ object ∈ resources.objects, object.AwaitsNodes ∧ object.reference = ref) ∧
          node.isEligible = true ∧
          (∃ old, LastApplied (occasions.map Occasion.event) node.trackedName old ∧
            old.isEligible = false)) ∧
    (∀ node : Node, (answer occasions index resources (.delete node)).Nodup ∧
      ∀ ref, ref ∈ answer occasions index resources (.delete node) ↔
        ref ∈ index.ownersOf node.hostname ∧
          ∃ object, resources.get? ref = some object ∧ object.spec.recovery = true) ∧
    answer occasions index resources .init = [] ∧
    answer occasions index resources .initDone = [] ∧
    ∀ (occasions' : List Occasion) (event event' : WatchEvent Node), event.Alike event' →
      (∀ name, event.concerns name = true → List.Forall₂ WatchEvent.Alike
        ((occasions.map Occasion.event).filter (WatchEvent.concerns name))
        ((occasions'.map Occasion.event).filter (WatchEvent.concerns name))) →
      answer occasions index resources event = answer occasions' index resources event' := by
  refine ⟨fun node event happlies => ⟨nodup_answer .., fun ref => ?_⟩,
    fun node => ⟨nodup_answer .., fun ref => ?_⟩, rfl, rfl,
    fun occasions' event event' hevent hhistory => answer_congr hevent hhistory⟩
  · rw [answer_of_applies happlies, mem_affectedByChange_iff, readdressed_changeSince_iff,
      available_changeSince_iff, available_changeSince_iff, mem_recovering_iff, mem_degraded_iff]
    rfl
  · rw [answer_of_delete, mem_recovering_iff]

/-- A node was closed to new pods when it was last applied, before another one was deleted, and is
open now. -/
theorem answer_exact_uncordoned : unplaced.reference ∈ answer
    [⟨.apply (cordonedNode "fr-1"), {}, onlyUnplaced⟩, ⟨.delete (readyNode "us-1"), {}, {}⟩]
    {} onlyUnplaced (.apply (readyNode "fr-1")) := by
  have hlast : LastApplied [.apply (cordonedNode "fr-1"), .delete (readyNode "us-1")] "fr-1"
      (cordonedNode "fr-1") :=
    ⟨[], _, [.delete (readyNode "us-1")], rfl, .inl rfl, rfl, by decide⟩
  have hback : (readyNode "fr-1").isEligible = true ∧ (cordonedNode "fr-1").isEligible = false := by
    decide
  have hwaits : ∃ object ∈ onlyUnplaced.objects, object.AwaitsNodes ∧
      object.reference = unplaced.reference :=
    ⟨unplaced, List.mem_singleton_self _, awaitsNodes_unplaced, rfl⟩
  have hexact := ((answer_exact [⟨.apply (cordonedNode "fr-1"), {}, onlyUnplaced⟩,
    ⟨.delete (readyNode "us-1"), {}, {}⟩] {} onlyUnplaced).1 (readyNode "fr-1") _ (.inl rfl)).2
  exact (hexact _).mpr (.inr (.inr ⟨hwaits, hback.1, _, hlast, hback.2⟩))

end Trigger

end GeoPlacement
