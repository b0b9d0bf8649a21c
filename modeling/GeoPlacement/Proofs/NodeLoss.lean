import GeoPlacement.Proofs.ReadBack
import GeoPlacement.Proofs.Tracking
import Mathlib.Data.List.Induction

/-!
# Lost nodes

A node is lost when the store of nodes no longer holds it as eligible. The resources that asked for
recovery and have workloads on it are then to be placed anew. Whether they are told is a matter of
the tracker alone: an event tells of a hostname if it is about a node of this hostname that is gone,
or that the tracker does not remember as it is. `Trigger.notices_iff` says that exactly such events
reach all resources concerned, whatever the index and the resources are.

`Trigger.loss_noticed_iff` sets this beside the store. Single changes and nodes that a list shows as
no longer eligible are noticed. Nodes that a list leaves out are not: the store drops them when the
list is complete, and no event is about them. `Trigger.not_loss_noticed` is the smallest case.

## Main results

* `Trigger.notices_iff`: which events notice what may become of a hostname.
* `Trigger.loss_noticed_iff`: when a lost node is noticed.
* `Trigger.not_loss_noticed`: it is not always noticed.
-/

namespace GeoPlacement

/-! ### Events that tell of a hostname -/

namespace NodeTracker

/-- Whether a node is **noteworthy**: it is new to the tracker, has other addresses than it is
remembered with, or is no longer eligible. -/
def IsNoteworthy (t : NodeTracker) (node : Node) : Prop :=
  ∀ old, t.remembered? node.trackedName = some old →
    old.addresses ≠ (Fingerprint.ofNode node).addresses ∨
      old.available = true ∧ node.isEligible = false

variable {t : NodeTracker} {node : Node} {hostname : String}

/-- Whether a node is noteworthy depends only on what is remembered of it. -/
theorem isNoteworthy_congr {t' : NodeTracker}
    (h : t.remembered? node.trackedName = t'.remembered? node.trackedName) :
    t.IsNoteworthy node ↔ t'.IsNoteworthy node := by
  rw [IsNoteworthy, IsNoteworthy, h]

/-- A node that was eligible and is not any more is noteworthy. -/
theorem isNoteworthy_of_lost {old : Fingerprint}
    (hold : t.remembered? node.trackedName = some old) (havailable : old.available = true)
    (hlost : node.isEligible = false) : t.IsNoteworthy node := by
  intro other hother
  obtain rfl := Option.some.inj (hold.symm.trans hother)
  exact .inr ⟨havailable, hlost⟩

/-- Noteworthy nodes are those whose change counts for all resources on them, or for those of them
that asked for recovery. -/
theorem isNoteworthy_iff : t.IsNoteworthy node ↔
    (t.observe node).1.readdressed = true ∨ (t.observe node).1.available = some false := by
  have havailable : (Fingerprint.ofNode node).available = node.isEligible := rfl
  rw [observe_fst, readdressed_change_iff, available_change_iff, havailable, IsNoteworthy]
  cases t.remembered? node.trackedName with
  | none => simp
  | some old => simp [and_comm]

/-- Whether an event **tells** of a hostname. -/
def Tells (t : NodeTracker) (hostname : String) : WatchEvent Node → Prop
  | .apply node | .initApply node => node.hostname = hostname ∧ t.IsNoteworthy node
  | .delete node => node.hostname = hostname
  | .init | .initDone => False

/-- Whether one of some events tells of a hostname when it comes. -/
def TellsIn (t : NodeTracker) (hostname : String) : List (WatchEvent Node) → Prop
  | [] => False
  | event :: rest => t.Tells hostname event ∨ (t.after event).TellsIn hostname rest

/-- A list of one event tells of a hostname iff the event does. -/
theorem tellsIn_singleton (event : WatchEvent Node) :
    t.TellsIn hostname [event] ↔ t.Tells hostname event := by
  rw [TellsIn, TellsIn, or_false]

/-- **What a list tells**: a node in it is compared with what was remembered before the list. The
others have other names, and so the tracker remembers as much of them as before. -/
theorem tellsIn_list {nodes : List Node} (h : (nodes.map Node.trackedName).Nodup) :
    t.TellsIn hostname (.init :: nodes.map .initApply ++ [.initDone]) ↔
      ∃ node ∈ nodes, node.hostname = hostname ∧ t.IsNoteworthy node := by
  rw [List.cons_append, TellsIn, Tells, false_or, after]
  induction nodes generalizing t with
  | nil => simp [TellsIn, Tells]
  | cons head rest ih =>
      rw [List.map_cons, List.nodup_cons] at h
      have hrest : ∀ node ∈ rest,
          (t.after (.initApply head)).IsNoteworthy node ↔ t.IsNoteworthy node := by
        intro node hnode
        refine isNoteworthy_congr ?_
        rw [remembered?_after_initApply, if_neg]
        exact fun hname => h.1 (hname ▸ List.mem_map_of_mem hnode)
      rw [List.map_cons, List.cons_append, TellsIn, ih h.2, Tells, List.exists_mem_cons_iff]
      refine or_congr_right (exists_congr fun node => and_congr_right fun hnode => ?_)
      rw [hrest node hnode]

end NodeTracker

namespace Trigger

/-- The resources that asked for recovery are those that are cached so. -/
theorem mem_recovering_iff {resources : Cache SelectiveDeployment} {candidates : List ObjectRef}
    {ref : ObjectRef} : ref ∈ recovering resources candidates ↔
      ref ∈ candidates ∧ ∃ object, resources.get? ref = some object ∧
        object.spec.recovery = true := by
  rw [recovering, List.mem_filter, Option.any_eq_true]

/-- **The three reasons** for which a change of a node affects a resource. -/
theorem mem_affectedByChange_iff {index : WorkloadIndex} {resources : Cache SelectiveDeployment}
    {hostname : String} {change : NodeChange} {ref : ObjectRef} :
    ref ∈ affectedByChange index resources hostname change ↔
      ref ∈ index.ownersOf hostname ∧ change.readdressed = true ∨
      ref ∈ recovering resources (index.ownersOf hostname) ∧ change.available = some false ∨
      ref ∈ degraded resources ∧ change.available = some true := by
  rw [affectedByChange, List.mem_eraseDups, List.mem_append]
  rcases change.available with _ | _ | _ <;> cases change.readdressed <;> simp

/-- All resources that some events affect, one after another. -/
def affectedByAll (t : NodeTracker) (index : WorkloadIndex)
    (resources : Cache SelectiveDeployment) : List (WatchEvent Node) → List ObjectRef
  | [] => []
  | event :: rest => (affected t index resources event).1 ++
      affectedByAll (affected t index resources event).2 index resources rest

/-- Whether some events **notice** what may become of a hostname: whatever the index and the
resources are, they affect every resource that is kept, asked for recovery and owns an indexed
workload whose affinity names the hostname. -/
def Notices (t : NodeTracker) (events : List (WatchEvent Node)) (hostname : String) : Prop :=
  ∀ (index : WorkloadIndex) (resources : Cache SelectiveDeployment) (object : SelectiveDeployment),
    resources.kept? object.reference = some object → object.spec.recovery = true →
    (∃ w ∈ index.workloads, w.namesHost hostname = true ∧ object.reference ∈ w.ownerRefs) →
    object.reference ∈ affectedByAll t index resources events

variable {t : NodeTracker} {hostname : String}

/-- An event that tells of a hostname affects the resources concerned. -/
theorem mem_affected_of_tells {event : WatchEvent Node} {index : WorkloadIndex}
    {resources : Cache SelectiveDeployment} {object : SelectiveDeployment}
    (h : t.Tells hostname event) (hobject : resources.kept? object.reference = some object)
    (hrecovery : object.spec.recovery = true)
    (howner : object.reference ∈ index.ownersOf hostname) :
    object.reference ∈ (affected t index resources event).1 := by
  have hrecovering : object.reference ∈ recovering resources (index.ownersOf hostname) :=
    mem_recovering_iff.mpr ⟨howner, object, Cache.get?_of_kept? hobject, hrecovery⟩
  have hchange : ∀ node : Node, node.hostname = hostname → t.IsNoteworthy node →
      object.reference ∈ affectedByChange index resources node.hostname (t.observe node).1 := by
    rintro node rfl hnode
    rw [mem_affectedByChange_iff]
    rcases NodeTracker.isNoteworthy_iff.mp hnode with hchanged | hlost
    · exact .inl ⟨howner, hchanged⟩
    · exact .inr (.inl ⟨hrecovering, hlost⟩)
  cases event with
  | init => cases h
  | initDone => cases h
  | apply node => exact hchange node h.1 h.2
  | initApply node => exact hchange node h.1 h.2
  | delete node =>
      cases h
      exact hrecovering

/-! ### Events that do not tell of it

One workload on the hostname is enough to see that other events do not reach its owner: the index
has no owner on other hostnames, and the owner does not wait for a node to come back. -/

/-- A resource that asked for recovery and is not known to be placed badly. -/
def patient : SelectiveDeployment where
  metadata := { name := some "sd", inNamespace := some "tenant", uid := some "uid" }
  spec := { recovery := true }

/-- A cache that keeps this resource only. -/
def onlyPatient : Cache SelectiveDeployment where
  content := ⟨[(patient.reference, patient)], List.nodup_singleton _⟩

/-- A workload of the resource, on one hostname. -/
def workloadOn (hostname : String) : Workload where
  kind := .deployment
  metadata := {
    name := some "web"
    inNamespace := some "tenant"
    ownerReferences := some [⟨resourceApiVersion, none, some true, resourceKind, "sd", "uid"⟩] }
  spec := some (.direct {
    leading := []
    template := { spec := some { affinity := some { nodeAffinity := some { required := some [{
      matchExpressions := some [⟨Label.hostname, "In", some [hostname]⟩] }] } } } }
    trailing := [] })

/-- An index of this workload only. -/
def onlyWorkloadOn (hostname : String) : WorkloadIndex where
  ofKind
    | .deployment =>
      { content := ⟨[(⟨some "tenant", "web"⟩, workloadOn hostname)], List.nodup_singleton _⟩ }
    | _ => {}

/-- The workload names the hostname that it is on, and no other. -/
theorem namesHost_workloadOn (hostname other : String) :
    (workloadOn hostname).namesHost other = true ↔ other = hostname := by
  have hplacement : (workloadOn hostname).placement = [[hostname]] := rfl
  simp [Workload.namesHost, hplacement]

/-- The index lists this workload only. -/
theorem mem_workloads_onlyWorkloadOn {w : Workload} :
    w ∈ (onlyWorkloadOn hostname).workloads ↔ w = workloadOn hostname :=
  List.mem_singleton

/-- So nobody is on any other hostname. -/
theorem ownersOf_onlyWorkloadOn {other : String} (h : other ≠ hostname) :
    (onlyWorkloadOn hostname).ownersOf other = [] := by
  refine List.eq_nil_iff_forall_not_mem.mpr fun ref href => ?_
  obtain ⟨w, hw, hnames, -⟩ := WorkloadIndex.mem_ownersOf_iff.mp href
  rw [mem_workloads_onlyWorkloadOn] at hw
  exact h ((namesHost_workloadOn hostname other).mp (hw ▸ hnames))

/-- An event that does not tell of the hostname affects nothing there. -/
theorem affected_of_not_tells {event : WatchEvent Node} (h : ¬ t.Tells hostname event) :
    (affected t (onlyWorkloadOn hostname) onlyPatient event).1 = [] := by
  have hdegraded : degraded onlyPatient = [] := rfl
  have hchange : ∀ node : Node, ¬ (node.hostname = hostname ∧ t.IsNoteworthy node) →
      affectedByChange (onlyWorkloadOn hostname) onlyPatient node.hostname
        (t.observe node).1 = [] := by
    intro node hnode
    have hhost : ∀ ref ∈ (onlyWorkloadOn hostname).ownersOf node.hostname,
        node.hostname = hostname := fun ref howner =>
      not_not.mp fun hother => List.not_mem_nil (ownersOf_onlyWorkloadOn hother ▸ howner)
    refine List.eq_nil_iff_forall_not_mem.mpr fun ref href => ?_
    rcases mem_affectedByChange_iff.mp href with
      ⟨howner, hchanged⟩ | ⟨hrecovering, hlost⟩ | ⟨hwaits, -⟩
    · exact hnode ⟨hhost ref howner, NodeTracker.isNoteworthy_iff.mpr (.inl hchanged)⟩
    · have howner := (mem_recovering_iff.mp hrecovering).1
      exact hnode ⟨hhost ref howner, NodeTracker.isNoteworthy_iff.mpr (.inr hlost)⟩
    · rw [hdegraded] at hwaits
      cases hwaits
  cases event with
  | init => rfl
  | initDone => rfl
  | apply node => exact hchange node h
  | initApply node => exact hchange node h
  | delete node =>
      have howners := ownersOf_onlyWorkloadOn (show node.hostname ≠ hostname from h)
      rw [affected, howners]
      rfl

/-- **Which events notice what may become of a hostname**: those that tell of it. That no other
event does shows on an index of a single workload. -/
theorem notices_iff {events : List (WatchEvent Node)} :
    Notices t events hostname ↔ t.TellsIn hostname events := by
  constructor
  · intro h
    have howner :
        patient.reference ∈ affectedByAll t (onlyWorkloadOn hostname) onlyPatient events :=
      h _ _ _ rfl rfl ⟨_, mem_workloads_onlyWorkloadOn.mpr rfl,
        (namesHost_workloadOn hostname hostname).mpr rfl, List.mem_singleton.mpr rfl⟩
    clear h
    induction events generalizing t with
    | nil => cases howner
    | cons event rest ih =>
        rw [affectedByAll, List.mem_append, affected_snd] at howner
        by_cases htells : t.Tells hostname event
        · exact .inl htells
        · rw [affected_of_not_tells htells] at howner
          exact .inr (ih (howner.resolve_left List.not_mem_nil))
  · intro h index resources object hobject hrecovery howner
    rw [← WorkloadIndex.mem_ownersOf_iff] at howner
    induction events generalizing t with
    | nil => cases h
    | cons event rest ih =>
        rw [affectedByAll, List.mem_append, affected_snd]
        exact h.imp (mem_affected_of_tells · hobject hrecovery howner) ih

end Trigger

/-! ### Nodes that are lost -/

/-- The events that answer for a change of the store: a list as a whole, or a single change. -/
def WatchPhase.round : WatchPhase → WatchEvent Node → List (WatchEvent Node)
  | .listing nodes, .initDone => .init :: nodes.map .initApply ++ [.initDone]
  | _, event => [event]

/-- Whether the node under a reference is **lost** by an event: the store holds it as eligible, and
after the event not at all or, with the same hostname, as not eligible. -/
structure NodeView.Loses (v : NodeView) (event : WatchEvent Node) (ref : ObjectRef)
    (hostname : String) : Prop where
  before : ∃ node, v.store.kept? ref = some node ∧ node.isEligible = true ∧
    node.hostname = hostname
  after : ∀ node, (v.observe event).store.kept? ref = some node →
    node.isEligible = false ∧ node.hostname = hostname

namespace NodeView

variable {v : NodeView} {ref : ObjectRef} {hostname : String} {event : WatchEvent Node}

/-- Nothing is lost as long as the store holds what it held. -/
theorem not_loses (h : (v.observe event).store.kept? ref = v.store.kept? ref) :
    ¬ v.Loses event ref hostname := by
  rintro ⟨⟨node, hheld, heligible, -⟩, hafter⟩
  have hlost := (hafter node (h.trans hheld)).1
  rw [heligible] at hlost
  cases hlost

/-- The store holds the same nodes until a list is complete. -/
theorem kept?_run_list (earlier : List (WatchEvent Node)) (nodes : List Node) (ref : ObjectRef) :
    (run (earlier ++ .init :: nodes.map .initApply)).store.kept? ref =
      (run earlier).store.kept? ref := by
  induction nodes using List.reverseRecOn with
  | nil => rw [List.map_nil, run_concat, observe, Cache.kept?_observe_init]
  | append_singleton nodes node ih =>
      rw [List.map_append, List.map_singleton, ← List.cons_append, ← List.append_assoc, run_concat,
        observe, Cache.kept?_observe_initApply, ih]

/-- **A node that the store holds as eligible** is noteworthy as soon as it is not. -/
theorem Agrees.isNoteworthy {node now : Node} (h : v.Agrees .watching)
    (hheld : v.store.kept? ref = some node) (heligible : node.isEligible = true)
    (hnow : now.IsClusterWide) (href : now.reference = ref) (hlost : now.isEligible = false) :
    v.tracker.IsNoteworthy now := by
  obtain ⟨hwide, hnode⟩ := h.held ref node hheld
  have hremembered := h.watched rfl ref node hheld
  rw [(hwide.trackedName_inj hnow).mp (hnode.trans href.symm)] at hremembered
  exact NodeTracker.isNoteworthy_of_lost hremembered heligible hlost

end NodeView

namespace Trigger

open NodeView

variable {history : List (WatchEvent Node)} {phase phase' : WatchPhase} {event : WatchEvent Node}
  {ref : ObjectRef} {hostname : String}

/-- A node that is lost by being changed is noticed. A change of another node would leave it as it
was. -/
theorem loss_noticed_of_apply {now : Node} (hhistory : Delivered history .watching)
    (hnow : now.IsClusterWide) (hloss : (run history).Loses (.apply now) ref hostname) :
    Notices (run history).tracker [.apply now] hostname := by
  have hagrees := agrees_of_delivered hhistory
  obtain ⟨node, hheld, heligible, -⟩ := hloss.before
  have hkept := Cache.kept?_observe_apply Node.reference now ref hagrees.isOpen
  have href : now.reference = ref := by
    by_contra hne
    exact not_loses (hkept.trans (if_neg hne)) hloss
  obtain ⟨hlost, hhost⟩ := hloss.after now (hkept.trans (if_pos href))
  rw [notices_iff, NodeTracker.tellsIn_singleton]
  exact ⟨hhost, hagrees.isNoteworthy hheld heligible hnow href hlost⟩

/-- A node that a list shows as no longer eligible is noticed, if single changes were delivered
before the list. -/
theorem loss_noticed_of_listed {nodes : List Node} {now : Node}
    (hearlier : Delivered history .watching)
    (hlist : Delivered (history ++ .init :: nodes.map .initApply) (.listing nodes))
    (hloss : (run (history ++ .init :: nodes.map .initApply)).Loses .initDone ref hostname)
    (hnow : now ∈ nodes) (href : now.reference = ref) :
    now.hostname = hostname ∧ (run history).tracker.IsNoteworthy now := by
  have hagrees := agrees_of_delivered hlist
  obtain ⟨hincoming, hlisted, -⟩ := hagrees.listed nodes rfl
  obtain ⟨node, hheld, heligible, -⟩ := hloss.before
  rw [kept?_run_list] at hheld
  obtain ⟨hlost, hhost⟩ := hloss.after now <|
    (Cache.kept?_observe_initDone Node.reference ref hagrees.isOpen).trans
      ((hincoming ref now).mpr ⟨hnow, href⟩)
  exact ⟨hhost, (agrees_of_delivered hearlier).isNoteworthy hheld heligible (hlisted now hnow).1
    href hlost⟩

/-- **When a lost node is noticed**, by the events that answer for the loss: always if the node was
changed; if it was deleted, when it was deleted with the hostname it had; if a list was completed,
when the list has a noteworthy node of the hostname. A lost node that is listed is such a node, if
single changes were delivered before the list. -/
theorem loss_noticed_iff (hhistory : Delivered history phase) (hevent : phase.Delivers event phase')
    (hloss : (run history).Loses event ref hostname) :
    ∃ earlier before, Delivered earlier before ∧
      history ++ [event] = earlier ++ phase.round event ∧
      ((∃ now, event = .apply now ∧
          Notices (run earlier).tracker (phase.round event) hostname) ∨
        (∃ gone, event = .delete gone ∧
          (Notices (run earlier).tracker (phase.round event) hostname ↔
            gone.hostname = hostname)) ∨
        (∃ nodes, phase = .listing nodes ∧ event = .initDone ∧
          (Notices (run earlier).tracker (phase.round event) hostname ↔
            ∃ node ∈ nodes, node.hostname = hostname ∧
              (run earlier).tracker.IsNoteworthy node) ∧
          (before = .watching → (∃ node ∈ nodes, node.reference = ref) →
            Notices (run earlier).tracker (phase.round event) hostname))) := by
  cases hevent with
  | init => exact absurd hloss (not_loses (Cache.kept?_observe_init Node.reference ref))
  | initApply hnode hnew =>
      exact absurd hloss (not_loses (Cache.kept?_observe_initApply Node.reference _ ref))
  | apply hnode =>
      exact ⟨history, .watching, hhistory, rfl,
        .inl ⟨_, rfl, loss_noticed_of_apply hhistory hnode hloss⟩⟩
  | delete hnode =>
      refine ⟨history, .watching, hhistory, rfl, .inr (.inl ⟨_, rfl, ?_⟩)⟩
      exact notices_iff.trans (NodeTracker.tellsIn_singleton _)
  | initDone nodes =>
      have hnodup := ((agrees_of_delivered hhistory).listed nodes rfl).2.2
      obtain ⟨earlier, before, hearlier, rfl⟩ := hhistory.exists_listing
      have hnotices : Notices (run earlier).tracker (WatchPhase.round (.listing nodes) .initDone)
          hostname ↔ ∃ node ∈ nodes, node.hostname = hostname ∧
            (run earlier).tracker.IsNoteworthy node := by
        rw [notices_iff, WatchPhase.round, NodeTracker.tellsIn_list hnodup]
      refine ⟨earlier, before, hearlier, by simp [WatchPhase.round],
        .inr (.inr ⟨nodes, rfl, rfl, hnotices, ?_⟩)⟩
      rintro rfl ⟨node, hnode, href⟩
      exact hnotices.mpr ⟨node, hnode, loss_noticed_of_listed hearlier hhistory hloss hnode href⟩

/-- A node that is ready. -/
def readyNode (name : String) : Node where
  metadata := { name := some name }
  status := some { conditions := some [{ status := "True", type := "Ready" }] }

/-- A node that is ready but closed to new pods. -/
def cordonedNode (name : String) : Node :=
  { readyNode name with spec := some { unschedulable := some true } }

/-- A watch that begins anew after its first list showed the node `fr-1`. -/
theorem delivered_anew : Delivered [.init, .initApply (readyNode "fr-1"), .initDone, .init]
    (.listing []) :=
  (((Delivered.start.next (.init _)).next (.initApply ⟨⟨_, rfl⟩, rfl⟩ (by simp))).next
    (.initDone _)).next (.init _)

/-- The second list shows the node `fr-1` as closed to new pods. -/
theorem loss_noticed_iff_cordoned :
    Notices (run [.init, .initApply (readyNode "fr-1"), .initDone]).tracker
      [.init, .initApply (cordonedNode "fr-1"), .initDone] "fr-1" := by
  have hhistory : Delivered [.init, .initApply (readyNode "fr-1"), .initDone, .init,
      .initApply (cordonedNode "fr-1")] (.listing [cordonedNode "fr-1"]) :=
    delivered_anew.next (.initApply ⟨⟨_, rfl⟩, rfl⟩ (by simp))
  have hloss : (run [.init, .initApply (readyNode "fr-1"), .initDone, .init,
      .initApply (cordonedNode "fr-1")]).Loses .initDone ⟨none, "fr-1"⟩ "fr-1" := by
    refine ⟨⟨readyNode "fr-1", rfl, by decide, by decide⟩, fun node hnode => ?_⟩
    obtain rfl : cordonedNode "fr-1" = node := Option.some.inj hnode
    decide
  obtain ⟨earlier, before, -, hsplit, hchanged | hdeleted | hlisted⟩ :=
    loss_noticed_iff hhistory (.initDone _) hloss
  · obtain ⟨now, hevent, -⟩ := hchanged
    cases hevent
  · obtain ⟨gone, hevent, -⟩ := hdeleted
    cases hevent
  · obtain ⟨nodes, hphase, -, hnotices, -⟩ := hlisted
    cases hphase
    obtain rfl : [.init, .initApply (readyNode "fr-1"), .initDone] = earlier :=
      List.append_cancel_right hsplit
    refine hnotices.mpr ⟨cordonedNode "fr-1", List.mem_singleton_self _, by decide, ?_⟩
    exact NodeTracker.isNoteworthy_of_lost rfl (by decide) (by decide)

/-- **Not every lost node is noticed**: where a list leaves a node out, the store drops it when the
list is complete, and the events of the list affect nothing. -/
theorem not_loss_noticed :
    ¬ ∀ (history earlier : List (WatchEvent Node)) (phase phase' : WatchPhase)
      (event : WatchEvent Node) (ref : ObjectRef) (hostname : String), Delivered history phase →
      phase.Delivers event phase' → (run history).Loses event ref hostname →
      history ++ [event] = earlier ++ phase.round event →
      Notices (run earlier).tracker (phase.round event) hostname := by
  intro h
  have hloss : (run [.init, .initApply (readyNode "fr-1"), .initDone, .init]).Loses .initDone
      ⟨none, "fr-1"⟩ "fr-1" :=
    ⟨⟨readyNode "fr-1", rfl, by decide, by decide⟩, fun node hnode => by cases hnode⟩
  have hnotices := h _ [.init, .initApply (readyNode "fr-1"), .initDone] _ _ _ _ _ delivered_anew
    (.initDone _) hloss rfl
  rw [notices_iff] at hnotices
  simp [WatchPhase.round, NodeTracker.TellsIn, NodeTracker.Tells] at hnotices

end Trigger

end GeoPlacement
