import GeoPlacement.Proofs.Discipline
import GeoPlacement.Proofs.Versions
import Mathlib.Data.List.Induction
import Mathlib.Logic.Function.Basic

/-!
# Passes that take turns

Any number of passes work on one cluster, each with the nodes and placements that it happened to
see. A **schedule** says whose turn it is; a turn is one request and its answer. Between the
look-up of a workload and its write, other passes may have changed it.

Two invariants carry the theory. A pass remembers what it found when it last looked
(`Interleaved.exists_known`), and what is stored later supersedes what was stored before
(`Interleaved.exists_supersedes_run`). Together they say that a write which still fits the cluster
is based on what is stored now, and that every other write is refused.

## Main results

* `Interleaved.stored_step_of_owned`: no turn of a pass changes what another resource owns.
* `Interleaved.exists_look_up`: every write goes back to a look-up, and is refused if the workload
  has changed since.
* `Interleaved.ownership_safe`: both, for every set of passes and every schedule.
-/

namespace GeoPlacement

/-- A pass to be made: a resource, and the nodes and placements that its pass sees. -/
structure Task where
  object : SelectiveDeployment
  nodes : List EligibleNode
  placed : List (List String)
deriving Inhabited

/-- A cluster and the passes that are under way, each with what it has still to do. -/
structure Interleaved (ι : Type) where
  cluster : Cluster
  pending : ι → ClusterDialogue (Except PassError Unit)

namespace Interleaved

variable {ι : Type}

/-- Passes that have not begun. -/
def start (cluster : Cluster) (task : ι → Task) : Interleaved ι where
  cluster
  pending i := pass (task i).object (task i).nodes (task i).placed

/-- The request that a pass makes at its next turn, none if it is over. -/
def asks (s : Interleaved ι) (i : ι) : Option Request :=
  match s.pending i with
  | .done _ => none
  | .ask request _ => some request

/-- A pass that is about to ask asks for this request. -/
theorem asks_of_ask {s : Interleaved ι} {i : ι} {request : Request}
    {next : request.Reply → ClusterDialogue (Except PassError Unit)}
    (h : s.pending i = .ask request next) : s.asks i = some request := by
  rw [asks, h]

variable [DecidableEq ι]

/-- The turn of a pass: its request is answered. -/
def step (s : Interleaved ι) (i : ι) : Interleaved ι :=
  match s.pending i with
  | .done _ => s
  | .ask request next =>
    let (reply, cluster) := s.cluster.respond request
    { cluster, pending := Function.update s.pending i (next reply) }

/-- The turns of a schedule. -/
def run (s : Interleaved ι) (schedule : List ι) : Interleaved ι :=
  schedule.foldl step s

/-! ### Turns -/

variable (s : Interleaved ι) {i j : ι} {request : Request}
  {next : request.Reply → ClusterDialogue (Except PassError Unit)}

@[simp] theorem run_nil : s.run [] = s :=
  rfl

theorem run_append (schedule later : List ι) :
    s.run (schedule ++ later) = (s.run schedule).run later :=
  List.foldl_append

/-- The last turn of a schedule is taken after all others. -/
theorem run_concat (schedule : List ι) (i : ι) :
    s.run (schedule ++ [i]) = (s.run schedule).step i :=
  s.run_append schedule [i]

/-- A pass that has ended has no further turns. -/
theorem step_of_done {value : Except PassError Unit} (h : s.pending i = .done value) :
    s.step i = s := by
  rw [step, h]

/-- A turn of a pass that asks is one request to the cluster. -/
theorem step_of_ask (h : s.pending i = .ask request next) :
    s.step i = { cluster := (s.cluster.respond request).2
                 pending := Function.update s.pending i (next (s.cluster.respond request).1) } := by
  rw [step, h]

/-- A turn is of no concern to the other passes. -/
theorem pending_step_of_ne (h : i ≠ j) : (s.step j).pending i = s.pending i := by
  cases hpending : s.pending j with
  | done value => rw [s.step_of_done hpending]
  | ask request next =>
      rw [s.step_of_ask hpending]
      exact Function.update_of_ne h ..

/-- **A pass whose turns are not interrupted** runs as it does on its own. -/
theorem exists_run_eq_answer (i : ι) :
    ∃ turns, s.run (List.replicate turns i) =
      { cluster := (s.cluster.answer (s.pending i)).2
        pending := Function.update s.pending i (.done (s.cluster.answer (s.pending i)).1) } := by
  generalize hpending : s.pending i = d
  induction d generalizing s with
  | done value =>
      refine ⟨0, ?_⟩
      have hsame : Function.update s.pending i (.done value) = s.pending := by
        rw [← hpending, Function.update_eq_self]
      rw [List.replicate_zero, run_nil]
      exact congrArg (Interleaved.mk s.cluster) hsame.symm
  | ask request next ih =>
      obtain ⟨turns, hturns⟩ := ih (s.cluster.respond request).1 (s.step i) (by
        rw [s.step_of_ask hpending]
        exact Function.update_self ..)
      refine ⟨turns + 1, ?_⟩
      rw [List.replicate_succ, ← List.singleton_append, run_append]
      refine hturns.trans ?_
      rw [s.step_of_ask hpending, Function.update_idem]
      rfl

/-! ### The store along a schedule -/

/-- What a turn leaves under a key supersedes what was there. -/
theorem exists_supersedes_step (hroom : s.cluster.HasRoom) (i : ι) {key : WorkloadKey}
    {w : Workload} (hw : s.cluster.stored key = some w) :
    ∃ now, (s.step i).cluster.stored key = some now ∧ now.Supersedes w := by
  cases hpending : s.pending i with
  | done value =>
      rw [s.step_of_done hpending]
      exact ⟨w, hw, .refl w⟩
  | ask request next =>
      rw [s.step_of_ask hpending]
      exact Cluster.exists_supersedes_respond hroom request hw

/-- Whether there is room for the next version at every moment of a schedule. -/
def HasRoomDuring (schedule : List ι) : Prop :=
  ∀ earlier, earlier <+: schedule → (s.run earlier).cluster.HasRoom

/-- Along a schedule, what is stored under a key is superseded only. -/
theorem exists_supersedes_run {schedule : List ι} (hroom : s.HasRoomDuring schedule)
    {key : WorkloadKey} {w : Workload} (hw : s.cluster.stored key = some w) :
    ∃ now, (s.run schedule).cluster.stored key = some now ∧ now.Supersedes w := by
  induction schedule using List.reverseRecOn with
  | nil => exact ⟨w, hw, .refl w⟩
  | append_singleton schedule i ih =>
      obtain ⟨mid, hmid, hold⟩ :=
        ih fun earlier h => hroom earlier (h.trans (List.prefix_append ..))
      obtain ⟨now, hnow, hsupersedes⟩ :=
        (s.run schedule).exists_supersedes_step (hroom _ (List.prefix_append ..)) i hmid
      exact ⟨now, by rw [run_concat, hnow], hsupersedes.trans hold⟩

variable {s}

/-- Room during a schedule is room during its first part. -/
theorem HasRoomDuring.of_prefix {schedule earlier : List ι} (h : s.HasRoomDuring schedule)
    (hearlier : earlier <+: schedule) : s.HasRoomDuring earlier :=
  fun earliest hearliest => h earliest (hearliest.trans hearlier)

/-- Room during a schedule is room during its second part. -/
theorem HasRoomDuring.of_append {schedule later : List ι}
    (h : s.HasRoomDuring (schedule ++ later)) : (s.run schedule).HasRoomDuring later := by
  intro earlier hearlier
  rw [← run_append]
  exact h _ ((List.prefix_append_right_inj schedule).mpr hearlier)

/-- **What has changed stays changed**: it is there, under a version that it never had before. -/
theorem exists_changed {before between rest : List ι}
    (hroom : s.HasRoomDuring (before ++ between ++ rest)) {key : WorkloadKey}
    (hchanged : (s.run (before ++ between)).cluster.stored key ≠
      (s.run before).cluster.stored key) :
    ∃ now, (s.run (before ++ between ++ rest)).cluster.stored key = some now ∧
      ∀ old, (s.run before).cluster.stored key = some old →
        now.metadata.resourceVersion ≠ old.metadata.resourceVersion := by
  have hfirst : (s.run before).HasRoomDuring between :=
    (hroom.of_prefix (List.prefix_append ..)).of_append
  obtain ⟨mid, hmid, hmidold⟩ : ∃ mid, (s.run (before ++ between)).cluster.stored key = some mid ∧
      ∀ old, (s.run before).cluster.stored key = some old → mid.Supersedes old := by
    cases hbefore : (s.run before).cluster.stored key with
    | none =>
        obtain ⟨mid, hmid⟩ := Option.ne_none_iff_exists'.mp (hbefore ▸ hchanged)
        exact ⟨mid, hmid, fun old hold => by cases hold⟩
    | some old =>
        obtain ⟨mid, hmid, hsupersedes⟩ := exists_supersedes_run _ hfirst hbefore
        rw [← run_append] at hmid
        exact ⟨mid, hmid, fun old' hold => Option.some.inj hold ▸ hsupersedes⟩
  obtain ⟨now, hnow, hnowmid⟩ := exists_supersedes_run _ hroom.of_append hmid
  rw [← run_append] at hnow
  refine ⟨now, hnow, fun old hold hversion => ?_⟩
  have hne : mid ≠ old := fun heq => hchanged (by rw [hmid, hold, heq])
  have hmidold := hmidold old hold
  exact hnowmid.ne_of_ne hmidold hne ((hnowmid.trans hmidold).eq_of_resourceVersion hversion)

/-- A turn raises the stored versions by one at most. -/
theorem versionsAtMost_step {bound : Nat} (h : s.cluster.VersionsAtMost bound)
    (hbound : bound + 1 < UInt64.size) (i : ι) :
    (s.step i).cluster.VersionsAtMost (bound + 1) := by
  cases hpending : s.pending i with
  | done value =>
      rw [s.step_of_done hpending]
      exact fun key w hw => Nat.le_succ_of_le (h key w hw)
  | ask request next =>
      rw [s.step_of_ask hpending]
      exact h.respond hbound request

/-- A schedule raises the stored versions by the number of its turns at most. -/
theorem versionsAtMost_run {bound : Nat} (schedule : List ι)
    (h : s.cluster.VersionsAtMost bound) (hbound : bound + schedule.length < UInt64.size) :
    (s.run schedule).cluster.VersionsAtMost (bound + schedule.length) := by
  induction schedule using List.reverseRecOn with
  | nil => exact h
  | append_singleton schedule i ih =>
      rw [List.length_append, List.length_singleton] at hbound ⊢
      rw [run_concat]
      exact versionsAtMost_step (ih (by omega)) (by omega) i

/-- **There is room** for a schedule where the stored versions leave it. -/
theorem hasRoomDuring_of_versionsAtMost (bound : Nat) {schedule : List ι}
    (h : s.cluster.VersionsAtMost bound) (hbound : bound + schedule.length < UInt64.size - 1) :
    s.HasRoomDuring schedule := by
  intro earlier hearlier
  have hlength := hearlier.length_le
  exact (versionsAtMost_run earlier h (by omega)).hasRoom (by omega)

/-! ### What a pass remembers -/

variable {task : ι → Task} {cluster : Cluster}

/-- **What a pass remembers**: its next request fits what it found when it last looked, which was
at its own last turn. -/
theorem exists_known (task : ι → Task) (cluster : Cluster) (schedule : List ι) (i : ι) :
    ∃ known, Disciplined (task i).object.metadata known
        (((start cluster task).run schedule).pending i) ∧
      ∀ key found, known = some (key, found) → ∃ earlier later,
        schedule = earlier ++ i :: later ∧ i ∉ later ∧
        ((start cluster task).run earlier).asks i =
          some (.get key.kind key.inNamespace key.name) ∧
        ((start cluster task).run earlier).cluster.stored key = found := by
  induction schedule using List.reverseRecOn with
  | nil => exact ⟨none, disciplined_pass .., fun key found h => by cases h⟩
  | append_singleton schedule j ih =>
      obtain ⟨known, hdisciplined, hknown⟩ := ih
      set s := (start cluster task).run schedule with hs
      rw [run_concat, ← hs]
      by_cases hij : i = j
      · subst hij
        cases hpending : s.pending i with
        | done value =>
            rw [s.step_of_done hpending, hpending]
            exact ⟨none, trivial, fun key found h => by cases h⟩
        | ask request next =>
            rw [hpending] at hdisciplined
            rw [s.step_of_ask hpending]
            simp only [Function.update_self]
            refine ⟨_, hdisciplined.2 _, fun key found h => ?_⟩
            obtain ⟨hrequest, hfound⟩ := Request.learned_respond h
            exact ⟨schedule, [], rfl, List.not_mem_nil,
              by rw [← hs, asks_of_ask hpending, hrequest], by rw [← hs, hfound]⟩
      · rw [s.pending_step_of_ne hij]
        refine ⟨known, hdisciplined, fun key found h => ?_⟩
        obtain ⟨earlier, later, hschedule, hlater, hread⟩ := hknown key found h
        refine ⟨earlier, later ++ [j], by rw [hschedule]; simp, ?_, hread⟩
        simp [hlater, hij]

/-! ### Safety -/

/-- A replacement that the cluster accepts is made by a resource that may have the workload. -/
theorem ownership_of_replace {schedule : List ι} {i : ι} {inNamespace name : String}
    {object old : Workload} {next : Request.Reply (.replace inNamespace object) → _}
    (hroom : (start cluster task).HasRoomDuring schedule)
    (hpending : ((start cluster task).run schedule).pending i =
      .ask (.replace inNamespace object) next)
    (hname : object.name = some name)
    (hold : ((start cluster task).run schedule).cluster.stored ⟨object.kind, inNamespace, name⟩ =
      some old)
    (hversion : old.metadata.resourceVersion = object.metadata.resourceVersion) :
    ∀ other, old.metadata.ownership (task i).object.metadata ≠ .foreign other := by
  obtain ⟨known, hdisciplined, hknown⟩ := exists_known task cluster schedule i
  rw [hpending] at hdisciplined
  obtain ⟨⟨name', current, hname', rfl, hcarried, howner⟩, -⟩ := hdisciplined
  obtain rfl : name = name' := Option.some.inj (hname.symm.trans hname')
  obtain ⟨earlier, later, rfl, -, -, hread⟩ := hknown _ _ rfl
  rw [run_append] at hold
  obtain ⟨now, hnow, hsupersedes⟩ :=
    ((start cluster task).run earlier).exists_supersedes_run hroom.of_append hread
  obtain rfl : now = old := Option.some.inj (hnow.symm.trans hold)
  obtain rfl := hsupersedes.eq_of_resourceVersion (hversion.trans hcarried)
  exact howner

/-- **No turn of a pass changes what another resource owns.** -/
theorem stored_step_of_owned {schedule : List ι}
    (hroom : (start cluster task).HasRoomDuring schedule) {i : ι} {other : Metadata}
    {key : WorkloadKey} {w : Workload} (hother : other.uid ≠ (task i).object.metadata.uid)
    (hw : ((start cluster task).run schedule).cluster.stored key = some w)
    (howned : w.metadata.ownership other = .owned) :
    (((start cluster task).run schedule).step i).cluster.stored key = some w := by
  set s := (start cluster task).run schedule with hs
  cases hpending : s.pending i with
  | done value => rw [s.step_of_done hpending, hw]
  | ask request next =>
      rw [s.step_of_ask hpending]
      cases request with
      | get kind inNamespace name => exact hw
      | setStatus object status => exact (Cluster.stored_writeStatus ..).trans hw
      | create inNamespace object =>
          rcases s.cluster.stored_write_cases inNamespace object true key with
            hsame | ⟨name, version, -, -, hnext, -⟩
          · exact hsame.trans hw
          · rw [hw] at hnext
            cases hnext
      | replace inNamespace object =>
          rcases s.cluster.stored_write_cases inNamespace object false key with
            hsame | ⟨name, version, hname, rfl, hnext, -⟩
          · exact hsame.trans hw
          · rw [hw] at hnext
            obtain ⟨hnone, -⟩ | ⟨old, hold, -, hversion, -⟩ := Cluster.nextVersion_ok hnext
            · cases hnone
            · obtain rfl := Option.some.inj hold
              obtain ⟨name, hforeign⟩ := Metadata.ownership_eq_foreign howned hother
              exact absurd hforeign
                (ownership_of_replace hroom hpending hname hw hversion name)

/-- A write whose time is over is refused, and the turn leaves the cluster as it is. -/
theorem refused_of_nextVersion {s : Interleaved ι} {i : ι} {inNamespace name : String}
    {object : Workload} {isCreation : Bool} {cause : Refusal}
    (hwrite : (s.asks i).bind Request.write? = some (inNamespace, object, isCreation))
    (hname : object.name = some name)
    (hnext : Cluster.nextVersion (s.cluster.stored ⟨object.kind, inNamespace, name⟩) object
      isCreation = .error cause) :
    (∃ cause, s.cluster.write inNamespace object isCreation =
        (.error (.refused object.kind name cause), s.cluster)) ∧
      (s.step i).cluster = s.cluster := by
  obtain ⟨cause, hrefused⟩ := Cluster.write_of_nextVersion_error hname hnext
  refine ⟨⟨cause, hrefused⟩, ?_⟩
  cases hpending : s.pending i with
  | done value => rw [s.step_of_done hpending]
  | ask request next =>
      rw [asks_of_ask hpending, Option.bind_some] at hwrite
      rw [s.step_of_ask hpending]
      exact (Request.respond_of_write hwrite s.cluster).trans (congrArg Prod.snd hrefused)

/-- The **look-up of a write**: the last turn of the same pass, at which it asked for the workload
and found it as the write takes it to be. -/
structure LookUp (s : Interleaved ι) (i : ι) (schedule earlier later : List ι) (key : WorkloadKey)
    (object : Workload) (isCreation : Bool) : Prop where
  schedule_eq : schedule = earlier ++ i :: later
  last : i ∉ later
  asks : (s.run earlier).asks i = some (.get key.kind key.inNamespace key.name)
  found : match (s.run earlier).cluster.stored key with
    | none => isCreation = true
    | some current => isCreation = false ∧
        object.metadata.resourceVersion = current.metadata.resourceVersion

/-- **Every write goes back to a look-up.** If the workload was ever changed in between, the write
is refused and the cluster stays as it is. -/
theorem exists_look_up {schedule : List ι} (hroom : (start cluster task).HasRoomDuring schedule)
    {i : ι} {inNamespace : String} {object : Workload} {isCreation : Bool}
    (hwrite : (((start cluster task).run schedule).asks i).bind Request.write? =
      some (inNamespace, object, isCreation)) :
    ∃ name earlier later, object.name = some name ∧
      (start cluster task).LookUp i schedule earlier later ⟨object.kind, inNamespace, name⟩ object
        isCreation ∧
      ∀ between, between <+: later →
        ((start cluster task).run (earlier ++ i :: between)).cluster.stored
            ⟨object.kind, inNamespace, name⟩ ≠
          ((start cluster task).run earlier).cluster.stored ⟨object.kind, inNamespace, name⟩ →
        (∃ cause, ((start cluster task).run schedule).cluster.write inNamespace object isCreation =
          (.error (.refused object.kind name cause), ((start cluster task).run schedule).cluster)) ∧
        (((start cluster task).run schedule).step i).cluster =
          ((start cluster task).run schedule).cluster := by
  obtain ⟨known, hdisciplined, hknown⟩ := exists_known task cluster schedule i
  cases hpending : ((start cluster task).run schedule).pending i with
  | done value => simp [asks, hpending] at hwrite
  | ask request next =>
      rw [hpending] at hdisciplined
      have hrequest := hwrite
      rw [asks_of_ask hpending, Option.bind_some] at hrequest
      cases request with
      | get kind inNamespace name => cases hrequest
      | setStatus object status => cases hrequest
      | create inNamespace object =>
          cases hrequest
          obtain ⟨⟨name, hname, rfl⟩, -⟩ := hdisciplined
          obtain ⟨earlier, later, rfl, hlater, hasks, hread⟩ := hknown _ _ rfl
          refine ⟨name, earlier, later, hname, ⟨rfl, hlater, hasks, by rw [hread]⟩, ?_⟩
          rintro between ⟨rest, rfl⟩ hchanged
          rw [← List.cons_append, ← List.append_assoc] at hroom hwrite ⊢
          obtain ⟨now, hnow, -⟩ := exists_changed hroom hchanged
          exact refused_of_nextVersion hwrite hname (by rw [hnow]; rfl)
      | replace inNamespace object =>
          cases hrequest
          obtain ⟨⟨name, current, hname, rfl, hcarried, -⟩, -⟩ := hdisciplined
          obtain ⟨earlier, later, rfl, hlater, hasks, hread⟩ := hknown _ _ rfl
          refine ⟨name, earlier, later, hname,
            ⟨rfl, hlater, hasks, by rw [hread]; exact ⟨rfl, hcarried⟩⟩, ?_⟩
          rintro between ⟨rest, rfl⟩ hchanged
          rw [← List.cons_append, ← List.append_assoc] at hroom hwrite ⊢
          obtain ⟨now, hnow, hversion⟩ := exists_changed hroom hchanged
          have hstale : now.metadata.resourceVersion ≠ object.metadata.resourceVersion :=
            hcarried ▸ hversion current hread
          exact refused_of_nextVersion hwrite hname (by rw [hnow]; exact if_neg hstale)

/-- **Ownership is safe.** Whatever passes take turns, whatever the cluster holds at the start and
whatever the schedule, the next turn of a pass leaves alone what is owned by a resource with
another identifier; and a write that the pass asks for is based on a look-up and is refused, with
the cluster staying as it is, if the workload was changed since. -/
theorem ownership_safe (task : ι → Task) (cluster : Cluster) (schedule : List ι)
    (hroom : (start cluster task).HasRoomDuring schedule) (i : ι) :
    (∀ (other : Metadata) (key : WorkloadKey) (w : Workload),
      other.uid ≠ (task i).object.metadata.uid →
      ((start cluster task).run schedule).cluster.stored key = some w →
      w.metadata.ownership other = .owned →
      (((start cluster task).run schedule).step i).cluster.stored key = some w) ∧
    ∀ (inNamespace : String) (object : Workload) (isCreation : Bool),
      (((start cluster task).run schedule).asks i).bind Request.write? =
        some (inNamespace, object, isCreation) →
      ∃ name earlier later, object.name = some name ∧
        (start cluster task).LookUp i schedule earlier later ⟨object.kind, inNamespace, name⟩
          object isCreation ∧
        ∀ between, between <+: later →
          ((start cluster task).run (earlier ++ i :: between)).cluster.stored
              ⟨object.kind, inNamespace, name⟩ ≠
            ((start cluster task).run earlier).cluster.stored
              ⟨object.kind, inNamespace, name⟩ →
          (∃ cause, ((start cluster task).run schedule).cluster.write inNamespace object
              isCreation =
            (.error (.refused object.kind name cause),
              ((start cluster task).run schedule).cluster)) ∧
          (((start cluster task).run schedule).step i).cluster =
            ((start cluster task).run schedule).cluster :=
  ⟨fun _ _ _ hother hw howned => stored_step_of_owned hroom hother hw howned,
    fun _ _ _ hwrite => exists_look_up hroom hwrite⟩

/-- Two resources that declare the same workload. -/
def rivals (second : Bool) : Task where
  object := {
    metadata := {
      name := some (if second then "b" else "a")
      inNamespace := some "tenant"
      uid := some (if second then "uid-b" else "uid-a") }
    spec := { controllers := { deployment := [{
      kind := .deployment
      metadata := { name := some "web" }
      spec := some (.direct { leading := [], template := {}, trailing := [] }) }] } } }
  nodes := []
  placed := []

/-- Both rivals look before either of them writes: the second one is refused. -/
theorem ownership_safe_rivals :
    (start {} rivals).HasRoomDuring [false, true, false] ∧
    (∀ (other : Metadata) (key : WorkloadKey) (w : Workload), other.uid ≠ some "uid-b" →
      ((start {} rivals).run [false, true, false]).cluster.stored key = some w →
      w.metadata.ownership other = .owned →
      (((start {} rivals).run [false, true, false]).step true).cluster.stored key = some w) ∧
    ∃ object, (((start {} rivals).run [false, true, false]).asks true).bind Request.write? =
        some ("tenant", object, true) ∧
      (((start {} rivals).run [false, true, false]).step true).cluster =
        ((start {} rivals).run [false, true, false]).cluster := by
  have hroom : (start {} rivals).HasRoomDuring [false, true, false] :=
    hasRoomDuring_of_versionsAtMost 0 (fun key w hw => by cases hw) (by decide)
  obtain ⟨hsafe, hlate⟩ := ownership_safe rivals {} [false, true, false] hroom true
  obtain ⟨name, earlier, later, hname, hlook, hrefused⟩ := hlate "tenant" _ true rfl
  obtain rfl : "web" = name := Option.some.inj hname
  obtain ⟨rfl, rfl⟩ : earlier = [false] ∧ later = [false] := by
    have h := hlook.schedule_eq
    rcases earlier with _ | ⟨a, _ | ⟨b, _ | ⟨c, rest⟩⟩⟩ <;> simp_all
  refine ⟨hroom, hsafe, _, rfl, (hrefused [false] (List.prefix_refl _) ?_).2⟩
  have hnone : ((start {} rivals).run [false]).cluster.stored ⟨.deployment, "tenant", "web"⟩ =
      none := rfl
  exact fun h => Option.some_ne_none _ (h.trans hnone)

end Interleaved

end GeoPlacement
