import GeoPlacement.Controller.Context
import GeoPlacement.Proofs.Transcript

/-!
# Retries over whole runs

A pass that fails is tried again after a delay, which grows with the failures of the same resource
in a row, until the retries are spent and the resource is given up until its next resync. Here
passes follow one another in any number, over any resources and in any order. The caches may change
from one pass to the next, and what a pass asks may be answered in any way.

What is known of a run is its **log**, one note for each pass. The counts of failures are a function
of the log (`Runs.tallies`), and the passes of one resource form a run of their own (`Runs.filter`):
what is noted of them does not depend on the passes of other resources.

## Main results

* `endsDuly_pass`: when a pass fails, and with which failure.
* `Backoff.delay_le_delay`: delays do not decrease.
* `Runs.tallies`: the counts of a context are those of the log.
* `Runs.filter`: the passes of one resource form a run.
* `Runs.retries_bounded`: how the failed passes of a run are retried.
-/

namespace GeoPlacement

/-! ### When a pass fails -/

section Pass

variable {σ : Type} (respond : (request : Request) → σ → request.Reply × σ) (s : σ)
  (object : SelectiveDeployment) (nodes : List EligibleNode) (placed : List (List String))

/-- What executing the plan of a pass comes to. -/
def executed : Except PlanError (List Report) × σ :=
  ((Plan.make object.spec nodes placed).execute object).answer respond s

/-- The status that a pass writes after its reports. -/
def statusOf (reports : List Report) : Status :=
  (Summary.of (Plan.make object.spec nodes placed).selections reports).status
    object.metadata.generation

/-- What writing the status is answered with. -/
def statusReply (reports : List Report) : Except StatusError Unit :=
  (respond (.setStatus object (statusOf object nodes placed reports))
    (executed respond s object nodes placed).2).1

/-- **A pass ends duly** if it fails for three reasons only: its plan cannot be executed, its status
cannot be written, or requests for some workloads failed. The last failure says for how many, and
comes only after the status was written. -/
structure EndsDuly (dialogue : ClusterDialogue (Except PassError Unit)) : Prop where
  fails_iff : (∃ error, (dialogue.answer respond s).1 = .error error) ↔
    (∃ error, (executed respond s object nodes placed).1 = .error error) ∨
      ∃ reports, (executed respond s object nodes placed).1 = .ok reports ∧
        ((∃ error, statusReply respond s object nodes placed reports = .error error) ∨
          ∃ r ∈ reports, ∃ verb text, r.outcome = .failed verb text)
  plan_iff : ∀ error, (dialogue.answer respond s).1 = .error (.plan error) ↔
    (executed respond s object nodes placed).1 = .error error
  status_iff : ∀ error, (dialogue.answer respond s).1 = .error (.status error) ↔
    ∃ reports, (executed respond s object nodes placed).1 = .ok reports ∧
      statusReply respond s object nodes placed reports = .error error
  workloads_iff : ∀ count, (dialogue.answer respond s).1 = .error (.workloads count) ↔
    ∃ reports, (executed respond s object nodes placed).1 = .ok reports ∧
      statusReply respond s object nodes placed reports = .ok () ∧ 0 < count ∧
      count = reports.countP (·.outcome.isRetryable)
  written : ∀ count, (dialogue.answer respond s).1 = .error (.workloads count) →
    ∃ reports, (executed respond s object nodes placed).1 = .ok reports ∧
      dialogue.transcript respond s =
        ((Plan.make object.spec nodes placed).execute object).transcript respond s ++
          [⟨.setStatus object (statusOf object nodes placed reports), .ok ()⟩]

/-- A request for a workload failed iff the report is worth another try. -/
theorem Outcome.isRetryable_iff {outcome : Outcome} :
    outcome.isRetryable = true ↔ ∃ verb text, outcome = .failed verb text := by
  cases outcome <;> simp [isRetryable]

/-- The result of a pass, from the number of workloads for which requests failed and the reply to
its status. -/
def passResult (count : Nat) : Except StatusError Unit → Except PassError Unit
  | .error error => .error (.status error)
  | .ok () => if 0 < count then .error (.workloads count) else .ok ()

section Result

variable {failed count : Nat} {reply : Except StatusError Unit}

/-- A pass fails once its plan was executed iff its status is not written or requests failed. -/
theorem exists_passResult_iff : (∃ error, passResult failed reply = .error error) ↔
    (∃ error, reply = .error error) ∨ 0 < failed := by
  rcases reply with error | ⟨⟩
  · simp [passResult]
  · by_cases hfailed : 0 < failed <;> simp [passResult, hfailed]

/-- A pass that gets to its status does not fail for its plan. -/
theorem passResult_ne_plan (error : PlanError) :
    passResult failed reply ≠ .error (.plan error) := by
  rcases reply with error | ⟨⟩
  · simp [passResult]
  · by_cases hfailed : 0 < failed <;> simp [passResult, hfailed]

/-- A pass fails for its status iff the status is refused. -/
theorem passResult_eq_status_iff {error : StatusError} :
    passResult failed reply = .error (.status error) ↔ reply = .error error := by
  rcases reply with error | ⟨⟩
  · simp [passResult]
  · by_cases hfailed : 0 < failed <;> simp [passResult, hfailed]

/-- A pass fails for its workloads iff requests for so many failed and its status was written. -/
theorem passResult_eq_workloads_iff : passResult failed reply = .error (.workloads count) ↔
    reply = .ok () ∧ 0 < count ∧ count = failed := by
  rcases reply with error | ⟨⟩
  · simp [passResult]
  · by_cases hfailed : 0 < failed
    · simp only [passResult, if_pos hfailed, Except.error.injEq, PassError.workloads.injEq,
        true_and]
      omega
    · simp only [passResult, if_neg hfailed, reduceCtorEq, true_and, false_iff]
      omega

end Result

/-- A pass whose plan cannot be executed ends there. -/
theorem answer_pass_of_error {error : PlanError}
    (h : (executed respond s object nodes placed).1 = .error error) :
    ((pass object nodes placed).answer respond s).1 = .error (.plan error) := by
  rw [executed] at h
  simp only [pass, sync, Dialogue.answer_bind, Dialogue.answer, h, Except.map]

/-- The end of a pass is to write one status. -/
theorem answer_concludePass (summary : Summary) :
    (concludePass object summary).transcript respond s =
        [⟨.setStatus object (summary.status object.metadata.generation),
          (respond (.setStatus object (summary.status object.metadata.generation)) s).1⟩] ∧
      ((concludePass object summary).answer respond s).1 = passResult summary.retryable
        (respond (.setStatus object (summary.status object.metadata.generation)) s).1 := by
  simp only [concludePass, Dialogue.transcript, Dialogue.answer]
  cases (respond (.setStatus object (summary.status object.metadata.generation)) s).1 <;>
    exact ⟨rfl, rfl⟩

/-- A pass whose plan was executed ends by writing the status of its reports. -/
theorem answer_pass_of_ok {reports : List Report}
    (h : (executed respond s object nodes placed).1 = .ok reports) :
    (pass object nodes placed).transcript respond s =
        ((Plan.make object.spec nodes placed).execute object).transcript respond s ++
          [⟨.setStatus object (statusOf object nodes placed reports),
            statusReply respond s object nodes placed reports⟩] ∧
      ((pass object nodes placed).answer respond s).1 =
        passResult (reports.countP (·.outcome.isRetryable))
          (statusReply respond s object nodes placed reports) := by
  have hend := answer_concludePass respond (executed respond s object nodes placed).2 object
    (Summary.of (Plan.make object.spec nodes placed).selections reports)
  rw [executed] at h hend
  simp only [pass, sync, Dialogue.bind_assoc, Dialogue.bind_done, Dialogue.transcript_bind,
    Dialogue.answer_bind, h, Except.map]
  exact ⟨congrArg (_ ++ ·) hend.1, hend.2⟩

/-- **Every pass ends duly**, whatever its requests are answered with. -/
theorem endsDuly_pass : EndsDuly respond s object nodes placed (pass object nodes placed) := by
  cases hexecuted : (executed respond s object nodes placed).1 with
  | error error =>
      have hresult := answer_pass_of_error respond s object nodes placed hexecuted
      constructor <;> simp [hexecuted, hresult]
  | ok reports =>
      obtain ⟨htranscript, hresult⟩ := answer_pass_of_ok respond s object nodes placed hexecuted
      refine ⟨?_, ?_, ?_, ?_, fun count hcount => ⟨reports, hexecuted, ?_⟩⟩
      · simp [hexecuted, hresult, exists_passResult_iff, Outcome.isRetryable_iff]
      · simp [hexecuted, hresult, passResult_ne_plan]
      · simp [hexecuted, hresult, passResult_eq_status_iff]
      · simp [hexecuted, hresult, passResult_eq_workloads_iff]
      · rw [htranscript, (passResult_eq_workloads_iff.mp (hresult.symm.trans hcount)).1]

end Pass

/-! ### Delays -/

namespace Backoff

/-- The factor of the delay does not decrease with the failures. -/
theorem factor_le_factor {i j : Nat} (h : i ≤ j) : factor i ≤ factor j := by
  unfold factor
  split <;> split
  · rw [Nat.one_shiftLeft, Nat.one_shiftLeft]
    exact Nat.pow_le_pow_right Nat.two_pos h
  · rw [Nat.one_shiftLeft]
    have hpow : 2 ^ i ≤ 2 ^ 31 := Nat.pow_le_pow_right Nat.two_pos (by omega)
    exact Nat.le_trans hpow (by decide)
  · omega
  · exact Nat.le_refl _

/-- **Delays do not decrease** with the failures. -/
theorem delay_le_delay (b : Backoff) {i j : Nat} (h : i ≤ j) : b.delay i ≤ b.delay j := by
  have hfactor := Nat.mul_le_mul_left b.base (factor_le_factor h)
  rw [delay, delay]
  omega

/-- The first delay is the base, up to the maximum. -/
theorem delay_zero (b : Backoff) : b.delay 0 = min b.base b.max := by
  rw [delay]
  simp [factor]

variable {b : Backoff} {key : ObjectRef}

/-- Once the retries are spent, the failures are forgotten. -/
theorem next_of_spent (h : b.retryLimit ≤ b.failures key) : b.next key = (none, b.reset key) :=
  if_pos h

/-- Until then, a failure is counted. -/
theorem next_of_left (h : ¬ b.retryLimit ≤ b.failures key) :
    b.next key = (some (b.delay (b.failures key)),
      { b with attempts := b.attempts.insert key (b.failures key + 1) }) :=
  if_neg h

/-- A failure is counted for its own resource only, up to the limit. -/
theorem failures_next (b : Backoff) (key query : ObjectRef) : (b.next key).2.failures query =
    if key = query then if b.retryLimit ≤ b.failures key then 0 else b.failures key + 1
    else b.failures query := by
  by_cases hspent : b.retryLimit ≤ b.failures key
  · rw [next_of_spent hspent, failures_reset, if_pos hspent]
  · rw [next_of_left hspent, if_neg hspent, failures, Table.get?_insert]
    split <;> rfl

/-- Counting a failure does not change the settings. -/
theorem settings_next (b : Backoff) (key : ObjectRef) :
    (b.next key).2.retryLimit = b.retryLimit ∧ (b.next key).2.delay = b.delay := by
  by_cases hspent : b.retryLimit ≤ b.failures key
  · rw [next_of_spent hspent]
    exact ⟨rfl, rfl⟩
  · rw [next_of_left hspent]
    exact ⟨rfl, rfl⟩

end Backoff

/-! ### Runs -/

/-- What is noted of a pass when it is over. -/
@[ext]
structure PassNote where
  reference : ObjectRef
  result : Except PassError Unit
  /-- The time after which the resource is due again. -/
  delay : Nat
  /-- Whether the pass failed when the retries of its resource were spent. -/
  isGivenUp : Bool

/-- Whether a note is of a failure that counts, as none does with which a resource is given up. -/
def PassNote.counts (note : PassNote) : Bool :=
  !note.result.isOk && !note.isGivenUp

/-- What a context makes of the result of a pass. -/
def Context.note (ctx : Context) (reference : ObjectRef) (result : Except PassError Unit) :
    PassNote where
  reference
  result
  delay := (ctx.afterPass reference result).1
  isGivenUp := !result.isOk && (ctx.backoff.next reference).1.isNone

/-- The number of **failures in a row** of a resource at the end of a log, since its last success or
since it was last given up. -/
def failuresInARow (reference : ObjectRef) (log : List PassNote) : Nat :=
  ((log.filter (·.reference = reference)).reverse.takeWhile PassNote.counts).length

/-- The context with other caches. -/
def Context.withCaches (ctx : Context) (nodes : Cache Node) (index : WorkloadIndex) : Context :=
  { ctx with nodes, index }

/-- A **run** of passes from a context that has counted no failure yet, with its log and the context
in the end. Every pass finds caches of its own, which are ready, and is answered by whoever. -/
inductive Runs (start : Context) : List PassNote → Context → Prop
  | start (h : start.backoff.attempts = .empty) : Runs start [] start
  | pass {log : List PassNote} {ctx : Context} (h : Runs start log ctx) (nodes : Cache Node)
      (index : WorkloadIndex) (object : SelectiveDeployment)
      {dialogue : ClusterDialogue (Except PassError Unit)}
      (hready : (ctx.withCaches nodes index).readiness = .ready)
      (hpass : (ctx.withCaches nodes index).pass? object = some dialogue) {σ : Type}
      (respond : (request : Request) → σ → request.Reply × σ) (s : σ) :
      Runs start
        (log ++ [(ctx.withCaches nodes index).note object.reference
          (dialogue.answer respond s).1])
        ((ctx.withCaches nodes index).afterPass object.reference (dialogue.answer respond s).1).2

variable {start ctx ctx' : Context} {log : List PassNote} {reference : ObjectRef}

/-- One more note counts for its own resource only. -/
theorem failuresInARow_concat (note : PassNote) :
    failuresInARow reference (log ++ [note]) =
      if note.reference = reference then
        if note.counts then failuresInARow reference log + 1 else 0
      else failuresInARow reference log := by
  unfold failuresInARow
  rw [List.filter_append]
  by_cases hsame : note.reference = reference
  · by_cases hcounts : note.counts = true <;> simp [hsame, hcounts]
  · simp [hsame]

/-- The notes of other resources do not matter. -/
theorem failuresInARow_filter :
    failuresInARow reference (log.filter (·.reference = reference)) =
      failuresInARow reference log := by
  simp [failuresInARow, List.filter_filter]

/-- **A context tallies with a log**: its settings are those of the start, and what it counts for a
resource are the failures in a row, at most up to the limit. -/
structure Tallies (start : Context) (log : List PassNote) (ctx : Context) : Prop where
  retryLimit : ctx.backoff.retryLimit = start.backoff.retryLimit
  delay : ctx.backoff.delay = start.backoff.delay
  resync : ctx.resync = start.resync
  failures : ∀ reference, ctx.backoff.failures reference = failuresInARow reference log
  bounded : ∀ reference, failuresInARow reference log ≤ start.backoff.retryLimit

/-- A context that has counted no failure tallies with the empty log. -/
theorem tallies_start (h : start.backoff.attempts = .empty) : Tallies start [] start where
  retryLimit := rfl
  delay := rfl
  resync := rfl
  failures reference := by
    rw [Backoff.failures, h]
    rfl
  bounded reference := Nat.zero_le _

namespace Tallies

variable (h : Tallies start log ctx)

include h

/-- What a context tallies with is the same for all caches. -/
theorem withCaches (nodes : Cache Node) (index : WorkloadIndex) :
    Tallies start log (ctx.withCaches nodes index) :=
  ⟨h.retryLimit, h.delay, h.resync, h.failures, h.bounded⟩

/-- The failures of a resource may be counted until they reach the limit. -/
theorem spent_iff (reference : ObjectRef) :
    ctx.backoff.retryLimit ≤ ctx.backoff.failures reference ↔
      failuresInARow reference log = start.backoff.retryLimit := by
  have hbounded := h.bounded reference
  rw [h.retryLimit, h.failures]
  omega

/-- **What is noted of a failed pass**: the resource is given up iff its failures in a row have
reached the limit; it is due again after the resync interval then, and else after a delay. -/
theorem note_error (reference : ObjectRef) (error : PassError) :
    ((ctx.note reference (.error error)).isGivenUp = true ↔
        failuresInARow reference log = start.backoff.retryLimit) ∧
      (ctx.note reference (.error error)).delay =
        if failuresInARow reference log = start.backoff.retryLimit then start.resync
        else start.backoff.delay (failuresInARow reference log) := by
  simp only [Context.note, Context.afterPass, Context.retry]
  by_cases hspent : ctx.backoff.retryLimit ≤ ctx.backoff.failures reference
  · have hlimit := (h.spent_iff reference).mp hspent
    rw [Backoff.next_of_spent hspent, if_pos hlimit]
    exact ⟨iff_of_true rfl hlimit, h.resync⟩
  · have hleft := (not_congr (h.spent_iff reference)).mp hspent
    rw [Backoff.next_of_left hspent, if_neg hleft, h.failures, h.delay]
    exact ⟨iff_of_false Bool.false_ne_true hleft, rfl⟩

/-- A failed pass counts until the retries of its resource are spent. -/
theorem counts_note_error (reference : ObjectRef) (error : PassError) :
    (ctx.note reference (.error error)).counts = true ↔
      ¬ ctx.backoff.retryLimit ≤ ctx.backoff.failures reference := by
  have hcounts : (ctx.note reference (.error error)).counts =
      !(ctx.note reference (.error error)).isGivenUp := rfl
  rw [h.spent_iff, ← (h.note_error reference error).1, hcounts, Bool.not_eq_true',
    Bool.not_eq_true]

/-- A failed pass is one failure more, or starts the count over. -/
theorem failuresInARow_note_error (reference : ObjectRef) (error : PassError) :
    failuresInARow reference (log ++ [ctx.note reference (.error error)]) =
      if failuresInARow reference log = start.backoff.retryLimit then 0
      else failuresInARow reference log + 1 := by
  have hreference : (ctx.note reference (.error error)).reference = reference := rfl
  rw [failuresInARow_concat, if_pos hreference]
  simp only [h.counts_note_error reference error, h.spent_iff, ite_not]

/-- A failure that counts does not go beyond the limit. -/
theorem lt_of_counts {result : Except PassError Unit}
    (hcounts : (ctx.note reference result).counts = true) :
    failuresInARow reference log < start.backoff.retryLimit := by
  cases result with
  | ok value => cases hcounts
  | error error =>
      rw [h.counts_note_error, h.spent_iff] at hcounts
      exact Nat.lt_of_le_of_ne (h.bounded reference) hcounts

/-- What a context counts after a pass are the failures in a row with its note. -/
theorem failures_afterPass (reference query : ObjectRef) (result : Except PassError Unit) :
    (ctx.afterPass reference result).2.backoff.failures query =
      failuresInARow query (log ++ [ctx.note reference result]) := by
  have hreference : (ctx.note reference result).reference = reference := rfl
  rw [failuresInARow_concat, hreference, ← h.failures]
  cases result with
  | ok value => exact ctx.backoff.failures_reset reference query
  | error error =>
      refine (ctx.backoff.failures_next reference query).trans ?_
      simp only [h.counts_note_error reference error, ite_not]
      split
      · next hsame => rw [hsame]
      · rfl

/-- **One more pass** keeps the counts in line with the log. -/
theorem afterPass (reference : ObjectRef) (result : Except PassError Unit) :
    Tallies start (log ++ [ctx.note reference result]) (ctx.afterPass reference result).2 where
  retryLimit := by
    cases result with
    | ok value => exact h.retryLimit
    | error error => exact (ctx.backoff.settings_next reference).1.trans h.retryLimit
  delay := by
    cases result with
    | ok value => exact h.delay
    | error error => exact (ctx.backoff.settings_next reference).2.trans h.delay
  resync := by cases result <;> exact h.resync
  failures query := h.failures_afterPass reference query result
  bounded query := by
    rw [failuresInARow_concat]
    have hbounded := h.bounded query
    split
    · next hsame =>
      split
      · next hcounts => exact hsame ▸ h.lt_of_counts hcounts
      · exact Nat.zero_le _
    · exact hbounded

/-- What is noted of a pass depends on what is counted for its resource only. -/
theorem note_eq {log' : List PassNote} (h' : Tallies start log' ctx') (reference : ObjectRef)
    (hsame : failuresInARow reference log' = failuresInARow reference log)
    (result : Except PassError Unit) :
    ctx'.note reference result = ctx.note reference result := by
  cases result with
  | ok value => exact PassNote.ext rfl rfl (h'.resync.trans h.resync.symm) rfl
  | error error =>
      obtain ⟨hgivenUp, hdelay⟩ := h.note_error reference error
      obtain ⟨hgivenUp', hdelay'⟩ := h'.note_error reference error
      rw [hsame] at hgivenUp' hdelay'
      exact PassNote.ext rfl rfl (hdelay'.trans hdelay.symm)
        (Bool.eq_iff_iff.mpr (hgivenUp'.trans hgivenUp.symm))

end Tallies

namespace Runs

/-- **The counts of a run are those of its log.** -/
theorem tallies (h : Runs start log ctx) : Tallies start log ctx := by
  induction h with
  | start h => exact tallies_start h
  | pass h nodes index object hready hpass respond s ih =>
      exact (ih.withCaches nodes index).afterPass object.reference _

/-- Every note of a run was made by a context that tallies with the log before it. -/
theorem exists_before (h : Runs start log ctx) {before later : List PassNote} {note : PassNote}
    (hlog : log = before ++ note :: later) :
    ∃ ctx', Tallies start before ctx' ∧ note = ctx'.note note.reference note.result := by
  induction h generalizing later with
  | start h => simp at hlog
  | @pass log ctx h nodes index object dialogue hready hpass σ respond s ih =>
      rcases List.eq_nil_or_concat later with rfl | ⟨later, last, rfl⟩
      · obtain ⟨rfl, hnote⟩ := List.append_inj' hlog rfl
        obtain rfl := List.singleton_inj.mp hnote
        exact ⟨_, h.tallies.withCaches nodes index, rfl⟩
      · rw [List.concat_eq_append, ← List.cons_append, ← List.append_assoc] at hlog
        exact ih (List.append_inj' hlog rfl).1

/-- **The passes of one resource form a run of their own**, in which the same is noted of them. A
pass of the resource is made again in this run. Its context is another one, but has the same count
for the resource, and so the same is noted. -/
theorem filter (h : Runs start log ctx) (reference : ObjectRef) :
    ∃ ctx', Runs start (log.filter (·.reference = reference)) ctx' := by
  induction h with
  | start h => exact ⟨start, .start h⟩
  | @pass log ctx h nodes index object dialogue hready hpass σ respond s ih =>
      obtain ⟨ctx', hrun⟩ := ih
      have hreference : ((ctx.withCaches nodes index).note object.reference
        (dialogue.answer respond s).1).reference = object.reference := rfl
      rw [List.filter_append, List.filter_singleton, hreference]
      by_cases hsame : object.reference = reference
      · have hnote := (hrun.tallies.withCaches nodes index).note_eq
          (h.tallies.withCaches nodes index) object.reference
          (by rw [hsame, failuresInARow_filter]) (dialogue.answer respond s).1
        rw [decide_eq_true hsame, cond_true, hnote]
        exact ⟨_, hrun.pass nodes index object hready hpass respond s⟩
      · rw [decide_eq_false hsame, cond_false, List.append_nil]
        exact ⟨ctx', hrun⟩

/-- **Retries are bounded** over every run, from a context that has counted no failure yet. Every
pass with caches that are ready ends duly. Delays start with the base, do not decrease with the
failures and stay within the maximum. A failed pass of a run comes after at most as many failures in
a row of its resource as there are retries. It is retried after the delay for that number, or else,
if the number has reached the limit, the resource is given up: it is due again after the resync
interval, and its failures are counted from the start. The passes of one resource, taken out of the
run, form a run with the same notes and the same count for the resource. -/
theorem retries_bounded (h : Runs start log ctx) :
    (∀ (ready : Context) (object : SelectiveDeployment) (σ : Type)
      (respond : (request : Request) → σ → request.Reply × σ) (s : σ), ready.readiness = .ready →
      ∃ dialogue, ready.pass? object = some dialogue ∧
        EndsDuly respond s object (eligibleNodes ready.nodes) (ready.index.placementOf object)
          dialogue) ∧
    (start.backoff.delay 0 = min start.backoff.base start.backoff.max ∧
      (∀ i j, i ≤ j → start.backoff.delay i ≤ start.backoff.delay j) ∧
      ∀ j, start.backoff.delay j ≤ start.backoff.max) ∧
    (∀ before note later error, log = before ++ note :: later → note.result = .error error →
      failuresInARow note.reference before ≤ start.backoff.retryLimit ∧
      (note.isGivenUp = true ↔
        failuresInARow note.reference before = start.backoff.retryLimit) ∧
      (note.delay = if failuresInARow note.reference before = start.backoff.retryLimit then
          start.resync
        else start.backoff.delay (failuresInARow note.reference before)) ∧
      failuresInARow note.reference (before ++ [note]) =
        if failuresInARow note.reference before = start.backoff.retryLimit then 0
        else failuresInARow note.reference before + 1) ∧
    ∀ reference, ∃ ctx', Runs start (log.filter (·.reference = reference)) ctx' ∧
      ctx'.backoff.failures reference = ctx.backoff.failures reference := by
  refine ⟨fun ready object σ respond s hready => ?_,
    ⟨start.backoff.delay_zero, fun i j => start.backoff.delay_le_delay, start.backoff.delay_le_max⟩,
    fun before note later error hlog herror => ?_, fun reference => ?_⟩
  · rw [Context.pass?, hready]
    exact ⟨_, rfl, endsDuly_pass respond s object _ _⟩
  · obtain ⟨ctx', htallies, hnote⟩ := h.exists_before hlog
    rw [herror] at hnote
    obtain ⟨hgivenUp, hdelay⟩ := htallies.note_error note.reference error
    have hcount := htallies.failuresInARow_note_error note.reference error
    rw [← hnote] at hgivenUp hdelay hcount
    exact ⟨htallies.bounded _, hgivenUp, hdelay, hcount⟩
  · obtain ⟨ctx', hrun⟩ := h.filter reference
    refine ⟨ctx', hrun, ?_⟩
    rw [hrun.tallies.failures, failuresInARow_filter, h.tallies.failures]

/-- A context that retries a failed pass once. -/
def retryingOnce : Context where
  backoff := { retryLimit := 1, base := 500, max := 3000 }
  resync := 1800000

/-- A resource that declares nothing. -/
def idle (name : String) : SelectiveDeployment where
  metadata := { name := some name, inNamespace := some "tenant", uid := some name }
  spec := {}

/-- One more pass over such a resource, with empty caches, whose status is rejected. -/
theorem rejected (h : Runs start log ctx) (name : String) :
    Runs start
      (log ++ [(ctx.withCaches { isReady := true } ⟨fun _ => { isReady := true }⟩).note
        (idle name).reference (.error (.status .rejected))])
      ((ctx.withCaches { isReady := true } ⟨fun _ => { isReady := true }⟩).afterPass
        (idle name).reference (.error (.status .rejected))).2 :=
  h.pass { isReady := true } ⟨fun _ => { isReady := true }⟩ (idle name) rfl rfl Plan.stubborn ()

/-- A resource whose passes are interleaved with those of another one is retried once and then given
up, with the same notes as without the other one. -/
theorem retries_bounded_rejected :
    ∃ log ctx before note later error, Runs retryingOnce log ctx ∧
      log.map (fun note => (note.reference.name, note.delay)) =
        [("a", 500), ("b", 500), ("a", 1800000), ("a", 500)] ∧
      log = before ++ note :: later ∧ note.result = .error error ∧
      note.isGivenUp = true ∧ note.delay = retryingOnce.resync ∧
      ∃ ctx', Runs retryingOnce (log.filter (·.reference = (idle "a").reference)) ctx' := by
  have hstart : Runs retryingOnce [] retryingOnce := .start rfl
  have hrun := (((hstart.rejected "a").rejected "b").rejected "a").rejected "a"
  obtain ⟨-, -, hretried, hapart⟩ := retries_bounded hrun
  obtain ⟨-, hgivenUp, hdelay, -⟩ := hretried [_, _] _ [_] _ rfl rfl
  obtain ⟨ctx', hfilter, -⟩ := hapart (idle "a").reference
  exact ⟨_, _, [_, _], _, [_], _, hrun, rfl, rfl, rfl, hgivenUp.mpr rfl,
    hdelay.trans (if_pos rfl), ctx', hfilter⟩

end Runs

end GeoPlacement
