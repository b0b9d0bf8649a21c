import GeoPlacement.Reconcile.Summary
import Mathlib.Tactic.ByContra
import Mathlib.Tactic.Set

/-!
# What a status says about its pass

A summary counts reports twice, the failures among them and those that are worth another try, and
collects messages about selections and about reports. State, ready count and messages of a status
are computed from these apart from each other. This module shows that they agree, whatever the
selections and the reports are; `Summary.placed` is the one number from which the counts are read.

## Conventions

A selection **has a problem** if it has a diagnostic. Under such a selection every workload counts
as failed, also one that was written, but there is no message about that workload.

## Main results

* `Summary.countFailures_add_placed`: a workload counts as failed or as placed, and never as both.
* `Summary.state_of_eq_success_iff`: which summaries say success.
* `Summary.problemMessages_eq_nil_iff`: when there is nothing to complain about.
* `Summary.successMessage_notMem_problemMessages`: no complaint reads like a success.
* `Summary.state_of_eq_success_iff_messages`: state and messages agree.
* `Summary.status_consistent`: all that a status says.
-/

namespace GeoPlacement

/-! ### First and last characters -/

/-- A text begins as its front does. -/
theorem head?_toList_append {front : String} {c : Char} (h : front.toList.head? = some c)
    (rear : String) : (front ++ rear).toList.head? = some c := by
  rw [String.toList_append, List.head?_append, h, Option.some_or]

/-- A text ends as its rear does. -/
theorem getLast?_toList_append {rear : String} {c : Char} (h : rear.toList.getLast? = some c)
    (front : String) : (front ++ rear).toList.getLast? = some c := by
  rw [String.toList_append, List.getLast?_append, h, Option.some_or]

/-! ### Messages -/

/-- What is worth another try is a failure. -/
theorem Outcome.isFailure_of_isRetryable {outcome : Outcome} (h : outcome.isRetryable = true) :
    outcome.isFailure = true := by
  cases outcome with
  | failed verb error => rfl
  | _ => cases h

/-- There is a message about a workload iff it is not as it was declared. -/
theorem Report.isSome_message? (r : Report) : r.message?.isSome = r.outcome.isFailure := by
  rcases r with ⟨kind, name, outcome⟩
  cases outcome with
  | failed verb error => cases verb <;> rfl
  | _ => rfl

/-- Messages about workloads begin alike. -/
theorem Report.head?_message? {r : Report} {text : String} (h : r.message? = some text) :
    text.toList.head? = some 'W' := by
  rcases r with ⟨kind, name, outcome⟩
  cases outcome with
  | created | updated | unchanged => cases h
  | inUse owner | invalid reason =>
      obtain rfl := Option.some.inj h
      exact head?_toList_append (by decide +kernel) _
  | failed verb error =>
      cases verb <;> obtain rfl := Option.some.inj h <;>
        exact head?_toList_append (by decide +kernel) _

namespace Summary

/-- No message about a workload reads like a success. -/
theorem message?_ne_successMessage (r : Report) : r.message? ≠ some successMessage := by
  intro h
  have hhead := Report.head?_message? h
  revert hhead
  decide +kernel

/-- No message about a selection reads like a success. Those about rings begin with a value of the
selector, which may be any text, and so it is by its end that such a message is told apart. -/
theorem message_ne_successMessage (d : Diagnostic) : d.message ≠ successMessage := by
  intro h
  cases d with
  | fewerNodes found wanted value =>
      have hhead : (Diagnostic.fewerNodes found wanted value).message.toList.head? = some 'F' := by
        iterate 5 refine head?_toList_append ?_ _
        decide +kernel
      rw [h] at hhead
      revert hhead
      decide +kernel
  | malformedRing value =>
      have hlast : (Diagnostic.malformedRing value).message.toList.getLast? = some 'r' :=
        getLast?_toList_append (by decide +kernel) _
      rw [h] at hlast
      revert hlast
      decide +kernel

variable {selections : List Selection} {reports : List Report}

/-- **No complaint reads like a success.** -/
theorem successMessage_notMem_problemMessages :
    successMessage ∉ problemMessages selections reports := by
  intro h
  rcases List.mem_append.mp h with h | h
  · obtain ⟨d, -, hd⟩ := List.mem_map.mp h
    exact message_ne_successMessage d hd
  · obtain ⟨r, -, hr⟩ := List.mem_filterMap.mp h
    exact message?_ne_successMessage r hr

/-- The messages about workloads are those of the failures, one for each. -/
theorem map_message?_filter (reports : List Report) :
    (reports.filter (·.outcome.isFailure)).map Report.message? =
      (reports.filterMap Report.message?).map some := by
  induction reports with
  | nil => rfl
  | cons r rest ih =>
      have hsome := r.isSome_message?
      cases hmessage : r.message? with
      | none =>
          rw [hmessage, Option.isSome_none] at hsome
          simp [← hsome, hmessage, ih]
      | some text =>
          rw [hmessage, Option.isSome_some] at hsome
          simp [← hsome, hmessage, ih]

/-! ### Counts -/

/-- The number of workloads that count as **placed**: none where a selection has a problem, and
otherwise those that are not reported as failures. -/
def placed (selections : List Selection) (reports : List Report) : Nat :=
  if ∀ s ∈ selections, s.diagnostics = [] then
    (reports.filter fun r => !r.outcome.isFailure).length
  else
    0

/-- There is no problem iff no selection has a diagnostic. -/
theorem anyProblem_eq_false_iff :
    anyProblem selections = false ↔ ∀ s ∈ selections, s.diagnostics = [] := by
  rw [anyProblem, List.any_eq_false]
  refine forall₂_congr fun s _ => ?_
  rw [Selection.failures, decide_eq_true_iff, List.length_pos_iff, Decidable.not_not]

/-- **A workload counts as failed or as placed**, and never as both. -/
theorem countFailures_add_placed (selections : List Selection) (reports : List Report) :
    countFailures selections reports + placed selections reports = reports.length := by
  have hsplit : reports.length = reports.countP (·.outcome.isFailure) +
      (reports.filter fun r => !r.outcome.isFailure).length := by
    rw [← List.countP_eq_length_filter]
    simpa using reports.length_eq_countP_add_countP (·.outcome.isFailure)
  rw [countFailures, placed]
  split
  · next hnone =>
    simp only [anyProblem_eq_false_iff.mpr hnone, Bool.false_or]
    exact hsplit.symm
  · next hsome =>
    have hproblem : anyProblem selections = true :=
      Bool.of_not_eq_false fun hnone => hsome (anyProblem_eq_false_iff.mp hnone)
    simp [hproblem]

/-- What is worth another try counts as failed. -/
theorem countP_isRetryable_le (selections : List Selection) (reports : List Report) :
    reports.countP (·.outcome.isRetryable) ≤ countFailures selections reports := by
  refine List.countP_mono_left fun r _ hretryable => ?_
  rw [Bool.or_eq_true]
  exact .inr (Outcome.isFailure_of_isRetryable hretryable)

/-! ### States -/

/-- The state is success where there is something to place and nothing fails. -/
theorem stateOf_eq_success_iff {total failures : Nat} :
    stateOf total failures = .success ↔ total ≠ 0 ∧ failures = 0 := by
  rw [stateOf]
  split
  · next heq => simpa using fun htotal hnone => htotal (heq ▸ hnone)
  · split
    · next hne hnone => simpa [hnone] using fun htotal => hne (hnone.trans htotal.symm)
    · next hsome => simp [hsome]

/-- The state is failure where everything fails. -/
theorem stateOf_eq_failure_iff {total failures : Nat} :
    stateOf total failures = .failure ↔ failures = total := by
  rw [stateOf]
  split
  · next heq => simp [heq]
  · next hne => split <;> simp [hne]

/-- There is no fourth state. -/
theorem stateOf_eq_partly_iff {total failures : Nat} :
    stateOf total failures = .partly ↔
      stateOf total failures ≠ .success ∧ stateOf total failures ≠ .failure := by
  rw [stateOf]
  split
  · simp
  · split <;> simp

/-- **A summary says success** iff there are reports, and neither a selection with a problem nor a
report of a failure. -/
theorem state_of_eq_success_iff :
    (Summary.of selections reports).state = .success ↔
      reports ≠ [] ∧ anyProblem selections = false ∧
        ∀ r ∈ reports, r.outcome.isFailure = false := by
  have hstate : (Summary.of selections reports).state =
      stateOf reports.length (countFailures selections reports) := rfl
  rw [hstate, stateOf_eq_success_iff, ne_eq, List.length_eq_zero_iff, countFailures,
    List.countP_eq_zero]
  simp only [Bool.not_eq_true, Bool.or_eq_false_iff]
  refine and_congr_right fun hsome => ⟨fun h => ?_, fun h r hr => ⟨h.1, h.2 r hr⟩⟩
  obtain ⟨r, rest, rfl⟩ := List.exists_cons_of_ne_nil hsome
  exact ⟨(h r List.mem_cons_self).1, fun other hother => (h other hother).2⟩

/-- **There is nothing to complain about** iff no selection has a problem and no report is of a
failure. -/
theorem problemMessages_eq_nil_iff :
    problemMessages selections reports = [] ↔
      anyProblem selections = false ∧ ∀ r ∈ reports, r.outcome.isFailure = false := by
  rw [problemMessages, List.append_eq_nil_iff, List.map_eq_nil_iff, List.flatMap_eq_nil_iff,
    List.filterMap_eq_nil_iff, anyProblem_eq_false_iff]
  refine and_congr_right fun _ => forall₂_congr fun r _ => ?_
  rw [← Report.isSome_message?, Option.isSome_eq_false_iff, Option.isNone_iff_eq_none]

/-- The messages of a summary are the complaints, and the one of a success after them. -/
theorem messages_of (selections : List Selection) (reports : List Report) :
    (Summary.of selections reports).messages = problemMessages selections reports ++
      if (Summary.of selections reports).state = .success then [successMessage] else [] := by
  have hmessages : (Summary.of selections reports).messages =
      if (Summary.of selections reports).state = .success then
        problemMessages selections reports ++ [successMessage]
      else problemMessages selections reports := rfl
  rw [hmessages]
  split <;> simp

/-- A summary says success iff there are reports and nothing to complain about. -/
theorem state_of_eq_success_iff_problemMessages :
    (Summary.of selections reports).state = .success ↔
      reports ≠ [] ∧ problemMessages selections reports = [] := by
  rw [problemMessages_eq_nil_iff]
  exact state_of_eq_success_iff

/-- **State and messages agree**: a summary says success iff this is its only message. -/
theorem state_of_eq_success_iff_messages :
    (Summary.of selections reports).state = .success ↔
      (Summary.of selections reports).messages = [successMessage] := by
  rw [messages_of]
  constructor
  · intro h
    rw [(state_of_eq_success_iff_problemMessages.mp h).2, if_pos h, List.nil_append]
  · intro h
    by_contra hother
    rw [if_neg hother, List.append_nil] at h
    exact successMessage_notMem_problemMessages (h ▸ List.mem_singleton_self _)

/-- A summary of reports that does not say success has a message. -/
theorem messages_of_ne_nil (h : (Summary.of selections reports).state ≠ .success)
    (hsome : reports ≠ []) : (Summary.of selections reports).messages ≠ [] := by
  intro hnone
  rw [messages_of] at hnone
  have hproblems := (List.append_eq_nil_iff.mp hnone).1
  exact h (state_of_eq_success_iff_problemMessages.mpr ⟨hsome, hproblems⟩)

end Summary

/-! ### The status of a pass -/

/-- A summary and its status are **consistent** with selections and reports if their counts, the
state and the messages are those of one and the same number of placed workloads. -/
structure Summary.IsConsistent (selections : List Selection) (reports : List Report)
    (summary : Summary) (status : Status) : Prop where
  total : summary.total = reports.length
  /-- No count falls below zero. -/
  failures_le : summary.failures ≤ summary.total
  failures : summary.total - summary.failures = placed selections reports
  ready : status.ready = s!"{placed selections reports}/{reports.length}"
  success_iff : status.state = .success ↔ 0 < reports.length ∧
    (∀ s ∈ selections, s.diagnostics = []) ∧ ∀ r ∈ reports, r.outcome.isFailure = false
  failure_iff : status.state = .failure ↔ placed selections reports = 0
  partly_iff : status.state = .partly ↔ status.state ≠ .success ∧ status.state ≠ .failure
  /-- The diagnostics stand in the order of the selections, and after them one message for each
  failure in the order of the reports. -/
  message : ∃ complaints : List String,
    (reports.filter (·.outcome.isFailure)).map Report.message? = complaints.map some ∧
      status.message = (selections.flatMap Selection.diagnostics).map Diagnostic.message ++
        complaints ++ if status.state = .success then [successMessage] else []
  success_iff_message : status.state = .success ↔ status.message = [successMessage]
  message_ne_nil : status.state ≠ .success → 0 < reports.length → status.message ≠ []
  retryable : summary.retryable = (reports.filter fun r => r.outcome matches .failed ..).length
  retryable_le : summary.retryable ≤ reports.length - placed selections reports

/-- **The status of a pass is consistent** with it, for all selections and reports and whichever
generation is observed. -/
theorem Summary.status_consistent (selections : List Selection) (reports : List Report)
    (generation : Option Int64) :
    (Summary.of selections reports).IsConsistent selections reports
      ((Summary.of selections reports).status generation) := by
  set summary := Summary.of selections reports with hsummary
  have hcounts : summary.failures + placed selections reports = summary.total :=
    countFailures_add_placed selections reports
  have hplaced : summary.total - summary.failures = placed selections reports := by omega
  constructor
  case total => rfl
  case failures_le => omega
  case failures => exact hplaced
  case ready =>
      have hready : (summary.status generation).ready =
          s!"{summary.total - summary.failures}/{summary.total}" := rfl
      rw [hready, hplaced]
      rfl
  case success_iff =>
      rw [List.length_pos_iff, ← anyProblem_eq_false_iff]
      exact state_of_eq_success_iff
  case failure_iff =>
      have hstate := @stateOf_eq_failure_iff summary.total summary.failures
      refine hstate.trans ⟨fun h => ?_, fun h => ?_⟩ <;> omega
  case partly_iff => exact stateOf_eq_partly_iff
  case message => exact ⟨_, map_message?_filter reports, messages_of selections reports⟩
  case success_iff_message => exact state_of_eq_success_iff_messages
  case message_ne_nil =>
      intro hother hsome
      exact messages_of_ne_nil hother (List.length_pos_iff.mp hsome)
  case retryable =>
      change reports.countP (·.outcome.isRetryable) = _
      rw [List.countP_eq_length_filter]
      rfl
  case retryable_le =>
      have hretryable : summary.retryable ≤ summary.failures :=
        countP_isRetryable_le selections reports
      have htotal : summary.total = reports.length := rfl
      omega

end GeoPlacement
