import GeoPlacement.Placement.Selection
import GeoPlacement.Reconcile.Report
import GeoPlacement.Resource.Status

/-!
# Summaries

The outcome of a pass as a whole, from the selections and the reports, and the status that is
written for it. A workload placed by a selection with a problem counts as failed, even where it
was written.
-/

namespace GeoPlacement

/-- The outcome of a pass. -/
structure Summary where
  total : Nat
  failures : Nat
  /-- The number of workloads for which a request failed; the pass is worth another try. -/
  retryable : Nat
  messages : List String
deriving Repr, DecidableEq

namespace Summary

/-- The message of a pass without failures. -/
def successMessage : String := "The desired workload(s) are created successfully"

/-- The state of so many failures among so many workloads. -/
def stateOf (total failures : Nat) : State :=
  if failures = total then .failure else if failures = 0 then .success else .partly

/-- Whether a selection has a problem. -/
def anyProblem (selections : List Selection) : Bool :=
  selections.any fun selection => 0 < selection.failures

/-- The number of workloads that count as failed. -/
def countFailures (selections : List Selection) (reports : List Report) : Nat :=
  reports.countP fun report => anyProblem selections || report.outcome.isFailure

/-- The messages about problems: those of the selections, then those of the workloads. -/
def problemMessages (selections : List Selection) (reports : List Report) : List String :=
  (selections.flatMap Selection.diagnostics).map Diagnostic.message ++
    reports.filterMap Report.message?

/-- Sums up a pass. -/
def of (selections : List Selection) (reports : List Report) : Summary :=
  let total := reports.length
  let failures := countFailures selections reports
  let problems := problemMessages selections reports
  { total
    failures
    retryable := reports.countP (·.outcome.isRetryable)
    messages :=
      if stateOf total failures = .success then problems ++ [successMessage] else problems }

/-- The state of the pass. -/
def state (s : Summary) : State :=
  stateOf s.total s.failures

/-- The placed workloads over all declared ones. -/
def ready (s : Summary) : String :=
  s!"{s.total - s.failures}/{s.total}"

/-- The status to be written for a generation of the resource. -/
def status (s : Summary) (generation : Option Int64) : Status where
  ready := s.ready
  state := s.state
  message := s.messages
  observedGeneration := generation

end Summary

end GeoPlacement
