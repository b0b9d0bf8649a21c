import GeoPlacement.Reconcile.Plan
import GeoPlacement.Reconcile.Summary

/-!
# Passes

One pass over a resource: its placement is resolved, its workloads are applied, the outcome is
summed up and written as the resource's status. A pass whose requests for some workload failed is
itself a failure, but only after the status was written.
-/

namespace GeoPlacement

/-- Why a pass fails. -/
inductive PassError
  | plan (error : PlanError)
  | status (error : StatusError)
  /-- A list of objects that the pass depends on will never arrive. -/
  | cacheLost
  /-- Requests for some workloads failed. -/
  | workloads (count : Nat)
deriving Repr, DecidableEq

/-- The text of a failure, as far as it is the operator's own. -/
def PassError.message : PassError → String
  | plan error => error.message
  | status error => error.message
  | cacheLost => "store writer dropped"
  | workloads count => s!"{count} workload(s) could not be written."

/-- Resolves the placement of a resource, applies its workloads and sums up the outcome. -/
def sync (object : SelectiveDeployment) (nodes : List EligibleNode) (placed : List (List String)) :
    ClusterDialogue (Except PlanError Summary) :=
  let plan := Plan.make object.spec nodes placed
  (plan.execute object).bind fun reports => .done (reports.map (Summary.of plan.selections))

/-- Writes the status of a pass and ends it. -/
def concludePass (object : SelectiveDeployment) (summary : Summary) :
    ClusterDialogue (Except PassError Unit) :=
  .ask (.setStatus object (summary.status object.metadata.generation)) fun
    | .error error => .done (.error (.status error))
    | .ok () =>
      .done (if 0 < summary.retryable then .error (.workloads summary.retryable) else .ok ())

/-- A **pass** over a resource. -/
def pass (object : SelectiveDeployment) (nodes : List EligibleNode) (placed : List (List String)) :
    ClusterDialogue (Except PassError Unit) :=
  (sync object nodes placed).bind fun
    | .error error => .done (.error (.plan error))
    | .ok summary => concludePass object summary

end GeoPlacement
