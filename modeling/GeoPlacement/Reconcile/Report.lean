import GeoPlacement.Object.Workload

/-!
# Reports

What became of each declared workload in a pass, and the message about it for the tenant.
-/

namespace GeoPlacement

/-- The step at which applying a workload may fail. -/
inductive Verb
  | get
  | create
  | update
deriving Repr, DecidableEq, Inhabited

namespace Verb

/-- The name of a step. -/
def name : Verb → String
  | get => "get"
  | create => "create"
  | update => "update"

/-- The step of a name. -/
def ofName? (name : String) : Option Verb :=
  [get, create, update].find? (·.name == name)

end Verb

/-- What became of a declared workload. -/
inductive Outcome
  | created
  | updated
  | unchanged
  /-- Another resource holds the workload. -/
  | inUse (owner : String)
  /-- A request for the workload failed. -/
  | failed (verb : Verb) (error : String)
  /-- The declaration cannot be applied. -/
  | invalid (reason : String)
deriving Repr, DecidableEq

namespace Outcome

/-- Whether the workload is not as it was declared. -/
def isFailure : Outcome → Bool
  | inUse _ | failed .. | invalid _ => true
  | created | updated | unchanged => false

/-- Whether the failure may pass on its own when tried again. -/
def isRetryable : Outcome → Bool
  | failed .. => true
  | _ => false

end Outcome

/-- The report on a declared workload. -/
structure Report where
  kind : Kind
  name : String
  outcome : Outcome
deriving Repr, DecidableEq

namespace Report

/-- The workload as messages name it. -/
def subject (r : Report) : String :=
  s!"{r.kind.name} {r.name}"

/-- The message about a workload that is not as it was declared. -/
def message? (r : Report) : Option String :=
  match r.outcome with
  | .created | .updated | .unchanged => none
  | .inUse _ => some s!"Workload is owned by another selective deployment: {r.subject}"
  | .failed .get _ => some s!"Workload could not be read: {r.subject}"
  | .failed .update _ => some s!"Workload could not be updated: {r.subject}"
  | .failed .create _ | .invalid _ => some s!"Workload could not be created: {r.subject}"

end Report

end GeoPlacement
