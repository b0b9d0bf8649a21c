import GeoPlacement.Cluster.Request
import GeoPlacement.Json.Structure

/-!
# Failure reports

A server that refuses a request describes the failure in a document. `FailureReport.read?` reads
such a document, or refuses it as a whole where one of its members is not what it should be: a
report says nothing unless all of it can be read. Every member may be left out.

Reports, their details and the causes in them may be written as lists, like the structures of a
resource.
-/

namespace GeoPlacement

/-- One of several causes of a failure. -/
structure FailureCause where
  reason : String
  message : String
  /-- The member of the request that is the cause. -/
  member : String
deriving Repr, DecidableEq

/-- What a failure is about. -/
structure FailureDetails where
  name : String
  group : String
  kind : String
  uid : String
  causes : List FailureCause
  retryAfterSeconds : UInt32
deriving Repr, DecidableEq

/-- The outcome of an operation as a server names it. -/
inductive ReportedOutcome
  | success
  | failure
deriving Repr, DecidableEq

/-- The description of a failure. -/
structure FailureReport where
  outcome : Option ReportedOutcome
  code : UInt16
  message : String
  metadata : Option Record
  reason : String
  details : Option FailureDetails

/-- Reads a natural number of 16 bits. -/
def Json.uint16? : Json → Option UInt16
  | .int value => if 0 ≤ value ∧ value < UInt16.size then some value.toNat.toUInt16 else none
  | _ => none

namespace FailureCause

/-- The members of a cause in the order of declaration. -/
def names : List String := ["reason", "message", "field"]

/-- Reads a cause. -/
def read? (value : Json) : Option FailureCause := do
  let m ← value.structure? names
  some {
    reason := ← m.absentOr "reason" "" Json.str?
    message := ← m.absentOr "message" "" Json.str?
    member := ← m.absentOr "field" "" Json.str? }

end FailureCause

namespace FailureDetails

/-- The members of the details in the order of declaration. -/
def names : List String := ["name", "group", "kind", "uid", "causes", "retryAfterSeconds"]

/-- Reads details. -/
def read? (value : Json) : Option FailureDetails := do
  let m ← value.structure? names
  some {
    name := ← m.absentOr "name" "" Json.str?
    group := ← m.absentOr "group" "" Json.str?
    kind := ← m.absentOr "kind" "" Json.str?
    uid := ← m.absentOr "uid" "" Json.str?
    causes := ← m.absentOr "causes" [] (Json.list? FailureCause.read?)
    retryAfterSeconds := ← m.absentOr "retryAfterSeconds" 0 Json.uint32? }

end FailureDetails

/-- Reads an outcome. -/
def ReportedOutcome.read? (value : Json) : Option ReportedOutcome :=
  value.constant?.bind fun name =>
    if name = "Success" then some success else if name = "Failure" then some failure else none

namespace FailureReport

/-- The members of a report in the order of declaration. -/
def names : List String := ["status", "code", "message", "metadata", "reason", "details"]

/-- Reads a report. -/
def read? (value : Json) : Option FailureReport := do
  let m ← value.structure? names
  some {
    outcome := ← m.maybe "status" ReportedOutcome.read?
    code := ← m.absentOr "code" 0 Json.uint16?
    message := ← m.absentOr "message" "" Json.str?
    metadata := ← m.maybe "metadata" fun j => j.members?.bind (Shape.readFields? Catalog.listFields)
    reason := ← m.absentOr "reason" "" Json.str?
    details := ← m.maybe "details" FailureDetails.read? }

/-- The failure that a report describes. -/
def toFailure (r : FailureReport) : ServerFailure :=
  ⟨r.code.toNat, r.reason, r.message⟩

end FailureReport

end GeoPlacement
