import GeoPlacement.Cluster.Dialogue
import GeoPlacement.Resource.SelectiveDeployment

/-!
# Requests to the cluster

The four things the operator asks of a cluster, what each may be answered with, and the causes
for which one may fail. A replacement carries the resource version of the object that it was
derived from, so that a cluster can refuse it where the object has changed since.
-/

namespace GeoPlacement

/-- A failure reported by the server of a cluster. -/
structure ServerFailure where
  code : Nat
  reason : String
  message : String
deriving Repr, DecidableEq, Inhabited

/-- Why a cluster refuses to read or write a workload. -/
inductive Refusal
  /-- Writes of the workload are rejected. -/
  | rejected
  /-- Reads of the workload fail. -/
  | unreadable
  /-- The workload to create is there already. -/
  | alreadyExists
  /-- The workload to replace is not there. -/
  | notFound
  /-- The workload to replace has changed since it was read. -/
  | modified
deriving Repr, DecidableEq

/-- How a refusal is put after the name of a workload. -/
def Refusal.phrase : Refusal → String
  | rejected => "is rejected"
  | unreadable => "is unreadable"
  | alreadyExists => "already exists"
  | notFound => "not found"
  | modified => "has been modified"

/-- Why an exchange with a server fails. -/
inductive TransportError
  /-- The server reports a failure. -/
  | server (failure : ServerFailure)
  /-- An answer cannot be read. -/
  | unreadableAnswer
  /-- An object without a name cannot be asked for. -/
  | emptyName
  /-- The names in a request lead nowhere on a server. -/
  | noLocation
deriving Repr, DecidableEq

/-- The text of a failed exchange. -/
def TransportError.message : TransportError → String
  | server failure => s!"ApiError: {failure.message}: {failure.reason} ({failure.code})"
  | unreadableAnswer => "Error deserializing response"
  | emptyName => "A non-empty name is required"
  | noLocation => "The location of the object is invalid"

/-- Why reading or writing a workload fails. -/
inductive ClientError
  /-- The workload has no name. -/
  | missingName
  | refused (kind : Kind) (name : String) (cause : Refusal)
  | transport (error : TransportError)
deriving Repr, DecidableEq

/-- The text of a failure. -/
def ClientError.message : ClientError → String
  | missingName => "Missing resource name."
  | refused kind name cause => s!"ServiceError: {kind.name} {name} {cause.phrase}"
  | transport error => error.message

/-- Why writing a status fails. -/
inductive StatusError
  /-- The resource has no namespace. -/
  | missingNamespace
  /-- The resource has no name. -/
  | missingName
  /-- Writes of a status are rejected. -/
  | rejected
  | transport (error : TransportError)
deriving Repr, DecidableEq

/-- The text of a failure. -/
def StatusError.message : StatusError → String
  | missingNamespace => "Missing resource namespace."
  | missingName => "Missing resource name."
  | rejected => "ServiceError: status is rejected"
  | transport error => error.message

/-- What the operator asks of a cluster. -/
inductive Request
  | get (kind : Kind) (inNamespace name : String)
  | create (inNamespace : String) (object : Workload)
  | replace (inNamespace : String) (object : Workload)
  | setStatus (object : SelectiveDeployment) (status : Status)

/-- What a request is answered with: a look-up with the workload if there is one, a write with the
workload as it is stored. -/
def Request.Reply : Request → Type
  | get .. => Except ClientError (Option Workload)
  | create .. => Except ClientError Workload
  | replace .. => Except ClientError Workload
  | setStatus .. => Except StatusError Unit

/-- A dialogue with a cluster. -/
abbrev ClusterDialogue := Dialogue Request Request.Reply

end GeoPlacement
