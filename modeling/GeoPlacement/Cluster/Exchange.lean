import GeoPlacement.Cluster.FailureReport
import GeoPlacement.Cluster.Location
import GeoPlacement.Json.Printer
import GeoPlacement.Json.Reader
import GeoPlacement.Json.Rounded

/-!
# Exchanges with a server

How the requests of the operator are carried over HTTP. Every `Request` becomes a dialogue in
`HttpRequest`s: a look-up is a `GET`, a creation a `POST` to the collection, a replacement a `PUT`
to the object; a status is written by reading the resource and putting it back with the new status
at its status path. A response of a status from 400 to 599 is a failure that the server describes in
its body, or whose body is all there is to say about it; any other response answers the request.

**Locations.** The names of an object are part of the text from which the location of a request is
read. A request whose text leads nowhere is not sent.

**Absence.** A look-up that the server answers with the reason `NotFound` is no failure: there is
no such object. Every other failure remains one.
-/

namespace GeoPlacement

/-- What a request does to the object at its path. -/
inductive Method
  | get
  | post
  | put
deriving Repr, DecidableEq

/-- The name of a method. -/
def Method.name : Method → String
  | get => "GET"
  | post => "POST"
  | put => "PUT"

/-- A request to a server. -/
structure HttpRequest extends Location where
  method : Method
  body : Option Json := none

/-- The answer of a server. -/
structure HttpResponse where
  status : Nat
  body : String
deriving Repr, DecidableEq, Inhabited

/-- A dialogue with a server. -/
abbrev HttpDialogue := Dialogue HttpRequest fun _ => HttpResponse

/-! ### Paths and parameters -/

namespace ServerPath

/-- The collection of all objects of a plural. -/
def everywhere (apiVersion plural : String) : String :=
  s!"/apis/{apiVersion}/{plural}"

/-- The collection of the objects of a plural in a namespace. -/
def collection (apiVersion inNamespace plural : String) : String :=
  s!"/apis/{apiVersion}/namespaces/{inNamespace}/{plural}"

/-- The collection of the workloads of a kind in a namespace. -/
def workloads (kind : Kind) (inNamespace : String) : String :=
  collection kind.apiVersion inNamespace kind.plural

/-- A workload. -/
def workload (kind : Kind) (inNamespace name : String) : String :=
  workloads kind inNamespace ++ "/" ++ name

/-- The status of a resource. -/
def status (inNamespace name : String) : String :=
  collection resourceApiVersion inNamespace resourcePlural ++ "/" ++ name ++ "/status"

end ServerPath

/-- Whether a byte of a parameter is sent as it is. -/
def isPlainByte (byte : UInt8) : Bool :=
  let c := Char.ofNat byte.toNat
  byte < 128 && (c.isAlphanum || c == '*' || c == '-' || c == '.' || c == '_')

/-- A byte of a parameter as it is sent: a blank as a plus sign, other bytes that are not plain as
a percent sign and two upper-case hexadecimal digits. -/
def encodeByte (byte : UInt8) : String :=
  if isPlainByte byte then String.singleton (Char.ofNat byte.toNat)
  else if byte = 32 then "+"
  else
    let digit (value : Nat) : Char := (hexDigit value).toUpper
    String.ofList ['%', digit (byte.toNat / 16), digit (byte.toNat % 16)]

/-- A parameter. -/
def parameter (name value : String) : String :=
  name ++ "=" ++ String.join (value.toUTF8.toList.map encodeByte)

/-- The text of the location of a write, which ends with parameters. Each of them follows an
ampersand, also the first. -/
def forWriting (path : String) (parameters : List String := []) : String :=
  path ++ "?" ++ String.join (parameters.map ("&" ++ ·))

/-- The parameter that says who writes an object. -/
def writer : String :=
  parameter "fieldManager" Label.manager

/-- The first page of the list of all managed workloads of a kind. -/
def managedList (kind : Kind) : HttpRequest where
  method := .get
  path := ServerPath.everywhere kind.apiVersion kind.plural
  query := [parameter "labelSelector" (Label.managedBy ++ "=" ++ Label.manager),
    parameter "limit" "500"]

/-! ### Responses -/

/-- The reason of a failure for which there is no such object. -/
def ServerFailure.notFound : String := "NotFound"

namespace HttpResponse

/-- The response of a server that sends a document. -/
def ofDocument (status : Nat) (document : Json) : HttpResponse :=
  ⟨status, document.rounded.compact⟩

/-- Whether the server reports a failure. -/
def isFailure (r : HttpResponse) : Bool :=
  400 ≤ r.status && r.status < 600

/-- The failure that a server reports. A body that is no report is the message of the failure. -/
def failure (r : HttpResponse) : ServerFailure :=
  match (Json.document? r.body).bind FailureReport.read? with
  | some report => report.toFailure
  | none => ⟨r.status, "Failed to parse error data", r.body⟩

/-- What a response says: the object in its body, or why there is none. -/
def content {α : Type} (read : Json → Option α) (r : HttpResponse) : Except TransportError α :=
  if r.isFailure then .error (.server r.failure)
  else
    match (Json.document? r.body).bind read with
    | some value => .ok value
    | none => .error .unreadableAnswer

end HttpResponse

/-! ### The dialogues of the operator's requests -/

namespace HttpDialogue

/-- Sends a request to the location of a text. -/
def send {α : Type} (method : Method) (text : String) (body : Option Json)
    (read : Json → Option α) : HttpDialogue (Except TransportError α) :=
  match Location.read? text with
  | none => .done (.error .noLocation)
  | some location =>
    .ask { location with method, body } fun response => .done (response.content read)

/-- Sends a request that concerns an object of a name, which must not be empty. -/
def named {α : Type} (name : String) (method : Method) (text : String) (body : Option Json)
    (read : Json → Option α) : HttpDialogue (Except TransportError α) :=
  if name.isEmpty then .done (.error .emptyName) else send method text body read

/-- The outcome of a look-up, in which an absent object is none. -/
def lookedUp {α : Type} : Except TransportError α → Except ClientError (Option α)
  | .ok value => .ok (some value)
  | .error (.server failure) =>
    if failure.reason = ServerFailure.notFound then .ok none
    else .error (.transport (.server failure))
  | .error error => .error (.transport error)

/-- Looks a workload up. -/
def get (kind : Kind) (inNamespace name : String) :
    HttpDialogue (Except ClientError (Option Workload)) :=
  (named name .get (ServerPath.workload kind inNamespace name) none (Workload.read? kind)).bind
    fun result => .done (lookedUp result)

/-- Creates a workload. -/
def create (inNamespace : String) (object : Workload) :
    HttpDialogue (Except ClientError Workload) :=
  let text := forWriting (ServerPath.workloads object.kind inNamespace) [writer]
  (send .post text (some object.write) (Workload.read? object.kind)).bind fun result =>
    .done (result.mapError .transport)

/-- Replaces a workload. -/
def replace (inNamespace : String) (object : Workload) :
    HttpDialogue (Except ClientError Workload) :=
  match object.name with
  | none => .done (.error .missingName)
  | some name =>
    let text := forWriting (ServerPath.workload object.kind inNamespace name) [writer]
    (named name .put text (some object.write) (Workload.read? object.kind)).bind fun result =>
      .done (result.mapError .transport)

/-- Writes a status: the resource is read and put back with nothing but its status replaced. -/
def setStatus (object : SelectiveDeployment) (status : Status) :
    HttpDialogue (Except StatusError Unit) :=
  match object.inNamespace, object.metadata.name with
  | none, _ => .done (.error .missingNamespace)
  | some _, none => .done (.error .missingName)
  | some inNamespace, some name =>
    let path := ServerPath.status inNamespace name
    (named name .get path none SelectiveDeployment.read?).bind fun
      | .error error => .done (.error (.transport error))
      | .ok current =>
        let body := { current with status := some status }.write
        (named name .put (forWriting path) (some body) SelectiveDeployment.read?).bind
          fun result => .done ((result.map fun _ => ()).mapError .transport)

/-- The dialogue by which a request is carried to a server. -/
def ofRequest : (r : Request) → HttpDialogue r.Reply
  | .get kind inNamespace name => get kind inNamespace name
  | .create inNamespace object => create inNamespace object
  | .replace inNamespace object => replace inNamespace object
  | .setStatus object status => setStatus object status

/-- A dialogue with a cluster, carried to a server. -/
def carry {α : Type} (d : ClusterDialogue α) : HttpDialogue α :=
  d.via ofRequest

/-- Plays a dialogue against a list of responses: its value, unless the responses run out, the
requests made and the responses left. -/
def play {α : Type} : HttpDialogue α → List HttpResponse →
    Option α × List HttpRequest × List HttpResponse
  | .done value, responses => (some value, [], responses)
  | .ask request _, [] => (none, [request], [])
  | .ask request next, response :: rest =>
    let (value, requests, left) := play (next response) rest
    (value, request :: requests, left)

end HttpDialogue

end GeoPlacement
