import GeoPlacement.Cluster.Count
import GeoPlacement.Collection.Table
import GeoPlacement.Simulation.Watched

/-!
# A simulated server

An API server that keeps the objects it is sent as they are, apart from the resource version,
which it counts up with every change of an object. Creations of what is there, replacements of
what is not, and replacements from a version that is no longer the stored one are refused.

**Rules** let a request fail or never be answered: the first rule that fits a request and is not
used up answers in place of the store.
-/

namespace GeoPlacement

/-- Where an object is kept. -/
structure ObjectKey where
  collection : Watched
  inNamespace : Option String
  name : String
deriving Repr, DecidableEq

/-- How a rule answers. -/
inductive RuleAnswer
  /-- Never. -/
  | hang
  | failure (status : Nat) (reason : String)
deriving Repr, DecidableEq

/-- A rule for the requests of a verb to the paths with a certain end. -/
structure Rule where
  verb : String
  pathEnd : String
  /-- How often the rule may still be used, without a bound if none. -/
  uses : Option Nat
  answer : RuleAnswer
deriving Repr, DecidableEq

namespace Rule

/-- Whether a rule answers a request. -/
def fits (r : Rule) (verb path : String) : Bool :=
  r.verb == verb && r.pathEnd.toList.isSuffixOf path.toList && r.uses != some 0

/-- A rule after one more use. -/
def spend (r : Rule) : Rule :=
  { r with uses := r.uses.map (· - 1) }

/-- The answer of the first rule that fits a request, and the rules after it. -/
def select (verb path : String) : List Rule → Option RuleAnswer × List Rule
  | [] => (none, [])
  | rule :: rest =>
    if rule.fits verb path then (some rule.answer, rule.spend :: rest)
    else
      let (answer, rest) := select verb path rest
      (answer, rule :: rest)

end Rule

/-- What became of an object. -/
structure Change where
  key : ObjectKey
  before : Option Json
  after : Option Json

/-- The object of a path below a namespace. -/
structure Target where
  collection : Watched
  inNamespace : String
  name : Option String
  isStatus : Bool
deriving Repr, DecidableEq

/-- The target of a path. -/
def Target.ofPath? (path : String) : Option Target :=
  match path.splitOn "/" with
  | "" :: "apis" :: _ :: _ :: "namespaces" :: inNamespace :: plural :: rest => do
    let collection ← Watched.ofPlural? plural
    match rest with
    | [] => some ⟨collection, inNamespace, none, false⟩
    | [name] => some ⟨collection, inNamespace, some name, false⟩
    | [name, "status"] => some ⟨collection, inNamespace, some name, true⟩
    | _ => none
  | _ => none

/-- A server. -/
structure Server where
  objects : Table ObjectKey Json := .empty
  rules : List Rule := []
  /-- How long a request below a namespace takes, in milliseconds. -/
  latency : Nat := 0
deriving Inhabited

/-! ### Documents of objects -/

namespace Server

/-- The metadata of an object. -/
def metadata (object : Json) : Members :=
  (((object.members?).bind (·.get? "metadata")).bind Json.members?).getD []

/-- A text in the metadata of an object. -/
def text? (object : Json) (name : String) : Option String :=
  ((metadata object).get? name).bind Json.str?

/-- The place of an object in a collection. -/
def keyOf (collection : Watched) (object : Json) : ObjectKey :=
  ⟨collection, text? object "namespace", (text? object "name").getD ""⟩

/-- The resource version of an object as a number. -/
def version (object : Json) : Nat :=
  ((text? object "resourceVersion").bind (readCount? UInt64.size)).getD 0

/-- Sets a member of an object. -/
def setMember (name : String) (value : Json) (object : Json) : Json :=
  .obj (((object.members?).getD []).set name value)

/-- An object under a resource version. -/
def stamp (version : Nat) (object : Json) : Json :=
  setMember "metadata"
    (.obj ((metadata object).set "resourceVersion" (.str (toString version)))) object

/-! ### Changes -/

/-- Stores an object under the version after the stored one's. -/
def store (s : Server) (key : ObjectKey) (object : Json) : Server × Change :=
  let before := s.objects.get? key
  let after := stamp ((before.map version).getD 0 + 1) object
  ({ s with objects := s.objects.insert key after }, ⟨key, before, some after⟩)

/-- Removes an object. -/
def remove (s : Server) (key : ObjectKey) : Server × Change :=
  ({ s with objects := s.objects.erase key }, ⟨key, s.objects.get? key, none⟩)

/-- The objects of a collection that its watches deliver. -/
def visible (s : Server) (collection : Watched) : List Json :=
  (s.objects.entries.filter fun entry =>
    entry.1.collection == collection && collection.shows entry.2).map Prod.snd

/-- Applies the rules to a request. -/
def applyRules (s : Server) (verb path : String) : Option RuleAnswer × Server :=
  let (answer, rules) := Rule.select verb path s.rules
  (answer, { s with rules })

/-! ### Requests -/

/-- The body of a failure. -/
def failureBody (status : Nat) (reason message : String) : Json :=
  .obj [("kind", .str "Status"), ("apiVersion", .str "v1"), ("metadata", .obj []),
    ("status", .str "Failure"), ("message", .str message), ("reason", .str reason),
    ("code", .int status)]

/-- A response that reports a failure. -/
def refuse (status : Nat) (reason : String) : HttpResponse :=
  .ofDocument status (failureBody status reason reason)

/-- The response to a request for what is not there. -/
def absent : HttpResponse := refuse 404 ServerFailure.notFound

/-- Whether an object may replace the stored one: it names no version or the stored one. -/
def mayReplace (stored body : Json) : Bool :=
  match text? body "resourceVersion" with
  | none => true
  | some version => text? stored "resourceVersion" == some version

/-- Looks an object up. -/
def get (s : Server) (key : ObjectKey) : HttpResponse :=
  match s.objects.get? key with
  | none => absent
  | some object => .ofDocument 200 object

/-- Creates an object. -/
def post (s : Server) (key : ObjectKey) (body : Json) : HttpResponse × Server × Option Change :=
  if s.objects.contains key then (refuse 409 "AlreadyExists", s, none)
  else
    let (s, change) := s.store key body
    (.ofDocument 201 (change.after.getD body), s, some change)

/-- Replaces an object, or nothing but its status. -/
def put (s : Server) (key : ObjectKey) (isStatus : Bool) (body : Json) :
    HttpResponse × Server × Option Change :=
  match s.objects.get? key with
  | none => (absent, s, none)
  | some stored =>
    if mayReplace stored body then
      let status := ((body.members?).bind (·.get? "status")).getD .null
      let object := if isStatus then setMember "status" status stored else body
      let (s, change) := s.store key object
      (.ofDocument 200 (change.after.getD object), s, some change)
    else (refuse 409 "Conflict", s, none)

/-- Answers a request by the store. -/
def respond (s : Server) (r : HttpRequest) : HttpResponse × Server × Option Change :=
  let body := r.body.getD .null
  match Target.ofPath? r.path with
  | none => (absent, s, none)
  | some target =>
    let named (name : String) : ObjectKey := ⟨target.collection, some target.inNamespace, name⟩
    match r.method, target.name with
    | .get, some name => (s.get (named name), s, none)
    | .put, some name => s.put (named name) target.isStatus body
    | .post, none => s.post (named ((text? body "name").getD "")) body
    | _, _ => (absent, s, none)

end Server

end GeoPlacement
