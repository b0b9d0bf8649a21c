import GeoPlacement.Json.Basic

/-!
# Schemas

What a server checks the objects of a resource against. A `Schema` says what a value may be; it
may carry a description, a default and the permission to be `null`. `Schema.write` gives the
document that a server is told, its members in ascending order.
-/

namespace GeoPlacement

/-- What a value of a resource may be. -/
inductive Schema
  | text
  | flag
  /-- One of some names. -/
  | choice (names : List String)
  /-- An integer of a format, with a lower bound if there is one. -/
  | integer (format : String) (minimum : Option Json)
  | list (item : Schema)
  /-- An object with some members, of which the required ones have to be there. -/
  | object (properties : List (String × Schema)) (required : List String)
  /-- An object of any kind, kept as it is. -/
  | embedded
  | titled (title : String) (schema : Schema)
  | described (description : String) (schema : Schema)
  | withDefault (value : Json) (schema : Schema)
  | nullable (schema : Schema)

namespace Schema

/-- Members in ascending order of their names. -/
def sorted (m : Members) : Members :=
  m.mergeSort fun a b => a.1 ≤ b.1

/-- The members of an object whose list of names is left out where it is empty. -/
def requirement (required : List String) : Members :=
  if required.isEmpty then [] else [("required", Json.ofStrings required)]

mutual

/-- The members of a schema, in no particular order. -/
def members : Schema → Members
  | text => [("type", .str "string")]
  | flag => [("type", .str "boolean")]
  | choice names => [("enum", Json.ofStrings names), ("type", .str "string")]
  | integer format minimum =>
    [("format", .str format), ("type", .str "integer")] ++ Json.member? "minimum" id minimum
  | list item => [("items", .obj (sorted (members item))), ("type", .str "array")]
  | object properties required =>
    [("properties", .obj (sorted (propertyMembers properties))), ("type", .str "object")] ++
      requirement required
  | embedded => [("type", .str "object"), ("x-kubernetes-preserve-unknown-fields", .bool true)]
  | titled title schema => ("title", .str title) :: members schema
  | described description schema => ("description", .str description) :: members schema
  | withDefault value schema => ("default", value) :: members schema
  | nullable schema => ("nullable", .bool true) :: members schema

/-- The schemas of the members of an object. -/
def propertyMembers : List (String × Schema) → Members
  | [] => []
  | (name, schema) :: rest => (name, .obj (sorted (members schema))) :: propertyMembers rest

end

/-- The document of a schema. -/
def write (s : Schema) : Json :=
  .obj (sorted s.members)

end Schema

end GeoPlacement
