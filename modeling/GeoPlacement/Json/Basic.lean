import GeoPlacement.Decimal.Literal

/-!
# JSON documents

`Json` is the tree of a document as it was written. Integers are kept apart from numbers written
with a point or an exponent, because the objects of a cluster accept only the former where they
expect an integer; the latter keep their written digits. The members of an object keep their
order, and a name that stands twice keeps both of its values.

A part may be well formed and still hold no value: a string with half a character, an object with
such a name, containers nested too deep. It is `Json.unreadable`. Who passes over a part never
notices; every reader refuses it.

The readers below are the steps from which the decoders of the domain types are built: each
takes a document to a value or refuses it. They differ in what they make of a name that stands
twice.

- `Members.optional` and `Members.orElse` read every value of the name and take the last one.
- `Members.required`, `Members.absentOr` and `Members.maybe` refuse the object.
-/

namespace GeoPlacement

/-- A JSON document. -/
inductive Json
  | null
  | bool (value : Bool)
  | int (value : Int)
  | decimal (literal : Decimal)
  | str (value : String)
  | arr (items : List Json)
  | obj (members : List (String × Json))
  /-- A well-formed part that holds no value. -/
  | unreadable
deriving Inhabited

/-- The named members of an object, in order. -/
abbrev Members := List (String × Json)

namespace Members

/-- Sets a member in place, or at the end if the name is new. -/
def set (name : String) (value : Json) : Members → Members
  | [] => [(name, value)]
  | (other, old) :: rest =>
    if other = name then (name, value) :: rest else (other, old) :: set name value rest

/-- The first value under a name. -/
def get? (name : String) : Members → Option Json
  | [] => none
  | (other, value) :: rest => if other = name then some value else get? name rest

/-- The values under a name, in order. -/
def all (name : String) (m : Members) : List Json :=
  m.filterMap fun (other, value) => if other = name then some value else none

/-- Reads a value of which `null` says that it is missing. -/
def nullable {α : Type} (read : Json → Option α) : Json → Option (Option α)
  | .null => some none
  | value => (read value).map some

/-- Reads a member that may be missing: an absent member and a `null` are the same. Of several
values the last one counts, and the others have to be readable too. -/
def optional {α : Type} (m : Members) (name : String) (read : Json → Option α) :
    Option (Option α) :=
  ((m.all name).mapM (nullable read)).map fun values => values.getLast?.join

/-- Reads a member that has a default where it is absent or `null`; of several values the last
one counts. -/
def orElse {α : Type} (m : Members) (name : String) (default : α) (read : Json → Option α) :
    Option α :=
  (m.optional name read).map (·.getD default)

/-- Reads a member that may be missing and must not stand twice: an absent member and a `null` are
the same. -/
def maybe {α : Type} (m : Members) (name : String) (read : Json → Option α) : Option (Option α) :=
  match m.all name with
  | [] => some none
  | [value] => nullable read value
  | _ :: _ :: _ => none

/-- Reads a member that has a default where it is absent and must not stand twice; a `null` is
read like any value. -/
def absentOr {α : Type} (m : Members) (name : String) (default : α) (read : Json → Option α) :
    Option α :=
  match m.all name with
  | [] => some default
  | [value] => read value
  | _ :: _ :: _ => none

/-- Reads a member that has to be there once. -/
def required {α : Type} (m : Members) (name : String) (read : Json → Option α) : Option α :=
  match m.all name with
  | [value] => read value
  | _ => none

end Members

namespace Json

/-- A member written only if it has a value. -/
def member? {α : Type} (name : String) (write : α → Json) : Option α → Members
  | none => []
  | some value => [(name, write value)]

/-- The members of an object. -/
def members? : Json → Option Members
  | .obj members => some members
  | _ => none

/-- The text of a string. -/
def str? : Json → Option String
  | .str value => some value
  | _ => none

/-- A truth value. -/
def bool? : Json → Option Bool
  | .bool value => some value
  | _ => none

/-- A written integer. -/
def int? : Json → Option Int
  | .int value => some value
  | _ => none

/-- An integer of 64 bits. -/
def int64? : Json → Option Int64
  | .int value =>
    if Int64.minValue.toInt ≤ value ∧ value ≤ Int64.maxValue.toInt then some (Int64.ofInt value)
    else none
  | _ => none

/-- A natural number of 32 bits. -/
def uint32? : Json → Option UInt32
  | .int value => if 0 ≤ value ∧ value < UInt32.size then some value.toNat.toUInt32 else none
  | _ => none

/-- A natural number of 64 bits. -/
def uint64? : Json → Option Nat
  | .int value => if 0 ≤ value ∧ value < UInt64.size then some value.toNat else none
  | _ => none

/-- The items of an array. -/
def items? : Json → Option (List Json)
  | .arr items => some items
  | _ => none

/-- An array whose items are all accepted by `read`. -/
def list? {α : Type} (read : Json → Option α) (value : Json) : Option (List α) :=
  value.items?.bind (·.mapM read)

/-- An array of strings. -/
def strings? : Json → Option (List String) :=
  list? str?

/-- Writes an array. -/
def ofList {α : Type} (write : α → Json) (values : List α) : Json :=
  .arr (values.map write)

/-- Writes an array of strings. -/
def ofStrings : List String → Json :=
  ofList .str

/-- Writes a value that may be missing, as `null` if it is. -/
def ofOption {α : Type} (write : α → Json) : Option α → Json
  | none => .null
  | some value => write value

/-- Writes an integer of 64 bits. -/
def ofInt64 (value : Int64) : Json :=
  .int value.toInt

end Json

end GeoPlacement
