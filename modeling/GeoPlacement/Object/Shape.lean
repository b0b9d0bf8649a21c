import GeoPlacement.Collection.StringMap
import GeoPlacement.Json.Value
import GeoPlacement.Object.Timestamp

/-!
# Shapes of cluster objects

A **shape** says what a part of a cluster object may hold. `Shape.read?` checks a document
against a shape and brings it into normal form: members that the shape does not name are
dropped, the named ones are put into the order in which they are written, a required member that
is absent gets the default of its shape, and maps are sorted by key. Where a name stands twice the
last value counts, and the others have to be of the shape as well.

The operator only ever looks into a few members of an object. The others travel through it as
normalised documents, kept in a `Record`.
-/

namespace GeoPlacement

/-- What a part of a cluster object may hold. -/
inductive Shape
  | text
  | flag
  | int32
  | int64
  | time
  /-- A map from strings to strings. -/
  | textMap
  | list (item : Shape)
  /-- Named members in the order they are written, each required or not. -/
  | record (fields : List (String × Bool × Shape))
  /-- Any object, kept as it is. -/
  | object
  /-- Any value, kept as it is. -/
  | any

/-- The normalised members of an object that the operator does not look into. -/
abbrev Record := Members

namespace Shape

/-- A required member. -/
def needed (name : String) (shape : Shape) : String × Bool × Shape := (name, true, shape)

/-- A member that may be missing. -/
def maybe (name : String) (shape : Shape) : String × Bool × Shape := (name, false, shape)

/-- A map from strings to strings as a document. -/
def ofStringMap (m : StringMap) : Json :=
  .obj (m.entries.map fun entry => (entry.1, .str entry.2))

/-- Reads a map from strings to strings. -/
def stringMap? (value : Json) : Option StringMap := do
  let members ← value.members?
  let entries ← members.mapM fun (name, item) => (item.str?).map (name, ·)
  some (StringMap.ofList entries)

/-- Reads an integer of 32 bits as it is. -/
def int32? : Json → Option Json
  | .int value =>
    if Int32.minValue.toInt ≤ value ∧ value ≤ Int32.maxValue.toInt then some (.int value) else none
  | _ => none

mutual

/-- The value of a required member that is absent. -/
def default : Shape → Json
  | text => .str ""
  | flag => .bool false
  | int32 => .int 0
  | int64 => .int 0
  | time => .str "1970-01-01T00:00:00Z"
  | textMap => .obj []
  | list _ => .arr []
  | record fields => .obj (defaultFields fields)
  | object => .obj []
  | any => .null

/-- The required members at their defaults. -/
def defaultFields : List (String × Bool × Shape) → Members
  | [] => []
  | (name, true, shape) :: rest => (name, default shape) :: defaultFields rest
  | (_, false, _) :: rest => defaultFields rest

end

mutual

/-- The **normal form** of a document of the given shape. -/
def read? : Shape → Json → Option Json
  | text, value => value.str?.map .str
  | flag, value => value.bool?.map .bool
  | int32, value => int32? value
  | int64, value => value.int64?.map .ofInt64
  | time, value => (value.str?.bind Timestamp.canonical?).map .str
  | textMap, value => (stringMap? value).map ofStringMap
  | list item, value => value.items?.bind fun items => (items.mapM (read? item)).map .arr
  | record fields, value => value.members?.bind fun m => (readFields? fields m).map .obj
  | object, value => value.members?.bind fun _ => value.value?
  | any, value => value.value?

/-- The named members of an object in normal form. -/
def readFields? : List (String × Bool × Shape) → Members → Option Record
  | [], _ => some []
  | (name, isNeeded, shape) :: rest, members => do
    let tail ← readFields? rest members
    match ← members.optional name (read? shape) with
    | some value => some ((name, value) :: tail)
    | none => some (if isNeeded then (name, default shape) :: tail else tail)

end

end Shape

end GeoPlacement
