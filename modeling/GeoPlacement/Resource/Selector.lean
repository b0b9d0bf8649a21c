import GeoPlacement.Json.Structure

/-!
# Selectors

One criterion by which a tenant chooses nodes: its name, the values it compares with, whether
nodes have to match or must not, and how many of them are wanted.
-/

namespace GeoPlacement

/-- How the values of a selector are compared. -/
inductive Operator
  /-- A node matches if it has one of the values. -/
  | anyOf
  /-- A node matches if it has none of the values. -/
  | noneOf
deriving Repr, DecidableEq, Inhabited

namespace Operator

/-- The operator's name, shared with the requirements of a node selector. -/
def name : Operator → String
  | anyOf => "In"
  | noneOf => "NotIn"

/-- The operator of a name. -/
def ofName? (name : String) : Option Operator :=
  if name = "In" then some anyOf else if name = "NotIn" then some noneOf else none

/-- Reads an operator. -/
def read? (value : Json) : Option Operator :=
  value.constant?.bind ofName?

/-- Writes an operator. -/
def write (o : Operator) : Json :=
  .str o.name

end Operator

/-- A criterion by which nodes are chosen. A quantity of zero asks for every match. -/
structure Selector where
  name : String
  value : List String := []
  operator : Operator
  quantity : UInt32 := 0
deriving Repr, DecidableEq, Inhabited

namespace Selector

/-- The members of a selector in the order of declaration. -/
def names : List String := ["name", "value", "operator", "quantity"]

/-- Reads a selector. -/
def read? (value : Json) : Option Selector := do
  let m ← value.structure? names
  some {
    name := ← m.required "name" Json.str?
    value := ← m.absentOr "value" [] Json.strings?
    operator := ← m.required "operator" Operator.read?
    quantity := ← m.absentOr "quantity" 0 Json.uint32? }

/-- Writes a selector, every member of it. -/
def write (s : Selector) : Json :=
  .obj [("name", .str s.name), ("value", Json.ofStrings s.value),
    ("operator", s.operator.write), ("quantity", .int s.quantity.toNat)]

end Selector

end GeoPlacement
