import GeoPlacement.Proofs.ReferenceSelection

/-!
# Complementary selectors

Over the same values, one operator asks for the nodes that some value describes and the other for
those that none does. The two are scanned apart: value by value, with repetitions, and in one pass.
This module shows that they split the nodes between them. Nodes that lack the label are on the side
of the second operator. Nodes without a position are on neither side if rings are asked for, and a
text that is no ring counts on neither.

## Main results

* `Criterion.accepts_or_accepts`: the two operators share the nodes that can be compared.
* `Selection.resolve_complement`: so do the selections, by hostnames.
-/

namespace GeoPlacement

/-- The selector of all nodes that compare with some values by an operator. -/
def Selector.ofAll (name : String) (value : List String) (operator : Operator) : Selector where
  name
  value
  operator
  quantity := 0

namespace Criterion

variable {criterion : Criterion} {name : String} {value : List String} {node : EligibleNode}
  {nodes : List EligibleNode}

/-- The nodes that can be **compared** with values: by a label all of them, by rings those that have
a position. -/
def comparable (criterion : Criterion) (nodes : List EligibleNode) : List EligibleNode :=
  if criterion = .polygon then nodes.filter (·.position.isSome) else nodes

/-- The position is the only thing compared that is no label. -/
theorem labelKey_isSome : criterion.labelKey.isSome = decide (criterion ≠ .polygon) := by
  cases criterion <;> rfl

/-- The nodes that can be compared are those that can be told to match no value. -/
theorem mem_comparable_iff :
    node ∈ criterion.comparable nodes ↔ node ∈ nodes ∧ criterion.canTell node = true := by
  rw [comparable, canTell, labelKey_isSome]
  split
  · next hpolygon => simp [hpolygon]
  · next hlabel => simp [hlabel]

/-- A node that some value describes can be compared. -/
theorem canTell_of_describes {ring : String} (h : criterion.describes ring node = true) :
    criterion.canTell node = true := by
  rw [canTell, Bool.or_eq_true]
  cases hkey : criterion.labelKey with
  | some key => exact .inl rfl
  | none =>
      rw [describes_of_ring hkey, Option.any_eq_true] at h
      obtain ⟨area, -, hinside⟩ := h
      obtain ⟨point, hposition, -⟩ := (Option.any_eq_true _ _).mp hinside
      exact .inr (Option.isSome_of_mem hposition)

/-- **The two operators** share the nodes that can be compared. -/
theorem accepts_or_accepts (husable : criterion.isUsable value = true) (name : String)
    (node : EligibleNode) :
    criterion.accepts (.ofAll name value .anyOf) node = true ∨
        criterion.accepts (.ofAll name value .noneOf) node = true ↔
      criterion.canTell node = true := by
  have hin : criterion.accepts (.ofAll name value .anyOf) node =
      value.any (criterion.describes · node) := rfl
  have hnotIn : criterion.accepts (.ofAll name value .noneOf) node =
      (criterion.canTell node && !value.any (criterion.describes · node)) := by
    rw [accepts, Selector.ofAll, husable, Bool.true_and]
  rw [hin, hnotIn]
  cases hdescribed : value.any (criterion.describes · node) with
  | false => simp
  | true =>
      obtain ⟨ring, -, hdescribes⟩ := List.any_eq_true.mp hdescribed
      simp [canTell_of_describes hdescribes]

/-- No node is on both sides. -/
theorem not_accepts_both (hin : criterion.accepts (.ofAll name value .anyOf) node = true) :
    criterion.accepts (.ofAll name value .noneOf) node = false := by
  have hdescribed : value.any (criterion.describes · node) = true := hin
  rw [accepts, Selector.ofAll, hdescribed, Bool.not_true, Bool.and_false]

end Criterion

namespace Selection

variable {criterion : Criterion} {name : String} {value : List String} {operator : Operator}
  {nodes : List EligibleNode} {hostname : String}

/-- Without a bound on the quantity, the hostnames of a selection are those of the nodes that
match. -/
theorem mem_resolve_ofAll_iff (hcriterion : Criterion.ofName? name = some criterion)
    (placed : List String) :
    hostname ∈ (resolve (.ofAll name value operator) nodes placed).hostnames ↔
      ∃ node ∈ nodes, criterion.accepts (.ofAll name value operator) node = true ∧
        node.hostname = hostname := by
  have hall : (Selector.ofAll name value operator).quantity.toNat = 0 := rfl
  rw [hostnames_resolve, hall, mem_pickSticky_zero, Selector.mem_scan_iff hcriterion,
    acceptsHostname_iff]

/-- **Selections by the two operators are complements.** Some values are compared by a label, or as
rings at least one of which is well-formed. The selection of the nodes that some value describes and
that of the nodes that none does, each with any hostnames placed before, have the hostnames of all
nodes that can be compared. If these tell the nodes apart, then none of them is in both. -/
theorem resolve_complement (criterion : Criterion) (name : String) (value : List String)
    (nodes : List EligibleNode) (placed placed' : List String)
    (hcriterion : Criterion.ofName? name = some criterion)
    (hring : criterion = .polygon → ∃ ring ∈ value, Ring.isWellFormed ring = true) :
    (∀ hostname, hostname ∈ (resolve (.ofAll name value .anyOf) nodes placed).hostnames ∨
        hostname ∈ (resolve (.ofAll name value .noneOf) nodes placed').hostnames ↔
      hostname ∈ (criterion.comparable nodes).map EligibleNode.hostname) ∧
    (((criterion.comparable nodes).map EligibleNode.hostname).Nodup →
      (resolve (.ofAll name value .anyOf) nodes placed).hostnames.Disjoint
        (resolve (.ofAll name value .noneOf) nodes placed').hostnames) := by
  have husable : criterion.isUsable value = true := by
    rw [Criterion.isUsable, Criterion.labelKey_isSome, Bool.or_eq_true, decide_eq_true_iff,
      List.any_eq_true]
    exact or_iff_not_imp_left.mpr fun hpolygon => hring (not_not.mp hpolygon)
  have hshare := Criterion.accepts_or_accepts husable name
  refine ⟨fun hostname => ?_, fun hdistinct hostname hin hnotIn => ?_⟩
  · rw [mem_resolve_ofAll_iff hcriterion, mem_resolve_ofAll_iff hcriterion, List.mem_map]
    constructor
    · rintro (⟨node, hnode, haccepts, hhost⟩ | ⟨node, hnode, haccepts, hhost⟩)
      · have htell := (hshare node).mp (.inl haccepts)
        exact ⟨node, Criterion.mem_comparable_iff.mpr ⟨hnode, htell⟩, hhost⟩
      · have htell := (hshare node).mp (.inr haccepts)
        exact ⟨node, Criterion.mem_comparable_iff.mpr ⟨hnode, htell⟩, hhost⟩
    · rintro ⟨node, hcomparable, hhost⟩
      obtain ⟨hnode, htell⟩ := Criterion.mem_comparable_iff.mp hcomparable
      exact ((hshare node).mpr htell).imp (fun haccepts => ⟨node, hnode, haccepts, hhost⟩)
        fun haccepts => ⟨node, hnode, haccepts, hhost⟩
  · obtain ⟨node, hnode, haccepts, hhost⟩ := (mem_resolve_ofAll_iff hcriterion placed).mp hin
    obtain ⟨other, hother, hrejects, hsame⟩ :=
      (mem_resolve_ofAll_iff hcriterion placed').mp hnotIn
    have htell := (hshare node).mp (.inl haccepts)
    have htell' := (hshare other).mp (.inr hrejects)
    obtain rfl : node = other := List.inj_on_of_nodup_map hdistinct
      (Criterion.mem_comparable_iff.mpr ⟨hnode, htell⟩)
      (Criterion.mem_comparable_iff.mpr ⟨hother, htell'⟩) (hhost.trans hsame.symm)
    rw [Criterion.not_accepts_both haccepts] at hrejects
    cases hrejects

/-- A node at a place. -/
def nodeAt (hostname : String) (lon lat : Float) : EligibleNode where
  hostname
  labels := .empty
  position := some ⟨lon, lat⟩

/-- Two nodes at places and between them one without a position. -/
def scattered : List EligibleNode :=
  [nodeAt "fr-1" 5 45, nodeIn "fr-2" "FR", nodeAt "us-1" (-75) 40]

/-- A text that is no ring, and a ring. -/
def ringAndOther : List String :=
  ["[", "[[0, 40], [10, 40], [5, 50]]"]

/-- The nodes at places are divided by the ring, whatever was placed before. -/
theorem resolve_complement_scattered :
    (∀ hostname,
      hostname ∈ (resolve (.ofAll "Polygon" ringAndOther .anyOf) scattered ["fr-2"]).hostnames ∨
        hostname ∈ (resolve (.ofAll "Polygon" ringAndOther .noneOf) scattered []).hostnames ↔
      hostname ∈ ["fr-1", "us-1"]) ∧
    (resolve (.ofAll "Polygon" ringAndOther .anyOf) scattered ["fr-2"]).hostnames.Disjoint
      (resolve (.ofAll "Polygon" ringAndOther .noneOf) scattered []).hostnames := by
  have hcomplement := resolve_complement .polygon "Polygon" ringAndOther scattered ["fr-2"] []
    (by decide +kernel)
    (fun _ => ⟨"[[0, 40], [10, 40], [5, 50]]", by simp [ringAndOther], by decide +kernel⟩)
  exact ⟨hcomplement.1, hcomplement.2 (by decide)⟩

end Selection

end GeoPlacement
