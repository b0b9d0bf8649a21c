import GeoPlacement.Proofs.Complement
import GeoPlacement.Proofs.RingBounds

/-!
# Nodes without a usable position

A node has a position if both of its coordinates can be read from labels. A label with a hemisphere
is read as a finite number or not at all. A label without one is read as it stands, and that lets
the infinities and the undefined value through (`Coordinate.slipsThrough`). No ring contains such a
position, so no selector finds it inside of a ring, but any that looks outside of rings does.

## Main results

* `Coordinate.isSome_coordinate?`: the labels that are read.
* `EligibleNode.isSome_position?`: the nodes that have a position.
* `accepts_polygon_of_not_located`: how a node without a usable position matches a selector by
  rings.
* `EligibleNode.selected_without_position_iff`: when such a node is selected.
* `EligibleNode.not_hiddenUnlessLocated`: that it can be.
-/

namespace GeoPlacement

/-! ### The labels of a position -/

namespace Coordinate

/-- The letters that stand for a hemisphere. -/
def hemispheres : List Char := ['n', 's', 'e', 'w']

/-- Whether a label begins with its hemisphere, in either case. -/
def hasHemisphere (label : String) : Bool :=
  label.toList.head?.any fun first => hemispheres.contains first.toLower

/-- The label without its hemisphere. -/
def stripped (label : String) : String :=
  if hasHemisphere label then String.ofList label.toList.tail else label

/-- Whether a label denotes a finite number, apart from its hemisphere. -/
def denotesFinite (label : String) : Bool :=
  (parseDouble? (stripped label)).any Float.isFinite

/-- Whether a label **slips through**: it has no hemisphere and is a number that is not finite. -/
def slipsThrough (label : String) : Bool :=
  !hasHemisphere label && (parseDouble? label).any (!·.isFinite)

variable {label : String}

/-- A label without a hemisphere is read as it stands. -/
theorem coordinate?_of_bare (h : hasHemisphere label = false) :
    coordinate? label = parseDouble? label := by
  rw [coordinate?]
  rw [hasHemisphere] at h
  cases hlabel : label.toList with
  | nil =>
      rw [String.toList_eq_nil_iff.mp hlabel]
      decide
  | cons first rest =>
      rw [hlabel] at h
      have hnone : first.toLower ∉ ['n', 's', 'e', 'w'] := by
        simpa [hemispheres] using h
      dsimp only
      rw [if_neg hnone]

/-- A label with a hemisphere is read as a finite number, up to its sign. -/
theorem coordinate?_of_hemisphere (h : hasHemisphere label = true) :
    ∃ turned : Float → Float, (∀ value, (turned value).isFinite = value.isFinite) ∧
      coordinate? label = ((parseDouble? (stripped label)).map turned).filter Float.isFinite := by
  rw [stripped, if_pos h, coordinate?]
  rw [hasHemisphere] at h
  cases hlabel : label.toList with
  | nil =>
      rw [hlabel] at h
      cases h
  | cons first rest =>
      rw [hlabel] at h
      have hsome : first.toLower ∈ ['n', 's', 'e', 'w'] := by
        simpa [hemispheres] using h
      refine ⟨fun value => if first.toLower ∈ ['s', 'w'] && 0 < value then -value else value,
        fun value => ?_, ?_⟩
      · dsimp only
        split
        · exact isFinite_neg value
        · rfl
      · dsimp only
        rw [if_pos hsome, List.tail_cons]
        cases parseDouble? (String.ofList rest) <;> rfl

/-- **Which labels are read**: those that denote a finite number and those that slip through. -/
theorem isSome_coordinate? (label : String) :
    (coordinate? label).isSome = (denotesFinite label || slipsThrough label) := by
  rw [denotesFinite, slipsThrough]
  cases h : hasHemisphere label with
  | true =>
      obtain ⟨turned, hturned, hread⟩ := coordinate?_of_hemisphere h
      rw [hread]
      cases parseDouble? (stripped label) with
      | none => rfl
      | some value => cases hfinite : value.isFinite <;> simp [Option.filter, hturned, hfinite]
  | false =>
      rw [coordinate?_of_bare h, stripped, h, if_neg Bool.false_ne_true]
      cases parseDouble? label with
      | none => rfl
      | some value => cases hfinite : value.isFinite <;> simp [hfinite]

/-- The number that is read is finite iff the label denotes a finite number. -/
theorem isFinite_of_coordinate? {x : Float} (h : coordinate? label = some x) :
    x.isFinite = denotesFinite label := by
  rw [denotesFinite]
  cases hlabel : hasHemisphere label with
  | true =>
      obtain ⟨turned, hturned, hread⟩ := coordinate?_of_hemisphere hlabel
      rw [hread, Option.filter_eq_some_iff, Option.map_eq_some_iff] at h
      obtain ⟨⟨value, hvalue, rfl⟩, hfinite⟩ := h
      rw [hvalue, Option.any_some, hturned]
  | false =>
      rw [coordinate?_of_bare hlabel] at h
      rw [stripped, hlabel, if_neg Bool.false_ne_true, h, Option.any_some]

/-- Whether the labels of a node give a **usable** position: both denote a finite number. -/
def isLocated (labels : StringMap) : Bool :=
  (labels.get? Label.longitude).any denotesFinite && (labels.get? Label.latitude).any denotesFinite

/-- Whether the labels of a node give no usable position, but each of them is read. -/
def isMisplaced (labels : StringMap) : Bool :=
  !isLocated labels &&
    ((labels.get? Label.longitude).any fun label => denotesFinite label || slipsThrough label) &&
    ((labels.get? Label.latitude).any fun label => denotesFinite label || slipsThrough label)

end Coordinate

/-! ### The position of a node -/

namespace EligibleNode

open Coordinate

variable {labels : StringMap} {n : Node} {node : EligibleNode}

/-- **Labels give a position** iff both coordinates are there and can be read. -/
theorem position?_eq_some_iff {p : Point Float} : position? labels = some p ↔
    ∃ lon lat, labels.get? Label.longitude = some lon ∧ labels.get? Label.latitude = some lat ∧
      coordinate? lon = some p.lon ∧ coordinate? lat = some p.lat := by
  simp only [position?, Option.bind_eq_bind, Option.bind_eq_some_iff]
  constructor
  · rintro ⟨x, ⟨lon, hlon, hx⟩, y, ⟨lat, hlat, hy⟩, h⟩
    obtain rfl := Option.some.inj h
    exact ⟨lon, lat, hlon, hlat, hx, hy⟩
  · rintro ⟨lon, lat, hlon, hlat, hx, hy⟩
    exact ⟨p.lon, ⟨lon, hlon, hx⟩, p.lat, ⟨lat, hlat, hy⟩, rfl⟩

/-- **A node has a position** iff its labels give a usable one or misplace it. -/
theorem isSome_position? (labels : StringMap) :
    (position? labels).isSome = (isLocated labels || isMisplaced labels) := by
  cases hlon : labels.get? Label.longitude with
  | none => simp [position?, isLocated, isMisplaced, hlon]
  | some lon =>
      cases hlat : labels.get? Label.latitude with
      | none => simp [position?, isLocated, isMisplaced, hlon, hlat]
      | some lat =>
          have hboth : (position? labels).isSome =
              ((coordinate? lon).isSome && (coordinate? lat).isSome) := by
            rw [position?, hlon, hlat]
            cases hx : coordinate? lon <;> cases hy : coordinate? lat <;> simp [hx, hy]
          rw [hboth, isSome_coordinate?, isSome_coordinate?, isMisplaced, isLocated, hlon, hlat]
          simp only [Option.any_some]
          cases denotesFinite lon <;> cases denotesFinite lat <;> simp

/-- The position of a node is finite iff its labels give a usable one. -/
theorem isFinite_of_position? {p : Point Float} (h : position? labels = some p) :
    (p.lon.isFinite && p.lat.isFinite) = isLocated labels := by
  obtain ⟨lon, lat, hlon, hlat, hx, hy⟩ := position?_eq_some_iff.mp h
  rw [isLocated, hlon, hlat, Option.any_some, Option.any_some, isFinite_of_coordinate? hx,
    isFinite_of_coordinate? hy]

/-- Whether the position of a node is the one that its labels give. -/
def FollowsLabels (node : EligibleNode) : Prop :=
  node.position = position? node.labels

/-- The entry of a node has the position that its labels give. -/
theorem followsLabels_of_ofNode? (h : ofNode? n = some node) : node.FollowsLabels := by
  rw [ofNode?] at h
  split at h
  · obtain rfl := Option.some.inj h
    rfl
  · cases h

end EligibleNode

/-! ### Selecting by rings -/

section Rings

open Coordinate

variable {node : EligibleNode} {s : Selector}

/-- A ring describes nodes with a usable position only. -/
theorem isLocated_of_describes {ring : String} (hlabels : node.FollowsLabels)
    (h : Criterion.polygon.describes ring node = true) : isLocated node.labels = true := by
  rw [describes_of_ring rfl, Option.any_eq_true] at h
  obtain ⟨area, harea, hinside⟩ := h
  obtain ⟨p, hp, hcontains⟩ := (Option.any_eq_true _ _).mp hinside
  have hread : Ring.read? ring = .ok area := by
    cases hring : Ring.read? ring with
    | error error =>
        rw [hring] at harea
        cases harea
    | ok other =>
        rw [hring] at harea
        exact congrArg Except.ok (Option.some.inj harea)
  obtain ⟨hlon, hlat⟩ := Ring.isFinite_of_contains hread hcontains
  rw [← EligibleNode.isFinite_of_position? (hlabels.symm.trans hp), hlon, hlat, Bool.and_self]

/-- **A node without a usable position** matches a selector by rings iff the selector asks for the
nodes outside of some ring and the node is misplaced. -/
theorem accepts_polygon_of_not_located (hlabels : node.FollowsLabels)
    (h : isLocated node.labels = false) : Criterion.polygon.accepts s node = true ↔
      s.operator = .noneOf ∧ (∃ ring ∈ s.value, Ring.isWellFormed ring = true) ∧
        isMisplaced node.labels = true := by
  have hnone : s.value.any (Criterion.polygon.describes · node) = false :=
    List.any_eq_false.mpr fun ring _ hdescribes =>
      Bool.false_ne_true (h.symm.trans (isLocated_of_describes hlabels hdescribes))
  rw [Criterion.accepts]
  cases s.operator with
  | anyOf => simp [hnone]
  | noneOf =>
      have htell : Criterion.polygon.canTell node = isMisplaced node.labels := by
        rw [Criterion.canTell, hlabels, EligibleNode.isSome_position?, h]
        rfl
      have husable : Criterion.polygon.isUsable s.value = s.value.any Ring.isWellFormed := rfl
      dsimp only
      rw [hnone, htell, husable, Bool.not_false, Bool.and_true, Bool.and_eq_true, List.any_eq_true,
        and_iff_right rfl]

end Rings

/-! ### Nodes without a usable position -/

namespace EligibleNode

open Coordinate

variable {node : EligibleNode}

/-- A node is **hidden unless located** if without a usable position it has none at all and no
selector by rings selects it, and if any position that it has is finite. A selection knows a node by
its hostname, which no other node may have for this. -/
structure HiddenUnlessLocated (node : EligibleNode) : Prop where
  position : isLocated node.labels = false → node.position = none
  finite : ∀ p, node.position = some p → p.lon.isFinite = true ∧ p.lat.isFinite = true
  selected : isLocated node.labels = false → ∀ (s : Selector) (nodes : List EligibleNode) placed,
    Criterion.ofName? s.name = some .polygon → node ∈ nodes →
    (∀ other ∈ nodes, other.hostname = node.hostname → other = node) →
      node.hostname ∉ (Selection.resolve s nodes placed).hostnames

/-- A selector by rings with no bound on the quantity selects a node without a usable position iff
it asks for the nodes outside of some ring and the node is misplaced. -/
theorem hostname_mem_resolve_iff (hlabels : node.FollowsLabels)
    (h : isLocated node.labels = false) {s : Selector} {nodes : List EligibleNode}
    (hpolygon : Criterion.ofName? s.name = some .polygon) (hnode : node ∈ nodes)
    (hown : ∀ other ∈ nodes, other.hostname = node.hostname → other = node)
    (placed : List String) :
    node.hostname ∈ (Selection.resolve { s with quantity := 0 } nodes placed).hostnames ↔
      s.operator = .noneOf ∧ (∃ ring ∈ s.value, Ring.isWellFormed ring = true) ∧
        isMisplaced node.labels = true := by
  rw [← accepts_polygon_of_not_located hlabels h]
  refine (Selection.mem_resolve_ofAll_iff hpolygon placed).trans ⟨?_, ?_⟩
  · rintro ⟨other, hother, haccepts, hhost⟩
    obtain rfl := hown other hother hhost
    exact haccepts
  · intro haccepts
    exact ⟨node, hnode, haccepts, rfl⟩

/-- **A node is hidden unless located** iff it is not misplaced. -/
theorem hiddenUnlessLocated_iff (hlabels : node.FollowsLabels) :
    node.HiddenUnlessLocated ↔ isMisplaced node.labels = false := by
  have hsome := hlabels ▸ isSome_position? node.labels
  constructor
  · intro h
    by_contra hmisplaced
    rw [Bool.not_eq_false] at hmisplaced
    have hlocated : isLocated node.labels = false := by
      simp only [isMisplaced, Bool.and_eq_true, Bool.not_eq_true'] at hmisplaced
      exact hmisplaced.1.1
    rw [h.position hlocated, hmisplaced, Bool.or_true] at hsome
    cases hsome
  · intro hmisplaced
    rw [hmisplaced, Bool.or_false] at hsome
    refine ⟨?_, ?_, ?_⟩
    · intro hlocated
      rw [hlocated, Option.isSome_eq_false_iff, Option.isNone_iff_eq_none] at hsome
      exact hsome
    · intro p hp
      have hfinite := isFinite_of_position? (hlabels.symm.trans hp)
      rw [← hsome, hp, Option.isSome_some, Bool.and_eq_true] at hfinite
      exact hfinite
    · intro hlocated s nodes placed hpolygon hnode hown hselected
      have hall := (isPrefix_resolve s nodes placed (.inl rfl)).subset hselected
      have hcontra := ((hostname_mem_resolve_iff hlabels hlocated hpolygon hnode hown placed).mp
        hall).2.2
      exact Bool.false_ne_true (hmisplaced.symm.trans hcontra)

/-- **A node without a usable position** is hidden from selectors by rings iff its labels do not
misplace it. If they do, it is selected by those that ask for the nodes outside of some ring, and by
no others. -/
theorem selected_without_position_iff {n : Node} {node : EligibleNode}
    (hnode : ofNode? n = some node) :
    (node.HiddenUnlessLocated ↔ isMisplaced node.labels = false) ∧
    (isLocated node.labels = false → ∀ (s : Selector) (nodes : List EligibleNode) placed,
      Criterion.ofName? s.name = some .polygon → node ∈ nodes →
      (∀ other ∈ nodes, other.hostname = node.hostname → other = node) →
        (node.hostname ∈ (Selection.resolve { s with quantity := 0 } nodes placed).hostnames ↔
          s.operator = .noneOf ∧ (∃ ring ∈ s.value, Ring.isWellFormed ring = true) ∧
            isMisplaced node.labels = true)) := by
  have hlabels := followsLabels_of_ofNode? hnode
  refine ⟨hiddenUnlessLocated_iff hlabels, ?_⟩
  intro hlocated s nodes placed hpolygon hmem hown
  exact hostname_mem_resolve_iff hlabels hlocated hpolygon hmem hown placed

/-- The labels of a node that is infinitely far in the north. -/
def astrayLabels : StringMap :=
  ((StringMap.empty.insert Label.hostname "a").insert Label.latitude "inf").insert
    Label.longitude "e2.0"

/-- A ready node with these labels. -/
def astray : Node where
  metadata := { name := some "a", labels := some astrayLabels }
  status := some { conditions := some [{ status := "True", type := "Ready" }] }

/-- The nodes outside of a triangle. -/
def outsideTriangle : Selector :=
  .ofAll "Polygon" ["[[0, 0], [0, 1], [1, 0]]"] .noneOf

/-- These labels give no usable position, but each of them is read. -/
theorem isMisplaced_astrayLabels : isMisplaced astrayLabels = true := by
  decide +kernel

/-- The node has no usable position, and it is selected. -/
theorem selected_without_position_astray : ∃ node, ofNode? astray = some node ∧
    isLocated node.labels = false ∧
    node.hostname ∈ (Selection.resolve outsideTriangle [node] []).hostnames := by
  refine ⟨_, rfl, ?_, ?_⟩
  · decide +kernel
  · refine ((selected_without_position_iff (n := astray) rfl).2 (by decide +kernel)
      outsideTriangle _ [] (by decide +kernel) List.mem_cons_self ?_).mpr
        ⟨rfl, ?_, isMisplaced_astrayLabels⟩
    · intro other hother _
      exact List.mem_singleton.mp hother
    · exact ⟨_, List.mem_cons_self, by decide +kernel⟩

/-- Not every node is hidden unless located. -/
theorem not_hiddenUnlessLocated :
    ¬ ∀ (n : Node) (node : EligibleNode), ofNode? n = some node → node.HiddenUnlessLocated := by
  intro hclaim
  have hhidden := hclaim astray _ rfl
  rw [hiddenUnlessLocated_iff (followsLabels_of_ofNode? (n := astray) rfl)] at hhidden
  exact Bool.false_ne_true (hhidden.symm.trans isMisplaced_astrayLabels)

end EligibleNode

end GeoPlacement
