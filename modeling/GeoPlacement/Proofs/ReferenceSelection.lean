import GeoPlacement.Proofs.Admission

/-!
# The reference selection

A selector is resolved by two scans over the eligible nodes, one for the hostnames that are already
placed and one for all of them; both add to one list of hostnames and stop where it is full. What
that comes to is said here by one formula. It knows a criterion only by which values **describe** a
node, be it by a label or by a ring around the node's position, and takes the matching hostnames as
a list of which no more than the first occurrences and the length matter.

## Main results

* `map_hostname_matchingNodes`: the nodes that match are those that some value, or none, describes.
* `Selector.mem_scan_iff`: which hostnames a selector can resolve to.
* `shortfall_pickSticky`: when too few hostnames are picked.
* `resolve_eq_reference`: a selector resolves to its reference selection.
* `isPrefix_resolve`: a selection with a quantity is the front of the one without.
-/

namespace GeoPlacement

namespace Criterion

/-- Whether a value **describes** a node: it is the node's label, or a well-formed ring around the
node's position. -/
def describes (criterion : Criterion) (value : String) (node : EligibleNode) : Bool :=
  match criterion.labelKey with
  | some key => node.label? key == some value
  | none =>
    match Ring.read? value with
    | .ok area => node.position.any area.contains
    | .error _ => false

/-- Whether a node can be told to match no value: by a label always, by position only if it has
one. -/
def canTell (criterion : Criterion) (node : EligibleNode) : Bool :=
  criterion.labelKey.isSome || node.position.isSome

/-- Whether values can be compared with at all: labels always, rings only if one of them is
well-formed. -/
def isUsable (criterion : Criterion) (values : List String) : Bool :=
  criterion.labelKey.isSome || values.any Ring.isWellFormed

/-- Whether a node **matches** a selector: some value describes it, or it can be told that none
does. -/
def accepts (criterion : Criterion) (s : Selector) (node : EligibleNode) : Bool :=
  match s.operator with
  | .anyOf => s.value.any (criterion.describes · node)
  | .noneOf => criterion.isUsable s.value && criterion.canTell node &&
      !s.value.any (criterion.describes · node)

/-- Whether a hostname matches a selector: a node that matches has it. -/
def acceptsHostname (criterion : Criterion) (s : Selector) (nodes : List EligibleNode)
    (hostname : String) : Bool :=
  nodes.any fun node => criterion.accepts s node && node.hostname == hostname

/-- The hostnames that match a selector, as they are met: for each value those of the nodes that it
describes, or those of the nodes that no value describes. -/
def matchingHostnames (criterion : Criterion) (s : Selector) (nodes : List EligibleNode) :
    List String :=
  match s.operator with
  | .anyOf => (s.value.flatMap fun value => nodes.filter (criterion.describes value)).map
      EligibleNode.hostname
  | .noneOf =>
    if criterion.isUsable s.value then
      (nodes.filter fun node =>
        criterion.canTell node && !s.value.any (criterion.describes · node)).map
          EligibleNode.hostname
    else
      []

end Criterion

/-- The **reference** for resolving a selector whose criterion is known: the placed hostnames among
the matching ones and then all of them, each at its first occurrence, up to the quantity. -/
def Selection.reference (criterion : Criterion) (s : Selector) (nodes : List EligibleNode)
    (placed : List String) : Selection :=
  let matching := criterion.matchingHostnames s nodes
  let wanted := s.quantity.toNat
  let chosen := (matching.filter (· ∈ placed) ++ matching).eraseDups
  let hostnames := if 0 < wanted then chosen.take wanted else chosen
  { key := Label.hostname
    operator := s.operator
    hostnames
    diagnostics :=
      (if criterion = .polygon then
        (s.value.filter fun value => !Ring.isWellFormed value).map .malformedRing
      else []) ++
      (if 0 < wanted ∧ matching.eraseDups.length < wanted then
        [.fewerNodes hostnames.length wanted (", ".intercalate s.value)]
      else []) }

/-! ### Matching nodes -/

section Matching

variable {criterion : Criterion} {s : Selector} {nodes : List EligibleNode}

/-- By a label, a value describes the nodes that have it. -/
theorem describes_of_label {key : String} (hkey : criterion.labelKey = some key) (value : String) :
    criterion.describes value = fun node => node.label? key == some value := by
  funext node
  simp only [Criterion.describes, hkey]

/-- By position, a value describes the nodes inside its ring, if it is one. -/
theorem describes_of_ring (hkey : criterion.labelKey = none) (value : String) :
    criterion.describes value = fun node =>
      (Ring.read? value).toOption.any fun area => node.position.any area.contains := by
  funext node
  simp only [Criterion.describes, hkey]
  cases Ring.read? value <;> rfl

/-- There is an area iff some value is a well-formed ring. -/
theorem areas_eq_nil_iff : areas s = [] ↔ s.value.any Ring.isWellFormed = false := by
  rw [areas, List.filterMap_eq_nil_iff, List.any_eq_false]
  refine forall₂_congr fun value _ => ?_
  rw [Ring.isWellFormed]
  cases Ring.read? value <;> simp [Except.toOption, Except.isOk, Except.toBool]

/-- By a label, nodes match as values describe them. -/
theorem map_hostname_matchingByLabel {key : String} (hkey : criterion.labelKey = some key) :
    (matchingByLabel s key nodes).map EligibleNode.hostname =
      criterion.matchingHostnames s nodes := by
  rw [matchingByLabel, Criterion.matchingHostnames]
  cases s.operator with
  | anyOf => simp only [describes_of_label hkey]
  | noneOf =>
      have husable : criterion.isUsable s.value = true := by simp [Criterion.isUsable, hkey]
      dsimp only
      rw [if_pos husable]
      refine congrArg _ (List.filter_congr fun node _ => ?_)
      simp only [Criterion.canTell, describes_of_label hkey, hkey, Option.isSome_some, Bool.true_or,
        Bool.true_and]
      cases node.label? key with
      | none => simp
      | some label => simp [List.any_beq]

/-- By position, nodes match some areas as the values describe them. -/
theorem map_hostname_matchingByPosition (hkey : criterion.labelKey = none)
    (hareas : areas s ≠ []) :
    (matchingByPosition s.operator (areas s) nodes).map EligibleNode.hostname =
      criterion.matchingHostnames s nodes := by
  rw [Criterion.matchingHostnames]
  cases s.operator with
  | anyOf =>
      simp only [matchingByPosition, areas, List.filterMap_eq_flatMap_toList, List.flatMap_assoc,
        describes_of_ring hkey]
      refine congrArg (fun f => (s.value.flatMap f).map EligibleNode.hostname)
        (funext fun value => ?_)
      cases (Ring.read? value).toOption <;> simp
  | noneOf =>
      have husable : criterion.isUsable s.value = true := by
        rw [Criterion.isUsable, Bool.or_eq_true]
        exact .inr (Bool.of_not_eq_false fun hnone => hareas (areas_eq_nil_iff.mpr hnone))
      simp only [matchingByPosition, if_pos husable, areas, List.any_filterMap, Criterion.canTell,
        describes_of_ring hkey, hkey, Option.isSome_none, Bool.false_or]
      refine congrArg _ (List.filter_congr fun node _ => ?_)
      refine congrArg (fun f => node.position.isSome && !s.value.any f) (funext fun value => ?_)
      cases (Ring.read? value).toOption <;> rfl

/-- Without a single area nothing matches by position. -/
theorem matchingHostnames_of_no_area (hkey : criterion.labelKey = none) (hareas : areas s = []) :
    criterion.matchingHostnames s nodes = [] := by
  have hnone := areas_eq_nil_iff.mp hareas
  rw [Criterion.matchingHostnames]
  cases s.operator with
  | noneOf => simp [Criterion.isUsable, hkey, hnone]
  | anyOf =>
      refine List.map_eq_nil_iff.mpr (List.flatMap_eq_nil_iff.mpr fun value hvalue => ?_)
      have hring : (Ring.read? value).toOption = none :=
        List.filterMap_eq_nil_iff.mp hareas value hvalue
      simp [describes_of_ring hkey, hring]

/-- **The nodes that match** are met as the values describe them. -/
theorem map_hostname_matchingNodes : (matchingNodes criterion s nodes).map EligibleNode.hostname =
    criterion.matchingHostnames s nodes := by
  rw [matchingNodes]
  cases hkey : criterion.labelKey with
  | some key => exact map_hostname_matchingByLabel hkey
  | none =>
      cases hareas : areas s with
      | nil => exact (matchingHostnames_of_no_area hkey hareas).symm
      | cons area rest =>
          dsimp only
          rw [← hareas]
          exact map_hostname_matchingByPosition hkey (by simp [hareas])

/-- A hostname matches iff it is that of a node that does. -/
theorem acceptsHostname_iff {hostname : String} :
    criterion.acceptsHostname s nodes hostname = true ↔
      ∃ node ∈ nodes, criterion.accepts s node = true ∧ node.hostname = hostname := by
  simp only [Criterion.acceptsHostname, List.any_eq_true, Bool.and_eq_true, beq_iff_eq]

/-- The hostnames that are met are those of the nodes that match. -/
theorem mem_matchingHostnames_iff {hostname : String} :
    hostname ∈ criterion.matchingHostnames s nodes ↔
      criterion.acceptsHostname s nodes hostname = true := by
  rw [acceptsHostname_iff, Criterion.matchingHostnames]
  cases hoperator : s.operator with
  | anyOf =>
      simp only [Criterion.accepts, hoperator, List.mem_map, List.mem_flatMap, List.mem_filter,
        List.any_eq_true]
      constructor
      · rintro ⟨node, ⟨value, hvalue, hnode, hdescribes⟩, hhost⟩
        exact ⟨node, hnode, ⟨value, hvalue, hdescribes⟩, hhost⟩
      · rintro ⟨node, hnode, ⟨value, hvalue, hdescribes⟩, hhost⟩
        exact ⟨node, ⟨value, hvalue, hnode, hdescribes⟩, hhost⟩
  | noneOf =>
      dsimp only
      split
      · next husable =>
        simp only [Criterion.accepts, hoperator, husable, Bool.true_and, List.mem_map,
          List.mem_filter, and_assoc]
      · next husable =>
        simp [Criterion.accepts, hoperator, husable]

/-- **The scan of a selector** meets the hostnames that match it. -/
theorem Selector.mem_scan_iff (hcriterion : Criterion.ofName? s.name = some criterion)
    {hostname : String} :
    hostname ∈ s.scan nodes ↔ criterion.acceptsHostname s nodes hostname = true := by
  rw [scan, hcriterion, ← mem_matchingHostnames_iff, ← map_hostname_matchingNodes]

end Matching

/-! ### Resolving -/

section Resolve

variable {s : Selector}

/-- The problems with the values are the values that are no rings, if rings are asked for. -/
theorem valueDiagnostics_eq (criterion : Criterion) : valueDiagnostics criterion s =
    if criterion = .polygon then
      (s.value.filter fun value => !Ring.isWellFormed value).map .malformedRing
    else [] := by
  cases criterion <;> rfl

/-- **Too few hostnames are picked** iff too few match. -/
theorem shortfall_pickSticky (matching placed : List String) :
    shortfall s (pickSticky s.quantity.toNat matching placed) =
      if 0 < s.quantity.toNat ∧ matching.eraseDups.length < s.quantity.toNat then
        [.fewerNodes (pickSticky s.quantity.toNat matching placed).length s.quantity.toNat
          (", ".intercalate s.value)]
      else [] := by
  rw [shortfall]
  refine if_congr ?_ rfl rfl
  rw [Bool.and_eq_true, bne_iff_ne, decide_eq_true_iff, length_pickSticky]
  split <;> omega

/-- **A selector resolves to its reference selection**, whatever the nodes are and whatever was
placed before. -/
theorem resolve_eq_reference (criterion : Criterion) (s : Selector) (nodes : List EligibleNode)
    (placed : List String) (hcriterion : Criterion.ofName? s.name = some criterion) :
    Selection.resolve s nodes placed = Selection.reference criterion s nodes placed := by
  rw [Selection.resolve, hcriterion]
  dsimp only
  rw [map_hostname_matchingNodes, valueDiagnostics_eq, shortfall_pickSticky, pickSticky_eq, upTo_eq]
  rfl

/-- A selector of the nodes in some countries, in any number or so many. -/
def byCountries (countries : List String) (quantity : UInt32) : Selector where
  name := "COUNTRY"
  value := countries
  operator := .anyOf
  quantity

/-- A country that is named twice is counted once, and the placed node comes first; a quantity that
is not reached is reported, and so is a text that is no ring. -/
theorem resolve_eq_reference_countries :
    Selection.resolve (byCountries ["FR", "US", "FR"] 2)
        [nodeIn "fr-1" "FR", nodeIn "us-1" "US", nodeIn "fr-2" "FR"] ["us-1"] =
      ⟨Label.hostname, .anyOf, ["us-1", "fr-1"], []⟩ ∧
    Selection.resolve (byCountries ["FR", "US", "FR"] 4)
        [nodeIn "fr-1" "FR", nodeIn "us-1" "US", nodeIn "fr-2" "FR"] ["us-1"] =
      ⟨Label.hostname, .anyOf, ["us-1", "fr-1", "fr-2"], [.fewerNodes 3 4 "FR, US, FR"]⟩ ∧
    Selection.resolve { name := "Polygon", value := ["["], operator := .noneOf, quantity := 1 }
        [nodeIn "fr-1" "FR"] [] =
      ⟨Label.hostname, .noneOf, [], [.malformedRing "[", .fewerNodes 0 1 "["]⟩ := by
  refine ⟨(resolve_eq_reference .country _ _ _ (by decide +kernel)).trans ?_,
    (resolve_eq_reference .country _ _ _ (by decide +kernel)).trans ?_,
    (resolve_eq_reference .polygon _ _ _ (by decide +kernel)).trans ?_⟩ <;>
  decide +kernel

end Resolve

/-! ### Quantities -/

/-- The front up to a quantity is part of the front up to a larger one, or of the whole list. -/
theorem upTo_isPrefix {quantity larger : Nat} (hostnames : List String)
    (h : larger = 0 ∨ quantity ≠ 0 ∧ quantity ≤ larger) :
    upTo quantity hostnames <+: upTo larger hostnames := by
  rw [upTo, upTo]
  rcases h with rfl | ⟨hne, hle⟩
  · rw [if_pos rfl]
    split
    · exact List.prefix_refl _
    · exact List.take_prefix _ _
  · rw [if_neg hne, if_neg (by omega)]
    exact List.take_prefix_take_left hle

/-- **A selection with a quantity is a front** of the selections with larger quantities, and of the
selection with none. -/
theorem isPrefix_resolve (s : Selector) (nodes : List EligibleNode) (placed : List String)
    {larger : UInt32} (h : larger = 0 ∨ s.quantity ≠ 0 ∧ s.quantity ≤ larger) :
    (Selection.resolve s nodes placed).hostnames <+:
      (Selection.resolve { s with quantity := larger } nodes placed).hostnames := by
  have hscan : Selector.scan { s with quantity := larger } nodes = s.scan nodes := rfl
  rw [Selection.hostnames_resolve, Selection.hostnames_resolve, hscan, pickSticky_eq, pickSticky_eq]
  refine upTo_isPrefix _ ?_
  rcases h with rfl | ⟨hne, hle⟩
  · exact .inl rfl
  · exact .inr ⟨fun hzero => hne (UInt32.toNat_inj.mp hzero), UInt32.le_iff_toNat_le.mp hle⟩

end GeoPlacement
