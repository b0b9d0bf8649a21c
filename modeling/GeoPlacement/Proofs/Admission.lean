import GeoPlacement.Placement.Scheduling
import GeoPlacement.Proofs.Resolution

/-!
# Which nodes a compiled affinity admits

A tenant's selector is interpreted twice. Resolving it picks the hostnames of the nodes that it
asks for, its operator included; the scheduler then reads the same operator off the compiled term
and applies it to these hostnames. This module states both meanings by one predicate on values,
`Operator.Holds`, and follows a selector from its text to the nodes that are admitted.

For `In` the two readings agree. For `NotIn` the second one inverts the first: the term excludes
the very nodes that the selector asks for.

## Main results

* `Selection.admits_term_iff`: the scheduler's reading of the term of a selection.
* `Selector.hostname_mem_scan_iff`: the nodes picked for a selector are those that it asks for.
* `admitsNode_compile_resolveAll_iff`: which nodes the compiled affinity admits, and for which of
  them that is what the selectors ask for.
-/

namespace GeoPlacement

/-! ### The meaning of a selector -/

/-- Whether an operator with its list of values holds of a value that may be absent. -/
def Operator.Holds (values : List String) (value : Option String) : Operator → Prop
  | anyOf => ∃ listed ∈ values, value = some listed
  | noneOf => ∀ listed ∈ values, value ≠ some listed

/-- The node label that a selector compares, if it compares one. -/
def Selector.labelKey? (s : Selector) : Option String :=
  (Criterion.ofName? s.name).bind Criterion.labelKey

/-- Whether a selector by a label **asks for** a node. -/
def Selector.AsksFor (s : Selector) (n : EligibleNode) : Prop :=
  ∃ key, s.labelKey? = some key ∧ s.operator.Holds s.value (n.label? key)

/-- The names of the criteria that compare a label. -/
def Criterion.labelNames : List String := ["city", "state", "country", "continent"]

/-- A selector with one of these names, in any case, compares a label. -/
theorem Selector.exists_labelKey {s : Selector}
    (h : s.name.map Char.toLower ∈ Criterion.labelNames) : ∃ key, s.labelKey? = some key := by
  obtain h | h | h | h : s.name.map Char.toLower = "city" ∨ s.name.map Char.toLower = "state" ∨
      s.name.map Char.toLower = "country" ∨ s.name.map Char.toLower = "continent" := by
    simpa [Criterion.labelNames] using h
  all_goals
    rw [labelKey?, Criterion.ofName?, h]
    exact ⟨_, rfl⟩

/-! ### Picking the nodes -/

/-- The nodes that match by a label are those for whose label the operator holds. -/
theorem mem_matchingByLabel {s : Selector} {key : String} {nodes : List EligibleNode}
    {n : EligibleNode} :
    n ∈ matchingByLabel s key nodes ↔ n ∈ nodes ∧ s.operator.Holds s.value (n.label? key) := by
  rw [matchingByLabel]
  cases s.operator with
  | anyOf =>
      simp only [List.mem_flatMap, List.mem_filter, beq_iff_eq, Operator.Holds]
      constructor
      · rintro ⟨value, hvalue, hn, hlabel⟩
        exact ⟨hn, value, hvalue, hlabel⟩
      · rintro ⟨hn, value, hvalue, hlabel⟩
        exact ⟨value, hvalue, hn, hlabel⟩
  | noneOf =>
      rw [List.mem_filter, Operator.Holds]
      refine and_congr_right fun _ => ?_
      cases n.label? key with
      | none => simp
      | some label =>
          simp only [Bool.not_eq_true', List.contains_eq_mem, decide_eq_false_iff_not, ne_eq,
            Option.some.injEq]
          exact List.forall_mem_ne.symm

/-- **What is picked is what is asked for**, where hostnames tell the nodes apart. -/
theorem Selector.hostname_mem_scan_iff {s : Selector} {key : String} {nodes : List EligibleNode}
    {n : EligibleNode} (hkey : s.labelKey? = some key)
    (hdistinct : (nodes.map EligibleNode.hostname).Nodup) (hn : n ∈ nodes) :
    n.hostname ∈ s.scan nodes ↔ s.AsksFor n := by
  obtain ⟨criterion, hcriterion, hlabel⟩ := Option.bind_eq_some_iff.mp hkey
  have hscan : s.scan nodes = (matchingByLabel s key nodes).map EligibleNode.hostname := by
    rw [scan, hcriterion]
    simp only [matchingNodes, hlabel]
  rw [hscan, List.mem_map]
  constructor
  · rintro ⟨m, hm, hsame⟩
    obtain ⟨hmem, hholds⟩ := mem_matchingByLabel.mp hm
    obtain rfl : m = n := List.inj_on_of_nodup_map hdistinct hmem hn hsame
    exact ⟨key, hkey, hholds⟩
  · rintro ⟨key', hkey', hholds⟩
    obtain rfl : key = key' := Option.some.inj (hkey.symm.trans hkey')
    exact ⟨n, mem_matchingByLabel.mpr ⟨hn, hholds⟩, rfl⟩

/-! ### Reading the compiled terms -/

namespace Selection

/-- A requirement is met where its operator holds of the value. -/
theorem isMetBy_requirement (s : Selection) (value : Option String) :
    s.requirement.isMetBy value = true ↔ s.operator.Holds s.hostnames value := by
  cases h : s.operator with
  | anyOf =>
      simp only [requirement, NodeRequirement.isMetBy, h, Operator.name, Operator.Holds]
      cases value <;> simp
  | noneOf =>
      simp only [requirement, NodeRequirement.isMetBy, h, Operator.name, Operator.Holds]
      cases value with
      | none => simp
      | some value =>
          simp only [Option.getD_some, Option.any_some, Bool.not_eq_true', List.contains_eq_mem,
            decide_eq_false_iff_not, ne_eq, Option.some.injEq]
          exact List.forall_mem_ne.symm

/-- **The scheduler's reading** of a selection: its operator, applied to its hostnames. -/
theorem admits_term_iff (s : Selection) (labels fields : String → Option String) :
    s.term.admits labels fields = true ↔ s.operator.Holds s.hostnames (labels s.key) := by
  rw [← isMetBy_requirement]
  simp [NodeSelectorTerm.admits, NodeSelectorTerm.isEmpty, term, requirement]

/-- A compiled affinity admits what one of its selections admits. -/
theorem admitsNode_compile {selections : List Selection} (hne : selections ≠ []) :
    ∃ a, compile selections = some a ∧ ∀ n : EligibleNode, a.admitsNode n = true ↔
      ∃ s ∈ selections, s.operator.Holds s.hostnames (n.label? s.key) := by
  obtain ⟨head, rest, rfl⟩ := List.exists_cons_of_ne_nil hne
  refine ⟨_, rfl, fun n => ?_⟩
  simp only [NodeAffinity.admitsNode, NodeAffinity.admits, List.any_map, List.any_eq_true,
    Function.comp_apply, admits_term_iff]

/-- A selection that is written for the scheduler names hostnames. -/
theorem key_resolve {s : Selector} {key : String} (hkey : s.labelKey? = some key)
    (nodes : List EligibleNode) (placed : List String) :
    (resolve s nodes placed).key = Label.hostname := by
  obtain ⟨criterion, hcriterion, -⟩ := Option.bind_eq_some_iff.mp hkey
  rw [resolve, hcriterion]

/-- The term of one selector admits the nodes that it asks for under `In` and the other nodes
under `NotIn`. -/
theorem holds_resolve_iff {s : Selector} {nodes : List EligibleNode} {n : EligibleNode}
    (hname : s.name.map Char.toLower ∈ Criterion.labelNames) (hall : s.quantity = 0)
    (hdistinct : (nodes.map EligibleNode.hostname).Nodup) (hn : n ∈ nodes)
    (hlabel : n.label? Label.hostname = some n.hostname) (placed : List String) :
    (resolve s nodes placed).operator.Holds (resolve s nodes placed).hostnames
        (n.label? (resolve s nodes placed).key) ↔
      s.operator = .anyOf ∧ s.AsksFor n ∨ s.operator = .noneOf ∧ ¬ s.AsksFor n := by
  obtain ⟨key, hkey⟩ := Selector.exists_labelKey hname
  have hpicked : n.hostname ∈ (resolve s nodes placed).hostnames ↔ s.AsksFor n := by
    rw [hostnames_resolve, hall]
    exact mem_pickSticky_zero.trans (Selector.hostname_mem_scan_iff hkey hdistinct hn)
  rw [key_resolve hkey, hlabel, operator_resolve]
  cases s.operator with
  | anyOf => simp [Operator.Holds, hpicked]
  | noneOf =>
      simp only [Operator.Holds, ← hpicked, reduceCtorEq, false_and, false_or, true_and, ne_eq,
        Option.some.injEq]
      exact List.forall_mem_ne

end Selection

/-! ### The whole way -/

/-- **What a compiled affinity admits.** The selectors are by labels, with no bound on the
quantity, and each eligible node carries its own hostname as a label. A node is then admitted iff
it is asked for by some selector with `In` or is *not* asked for by some selector with `NotIn`.
This is what the selectors ask for iff the node is asked for by one with `In`, or those with
`NotIn` ask for it and do not ask for it alike. -/
theorem admitsNode_compile_resolveAll_iff (selectors : List Selector) (nodes : List EligibleNode)
    (placed : List (List String)) (hne : selectors ≠ [])
    (hnames : ∀ s ∈ selectors, s.name.map Char.toLower ∈ Criterion.labelNames)
    (hall : ∀ s ∈ selectors, s.quantity = 0)
    (hlabels : ∀ n ∈ nodes, n.label? Label.hostname = some n.hostname)
    (hdistinct : (nodes.map EligibleNode.hostname).Nodup) :
    ∃ a, compile (Plan.resolveAll nodes selectors placed) = some a ∧ ∀ n ∈ nodes,
      (a.admitsNode n = true ↔
        (∃ s ∈ selectors, s.operator = .anyOf ∧ s.AsksFor n) ∨
          ∃ s ∈ selectors, s.operator = .noneOf ∧ ¬ s.AsksFor n) ∧
      ((a.admitsNode n = true ↔ ∃ s ∈ selectors, s.AsksFor n) ↔
        (∃ s ∈ selectors, s.operator = .anyOf ∧ s.AsksFor n) ∨
          ((∃ s ∈ selectors, s.operator = .noneOf ∧ s.AsksFor n) ↔
            ∃ s ∈ selectors, s.operator = .noneOf ∧ ¬ s.AsksFor n)) := by
  have hsome : Plan.resolveAll nodes selectors placed ≠ [] :=
    fun h => hne (Plan.resolveAll_eq_nil_iff.mp h)
  obtain ⟨a, hcompile, hadmits⟩ := Selection.admitsNode_compile hsome
  refine ⟨a, hcompile, fun n hn => ?_⟩
  have hone : a.admitsNode n = true ↔ ∃ s ∈ selectors,
      s.operator = .anyOf ∧ s.AsksFor n ∨ s.operator = .noneOf ∧ ¬ s.AsksFor n := by
    rw [hadmits n]
    exact Plan.exists_mem_resolveAll_iff fun s hs placed =>
      Selection.holds_resolve_iff (hnames s hs) (hall s hs) hdistinct hn (hlabels n hn) placed
  have hboth : a.admitsNode n = true ↔
      (∃ s ∈ selectors, s.operator = .anyOf ∧ s.AsksFor n) ∨
        ∃ s ∈ selectors, s.operator = .noneOf ∧ ¬ s.AsksFor n := by
    rw [hone, ← exists_or]
    exact exists_congr fun s => and_or_left
  have hasked : (∃ s ∈ selectors, s.AsksFor n) ↔
      (∃ s ∈ selectors, s.operator = .anyOf ∧ s.AsksFor n) ∨
        ∃ s ∈ selectors, s.operator = .noneOf ∧ s.AsksFor n := by
    rw [← exists_or]
    refine exists_congr fun s => ?_
    cases s.operator <;> simp
  refine ⟨hboth, ?_⟩
  rw [hboth, hasked]
  by_cases hin : ∃ s ∈ selectors, s.operator = .anyOf ∧ s.AsksFor n
  · simp only [hin, true_or]
  · simp only [hin, false_or]
    exact Iff.comm

/-- A node that carries its own hostname and a country as labels. -/
def nodeIn (hostname country : String) : EligibleNode where
  hostname
  labels := .ofList [(Label.hostname, hostname), (Label.country, country)]
  position := none

/-- The selector of every node whose country compares with a value by an operator. -/
def byCountry (operator : Operator) (country : String) : Selector where
  name := "Country"
  value := [country]
  operator

/-- Two selectors over two nodes for which the theorem holds. -/
theorem admitsNode_compile_resolveAll_iff_two_countries :
    ∃ a, compile (Plan.resolveAll [nodeIn "fr-1" "FR", nodeIn "us-1" "US"]
        [byCountry .anyOf "FR", byCountry .noneOf "FR"] [["us-1"]]) = some a ∧
      ∀ n ∈ [nodeIn "fr-1" "FR", nodeIn "us-1" "US"],
        (a.admitsNode n = true ↔
          (∃ s ∈ [byCountry .anyOf "FR", byCountry .noneOf "FR"],
            s.operator = .anyOf ∧ s.AsksFor n) ∨
          ∃ s ∈ [byCountry .anyOf "FR", byCountry .noneOf "FR"],
            s.operator = .noneOf ∧ ¬ s.AsksFor n) ∧
        ((a.admitsNode n = true ↔
            ∃ s ∈ [byCountry .anyOf "FR", byCountry .noneOf "FR"], s.AsksFor n) ↔
          (∃ s ∈ [byCountry .anyOf "FR", byCountry .noneOf "FR"],
            s.operator = .anyOf ∧ s.AsksFor n) ∨
          ((∃ s ∈ [byCountry .anyOf "FR", byCountry .noneOf "FR"],
              s.operator = .noneOf ∧ s.AsksFor n) ↔
            ∃ s ∈ [byCountry .anyOf "FR", byCountry .noneOf "FR"],
              s.operator = .noneOf ∧ ¬ s.AsksFor n)) :=
  admitsNode_compile_resolveAll_iff _ _ _ (by decide) (by decide +kernel) (by decide)
    (by decide +kernel) (by decide +kernel)

/-- **A selector that is turned around.** Asked for the nodes outside one country, the compiled
affinity admits the node inside it: what is admitted is not, in general, what is asked for. -/
theorem admitsNode_compile_resolveAll_ne_asksFor :
    ¬ ∀ (selectors : List Selector) (nodes : List EligibleNode) (placed : List (List String)),
      selectors ≠ [] →
      (∀ s ∈ selectors, s.name.map Char.toLower ∈ Criterion.labelNames) →
      (∀ s ∈ selectors, s.quantity = 0) →
      (∀ n ∈ nodes, n.label? Label.hostname = some n.hostname) →
      (nodes.map EligibleNode.hostname).Nodup →
      ∃ a, compile (Plan.resolveAll nodes selectors placed) = some a ∧
        ∀ n ∈ nodes, (a.admitsNode n = true ↔ ∃ s ∈ selectors, s.AsksFor n) := by
  intro h
  obtain ⟨a, hcompile, hadmits⟩ := h [byCountry .noneOf "US"]
    [nodeIn "fr-1" "FR", nodeIn "us-1" "US"] [] (by decide) (by decide +kernel) (by decide)
    (by decide +kernel) (by decide +kernel)
  have ha : a = { required := some [{
      matchExpressions := some [⟨Label.hostname, "NotIn", some ["fr-1"]⟩] }] } := by
    rw [← Option.some.injEq, ← hcompile]
    decide +kernel
  have hinside : a.admitsNode (nodeIn "us-1" "US") = true := by
    rw [ha]
    decide +kernel
  obtain ⟨s, hs, key, hkey, hholds⟩ := (hadmits _ (by simp)).mp hinside
  obtain rfl : s = byCountry .noneOf "US" := List.mem_singleton.mp hs
  obtain rfl : Label.country = key := by
    rw [← Option.some.injEq, ← hkey]
    decide +kernel
  exact hholds "US" (by decide) (by decide +kernel)

end GeoPlacement
