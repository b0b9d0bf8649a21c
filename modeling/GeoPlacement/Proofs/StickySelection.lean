import GeoPlacement.Proofs.ReferenceSelection

/-!
# Hostnames that stay

Resolving a selector prefers the hostnames that are placed already, so that a workload does not move
while its nodes are as good as any others. This module follows a selector through several runs, each
of which takes the hostnames of the one before as the placed ones, over nodes that may have changed
in between.

## Main results

* `Selection.perm_resolve_of_full`: a selection with its full quantity stays as long as its nodes
  match, whatever nodes there are besides.
* `Selection.resolve_congr`: only which hostnames are placed counts.
* `Selector.resolved_settles`: over the same nodes the hostnames are in their final order after two
  runs.
* `Selection.resolve_sticky`: these together, with the number of hostnames that stay.
-/

namespace GeoPlacement

/-- The hostnames after so many runs over the same nodes, the first of which finds some hostnames
placed and each other one those of the run before. -/
def Selector.resolved (s : Selector) (nodes : List EligibleNode) (placed : List String) :
    Nat → List String
  | 0 => placed
  | runs + 1 => (Selection.resolve s nodes (s.resolved nodes placed runs)).hostnames

namespace Selection

variable {s : Selector} {nodes : List EligibleNode} {placed : List String}

/-- Only which hostnames are placed counts, not their order or how often they are listed. -/
theorem resolve_congr {other : List String}
    (h : ∀ hostname, hostname ∈ placed ↔ hostname ∈ other) :
    resolve s nodes placed = resolve s nodes other := by
  rw [resolve_eq_iff, hostnames_resolve, hostnames_resolve]
  exact pickSticky_congr h

/-- Over the same nodes, a second run drops no hostname and adds none. -/
theorem perm_resolve_again :
    (resolve s nodes (resolve s nodes placed).hostnames).hostnames.Perm
      (resolve s nodes placed).hostnames := by
  have hfills := fills_resolve s nodes placed
  rw [hostnames_resolve s nodes (resolve s nodes placed).hostnames]
  exact pickSticky_perm_of_fills hfills

/-- **A full selection stays** over any nodes among which its hostnames still match: it is as much
as is asked for, and so it is full there as well. -/
theorem perm_resolve_of_full {criterion : Criterion}
    (hcriterion : Criterion.ofName? s.name = some criterion) {others : List EligibleNode}
    (hquantity : 0 < s.quantity.toNat)
    (hfull : (resolve s nodes placed).hostnames.length = s.quantity.toNat)
    (hmatch : ∀ hostname ∈ (resolve s nodes placed).hostnames,
      criterion.acceptsHostname s others hostname = true) :
    (resolve s others (resolve s nodes placed).hostnames).hostnames.Perm
      (resolve s nodes placed).hostnames := by
  have hfills : Fills s.quantity.toNat (s.scan others) (resolve s nodes placed).hostnames :=
    { nodup := (fills_resolve s nodes placed).nodup
      subset := fun hostname hmem => (Selector.mem_scan_iff hcriterion).mpr (hmatch hostname hmem)
      length_le := .inr (Nat.le_of_eq hfull)
      complete := .inr ⟨Nat.ne_of_gt hquantity, hfull⟩ }
  rw [hostnames_resolve s others]
  exact pickSticky_perm_of_fills hfills

/-- **The number of hostnames that stay** is that of the placed ones that match, each counted once,
up to the quantity. -/
theorem length_filter_placed_resolve {criterion : Criterion}
    (hcriterion : Criterion.ofName? s.name = some criterion) :
    ((resolve s nodes placed).hostnames.filter (· ∈ placed)).length =
      if 0 < s.quantity.toNat then
        min s.quantity.toNat (placed.eraseDups.filter (criterion.acceptsHostname s nodes)).length
      else (placed.eraseDups.filter (criterion.acceptsHostname s nodes)).length := by
  have hmatch : placed.eraseDups.filter (· ∈ s.scan nodes) =
      placed.eraseDups.filter (criterion.acceptsHostname s nodes) := by
    refine List.filter_congr fun hostname _ => ?_
    rw [Bool.eq_iff_iff, decide_eq_true_iff]
    exact Selector.mem_scan_iff hcriterion
  rw [hostnames_resolve, length_filter_placed_pickSticky, hmatch]

end Selection

/-- **Runs settle** after the second one: it has the hostnames of the first, and a third one does
not see in which order they were. -/
theorem Selector.resolved_settles (s : Selector) (nodes : List EligibleNode) (placed : List String)
    (runs : Nat) : s.resolved nodes placed (runs + 2) = s.resolved nodes placed 2 := by
  have hagain : Selection.resolve s nodes (s.resolved nodes placed 2) =
      Selection.resolve s nodes (s.resolved nodes placed 1) :=
    Selection.resolve_congr fun hostname => Selection.perm_resolve_again.mem_iff
  induction runs with
  | zero => rfl
  | succ runs ih =>
      calc s.resolved nodes placed (runs + 3)
          = (Selection.resolve s nodes (s.resolved nodes placed (runs + 2))).hostnames := rfl
        _ = (Selection.resolve s nodes (s.resolved nodes placed 2)).hostnames := by rw [ih]
        _ = s.resolved nodes placed 2 := by rw [hagain]; rfl

/-- **Selection is sticky.** A selector has resolved to some hostnames, and is resolved again with
these as the placed ones. If they are as many as are asked for, they stay over all nodes among which
they still match. Over the same nodes they stay in any case. The placed hostnames count as a set, so
that the order, too, stays from the second run on. And the hostnames that stay in a run are the
placed ones that match, up to the quantity. -/
theorem Selection.resolve_sticky (criterion : Criterion) (s : Selector)
    (nodes : List EligibleNode) (placed : List String)
    (hcriterion : Criterion.ofName? s.name = some criterion) :
    (∀ others : List EligibleNode, 0 < s.quantity.toNat →
      (resolve s nodes placed).hostnames.length = s.quantity.toNat →
      (∀ hostname ∈ (resolve s nodes placed).hostnames,
        criterion.acceptsHostname s others hostname = true) →
      (resolve s others (resolve s nodes placed).hostnames).hostnames.Perm
        (resolve s nodes placed).hostnames) ∧
    (resolve s nodes (resolve s nodes placed).hostnames).hostnames.Perm
      (resolve s nodes placed).hostnames ∧
    (∀ other : List String, (∀ hostname, hostname ∈ placed ↔ hostname ∈ other) →
      resolve s nodes placed = resolve s nodes other) ∧
    (∀ runs, s.resolved nodes placed (runs + 2) = s.resolved nodes placed 2) ∧
    ((resolve s nodes placed).hostnames.filter (· ∈ placed)).length =
      if 0 < s.quantity.toNat then
        min s.quantity.toNat (placed.eraseDups.filter (criterion.acceptsHostname s nodes)).length
      else (placed.eraseDups.filter (criterion.acceptsHostname s nodes)).length :=
  ⟨fun _ hquantity hfull hmatch => perm_resolve_of_full hcriterion hquantity hfull hmatch,
    perm_resolve_again, fun _ hsame => resolve_congr hsame, s.resolved_settles nodes placed,
    length_filter_placed_resolve hcriterion⟩

/-- Two nodes are asked for, and found in one country and in another. A node joins in the first
country and ahead of them; the two stay nevertheless. -/
theorem Selection.resolve_sticky_joined :
    (resolve (byCountries ["FR", "US"] 2) [nodeIn "fr-1" "FR", nodeIn "us-1" "US"] []).hostnames =
      ["fr-1", "us-1"] ∧
    (resolve (byCountries ["FR", "US"] 2)
      [nodeIn "fr-0" "FR", nodeIn "fr-1" "FR", nodeIn "us-1" "US"] ["fr-1", "us-1"]).hostnames.Perm
      ["fr-1", "us-1"] := by
  have hfirst : (resolve (byCountries ["FR", "US"] 2)
      [nodeIn "fr-1" "FR", nodeIn "us-1" "US"] []).hostnames = ["fr-1", "us-1"] := by
    decide +kernel
  have hsticky := resolve_sticky .country (byCountries ["FR", "US"] 2)
    [nodeIn "fr-1" "FR", nodeIn "us-1" "US"] [] (by decide +kernel)
  rw [hfirst] at hsticky
  refine ⟨hfirst, hsticky.1 [nodeIn "fr-0" "FR", nodeIn "fr-1" "FR", nodeIn "us-1" "US"]
    (by decide) (by decide) ?_⟩
  decide +kernel

end GeoPlacement
