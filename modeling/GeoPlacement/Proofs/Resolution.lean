import GeoPlacement.Proofs.Injection
import GeoPlacement.Proofs.Picking
import GeoPlacement.Reconcile.Plan

/-!
# What resolving selectors comes to

A selection is determined by its selector, the nodes and the hostnames it holds. This module
reads those hostnames off the scan of the selector, shows that the compiled node affinity names
the very hostnames of the selections, and says when resolving once more, with these hostnames as
the placed ones, gives the same selections.

## Main results

* `Selection.hostnames_resolve`: the hostnames are picked from the scan of the selector.
* `Selection.resolve_eq_iff`: two selections of one selector differ in their hostnames at most.
* `placement_compile_resolveAll`: the compiled affinity names the hostnames of the selections.
* `resolveAll_again_iff`: resolving again with the same nodes changes nothing iff each selection
  holds its hostnames in the order of the scan.
* `resolveAll_settles`: resolving a third time changes nothing.
-/

namespace GeoPlacement

/-- The hostnames of the nodes that match a selector, in the order in which they are met. A
selector whose criterion is not known meets none. -/
def Selector.scan (s : Selector) (nodes : List EligibleNode) : List String :=
  match Criterion.ofName? s.name with
  | none => []
  | some criterion => (matchingNodes criterion s nodes).map EligibleNode.hostname

namespace Selection

/-! ### One selector -/

variable (s : Selector) (nodes : List EligibleNode) (placed : List String)

/-- A selection keeps the operator of its selector. -/
@[simp] theorem operator_resolve : (resolve s nodes placed).operator = s.operator := by
  rw [resolve]
  split <;> rfl

/-- **The hostnames of a selection** are picked from the scan of its selector. -/
theorem hostnames_resolve :
    (resolve s nodes placed).hostnames = pickSticky s.quantity.toNat (s.scan nodes) placed := by
  rw [resolve, Selector.scan]
  cases Criterion.ofName? s.name <;> rfl

/-- What a selector resolves to is full. -/
theorem fills_resolve :
    Fills s.quantity.toNat (s.scan nodes) (resolve s nodes placed).hostnames := by
  rw [hostnames_resolve]
  exact fills_pickSticky ..

variable {s nodes placed}

/-- Selections of one selector over the same nodes differ in their hostnames at most. -/
theorem resolve_eq_iff {other : List String} :
    resolve s nodes placed = resolve s nodes other ↔
      (resolve s nodes placed).hostnames = (resolve s nodes other).hostnames := by
  constructor
  · intro h
    rw [h]
  · intro h
    rw [resolve, resolve] at h ⊢
    cases hcriterion : Criterion.ofName? s.name with
    | none => rfl
    | some criterion =>
        simp only [hcriterion] at h ⊢
        rw [h]

/-- Resolving a selector again with the hostnames of its selection as the placed ones changes
nothing iff they are in the order of the scan. -/
theorem resolve_again_iff :
    resolve s nodes (resolve s nodes placed).hostnames = resolve s nodes placed ↔
      (resolve s nodes placed).hostnames.Sublist (s.scan nodes).eraseDups := by
  rw [resolve_eq_iff, hostnames_resolve s nodes (resolve s nodes placed).hostnames]
  exact pickSticky_eq_self_iff (fills_resolve s nodes placed)

/-- Resolving a selector again, with the hostnames of its selection as the placed ones, puts them
into the order of the scan. -/
theorem sublist_resolve_again :
    (resolve s nodes (resolve s nodes placed).hostnames).hostnames.Sublist
      (s.scan nodes).eraseDups := by
  rw [hostnames_resolve s nodes (resolve s nodes placed).hostnames]
  exact pickSticky_sublist (fills_resolve s nodes placed)

/-- The term of a selection names the hostnames that the selection holds. -/
theorem hostnames_term_resolve :
    (resolve s nodes placed).term.hostnames = (resolve s nodes placed).hostnames := by
  rw [resolve]
  cases Criterion.ofName? s.name with
  | none => rfl
  | some criterion => rw [hostnames_term, if_pos rfl]

end Selection

/-! ### All selectors -/

namespace Plan

variable {nodes : List EligibleNode} {selectors : List Selector} {placed : List (List String)}

/-- There are no selections iff there are no selectors. -/
@[simp] theorem resolveAll_eq_nil_iff :
    resolveAll nodes selectors placed = [] ↔ selectors = [] := by
  cases selectors <;> simp [resolveAll]

/-- What can be said of a selector whatever was placed before can be said of its selection. -/
theorem exists_mem_resolveAll_iff {P : Selection → Prop} {Q : Selector → Prop}
    (h : ∀ s ∈ selectors, ∀ placed, P (Selection.resolve s nodes placed) ↔ Q s) :
    (∃ selection ∈ resolveAll nodes selectors placed, P selection) ↔ ∃ s ∈ selectors, Q s := by
  induction selectors generalizing placed with
  | nil => simp [resolveAll]
  | cons s rest ih =>
      obtain ⟨hhead, hrest⟩ := List.forall_mem_cons.mp h
      rw [resolveAll, List.exists_mem_cons_iff, List.exists_mem_cons_iff, hhead, ih hrest]

/-- **Reading back**: the compiled affinity names the hostnames of the selections. -/
theorem placement_compile_resolveAll :
    ((compile (resolveAll nodes selectors placed)).map NodeAffinity.hostnames).getD [] =
      (resolveAll nodes selectors placed).map Selection.hostnames := by
  rw [placement_compile]
  induction selectors generalizing placed with
  | nil => rfl
  | cons s rest ih =>
      rw [resolveAll, List.map_cons, List.map_cons, ih, ← Selection.hostnames_term,
        Selection.hostnames_term_resolve]

/-- The selections of the same selectors over the same nodes differ in their hostnames at most. -/
theorem resolveAll_eq_iff {other : List (List String)} :
    resolveAll nodes selectors placed = resolveAll nodes selectors other ↔
      (resolveAll nodes selectors placed).map Selection.hostnames =
        (resolveAll nodes selectors other).map Selection.hostnames := by
  induction selectors generalizing placed other with
  | nil => simp [resolveAll]
  | cons s rest ih =>
      simp only [resolveAll, List.map_cons, List.cons.injEq]
      rw [Selection.resolve_eq_iff, ih]

/-- They are compiled to the same affinity only if they are the same. -/
theorem compile_resolveAll_inj {other : List (List String)} :
    compile (resolveAll nodes selectors placed) = compile (resolveAll nodes selectors other) ↔
      resolveAll nodes selectors placed = resolveAll nodes selectors other := by
  constructor
  · intro h
    rw [resolveAll_eq_iff, ← placement_compile_resolveAll, ← placement_compile_resolveAll, h]
  · intro h
    rw [h]

/-- **Resolving again**, with the hostnames of the selections as the placed ones, changes nothing
iff each selection holds its hostnames in the order of the scan. -/
theorem resolveAll_again_iff :
    resolveAll nodes selectors ((resolveAll nodes selectors placed).map Selection.hostnames) =
        resolveAll nodes selectors placed ↔
      List.Forall₂ (fun s selection => selection.hostnames.Sublist (s.scan nodes).eraseDups)
        selectors (resolveAll nodes selectors placed) := by
  induction selectors generalizing placed with
  | nil => simp [resolveAll]
  | cons s rest ih =>
      simp only [resolveAll, List.map_cons, List.headD_cons, List.tail_cons, List.cons.injEq,
        List.forall₂_cons]
      rw [Selection.resolve_again_iff, ih]

/-- **Resolving settles** after one repetition, whatever was placed at first. -/
theorem resolveAll_settles :
    resolveAll nodes selectors ((resolveAll nodes selectors
        ((resolveAll nodes selectors placed).map Selection.hostnames)).map Selection.hostnames) =
      resolveAll nodes selectors
        ((resolveAll nodes selectors placed).map Selection.hostnames) := by
  rw [resolveAll_again_iff]
  induction selectors generalizing placed with
  | nil => exact .nil
  | cons s rest ih =>
      simp only [resolveAll, List.map_cons, List.headD_cons, List.tail_cons]
      exact .cons Selection.sublist_resolve_again ih

end Plan

end GeoPlacement
