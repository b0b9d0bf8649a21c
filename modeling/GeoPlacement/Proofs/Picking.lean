import GeoPlacement.Placement.Selection
import Mathlib.Data.List.Nodup
import Mathlib.Data.List.Induction
import Mathlib.Data.List.Perm.Subperm

/-!
# What picking hostnames comes to

`pick` and `pickSticky` walk a scan with a list of what is chosen so far. This module says what
they return without a walk: the hostnames of the scan, each at its first place, cut to the
quantity, with the hostnames that were placed before in front (`pickSticky_eq`).

The second half is about feeding the result back. What was picked once is kept as a set
(`Fills`), but it comes out in the order of the scan, so picking again changes nothing exactly
where the first result was in that order already.

## Main results

* `pick_eq`, `pickSticky_eq`: the closed forms.
* `filter_placed_pickSticky`: the placed hostnames of the scan are kept, up to the quantity.
* `fills_pickSticky`: what was picked is everything, or as much as was asked for.
* `pickSticky_of_fills`: picking again puts the chosen hostnames into the order of the scan.
* `pickSticky_perm_of_fills`: picking again drops nothing and adds nothing.
* `pickSticky_eq_self_iff`: picking again changes nothing iff they were in that order.
* `pickSticky_sublist`: picking twice gives that order.
-/

namespace GeoPlacement

/-! ### First occurrences -/

section FirstOccurrences

variable {α : Type} [BEq α] [LawfulBEq α]

/-- Appending one element adds it to the first occurrences unless it is there. -/
theorem eraseDups_concat (l : List α) (a : α) :
    (l ++ [a]).eraseDups = l.eraseDups ++ if a ∈ l then [] else [a] := by
  rw [List.eraseDups_append]
  congr 1
  by_cases h : a ∈ l <;> simp [List.removeAll, h, List.eraseDups_cons]

/-- Each first occurrence is kept once. -/
theorem nodup_eraseDups (l : List α) : l.eraseDups.Nodup := by
  induction l using List.reverseRecOn with
  | nil => simp
  | append_singleton l a ih =>
      rw [eraseDups_concat]
      by_cases h : a ∈ l
      · simpa [h] using ih
      · rw [if_neg h]
        refine List.nodup_append'.mpr ⟨ih, List.nodup_singleton a, ?_⟩
        simpa [List.disjoint_singleton] using h

/-- A list without repetitions consists of its first occurrences. -/
theorem eraseDups_of_nodup {l : List α} (h : l.Nodup) : l.eraseDups = l := by
  induction l using List.reverseRecOn with
  | nil => simp
  | append_singleton l a ih =>
      obtain ⟨hl, -, hdisjoint⟩ := List.nodup_append'.mp h
      have ha : a ∉ l := fun hmem => hdisjoint hmem (List.mem_singleton_self a)
      rw [eraseDups_concat, ih hl, if_neg ha]

/-- Filtering and taking first occurrences commute. -/
theorem eraseDups_filter (p : α → Bool) (l : List α) :
    (l.filter p).eraseDups = l.eraseDups.filter p := by
  induction l using List.reverseRecOn with
  | nil => simp
  | append_singleton l a ih =>
      rw [List.filter_append, eraseDups_concat, List.filter_append, ← ih]
      by_cases hp : p a = true
      · rw [List.filter_singleton, hp, cond_true, eraseDups_concat]
        by_cases h : a ∈ l <;> simp [h, hp]
      · by_cases h : a ∈ l <;> simp [h, hp]

/-- What is left of a list after another depends only on which elements the other has. -/
theorem removeAll_congr {l k k' : List α} (h : ∀ a, a ∈ k ↔ a ∈ k') :
    l.removeAll k = l.removeAll k' := by
  refine List.filter_congr fun a _ => ?_
  simp [h a]

/-- Among the elements of a list without repetitions, a part of it in the same order is found by
filtering. -/
theorem filter_mem_of_sublist {l k : List α} (hl : l.Nodup) (h : k.Sublist l) :
    l.filter (fun a => k.elem a) = k := by
  have hk : k.filter (fun a => k.elem a) = k :=
    List.filter_eq_self.mpr fun a ha => List.elem_iff.mpr ha
  have hsub : k.Sublist (l.filter fun a => k.elem a) := by
    have := h.filter fun a => k.elem a
    rwa [hk] at this
  have hsubset : l.filter (fun a => k.elem a) ⊆ k := fun a ha =>
    List.elem_iff.mp (List.mem_filter.mp ha).2
  exact (hsub.eq_of_length_le (List.subperm_of_subset (hl.filter _) hsubset).length_le).symm

end FirstOccurrences

/-! ### The closed forms -/

/-- The front of a list up to a quantity, where a quantity of zero sets no bound. -/
def upTo (quantity : Nat) (hostnames : List String) : List String :=
  if quantity = 0 then hostnames else hostnames.take quantity

/-- At most `quantity` hostnames are taken, and all of them if it is zero. -/
theorem upTo_eq (quantity : Nat) (hostnames : List String) :
    upTo quantity hostnames =
      if 0 < quantity then hostnames.take quantity else hostnames := by
  cases quantity <;> simp [upTo]

/-- Nothing is cut off where there are not too many. -/
theorem upTo_of_le {quantity : Nat} {hostnames : List String}
    (h : quantity = 0 ∨ hostnames.length ≤ quantity) : upTo quantity hostnames = hostnames := by
  rw [upTo]
  split
  · rfl
  · next hne =>
    exact List.take_of_length_le (h.resolve_left hne)

/-- What follows a front that reaches the quantity does not matter. -/
theorem upTo_append_of_length_eq {quantity : Nat} {front : List String} (rest : List String)
    (hne : quantity ≠ 0) (h : front.length = quantity) :
    upTo quantity (front ++ rest) = front := by
  rw [upTo, if_neg hne, ← h, List.take_left']
  rfl

/-- **Picking** adds the new hostnames of the scan, each at its first place, up to the
quantity. -/
theorem pick_eq {quantity : Nat} {chosen : List String} (scan : List String)
    (hnodup : chosen.Nodup) (hle : quantity = 0 ∨ chosen.length ≤ quantity) :
    pick quantity chosen scan = upTo quantity (chosen ++ scan).eraseDups := by
  induction scan generalizing chosen with
  | nil => rw [List.append_nil, eraseDups_of_nodup hnodup, upTo_of_le hle, pick]
  | cons hostname rest ih =>
      rw [pick]
      by_cases hfull : isFull quantity chosen = true
      · obtain ⟨hne, hge⟩ : quantity ≠ 0 ∧ quantity ≤ chosen.length := by
          simpa [isFull] using hfull
        have hlength : chosen.length = quantity :=
          Nat.le_antisymm (hle.resolve_left hne) hge
        rw [if_pos hfull, List.eraseDups_append, eraseDups_of_nodup hnodup,
          upTo_append_of_length_eq _ hne hlength]
      · rw [if_neg hfull]
        by_cases hmem : hostname ∈ chosen
        · rw [if_pos hmem, ih hnodup hle, List.eraseDups_append, List.eraseDups_append]
          have hskip : (hostname :: rest).removeAll chosen = rest.removeAll chosen := by
            simp [List.removeAll, hmem]
          rw [hskip]
        · have hnodup' : (chosen ++ [hostname]).Nodup := by
            refine List.nodup_append'.mpr ⟨hnodup, List.nodup_singleton hostname, ?_⟩
            simpa [List.disjoint_singleton] using hmem
          have hle' : quantity = 0 ∨ (chosen ++ [hostname]).length ≤ quantity := by
            simp only [isFull, Bool.and_eq_true, bne_iff_ne, decide_eq_true_eq] at hfull
            rw [List.length_append, List.length_singleton]
            omega
          rw [if_neg hmem, ih hnodup' hle', List.append_assoc, List.singleton_append]

/-- **Sticky picking** is picking from the placed hostnames of the scan and then from the whole
scan, as one list. -/
theorem pickSticky_eq (quantity : Nat) (matching placed : List String) :
    pickSticky quantity matching placed =
      upTo quantity (matching.filter (· ∈ placed) ++ matching).eraseDups := by
  set kept := matching.filter (· ∈ placed)
  have hfirst : pick quantity [] kept = upTo quantity kept.eraseDups :=
    pick_eq kept List.nodup_nil (Or.inr (Nat.zero_le quantity))
  have hnodup := nodup_eraseDups kept
  rw [pickSticky, hfirst]
  by_cases hle : quantity = 0 ∨ kept.eraseDups.length ≤ quantity
  · rw [upTo_of_le hle, pick_eq matching hnodup hle, List.eraseDups_append,
      List.eraseDups_append, eraseDups_of_nodup hnodup,
      removeAll_congr fun hostname => List.mem_eraseDups]
  · obtain ⟨hne, hlt⟩ : quantity ≠ 0 ∧ quantity < kept.eraseDups.length := by omega
    have hcut : upTo quantity kept.eraseDups = kept.eraseDups.take quantity := if_neg hne
    have hlength : (kept.eraseDups.take quantity).length = quantity :=
      List.length_take_of_le (Nat.le_of_lt hlt)
    have hnodup' : (kept.eraseDups.take quantity).Nodup := hnodup.sublist (List.take_sublist ..)
    rw [hcut, pick_eq matching hnodup' (Or.inr (Nat.le_of_eq hlength)), List.eraseDups_append,
      eraseDups_of_nodup hnodup', upTo_append_of_length_eq _ hne hlength, List.eraseDups_append,
      upTo, if_neg hne, List.take_append_of_le_length (Nat.le_of_lt hlt)]

/-- What may be picked are the hostnames of the scan. -/
theorem mem_candidates {matching placed : List String} {hostname : String} :
    hostname ∈ (matching.filter (· ∈ placed) ++ matching).eraseDups ↔ hostname ∈ matching := by
  rw [List.mem_eraseDups, List.mem_append, List.mem_filter]
  exact ⟨fun h => h.elim And.left id, Or.inr⟩

/-- Without a bound on the quantity, exactly the hostnames of the scan are picked. -/
theorem mem_pickSticky_zero {matching placed : List String} {hostname : String} :
    hostname ∈ pickSticky 0 matching placed ↔ hostname ∈ matching := by
  rw [pickSticky_eq, upTo, if_pos rfl, mem_candidates]

/-- **The number of hostnames** that are picked: all of the scan, up to the quantity. -/
theorem length_pickSticky (quantity : Nat) (matching placed : List String) :
    (pickSticky quantity matching placed).length =
      if 0 < quantity then min quantity matching.eraseDups.length
      else matching.eraseDups.length := by
  have hperm : (matching.filter (· ∈ placed) ++ matching).eraseDups.Perm matching.eraseDups :=
    (List.perm_ext_iff_of_nodup (nodup_eraseDups _) (nodup_eraseDups _)).mpr fun hostname => by
      rw [mem_candidates, List.mem_eraseDups]
  rw [pickSticky_eq, upTo_eq]
  split
  · rw [List.length_take, hperm.length_eq]
  · exact hperm.length_eq

/-! ### Placed hostnames -/

/-- Only which hostnames were placed counts, not their order or how often they are listed. -/
theorem pickSticky_congr {quantity : Nat} {matching placed placed' : List String}
    (h : ∀ hostname, hostname ∈ placed ↔ hostname ∈ placed') :
    pickSticky quantity matching placed = pickSticky quantity matching placed' := by
  have hkept : matching.filter (· ∈ placed) = matching.filter (· ∈ placed') :=
    List.filter_congr fun hostname _ => decide_eq_decide.mpr (h hostname)
  rw [pickSticky, pickSticky, hkept]

/-- In a list that begins with all elements of a kind, these are the front of it. -/
theorem filter_upTo_append {quantity : Nat} {p : String → Bool} {front rest : List String}
    (hfront : ∀ hostname ∈ front, p hostname = true)
    (hrest : ∀ hostname ∈ rest, p hostname = false) :
    (upTo quantity (front ++ rest)).filter p = upTo quantity front := by
  have hkept : ∀ l : List String, l ⊆ front → l.filter p = l := fun l hl =>
    List.filter_eq_self.mpr fun hostname hmem => hfront hostname (hl hmem)
  have hdropped : ∀ l : List String, l ⊆ rest → l.filter p = [] := fun l hl =>
    List.filter_eq_nil_iff.mpr fun hostname hmem =>
      Bool.eq_false_iff.mp (hrest hostname (hl hmem))
  rw [upTo, upTo]
  split
  · rw [List.filter_append, hkept front (List.Subset.refl _), hdropped rest (List.Subset.refl _),
      List.append_nil]
  · rw [List.take_append, List.filter_append, hkept _ (List.take_subset _ _),
      hdropped _ (List.take_subset _ _), List.append_nil]

/-- **What is kept**: those of the picked hostnames that were placed are the placed ones of the
scan, up to the quantity. Filling up adds none of them. -/
theorem filter_placed_pickSticky (quantity : Nat) (matching placed : List String) :
    (pickSticky quantity matching placed).filter (· ∈ placed) =
      upTo quantity (matching.filter (· ∈ placed)).eraseDups := by
  rw [pickSticky_eq, List.eraseDups_append]
  refine filter_upTo_append (fun hostname hmem => ?_) (fun hostname hmem => ?_)
  · exact (List.mem_filter.mp (List.mem_eraseDups.mp hmem)).2
  · have hadded := List.mem_filter.mp (List.mem_eraseDups.mp hmem)
    have hnot : hostname ∉ matching ∨ hostname ∉ placed := by
      simpa using hadded.2
    exact decide_eq_false (hnot.resolve_left fun habsent => habsent hadded.1)

/-- **The number of hostnames that are kept**: all placed ones that match, up to the quantity. -/
theorem length_filter_placed_pickSticky (quantity : Nat) (matching placed : List String) :
    ((pickSticky quantity matching placed).filter (· ∈ placed)).length =
      if 0 < quantity then min quantity (placed.eraseDups.filter (· ∈ matching)).length
      else (placed.eraseDups.filter (· ∈ matching)).length := by
  have hperm : (matching.filter (· ∈ placed)).eraseDups.Perm
      (placed.eraseDups.filter (· ∈ matching)) := by
    refine (List.perm_ext_iff_of_nodup (nodup_eraseDups _)
      ((nodup_eraseDups placed).filter _)).mpr fun hostname => ?_
    simp only [List.mem_eraseDups, List.mem_filter, decide_eq_true_eq]
    exact And.comm
  rw [filter_placed_pickSticky, upTo_eq]
  split
  · rw [List.length_take, hperm.length_eq]
  · exact hperm.length_eq

/-! ### Picking again -/

/-- What a selection holds when picking is over: hostnames of the scan, each once, as many as were
asked for or all of them. -/
structure Fills (quantity : Nat) (matching chosen : List String) : Prop where
  nodup : chosen.Nodup
  subset : chosen ⊆ matching
  length_le : quantity = 0 ∨ chosen.length ≤ quantity
  complete : matching ⊆ chosen ∨ quantity ≠ 0 ∧ chosen.length = quantity

/-- Picking, whatever was placed before, ends with a full selection. -/
theorem fills_pickSticky (quantity : Nat) (matching placed : List String) :
    Fills quantity matching (pickSticky quantity matching placed) := by
  rw [pickSticky_eq]
  set all := (matching.filter (· ∈ placed) ++ matching).eraseDups with hall
  have hnodup : all.Nodup := nodup_eraseDups _
  have hmem : ∀ hostname, hostname ∈ all ↔ hostname ∈ matching := fun hostname => mem_candidates
  by_cases hle : quantity = 0 ∨ all.length ≤ quantity
  · rw [upTo_of_le hle]
    exact ⟨hnodup, fun a ha => (hmem a).mp ha, hle, Or.inl fun a ha => (hmem a).mpr ha⟩
  · obtain ⟨hne, hlt⟩ : quantity ≠ 0 ∧ quantity < all.length := by omega
    have hlength : (all.take quantity).length = quantity :=
      List.length_take_of_le (Nat.le_of_lt hlt)
    rw [upTo, if_neg hne]
    exact ⟨hnodup.sublist (List.take_sublist ..),
      fun a ha => (hmem a).mp (List.mem_of_mem_take ha), Or.inr (Nat.le_of_eq hlength),
      Or.inr ⟨hne, hlength⟩⟩

/-- In the order of the scan, the chosen hostnames are as many as before. -/
theorem Fills.perm_filter {quantity : Nat} {matching chosen : List String}
    (h : Fills quantity matching chosen) :
    (matching.eraseDups.filter fun hostname => chosen.elem hostname).Perm chosen := by
  refine (List.perm_ext_iff_of_nodup ((nodup_eraseDups matching).filter _) h.nodup).mpr
    fun hostname => ?_
  rw [List.mem_filter, List.mem_eraseDups, List.elem_iff]
  exact ⟨And.right, fun hmem => ⟨h.subset hmem, hmem⟩⟩

/-- Picking again with the chosen hostnames as the placed ones keeps them as a set and puts them
into the order of the scan. -/
theorem pickSticky_of_fills {quantity : Nat} {matching chosen : List String}
    (h : Fills quantity matching chosen) :
    pickSticky quantity matching chosen =
      matching.eraseDups.filter fun hostname => chosen.elem hostname := by
  have hkept : (matching.filter (· ∈ chosen)).eraseDups =
      matching.eraseDups.filter fun hostname => chosen.elem hostname := by
    rw [← eraseDups_filter]
    congr 1
    exact List.filter_congr fun a _ => by simp
  have hlength := h.perm_filter.length_eq
  rw [pickSticky_eq, List.eraseDups_append, hkept]
  rcases h.complete with hall | ⟨hne, hfull⟩
  · have hnone : matching.removeAll (matching.filter (· ∈ chosen)) = [] := by
      refine List.filter_eq_nil_iff.mpr fun a ha => ?_
      simp [ha, hall ha]
    rw [hnone, List.eraseDups_nil, List.append_nil, upTo_of_le (hlength ▸ h.length_le)]
  · exact upTo_append_of_length_eq _ hne (hlength.trans hfull)

/-- **Picking again**, from this or from another scan that the chosen hostnames fill, drops none of
them and adds none. -/
theorem pickSticky_perm_of_fills {quantity : Nat} {matching chosen : List String}
    (h : Fills quantity matching chosen) : (pickSticky quantity matching chosen).Perm chosen := by
  rw [pickSticky_of_fills h]
  exact h.perm_filter

/-- **Picking again changes nothing** iff what was chosen is in the order of the scan. -/
theorem pickSticky_eq_self_iff {quantity : Nat} {matching chosen : List String}
    (h : Fills quantity matching chosen) :
    pickSticky quantity matching chosen = chosen ↔ chosen.Sublist matching.eraseDups := by
  rw [pickSticky_of_fills h]
  constructor
  · intro heq
    exact heq ▸ List.filter_sublist
  · exact filter_mem_of_sublist (nodup_eraseDups matching)

/-- **Picking twice** with what was chosen as the placed hostnames gives the order of the scan. -/
theorem pickSticky_sublist {quantity : Nat} {matching chosen : List String}
    (h : Fills quantity matching chosen) :
    (pickSticky quantity matching chosen).Sublist matching.eraseDups := by
  rw [pickSticky_of_fills h]
  exact List.filter_sublist

end GeoPlacement
