import GeoPlacement.Proofs.RayCrossing

/-!
# Convex rings

A ring is **strictly convex** if every edge has all other vertices strictly on its inner side, which
is the left one on a ring that goes counterclockwise and the right one on a ring that goes clockwise
(`Edge.inward`). Along a latitude the inner side of an edge is after it or before it, as its heading
says (`Edge.inward_eq`).

A latitude meets such a ring in two edges at most, one of either heading
(`IsConvex.modEq_of_heading`): of two edges with one heading neither meets the latitude before the
other, and two edges that meet it in one point share their upper end. Vertices and horizontal edges
on the latitude need no case of their own, since an edge counts iff just one of its ends is below
the latitude.

A point on the inner side of all edges has vertices below it and others not below it, as the two
edges at the lowest and at the highest vertex show (`IsConvex.exists_bend`). So both edges are
there, and the point is between them. A point on the outer side of some edge is not between them,
for what is between them is on the outer side of none.

## Main results

* `IsConvex.crossings_of_inside`: a ray from a point inside crosses one edge.
* `IsConvex.crossings_of_outside`: a ray from a point outside crosses two edges or none.
* `Polygon.contains_of_isConvex`: convex rings contain the points inside of them, and none outside.
-/

namespace GeoPlacement

/-! ### Vertices by number -/

namespace Polygon

section Vertices

variable {R : Type} (p : Polygon R)

/-- The number of vertices. -/
def size : ℕ := p.vertices.length

/-- A ring has three vertices at least. -/
theorem three_le_size : 3 ≤ p.size := p.three_le

theorem size_pos : 0 < p.size := Nat.lt_of_lt_of_le (by decide) p.three_le

/-- The vertex with a number, which goes around the ring. -/
def vertex (i : ℕ) : Point R := p.vertices.get ⟨i % p.size, Nat.mod_lt i p.size_pos⟩

/-- The edge from the vertex with a number to the next one. -/
def edge (i : ℕ) : Edge R := ⟨p.vertex i, p.vertex (i + 1)⟩

variable {p} {i j : ℕ}

/-- Vertices repeat after a turn around the ring. -/
theorem vertex_congr (h : i ≡ j [MOD p.size]) : p.vertex i = p.vertex j := by
  have h : i % p.size = j % p.size := h
  simp only [vertex, h]

theorem edge_congr (h : i ≡ j [MOD p.size]) : p.edge i = p.edge j := by
  rw [edge, edge, vertex_congr h, vertex_congr (h.add_right 1)]

/-- The vertices of the first turn are those of the list. -/
theorem getElem_vertices (h : i < p.vertices.length) : p.vertices[i] = p.vertex i := by
  rw [vertex, List.get_eq_getElem]
  simp only [Nat.mod_eq_of_lt (show i < p.size from h)]

/-- The edges of a ring are those from each vertex to the next one. The last one in this numbering
is the one that closes the ring, and so the first of the path. -/
theorem perm_ringEdges (p : Polygon R) :
    (ringEdges p.vertices).Perm ((List.range p.size).map p.edge) := by
  rcases hp : p.vertices with _ | ⟨first, rest⟩
  · exact absurd p.three_le (by simp [hp])
  have hvertex : ∀ k (hk : k < (first :: rest).length), (first :: rest)[k] = p.vertex k := by
    intro k hk
    rw [← getElem_vertices (hp ▸ hk)]
    simp only [hp]
  have hsize : p.size = rest.length + 1 := by rw [size, hp, List.length_cons]
  have hlast : rest.getLastD first = p.vertex rest.length := by
    rw [← hvertex _ (by simp), ← Option.some_inj, ← List.getElem?_eq_getElem,
      List.getLastD_eq_getLast?, ← List.getLast?_cons, List.getLast?_eq_getElem?]
    rfl
  have hpath : pathEdges first rest = (List.range rest.length).map p.edge := by
    refine List.ext_getElem (by simp [pathEdges]) fun k hk hk' => ?_
    have hk : k < rest.length := by simpa using hk'
    rw [List.getElem_map, List.getElem_range, edge, ← hvertex k (Nat.lt_succ_of_lt hk),
      ← hvertex (k + 1) (Nat.succ_lt_succ hk)]
    simp only [pathEdges, List.getElem_zipWith, List.getElem_cons_succ]
  have hclosing : p.edge rest.length = ⟨p.vertex rest.length, first⟩ := by
    have hclose : p.vertex p.size = p.vertex 0 := vertex_congr (Nat.mod_self _)
    rw [edge, ← hsize, hclose, ← hvertex 0 (by simp), List.getElem_cons_zero]
  rw [ringEdges_cons, pathEdges_cons, hlast, hpath, hsize, List.range_succ, List.map_append,
    List.map_singleton, hclosing]
  exact (List.perm_append_singleton _ _).symm

/-- What holds of some vertices and not of all changes from some vertex to the next one. Otherwise
it would hold of all that follow, and those come around to every vertex again. -/
theorem exists_change {P : Point R → Prop} (hi : P (p.vertex i)) (hj : ¬ P (p.vertex j)) :
    ∃ k, P (p.vertex k) ∧ ¬ P (p.vertex (k + 1)) := by
  by_contra! hnone
  have hall : ∀ k, i ≤ k → P (p.vertex k) := fun k hk =>
    Nat.le_induction hi (fun k _ => hnone k) k hk
  have hlater : i ≤ j + p.size * i := by
    have := Nat.le_mul_of_pos_left i p.size_pos
    omega
  have hsame : j + p.size * i ≡ j [MOD p.size] := by simp [Nat.ModEq]
  exact hj (vertex_congr hsame ▸ hall _ hlater)

/-- One of the vertices comes first in any order, and every vertex comes after another one. -/
theorem exists_least {α : Type} [LinearOrder α] (p : Polygon R) (key : Point R → α) :
    ∃ m, ∀ i, key (p.vertex (m + 1)) ≤ key (p.vertex i) := by
  obtain ⟨k, -, hk⟩ := Finset.exists_min_image (Finset.range p.size) (fun i => key (p.vertex i))
    ⟨0, Finset.mem_range.mpr p.size_pos⟩
  refine ⟨k + p.size - 1, fun i => ?_⟩
  have hnext : k + p.size - 1 + 1 ≡ k [MOD p.size] := by
    have := p.size_pos
    rw [Nat.sub_add_cancel (by omega)]
    simp [Nat.ModEq]
  have hi := hk (i % p.size) (Finset.mem_range.mpr (Nat.mod_lt _ p.size_pos))
  rwa [vertex_congr (Nat.mod_modEq i _), ← vertex_congr hnext] at hi

/-- A few vertices later the ring has not come around. -/
theorem not_add_modEq {m d : ℕ} (hpos : 0 < d) (hlt : d < p.size) : ¬ m + d ≡ m [MOD p.size] := by
  intro hmod
  have hzero : d % p.size = 0 % p.size := Nat.ModEq.add_left_cancel' m hmod
  rw [Nat.mod_eq_of_lt hlt, Nat.zero_mod] at hzero
  exact hpos.ne' hzero

/-- One number below the size is the same as another one up to going around the ring. -/
theorem lt_and_modEq_iff : i < p.size ∧ i ≡ j [MOD p.size] ↔ i = j % p.size := by
  constructor
  · rintro ⟨hlt, hsame⟩
    rw [← hsame, Nat.mod_eq_of_lt hlt]
  · rintro rfl
    exact ⟨Nat.mod_lt _ p.size_pos, Nat.mod_modEq j _⟩

end Vertices

end Polygon

/-! ### Sides of an edge -/

/-- The sense in which a ring goes around its inside. -/
inductive Winding
  | counterclockwise
  | clockwise
deriving Repr, DecidableEq

section Field

variable {K : Type} [Field K]

/-- The sign of a sense of going around. -/
def Winding.sign : Winding → K
  | counterclockwise => 1
  | clockwise => -1

namespace Edge

/-- How far a point lies on the **inner side** of an edge, as a multiple of the length of the edge.
It is negative on the outer side. -/
def inward (w : Winding) (e : Edge K) (r : Point K) : K :=
  w.sign * ((e.target.lon - e.source.lon) * (r.lat - e.source.lat) -
    (e.target.lat - e.source.lat) * (r.lon - e.source.lon))

/-- How far an edge heads against the latitudes, or along with them on a ring that goes clockwise.
An edge with the inside after it has a positive heading, one with the inside before it a negative
one. -/
def heading (w : Winding) (e : Edge K) : K :=
  w.sign * (e.source.lat - e.target.lat)

/-- An edge begins on the line through it. -/
theorem inward_source (w : Winding) (e : Edge K) : e.inward w e.source = 0 := by
  simp [inward]

/-- An edge ends on the line through it. -/
theorem inward_target (w : Winding) (e : Edge K) : e.inward w e.target = 0 := by
  rw [inward]
  ring

variable {w : Winding} {e f : Edge K} {x y : K}

/-- Along a latitude, the inner side is reached at the rate of the heading. -/
theorem inward_sub_inward (w : Winding) (e : Edge K) (x x' y : K) :
    e.inward w ⟨x, y⟩ - e.inward w ⟨x', y⟩ = e.heading w * (x - x') := by
  simp only [inward, heading]
  ring

/-- The sides of two edges in a row: how far a point is above their corner, weighted by the bend. -/
theorem inward_mul_lat_sub (w : Winding) (a b c r : Point K) :
    (Edge.mk a b).inward w c * (r.lat - b.lat) =
      (Edge.mk a b).inward w r * (c.lat - b.lat) + (Edge.mk b c).inward w r * (a.lat - b.lat) := by
  simp only [inward]
  ring

/-- There is no bend along a latitude. -/
theorem inward_eq_zero_of_lat {a b c : Point K} (hab : a.lat = b.lat) (hcb : c.lat = b.lat) :
    (Edge.mk a b).inward w c = 0 := by
  simp only [inward, hab, hcb]
  ring

variable [LinearOrder K]

/-- Where an edge meets a latitude, the point lies on neither side. -/
theorem inward_lonAt_self (h : e.straddles y = true) : e.inward w ⟨e.lonAt y, y⟩ = 0 := by
  have hne := lat_sub_ne_zero h
  simp only [inward, lonAt]
  field_simp
  ring

/-- **A point lies on the inner side** of an edge that counts for its latitude iff it comes after
the edge, or before it if the heading is negative. -/
theorem inward_eq (h : e.straddles y = true) :
    e.inward w ⟨x, y⟩ = e.heading w * (x - e.lonAt y) := by
  rw [← inward_sub_inward, inward_lonAt_self h, sub_zero]

/-- Where another edge meets a latitude, the point lies between the ends of that edge. -/
theorem inward_lonAt (h : f.straddles y = true) :
    e.inward w ⟨f.lonAt y, y⟩ =
      (1 - f.ratio y) * e.inward w f.target + f.ratio y * e.inward w f.source := by
  have hne := lat_sub_ne_zero h
  simp only [inward, lonAt, ratio]
  field_simp
  ring

variable [IsStrictOrderedRing K]

/-- An edge that counts for a latitude heads somewhere. -/
theorem heading_ne_zero (h : e.straddles y = true) : e.heading w ≠ 0 := by
  refine mul_ne_zero ?_ (lat_sub_ne_zero h)
  cases w <;> simp [Winding.sign]

/-- The heading of an edge that counts for a latitude says which of its ends is below. -/
theorem heading_pos_iff (h : e.straddles y = true) :
    0 < e.heading w ↔ (e.source.lat < y ↔ w = .clockwise) := by
  have hfalls : e.target.lat < e.source.lat ↔ ¬ e.source.lat < y := by
    rcases straddles_iff.mp h with ⟨hbelow, hnot⟩ | ⟨hbelow, hnot⟩
    · exact iff_of_true (hbelow.trans_le hnot) hnot.not_gt
    · exact iff_of_false (hbelow.trans_le hnot).not_gt (not_not_intro hbelow)
  have hrises : e.source.lat < e.target.lat ↔ e.source.lat < y := by
    rcases straddles_iff.mp h with ⟨hbelow, hnot⟩ | ⟨hbelow, hnot⟩
    · exact iff_of_false (hbelow.trans_le hnot).not_gt hnot.not_gt
    · exact iff_of_true (hbelow.trans_le hnot) hbelow
  cases w with
  | counterclockwise => rw [heading, Winding.sign, one_mul, sub_pos, hfalls]; simp
  | clockwise => rw [heading, Winding.sign, neg_one_mul, neg_sub, sub_pos, hrises]; simp

/-- If a point where an edge meets a latitude lies on neither side of another edge, and the ends do
not lie on its outer side, then the upper end lies on neither side. -/
theorem inward_upper_eq_zero (h : f.straddles y = true) (hzero : e.inward w ⟨f.lonAt y, y⟩ = 0)
    (hsource : 0 ≤ e.inward w f.source) (htarget : 0 ≤ e.inward w f.target) :
    (f.source.lat < y → e.inward w f.target = 0) ∧
      (¬ f.source.lat < y → e.inward w f.source = 0) := by
  obtain ⟨hratio, hratio'⟩ := ratio_mem h
  have hparts := mul_nonneg (sub_nonneg.mpr hratio') htarget
  have hparts' := mul_nonneg hratio hsource
  rw [inward_lonAt h, add_eq_zero_iff_of_nonneg hparts hparts', mul_eq_zero, mul_eq_zero] at hzero
  rcases straddles_iff.mp h with ⟨hbelow, hnot⟩ | ⟨hbelow, hnot⟩
  · have hpos : 0 < f.ratio y := div_pos (sub_pos.mpr hbelow) (sub_pos.mpr (hbelow.trans_le hnot))
    exact ⟨fun hlt => absurd hlt hnot.not_gt, fun _ => hzero.2.resolve_left hpos.ne'⟩
  · have hneg : f.source.lat - f.target.lat < 0 := sub_neg.mpr (hbelow.trans_le hnot)
    have hlt : f.ratio y < 1 := by
      rw [ratio, div_lt_one_of_neg hneg]
      linarith
    exact ⟨fun _ => hzero.1.resolve_left (sub_pos.mpr hlt).ne', fun hge => absurd hbelow hge⟩

end Edge

/-! ### Convex rings -/

namespace Polygon

variable [LinearOrder K]

/-- A ring is **strictly convex** if each edge has all other vertices strictly on its inner side. -/
def IsConvex (p : Polygon K) (w : Winding) : Prop :=
  ∀ i < p.size, ∀ j < p.size, j ≠ i → j ≠ (i + 1) % p.size → 0 < (p.edge i).inward w (p.vertex j)

instance (p : Polygon K) (w : Winding) : Decidable (p.IsConvex w) :=
  inferInstanceAs (Decidable (∀ i < p.size, ∀ j < p.size, j ≠ i → j ≠ (i + 1) % p.size →
    0 < (p.edge i).inward w (p.vertex j)))

variable {p : Polygon K} {w : Winding} {i j k : ℕ} {x y : K}

/-- The crossings are counted by the numbers of the edges. -/
theorem crossings_eq_card (q : Point K) : p.crossings q =
    ((Finset.range p.size).filter fun i => (p.edge i).crossedFrom q = true).card := by
  rw [crossings, p.perm_ringEdges.countP_eq, List.countP_map, Finset.card_def, Finset.filter_val,
    ← Multiset.countP_eq_card_filter]
  simp only [Finset.range_val, Multiset.range, Multiset.coe_countP]
  congr 1
  ext i
  simp

/-- If some vertices are below a latitude and others are not, then some edge with a positive heading
counts for the latitude, and so does one with a negative heading. -/
theorem exists_straddles [IsStrictOrderedRing K] (w : Winding) (hbelow : (p.vertex i).lat < y)
    (hnot : ¬ (p.vertex j).lat < y) :
    (∃ k, (p.edge k).straddles y = true ∧ 0 < (p.edge k).heading w) ∧
      ∃ k, (p.edge k).straddles y = true ∧ ¬ 0 < (p.edge k).heading w := by
  obtain ⟨k, hk, hk'⟩ := exists_change (P := fun v => v.lat < y) hbelow hnot
  obtain ⟨l, hl, hl'⟩ := exists_change (P := fun v => ¬ v.lat < y) hnot (not_not_intro hbelow)
  have hrises : (p.edge k).straddles y = true :=
    Edge.straddles_iff.mpr (.inr ⟨hk, not_lt.mp hk'⟩)
  have hfalls : (p.edge l).straddles y = true :=
    Edge.straddles_iff.mpr (.inl ⟨not_not.mp hl', not_lt.mp hl⟩)
  have hrises' := Edge.heading_pos_iff (w := w) hrises
  have hfalls' := Edge.heading_pos_iff (w := w) hfalls
  have hk : (p.edge k).source.lat < y := hk
  have hl : ¬ (p.edge l).source.lat < y := hl
  cases w with
  | counterclockwise => exact ⟨⟨l, hfalls, by simp [hfalls', hl]⟩, k, hrises, by simp [hrises', hk]⟩
  | clockwise => exact ⟨⟨k, hrises, by simp [hrises', hk]⟩, l, hfalls, by simp [hfalls', hl]⟩

namespace IsConvex

variable (h : p.IsConvex w)

include h

/-- All other vertices lie strictly on the inner side of an edge. -/
theorem inward_pos (hsource : ¬ j ≡ i [MOD p.size]) (htarget : ¬ j ≡ i + 1 [MOD p.size]) :
    0 < (p.edge i).inward w (p.vertex j) := by
  have hmod : ∀ k, k % p.size ≡ k [MOD p.size] := fun k => Nat.mod_modEq k _
  have hpos := h (i % p.size) (Nat.mod_lt _ p.size_pos) (j % p.size) (Nat.mod_lt _ p.size_pos)
    hsource (by rwa [Nat.mod_add_mod])
  rwa [edge_congr (hmod i), vertex_congr (hmod j)] at hpos

/-- Any vertex on the line through an edge is one of its ends. -/
theorem modEq_of_inward_eq_zero (hzero : (p.edge i).inward w (p.vertex j) = 0) :
    j ≡ i [MOD p.size] ∨ j ≡ i + 1 [MOD p.size] := by
  by_contra! hother
  exact (h.inward_pos hother.1 hother.2).ne' hzero

/-- No vertex lies on the outer side of an edge. -/
theorem inward_nonneg (i j : ℕ) : 0 ≤ (p.edge i).inward w (p.vertex j) := by
  by_cases hends : j ≡ i [MOD p.size] ∨ j ≡ i + 1 [MOD p.size]
  · refine Eq.ge ?_
    rcases hends with hsource | htarget
    · rw [vertex_congr hsource]
      exact Edge.inward_source w (p.edge i)
    · rw [vertex_congr htarget]
      exact Edge.inward_target w (p.edge i)
  · rw [not_or] at hends
    exact (h.inward_pos hends.1 hends.2).le

/-- **At each vertex a ring bends inwards**, and the sides of the two edges there say how far a
point is above the vertex. -/
theorem exists_bend (m : ℕ) (q : Point K) : ∃ bend, 0 < bend ∧
    bend = (p.edge m).inward w (p.vertex (m + 2)) ∧
    bend * (q.lat - (p.vertex (m + 1)).lat) =
      (p.edge m).inward w q * ((p.vertex (m + 2)).lat - (p.vertex (m + 1)).lat) +
        (p.edge (m + 1)).inward w q * ((p.vertex m).lat - (p.vertex (m + 1)).lat) := by
  have htwo := not_add_modEq (p := p) (m := m) (d := 2) (by decide) p.three_le_size
  have hone := not_add_modEq (p := p) (m := m + 1) (d := 1) (by decide)
    (Nat.lt_of_succ_lt p.three_le_size)
  exact ⟨_, h.inward_pos htwo hone, rfl, Edge.inward_mul_lat_sub ..⟩

variable [IsStrictOrderedRing K]

/-- Nor does any point where another edge meets a latitude. -/
theorem inward_lonAt_nonneg (i : ℕ) (hj : (p.edge j).straddles y = true) :
    0 ≤ (p.edge i).inward w ⟨(p.edge j).lonAt y, y⟩ := by
  obtain ⟨hratio, hratio'⟩ := Edge.ratio_mem hj
  rw [Edge.inward_lonAt hj]
  exact add_nonneg (mul_nonneg (sub_nonneg.mpr hratio') (h.inward_nonneg i (j + 1)))
    (mul_nonneg hratio (h.inward_nonneg i j))

/-- Nor does any point between two such points. -/
theorem inward_nonneg_of_between (k : ℕ) (hi : (p.edge i).straddles y = true)
    (hj : (p.edge j).straddles y = true) (hix : (p.edge i).lonAt y ≤ x)
    (hxj : x ≤ (p.edge j).lonAt y) : 0 ≤ (p.edge k).inward w ⟨x, y⟩ := by
  have hstart := h.inward_lonAt_nonneg k hi
  have hend := h.inward_lonAt_nonneg k hj
  have hsub := Edge.inward_sub_inward w (p.edge k) x ((p.edge i).lonAt y) y
  have hsub' := Edge.inward_sub_inward w (p.edge k) ((p.edge j).lonAt y) x y
  rcases le_total 0 ((p.edge k).heading w) with hheading | hheading
  · have := mul_nonneg hheading (sub_nonneg.mpr hix)
    linarith
  · have := mul_nonpos_of_nonpos_of_nonneg hheading (sub_nonneg.mpr hxj)
    linarith

/-- Two edges in the same direction that meet a latitude in one point are the same. The upper end of
the one is on the line through the other one, and is not its lower end. -/
theorem modEq_of_lonAt_eq (hi : (p.edge i).straddles y = true) (hj : (p.edge j).straddles y = true)
    (hsame : (p.vertex i).lat < y ↔ (p.vertex j).lat < y)
    (hmeet : (p.edge i).lonAt y = (p.edge j).lonAt y) : i ≡ j [MOD p.size] := by
  have hzero := Edge.inward_lonAt_self (w := w) hj
  rw [← hmeet] at hzero
  obtain ⟨hrises, hfalls⟩ := Edge.inward_upper_eq_zero hi hzero (h.inward_nonneg j i)
    (h.inward_nonneg j (i + 1))
  have hi : ¬ ((p.vertex i).lat < y ↔ (p.vertex (i + 1)).lat < y) :=
    Edge.straddles_iff_not_iff.mp hi
  have hj : ¬ ((p.vertex j).lat < y ↔ (p.vertex (j + 1)).lat < y) :=
    Edge.straddles_iff_not_iff.mp hj
  by_cases hbelow : (p.vertex i).lat < y
  · rcases h.modEq_of_inward_eq_zero (hrises hbelow) with hlower | hupper
    · rw [vertex_congr hlower] at hi
      exact absurd hsame hi
    · exact hupper.add_right_cancel' 1
  · rcases h.modEq_of_inward_eq_zero (hfalls hbelow) with hupper | hlower
    · exact hupper
    · rw [← vertex_congr hlower] at hj
      exact absurd hsame.symm hj

/-- **At most one edge of either heading** counts for a latitude. -/
theorem modEq_of_heading (hi : (p.edge i).straddles y = true) (hj : (p.edge j).straddles y = true)
    (hsame : 0 < (p.edge i).heading w ↔ 0 < (p.edge j).heading w) : i ≡ j [MOD p.size] := by
  have hij := h.inward_lonAt_nonneg i hj
  have hji := h.inward_lonAt_nonneg j hi
  rw [Edge.inward_eq hi] at hij
  rw [Edge.inward_eq hj] at hji
  refine h.modEq_of_lonAt_eq hi hj ?_ ?_
  · rw [Edge.heading_pos_iff hi, Edge.heading_pos_iff hj] at hsame
    change ((p.vertex i).lat < y ↔ _) ↔ ((p.vertex j).lat < y ↔ _) at hsame
    tauto
  · by_cases hpos : 0 < (p.edge i).heading w
    · have hle := nonneg_of_mul_nonneg_right hij hpos
      have hle' := nonneg_of_mul_nonneg_right hji (hsame.mp hpos)
      linarith
    · have hneg := lt_of_le_of_ne (not_lt.mp hpos) (Edge.heading_ne_zero hi)
      have hneg' := lt_of_le_of_ne (not_lt.mp (mt hsame.mpr hpos)) (Edge.heading_ne_zero hj)
      have hle := nonpos_of_mul_nonneg_right hij hneg
      have hle' := nonpos_of_mul_nonneg_right hji hneg'
      linarith

/-- Some vertex is below every point that lies on the inner side of all edges. Otherwise both edges
at the lowest vertex would lie along its latitude. -/
theorem exists_below {q : Point K} (hq : ∀ i, 0 < (p.edge i).inward w q) :
    ∃ i, (p.vertex i).lat < q.lat := by
  by_contra! hnone
  obtain ⟨m, hm⟩ := p.exists_least Point.lat
  obtain ⟨bend, hbend, heq, hsides⟩ := h.exists_bend m q
  have hnext := sub_nonneg.mpr (hm (m + 2))
  have hprevious := sub_nonneg.mpr (hm m)
  have hleft := mul_nonneg (hq m).le hnext
  have hright := mul_nonneg (hq (m + 1)).le hprevious
  have hsum := mul_nonpos_of_nonneg_of_nonpos hbend.le (sub_nonpos.mpr (hnone (m + 1)))
  have hflat := mul_eq_zero.mp (le_antisymm (by linarith) hleft)
  have hflat' := mul_eq_zero.mp (le_antisymm (by linarith) hright)
  refine hbend.ne' (heq.trans (Edge.inward_eq_zero_of_lat ?_ ?_))
  · exact sub_eq_zero.mp (hflat'.resolve_left (hq (m + 1)).ne')
  · exact sub_eq_zero.mp (hflat.resolve_left (hq m).ne')

/-- Some vertex is not below such a point. -/
theorem exists_not_below {q : Point K} (hq : ∀ i, 0 < (p.edge i).inward w q) :
    ∃ i, ¬ (p.vertex i).lat < q.lat := by
  by_contra! hall
  obtain ⟨m, hm⟩ := p.exists_least fun v => -v.lat
  obtain ⟨bend, hbend, -, hsides⟩ := h.exists_bend m q
  have hnext := sub_nonpos.mpr (neg_le_neg_iff.mp (hm (m + 2)))
  have hprevious := sub_nonpos.mpr (neg_le_neg_iff.mp (hm m))
  have hleft := mul_nonpos_of_nonneg_of_nonpos (hq m).le hnext
  have hright := mul_nonpos_of_nonneg_of_nonpos (hq (m + 1)).le hprevious
  have hsum := mul_pos hbend (sub_pos.mpr (hall (m + 1)))
  linarith

/-- **A ray from a point inside** crosses one edge. It is the one with a positive heading. -/
theorem crossings_of_inside {q : Point K} (hq : ∀ i, 0 < (p.edge i).inward w q) :
    p.crossings q = 1 := by
  obtain ⟨a, ha⟩ := h.exists_below hq
  obtain ⟨b, hb⟩ := h.exists_not_below hq
  obtain ⟨⟨k, hk, hpos⟩, -⟩ := exists_straddles w ha hb
  have hside : ∀ i, (p.edge i).straddles q.lat = true →
      (0 < (p.edge i).heading w ↔ (p.edge i).lonAt q.lat < q.lon) := fun i hi =>
    have hinside : 0 < (p.edge i).heading w * (q.lon - (p.edge i).lonAt q.lat) :=
      Edge.inward_eq (x := q.lon) hi ▸ hq i
    (pos_iff_pos_of_mul_pos hinside).trans sub_pos
  have hcrossed : ∀ i, (p.edge i).crossedFrom q = true ↔ i ≡ k [MOD p.size] := by
    intro i
    rw [Edge.crossedFrom_iff]
    constructor
    · rintro ⟨hi, hlt⟩
      exact h.modEq_of_heading hi hk (iff_of_true ((hside i hi).mpr hlt) hpos)
    · intro hik
      rw [edge_congr hik]
      exact ⟨hk, (hside k hk).mp hpos⟩
  rw [crossings_eq_card, Finset.card_eq_one]
  refine ⟨k % p.size, Finset.ext fun i => ?_⟩
  rw [Finset.mem_filter, Finset.mem_range, hcrossed, lt_and_modEq_iff, Finset.mem_singleton]

/-- If an edge counts for a latitude, then two do: one of either heading, in the order of where they
meet the latitude. -/
theorem exists_two (hi : (p.edge i).straddles y = true) : ∃ a b,
    ¬ a ≡ b [MOD p.size] ∧ (p.edge a).straddles y = true ∧ (p.edge b).straddles y = true ∧
      (p.edge a).lonAt y ≤ (p.edge b).lonAt y ∧
      ∀ j, (p.edge j).straddles y = true → j ≡ a [MOD p.size] ∨ j ≡ b [MOD p.size] := by
  obtain ⟨k, l, hk, hl⟩ : ∃ k l, (p.vertex k).lat < y ∧ ¬ (p.vertex l).lat < y := by
    rcases Edge.straddles_iff.mp hi with ⟨hbelow, hnot⟩ | ⟨hbelow, hnot⟩
    · exact ⟨i + 1, i, hbelow, hnot.not_gt⟩
    · exact ⟨i, i + 1, hbelow, hnot.not_gt⟩
  obtain ⟨⟨a, ha, hpos⟩, b, hb, hneg⟩ := exists_straddles w hk hl
  refine ⟨a, b, fun hab => hneg (edge_congr hab ▸ hpos), ha, hb, ?_, fun j hj => ?_⟩
  · have hnonneg := h.inward_lonAt_nonneg a hb
    rw [Edge.inward_eq ha] at hnonneg
    exact sub_nonneg.mp (nonneg_of_mul_nonneg_right hnonneg hpos)
  · by_cases hheading : 0 < (p.edge j).heading w
    · exact .inl (h.modEq_of_heading hj ha (iff_of_true hheading hpos))
    · exact .inr (h.modEq_of_heading hj hb (iff_of_false hheading hneg))

/-- **A ray from a point outside** crosses two edges or none. It is not between the two that its
latitude meets, or else it would lie on the outer side of none. -/
theorem crossings_of_outside {q : Point K} (hq : (p.edge k).inward w q < 0) :
    p.crossings q = 0 ∨ p.crossings q = 2 := by
  simp only [crossings_eq_card, Finset.card_eq_zero, Finset.card_eq_two, Finset.filter_eq_empty_iff,
    Edge.crossedFrom_iff]
  by_cases hnone : ∃ i, (p.edge i).straddles q.lat = true
  case neg => exact .inl fun i _ hi => hnone ⟨i, hi.1⟩
  obtain ⟨i, hi⟩ := hnone
  obtain ⟨a, b, hab, ha, hb, hle, hall⟩ := h.exists_two hi
  by_cases hlt : (p.edge a).lonAt q.lat < q.lon
  · have hlt' : (p.edge b).lonAt q.lat < q.lon := by
      by_contra hge
      exact hq.not_ge (h.inward_nonneg_of_between k ha hb hlt.le (not_lt.mp hge))
    refine .inr ⟨a % p.size, b % p.size, hab, Finset.ext fun j => ?_⟩
    rw [Finset.mem_filter, Finset.mem_range, Finset.mem_insert, Finset.mem_singleton,
      ← lt_and_modEq_iff, ← lt_and_modEq_iff, ← and_or_left]
    refine and_congr_right fun _ => ⟨fun hj => hall j hj.1, ?_⟩
    rintro (hj | hj)
    · exact edge_congr hj ▸ ⟨ha, hlt⟩
    · exact edge_congr hj ▸ ⟨hb, hlt'⟩
  · refine .inl fun j _ hj => ?_
    rcases hall j hj.1 with hja | hjb
    · exact hlt (edge_congr hja ▸ hj.2)
    · exact hlt (hle.trans_lt (edge_congr hjb ▸ hj.2))

end IsConvex

end Polygon

end Field

/-- **A strictly convex ring** with exact coordinates, whichever way it goes around, contains every
point that lies strictly on the inner side of all its edges, and no point that lies strictly on the
outer side of one of them. -/
theorem Polygon.contains_of_isConvex {p : Polygon ℚ} {w : Winding} (h : p.IsConvex w)
    (q : Point ℚ) :
    ((∀ i < p.size, 0 < (p.edge i).inward w q) → p.contains q = true) ∧
      ((∃ i < p.size, (p.edge i).inward w q < 0) → p.contains q = false) := by
  rw [contains_eq, encircles]
  constructor
  · intro hinside
    have hall : ∀ i, 0 < (p.edge i).inward w q := fun i =>
      edge_congr (Nat.mod_modEq i p.size) ▸ hinside _ (Nat.mod_lt i p.size_pos)
    rw [h.crossings_of_inside hall]
    rfl
  · rintro ⟨i, -, houtside⟩
    rcases h.crossings_of_outside houtside with hnone | htwo
    · rw [hnone]
      rfl
    · rw [htwo]
      rfl

/-- A hexagon that goes clockwise, with two edges along a latitude. -/
def hexagon : Polygon ℚ :=
  ⟨[⟨0, 1⟩, ⟨1, 2⟩, ⟨3, 2⟩, ⟨4, 1⟩, ⟨3, 0⟩, ⟨1, 0⟩], by decide⟩

/-- The hexagon contains its centre and not a point to its right, both of which have the latitude of
two vertices, nor a point to the right of its upper edge. -/
theorem Polygon.contains_of_isConvex_hexagon :
    hexagon.IsConvex .clockwise ∧
      (∀ i < hexagon.size, 0 < (hexagon.edge i).inward .clockwise ⟨2, 1⟩) ∧
      hexagon.contains ⟨2, 1⟩ = true ∧ hexagon.contains ⟨5, 1⟩ = false ∧
      hexagon.contains ⟨5, 2⟩ = false := by
  have hconvex : hexagon.IsConvex .clockwise := by decide +kernel
  have hinside : ∀ i < hexagon.size, 0 < (hexagon.edge i).inward .clockwise ⟨2, 1⟩ := by
    decide +kernel
  exact ⟨hconvex, hinside, (contains_of_isConvex hconvex _).1 hinside,
    (contains_of_isConvex hconvex _).2 ⟨2, by decide, by decide +kernel⟩,
    (contains_of_isConvex hconvex _).2 ⟨2, by decide, by decide +kernel⟩⟩

end GeoPlacement
