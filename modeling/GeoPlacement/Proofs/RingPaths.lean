import GeoPlacement.Geo.Polygon
import Mathlib

/-!
# Rings as paths

The edges of a ring are those of a path that starts at the last vertex and goes through all of them.
A path is put together from parts (`pathEdges_append`), so that what is said of a ring can be proved
part by part. The bounding box of a ring does not depend on the order of the vertices: a point lies
in it iff some vertex is at most as far, and some at least as far, in either coordinate.

Only the order of coordinates is used here, and only of those that are finite (`Coordinates`).

## Main results

* `ringEdges_cons`, `pathEdges_append`: the edges of a ring, part by part.
* `Polygon.contains_bounds_iff`: the bounding box by its vertices.
-/

namespace GeoPlacement

/-- A type of **coordinates**: no comparison goes against the order, and of two finite values one is
at most the other. -/
class Coordinates (R : Type) [LT R] [LE R] where
  /-- Whether a value is comparable with all others of the kind. -/
  IsFinite : R → Prop
  le_of_lt {a b : R} : a < b → a ≤ b
  not_le_of_lt {a b : R} : a < b → ¬ b ≤ a
  le_trans {a b c : R} : a ≤ b → b ≤ c → a ≤ c
  le_of_not_lt {a b : R} : IsFinite a → IsFinite b → ¬ a < b → b ≤ a

/-- In a linear order all values are comparable. -/
instance {K : Type} [LinearOrder K] : Coordinates K where
  IsFinite _ := True
  le_of_lt h := h.le
  not_le_of_lt h := h.not_ge
  le_trans h h' := h.trans h'
  le_of_not_lt _ _ h := not_lt.mp h

/-! ### Paths -/

section Paths

variable {R : Type}

/-- The edges of a path from a point through others. -/
def pathEdges (start : Point R) (points : List (Point R)) : List (Edge R) :=
  (start :: points).zipWith Edge.mk points

@[simp] theorem pathEdges_nil (start : Point R) : pathEdges start [] = [] := rfl

@[simp] theorem pathEdges_cons (start p : Point R) (points : List (Point R)) :
    pathEdges start (p :: points) = ⟨start, p⟩ :: pathEdges p points := rfl

/-- A path goes on from where its first part ends. -/
theorem pathEdges_append (start : Point R) (points more : List (Point R)) :
    pathEdges start (points ++ more) =
      pathEdges start points ++ pathEdges (points.getLastD start) more := by
  induction points generalizing start with
  | nil => rfl
  | cons p points ih => rw [List.cons_append, pathEdges_cons, pathEdges_cons, ih,
      List.cons_append, List.getLastD_cons]

/-- A ring is the path from its last vertex through all of them. -/
theorem ringEdges_cons (p : Point R) (points : List (Point R)) :
    ringEdges (p :: points) = pathEdges (points.getLastD p) (p :: points) := by
  rw [ringEdges, List.getLast?_cons, List.getLastD_eq_getLast?]
  rfl

/-- The ends of the edges of a path are its points. -/
theorem ends_of_mem_pathEdges {start : Point R} {points : List (Point R)} {e : Edge R}
    (h : e ∈ pathEdges start points) : e.source ∈ start :: points ∧ e.target ∈ points := by
  induction points generalizing start with
  | nil => cases h
  | cons p points ih =>
      rcases List.mem_cons.mp h with rfl | h
      · exact ⟨List.mem_cons_self, List.mem_cons_self⟩
      · obtain ⟨hsource, htarget⟩ := ih h
        exact ⟨List.mem_cons_of_mem _ hsource, List.mem_cons_of_mem _ htarget⟩

/-- The ends of the edges of a ring are its vertices. -/
theorem ends_of_mem_ringEdges {vertices : List (Point R)} {e : Edge R}
    (h : e ∈ ringEdges vertices) : e.source ∈ vertices ∧ e.target ∈ vertices := by
  cases vertices with
  | nil => cases h
  | cons p points =>
      rw [ringEdges_cons] at h
      obtain ⟨hsource, htarget⟩ := ends_of_mem_pathEdges h
      refine ⟨?_, htarget⟩
      rcases List.mem_cons.mp hsource with heq | hmem
      · rw [heq]
        exact List.getLastD_mem_cons ..
      · exact hmem

end Paths

/-! ### Bounding boxes -/

/-- The sides of a box are widened one by one. -/
theorem BoundingBox.foldl_extend {R : Type} [LT R] [DecidableLT R] (box : BoundingBox R)
    (points : List (Point R)) :
    points.foldl extend box =
      ⟨(points.map Point.lon).foldl smaller box.minLon,
        (points.map Point.lon).foldl larger box.maxLon,
        (points.map Point.lat).foldl smaller box.minLat,
        (points.map Point.lat).foldl larger box.maxLat⟩ := by
  induction points generalizing box with
  | nil => rfl
  | cons p points ih => exact ih (box.extend p)

section Bounds

variable {R : Type} [LT R] [LE R] [Coordinates R] [DecidableLT R]

open Coordinates

/-- The smaller of two coordinates is at most a third iff one of them is. -/
theorem smaller_le_iff {a b x : R} (ha : IsFinite a) (hb : IsFinite b) :
    smaller a b ≤ x ↔ a ≤ x ∨ b ≤ x := by
  rw [smaller]
  split
  · next h => exact ⟨.inr, fun hx => hx.elim (le_trans (le_of_lt h)) id⟩
  · next h => exact ⟨.inl, fun hx => hx.elim id (le_trans (le_of_not_lt hb ha h))⟩

/-- A coordinate is at most the larger of two others iff it is at most one of them. -/
theorem le_larger_iff {a b x : R} (ha : IsFinite a) (hb : IsFinite b) :
    x ≤ larger a b ↔ x ≤ a ∨ x ≤ b := by
  rw [larger]
  split
  · next h => exact ⟨.inr, fun hx => hx.elim (fun hx => le_trans hx (le_of_lt h)) id⟩
  · next h => exact ⟨.inl, fun hx => hx.elim id fun hx => le_trans hx (le_of_not_lt ha hb h)⟩

/-- The smaller one of two finite coordinates is finite. -/
theorem isFinite_smaller {a b : R} (ha : IsFinite a) (hb : IsFinite b) :
    IsFinite (smaller a b) := by
  rw [smaller]
  split <;> assumption

theorem isFinite_larger {a b : R} (ha : IsFinite a) (hb : IsFinite b) : IsFinite (larger a b) := by
  rw [larger]
  split <;> assumption

/-- The smallest of some coordinates is at most another one iff one of them is. -/
theorem foldl_smaller_le_iff {a x : R} {values : List R} (ha : IsFinite a)
    (hvalues : ∀ b ∈ values, IsFinite b) :
    values.foldl smaller a ≤ x ↔ ∃ b ∈ a :: values, b ≤ x := by
  induction values generalizing a with
  | nil => simp
  | cons b values ih =>
      obtain ⟨hb, hvalues⟩ := List.forall_mem_cons.mp hvalues
      rw [List.foldl_cons, ih (isFinite_smaller ha hb) hvalues]
      simp only [List.exists_mem_cons_iff, smaller_le_iff ha hb, or_assoc]

/-- A coordinate is at most the largest of some others iff it is at most one of them. -/
theorem le_foldl_larger_iff {a x : R} {values : List R} (ha : IsFinite a)
    (hvalues : ∀ b ∈ values, IsFinite b) :
    x ≤ values.foldl larger a ↔ ∃ b ∈ a :: values, x ≤ b := by
  induction values generalizing a with
  | nil => simp
  | cons b values ih =>
      obtain ⟨hb, hvalues⟩ := List.forall_mem_cons.mp hvalues
      rw [List.foldl_cons, ih (isFinite_larger ha hb) hvalues]
      simp only [List.exists_mem_cons_iff, le_larger_iff ha hb, or_assoc]

/-- Whether both coordinates of a point are finite. -/
def Point.IsFinite (p : Point R) : Prop :=
  Coordinates.IsFinite p.lon ∧ Coordinates.IsFinite p.lat

/-- **The bounding box by its vertices**, in whatever order and however often they come. -/
theorem Polygon.contains_bounds_iff [DecidableLE R] {p : Polygon R}
    (h : ∀ v ∈ p.vertices, v.IsFinite) (q : Point R) :
    p.bounds.contains q = true ↔
      ((∃ v ∈ p.vertices, v.lon ≤ q.lon) ∧ ∃ v ∈ p.vertices, q.lon ≤ v.lon) ∧
        (∃ v ∈ p.vertices, v.lat ≤ q.lat) ∧ ∃ v ∈ p.vertices, q.lat ≤ v.lat := by
  rcases p with ⟨_ | ⟨first, rest⟩, hthree⟩
  · cases hthree
  · obtain ⟨⟨hlon, hlat⟩, hrest⟩ := List.forall_mem_cons.mp h
    have hlons : ∀ x ∈ rest.map Point.lon, IsFinite x :=
      List.forall_mem_map.mpr fun v hv => (hrest v hv).1
    have hlats : ∀ x ∈ rest.map Point.lat, IsFinite x :=
      List.forall_mem_map.mpr fun v hv => (hrest v hv).2
    have hbounds : (Polygon.mk (first :: rest) hthree).bounds =
      rest.foldl BoundingBox.extend ⟨first.lon, first.lon, first.lat, first.lat⟩ := rfl
    rw [hbounds, BoundingBox.foldl_extend, BoundingBox.contains]
    simp only [Bool.and_eq_true, decide_eq_true_eq, foldl_smaller_le_iff hlon hlons,
      le_foldl_larger_iff hlon hlons, foldl_smaller_le_iff hlat hlats,
      le_foldl_larger_iff hlat hlats, ← List.map_cons, List.mem_map, exists_exists_and_eq_and]

end Bounds

end GeoPlacement
