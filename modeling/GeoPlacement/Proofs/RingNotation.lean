import GeoPlacement.Proofs.DoubleOrder

/-!
# Notations of a ring

One ring may be written down in many ways: from any of its vertices on, with a vertex written twice
in a row, or closed, with the first vertex again at the end. `SameRing` relates lists of vertices
that come from one another by any number of such changes. A polygon contains the same points in all
of them: its edges are the same up to their order and up to edges from a vertex to itself, which no
ray crosses, and its bounding box sees which vertices there are and not where they stand.

Nothing is asked of the arithmetic of coordinates, and of their order only that finite ones are
comparable, so that this holds of doubles as well as of exact numbers.

## Main results

* `countP_ringEdges_of_sameRing`: in all notations a ray crosses equally many edges.
* `Polygon.contains_eq_of_sameRing`: in all notations a polygon contains the same points.
-/

namespace GeoPlacement

/-- **Two notations of one ring.** -/
inductive SameRing {R : Type} : List (Point R) → List (Point R) → Prop
  | refl (vertices : List (Point R)) : SameRing vertices vertices
  | symm {vertices vertices' : List (Point R)} (h : SameRing vertices vertices') :
      SameRing vertices' vertices
  | trans {vertices vertices' vertices'' : List (Point R)} (h : SameRing vertices vertices')
      (h' : SameRing vertices' vertices'') : SameRing vertices vertices''
  /-- The ring is written from a later vertex on. -/
  | rotate (vertices : List (Point R)) (n : Nat) : SameRing vertices (vertices.rotate n)
  /-- A vertex is written twice in a row. -/
  | twice (before : List (Point R)) (v : Point R) (after : List (Point R)) :
      SameRing (before ++ v :: after) (before ++ v :: v :: after)
  /-- The first vertex is written again at the end. -/
  | close (first : Point R) (rest : List (Point R)) :
      SameRing (first :: rest) (first :: rest ++ [first])

section Notations

variable {R : Type}

/-- In all notations the ring has the same vertices. -/
theorem mem_iff_of_sameRing {vertices vertices' : List (Point R)} (h : SameRing vertices vertices')
    (v : Point R) : v ∈ vertices' ↔ v ∈ vertices := by
  induction h with
  | refl vertices => exact Iff.rfl
  | symm h ih => exact ih.symm
  | trans h h' ih ih' => exact ih'.trans ih
  | rotate vertices n => exact List.mem_rotate
  | twice before w after => simp
  | close first rest => simp [or_comm]

/-- A ring may be cut in two parts, and written with the second one first. Either part is a path
that starts where the other one ends. -/
theorem perm_ringEdges_append (before after : List (Point R)) :
    (ringEdges (after ++ before)).Perm (ringEdges (before ++ after)) := by
  cases before with
  | nil => rw [List.append_nil, List.nil_append]
  | cons b before =>
      cases after with
      | nil => rw [List.append_nil, List.nil_append]
      | cons a after =>
          rw [List.cons_append, List.cons_append, ringEdges_cons, ringEdges_cons,
            ← List.cons_append, ← List.cons_append, pathEdges_append, pathEdges_append]
          simp only [List.getLastD_eq_getLast?, List.getLast?_append, List.getLast?_cons,
            Option.some_or, Option.getD_some]
          exact List.perm_append_comm

variable [LT R] [LE R] [DecidableLT R] [DecidableLE R] [Add R] [Sub R] [Mul R] [Div R]
  [Coordinates R]

/-- No ray crosses an edge from a point to itself. -/
theorem crossedFrom_self (v q : Point R) : (Edge.mk v v).crossedFrom q = false := by
  have hnone : ¬ (v.lat < q.lat ∧ q.lat ≤ v.lat) := fun h => Coordinates.not_le_of_lt h.1 h.2
  simp [Edge.crossedFrom, Edge.straddles, hnone]

/-- A vertex that is written twice adds an edge that no ray crosses. -/
theorem countP_ringEdges_twice (v q : Point R) (points : List (Point R)) :
    (ringEdges (v :: v :: points)).countP (·.crossedFrom q) =
      (ringEdges (v :: points)).countP (·.crossedFrom q) := by
  rw [ringEdges_cons, ringEdges_cons, List.getLastD_cons, pathEdges_cons, pathEdges_cons,
    pathEdges_cons, List.countP_cons, List.countP_cons, List.countP_cons, crossedFrom_self]
  rfl

/-- **In all notations a ray crosses equally many edges.** For a vertex that is written twice, both
rings are cut before it. -/
theorem countP_ringEdges_of_sameRing {vertices vertices' : List (Point R)}
    (h : SameRing vertices vertices') (q : Point R) :
    (ringEdges vertices').countP (·.crossedFrom q) =
      (ringEdges vertices).countP (·.crossedFrom q) := by
  induction h with
  | refl vertices => rfl
  | symm h ih => exact ih.symm
  | trans h h' ih ih' => exact ih'.trans ih
  | rotate vertices n =>
      have hcut := perm_ringEdges_append (vertices.take (n % vertices.length))
        (vertices.drop (n % vertices.length))
      rw [← List.rotate_eq_drop_append_take_mod, List.take_append_drop] at hcut
      exact hcut.countP_eq _
  | twice before v after =>
      have hcut := perm_ringEdges_append before (v :: after)
      have hcut' := perm_ringEdges_append before (v :: v :: after)
      rw [← hcut.countP_eq, ← hcut'.countP_eq]
      exact countP_ringEdges_twice v q (after ++ before)
  | close first rest =>
      have hcut := perm_ringEdges_append (first :: rest) [first]
      rw [← hcut.countP_eq]
      exact countP_ringEdges_twice first q rest

/-- **In all notations a polygon contains the same points.** -/
theorem Polygon.contains_eq_of_sameRing {p p' : Polygon R} (h : SameRing p.vertices p'.vertices)
    (hfinite : ∀ v ∈ p.vertices, v.IsFinite) (q : Point R) : p'.contains q = p.contains q := by
  have hmem := mem_iff_of_sameRing h
  have hfinite' : ∀ v ∈ p'.vertices, v.IsFinite := fun v hv => hfinite v ((hmem v).mp hv)
  have hbounds : p'.bounds.contains q = p.bounds.contains q := by
    rw [Bool.eq_iff_iff, contains_bounds_iff hfinite q, contains_bounds_iff hfinite' q]
    simp only [hmem]
  have hcrossings : p'.crossings q = p.crossings q := countP_ringEdges_of_sameRing h q
  rw [contains, contains, encircles, encircles, hbounds, hcrossings]

end Notations

/-- A rectangle of doubles, two vertices of which lie on the zero meridian, either one with a zero
of its own. -/
def rectangle : Polygon Float :=
  ⟨[⟨0.0, 0.0⟩, ⟨4.5, 0.0⟩, ⟨4.5, 3.0⟩, ⟨-0.0, 3.0⟩], by decide⟩

/-- The same rectangle, closed and written from its last vertex on. -/
def rectangle' : Polygon Float :=
  ⟨[⟨-0.0, 3.0⟩, ⟨0.0, 0.0⟩, ⟨0.0, 0.0⟩, ⟨4.5, 0.0⟩, ⟨4.5, 3.0⟩], by decide⟩

/-- Both notations of the rectangle contain the same points. -/
theorem Polygon.contains_eq_of_sameRing_rectangle :
    SameRing rectangle.vertices rectangle'.vertices ∧ (∀ v ∈ rectangle.vertices, v.IsFinite) ∧
      rectangle.contains ⟨1.5, 0.5⟩ = true ∧
      ∀ q, rectangle'.contains q = rectangle.contains q := by
  have hsame : SameRing rectangle.vertices rectangle'.vertices :=
    .trans (.close _ _) (.rotate _ 3)
  have hfinite : ∀ v ∈ rectangle.vertices, v.lon.isFinite = true ∧ v.lat.isFinite = true := by
    decide +kernel
  exact ⟨hsame, hfinite, by decide +kernel, contains_eq_of_sameRing hsame hfinite⟩

end GeoPlacement
