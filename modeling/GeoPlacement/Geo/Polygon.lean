/-!
# Polygons

A polygon is a closed ring of at least three vertices; the edge from the last vertex back to the
first is implied. A point lies inside if it lies in the ring's **bounding box** and a ray from
it towards smaller longitudes crosses the ring an **odd number of times**. An edge counts for a
latitude that is above one of its ends and not above the other, so a vertex on the ray belongs to
exactly one of its two edges.

The definitions work over any type with an order and the four operations of arithmetic: they are
run on doubles and reasoned about on exact numbers.
-/

namespace GeoPlacement

/-- A position by longitude and latitude. -/
structure Point (R : Type) where
  lon : R
  lat : R
deriving Repr, DecidableEq, Inhabited

/-- The smallest and largest coordinates of a ring. -/
structure BoundingBox (R : Type) where
  minLon : R
  maxLon : R
  minLat : R
  maxLat : R
deriving Repr, DecidableEq

/-- A directed edge of a ring. -/
structure Edge (R : Type) where
  source : Point R
  target : Point R
deriving Repr, DecidableEq

section Order

variable {R : Type} [LT R] [DecidableLT R]

/-- The smaller of two coordinates, the first of equal ones. -/
def smaller (a b : R) : R := if b < a then b else a

/-- The larger of two coordinates, the first of equal ones. -/
def larger (a b : R) : R := if a < b then b else a

namespace BoundingBox

/-- Widens the box to a point. -/
def extend (box : BoundingBox R) (p : Point R) : BoundingBox R where
  minLon := smaller box.minLon p.lon
  maxLon := larger box.maxLon p.lon
  minLat := smaller box.minLat p.lat
  maxLat := larger box.maxLat p.lat

/-- The box around a point and the points after it. -/
def around (first : Point R) (rest : List (Point R)) : BoundingBox R :=
  rest.foldl extend ⟨first.lon, first.lon, first.lat, first.lat⟩

/-- Whether a point lies in the box or on its border. -/
def contains [LE R] [DecidableLE R] (box : BoundingBox R) (p : Point R) : Bool :=
  (box.minLon ≤ p.lon && p.lon ≤ box.maxLon) && (box.minLat ≤ p.lat && p.lat ≤ box.maxLat)

end BoundingBox

namespace Edge

variable [LE R] [DecidableLE R]

/-- Whether a latitude is above one end of the edge and not above the other. -/
def straddles (e : Edge R) (lat : R) : Bool :=
  (e.target.lat < lat && lat ≤ e.source.lat) || (e.source.lat < lat && lat ≤ e.target.lat)

variable [Add R] [Sub R] [Mul R] [Div R]

/-- The longitude at which the line through the edge meets a latitude. -/
def lonAt (e : Edge R) (lat : R) : R :=
  e.target.lon +
    (lat - e.target.lat) / (e.source.lat - e.target.lat) * (e.source.lon - e.target.lon)

/-- Whether the ray from a point towards smaller longitudes crosses the edge. -/
def crossedFrom (e : Edge R) (p : Point R) : Bool :=
  e.straddles p.lat && (e.target.lon ≤ p.lon || e.source.lon ≤ p.lon) && e.lonAt p.lat < p.lon

end Edge

end Order

/-- The edges of a closed ring, each vertex being the target of one; the first edge closes the
ring. -/
def ringEdges {R : Type} (vertices : List (Point R)) : List (Edge R) :=
  match vertices.getLast? with
  | none => []
  | some last => (last :: vertices).zipWith Edge.mk vertices

/-- A **polygon**: a closed ring of at least three vertices. -/
structure Polygon (R : Type) where
  vertices : List (Point R)
  three_le : 3 ≤ vertices.length

namespace Polygon

variable {R : Type} [LT R] [DecidableLT R]

/-- The bounding box of the ring. -/
def bounds (p : Polygon R) : BoundingBox R :=
  match h : p.vertices with
  | first :: rest => BoundingBox.around first rest
  | [] => absurd p.three_le (by simp [h])

variable [LE R] [DecidableLE R] [Add R] [Sub R] [Mul R] [Div R]

/-- The number of edges that the ray from a point towards smaller longitudes crosses. -/
def crossings (p : Polygon R) (q : Point R) : Nat :=
  (ringEdges p.vertices).countP (·.crossedFrom q)

/-- Whether the ray from a point crosses the ring an odd number of times. -/
def encircles (p : Polygon R) (q : Point R) : Bool :=
  p.crossings q % 2 == 1

/-- Whether a point lies **inside** the polygon. -/
def contains (p : Polygon R) (q : Point R) : Bool :=
  p.bounds.contains q && p.encircles q

end Polygon

end GeoPlacement
