import GeoPlacement.Proofs.RingPaths

/-!
# Crossings of a ray

Over exact numbers an edge that counts for a latitude meets it between its two ends
(`Edge.lonAt_lt`, `Edge.lt_lonAt`), so that a ray crosses it iff it meets the latitude before the
point (`Edge.crossedFrom_iff`). Along a closed ring the edges that count for a latitude are **even
in number**, since each of them changes between the vertices below the latitude and those that are
not.

Hence the bounding box decides nothing that the crossings would not decide as well. To its right a
ray crosses all the edges that count, and on the other sides none.

The crossings are counted here by going around the ring (`Polygon.encircles?`): the answer is
flipped at every edge that is crossed, and there is none once a divisor is zero.

## Main results

* `even_countP_straddles`: evenly many edges of a ring count for a latitude.
* `Polygon.encircles_of_outside`: no point outside of the bounding box is encircled.
* `Polygon.contains_eq_encircles`: the bounding box never changes the answer, and no divisor is
  zero.
-/

namespace GeoPlacement

/-! ### Edges that count for a latitude -/

section Order

variable {K : Type} [LinearOrder K] {e : Edge K} {y : K}

/-- An edge straddles a latitude iff that lies above its lower end and not above its upper one. -/
theorem Edge.straddles_iff : e.straddles y = true ↔
    e.target.lat < y ∧ y ≤ e.source.lat ∨ e.source.lat < y ∧ y ≤ e.target.lat := by
  simp only [straddles, Bool.or_eq_true, Bool.and_eq_true, decide_eq_true_eq]

/-- An edge counts for a latitude iff one of its ends is below and the other one is not. -/
theorem Edge.straddles_iff_not_iff :
    e.straddles y = true ↔ ¬ (e.source.lat < y ↔ e.target.lat < y) := by
  rw [straddles_iff]
  by_cases hs : e.source.lat < y <;> by_cases ht : e.target.lat < y <;>
    simp [hs, ht, not_lt.mp]

/-- Along a path the edges that count for a latitude are even in number iff its ends are both below
or both not. -/
theorem even_countP_straddles_path (start : Point K) (points : List (Point K)) (y : K) :
    Even ((pathEdges start points).countP (·.straddles y)) ↔
      (start.lat < y ↔ (points.getLastD start).lat < y) := by
  induction points generalizing start with
  | nil => simp
  | cons p points ih =>
      rw [pathEdges_cons, List.countP_cons, List.getLastD_cons]
      by_cases h : (Edge.mk start p).straddles y = true
      · have hchange := Edge.straddles_iff_not_iff.mp h
        rw [if_pos h, Nat.even_add_one, ih]
        tauto
      · have hsame := not_not.mp (mt Edge.straddles_iff_not_iff.mpr h)
        rw [if_neg h, Nat.add_zero, ih]
        exact (iff_congr hsame Iff.rfl).symm

/-- **Evenly many edges of a ring count for a latitude.** -/
theorem even_countP_straddles (vertices : List (Point K)) (y : K) :
    Even ((ringEdges vertices).countP (·.straddles y)) := by
  cases vertices with
  | nil => exact Even.zero
  | cons p points =>
      rw [ringEdges_cons, even_countP_straddles_path, List.getLastD_cons]

end Order

/-! ### Crossings -/

section Field

variable {K : Type} [Field K] [LinearOrder K] {e : Edge K} {q : Point K} {x y : K}

namespace Edge

/-- How far from its target an edge meets a latitude. -/
def ratio (e : Edge K) (y : K) : K :=
  (y - e.target.lat) / (e.source.lat - e.target.lat)

/-- The ends of an edge that counts for a latitude have different latitudes. -/
theorem lat_sub_ne_zero (h : e.straddles y = true) : e.source.lat - e.target.lat ≠ 0 := by
  rw [sub_ne_zero]
  rcases straddles_iff.mp h with ⟨hbelow, hnot⟩ | ⟨hbelow, hnot⟩
  · exact (hbelow.trans_le hnot).ne'
  · exact (hbelow.trans_le hnot).ne

variable [IsStrictOrderedRing K]

/-- An edge that counts for a latitude meets it between its ends. -/
theorem ratio_mem (h : e.straddles y = true) : e.ratio y ∈ Set.Icc 0 1 := by
  rw [ratio, Set.mem_Icc]
  rcases straddles_iff.mp h with ⟨hbelow, hnot⟩ | ⟨hbelow, hnot⟩
  · have hpos : 0 < e.source.lat - e.target.lat := sub_pos.mpr (hbelow.trans_le hnot)
    rw [div_le_one hpos]
    exact ⟨div_nonneg (sub_nonneg.mpr hbelow.le) hpos.le, by linarith⟩
  · have hneg : e.source.lat - e.target.lat < 0 := sub_neg.mpr (hbelow.trans_le hnot)
    rw [div_le_one_of_neg hneg]
    exact ⟨div_nonneg_of_nonpos (sub_nonpos.mpr hnot) hneg.le, by linarith⟩

/-- What is before a longitude meets every latitude before it. -/
theorem lonAt_lt (h : e.straddles y = true) (hsource : e.source.lon < x)
    (htarget : e.target.lon < x) : e.lonAt y < x :=
  (convex_Iio x).add_smul_sub_mem htarget hsource (ratio_mem h)

/-- What is after a longitude meets every latitude after it. -/
theorem lt_lonAt (h : e.straddles y = true) (hsource : x < e.source.lon)
    (htarget : x < e.target.lon) : x < e.lonAt y :=
  (convex_Ioi x).add_smul_sub_mem htarget hsource (ratio_mem h)

/-- **A ray crosses an edge** iff the edge counts for its latitude and meets it before the point.
Its ends are then not both after the point. -/
theorem crossedFrom_iff :
    e.crossedFrom q = true ↔ e.straddles q.lat = true ∧ e.lonAt q.lat < q.lon := by
  simp only [crossedFrom, Bool.and_eq_true, Bool.or_eq_true, decide_eq_true_eq]
  refine ⟨fun h => ⟨h.1.1, h.2⟩, fun h => ⟨⟨h.1, ?_⟩, h.2⟩⟩
  by_contra! hafter
  exact (lt_lonAt h.1 hafter.2 hafter.1).not_gt h.2

end Edge

/-! ### The bounding box -/

namespace Polygon

variable {p : Polygon K}

/-- A point is not encircled if no edge is crossed. -/
theorem encircles_of_forall_not (h : ∀ e ∈ ringEdges p.vertices, ¬ e.crossedFrom q = true) :
    p.encircles q = false := by
  rw [encircles, crossings, List.countP_eq_zero.mpr h]
  rfl

variable [IsStrictOrderedRing K]

/-- A ring after a point does not encircle it: its edges meet the latitude after the point. -/
theorem encircles_of_after (h : ∀ v ∈ p.vertices, q.lon < v.lon) : p.encircles q = false := by
  refine encircles_of_forall_not fun e he hcrossed => ?_
  obtain ⟨hsource, htarget⟩ := ends_of_mem_ringEdges he
  obtain ⟨hstraddles, hlt⟩ := Edge.crossedFrom_iff.mp hcrossed
  exact (Edge.lt_lonAt hstraddles (h _ hsource) (h _ htarget)).not_gt hlt

/-- Nor does a ring that is before it: all the edges that count for the latitude are crossed, and
these are evenly many. -/
theorem encircles_of_before (h : ∀ v ∈ p.vertices, v.lon < q.lon) : p.encircles q = false := by
  have hall : ∀ e ∈ ringEdges p.vertices, e.crossedFrom q = true ↔ e.straddles q.lat = true := by
    intro e he
    obtain ⟨hsource, htarget⟩ := ends_of_mem_ringEdges he
    rw [Edge.crossedFrom_iff]
    exact ⟨And.left, fun hstraddles =>
      ⟨hstraddles, Edge.lonAt_lt hstraddles (h _ hsource) (h _ htarget)⟩⟩
  have heven := even_countP_straddles p.vertices q.lat
  rw [encircles, crossings, List.countP_congr hall, Nat.even_iff.mp heven]
  rfl

/-- Nor does a ring that is above or below it: no edge counts for the latitude. -/
theorem encircles_of_not_level
    (h : ¬ ((∃ v ∈ p.vertices, v.lat ≤ q.lat) ∧ ∃ v ∈ p.vertices, q.lat ≤ v.lat)) :
    p.encircles q = false := by
  refine encircles_of_forall_not fun e he hcrossed => h ?_
  obtain ⟨hsource, htarget⟩ := ends_of_mem_ringEdges he
  obtain ⟨hstraddles, -⟩ := Edge.crossedFrom_iff.mp hcrossed
  rcases Edge.straddles_iff.mp hstraddles with ⟨hbelow, hnot⟩ | ⟨hbelow, hnot⟩
  · exact ⟨⟨_, htarget, hbelow.le⟩, _, hsource, hnot⟩
  · exact ⟨⟨_, hsource, hbelow.le⟩, _, htarget, hnot⟩

/-- **No point outside of the bounding box is encircled.** -/
theorem encircles_of_outside (h : p.bounds.contains q = false) : p.encircles q = false := by
  rw [← Bool.not_eq_true, contains_bounds_iff fun v _ => ⟨trivial, trivial⟩, not_and_or,
    not_and_or] at h
  rcases h with (h | h) | h
  · push Not at h
    exact encircles_of_after h
  · push Not at h
    exact encircles_of_before h
  · exact encircles_of_not_level h

/-- Being in the bounding box goes without saying. -/
theorem contains_eq : p.contains q = p.encircles q := by
  rw [contains]
  cases hbounds : p.bounds.contains q with
  | true => rw [Bool.true_and]
  | false => rw [encircles_of_outside hbounds, Bool.and_false]

end Polygon

/-! ### Going around the ring -/

/-- A quotient, unless the divisor is zero. -/
def quotient? (a b : K) : Option K :=
  if b = 0 then none else some (a / b)

/-- Whether the ray from a point crosses an edge, unless a divisor is zero. -/
def Edge.crossedFrom? (e : Edge K) (q : Point K) : Option Bool :=
  if e.straddles q.lat && (e.target.lon ≤ q.lon || e.source.lon ≤ q.lon) then
    (quotient? (q.lat - e.target.lat) (e.source.lat - e.target.lat)).map fun ratio =>
      e.target.lon + ratio * (e.source.lon - e.target.lon) < q.lon
  else
    some false

/-- Goes along a path and flips the answer at every edge that is crossed. -/
def flips? (q : Point K) : Point K → Bool → List (Point K) → Option Bool
  | _, isOdd, [] => some isOdd
  | previous, isOdd, current :: rest =>
    ((Edge.mk previous current).crossedFrom? q).bind fun isCrossed =>
      flips? q current (xor isOdd isCrossed) rest

/-- Whether a ring encircles a point, found out by going around it from its last vertex. -/
def Polygon.encircles? (p : Polygon K) (q : Point K) : Option Bool :=
  p.vertices.getLast?.bind fun last => flips? q last false p.vertices

/-- No divisor is zero. -/
theorem Edge.crossedFrom?_eq : e.crossedFrom? q = some (e.crossedFrom q) := by
  rw [crossedFrom?, crossedFrom]
  split
  · next h =>
    rw [Bool.and_eq_true] at h
    rw [quotient?, if_neg (lat_sub_ne_zero h.1), Option.map_some, h.1, h.2]
    rfl
  · next h => rw [eq_false_of_ne_true h, Bool.false_and]

/-- One more flips the parity. -/
theorem isOdd_add_ite (n : Nat) (isOneMore : Bool) :
    ((n + if isOneMore = true then 1 else 0) % 2 == 1) = xor isOneMore (n % 2 == 1) := by
  cases isOneMore with
  | false => simp
  | true => rcases Nat.mod_two_eq_zero_or_one n with h | h <;> simp [Nat.add_mod, h]

/-- Along a path the answer is flipped as often as edges are crossed. -/
theorem flips?_eq (start : Point K) (isOdd : Bool) (points : List (Point K)) :
    flips? q start isOdd points =
      some (xor isOdd ((pathEdges start points).countP (·.crossedFrom q) % 2 == 1)) := by
  induction points generalizing start isOdd with
  | nil => simp [flips?]
  | cons p points ih =>
      rw [flips?, Edge.crossedFrom?_eq, Option.bind_some, ih, pathEdges_cons, List.countP_cons,
        isOdd_add_ite, Bool.xor_assoc]

/-- **Going around the ring** comes to the parity of the crossings. -/
theorem Polygon.encircles?_eq {p : Polygon K} : p.encircles? q = some (p.encircles q) := by
  rcases p with ⟨_ | ⟨first, rest⟩, hthree⟩
  · cases hthree
  · rw [encircles?, List.getLast?_cons, Option.bind_some, flips?_eq, Bool.false_xor, encircles,
      crossings, ringEdges_cons, List.getLastD_eq_getLast?]

end Field

/-- **The bounding box never changes the answer** for a ring and a point with exact coordinates, and
the crossings of the ring are found without any division by zero. -/
theorem Polygon.contains_eq_encircles (p : Polygon ℚ) (q : Point ℚ) :
    p.contains q = p.encircles q ∧ p.encircles? q = some (p.encircles q) :=
  ⟨contains_eq, encircles?_eq⟩

end GeoPlacement
