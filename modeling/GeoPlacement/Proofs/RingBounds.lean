import GeoPlacement.Geo.Ring
import GeoPlacement.Proofs.FiniteDoubles
import GeoPlacement.Proofs.RoundTrip

/-!
# Rings contain finite points only

The coordinates of a ring are read digit by digit, scaled by powers of ten, and given up where the
result is infinite. This module shows that none of those that are kept is infinite, by whatever way
it was scaled. The bounding box of a ring then has no infinite side, and so the ring contains no
point of which a coordinate is infinite or undefined.

## Main results

* `Decimal.isInf_of_scaled?`, `isInf_of_scaledInt?`: a scaled number is not infinite.
* `Ring.notInfinite_of_read?`: nor is a vertex of a ring.
* `Ring.isFinite_of_contains`: a ring contains finite points only.
-/

namespace GeoPlacement

/-! ### The coordinates of rings -/

namespace Scaled

/-- Shrinking a number that is not infinite never makes it so, and it never uses up the deficit. -/
theorem isInf_shrink {value : Float} {deficit : Nat} (h : value.isInf = false)
    (hpos : 0 < deficit) :
    (shrink value deficit).1.isInf = false ∧ 0 < (shrink value deficit).2 := by
  induction value, deficit using shrink.induct with
  | case1 value deficit hdone =>
      rw [shrink, if_pos hdone]
      exact ⟨h, hpos⟩
  | case2 value deficit hmore ih =>
      have hlarge : 308 < deficit := by
        simp only [Bool.or_eq_true, decide_eq_true_eq, not_or] at hmore
        omega
      rw [shrink, if_neg hmore]
      exact ih (isInf_div_powerOfTen h (by decide) (by decide)) (by omega)

/-- A scaled number has no infinite value. -/
theorem isInf_of_value? {s : Scaled} {value : Float} (h : s.value? = some value) :
    value.isInf = false := by
  have hstart := isInf_toFloat s.significand.toUInt64
  rw [value?] at h
  dsimp only at h
  split at h
  · next hneg =>
    obtain ⟨hshrunk, hpos⟩ := isInf_shrink hstart (Int.natAbs_pos.mpr (Int.ne_of_lt hneg))
    split at h
    · obtain rfl := Option.some.inj h
      exact hshrunk
    · next hsmall =>
      obtain rfl := Option.some.inj h
      exact isInf_div_powerOfTen hshrunk hpos (Nat.not_lt.mp hsmall)
  · split at h
    · split at h
      · cases h
      · next hfinite =>
        obtain rfl := Option.some.inj h
        exact eq_false_of_ne_true hfinite
    · split at h
      · obtain rfl := Option.some.inj h
        exact hstart
      · cases h

/-- Nor has the magnitude of a literal. -/
theorem isInf_of_magnitude? {d : Decimal} {value : Float} (h : magnitude? d = some value) :
    value.isInf = false := by
  rw [magnitude?] at h
  split at h
  · exact isInf_of_value? h
  · split at h
    · cases h
    · obtain rfl := Option.some.inj h
      decide +kernel

end Scaled

/-- Nor has a literal with its sign. -/
theorem Decimal.isInf_of_scaled? {d : Decimal} {value : Float} (h : d.scaled? = some value) :
    value.isInf = false := by
  obtain ⟨magnitude, hmagnitude, rfl⟩ := Option.map_eq_some_iff.mp h
  have hinf := Scaled.isInf_of_magnitude? hmagnitude
  split
  · rw [isInf_neg, hinf]
  · exact hinf

/-- Nor has a whole number. -/
theorem isInf_of_scaledInt? {i : Int} {value : Float} (h : scaledInt? i = some value) :
    value.isInf = false := by
  rw [scaledInt?] at h
  split at h
  · obtain rfl := Option.some.inj h
    exact isInf_toFloat _
  · split at h
    · obtain rfl := Option.some.inj h
      rw [isInf_neg]
      exact isInf_toFloat _
    · exact Decimal.isInf_of_scaled? h

/-- Whether neither coordinate of a point is infinite. -/
def Point.NotInfinite (p : Point Float) : Prop :=
  p.lon.isInf = false ∧ p.lat.isInf = false

namespace Ring

/-- A coordinate is read as a number that is not infinite. -/
theorem isInf_of_coordinate? {item : Json} {value : Float} (h : coordinate? item = some value) :
    value.isInf = false := by
  cases item with
  | int written => exact isInf_of_scaledInt? h
  | decimal literal => exact Decimal.isInf_of_scaled? h
  | _ => cases h

/-- So are all coordinates of a ring. -/
theorem isInf_of_coordinates? {text : String} {raw : List (List Float)}
    (h : coordinates? text = some raw) : ∀ item ∈ raw, ∀ x ∈ item, x.isInf = false := by
  obtain ⟨json, -, hraw⟩ := Option.bind_eq_some_iff.mp h
  obtain ⟨items, -, hitems⟩ := Option.bind_eq_some_iff.mp hraw
  intro item hitem x hx
  obtain ⟨inner, hinner⟩ := Json.exists_of_mem_mapM hitems hitem
  obtain ⟨coordinates, -, hcoordinates⟩ := Option.bind_eq_some_iff.mp hinner
  obtain ⟨written, hwritten⟩ := Json.exists_of_mem_mapM hcoordinates hx
  exact isInf_of_coordinate? hwritten

/-- Points are not infinite whose coordinates are not. -/
theorem notInfinite_of_points {raw : List (List Float)} {index : Nat}
    {vertices : List (Point Float)} (hraw : ∀ item ∈ raw, ∀ x ∈ item, x.isInf = false)
    (h : points index raw = .ok vertices) : ∀ p ∈ vertices, p.NotInfinite := by
  induction raw generalizing index vertices with
  | nil =>
      obtain rfl := Except.ok.inj h
      exact fun p hp => absurd hp List.not_mem_nil
  | cons item rest ih =>
      rcases item with _ | ⟨lon, _ | ⟨lat, more⟩⟩
      · cases h
      · cases h
      · rw [points] at h
        cases hlater : points (index + 1) rest with
        | error error =>
            rw [hlater] at h
            cases h
        | ok later =>
            rw [hlater] at h
            obtain rfl := Except.ok.inj h
            have hitem := hraw _ List.mem_cons_self
            refine List.forall_mem_cons.mpr ⟨⟨hitem lon (by simp), hitem lat (by simp)⟩, ?_⟩
            exact ih (fun item hitem => hraw item (List.mem_cons_of_mem _ hitem)) hlater

/-- **The vertices of a ring** that was read are not infinite. -/
theorem notInfinite_of_read? {text : String} {area : Polygon Float} (h : read? text = .ok area) :
    ∀ p ∈ area.vertices, p.NotInfinite := by
  rw [read?] at h
  split at h
  · cases h
  · next raw hraw =>
    have hnone := isInf_of_coordinates? hraw
    rw [ofCoordinates] at h
    split at h
    · cases h
    · cases hvertices : points 0 raw with
      | error error =>
          rw [hvertices] at h
          cases h
      | ok vertices =>
          rw [hvertices] at h
          dsimp only [bind, Except.bind] at h
          split at h
          · obtain rfl := Except.ok.inj h
            exact notInfinite_of_points hnone hvertices
          · cases h

end Ring

/-- Whether no side of a box is infinite. -/
structure BoundingBox.NotInfinite (box : BoundingBox Float) : Prop where
  minLon : box.minLon.isInf = false
  maxLon : box.maxLon.isInf = false
  minLat : box.minLat.isInf = false
  maxLat : box.maxLat.isInf = false

namespace BoundingBox

/-- The smaller one of two numbers is infinite only if one of them is. -/
theorem isInf_smaller {a b : Float} (ha : a.isInf = false) (hb : b.isInf = false) :
    (smaller a b).isInf = false := by
  rw [smaller]
  split <;> assumption

/-- So is the larger one. -/
theorem isInf_larger {a b : Float} (ha : a.isInf = false) (hb : b.isInf = false) :
    (larger a b).isInf = false := by
  rw [larger]
  split <;> assumption

/-- A box stays within finite bounds when it takes in a point that is not infinite. -/
theorem NotInfinite.extend {box : BoundingBox Float} {p : Point Float} (h : box.NotInfinite)
    (hp : p.NotInfinite) : (box.extend p).NotInfinite :=
  ⟨isInf_smaller h.minLon hp.1, isInf_larger h.maxLon hp.1, isInf_smaller h.minLat hp.2,
    isInf_larger h.maxLat hp.2⟩

/-- So it does when it takes in many of them. -/
theorem notInfinite_foldl {rest : List (Point Float)} (hrest : ∀ p ∈ rest, p.NotInfinite)
    {box : BoundingBox Float} (h : box.NotInfinite) : (rest.foldl extend box).NotInfinite := by
  induction rest generalizing box with
  | nil => exact h
  | cons p rest ih =>
      obtain ⟨hp, hrest⟩ := List.forall_mem_cons.mp hrest
      exact ih hrest (h.extend hp)

/-- A box with no infinite side contains finite points only. -/
theorem NotInfinite.isFinite_of_contains {box : BoundingBox Float} {p : Point Float}
    (h : box.NotInfinite) (hp : box.contains p = true) :
    p.lon.isFinite = true ∧ p.lat.isFinite = true := by
  simp only [contains, Bool.and_eq_true, decide_eq_true_eq] at hp
  obtain ⟨hlon, hlat⟩ := hp
  constructor
  · by_contra hinfinite
    exact not_le_and_le_of_not_finite (eq_false_of_ne_true hinfinite) h.minLon h.maxLon hlon
  · by_contra hinfinite
    exact not_le_and_le_of_not_finite (eq_false_of_ne_true hinfinite) h.minLat h.maxLat hlat

end BoundingBox

/-- **A ring contains finite points only.** -/
theorem Ring.isFinite_of_contains {text : String} {area : Polygon Float} {p : Point Float}
    (h : read? text = .ok area) (hp : area.contains p = true) :
    p.lon.isFinite = true ∧ p.lat.isFinite = true := by
  have hvertices := notInfinite_of_read? h
  have hbounds : area.bounds.NotInfinite := by
    rcases area with ⟨_ | ⟨first, rest⟩, hthree⟩
    · cases hthree
    · obtain ⟨hfirst, hrest⟩ := List.forall_mem_cons.mp hvertices
      exact BoundingBox.notInfinite_foldl hrest ⟨hfirst.1, hfirst.1, hfirst.2, hfirst.2⟩
  rw [Polygon.contains, Bool.and_eq_true] at hp
  exact hbounds.isFinite_of_contains hp.1

end GeoPlacement
