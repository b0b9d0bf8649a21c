import GeoPlacement.Proofs.RingPaths

/-!
# The order of doubles

Doubles are compared by their sign, then by their exponent and then by their mantissa. So each
double has a **rank** in a linear order, except for what is no number, which is not comparable with
anything. The two zeros are different doubles of one rank.

## Main results

* `Doubles.lt_iff_rank`, `Doubles.le_iff_rank`: doubles are compared by their ranks.
* `instCoordinatesFloat`: doubles are coordinates, of which those that are finite are comparable.
-/

namespace GeoPlacement

open Float.Model (UnpackedFloat)
open Float.Model.UnpackedFloat

namespace Doubles

/-- Where a number stands in the order: by its sign and kind, then by its exponent, then by its
mantissa. What is no number stands nowhere. -/
def rank : UnpackedFloat → Option (ℤ ×ₗ ℤ ×ₗ ℤ)
  | .infinity .negative => some (toLex (-2, toLex (0, 0)))
  | .finite .negative mantissa exponent _ => some (toLex (-1, toLex (-exponent, -mantissa)))
  | .zero _ => some (toLex (0, toLex (0, 0)))
  | .finite .positive mantissa exponent _ => some (toLex (1, toLex (exponent, mantissa)))
  | .infinity .positive => some (toLex (2, toLex (0, 0)))
  | .notANumber => none

section Magnitude

variable {e e' : ℤ} {m m' : ℕ}

/-- Magnitudes are compared by their exponents, and by their mantissas if those are equal. -/
theorem then_eq_lt_iff :
    (compare e e').then (compare m m') = .lt ↔ e < e' ∨ e = e' ∧ m < m' := by
  simp only [Ordering.then_eq_lt, Int.compare_eq_lt, Int.compare_eq_eq, Nat.compare_eq_lt]

/-- The same comparison from the other side. -/
theorem then_eq_gt_iff :
    (compare e e').then (compare m m') = .gt ↔ e' < e ∨ e = e' ∧ m' < m := by
  simp only [Ordering.then_eq_gt, Int.compare_eq_gt, Int.compare_eq_eq, Nat.compare_eq_gt]

/-- A magnitude is at most another one if its exponent is smaller, or equal and its mantissa at most
the other. -/
theorem isLE_then_iff :
    ((compare e e').then (compare m m')).isLE = true ↔ e < e' ∨ e = e' ∧ m ≤ m' := by
  simp only [Ordering.isLE_then_iff_or, Int.compare_eq_lt, Int.compare_eq_eq, Nat.isLE_compare]

/-- The same comparison from the other side. -/
theorem isGE_then_iff :
    ((compare e e').then (compare m m')).isGE = true ↔ e' < e ∨ e = e' ∧ m' ≤ m := by
  rw [← Ordering.isLE_swap, Ordering.swap_then, Int.compare_swap, Nat.compare_swap, isLE_then_iff,
    eq_comm]

end Magnitude

/-- **A number is smaller** than another one iff its rank is. Only for two finite numbers of one
sign is there more to compare than their kinds and signs. -/
theorem lt_iff_rank (f g : UnpackedFloat) :
    f.lt g = true ↔ ∃ i ∈ rank f, ∃ j ∈ rank g, i < j := by
  rcases f with (_ | _) | _ | _ | ⟨_ | _, m, e, _⟩ <;>
    rcases g with (_ | _) | _ | _ | ⟨_ | _, m', e', _⟩ <;>
    simp [rank, UnpackedFloat.lt, UnpackedFloat.compare, Prod.Lex.toLex_lt_toLex, then_eq_lt_iff,
      then_eq_gt_iff]
  rfl

/-- **A number is at most** another one iff its rank is. -/
theorem le_iff_rank (f g : UnpackedFloat) :
    f.le g = true ↔ ∃ i ∈ rank f, ∃ j ∈ rank g, i ≤ j := by
  rcases f with (_ | _) | _ | _ | ⟨_ | _, m, e, _⟩ <;>
    rcases g with (_ | _) | _ | _ | ⟨_ | _, m', e', _⟩ <;>
    simp [rank, UnpackedFloat.le, UnpackedFloat.compare, Prod.Lex.toLex_le_toLex, isLE_then_iff,
      isGE_then_iff] <;>
    rfl

/-- A finite number has a rank. -/
theorem exists_rank_of_isFinite {f : UnpackedFloat} (h : f.isFinite = true) : ∃ i, i ∈ rank f := by
  cases f with
  | infinity sign => cases h
  | notANumber => cases h
  | zero sign => exact ⟨_, rfl⟩
  | finite sign mantissa exponent hpos => cases sign <;> exact ⟨_, rfl⟩

end Doubles

open Doubles

/-- Doubles are compared by the ranks of what they are unpacked to. -/
theorem Doubles.lt_iff {a b : Float} :
    a < b ↔ ∃ i ∈ rank a.toModel.unpack, ∃ j ∈ rank b.toModel.unpack, i < j :=
  decide_eq_true_iff.trans (lt_iff_rank _ _)

/-- So they are where equality is allowed. -/
theorem Doubles.le_iff {a b : Float} :
    a ≤ b ↔ ∃ i ∈ rank a.toModel.unpack, ∃ j ∈ rank b.toModel.unpack, i ≤ j :=
  decide_eq_true_iff.trans (le_iff_rank _ _)

/-- **Doubles are coordinates**, and those that are finite are comparable. -/
instance instCoordinatesFloat : Coordinates Float where
  IsFinite x := x.isFinite = true
  le_of_lt h := by
    obtain ⟨i, hi, j, hj, hlt⟩ := lt_iff.mp h
    exact le_iff.mpr ⟨i, hi, j, hj, hlt.le⟩
  not_le_of_lt h h' := by
    obtain ⟨i, hi, j, hj, hlt⟩ := lt_iff.mp h
    obtain ⟨j', hj', i', hi', hle⟩ := le_iff.mp h'
    obtain rfl := Option.mem_unique hi hi'
    obtain rfl := Option.mem_unique hj hj'
    exact absurd hlt hle.not_gt
  le_trans h h' := by
    obtain ⟨i, hi, j, hj, hle⟩ := le_iff.mp h
    obtain ⟨j', hj', k, hk, hle'⟩ := le_iff.mp h'
    obtain rfl := Option.mem_unique hj hj'
    exact le_iff.mpr ⟨i, hi, k, hk, hle.trans hle'⟩
  le_of_not_lt ha hb h := by
    obtain ⟨i, hi⟩ := exists_rank_of_isFinite ha
    obtain ⟨j, hj⟩ := exists_rank_of_isFinite hb
    refine le_iff.mpr ⟨j, hj, i, hi, not_lt.mp fun hlt => h ?_⟩
    exact lt_iff.mpr ⟨i, hi, j, hj, hlt⟩

end GeoPlacement
