import GeoPlacement.Decimal.Nearest
import Mathlib

/-!
# Doubles that are not infinite

A double is computed by unpacking its bits, working on a mantissa and an exponent, and packing the
result, which makes it infinite where its exponent is too large. This module follows the exponents.
What is unpacked fits (`Doubles.fits_unpack`), what fits is packed without becoming infinite
(`Doubles.isInf_unpack_pack`), and rounding raises the exponent no further than the binary digits of
the mantissa reach (`Doubles.fits_roundWithAccuracy`). So whole numbers of 64 bits are not infinite,
and dividing by a power of ten does not lead to an infinite number.

Nothing is said here of the numbers that doubles stand for. That a number is finite, infinite or
neither is all that matters for whether it can lie between two others.

## Main results

* `isFinite_neg`, `isInf_neg`: a sign makes no number infinite or finite.
* `isInf_toFloat`: whole numbers of 64 bits are not infinite.
* `isInf_div_powerOfTen`: nor are quotients by the powers of ten after the first.
* `not_le_and_le_of_not_finite`: what is not finite is not between numbers that are not infinite.
-/

namespace GeoPlacement

open Float.Model (Format UnpackedFloat totalExponent)
open Float.Model.UnpackedFloat

namespace Doubles

/-- The largest exponent of a finite double. -/
def maxExponent : Int := 971

/-- Whether an unpacked number stays what it is when it is packed: it does unless its exponent is
too large for a double. -/
def Fits : UnpackedFloat → Prop
  | .finite _ _ exponent _ => exponent ≤ maxExponent
  | _ => True

/-! ### Packing -/

/-- The exponent field of a double that is not finite. -/
def allOnes : BitVec Format.binary64.exponentBits := -1#_

/-- A double is finite iff its exponent field is not all ones. -/
theorem isFinite_unpack_iff {bits : BitVec Format.binary64.numBits} :
    (unpack Format.binary64 bits).isFinite = true ↔ unpackExponent bits ≠ allOnes := by
  rw [unpack]
  split
  · next hones =>
    refine iff_of_false ?_ fun hne => hne hones
    split <;> simp [isFinite]
  · next hones =>
    refine iff_of_true ?_ hones
    split
    · split <;> rfl
    · rfl

/-- A double is infinite iff its exponent field is all ones and its mantissa field is zero. -/
theorem isInf_unpack_iff {bits : BitVec Format.binary64.numBits} :
    (unpack Format.binary64 bits).isInf = true ↔
      unpackExponent bits = allOnes ∧ unpackMantissa bits = 0#_ := by
  rw [unpack]
  split
  · next hones =>
    split
    · next hzero => exact iff_of_true rfl ⟨hones, hzero⟩
    · next hzero => exact iff_of_false (by simp [isInf]) fun h => hzero h.2
  · next hones =>
    refine iff_of_false ?_ fun h => hones h.1
    split
    · split <;> simp [isInf]
    · simp [isInf]

/-- An unpacked number fits, and there is room for fifty-three binary digits above its exponent. -/
theorem bounds_unpack {bits : BitVec Format.binary64.numBits} {sign : Sign} {mantissa : Nat}
    {exponent : Int} {hpos : 0 < mantissa}
    (h : unpack Format.binary64 bits = .finite sign mantissa exponent hpos) :
    mantissa < 2 ^ 53 ∧ exponent ≤ maxExponent := by
  have hbias : (Format.exponentBias Format.binary64 +
      Format.binary64.mantissaBitsWithoutImplicit : Int) = 1075 := by
    decide
  rw [unpack, hbias] at h
  dsimp only at h
  split at h
  · split at h <;> cases h
  · next hones =>
    have hne : (unpackExponent bits).toNat ≠ 2047 := fun hvalue =>
      hones (BitVec.eq_of_toNat_eq (hvalue.trans (by decide)))
    have hlt : (unpackExponent bits).toNat < 2048 := (unpackExponent bits).isLt
    have hmantissa : (unpackMantissa bits).toNat < 2 ^ 52 := (unpackMantissa bits).isLt
    split at h
    · split at h
      · cases h
      · next hzero _ =>
        obtain ⟨-, rfl, rfl⟩ := UnpackedFloat.finite.inj h
        have hnone : (unpackExponent bits).toNat = 0 := by
          rw [hzero]
          rfl
        rw [maxExponent, hnone]
        exact ⟨Nat.lt_trans hmantissa (by decide), by decide⟩
    · obtain ⟨-, rfl, rfl⟩ := UnpackedFloat.finite.inj h
      have himplicit : (1#1 ++ unpackMantissa bits).toNat < 2 ^ 53 :=
        (1#1 ++ unpackMantissa bits).isLt
      rw [maxExponent]
      omega

/-- **What is unpacked fits.** -/
theorem fits_unpack (bits : BitVec Format.binary64.numBits) :
    Fits (unpack Format.binary64 bits) := by
  cases h : unpack Format.binary64 bits with
  | finite sign mantissa exponent hpos => exact (bounds_unpack h).2
  | _ => trivial

/-- A number that fits does so with the other sign. -/
theorem fits_neg {f : UnpackedFloat} (h : Fits f) : Fits f.neg := by
  cases f <;> exact h

/-- The exponent field of a number that fits is all ones iff the number is not finite. -/
theorem unpackExponent_pack_eq_iff {f : UnpackedFloat} (h : Fits f) :
    unpackExponent (pack Format.binary64 f) = allOnes ↔ f.isFinite = false := by
  cases f with
  | infinity sign => simp [pack, packedInfinity, allOnes, isFinite]
  | notANumber => simp [pack, packedNaN, allOnes, isFinite]
  | zero sign =>
      rw [pack, packedZero, unpackExponent_packComponents]
      exact iff_of_false (by decide) (by simp [isFinite])
  | finite sign mantissa exponent hpos =>
      refine iff_of_false ?_ (by simp [isFinite])
      have hfits : exponent ≤ 971 := h
      have hbiased : (exponent + Format.binary64.exponentBias +
          Format.binary64.mantissaBitsWithoutImplicit).toNat + 1 < 2048 := by
        change (exponent + 1023 + 52).toNat + 1 < 2048
        omega
      rw [pack]
      dsimp only
      rw [if_neg (Nat.not_le.mpr hbiased)]
      split
      · rw [unpackExponent_packComponents]
        intro hones
        have hvalue := congrArg BitVec.toNat hones
        have hmax : allOnes.toNat = 2047 := by decide
        rw [BitVec.toNat_ofNat, Nat.mod_eq_of_lt (Nat.lt_of_succ_lt hbiased)] at hvalue
        omega
      · rw [unpackExponent_packComponents]
        decide

/-- The mantissa field of a number that is not finite is zero iff the number is infinite. -/
theorem unpackMantissa_pack_eq_iff {f : UnpackedFloat} (h : f.isFinite = false) :
    unpackMantissa (pack Format.binary64 f) = 0#_ ↔ f.isInf = true := by
  cases f with
  | infinity sign =>
      rw [pack, packedInfinity, unpackMantissa_packComponents]
      exact iff_of_true rfl rfl
  | notANumber =>
      rw [pack, packedNaN, unpackMantissa_packComponents]
      exact iff_of_false (by decide) (by simp [isInf])
  | zero sign => cases h
  | finite sign mantissa exponent hpos => cases h

/-- What fits is finite once it is packed iff it was before. -/
theorem isFinite_unpack_pack {f : UnpackedFloat} (h : Fits f) :
    (unpack Format.binary64 (pack Format.binary64 f)).isFinite = f.isFinite := by
  rw [Bool.eq_iff_iff, isFinite_unpack_iff, ne_eq, unpackExponent_pack_eq_iff h,
    Bool.not_eq_false]

/-- What fits is infinite once it is packed iff it was before. -/
theorem isInf_unpack_pack {f : UnpackedFloat} (h : Fits f) :
    (unpack Format.binary64 (pack Format.binary64 f)).isInf = f.isInf := by
  rw [Bool.eq_iff_iff, isInf_unpack_iff, unpackExponent_pack_eq_iff h]
  constructor
  · rintro ⟨hfinite, hzero⟩
    exact (unpackMantissa_pack_eq_iff hfinite).mp hzero
  · intro hinf
    have hfinite : f.isFinite = false := by
      cases f <;> first | rfl | cases hinf
    exact ⟨hfinite, (unpackMantissa_pack_eq_iff hfinite).mpr hinf⟩

/-! ### Rounding -/

/-- Shifting a mantissa divides it by a power of two. -/
theorem mantissa_shiftRight (extended : ExtendedMantissa) (amount : Nat) :
    (extended >>> amount).mantissa = extended.mantissa / 2 ^ amount := by
  change (amount.repeat ExtendedMantissa.shiftRightOne extended).mantissa = _
  induction amount with
  | zero => simp [Nat.repeat]
  | succ amount ih =>
      rw [Nat.repeat, ExtendedMantissa.shiftRightOne, ih, Nat.div_div_eq_div_mul, ← Nat.pow_succ]

/-- How accurate a mantissa is does not change it. -/
theorem mantissa_ofMantissaAndAccuracy (mantissa : Nat) (accuracy : Accuracy) :
    (ExtendedMantissa.ofMantissaAndAccuracy mantissa accuracy).mantissa = mantissa := by
  rcases accuracy with _ | (_ | _ | _) <;> rfl

/-- Rounding adds one at most. -/
theorem roundedMantissa_le (extended : ExtendedMantissa) :
    extended.roundedMantissa ≤ extended.mantissa + 1 := by
  rw [ExtendedMantissa.roundedMantissa]
  rcases extended.accuracy with _ | (_ | _ | _) <;>
    simp only [Accuracy.roundToNearestEven] <;> omega

/-- One more makes one binary digit more at most. -/
theorem log2_le_log2_add_one {n k : Nat} (h : k ≤ n + 1) : k.log2 ≤ n.log2 + 1 := by
  rcases Nat.eq_zero_or_pos k with rfl | hk
  · simp
  · have hn := @Nat.lt_log2_self n
    have hlt : k.log2 < n.log2 + 1 + 1 := by
      rw [Nat.log2_lt (Nat.ne_of_gt hk), Nat.pow_succ]
      omega
    omega

/-- Binary digits that are shifted out are gone. -/
theorem log2_div_two_pow_add_le {n amount : Nat} (h : n / 2 ^ amount ≠ 0) :
    (n / 2 ^ amount).log2 + amount ≤ n.log2 := by
  have hn : n ≠ 0 := by
    rintro rfl
    exact h (Nat.zero_div _)
  rw [Nat.le_log2 hn, Nat.pow_add]
  calc 2 ^ (n / 2 ^ amount).log2 * 2 ^ amount
      ≤ n / 2 ^ amount * 2 ^ amount := Nat.mul_le_mul_right _ (Nat.log2_self_le h)
    _ ≤ n := Nat.div_mul_le_self ..

/-- A shift to the left adds binary digits. -/
theorem log2_shiftLeft_le (n amount : Nat) : (n <<< amount).log2 ≤ n.log2 + amount := by
  rcases Nat.eq_zero_or_pos n with rfl | hn
  · simp
  · have hne : n * 2 ^ amount ≠ 0 := Nat.mul_ne_zero (Nat.ne_of_gt hn) (by simp)
    have hlt : (n * 2 ^ amount).log2 < n.log2 + 1 + amount := by
      rw [Nat.log2_lt hne, Nat.pow_add]
      exact Nat.mul_lt_mul_of_pos_right Nat.lt_log2_self (Nat.two_pow_pos amount)
    rw [Nat.shiftLeft_eq]
    omega

/-- Rounding leaves fifty-three binary digits, and fewer only below the smallest exponent. -/
theorem targetExponent_eq (total : Int) :
    Format.binary64.targetExponent total = max (total - 53) (-1074) :=
  rfl

/-- Shifting raises the exponent to its target. No binary digit is gained, except that the last one
stands at the exponent. -/
theorem bounds_shiftToTargetExponent (mantissa : Nat) (exponent : Int) (accuracy : Accuracy) :
    (shiftToTargetExponent Format.binary64 mantissa exponent accuracy).2 =
        max exponent (max (totalExponent mantissa exponent - 53) (-1074)) ∧
      totalExponent (shiftToTargetExponent Format.binary64 mantissa exponent accuracy).1.mantissa
          (shiftToTargetExponent Format.binary64 mantissa exponent accuracy).2 ≤
        max (totalExponent mantissa exponent)
          ((shiftToTargetExponent Format.binary64 mantissa exponent accuracy).2 + 1) := by
  simp only [shiftToTargetExponent, shiftToExponent, targetExponent_eq, mantissa_shiftRight,
    mantissa_ofMantissaAndAccuracy]
  refine ⟨by omega, ?_⟩
  generalize (max (totalExponent mantissa exponent - 53) (-1074) - exponent).toNat = amount
  by_cases hnone : mantissa / 2 ^ amount = 0
  · rw [hnone]
    simp only [totalExponent, Nat.log2_zero]
    omega
  · have hdigits := log2_div_two_pow_add_le hnone
    simp only [totalExponent]
    omega

/-- **Rounding does not overflow** below the largest binade. -/
theorem fits_roundWithAccuracy {sign : Sign} {mantissa : Nat} {exponent : Int}
    {accuracy : Accuracy} (hexponent : exponent ≤ 970)
    (htotal : totalExponent mantissa exponent ≤ 1023) :
    Fits (roundWithAccuracy Format.binary64 sign mantissa exponent accuracy) := by
  obtain ⟨hshifted, hdigits⟩ := bounds_shiftToTargetExponent mantissa exponent accuracy
  rw [roundWithAccuracy]
  split
  next extended shifted heq =>
  rw [heq] at hshifted hdigits
  dsimp only at hshifted hdigits ⊢
  have hrounded := log2_le_log2_add_one (roundedMantissa_le extended)
  obtain ⟨hfinal, -⟩ := bounds_shiftToTargetExponent extended.roundedMantissa shifted .exact
  split
  · trivial
  · change _ ≤ maxExponent
    rw [hfinal, maxExponent]
    simp only [totalExponent] at *
    omega

/-! ### Conversion and division -/

/-- A whole number of 64 bits does not overflow. -/
theorem fits_ofNat {n : Nat} (h : n < 2 ^ 64) : Fits (ofNat Format.binary64 n) := by
  rw [ofNat, ofInt, UnpackedFloat.normalize]
  split
  · next hneg =>
    rw [Int.compare_eq_lt] at hneg
    omega
  · trivial
  · next hpos =>
    rw [Int.compare_eq_gt] at hpos
    rw [UnpackedFloat.round, decreaseExponent, targetExponent_eq, Int.toNat_natCast]
    generalize (0 - max (totalExponent n 0 - 53) (-1074)).toNat = amount
    refine fits_roundWithAccuracy (by omega) ?_
    have hshift := log2_shiftLeft_le n amount
    have hdigits : n.log2 < 64 := (Nat.log2_lt (by omega)).mpr h
    rw [totalExponent]
    omega

/-- Rounding does not lead to an infinite number before the result is packed. -/
theorem isInf_roundWithAccuracy (sign : Sign) (mantissa : Nat) (exponent : Int)
    (accuracy : Accuracy) :
    (roundWithAccuracy Format.binary64 sign mantissa exponent accuracy).isInf = false := by
  rw [roundWithAccuracy]
  split
  dsimp only
  split <;> rfl

/-- A quotient has the digits of the dividend without those of the divisor, and one more at most. -/
theorem log2_div_add_log2_le {n k : Nat} (h : n / k ≠ 0) : (n / k).log2 + k.log2 ≤ n.log2 := by
  have hk : k ≠ 0 := by
    rintro rfl
    exact h (Nat.div_zero n)
  have hn : n ≠ 0 := by
    rintro rfl
    exact h (Nat.zero_div k)
  rw [Nat.le_log2 hn, Nat.pow_add]
  calc 2 ^ (n / k).log2 * 2 ^ k.log2
      ≤ n / k * k := Nat.mul_le_mul (Nat.log2_self_le h) (Nat.log2_self_le hk)
    _ ≤ n := Nat.div_mul_le_self n k

/-- **A quotient of finite numbers** does not overflow if the divisor has two binary digits before
the point. -/
theorem fits_divCore {sign : Sign} {m m' : Nat} {e e' : Int} (h : totalExponent m e ≤ 1024)
    (h' : 2 ≤ totalExponent m' e') :
    Fits (roundWithAccuracy Format.binary64 sign (divCore Format.binary64 m e m' e').1
      (divCore Format.binary64 m e m' e').2.1 (divCore Format.binary64 m e m' e').2.2) := by
  simp only [divCore, targetExponent_eq]
  have hleast : min (e - e') (max (totalExponent m e - totalExponent m' e' - 53) (-1074)) ≤
      e - e' := Int.min_le_left ..
  have htarget : min (e - e') (max (totalExponent m e - totalExponent m' e' - 53) (-1074)) ≤
      969 := by omega
  generalize min (e - e') (max (totalExponent m e - totalExponent m' e' - 53) (-1074)) = target
    at hleast htarget ⊢
  refine fits_roundWithAccuracy (by omega) ?_
  have hshift := log2_shiftLeft_le m (e - e' - target).toNat
  by_cases hnone : m <<< (e - e' - target).toNat / m' = 0
  · rw [hnone, totalExponent, Nat.log2_zero]
    omega
  · have hquotient := log2_div_add_log2_le hnone
    simp only [totalExponent] at *
    omega

/-- Whether an unpacked number is finite and has two binary digits before the point. -/
def isTwoOrMore : UnpackedFloat → Bool
  | .finite _ mantissa exponent _ => 2 ≤ totalExponent mantissa exponent
  | _ => false

/-- The powers of ten by which a literal is scaled, the first one apart, are such numbers. -/
theorem isTwoOrMore_powerOfTen {k : Nat} (hpos : 0 < k) (hk : k ≤ 308) :
    isTwoOrMore (powerOfTen k).toModel.unpack = true := by
  have hall : ∀ k ∈ List.range' 1 308, isTwoOrMore (powerOfTen k).toModel.unpack = true := by
    decide +kernel
  exact hall k (List.mem_range'_1.mpr (by omega))

/-- **A quotient of doubles** is not infinite if the dividend is not and the divisor has two binary
digits before the point. -/
theorem isInf_unpack_pack_div {bits : BitVec Format.binary64.numBits} {divisor : UnpackedFloat}
    (h : (unpack Format.binary64 bits).isInf = false) (h' : isTwoOrMore divisor = true) :
    (unpack Format.binary64 (pack Format.binary64
      (div Format.binary64 (unpack Format.binary64 bits) divisor))).isInf = false := by
  suffices hquotient : Fits (div Format.binary64 (unpack Format.binary64 bits) divisor) ∧
      (div Format.binary64 (unpack Format.binary64 bits) divisor).isInf = false from
    (isInf_unpack_pack hquotient.1).trans hquotient.2
  cases divisor with
  | infinity | notANumber | zero => cases h'
  | finite sign' mantissa' exponent' hpos' =>
      cases hunpacked : unpack Format.binary64 bits with
      | notANumber => exact ⟨trivial, rfl⟩
      | zero sign => exact ⟨trivial, rfl⟩
      | infinity sign =>
          rw [hunpacked] at h
          cases h
      | finite sign mantissa exponent hpos =>
          obtain ⟨hmantissa, hexponent⟩ := bounds_unpack hunpacked
          have hdigits : mantissa.log2 < 53 := (Nat.log2_lt (Nat.ne_of_gt hpos)).mpr hmantissa
          have htotal : totalExponent mantissa exponent ≤ 1024 := by
            rw [maxExponent] at hexponent
            rw [totalExponent]
            omega
          exact ⟨fits_divCore htotal (of_decide_eq_true h'), isInf_roundWithAccuracy ..⟩

/-- A number that is not finite is not between two that are not infinite. -/
theorem not_le_and_le {f low high : UnpackedFloat} (h : f.isFinite = false)
    (hlow : low.isInf = false) (hhigh : high.isInf = false) :
    ¬ (low.le f = true ∧ f.le high = true) := by
  rintro ⟨hle, hle'⟩
  cases f with
  | zero sign => cases h
  | finite sign mantissa exponent hpos => cases h
  | notANumber => cases high <;> cases hle'
  | infinity sign =>
      cases sign with
      | positive =>
          cases high with
          | infinity => cases hhigh
          | _ => cases hle'
      | negative =>
          cases low with
          | infinity => cases hlow
          | _ => cases hle

end Doubles

/-! ### Doubles -/

section Operations

open Doubles

/-- A number is finite iff its negative is. -/
theorem isFinite_neg (x : Float) : (-x).isFinite = x.isFinite := by
  have hfits : Fits x.toModel.unpack.neg := fits_neg (fits_unpack x.toModel.toBits.toBitVec)
  refine (isFinite_unpack_pack hfits).trans ?_
  change x.toModel.unpack.neg.isFinite = x.toModel.unpack.isFinite
  cases x.toModel.unpack <;> rfl

/-- A number is infinite iff its negative is. -/
theorem isInf_neg (x : Float) : (-x).isInf = x.isInf := by
  have hfits : Fits x.toModel.unpack.neg := fits_neg (fits_unpack x.toModel.toBits.toBitVec)
  refine (isInf_unpack_pack hfits).trans ?_
  change x.toModel.unpack.neg.isInf = x.toModel.unpack.isInf
  cases x.toModel.unpack <;> rfl

/-- Whole numbers of 64 bits are not infinite. -/
theorem isInf_toFloat (n : UInt64) : n.toFloat.isInf = false := by
  refine (isInf_unpack_pack (fits_ofNat n.toNat_lt)).trans ?_
  rw [ofNat, ofInt, UnpackedFloat.normalize]
  split
  · exact isInf_roundWithAccuracy ..
  · rfl
  · exact isInf_roundWithAccuracy ..

/-- Dividing by a power of ten, the first one apart, does not lead to an infinite number. -/
theorem isInf_div_powerOfTen {x : Float} {k : Nat} (h : x.isInf = false) (hpos : 0 < k)
    (hk : k ≤ 308) : (x / powerOfTen k).isInf = false :=
  isInf_unpack_pack_div h (isTwoOrMore_powerOfTen hpos hk)

/-- A number that is not finite is not between two that are not infinite. -/
theorem not_le_and_le_of_not_finite {x low high : Float} (h : x.isFinite = false)
    (hlow : low.isInf = false) (hhigh : high.isInf = false) : ¬ (low ≤ x ∧ x ≤ high) := by
  rintro ⟨hle, hle'⟩
  refine not_le_and_le h hlow hhigh ⟨?_, ?_⟩
  · exact of_decide_eq_true hle
  · exact of_decide_eq_true hle'

end Operations

end GeoPlacement
