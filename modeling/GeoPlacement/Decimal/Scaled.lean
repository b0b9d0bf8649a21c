import GeoPlacement.Decimal.Nearest

/-!
# Scaled decimals

The numbers of a polygon ring are not rounded to the nearest double. A literal is first cut to
a **significand** that fits 64 bits together with a power of ten, and the two are combined by
one multiplication or division of doubles. `Scaled.ofLiteral` is the cut, `Scaled.value?` the
combination; a value that would be infinite has none.
-/

namespace GeoPlacement

/-- A significand below `2 ^ 64` and the power of ten that scales it. -/
structure Scaled where
  significand : Nat
  exponent : Int
deriving Repr, DecidableEq

namespace Scaled

/-- Appends a digit unless the significand would no longer fit 64 bits. -/
def push? (significand : Nat) (d : Fin 10) : Option Nat :=
  let next := significand * 10 + d.val
  if next < UInt64.size then some next else none

/-- Takes digits before the point while they fit; each of the others only adds a power of ten. -/
def takeWhole (significand : Nat) : List (Fin 10) → Scaled
  | [] => ⟨significand, 0⟩
  | d :: rest =>
    match push? significand d with
    | some next => takeWhole next rest
    | none => ⟨significand, (rest.length + 1 : Nat)⟩

/-- Takes digits after the point, each one power of ten less, up to the first that does not
fit. -/
def takeFraction (s : Scaled) : List (Fin 10) → Scaled
  | [] => s
  | d :: rest =>
    match push? s.significand d with
    | some next => takeFraction ⟨next, s.exponent - 1⟩ rest
    | none => s

/-- The bounds of a 32-bit exponent. -/
def maxExponent : Int := 2147483647

/-- Adds an exponent, staying within 32 bits. -/
def addExponent (s : Scaled) (exponent : Int) : Scaled :=
  { s with exponent := max (-maxExponent - 1) (min maxExponent (s.exponent + exponent)) }

/-- Divides by `10 ^ 308` while the exponent is below `-308`. Zero stays zero, so the scaling
ends there at once. -/
def shrink (value : Float) (deficit : Nat) : Float × Nat :=
  if deficit ≤ 308 || value == 0 then
    (value, deficit)
  else
    shrink (value / powerOfTen 308) (deficit - 308)
termination_by deficit
decreasing_by simp_all; omega

/-- The significand scaled in doubles, `none` if that is infinite. -/
def value? (s : Scaled) : Option Float :=
  let start := s.significand.toUInt64.toFloat
  if s.exponent < 0 then
    let (value, deficit) := shrink start s.exponent.natAbs
    if 308 < deficit then some value else some (value / powerOfTen deficit)
  else if s.exponent ≤ 308 then
    let value := start * powerOfTen s.exponent.natAbs
    if value.isInf then none else some value
  else if start == 0 then
    some start
  else
    none

/-- The cut of a literal's digits, before its written exponent. -/
def ofDigits (d : Decimal) : Scaled :=
  takeFraction (takeWhole 0 d.whole) d.fraction

/-- The magnitude of a literal. An exponent that does not fit 32 bits makes the value zero,
except that a positive one over a significand other than zero has no value. -/
def magnitude? (d : Decimal) : Option Float :=
  let cut := ofDigits d
  if d.exponent.natAbs ≤ maxExponent.natAbs then
    (cut.addExponent d.exponent).value?
  else if 0 < d.exponent && cut.significand ≠ 0 then
    none
  else
    some 0

end Scaled

/-- The double of a literal with a fraction or an exponent, or of an integer too long for 64
bits. -/
def Decimal.scaled? (d : Decimal) : Option Float :=
  (Scaled.magnitude? d).map fun value => if d.negative then -value else value

/-- The digits of an integer as a literal. -/
def Decimal.ofInt (value : Int) : Decimal where
  negative := value < 0
  whole := (Nat.toDigits 10 value.natAbs).filterMap digit?
  fraction := []
  exponent := 0

/-- The double of a written integer: converted as it is where it fits 64 bits (signed if
negative), scaled otherwise. -/
def scaledInt? (value : Int) : Option Float :=
  if 0 ≤ value && value < UInt64.size then
    some value.toNat.toUInt64.toFloat
  else if value < 0 && Int64.minValue.toInt ≤ value then
    some (-value.natAbs.toUInt64.toFloat)
  else
    (Decimal.ofInt value).scaled?

end GeoPlacement
