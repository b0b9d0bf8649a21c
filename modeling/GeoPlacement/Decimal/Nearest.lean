import GeoPlacement.Decimal.Literal

/-!
# The double nearest to a decimal

`nearestBits num den` is the bit pattern of the double nearest to the rational `num / den`, a
tie going to the even pattern. It is computed in natural numbers: the place of the last binary
digit is chosen first (never below the smallest subnormal), the quotient is rounded there, and
the pattern of a rounded quotient `m` at place `q` is `(q + 1074) · 2 ^ 52 + m`, which also
carries a round-up into the next binade and into infinity.
-/

namespace GeoPlacement

/-- The quotient `num / den` rounded to the nearest natural number, a tie to the even one. -/
def roundHalfEven (num den : Nat) : Nat :=
  let quotient := num / den
  let twice := 2 * (num % den)
  if twice < den || (twice == den && quotient % 2 == 0) then quotient else quotient + 1

/-- `num · 2 ^ shift / den` as a numerator and a denominator, for a shift of either sign. -/
def scaleBinary (num den : Nat) (shift : Int) : Nat × Nat :=
  if shift < 0 then (num, den <<< shift.natAbs) else (num <<< shift.natAbs, den)

/-- The pattern of positive infinity, one above the pattern of the largest finite double. -/
def infinityBits : Nat := 0x7FF0000000000000

/-- The binary exponent of the positive rational `num / den`: the `e` with
`2 ^ e ≤ num / den < 2 ^ (e + 1)`. -/
def binaryExponent (num den : Nat) : Int :=
  let guess : Int := (num.log2 : Int) - den.log2
  let (n, d) := scaleBinary num den (-guess)
  if n < d then guess - 1 else guess

/-- The bit pattern of the double nearest to `num / den`. -/
def nearestBits (num den : Nat) : Nat :=
  if num = 0 then
    0
  else
    let place := max (binaryExponent num den - 52) (-1074)
    let (n, d) := scaleBinary num den (-place)
    min (((place + 1074).toNat <<< 52) + roundHalfEven n d) infinityBits

namespace Decimal

/-- The pattern of the literal's magnitude. Literals far outside the range of a double are
answered without computing the power of ten: a value of 310 digits or more before the point is
infinite, one that starts more than 330 places after the point is zero. -/
def magnitudeBits (d : Decimal) : Nat :=
  let n := d.digits
  let places : Int := (Nat.toDigits 10 n).length + d.scale
  if n = 0 || places < -330 then
    0
  else if 310 < places then
    infinityBits
  else if d.scale < 0 then
    nearestBits n (Nat.pow 10 d.scale.natAbs)
  else
    nearestBits (n * Nat.pow 10 d.scale.natAbs) 1

/-- The double with the given magnitude pattern and sign. -/
def signed (negative : Bool) (magnitude : Nat) : Float :=
  let value := Float.ofBits magnitude.toUInt64
  if negative then -value else value

/-- The double **nearest** to the literal. -/
def nearest (d : Decimal) : Float :=
  signed d.negative d.magnitudeBits

end Decimal

/-- The power of ten as a double, correctly rounded. -/
def powerOfTen (exponent : Nat) : Float :=
  Decimal.signed false (if exponent ≤ 309 then nearestBits (Nat.pow 10 exponent) 1 else infinityBits)

/-- The double that a numeral denotes. -/
def Numeral.toFloat : Numeral → Float
  | .undefined => 0.0 / 0.0
  | .infinite negative => Decimal.signed negative infinityBits
  | .finite literal => literal.nearest

/-- The double written by a free-standing numeral. -/
def parseDouble? (text : String) : Option Float :=
  (Numeral.read? text).map Numeral.toFloat

end GeoPlacement
