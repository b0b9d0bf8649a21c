import GeoPlacement.Decimal.Nearest

/-!
# The fewest digits of a double

`Decimal.shortest` writes a finite double as a literal with as few digits as it takes to be nearest
to that double. Of several such literals it is the one closest to the value of the double, and of
two that are equally close the one with an even last digit.

The digits are found in natural numbers. Decimals of a given number of digits form a grid around a
value; if a point of the grid reads back as the double, so does one of the two neighbours of the
value on it. The grids are tried from one digit up, and seventeen digits always suffice.

A literal from `0.00001` up to below `1e16` has no exponent and digits on both sides of its point;
any other has one digit before the point.
-/

namespace GeoPlacement.Decimal

/-- `num · 10 ^ shift / den` as a numerator and a denominator, for a shift of either sign. -/
def scaleTen (num den : Nat) (shift : Int) : Nat × Nat :=
  let power := Nat.pow 10 shift.natAbs
  if shift < 0 then (num, den * power) else (num * power, den)

/-- The number of digits before the point of the positive rational `num / den`: the least `k` with
`num / den < 10 ^ k`. -/
def digitsBefore (num den : Nat) : Int :=
  let guess : Int := (Nat.toDigits 10 num).length - (Nat.toDigits 10 den).length
  let (n, d) := scaleTen num den (-guess)
  if n < d then guess else guess + 1

/-- The value of the pattern of a positive finite double as a numerator and a denominator. -/
def valueOfBits (bits : Nat) : Nat × Nat :=
  let place := bits >>> 52
  let rest := bits - (place <<< 52)
  if place = 0 then scaleBinary rest 1 (-1074)
  else scaleBinary (rest + (1 <<< 52)) 1 ((place : Int) - 1075)

/-- A natural number and the power of ten that scales it. -/
structure Grid where
  number : Nat
  scale : Int
deriving Repr, DecidableEq

/-- Whether the double nearest to a decimal has a pattern. -/
def Grid.readsBack (bits : Nat) (g : Grid) : Bool :=
  let (num, den) := scaleTen g.number 1 g.scale
  nearestBits num den == bits

/-- The decimal of so many digits that reads back as a pattern and is closest to its value. -/
def withDigits? (bits count : Nat) : Option Grid :=
  let (num, den) := valueOfBits bits
  let scale := digitsBefore num den - count
  let (n, d) := scaleTen num den (-scale)
  let nearest := roundHalfEven n d
  let other := if nearest = n / d then nearest + 1 else n / d
  [⟨nearest, scale⟩, ⟨other, scale⟩].find? (Grid.readsBack bits)

/-- The decimal of the fewest digits that reads back as the pattern of a positive finite double. -/
def shortestOfBits (bits : Nat) : Grid :=
  match (List.range' 1 17).findSome? (withDigits? bits) with
  | some found => found
  | none =>
    let (num, den) := valueOfBits bits
    ⟨num * Nat.pow 5 den.log2, -(den.log2 : Int)⟩

/-- Digits of which so many stand before the point, laid out with or without an exponent. -/
def layOut (negative : Bool) (digits : List (Fin 10)) (before : Int) : Decimal :=
  if 0 < before ∧ before ≤ 16 then
    let whole := digits.take before.natAbs
    let fraction := digits.drop before.natAbs
    ⟨negative, whole ++ zeros (before.natAbs - whole.length),
      if fraction.isEmpty then zeros 1 else fraction, 0⟩
  else if -5 < before ∧ before ≤ 0 then
    ⟨negative, zeros 1, zeros before.natAbs ++ digits, 0⟩
  else
    ⟨negative, digits.take 1, digits.drop 1, before - 1⟩

/-- A finite double as the **shortest** literal that reads back as it. -/
def shortest (x : Float) : Decimal :=
  let signBit := 1 <<< 63
  let pattern := x.toBits.toNat
  let negative : Bool := signBit ≤ pattern
  let bits := if negative then pattern - signBit else pattern
  if bits = 0 then
    ⟨negative, zeros 1, zeros 1, 0⟩
  else
    let g := shortestOfBits bits
    let written := (Nat.toDigits 10 g.number).filterMap digit?
    let digits := (written.reverse.dropWhile fun d => d.val == 0).reverse
    layOut negative digits (written.length + g.scale)

end GeoPlacement.Decimal
