import GeoPlacement.Decimal.Literal

/-!
# Counts

Natural numbers as they are written in settings and in resource versions: an optional plus sign
and at least one digit, leading zeros allowed, below a bound.
-/

namespace GeoPlacement

/-- Reads a count below a bound. -/
def readCount? (bound : Nat) (text : String) : Option Nat :=
  let digits :=
    match text.toList with
    | '+' :: rest => rest
    | cs => cs
  match splitDigits digits with
  | ([], _) => none
  | (ds, []) => if natOfDigits ds < bound then some (natOfDigits ds) else none
  | (_, _ :: _) => none

end GeoPlacement
