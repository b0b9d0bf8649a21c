/-!
# Decimal literals

A **literal** is a decimal number as it is written: a sign, the digits before and after the
point, and a power of ten. Nothing is rounded here; `Decimal.Nearest` and `Decimal.Scaled` are
two ways to turn a literal into a double, and both start from the digits kept here.

`Numeral` adds the written forms of the infinities and of the undefined value, and
`Numeral.read?` accepts exactly the free-standing texts of a numeral: no blanks, a sign of
either kind, digits on at least one side of the point.
-/

namespace GeoPlacement

/-- The digits `0` to `9` by value, `none` for every other character. -/
def digit? (c : Char) : Option (Fin 10) :=
  if h : '0' ≤ c ∧ c ≤ '9' then
    some ⟨c.toNat - '0'.toNat, by
      obtain ⟨-, hi⟩ := h
      have : c.toNat ≤ '9'.toNat := hi
      have e9 : '9'.toNat = 57 := rfl
      have e0 : '0'.toNat = 48 := rfl
      omega⟩
  else
    none

/-- Splits off the longest run of digits in front. -/
def splitDigits : List Char → List (Fin 10) × List Char
  | [] => ([], [])
  | c :: rest =>
    match digit? c with
    | none => ([], c :: rest)
    | some d =>
      let (digits, after) := splitDigits rest
      (d :: digits, after)

/-- The number that a run of digits writes, most significant digit first. -/
def natOfDigits (digits : List (Fin 10)) : Nat :=
  digits.foldl (fun value d => 10 * value + d.val) 0

/-- A **decimal literal**: `whole.fraction · 10 ^ exponent`, negated if `negative`. -/
structure Decimal where
  negative : Bool
  whole : List (Fin 10)
  fraction : List (Fin 10)
  exponent : Int
deriving Repr, DecidableEq, Inhabited

namespace Decimal

/-- A run of zeros. -/
def zeros (count : Nat) : List (Fin 10) :=
  List.replicate count ⟨0, by decide⟩

/-- The digits of both sides of the point read as one number. -/
def digits (d : Decimal) : Nat :=
  natOfDigits (d.whole ++ d.fraction)

/-- The power of ten that scales `digits`. -/
def scale (d : Decimal) : Int :=
  d.exponent - d.fraction.length

private def digitText (d : Fin 10) : Char :=
  Char.ofNat ('0'.toNat + d.val)

/-- The literal as text, with an exponent only where it is not zero. -/
def text (d : Decimal) : String :=
  (if d.negative then "-" else "") ++
    String.ofList (d.whole.map digitText) ++
    (if d.fraction.isEmpty then "" else "." ++ String.ofList (d.fraction.map digitText)) ++
    (if d.exponent = 0 then "" else "e" ++ toString d.exponent)

/-- The sign in front of a number, if any: `+` is accepted as well as `-`. -/
def splitSign : List Char → Bool × List Char
  | '-' :: rest => (true, rest)
  | '+' :: rest => (false, rest)
  | cs => (false, cs)

/-- What follows an `e`: an optional sign and at least one digit. -/
def exponent? (cs : List Char) : Option (Int × List Char) :=
  let (negative, rest) := splitSign cs
  match splitDigits rest with
  | ([], _) => none
  | (digits, after) =>
    let value : Int := natOfDigits digits
    some (if negative then -value else value, after)

end Decimal

/-- A **numeral**: a decimal literal, an infinity or the undefined value. -/
inductive Numeral
  | undefined
  | infinite (negative : Bool)
  | finite (literal : Decimal)
deriving Repr, DecidableEq

namespace Numeral

/-- Equality of two words that ignores the case of ASCII letters. -/
def sameWord (a b : List Char) : Bool :=
  a.map Char.toLower == b.map Char.toLower

/-- Reads the unsigned part of a numeral. -/
def magnitude? (negative : Bool) (cs : List Char) : Option Numeral :=
  if sameWord cs "nan".toList then
    some .undefined
  else if sameWord cs "inf".toList || sameWord cs "infinity".toList then
    some (.infinite negative)
  else
    let (whole, rest) := splitDigits cs
    let (fraction, rest) :=
      match rest with
      | '.' :: after => splitDigits after
      | _ => ([], rest)
    if whole.isEmpty && fraction.isEmpty then
      none
    else
      match rest with
      | [] => some (.finite ⟨negative, whole, fraction, 0⟩)
      | c :: after =>
        if c = 'e' || c = 'E' then
          match Decimal.exponent? after with
          | some (exponent, []) => some (.finite ⟨negative, whole, fraction, exponent⟩)
          | _ => none
        else
          none

/-- Reads a whole text as a numeral. -/
def read? (text : String) : Option Numeral :=
  let (negative, rest) := Decimal.splitSign text.toList
  magnitude? negative rest

end Numeral

end GeoPlacement
