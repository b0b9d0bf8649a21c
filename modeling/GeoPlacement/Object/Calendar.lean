/-!
# Calendar

Dates of the proleptic Gregorian calendar, which also has years before the first: the year 0 and
negative ones. Dates are moved by counting days: `Date.number` counts the days from the first of
January of the year 0, and `Date.ofNumber` is the date of a count.
-/

namespace GeoPlacement

/-- A **date**, not necessarily one that exists. -/
structure Date where
  year : Int
  month : Nat
  day : Nat
deriving Repr, DecidableEq

namespace Date

/-- Whether February of the year has 29 days. -/
def isLeap (year : Int) : Bool :=
  (year % 4 == 0 && year % 100 != 0) || year % 400 == 0

/-- The length of a month. -/
def daysIn (year : Int) (month : Nat) : Nat :=
  if month = 2 then (if isLeap year then 29 else 28)
  else if month = 4 || month = 6 || month = 9 || month = 11 then 30
  else 31

/-- Whether the date exists. -/
def isValid (d : Date) : Bool :=
  1 ≤ d.month && d.month ≤ 12 && 1 ≤ d.day && d.day ≤ daysIn d.year d.month

/-- The number of days from the first of January of the year 0 to that of a year. Each year has 365
days, and each leap year passed one more. -/
def daysBeforeYear (year : Int) : Int :=
  365 * year + (year + 3) / 4 - (year + 99) / 100 + (year + 399) / 400

/-- The number of days of a year before the first of a month. -/
def daysBeforeMonth (year : Int) (month : Nat) : Nat :=
  (List.range (month - 1)).foldl (fun days m => days + daysIn year (m + 1)) 0

/-- The number of days from the first of January of the year 0. -/
def number (d : Date) : Int :=
  daysBeforeYear d.year + (daysBeforeMonth d.year d.month + (d.day - 1) : Nat)

/-- The length of four centuries, after which the calendar repeats. -/
def cycle : Nat := 146097

/-- The month and the day of a day of the year, counted from zero. -/
def monthDay (year : Int) : (months : List Nat) → (day : Nat) → Nat × Nat
  | [], day => (12, day + 1)
  | month :: later, day =>
    if day < daysIn year month then (month, day + 1)
    else monthDay year later (day - daysIn year month)

/-- The date of a number of days. A year has 365 or 366 days, so that within four centuries the
year is the quotient by 366 or the next one. -/
def ofNumber (number : Int) : Date :=
  let cycles := number / cycle
  let days := number % cycle
  let guess := days / 366
  let year := if daysBeforeYear (guess + 1) ≤ days then guess + 1 else guess
  let (month, day) := monthDay year (List.range' 1 12) (days - daysBeforeYear year).toNat
  ⟨400 * cycles + year, month, day⟩

end Date

end GeoPlacement
