import GeoPlacement.Decimal.Literal
import GeoPlacement.Object.Calendar

/-!
# Timestamps

Objects carry points in time as texts. `Timestamp.instant?` reads such a text as a number of
seconds from the beginning of 1970, and `Timestamp.canonical?` gives the form in which it is written
back: in UTC, to the second, with the letter `Z`.

## What is read

A date, one of the letters `T`, `t` and the blank, a time of day, the offset of the time from UTC,
and annotations in brackets.

- The year has four digits, or a sign and six. Month and day have two digits each, after hyphens or
  all without.
- Of a time and of an offset, the minutes may be left out, or only the seconds. The parts have two
  digits each, after colons or all without, and seconds may have a fraction of up to nine digits
  after a point or a comma. A time of 60 seconds is read as 59.
- An offset has a sign, or it is `Z` or `z`. A fraction of half a second or more counts as a second.
- The first bracket may hold a time zone, by name or by offset. The others hold a key, an equals
  sign and values. Nothing of it matters to the point in time.
-/

namespace GeoPlacement.Timestamp

/-! ### Numbers in front of a text -/

/-- A fixed number of digits. -/
def number? (width : Nat) (cs : List Char) : Option (Nat × List Char) :=
  let (front, rest) := cs.splitAt width
  if front.length = width then
    (front.mapM digit?).map fun digits => (natOfDigits digits, rest)
  else
    none

/-- Two digits up to a bound. -/
def pair? (bound : Nat) (cs : List Char) : Option (Nat × List Char) :=
  (number? 2 cs).filter fun found => found.1 ≤ bound

/-- One of some expected characters. -/
def mark? (expected : List Char) : List Char → Option (List Char)
  | [] => none
  | c :: rest => if c ∈ expected then some rest else none

/-- A fraction of a second, which may be missing. -/
def fraction? : List Char → Option (List (Fin 10) × List Char)
  | [] => some ([], [])
  | c :: rest =>
    if c = '.' || c = ',' then
      match splitDigits rest with
      | ([], _) => none
      | (digits, after) => if digits.length ≤ 9 then some (digits, after) else none
    else
      some ([], c :: rest)

/-! ### Dates -/

/-- A year: four digits, or a sign and six. The year 0 has no minus sign. -/
def year? : List Char → Option (Int × List Char)
  | '+' :: rest => (number? 6 rest).map fun (year, after) => (year, after)
  | '-' :: rest =>
    match number? 6 rest with
    | some (year, after) => if year = 0 then none else some (-year, after)
    | none => none
  | cs => (number? 4 cs).map fun (year, after) => (year, after)

/-- A date that exists, in one of the years from -9999 to 9999. -/
def date? (cs : List Char) : Option (Date × List Char) := do
  let (year, rest) ← year? cs
  let hyphen : List Char → Option (List Char) :=
    if rest.head? = some '-' then mark? ['-'] else some
  let (month, rest) ← number? 2 (← hyphen rest)
  let (day, rest) ← number? 2 (← hyphen rest)
  let date : Date := ⟨year, month, day⟩
  if date.isValid && year.natAbs ≤ 9999 then some (date, rest) else none

/-! ### Times and offsets -/

/-- A length of time in its parts. -/
structure Span where
  hours : Nat
  minutes : Nat := 0
  seconds : Nat := 0
  /-- The digits of a fraction of a second. -/
  fraction : List (Fin 10) := []

/-- The whole seconds of a span. -/
def Span.total (s : Span) : Nat :=
  s.hours * 3600 + s.minutes * 60 + s.seconds

/-- Whether the fraction of a span is half a second or more. -/
def Span.hasHalf (s : Span) : Bool :=
  s.fraction.head?.any fun d => 5 ≤ d.val

/-- The next part of a span, which may be missing. -/
def part? (extended : Bool) (bound : Nat) (cs : List Char) : Option (Option Nat × List Char) :=
  let found (cs : List Char) : Option (Option Nat × List Char) :=
    (pair? bound cs).map fun (value, after) => (some value, after)
  match extended, cs with
  | true, ':' :: rest => found rest
  | true, _ => some (none, cs)
  | false, _ => if (number? 2 cs).isSome then found cs else some (none, cs)

/-- A span up to the given hours and seconds, in parts after colons or all without. -/
def span? (maxHours maxSeconds : Nat) (cs : List Char) : Option (Span × List Char) := do
  let (hours, rest) ← pair? maxHours cs
  let extended := rest.head? == some ':'
  let (minutes, rest) ← part? extended 59 rest
  match minutes with
  | none => some ({ hours }, rest)
  | some minutes => do
    let (seconds, rest) ← part? extended maxSeconds rest
    match seconds with
    | none => some ({ hours, minutes }, rest)
    | some seconds => do
      let (fraction, rest) ← fraction? rest
      some ({ hours, minutes, seconds, fraction }, rest)

/-- A time of day in seconds. -/
def time? (cs : List Char) : Option (Nat × List Char) :=
  (span? 23 60 cs).map fun (time, rest) => ({ time with seconds := min time.seconds 59 }.total, rest)

/-- The greatest offset in seconds, one second less than 26 hours. -/
def maxOffset : Nat := 93599

/-- The length of an offset in seconds. -/
def offsetLength? (cs : List Char) : Option (Nat × List Char) := do
  let (offset, rest) ← span? 25 59 cs
  let length := offset.total + (if offset.hasHalf then 1 else 0)
  if length ≤ maxOffset then some (length, rest) else none

/-- An offset from UTC in seconds. -/
def offset? : List Char → Option (Int × List Char)
  | 'Z' :: rest | 'z' :: rest => some (0, rest)
  | '+' :: rest => (offsetLength? rest).map fun (length, after) => ((length : Int), after)
  | '-' :: rest => (offsetLength? rest).map fun (length, after) => (-(length : Int), after)
  | _ => none

/-! ### Annotations -/

/-- The contents of the brackets of which a text consists. -/
def brackets? (cs : List Char) : Option (List (List Char)) :=
  let step : List (List Char) × Option (List Char) → Char →
      Option (List (List Char) × Option (List Char))
    | (done, none), c => if c = '[' then some (done, some []) else none
    | (done, some content), c =>
      if c = ']' then some (content.reverse :: done, none) else some (done, some (c :: content))
  match cs.foldlM step ([], none) with
  | some (done, none) => some done.reverse
  | some (_, some _) | none => none

/-- Whether a text has a first character of one kind and others of another. -/
def isWord (isFirst isLater : Char → Bool) : List Char → Bool
  | [] => false
  | c :: rest => isFirst c && rest.all isLater

/-- Whether a text is a part of the name of a time zone. -/
def isZonePart : List Char → Bool :=
  let isFirst (c : Char) : Bool := c.isAlpha || c == '_' || c == '.'
  isWord isFirst fun c => isFirst c || c.isDigit || c == '+' || c == '-'

/-- Whether a text is an offset without seconds. -/
def isZoneOffset (cs : List Char) : Bool :=
  match span? 25 59 cs with
  | some (_, rest) => rest.isEmpty && cs.length ≤ 5
  | none => false

/-- Whether the content of a bracket is a time zone, which an exclamation mark may point out. -/
def isZone (content : List Char) : Bool :=
  let zone := if content.head? = some '!' then content.tail else content
  match zone with
  | '+' :: offset | '-' :: offset => isZoneOffset offset
  | name => (name.splitOn '/').all isZonePart

/-- Whether the content of a bracket is a key with values. -/
def isKeyed (content : List Char) : Bool :=
  let isFirst (c : Char) : Bool := c.isLower || c == '_'
  match content.splitOn '=' with
  | [key, values] =>
    isWord isFirst (fun c => isFirst c || c.isDigit || c == '-') key &&
      (values.splitOn '-').all (isWord Char.isAlphanum Char.isAlphanum)
  | _ => false

/-- Whether a text consists of annotations. -/
def isAnnotated (cs : List Char) : Bool :=
  match brackets? cs with
  | none => false
  | some [] => true
  | some (first :: others) => (isZone first || isKeyed first) && others.all isKeyed

/-! ### Points in time -/

/-- The number of the first day of 1970. -/
def epoch : Int := Date.number ⟨1970, 1, 1⟩

/-- The first point in time that is read. From the first moment of the year -9999 it is as far as
the greatest offset, so that it stays within that year whatever the offset. -/
def earliest : Int := -377705023201

/-- The last point in time that is read, as far from the end of the year 9999. -/
def latest : Int := 253402207200

/-- The **point in time** of a timestamp in seconds from the beginning of 1970. -/
def instant? (text : String) : Option Int := do
  let (date, rest) ← date? text.toList
  let rest ← mark? ['T', 't', ' '] rest
  let (time, rest) ← time? rest
  let (offset, rest) ← offset? rest
  let instant := (date.number - epoch) * 86400 + time - offset
  if isAnnotated rest && earliest ≤ instant && instant ≤ latest then some instant else none

/-- A number with at least the given count of digits. -/
def padded (width value : Nat) : String :=
  let digits := Nat.toDigits 10 value
  String.ofList (List.replicate (width - digits.length) '0' ++ digits)

/-- A year with at least four characters, of which a minus sign is one. -/
def yearText (year : Int) : String :=
  if year < 0 then "-" ++ padded 3 year.natAbs else padded 4 year.natAbs

/-- A point in time as it is written. -/
def text (instant : Int) : String :=
  let date := Date.ofNumber (instant / 86400 + epoch)
  let clock := (instant % 86400).toNat
  s!"{yearText date.year}-{padded 2 date.month}-{padded 2 date.day}T{padded 2 (clock / 3600)}:{
    padded 2 (clock / 60 % 60)}:{padded 2 (clock % 60)}Z"

/-- The **canonical form** of a timestamp. -/
def canonical? (s : String) : Option String :=
  (instant? s).map text

end GeoPlacement.Timestamp
