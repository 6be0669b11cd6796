import SearchRequest.Number.Decimal

/-!
# Instants of time

* `Instant` — seconds since the start of 1970 and nanoseconds.
* `CivilDate.ofDays` — the date of the Gregorian calendar that is a number of days after the
  start of 1970.
* `Instant.millis` — the text with three digits after the seconds, the rest being cut off.
* `Instant.fewest` — the text with no more groups of three digits than the fraction needs.
-/

namespace SearchRequest

/-- An instant of time. -/
structure Instant where
  /-- Whole seconds since the start of 1970. -/
  seconds : Int
  /-- Nanoseconds within the second; a leap second counts on from a thousand million. -/
  nanos : Nat
  deriving DecidableEq, Repr

/-- A date of the Gregorian calendar. -/
structure CivilDate where
  /-- The year. -/
  year : Int
  /-- The month, from one. -/
  month : Nat
  /-- The day of the month, from one. -/
  day : Nat
  deriving DecidableEq, Repr

/-- The date that is a number of days after the start of 1970.  Years are counted from the first
of March, so that a leap day is the last of its year; an era is 400 years, or 146097 days. -/
def CivilDate.ofDays (days : Int) : CivilDate :=
  let shifted := days + 719468
  let era := shifted.fdiv 146097
  let dayOfEra := (shifted - era * 146097).toNat
  let yearOfEra :=
    (dayOfEra - dayOfEra / 1460 + dayOfEra / 36524 - dayOfEra / 146096) / 365
  let dayOfYear := dayOfEra - (365 * yearOfEra + yearOfEra / 4 - yearOfEra / 100)
  let monthFromMarch := (5 * dayOfYear + 2) / 153
  let day := dayOfYear - (153 * monthFromMarch + 2) / 5 + 1
  let month := if monthFromMarch < 10 then monthFromMarch + 3 else monthFromMarch - 9
  let year : Int := yearOfEra + era * 400
  ⟨if month ≤ 2 then year + 1 else year, month, day⟩

namespace Instant

/-- A year: four digits, or a sign and at least four digits outside the years 0 to 9999. -/
def yearText (year : Int) : List Char :=
  if 0 ≤ year ∧ year ≤ 9999 then Decimal.padded 4 year.toNat
  else (if year < 0 then '-' else '+') :: Decimal.padded 4 year.natAbs

/-- The date and the time of day up to the seconds. -/
def wholeSeconds (t : Instant) : List Char :=
  let days := t.seconds.fdiv 86400
  let second := (t.seconds - days * 86400).toNat
  let date := CivilDate.ofDays days
  let leap := if 1000000000 ≤ t.nanos then 1 else 0
  yearText date.year ++ '-' :: Decimal.padded 2 date.month ++ '-' :: Decimal.padded 2 date.day ++
    'T' :: Decimal.padded 2 (second / 3600) ++ ':' :: Decimal.padded 2 (second / 60 % 60) ++
    ':' :: Decimal.padded 2 (second % 60 + leap)

/-- The text with three digits after the seconds, the rest being cut off. -/
def millis (t : Instant) : String :=
  String.ofList (t.wholeSeconds ++
    '.' :: Decimal.padded 3 (t.nanos % 1000000000 / 1000000) ++ ['Z'])

/-- The text with three, six or nine digits after the seconds, the fewest that hold the fraction,
or none when there is no fraction. -/
def fewest (t : Instant) : String :=
  let n := t.nanos % 1000000000
  let fraction :=
    if n = 0 then []
    else if n % 1000000 = 0 then '.' :: Decimal.padded 3 (n / 1000000)
    else if n % 1000 = 0 then '.' :: Decimal.padded 6 (n / 1000)
    else '.' :: Decimal.padded 9 n
  String.ofList (t.wholeSeconds ++ fraction ++ ['Z'])

end Instant

end SearchRequest
