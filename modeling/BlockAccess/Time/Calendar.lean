import BlockAccess.Time.Instant

/-!
# Calendar text

The date text of an instant: RFC 3339 in UTC with three decimals of a second, such as
`2023-11-14T22:13:20.000Z`. Days are counted in the proleptic Gregorian calendar, whose period of
400 years has 146097 days. A year outside `0 .. 9999` carries a sign and at least four digits.

Dates are only written for the years that the calendar covers, `firstYear .. lastYear`; an instant
beyond them has no date.
-/

namespace BlockAccess

/-- A day of the proleptic Gregorian calendar. -/
structure Date where
  year : Int
  month : Nat
  day : Nat
  deriving DecidableEq, Repr

namespace Date

/-- The day with the given number, day 0 being 1970-01-01.

The count is shifted to begin on the first of March of the year 0, so that a leap day is the last
day of its year; `era` numbers the periods of 400 years, `dayOfEra` the days inside one. -/
def ofDayNumber (n : Int) : Date :=
  let shifted := n + 719468
  let era := shifted.fdiv 146097
  let dayOfEra := (shifted.fmod 146097).toNat
  let yearOfEra := (dayOfEra - dayOfEra / 1460 + dayOfEra / 36524 - dayOfEra / 146096) / 365
  let dayOfYear := dayOfEra - (365 * yearOfEra + yearOfEra / 4 - yearOfEra / 100)
  let monthFromMarch := (5 * dayOfYear + 2) / 153
  let day := dayOfYear - (153 * monthFromMarch + 2) / 5 + 1
  let month := if monthFromMarch < 10 then monthFromMarch + 3 else monthFromMarch - 9
  let year := (yearOfEra : Int) + era * 400
  ⟨if month ≤ 2 then year + 1 else year, month, day⟩

/-- The first year that has dates. -/
def firstYear : Int := -262143

/-- The last year that has dates. -/
def lastYear : Int := 262142

end Date

/-- A number in decimal, filled up with zeros on the left to at least `width` digits. -/
def paddedDecimal (width n : Nat) : String :=
  let digits := toString n
  String.ofList (List.replicate (width - digits.length) '0') ++ digits

namespace Date

/-- The text of a year: four digits, or a sign and at least four digits. -/
def yearText (year : Int) : String :=
  if 0 ≤ year ∧ year ≤ 9999 then paddedDecimal 4 year.toNat
  else (if year < 0 then "-" else "+") ++ paddedDecimal 4 year.natAbs

end Date

namespace Instant

/-- The number of milliseconds in a day. -/
def millisPerDay : Int := 86400000

/-- The date of an instant, if the calendar covers it. -/
def date? (t : Instant) : Option Date :=
  let d := Date.ofDayNumber (t.toInt.fdiv millisPerDay)
  if Date.firstYear ≤ d.year ∧ d.year ≤ Date.lastYear then some d else none

/-- The RFC 3339 text of an instant; the plain millisecond count where there is no date. -/
def rfc3339 (t : Instant) : String :=
  match t.date? with
  | none => t.decimal
  | some d =>
    let ofDay := (t.toInt.fmod millisPerDay).toNat
    let seconds := ofDay / 1000
    Date.yearText d.year ++ "-" ++ paddedDecimal 2 d.month ++ "-" ++ paddedDecimal 2 d.day ++ "T"
      ++ paddedDecimal 2 (seconds / 3600) ++ ":" ++ paddedDecimal 2 (seconds / 60 % 60) ++ ":"
      ++ paddedDecimal 2 (seconds % 60) ++ "." ++ paddedDecimal 3 (ofDay % 1000) ++ "Z"

end Instant

end BlockAccess
