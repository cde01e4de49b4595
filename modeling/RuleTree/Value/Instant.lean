import RuleTree.Calendar
/-! # Instants

    Moments in universal time, counted in nanoseconds from the beginning of
    1970, and their two texts. -/

namespace RuleTree

/-- A point of time, counted from the start of 1970. -/
structure Instant where
  nanoseconds : Int
  deriving DecidableEq

namespace Instant

/-- Whole milliseconds, rounded down. -/
def milliseconds (t : Instant) : Int := Int.fdiv t.nanoseconds 1000000

/-- Whole seconds, toward the past. -/
def seconds (t : Instant) : Int := Int.fdiv t.nanoseconds 1000000000

/-- The day, counted from the first of 1970. -/
def dayNumber (t : Instant) : Int := Int.fdiv t.seconds 86400

/-- The day on which the instant lies. -/
def date (t : Instant) : Calendar.Date := .ofDays t.dayNumber

/-- The clock as hours, minutes and seconds between colons. -/
def clockText (t : Instant) : String :=
  let s := (Int.fmod t.seconds 86400).toNat
  let two := Calendar.padded 2
  s!"{two (s / 3600)}:{two (s / 60 % 60)}:{two (s % 60)}"

/-- The year with at least four digits, and with a sign unless it has four
    digits and is not before year 0. -/
def yearText (year : Int) : String :=
  let digits := Calendar.padded 4 year.natAbs
  if year < 0 then "-" ++ digits else if 9999 < year then "+" ++ digits else digits

/-- Date and time to the millisecond in the universal zone. -/
def isoText (t : Instant) : String :=
  let d := t.date
  let two := Calendar.padded 2
  let fraction := Calendar.padded 3 (Int.fmod t.milliseconds 1000).toNat
  s!"{yearText d.year}-{two d.month}-{two d.day}T{t.clockText}.{fraction}Z"

/-- Names of the day and the month, day, year and time. -/
def longText (t : Instant) : String :=
  let d := t.date
  let day := Calendar.weekdayName (Calendar.weekday t.dayNumber)
  let monthDay := s!"{Calendar.monthName d.month} {Calendar.padded 2 d.day}"
  s!"{day} {monthDay} {yearText d.year} {t.clockText} GMT+0000 (Coordinated Universal Time)"

end Instant

end RuleTree
