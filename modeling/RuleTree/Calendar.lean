/-! # The calendar

    The proleptic Gregorian calendar: which days there are, and the day and
    the time of a moment that is counted from the first day of 1970. -/

namespace RuleTree.Calendar

/-- Leap years of the Gregorian calendar, which reaches back without end. -/
def isLeapYear (year : Int) : Bool :=
  year % 4 == 0 && (year % 100 != 0 || year % 400 == 0)

/-- The number of days of a month; there is no month but 1 to 12. -/
def daysInMonth (year : Int) (month : Nat) : Nat :=
  match month with
  | 1 | 3 | 5 | 7 | 8 | 10 | 12 => 31
  | 4 | 6 | 9 | 11 => 30
  | 2 => if isLeapYear year then 29 else 28
  | _ => 0

/-- Whether there is such a day. -/
def isDay (year : Int) (month day : Nat) : Bool :=
  1 ≤ day && day ≤ daysInMonth year month

/-- A day by its year, its month from 1 to 12 and its day of the month from 1
    on. -/
structure Date where
  year : Int
  month : Nat
  day : Nat

/-- The month and the day of the month that is `n` days after the first of
    `month`, given the months that remain. -/
def monthAndDay (year : Int) : (months : Nat) → (month n : Nat) → Nat × Nat
  | 0, month, n => (month, n + 1)
  | months + 1, month, n =>
    if n < daysInMonth year month then (month, n + 1)
    else monthAndDay year months (month + 1) (n - daysInMonth year month)

/-- The number of days from the first day of year 0 to that of a year. -/
def daysBeforeYear (year : Int) : Int :=
  let y := year - 1
  365 * year + Int.fdiv y 4 - Int.fdiv y 100 + Int.fdiv y 400 + 1

/-- The days from the first day of year 0 to that of 1970. -/
def epochDay : Int := daysBeforeYear 1970

/-- The date that is `days` days after the first day of 1970.  The guess by
    the mean length of a year is the year itself or the one before it. -/
def Date.ofDays (days : Int) : Date :=
  let n := days + epochDay
  let guess := Int.fdiv ((n - 1) * 400) 146097
  let year := if daysBeforeYear (guess + 1) ≤ n then guess + 1 else guess
  let (month, day) := monthAndDay year 11 1 (n - daysBeforeYear year).toNat
  ⟨year, month, day⟩

/-- The day of the week, Sunday being 0; the first day of 1970 was a
    Thursday. -/
def weekday (days : Int) : Nat := (Int.fmod (days + 4) 7).toNat

/-- The abbreviated name of a day of the week, counted from Sunday. -/
def weekdayName (n : Nat) : String :=
  ["Sun", "Mon", "Tue", "Wed", "Thu", "Fri", "Sat"].getD n ""

/-- The abbreviated name of a month, counted from 1. -/
def monthName (month : Nat) : String :=
  ["Jan", "Feb", "Mar", "Apr", "May", "Jun", "Jul", "Aug", "Sep", "Oct", "Nov", "Dec"].getD
    (month - 1) ""

/-- A natural with at least `width` digits. -/
def padded (width n : Nat) : String :=
  let digits := toString n
  String.ofList (List.replicate (width - digits.length) '0') ++ digits

end RuleTree.Calendar
