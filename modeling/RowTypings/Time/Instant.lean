/-!
Instants on the Gregorian calendar, extended to all years.
-/

namespace RowTypings.Time

/-- A point in time: whole seconds since the start of 1970 in UTC, and nanoseconds. Within a leap
second the seconds stay at the second before it and the nanoseconds go on from one billion. -/
structure Instant where
  seconds : Int
  nanos : Nat
  deriving DecidableEq

def isLeapYear (year : Nat) : Bool :=
  year % 4 == 0 && (year % 100 != 0 || year % 400 == 0)

def daysInMonth (year month : Nat) : Nat :=
  match month with
  | 2 => if isLeapYear year then 29 else 28
  | 4 | 6 | 9 | 11 => 30
  | _ => 31

/-- Days from the start of year 0 to the start of `year`. -/
def daysBeforeYear (year : Nat) : Nat :=
  365 * year + (year + 3) / 4 - (year + 99) / 100 + (year + 399) / 400

/-- Days from the start of the year to the start of `month`. -/
def daysBeforeMonth (year month : Nat) : Nat :=
  (List.range (month - 1)).foldr (fun i days => daysInMonth year (i + 1) + days) 0

/-- The day as a count from the first day of 1970. -/
def dayNumber (year month day : Nat) : Int :=
  (daysBeforeYear year + daysBeforeMonth year month + day : Nat) - 1 - daysBeforeYear 1970

/-- The day of the week, Sunday being zero. -/
def weekday (year month day : Nat) : Nat :=
  ((dayNumber year month day + 4) % 7).toNat

/-- The reading of a clock: a day, a time of day and the distance from UTC in seconds. Second 60 is
a leap second, which any minute may have. -/
structure ClockReading where
  year : Nat
  month : Nat
  day : Nat
  hour : Nat
  minute : Nat
  second : Nat
  nanos : Nat
  offset : Int
  deriving DecidableEq

def ClockReading.isValid (r : ClockReading) : Bool :=
  1 ≤ r.month && r.month ≤ 12 && 1 ≤ r.day && r.day ≤ daysInMonth r.year r.month &&
    r.hour < 24 && r.minute < 60 && r.second ≤ 60 && r.offset.natAbs < 86400

/-- The instant a valid reading shows. -/
def ClockReading.instant? (r : ClockReading) : Option Instant :=
  if r.isValid then
    some
      { seconds := dayNumber r.year r.month r.day * 86400 + r.hour * 3600 + r.minute * 60 +
          min r.second 59 - r.offset
        nanos := r.nanos + (if r.second == 60 then 1000000000 else 0) }
  else none

end RowTypings.Time
