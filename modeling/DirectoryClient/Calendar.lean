/-!
# The calendar

Dates of the Gregorian calendar, extended to all years, and their distance from
the first of January 1970. A year has a row of month lengths, so the number of
a day within its year is a sum of month lengths, and the number of a year's
first day counts its leap years. Both steps can be undone: `ofDayNumber` finds
the year, then the month, then the day.
-/

namespace DirectoryClient

/-- A date with a time of day, to the second. -/
structure DateTime where
  year : Int
  month : Nat
  day : Nat
  hour : Nat
  minute : Nat
  second : Nat
  deriving DecidableEq

namespace Calendar

def isLeap (year : Int) : Bool :=
  year % 4 == 0 && (year % 100 != 0 || year % 400 == 0)

def monthLengths (year : Int) : List Nat :=
  [31, if isLeap year then 29 else 28, 31, 30, 31, 30, 31, 31, 30, 31, 30, 31]

/-- The number of days of a month, which is 0 for a month that does not exist. -/
def daysInMonth (year : Int) (month : Nat) : Nat :=
  if month = 0 then 0 else (monthLengths year).getD (month - 1) 0

/-- The number of days between the first of January of year 1 and that of
`year`, negative before. -/
def daysBeforeYear (year : Int) : Int :=
  let y := year - 1
  365 * y + y / 4 - y / 100 + y / 400

/-- The number of days of the year before the first of a month. -/
def daysBeforeMonth (year : Int) (month : Nat) : Nat :=
  ((monthLengths year).take (month - 1)).foldl (· + ·) 0

/-- The number of the first of January 1970, counted from year 1. -/
def epoch : Int := 719162

/-- The number of days from the first of January 1970 to a date. -/
def dayNumber (year : Int) (month day : Nat) : Int :=
  daysBeforeYear year + daysBeforeMonth year month + day - 1 - epoch

/-- Takes whole months off a number of days counted from 0. -/
def splitMonths (month days : Nat) : List Nat → Nat × Nat
  | [] => (month, days + 1)
  | n :: rest => if days < n then (month, days + 1) else splitMonths (month + 1) (days - n) rest

/-- The date with a given day number. The year guessed from the mean length of
a year is off by one at most. -/
def ofDayNumber (number : Int) : Int × Nat × Nat :=
  let days := number + epoch
  let guess := days * 400 / 146097 + 1
  let year :=
    if days < daysBeforeYear guess then guess - 1
    else if daysBeforeYear (guess + 1) ≤ days then guess + 1
    else guess
  let (month, day) := splitMonths 1 (days - daysBeforeYear year).toNat (monthLengths year)
  (year, month, day)

end Calendar

namespace DateTime

/-- Whether the fields name a day of the calendar and a second of that day. -/
def isValid (t : DateTime) : Bool :=
  1 ≤ t.month && t.month ≤ 12 && 1 ≤ t.day && t.day ≤ Calendar.daysInMonth t.year t.month &&
    t.hour ≤ 23 && t.minute ≤ 59 && t.second ≤ 59

/-- The number of seconds since the start of 1970, leap seconds not counted. -/
def unixSeconds (t : DateTime) : Int :=
  Calendar.dayNumber t.year t.month t.day * 86400 +
    (t.hour * 3600 + t.minute * 60 + t.second : Nat)

def ofUnixSeconds (seconds : Int) : DateTime :=
  let (year, month, day) := Calendar.ofDayNumber (seconds / 86400)
  let rest := (seconds % 86400).toNat
  ⟨year, month, day, rest / 3600, rest / 60 % 60, rest % 60⟩

end DateTime

end DirectoryClient
