/-!
# The calendar

The year of a moment that is given in seconds since the start of 1970.  Years are counted from the
first of March, so that a leap day is the last day of its year: in four hundred years of that kind
there are 146097 days, and where a year begins depends on its place among them alone.
-/

namespace LocalizedMail.Calendar

/-- The days from the first of March of year zero to the first of January 1970. -/
def daysBefore1970 : Nat := 719468

/-- The number of the year within its four hundred years, for a day within them. -/
def yearOfEra (day : Nat) : Nat :=
  (day - day / 1460 + day / 36524 - day / 146096) / 365

/-- The year of a day, counted from the first of January 1970. -/
def yearOfDay (day : Nat) : Nat :=
  let n := day + daysBefore1970
  let inEra := n % 146097
  let year := yearOfEra inEra
  let dayOfYear := inEra - (365 * year + year / 4 - year / 100)
  -- January and February are the last 60 days or so of a year that begins in March
  n / 146097 * 400 + year + (if 306 ≤ dayOfYear then 1 else 0)

/-- The year of a moment, in seconds since the start of 1970, as it is written. -/
def yearOf (seconds : Nat) : String := toString (yearOfDay (seconds / 86400))

end LocalizedMail.Calendar
