/-! Dates of the Gregorian calendar, continued before its introduction. Years are counted from
March, so that a leap day comes last: four centuries make an era, twenty-five periods of four years
a century, and only the last year of a period, of a century or of an era may differ in length. A day
number is thus written in a mixed base. -/

namespace DomainModel.Time

/-- A date. The year before year 1 is year 0. -/
structure Date where
  year : Int
  month : Nat
  day : Nat
  deriving DecidableEq, Repr

/-- The days of an era, of a century and of four years. -/
def daysInEra : Nat := 146097

/-- The days of a century that does not end an era. -/
def daysInCentury : Nat := 36524

/-- The days of a period of four years that does not end a century without a leap day. -/
def daysInPeriod : Nat := 1461

/-- The days of a year without a leap day. -/
def daysInYear : Nat := 365

/-- A day number written in eras, centuries, periods, years and days; a year begins with March. -/
structure MarchDay where
  era : Int
  century : Nat
  period : Nat
  yearOfPeriod : Nat
  /-- The days since the first of March. -/
  dayOfYear : Nat
  deriving DecidableEq, Repr

/-- Takes a day number apart; day 0 is the first of March of year 0. -/
def MarchDay.ofNumber (number : Int) : MarchDay :=
  let inEra := (number % daysInEra).toNat
  let century := min 3 (inEra / daysInCentury)
  let inCentury := inEra - century * daysInCentury
  let period := inCentury / daysInPeriod
  let inPeriod := inCentury % daysInPeriod
  let yearOfPeriod := min 3 (inPeriod / daysInYear)
  ⟨number / daysInEra, century, period, yearOfPeriod, inPeriod - yearOfPeriod * daysInYear⟩

/-- The year in which the March of the day lies. -/
def MarchDay.year (day : MarchDay) : Int :=
  400 * day.era + (100 * day.century + 4 * day.period + day.yearOfPeriod : Nat)

/-- The months since March: five months have 153 days. -/
def MarchDay.monthOfYear (day : MarchDay) : Nat := (5 * day.dayOfYear + 2) / 153

/-- The day of its month, from 1. -/
def MarchDay.dayOfMonth (day : MarchDay) : Nat := day.dayOfYear - (153 * day.monthOfYear + 2) / 5 + 1

/-- The date of the day; January and February belong to the next year. -/
def MarchDay.toDate (day : MarchDay) : Date :=
  if day.monthOfYear < 10 then ⟨day.year, day.monthOfYear + 3, day.dayOfMonth⟩
  else ⟨day.year + 1, day.monthOfYear - 9, day.dayOfMonth⟩

/-- From the first of March of year 0 to the first of January of 1970. -/
def epochDay : Int := 719468

/-- The date that lies so many days after the first of January of 1970. -/
def Date.ofDayNumber (days : Int) : Date := (MarchDay.ofNumber (days + epochDay)).toDate

end DomainModel.Time
