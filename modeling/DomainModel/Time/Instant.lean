import DomainModel.Text.Digit
import DomainModel.Time.Date

/-! Instants and their texts. A text has the date, the time of day and, where seconds are not whole,
a fraction of three, six or nine digits, whichever is enough. -/

namespace DomainModel.Time

/-- An instant in universal time: seconds since the beginning of 1970, and nanoseconds on top of
them. -/
structure Instant where
  seconds : Int
  nanoseconds : Nat := 0
  deriving DecidableEq, Repr, Inhabited

namespace Instant

/-- The seconds of a day. -/
def secondsInDay : Int := 86400

/-- The date of an instant. -/
def date (instant : Instant) : Date := Date.ofDayNumber (instant.seconds / secondsInDay)

/-- The seconds since midnight. -/
def secondOfDay (instant : Instant) : Nat := (instant.seconds % secondsInDay).toNat

/-- A year has four digits; beyond them it has a sign. -/
def yearChars (year : Int) : List Char :=
  if 0 ≤ year && year ≤ 9999 then Text.paddedDigits 4 year.toNat
  else
    let digits := Text.digitChars year.natAbs
    (if year < 0 then '-' else '+') :: List.replicate (4 - digits.length) '0' ++ digits

/-- The date and the time of day, with `gap` between hours, minutes and seconds. -/
def dateTimeChars (gap : Char) (instant : Instant) : List Char :=
  let date := instant.date
  let second := instant.secondOfDay
  yearChars date.year ++ '-' :: Text.paddedDigits 2 date.month ++ '-' :: Text.paddedDigits 2 date.day ++
    'T' :: Text.paddedDigits 2 (second / 3600) ++ gap :: Text.paddedDigits 2 (second / 60 % 60) ++
    gap :: Text.paddedDigits 2 (second % 60)

/-- The fraction of a second, as short as it is exact in thousandths, millionths or billionths. -/
def fractionChars (nanoseconds : Nat) : List Char :=
  if nanoseconds == 0 then []
  else if nanoseconds % 1000000 == 0 then '.' :: Text.paddedDigits 3 (nanoseconds / 1000000)
  else if nanoseconds % 1000 == 0 then '.' :: Text.paddedDigits 6 (nanoseconds / 1000)
  else '.' :: Text.paddedDigits 9 nanoseconds

/-- The date, the time of day and the fraction of a second. -/
def clockText (instant : Instant) : String :=
  String.ofList (instant.dateTimeChars ':' ++ fractionChars instant.nanoseconds)

/-- The text of an instant with its distance from universal time. -/
def toText (instant : Instant) : String := instant.clockText ++ "+00:00"

/-- The text of an instant for the names of files: whole seconds, without colons. -/
def toFileText (instant : Instant) : String := String.ofList (instant.dateTimeChars '-' ++ ['Z'])

/-- The whole milliseconds from one instant to another. -/
def millisecondsTo (start finish : Instant) : Int :=
  ((finish.seconds - start.seconds) * 1000000000 + (finish.nanoseconds - start.nanoseconds : Int)) / 1000000

end Instant

end DomainModel.Time
