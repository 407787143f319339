import DomainModel.Constraint.Numeral
import DomainModel.Text.Split

/-! The form of TOML numbers, dates and times. A scalar is a word of its own; nothing is known of it
beyond whether it is well formed and in range. -/

namespace DomainModel.Toml

/-- The characters that words are made of. -/
def isWordChar (c : Char) : Bool :=
  c.isAlphanum || c == '+' || c == '-' || c == '_' || c == '.' || c == ':'

/-- Digits, with single underscores between them at most. -/
def isGrouped (isDigit : Char → Bool) (s : List Char) : Bool :=
  (Text.splitAt '_' s).all fun digits => !digits.isEmpty && digits.all isDigit

/-- Drops a sign. -/
def unsigned : List Char → List Char
  | '+' :: rest => rest
  | '-' :: rest => rest
  | s => s

/-- A decimal number without a point: no zero leads another digit. -/
def isDecimal (s : List Char) : Bool :=
  match unsigned s with
  | ['0'] => true
  | '0' :: _ => false
  | digits => isGrouped Char.isDigit digits

/-- A run of digits without its underscores. -/
def ungroup (s : List Char) : List Char := s.filter (· != '_')

/-- A whole number in another base; it must not exceed the greatest signed number of 64 bits. -/
def isBased (base : Nat) (s : List Char) : Bool :=
  isGrouped (fun c => (Text.valueInBase? base [c]).isSome) s && (Text.valueInBase? base (ungroup s)).any (· < Nat.pow 2 63)

/-- A whole number of 64 bits. -/
def isInteger : List Char → Bool
  | '0' :: 'x' :: digits => isBased 16 digits
  | '0' :: 'o' :: digits => isBased 8 digits
  | '0' :: 'b' :: digits => isBased 2 digits
  | s => isDecimal s && Numeral.isInteger64 (String.ofList (ungroup s))

/-- An exponent after its letter. -/
def isExponent (s : List Char) : Bool := isGrouped Char.isDigit (unsigned s)

/-- Whether a letter announces an exponent. -/
def marksExponent (c : Char) : Bool := c == 'e' || c == 'E'

/-- The digits before an exponent: a decimal number, with a fraction or not. -/
def isMantissa (s : List Char) : Bool :=
  match Text.splitAt '.' s with
  | [whole] => isDecimal whole
  | [whole, fraction] => isDecimal whole && isGrouped Char.isDigit fraction
  | _ => false

/-- A number with a fraction, an exponent or both. -/
def hasFloatForm (s : List Char) : Bool :=
  let mantissa := s.takeWhile (!marksExponent ·)
  isMantissa mantissa &&
    match s.dropWhile (!marksExponent ·) with
    | [] => mantissa.contains '.'
    | _ :: exponent => isExponent exponent

/-- A number whose nearest double is finite, or that is below zero. -/
def isInRange (s : List Char) : Bool :=
  match Numeral.parse? (ungroup s) with
  | some n => n.negative || n.isFinite
  | none => false

/-- A double, infinity and its like included. -/
def isFloat (s : List Char) : Bool :=
  (hasFloatForm s && isInRange s) || unsigned s == ['i', 'n', 'f'] || unsigned s == ['n', 'a', 'n']

/-- A number of as many decimal digits as asked for. -/
def digits? (width : Nat) (s : List Char) : Option Nat :=
  if s.length == width && s.all Char.isDigit then some (Text.digitsValue s) else none

/-- Whether a text has two digits for a number no greater than `most`. -/
def isUpTo (most : Nat) (s : List Char) : Bool := (digits? 2 s).any (· ≤ most)

/-- A leap year: every fourth, of the centuries every fourth. -/
def isLeapYear (year : Nat) : Bool := year % 4 == 0 && (year % 100 != 0 || year % 400 == 0)

/-- The days of a month. -/
def daysInMonth (year month : Nat) : Nat :=
  if month == 2 then if isLeapYear year then 29 else 28
  else if month == 4 || month == 6 || month == 9 || month == 11 then 30
  else 31

/-- A date. -/
def isDate (s : List Char) : Bool :=
  match Text.splitAt '-' s with
  | [year, month, day] =>
    match digits? 4 year, digits? 2 month, digits? 2 day with
    | some year, some month, some day =>
      1 ≤ month && month ≤ 12 && 1 ≤ day && day ≤ daysInMonth year month
    | _, _, _ => false
  | _ => false

/-- Seconds, with a fraction or not. The sixtieth second is one that may be inserted. -/
def isSeconds (s : List Char) : Bool :=
  match Text.splitAt '.' s with
  | [seconds] => isUpTo 60 seconds
  | [seconds, fraction] => isUpTo 60 seconds && !fraction.isEmpty && fraction.all Char.isDigit
  | _ => false

/-- A time of day. -/
def isTime (s : List Char) : Bool :=
  match Text.splitAt ':' s with
  | [hours, minutes, seconds] => isUpTo 23 hours && isUpTo 59 minutes && isSeconds seconds
  | _ => false

/-- The distance from universal time: nothing, the letter Z, or hours and minutes. -/
def isOffset : List Char → Bool
  | [] => true
  | ['Z'] => true
  | ['z'] => true
  | sign :: rest =>
    (sign == '+' || sign == '-') &&
      match Text.splitAt ':' rest with
      | [hours, minutes] => isUpTo 23 hours && isUpTo 59 minutes
      | _ => false

/-- Whether a character begins an offset. -/
def startsOffset (c : Char) : Bool := c == 'Z' || c == 'z' || c == '+' || c == '-'

/-- A time of day with its offset. -/
def isOffsetTime (s : List Char) : Bool :=
  isTime (s.takeWhile (!startsOffset ·)) && isOffset (s.dropWhile (!startsOffset ·))

/-- A date, a time of day, or a date and a time with the letter T between them. -/
def isMoment (s : List Char) : Bool :=
  isDate s || isTime s ||
    (isDate (s.take 10) &&
      match s.drop 10 with
      | 'T' :: time => isOffsetTime time
      | 't' :: time => isOffsetTime time
      | _ => false)

/-- Whether a word is a number, a date or a time. -/
def isScalar (s : List Char) : Bool := isInteger s || isFloat s || isMoment s

end DomainModel.Toml
