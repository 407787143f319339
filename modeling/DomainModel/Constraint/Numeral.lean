import DomainModel.Text.Digit

/-! Numbers as the values of constraints. A whole number must fit 64 bits; any other number must not
be so large that the nearest double is infinite, however many digits or whatever exponent it is
written with. -/

namespace DomainModel

/-- A decimal number: the digits before and after the point, and the exponent. -/
structure Numeral where
  negative : Bool
  whole : List Char
  fraction : List Char
  exponent : Int
  deriving DecidableEq, Repr

namespace Numeral

/-- Splits off a sign; it is negative or not. -/
def splitSign : List Char → Bool × List Char
  | '-' :: rest => (true, rest)
  | '+' :: rest => (false, rest)
  | s => (false, s)

/-- A run of at least one digit, with an optional sign in front. -/
def integer? (s : List Char) : Option Int :=
  let (negative, digits) := splitSign s
  if !digits.isEmpty && digits.all Char.isDigit then
    some (if negative then -(Text.digitsValue digits : Int) else Text.digitsValue digits)
  else none

/-- Whether a text is a whole number of 64 bits. -/
def isInteger64 (s : String) : Bool :=
  match integer? s.toList with
  | some n => -0x8000000000000000 ≤ n && n < 0x8000000000000000
  | none => false

/-- The exponent at the end of a number; nothing is zero. -/
def exponent? : List Char → Option Int
  | [] => some 0
  | c :: rest => if c == 'e' || c == 'E' then integer? rest else none

/-- Reads a number: digits with at most one point among or around them, and an optional exponent. -/
def parse? (s : List Char) : Option Numeral :=
  let (negative, s) := splitSign s
  let whole := s.takeWhile Char.isDigit
  let s := s.dropWhile Char.isDigit
  let (fraction, s) :=
    match s with
    | '.' :: rest => (rest.takeWhile Char.isDigit, rest.dropWhile Char.isDigit)
    | _ => ([], s)
  if whole.isEmpty && fraction.isEmpty then none
  else (exponent? s).map fun exponent => ⟨negative, whole, fraction, exponent⟩

/-- The least number whose nearest double is infinite. -/
def infiniteFrom : Nat := Nat.pow 2 1024 - Nat.pow 2 970

/-- The size of the number is this many times a power of ten. -/
def coefficient (n : Numeral) : Nat := Text.digitsValue (n.whole ++ n.fraction)

/-- The power of ten that goes with the coefficient. -/
def power (n : Numeral) : Int := n.exponent - n.fraction.length

/-- Whether the nearest double is finite. A power of ten beyond 308 makes any number but zero
infinite; one so small that the digits cannot make up for it makes none infinite; in between the
comparison is exact. -/
def isFinite (n : Numeral) : Bool :=
  if n.coefficient == 0 then true
  else if 308 < n.power then false
  else if 0 ≤ n.power then n.coefficient * Nat.pow 10 n.power.toNat < infiniteFrom
  else if n.whole.length + n.fraction.length ≤ 308 + (-n.power).toNat then true
  else n.coefficient < infiniteFrom * Nat.pow 10 (-n.power).toNat

/-- Whether a text is a number that is not too large. -/
def isNumeric (s : String) : Bool := (parse? s.toList).any isFinite

end Numeral

end DomainModel
