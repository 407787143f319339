import DomainModel.Number.Shortest
import DomainModel.Text.Digit

/-! The numbers of JSON. A literal without fraction and exponent that fits 64 bits, signed or not,
stays a whole number; every other literal is a double. A double is read in two rounded steps: the
digits, as many as fit 64 bits, make a whole number; the digits beyond move its point or are
dropped; then a power of ten scales it. -/

namespace DomainModel.Json

/-- A JSON number. -/
inductive Number where
  | integer (value : Int)
  | float (value : Binary64)
  deriving DecidableEq, Repr

/-- The parts of a number as it is written. -/
structure Literal where
  negative : Bool
  whole : List Char
  /-- The digits after the point. -/
  fraction : Option (List Char)
  /-- The sign and the digits of the exponent. -/
  exponent : Option (Bool × List Char)
  deriving DecidableEq, Repr

namespace Number

/-- One more than the greatest number of 64 bits. -/
def wordBound : Nat := Nat.pow 2 64

/-- Adds the digits before the point; those that do not fit any more each shift the point. -/
def absorbWhole : Nat → List Char → Nat × Int
  | n, [] => (n, 0)
  | n, c :: rest =>
    let next := 10 * n + Text.digitValue c
    if next < wordBound then absorbWhole next rest else (n, (rest.length : Int) + 1)

/-- Adds the digits after the point, up to the first that does not fit. -/
def absorbFraction : Nat → Int → List Char → Nat × Int
  | n, shift, [] => (n, shift)
  | n, shift, c :: rest =>
    let next := 10 * n + Text.digitValue c
    if next < wordBound then absorbFraction next (shift - 1) rest else (n, shift)

/-- A power of ten as a double. -/
def tenPower (k : Nat) : Binary64 := (Binary64.ofRatio? false (Nat.pow 10 k) 1).getD (Binary64.zero false)

/-- The greatest power of ten that is a double. -/
def maxTenPower : Int := 308

/-- Scales a double by `10 ^ k`; none when the result is too large. Below the least power of ten the
number is divided twice, and further below nothing is left of it. -/
def scale? (x : Binary64) (k : Int) : Option Binary64 :=
  if 0 ≤ k then
    if x.isZero then some x else if maxTenPower < k then none else x.mul? (tenPower k.toNat)
  else if -maxTenPower ≤ k then x.div? (tenPower (-k).toNat)
  else if -2 * maxTenPower ≤ k then do
    let smaller ← x.div? (tenPower maxTenPower.toNat)
    smaller.div? (tenPower (-k - maxTenPower).toNat)
  else some (Binary64.zero x.negative)

/-- The exponent that a literal states. -/
def statedExponent : Option (Bool × List Char) → Int
  | none => 0
  | some (negative, digits) => if negative then -(Text.digitsValue digits : Int) else Text.digitsValue digits

/-- The double that a literal stands for; none when it is too large. -/
def floatOf? (literal : Literal) : Option Binary64 := do
  let (n, shift) := absorbWhole 0 literal.whole
  let (n, shift) := absorbFraction n shift (literal.fraction.getD [])
  let digits ← Binary64.ofRatio? literal.negative n 1
  scale? digits (shift + statedExponent literal.exponent)

/-- The number that a literal stands for; none when it is too large. Negative zero is a double. -/
def ofLiteral? (literal : Literal) : Option Number :=
  let n := Text.digitsValue literal.whole
  let fits := if literal.negative then 0 < n && n ≤ Nat.pow 2 63 else n < wordBound
  if literal.fraction.isNone && literal.exponent.isNone && fits then
    some (.integer (if literal.negative then -(n : Int) else n))
  else (floatOf? literal).map .float

/-- The text of a number. -/
def toText : Number → String
  | .integer value => String.ofList ((if value < 0 then ['-'] else []) ++ Text.digitChars value.natAbs)
  | .float value => value.toText

/-- Whether the number is whole, however it is written. -/
def isWhole : Number → Bool
  | .integer _ => true
  | .float value => value.isWhole

/-- Whether the number is less than zero. -/
def isBelowZero : Number → Bool
  | .integer value => value < 0
  | .float value => value.isBelowZero

end Number

end DomainModel.Json
