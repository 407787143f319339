/-! Finite double-precision numbers as exact values: a sign, a significand below `2 ^ 53` and a
power of two. Every operation is a fraction of natural numbers, rounded once to the nearest double;
of two equally near, the one with the even significand. Nothing here is beyond the reach of a proof,
as a machine float would be. -/

namespace DomainModel

/-- The number `± significand * 2 ^ exponent`. -/
structure Binary64 where
  negative : Bool
  significand : Nat
  exponent : Int
  deriving DecidableEq, Repr

namespace Binary64

/-- The least exponent; below it lies nothing. -/
def minExponent : Int := -1074

/-- The greatest exponent; above it lies infinity. -/
def maxExponent : Int := 971

/-- Zero with a sign. -/
def zero (negative : Bool) : Binary64 := ⟨negative, 0, minExponent⟩

/-- The whole number nearest to `n / d`; a half goes to the even neighbour. -/
def divideToEven (n d : Nat) : Nat :=
  let floor := n / d
  let twice := 2 * (n % d)
  if twice < d then floor
  else if d < twice then floor + 1
  else if floor % 2 == 0 then floor else floor + 1

/-- The numerator and denominator of `n / d * 2 ^ e`. -/
def scaled (n d : Nat) (e : Int) : Nat × Nat :=
  if 0 ≤ e then (n * Nat.pow 2 e.toNat, d) else (n, d * Nat.pow 2 (-e).toNat)

/-- The whole `k` with `2 ^ k ≤ n / d < 2 ^ (k + 1)`, for positive `n` and `d`. -/
def binaryOrder (n d : Nat) : Int :=
  let estimate := (n.log2 : Int) - d.log2
  let (n', d') := scaled n d (-estimate)
  if d' ≤ n' then estimate else estimate - 1

/-- The double nearest to `± n / d`, for positive `d`; none when that is infinite. -/
def ofRatio? (negative : Bool) (n d : Nat) : Option Binary64 :=
  if n == 0 then some (zero negative)
  else
    let exponent := max (binaryOrder n d - 52) minExponent
    let (n', d') := scaled n d (-exponent)
    let significand := divideToEven n' d'
    let rounded :=
      if significand == Nat.pow 2 53 then ⟨negative, Nat.pow 2 52, exponent + 1⟩ else ⟨negative, significand, exponent⟩
    if maxExponent < rounded.exponent then none else some rounded

/-- The product, rounded; none when it is infinite. -/
def mul? (a b : Binary64) : Option Binary64 :=
  let (n, d) := scaled (a.significand * b.significand) 1 (a.exponent + b.exponent)
  ofRatio? (a.negative != b.negative) n d

/-- The quotient by a positive number, rounded; none when it is infinite. -/
def div? (a b : Binary64) : Option Binary64 :=
  let (n, d) := scaled a.significand b.significand (a.exponent - b.exponent)
  ofRatio? (a.negative != b.negative) n d

/-- Whether the number is zero, of either sign. -/
def isZero (a : Binary64) : Bool := a.significand == 0

/-- Whether the number is whole. -/
def isWhole (a : Binary64) : Bool :=
  0 ≤ a.exponent || a.significand % Nat.pow 2 (-a.exponent).toNat == 0

/-- Whether the number is less than zero. -/
def isBelowZero (a : Binary64) : Bool := a.negative && !a.isZero

end Binary64

end DomainModel
