import DomainModel.Number.Binary64
import DomainModel.Text.Digit

/-! The shortest decimal text of a double. The reals that round to a double form an interval around
it. On the grids of the multiples of `10 ^ k`, taken from coarse to fine, only the two neighbours of
the double can lie in it; the first grid with a neighbour in the interval gives the fewest digits,
and of two neighbours the nearer is taken. -/

namespace DomainModel.Binary64

/-- What rounds to a positive double, in quarters of its last place: the lower end, the double and
the upper end. The gap below a power of two is half as wide as the gap above it. -/
structure Neighbourhood where
  low : Nat
  middle : Nat
  high : Nat
  closed : Bool

/-- The reals that round to `a`; the ends belong to an even significand. -/
def neighbourhood (a : Binary64) : Neighbourhood :=
  let narrow := a.significand == Nat.pow 2 52 && minExponent < a.exponent
  { low := 4 * a.significand - (if narrow then 1 else 2)
    middle := 4 * a.significand
    high := 4 * a.significand + 2
    closed := a.significand % 2 == 0 }

/-- Whether `x / scale` lies in the neighbourhood, with `scale` parts to the quarter. -/
def Neighbourhood.covers (around : Neighbourhood) (scale x : Nat) : Bool :=
  if around.closed then around.low * scale ≤ x && x ≤ around.high * scale
  else around.low * scale < x && x < around.high * scale

/-- The multiple of `step / scale` that is nearest to the middle and lies in the neighbourhood, if
there is one. A tie goes to the even multiple. -/
def Neighbourhood.nearest? (around : Neighbourhood) (scale step : Nat) : Option Nat :=
  let below := around.middle * scale / step
  let above := below + 1
  let down := around.middle * scale - below * step
  let up := above * step - around.middle * scale
  match around.covers scale (below * step), around.covers scale (above * step) with
  | true, true => some (if down < up || (down == up && below % 2 == 0) then below else above)
  | true, false => some below
  | false, true => some above
  | false, false => none

/-- Numerator and denominator of `10 ^ k`, in quarters of the last place of a double with exponent
`e`. -/
def decimalStep (e k : Int) : Nat × Nat :=
  let (n, d) := scaled (Nat.pow 10 k.toNat) (Nat.pow 10 (-k).toNat) (2 - e)
  (n, d)

/-- Searches the grids from `10 ^ k` downwards. -/
def searchGrids (around : Neighbourhood) (e : Int) : Nat → Int → Nat × Int
  | 0, k => (0, k)
  | tries + 1, k =>
    let (step, scale) := decimalStep e k
    match around.nearest? scale step with
    | some digits => (digits, k)
    | none => searchGrids around e tries (k - 1)

/-- The digits and the power of ten of the shortest decimal that reads back as `a`, which is not
zero. The first grid is no finer than `a`, and seventeen digits always suffice. -/
def shortest (a : Binary64) : Nat × Int :=
  let bits := (a.significand.log2 : Int) + 1 + a.exponent
  searchGrids a.neighbourhood a.exponent 21 (bits * 30103 / 100000 + 1)

/-- Positional up to sixteen digits before the point and down to four zeros after it, else with a
signed exponent; a point with a digit, or an exponent, is never missing. -/
def layOut (digits : List Char) (k : Int) : List Char :=
  let point := digits.length + k
  if 0 ≤ k && point ≤ 16 then digits ++ List.replicate k.toNat '0' ++ ['.', '0']
  else if 0 < point && point ≤ 16 then digits.take point.toNat ++ '.' :: digits.drop point.toNat
  else if -5 < point && point ≤ 0 then '0' :: '.' :: List.replicate (-point).toNat '0' ++ digits
  else
    digits.take 1 ++ (if digits.length == 1 then [] else '.' :: digits.drop 1) ++
      'e' :: (if 0 < point then '+' else '-') :: Text.digitChars (point - 1).natAbs

/-- The shortest text that reads back as `a`. -/
def toText (a : Binary64) : String :=
  let body :=
    if a.isZero then ['0', '.', '0']
    else
      let (digits, k) := a.shortest
      layOut (Text.digitChars digits) k
  String.ofList (if a.negative then '-' :: body else body)

end DomainModel.Binary64
