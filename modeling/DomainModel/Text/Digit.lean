/-! Digits: the numbers that runs of digits stand for, and the digits of a number. -/

namespace DomainModel.Text

/-- The value of a decimal digit. -/
def digitValue (c : Char) : Nat := c.toNat - '0'.toNat

/-- The number that a run of decimal digits stands for. -/
def digitsValue (digits : List Char) : Nat := digits.foldl (fun n c => 10 * n + digitValue c) 0

theorem digitsValue_concat (digits : List Char) (c : Char) :
    digitsValue (digits ++ [c]) = 10 * digitsValue digits + digitValue c := by
  rw [digitsValue, List.foldl_append]
  rfl

/-- The value of a hexadecimal digit, in either case. -/
def hexDigit? (c : Char) : Option Nat :=
  if c.isDigit then some (digitValue c)
  else if 'a' ≤ c && c ≤ 'f' then some (c.toNat - 'a'.toNat + 10)
  else if 'A' ≤ c && c ≤ 'F' then some (c.toNat - 'A'.toNat + 10)
  else none

/-- The number that a run of digits stands for in a base up to sixteen; none when a character is no
digit of it. -/
def valueInBase? (base : Nat) (digits : List Char) : Option Nat :=
  digits.foldl (fun n? c => do
    let n ← n?
    let d ← hexDigit? c
    if d < base then some (base * n + d) else none) (some 0)

/-- The decimal digits of a number. -/
def digitChars (n : Nat) : List Char := Nat.toDigits 10 n

/-- A decimal digit. -/
def digitChar (n : Nat) : Char := Char.ofNat ('0'.toNat + n)

/-- The last `width` decimal digits of a number, zeros in front included. -/
def paddedDigits : Nat → Nat → List Char
  | 0, _ => []
  | width + 1, n => paddedDigits width (n / 10) ++ [digitChar (n % 10)]

theorem length_paddedDigits (width n : Nat) : (paddedDigits width n).length = width := by
  induction width generalizing n with
  | zero => rfl
  | succ width ih => simp [paddedDigits, ih]

end DomainModel.Text
