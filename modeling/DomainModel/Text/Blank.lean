/-! White space and trimming. A character is blank when it has the Unicode property White_Space;
this is the only notion of blank in the library, apart from the four characters that may stand
between JSON tokens. -/

namespace DomainModel.Text

/-- The characters with the Unicode property White_Space. -/
def isBlank (c : Char) : Bool :=
  let n := c.toNat
  (0x09 ≤ n && n ≤ 0x0D) || n == 0x20 || n == 0x85 || n == 0xA0 || n == 0x1680 ||
    (0x2000 ≤ n && n ≤ 0x200A) || n == 0x2028 || n == 0x2029 || n == 0x202F || n == 0x205F || n == 0x3000

/-- Drops the blanks at the front. -/
def skipBlanks (s : List Char) : List Char := s.dropWhile isBlank

/-- Drops the blanks at both ends. -/
def trimChars (s : List Char) : List Char := (skipBlanks (skipBlanks s).reverse).reverse

/-- Drops the blanks at both ends. -/
def trim (s : String) : String := String.ofList (trimChars s.toList)

/-- What is left of a text without its outer blanks, unless that is nothing. -/
def nonBlank? (s : String) : Option String :=
  if (trim s).isEmpty then none else some (trim s)

theorem toList_trim (s : String) : (trim s).toList = trimChars s.toList := by
  simp [trim]

end DomainModel.Text
