import DomainModel.Text.Range
import DomainModel.Text.WordTable

/-! Word characters: what may stand inside an unquoted word, and next to which no word boundary
lies. -/

namespace DomainModel.Text

/-- Letters, marks, decimal digits, connector punctuation and the two joiners. -/
def isWordChar (c : Char) : Bool :=
  if c.toNat < 0x80 then c.isAlphanum || c == '_'
  else inRanges wordTable c

/-- No word character comes next. -/
def atWordEnd : List Char → Bool
  | [] => true
  | c :: _ => !isWordChar c

end DomainModel.Text
