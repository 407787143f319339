import DomainModel.Constraint.Numeral
import DomainModel.Json.Value
import DomainModel.Text.Ascii
import DomainModel.Text.Blank

/-! What the values in an export can be used as. Of the keys that may hold an attribute, the first
one with a usable value counts. -/

namespace DomainModel.SchemaExport

open Json (Value Number)

/-- The members of an object. -/
abbrev Members := List (String × Value)

/-- The first usable value under the keys. -/
def firstUsable {α : Type} (use : Value → Option α) (members : Members) (keys : List String) :
    Option α :=
  keys.findSome? fun key => (Json.member? members key).bind use

/-- Anything but `null`. -/
def anything? : Value → Option Value
  | .null => none
  | value => some value

/-- A string that is not blank, without its outer blanks. -/
def name? : Value → Option String
  | .text text => Text.nonBlank? text
  | _ => none

/-- The words for a truth value. -/
def truthWords : List (String × Bool) := [
  ("true", true), ("yes", true), ("y", true), ("1", true),
  ("false", false), ("no", false), ("n", false), ("0", false)]

/-- A truth value, as such or as a number or a word. -/
def truth? : Value → Option Bool
  | .bool value => some value
  | .number (.integer 1) => some true
  | .number (.integer 0) => some false
  | .text text => truthWords.lookup (Text.asciiLower (Text.trim text))
  | _ => none

/-- Whether a number fits 32 bits. -/
def word32? (n : Int) : Option UInt32 :=
  if 0 ≤ n ∧ n < 0x100000000 then some (UInt32.ofNat n.toNat) else none

/-- A length in digits; a plus sign may stand in front, a minus sign may not. -/
def lengthText? (text : List Char) : Option UInt32 :=
  if text.head? == some '-' then none else (Numeral.integer? text).bind word32?

/-- A length, as a number or in digits. -/
def length? : Value → Option UInt32
  | .number (.integer n) => word32? n
  | .text text => lengthText? (Text.trimChars text.toList)
  | _ => none

/-- The value of a constraint: a string as it is, a number or a truth value as text. -/
def scalar? : Value → Option String
  | .text text => some text
  | .number number => some number.toText
  | .bool true => some "true"
  | .bool false => some "false"
  | _ => none

end DomainModel.SchemaExport
