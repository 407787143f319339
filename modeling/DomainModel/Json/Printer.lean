import DomainModel.Json.Value
import DomainModel.Text.Split

/-! Writing JSON: compact on one line, or with each item and member on a line of its own, indented
by two spaces. Only quotes, backslashes and control characters are escaped. -/

namespace DomainModel.Json

/-- A hexadecimal digit. -/
def hexDigit (n : Nat) : Char :=
  if n < 10 then Char.ofNat ('0'.toNat + n) else Char.ofNat ('a'.toNat + n - 10)

/-- A character inside a string. -/
def escapeChar (c : Char) : List Char :=
  if c == '"' then ['\\', '"']
  else if c == '\\' then ['\\', '\\']
  else if c == '\x08' then ['\\', 'b']
  else if c == '\x0c' then ['\\', 'f']
  else if c == '\n' then ['\\', 'n']
  else if c == '\r' then ['\\', 'r']
  else if c == '\t' then ['\\', 't']
  else if c.toNat < 0x20 then ['\\', 'u', '0', '0', hexDigit (c.toNat / 16), hexDigit (c.toNat % 16)]
  else [c]

/-- A string in quotes. -/
def quote (text : String) : List Char := '"' :: text.toList.flatMap escapeChar ++ ['"']

/-- The texts of the values that have no parts. -/
def boolText (value : Bool) : List Char :=
  if value then ['t', 'r', 'u', 'e'] else ['f', 'a', 'l', 's', 'e']

namespace Value

mutual

/-- A value on one line, without gaps. -/
def compactChars : Value → List Char
  | .null => ['n', 'u', 'l', 'l']
  | .bool value => boolText value
  | .number value => value.toText.toList
  | .text value => quote value
  | .list items => '[' :: Text.joinWith [','] (compactItems items) ++ [']']
  | .object members => '{' :: Text.joinWith [','] (compactMembers members) ++ ['}']

/-- The items of a list, each on one line. -/
def compactItems : List Value → List (List Char)
  | [] => []
  | value :: rest => compactChars value :: compactItems rest

/-- The members of an object, each on one line. -/
def compactMembers : List (String × Value) → List (List Char)
  | [] => []
  | (key, value) :: rest => (quote key ++ ':' :: compactChars value) :: compactMembers rest

end

/-- A new line with an indentation. -/
def newLine (level : Nat) : List Char := '\n' :: List.replicate (2 * level) ' '

/-- Lays out the parts of a list or an object, a line each; without parts there is no line. -/
def block (level : Nat) (opening closing : Char) (parts : List (List Char)) : List Char :=
  if parts.isEmpty then [opening, closing]
  else
    opening :: newLine (level + 1) ++ Text.joinWith (',' :: newLine (level + 1)) parts ++ newLine level ++ [closing]

mutual

/-- A value over several lines; its lines after the first are indented to `level`. -/
def prettyChars (level : Nat) : Value → List Char
  | .null => ['n', 'u', 'l', 'l']
  | .bool value => boolText value
  | .number value => value.toText.toList
  | .text value => quote value
  | .list items => block level '[' ']' (prettyItems (level + 1) items)
  | .object members => block level '{' '}' (prettyMembers (level + 1) members)

/-- The items of a list. -/
def prettyItems (level : Nat) : List Value → List (List Char)
  | [] => []
  | value :: rest => prettyChars level value :: prettyItems level rest

/-- The members of an object. -/
def prettyMembers (level : Nat) : List (String × Value) → List (List Char)
  | [] => []
  | (key, value) :: rest => (quote key ++ ':' :: ' ' :: prettyChars level value) :: prettyMembers level rest

end

/-- The text of a value on one line. -/
def compact (value : Value) : String := String.ofList value.compactChars

/-- The text of a value over several lines. -/
def pretty (value : Value) : String := String.ofList (value.prettyChars 0)

end Value

end DomainModel.Json
