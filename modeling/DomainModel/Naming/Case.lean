import DomainModel.Text.Blank
import DomainModel.Text.Case

/-! Turning table and column names into names of types and fields. Underscores and spaces separate
words; they vanish, and the word after them begins with a capital letter. -/

namespace DomainModel.Naming

/-- Joins the words of a text that is in lower case already. `raise` says that the next letter
becomes a capital, `started` that a letter has been written; before that, a separator asks for a
capital only under `raiseFirst`. -/
def joinWords (raiseFirst : Bool) : Bool → Bool → List Char → List Char
  | _, _, [] => []
  | raise, started, c :: rest =>
    if c == '_' || c == ' ' then joinWords raiseFirst (started || raiseFirst) started rest
    else (if raise then Text.upperChar c else [c]) ++ joinWords raiseFirst false true rest

/-- `user_accounts` becomes `UserAccounts`. -/
def typeNameCase (name : String) : String :=
  String.ofList (joinWords true true false (Text.lowerChars (Text.trimChars name.toList)))

/-- `FIRST_NAME` becomes `firstName`. -/
def identifierCase (name : String) : String :=
  String.ofList (joinWords false false false (Text.lowerChars (Text.trimChars name.toList)))

/-- Puts the first letter into lower case and keeps the rest. -/
def decapitalize (name : String) : String :=
  match name.toList with
  | [] => ""
  | c :: rest => String.ofList (Text.lowerChar c ++ rest)

end DomainModel.Naming
