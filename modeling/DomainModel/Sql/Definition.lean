import DomainModel.Sql.Phrase
import DomainModel.Text.Case
import DomainModel.Text.Nesting

/-! The parts of a `CREATE TABLE` statement: the name of the table, and in its body the definitions
of columns and the clauses that speak about the table as a whole. -/

namespace DomainModel.Sql

/-- Whether a statement creates a table. -/
def isCreateTable (statement : List Char) : Bool := beginsWith ["create", "table"] statement

/-- What stands before the last closing parenthesis. -/
def beforeLastParenthesis? (s : List Char) : Option (List Char) :=
  match s.reverse.dropWhile (· != ')') with
  | [] => none
  | _ :: before => some before.reverse

/-- What follows `IF NOT EXISTS`, if that comes next. -/
def skipIfNotExists (s : List Char) : List Char :=
  ((phrase? ["if", "not", "exists"] s).bind gap?).getD s

/-- Whether a character may stand in the name of a table. -/
def isNameChar (c : Char) : Bool := !Text.isBlank c && c != '('

/-- The name of the table as it is written, and the body up to the last closing parenthesis. -/
def nameAndBody? (statement : List Char) : Option (List Char × List Char) := do
  let s ← phrase? ["create", "table"] statement
  let s := skipIfNotExists (← gap? s)
  let name := s.takeWhile isNameChar
  if name.isEmpty then none
  else
    let inner ← parenthesis? (s.dropWhile isNameChar)
    return (name, ← beforeLastParenthesis? inner)

/-- Whether a character quotes a name. -/
def isQuote (c : Char) : Bool := c == '`' || c == '"' || c == '[' || c == ']'

/-- A name without the quotes around it. -/
def unquote (name : List Char) : List Char :=
  ((name.dropWhile isQuote).reverse.dropWhile isQuote).reverse

/-- The part of a name after the last dot. -/
def lastSegment (name : List Char) : List Char := (name.reverse.takeWhile (· != '.')).reverse

/-- The definitions and clauses in a body. -/
def definitions (body : List Char) : List (List Char) :=
  ((Text.splitOutside '(' ')' 0 body).map Text.trimChars).filter (!·.isEmpty)

/-- Whether a character begins the first column in the list of an index. -/
def beginsIndexed (c : Char) : Bool :=
  c.isAlpha || c == '_' || c == '`' || c == '"' || c == 'ſ' || c.toNat == 0x212A

/-- Whether a list of columns follows. -/
def listsColumns (s : List Char) : Bool :=
  match parenthesis? s with
  | some inner => (Text.skipBlanks inner).head?.any beginsIndexed
  | none => false

/-- Whether an index goes on after its keyword: with an optional name and a list of columns. -/
def goesOnAsIndex (s : List Char) : Bool :=
  match parenthesis? s, gap? s with
  | some _, _ => listsColumns s
  | none, some named => named.head?.any Text.isWordChar && listsColumns (named.dropWhile Text.isWordChar)
  | none, none => false

/-- Whether a definition is a clause about the table. `KEY` and `INDEX` begin one only before a list
of columns, as both may name a column. -/
def isTableClause (definition : List Char) : Bool :=
  beginsWith ["constraint"] definition || beginsWith ["primary", "key"] definition ||
    beginsWith ["unique"] definition || beginsWith ["foreign", "key"] definition ||
    ((keyword? "check".toList definition).bind parenthesis?).isSome ||
    (keyword? "key".toList definition).any goesOnAsIndex ||
    (keyword? "index".toList definition).any goesOnAsIndex

/-- The text in the parentheses of a `PRIMARY KEY` that begins here. -/
def keyListHere? (s : List Char) : Option (List Char) := do
  let inner ← (phrase? ["primary", "key"] s).bind parenthesis?
  if inner.contains ')' then some (inner.takeWhile (· != ')')) else none

/-- The names in the first list of key columns of a clause, in lower case. -/
def listedKeys (clause : List Char) : List (List Char) :=
  match search keyListHere? false clause with
  | none => []
  | some list =>
    ((Text.splitAt ',' list).map fun name => Text.lowerChars (unquote (Text.trimChars name))).filter (!·.isEmpty)

/-- The names of the columns that the clauses of a table declare as its key, in lower case. -/
def keyColumns (definitions : List (List Char)) : List (List Char) :=
  (definitions.filter isTableClause).flatMap listedKeys

end DomainModel.Sql
