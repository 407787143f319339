import DomainModel.Model.Basic
import DomainModel.Naming.Case
import DomainModel.Sql.Definition

/-! Columns as fields. -/

namespace DomainModel.Sql

/-- Whether one text occurs in another. -/
def occursIn (part : List Char) : List Char → Bool
  | [] => part.isEmpty
  | c :: rest => part.isPrefixOf (c :: rest) || occursIn part rest

/-- The types that names of SQL types stand for. The first row counts whose name occurs in the type.
-/
def typeTable : List (String × String) := [
  ("bigint", "Long"), ("int", "Integer"), ("decimal", "BigDecimal"), ("numeric", "BigDecimal"),
  ("date", "LocalDate"), ("time", "Instant"), ("bool", "Boolean")]

/-- The type of a field for a SQL type. -/
def fieldType (sqlType : List Char) : String :=
  match typeTable.find? fun (name, _) => occursIn name.toList (Text.lowerChars sqlType) with
  | some (_, typeName) => typeName
  | none => "String"

/-- A column as it is written. -/
structure Column where
  name : List Char
  sqlType : List Char
  /-- The digits in parentheses after the type, when there is nothing else in them. -/
  length : Option (List Char)
  deriving DecidableEq, Repr

/-- The digits in the parentheses that follow a type. -/
def lengthDigits? (s : List Char) : Option (List Char) := do
  let inner := Text.skipBlanks (← parenthesis? s)
  let digits := inner.takeWhile Char.isDigit
  match digits, Text.skipBlanks (inner.dropWhile Char.isDigit) with
  | _ :: _, ')' :: _ => some digits
  | _, _ => none

/-- Passes over one of the characters. -/
def skipOne (characters : List Char) : List Char → List Char
  | [] => []
  | c :: rest => if characters.contains c then rest else c :: rest

/-- The column at the front of a definition: a name, quoted or not, and a type. -/
def column? (definition : List Char) : Option Column := do
  let s := skipOne ['`', '"', '['] definition
  let name := s.takeWhile Text.isWordChar
  let s ← gap? (skipOne ['`', '"', ']'] (s.dropWhile Text.isWordChar))
  let sqlType := s.takeWhile Text.isWordChar
  if name.isEmpty || sqlType.isEmpty then none
  else return { name, sqlType, length := lengthDigits? (s.dropWhile Text.isWordChar) }

/-- A length that fits 32 bits. -/
def word32? (digits : List Char) : Option UInt32 :=
  let n := digits.foldl (fun n c => 10 * n + (c.toNat - '0'.toNat)) 0
  if n < Nat.pow 2 32 then some (UInt32.ofNat n) else none

/-- The field of a definition, given the columns that belong to the key; none if no column is
defined. -/
def field? (keys : List (List Char)) (definition : List Char) : Option Field :=
  (column? definition).map fun column =>
    let typeName := fieldType column.sqlType
    { name := Naming.identifierCase (String.ofList column.name)
      typeName
      maxLength := if typeName == "String" then column.length.bind word32? else none
      primaryKey := keys.contains (Text.lowerChars column.name) || mentions ["primary", "key"] definition
      required := mentions ["not", "null"] definition
      unique := mentions ["unique"] definition }

end DomainModel.Sql
