import DomainModel.Json.Printer
import DomainModel.Report
import DomainModel.Schema.Basic

/-! Checking a document against a schema. At each value its kind comes first, then what only values
of that kind can have wrong: members that are missing, then the known members in the order of the
schema, or the items in theirs. Each issue is about the value at its path, the root being a single
slash. -/

namespace DomainModel.Schema

open Json (Value)

/-- The text of a value in a message. -/
def shown (value : Value) : String := value.compact

/-- An issue about the value at a path. -/
def violation (path message : String) : Issue :=
  { code := "schema_violation", path := if path.isEmpty then "/" else path, message }

/-- The names of kinds as a message lists them, in alphabetical order. -/
def kindsText (kinds : List ValueKind) : String :=
  ", ".intercalate <|
    ((kinds.map fun kind => "\"" ++ kind.label ++ "\"").mergeSort (fun a b => decide (a ≤ b)))

/-- A value of the wrong kind. -/
def kindIssues (kinds : List ValueKind) (path : String) (value : Value) : List Issue :=
  if kinds.any (·.accepts value) then []
  else
    [violation path (shown value ++ " is not of " ++ (if kinds.length == 1 then "type " else "types ") ++
      kindsText kinds)]

/-- A value that is none of the options. -/
def choiceIssues (options : List String) (path : String) (value : Value) : List Issue :=
  match value with
  | .text text =>
    if options.contains text then []
    else [violation path (shown value ++ " is not one of " ++ shown (.list (options.map .text)))]
  | _ => [violation path (shown value ++ " is not one of " ++ shown (.list (options.map .text)))]

/-- A number below zero. -/
def minimumIssues (path : String) (value : Value) : List Issue :=
  match value with
  | .number n =>
    if n.isBelowZero then [violation path (shown value ++ " is less than the minimum of 0.0")] else []
  | _ => []

/-- Members that must be there and are not. -/
def missingIssues (required : List String) (path : String) (members : List (String × Value)) :
    List Issue :=
  (required.filter fun key => (Json.member? members key).isNone).map fun key =>
    violation path (shown (.text key) ++ " is a required property")

mutual

/-- What is wrong with the value at a path. -/
def issues : Schema → String → Value → List Issue
  | .scalar _ kinds, path, value => kindIssues kinds path value
  | .choice _ options, path, value => kindIssues [.text] path value ++ choiceIssues options path value
  | .count kinds _, path, value => kindIssues kinds path value ++ minimumIssues path value
  | .list _ item, path, value =>
    kindIssues [.list] path value ++
      match value with
      | .list items => (items.mapIdx fun i value => issues item (path ++ "/" ++ toString i) value).flatten
      | _ => []
  | .record _ required properties, path, value =>
    kindIssues [.object] path value ++
      match value with
      | .object members =>
        missingIssues required path members ++ propertiesIssues properties path members
      | _ => []
  | .named _ schema, path, value => issues schema path value
  | .anyOf options, path, value =>
    if fitsOne options path value then []
    else [violation path (shown value ++ " is not valid under any of the schemas listed in the 'anyOf' keyword")]

/-- What is wrong with the known members of an object. -/
def propertiesIssues : List (String × Schema) → String → List (String × Value) → List Issue
  | [], _, _ => []
  | (key, schema) :: rest, path, members =>
    (match Json.member? members key with
      | some value => issues schema (path ++ "/" ++ key) value
      | none => []) ++
      propertiesIssues rest path members

/-- Whether one of the schemas fits. -/
def fitsOne : List Schema → String → Value → Bool
  | [], _, _ => false
  | schema :: rest, path, value => (issues schema path value).isEmpty || fitsOne rest path value

end

/-- The report on a document. -/
def check (schema : Schema) (value : Value) : Report := .ofIssues (schema.issues "" value)

end DomainModel.Schema
