import DomainModel.Sql.Column
import DomainModel.Sql.Source

/-! Tables as entities. A table keeps the first of several columns whose names give one field, and
the first of several key columns; a table without a key is given one. -/

namespace DomainModel.Sql

/-- Something that happened while a script was read. -/
inductive Note where
  | rejected (statement : String)
  | columnDuplicate (table column : String)
  | keyTruncated (table column : String)
  | noColumns (table : String)
  | unmatchedStatement
  | finished (statements entities : Nat)
  deriving DecidableEq, Repr

/-- The fields whose names, in lower case, are not among those before them. -/
def keepFirsts (seen : List String) : List Field → List Field
  | [] => []
  | field :: rest =>
    if seen.contains (Text.lower field.name) then keepFirsts seen rest
    else field :: keepFirsts (Text.lower field.name :: seen) rest

/-- The fields that `keepFirsts` drops. -/
def repeated (seen : List String) : List Field → List Field
  | [] => []
  | field :: rest =>
    if seen.contains (Text.lower field.name) then field :: repeated seen rest
    else repeated (Text.lower field.name :: seen) rest

/-- Keeps the mark of the first key field, unless one has been `found` before. -/
def keepFirstKey (found : Bool) : List Field → List Field
  | [] => []
  | field :: rest => { field with primaryKey := field.primaryKey && !found } ::
      keepFirstKey (found || field.primaryKey) rest

/-- The key fields after the first. -/
def laterKeys (fields : List Field) : List Field := (fields.filter (·.primaryKey)).drop 1

/-- Makes the first field that is called `id` the key. -/
def markId : List Field → List Field
  | [] => []
  | field :: rest =>
    if field.name == "id" then { field with primaryKey := true, required := true } :: rest
    else field :: markId rest

/-- Sees to it that there is a key: the field `id`, or a new one of that name in front. -/
def ensureKey (fields : List Field) : List Field :=
  if fields.any (·.primaryKey) then fields
  else if fields.any (·.name == "id") then markId fields
  else Field.syntheticId :: fields

/-- The name of a table as the name of an entity. -/
def tableName (name : List Char) : String :=
  Naming.typeNameCase (String.ofList (unquote (lastSegment name)))

/-- The fields of the columns in a body, repeated ones included. -/
def bodyFields (body : List Char) : List Field :=
  let parts := definitions body
  (parts.filter (!isTableClause ·)).filterMap (field? (keyColumns parts))

/-- The entity of a statement; none if the statement cannot be read or has no columns. -/
def entity? (statement : List Char) : Option Entity :=
  match nameAndBody? statement with
  | none => none
  | some (name, body) =>
    let fields := keepFirsts [] (bodyFields body)
    if fields.isEmpty then none
    else some { name := tableName name, fields := ensureKey (keepFirstKey false fields) }

/-- What happens while the statement is read. -/
def statementNotes (statement : List Char) : List Note :=
  match nameAndBody? statement with
  | none => [.unmatchedStatement]
  | some (name, body) =>
    let table := tableName name
    let fields := bodyFields body
    let kept := keepFirsts [] fields
    (repeated [] fields).map (.columnDuplicate table ·.name) ++
      if kept.isEmpty then [.noColumns table] else (laterKeys kept).map (.keyTruncated table ·.name)

/-- The first statement of a script that creates no table, as it is shown. -/
def rejected? (script : String) : Option String :=
  ((statements script.toList).find? (!isCreateTable ·)).map (String.ofList ∘ snippet)

/-- The entities of a script; no other statements than `CREATE TABLE` may stand in it. -/
def entities (script : String) : List Entity := (statements script.toList).filterMap entity?

/-- Reads a script. The error is the first statement that creates no table. -/
def read (script : String) : Except String (List Entity) :=
  match rejected? script with
  | some statement => .error statement
  | none => .ok (entities script)

/-- What happens while a script is read. -/
def notes (script : String) : List Note :=
  match rejected? script with
  | some statement => [.rejected statement]
  | none =>
    (statements script.toList).flatMap statementNotes ++
      [.finished (statements script.toList).length (entities script).length]

end DomainModel.Sql
