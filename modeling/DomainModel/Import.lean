import DomainModel.Json.Reader
import DomainModel.SchemaExport.Read
import DomainModel.Sql.Table

/-! Imports: entities and relations from a script of `CREATE TABLE` statements, or from an export of
a schema. -/

namespace DomainModel

/-- What an import reads. -/
inductive ImportFormat where
  | sql
  | json
  deriving DecidableEq, Repr

/-- The name of a format. -/
def ImportFormat.name : ImportFormat → String
  | .sql => "sql"
  | .json => "json"

/-- Why an import is rejected as a whole. -/
inductive ImportFailure where
  /-- A statement creates no table. -/
  | unsupportedStatement (statement : String)
  /-- The text is not JSON. -/
  | notJson
  /-- The document has no list of entities. -/
  | unsupportedShape
  deriving DecidableEq, Repr

/-- The wording of a failure. -/
def ImportFailure.message : ImportFailure → String
  | .unsupportedStatement statement => "only CREATE TABLE statements are supported, found: " ++ statement
  | .notJson => "invalid json: the text is not a JSON document"
  | .unsupportedShape =>
    "unsupported schema shape: expected an array, `entities`, `schema.entities` or `model.entities`"

/-- Something that happened while an import was read. -/
inductive ImportNote where
  | sql (note : Sql.Note)
  | json (note : SchemaExport.Note)
  deriving DecidableEq, Repr

namespace ImportFormat

/-- Reads an import. Scripts yield no relations. -/
def read (format : ImportFormat) (allowSelfReference : Bool) (text : String) :
    Except ImportFailure ImportedSchema :=
  match format with
  | .sql =>
    match Sql.read text with
    | .ok entities => .ok { entities }
    | .error statement => .error (.unsupportedStatement statement)
  | .json =>
    match Json.parse? text with
    | none => .error .notJson
    | some root =>
      match SchemaExport.read? allowSelfReference root with
      | some schema => .ok schema
      | none => .error .unsupportedShape

/-- Relations are read of an export only. -/
theorem read_eq_ok {format : ImportFormat} {allowSelfReference : Bool} {text : String} {schema : ImportedSchema}
    (h : format.read allowSelfReference text = .ok schema) :
    schema.relations = [] ∨ ∃ root, SchemaExport.read? allowSelfReference root = some schema := by
  cases format with
  | sql =>
      rw [read] at h
      split at h
      · cases h
        exact .inl rfl
      · cases h
  | json =>
      rw [read] at h
      split at h
      · cases h
      · split at h
        · next hread =>
            cases h
            exact .inr ⟨_, hread⟩
        · cases h

/-- What happens while an import is read. -/
def notes (format : ImportFormat) (allowSelfReference : Bool) (text : String) : List ImportNote :=
  match format with
  | .sql => (Sql.notes text).map .sql
  | .json =>
    match Json.parse? text with
    | none => []
    | some root => (SchemaExport.notes allowSelfReference root).map .json

end ImportFormat

/-- How many entities and relations were imported. -/
def importSummary (entities relations : Nat) : String :=
  "imported " ++ toString entities ++ " entities and " ++ toString relations ++ " relations"

end DomainModel
