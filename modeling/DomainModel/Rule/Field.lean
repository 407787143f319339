import DomainModel.Constraint.Check
import DomainModel.Naming.Basic
import DomainModel.Report

/-! The rules for fields: one field among the others of its owner, and the list of fields as a
whole. Keys are a matter of entities alone. -/

namespace DomainModel.Rule

/-- What a list of fields belongs to. -/
inductive FieldOwner where
  | entity
  | dataObject
  deriving DecidableEq, Repr

/-- The other fields: all but the one at the place that is being edited. -/
def otherFields (siblings : List Field) (editing : Option Nat) : List Field :=
  match editing with
  | some i => siblings.eraseIdx i
  | none => siblings

/-- What is wrong with the name of a field. A name that SQL reserves is a warning. -/
def fieldNameIssues (field : Field) (others : List Field) : List Issue :=
  let name := Text.trim field.name
  if name.isEmpty then
    [{ code := "name_required", path := "/name", message := "field name is required" }]
  else if !Naming.isIdentifier name then
    [{ code := "invalid_identifier", path := "/name", message := "'" ++ name ++ "' is not a valid field name",
       hint := some "use letters, digits, '_' or '$' and avoid language keywords" }]
  else if others.any fun other => Text.equalIgnoringCase (Text.trim other.name) name then
    [{ code := "duplicate_field", path := "/name", message := "a field named '" ++ name ++ "' already exists" }]
  else match Naming.sqlReservedWord? name with
    | some word =>
      [{ severity := .warning, code := "sql_reserved_word", path := "/name",
         message := "'" ++ word ++ "' is a SQL reserved word and will need quoting in generated queries" }]
    | none => []

/-- A second key. -/
def keyIssues (field : Field) (others : List Field) (owner : FieldOwner) : List Issue :=
  if owner == .entity && field.primaryKey && others.any (·.primaryKey) then
    [{ code := "multiple_primary_keys", path := "/primaryKey", message := "only one primary key is allowed" }]
  else []

/-- A type that is missing. -/
def typeIssues (field : Field) : List Issue :=
  if (Text.trim field.typeName).isEmpty then
    [{ code := "type_required", path := "/type", message := "field type is required" }]
  else []

/-- A length of zero. -/
def lengthIssues (field : Field) : List Issue :=
  if field.maxLength == some 0 then
    [{ code := "invalid_max_length", path := "/maxLength", message := "max length must be greater than zero" }]
  else []

/-- A constraint that is not registered or does not suit the type of the field. -/
def constraintIssues (typeName : String) (index : Nat) (constraint : Constraint) : List Issue :=
  let name := constraint.trimmedName
  let typeName := Text.trim typeName
  let path := "/constraints/" ++ toString index
  if name.isEmpty then []
  else if (ConstraintRule.find? name).isNone then
    [{ code := "unknown_constraint", path, message := "unknown constraint '" ++ name ++ "'" }]
  else if !typeName.isEmpty && !ConstraintRule.isApplicable name typeName then
    [{ code := "constraint_not_applicable", path,
       message := "constraint '" ++ name ++ "' does not apply to type '" ++ typeName ++ "'" }]
  else []

/-- The first fault of the list of constraints. -/
def constraintListIssues (field : Field) : List Issue :=
  match Constraint.firstFault? field.constraints with
  | some fault => [{ code := "invalid_constraint", path := "/constraints", message := fault.message }]
  | none => []

/-- What is wrong with a field among its siblings; `editing` is the place of the field itself among
them. -/
def fieldIssues (field : Field) (siblings : List Field) (editing : Option Nat) (owner : FieldOwner) :
    List Issue :=
  let others := otherFields siblings editing
  fieldNameIssues field others ++ keyIssues field others owner ++ typeIssues field ++ lengthIssues field ++
    constraintListIssues field ++
    (field.constraints.mapIdx (constraintIssues field.typeName)).flatten

/-- What is wrong with a list of fields as a whole. -/
def fieldListIssues (fields : List Field) (owner : FieldOwner) : List Issue :=
  if fields.isEmpty then
    [{ code := "fields_empty", path := "/fields", message := "at least one field is required" }]
  else if owner == .entity && !fields.any (·.primaryKey) then
    [{ code := "primary_key_missing", path := "/fields",
       message := "at least one field must be marked as primary key",
       hint := some "mark the identifier column as primary key" }]
  else []

/-- What is wrong with the fields of an entity or a data object. Each field is held against those
before it, so a clash is reported once, at the later field. -/
def fieldsIssues (fields : List Field) (owner : FieldOwner) : List Issue :=
  fieldListIssues fields owner ++
    (fields.mapIdx fun i field =>
      (fieldIssues field (fields.take i) none owner).map (·.nestAt ("/fields/" ++ toString i))).flatten

end DomainModel.Rule
