import DomainModel.Model.AutoMap
import DomainModel.Model.Lookup
import DomainModel.Rule.Name

/-! The rule for mappers. Every field of the source model needs a target. -/

namespace DomainModel.Rule

/-- An end of a mapper that is missing or unknown. -/
def endpointIssues (name role path : String) (project : Project) : List Issue :=
  if name.isEmpty then
    [{ code := role ++ "_model_required", path, message := role ++ " model is required" }]
  else if (project.fieldsOf? name).isNone then
    [{ code := "unknown_model", path, message := "no entity or data object named '" ++ name ++ "'" }]
  else []

/-- The fields of a model that has a name. -/
def endpointFields? (name : String) (project : Project) : Option (List Field) :=
  if name.isEmpty then none else project.fieldsOf? name

/-- A mapper from a model to itself. -/
def sameModelIssues (fromName toName : String) : List Issue :=
  if !fromName.isEmpty && Text.equalIgnoringCase fromName toName then
    [{ code := "same_model", path := "/toModel", message := "source and target model must be different" }]
  else []

/-- The first field of that name. -/
def findField? (fields : List Field) (name : String) : Option Field :=
  fields.find? fun field => Text.equalIgnoringCase field.name name

/-- A name in a row that is not the name of a field; a blank one is no name. -/
def rowNameIssues (found : Option Field) (role path model name : String) : List Issue :=
  if !name.isEmpty && found.isNone then
    [{ code := "unknown_" ++ role ++ "_field", path,
       message := "'" ++ model ++ "' has no field '" ++ name ++ "'" }]
  else []

/-- Two fields that cannot be mapped for their types. -/
def rowTypeIssues (source target : Option Field) (path : String) : List Issue :=
  match source, target with
  | some source, some target =>
    if TypeName.compatible source.typeName target.typeName then []
    else
      [{ code := "incompatible_types", path,
         message := "cannot map '" ++ source.name ++ "' (" ++ source.typeName ++ ") to '" ++ target.name ++
           "' (" ++ target.typeName ++ ")" }]
  | _, _ => []

/-- What is wrong with a row. -/
def rowIssues (fromName toName : String) (fromFields toFields : List Field) (index : Nat) (mapping : FieldMapping) :
    List Issue :=
  let path := "/mappings/" ++ toString index
  let sourceName := Text.trim mapping.sourceField
  let targetName := Text.trim mapping.targetField
  let source := findField? fromFields sourceName
  let target := findField? toFields targetName
  rowNameIssues source "source" (path ++ "/sourceField") fromName sourceName ++
    rowNameIssues target "target" (path ++ "/targetField") toName targetName ++
    rowTypeIssues source target (path ++ "/targetField")

/-- The source fields without a target. -/
def unmappedFields (fromFields : List Field) (mappings : List FieldMapping) : List String :=
  (fromFields.filter fun field => (explicitTarget? mappings field.name).isNone).map (·.name)

/-- Source fields without a target. -/
def coverageIssues (fromFields : List Field) (mappings : List FieldMapping) : List Issue :=
  let unmapped := unmappedFields fromFields mappings
  if unmapped.isEmpty then []
  else
    [{ code := "all_rows_mapped", path := "/mappings",
       message := "every source field must be mapped, missing: " ++ ", ".intercalate unmapped,
       hint := some "pick a target field for each row or run auto-mapping" }]

/-- What is wrong with the rows of a mapper between two models. -/
def rowsIssues (fromName toName : String) (fromFields toFields : List Field) (mappings : List FieldMapping) :
    List Issue :=
  (mappings.mapIdx (rowIssues fromName toName fromFields toFields)).flatten ++
    coverageIssues fromFields mappings

/-- What is wrong with a mapper; `former` is the name that it had so far. The rows are looked at
when both models are known. -/
def mapperIssues (mapper : Mapper) (project : Project) (former : Option String) : List Issue :=
  let fromName := Text.trim mapper.fromModel
  let toName := Text.trim mapper.toModel
  nameIssues mapper.name .mapper (project.mappers.map (·.name)) former ++
    endpointIssues fromName "source" "/fromModel" project ++
    endpointIssues toName "target" "/toModel" project ++
    sameModelIssues fromName toName ++
    match endpointFields? fromName project, endpointFields? toName project with
    | some fromFields, some toFields => rowsIssues fromName toName fromFields toFields mapper.mappings
    | _, _ => []

end DomainModel.Rule
