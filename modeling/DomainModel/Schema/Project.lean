import DomainModel.Schema.Basic

/-! The schema of project files. -/

namespace DomainModel.Schema

open Json (Value)

private def empty : SchemaNotes := { default := some (.list []) }
private def off : SchemaNotes := { default := some (.bool false) }
private def text : Schema := .scalar {} [.text]
private def optionalText : Schema := .scalar {} [.text, .null]
private def flag : Schema := .scalar off [.bool]
private def described (description : String) : SchemaNotes := { description := some description }

/-- A constraint. -/
def constraint : Schema :=
  .named "Constraint" <| .record (described "A named validation rule attached to a field (e.g. `Size`, `Pattern`).")
    ["name"] [("name", text), ("value", optionalText), ("value2", optionalText)]

/-- A field. -/
def field : Schema :=
  .named "Field" <| .record (described "A single field of an entity or data object.") ["name", "type"]
    [("constraints", .list {} constraint),
      ("jsonProperty", .scalar (described "Explicit JSON property name used by generated serializers.") [.text, .null]),
      ("maxLength", .count [.integer, .null] "uint32"), ("name", text), ("primaryKey", flag), ("required", flag),
      ("type", .scalar (described "Canonical type name (e.g. `String`, `Long`, `List<String>`).") [.text]),
      ("unique", flag)]

/-- An entity. -/
def entity : Schema :=
  .named "Entity" <| .record (described "A persistent domain object definition.") ["name"]
    [("addCrudOperations", flag), ("addRestEndpoints", flag), ("auditable", flag), ("fields", .list empty field),
      ("immutable", flag), ("mappedSuperclass", flag), ("name", text), ("naturalIdCache", flag),
      ("softDelete", flag)]

/-- A relation. -/
def relation : Schema :=
  .named "Relation" <| .record (described "A typed association between two entities.")
    ["relationType", "sourceEntity", "sourceFieldName", "targetEntity"]
    [("relationType", text), ("required", flag), ("sourceEntity", text), ("sourceFieldName", text),
      ("targetEntity", text), ("targetFieldName", optionalText)]

/-- A direction. -/
def direction : Schema :=
  .named "DtoType" <| .choice (described "Direction of a data-transfer object.") ["request", "response"]

/-- A data object. -/
def dataObject : Schema :=
  .named "DataObject" <| .record (described "A request or response transfer object definition.") ["dtoType", "name"]
    [("classMethods", .scalar
        { off with description := some "Generate `equals`/`hashCode`/`toString` for the class." } [.bool]),
      ("dtoType", direction), ("enableFieldProjection", flag), ("fields", .list empty field),
      ("includeHateoasLinks", flag), ("name", text),
      ("responseWrapper", .scalar (described "Wrapper type used around response payloads.") [.text, .null])]

/-- A row of a mapper. -/
def fieldMapping : Schema :=
  .named "FieldMapping" <| .record (described "One source-to-target row of a mapper.")
    ["sourceField", "targetField"] [("sourceField", text), ("targetField", text)]

/-- A mapper. -/
def mapper : Schema :=
  .named "MapperDefinition" <| .record (described "A named field-to-field mapping between two models.")
    ["fromModel", "name", "toModel"]
    [("fromModel", text), ("mappings", .list empty fieldMapping), ("name", text), ("toModel", text)]

/-- Package coordinates. -/
def coordinates : Schema :=
  .named "ProjectSettings" <| .record (described "Package coordinates of the generated project.")
    ["artifactId", "groupId"] [("artifactId", text), ("groupId", text), ("name", optionalText)]

/-- A project. -/
def project : Schema :=
  .record (described "The working project model an editing session operates on.") []
    [("dataObjects", .list empty dataObject), ("entities", .list empty entity), ("mappers", .list empty mapper),
      ("relations", .list empty relation), ("settings", .anyOf [coordinates, .scalar {} [.null]])]

/-- The document that spells out the schema of project files. -/
def projectDocument : Value :=
  .object <|
    [("$schema", .text "http://json-schema.org/draft-07/schema#"), ("title", .text "ProjectModel")] ++
      project.toMembers ++
      [("definitions", .object
        ([constraint, dataObject, direction, entity, field, fieldMapping, mapper, coordinates, relation].map
          definition))]

end DomainModel.Schema
