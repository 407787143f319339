import DomainModel.Json.Value
import DomainModel.Model.Basic

/-! Writing a model as JSON. Every part is written in a fixed order; options that are absent are
left out, and so is an empty list of constraints. -/

namespace DomainModel

open Json (Value)

/-- A member that is there. -/
def presentMember (key : String) (value : Option Value) : List (String × Value) :=
  match value with
  | some value => [(key, value)]
  | none => []

/-- The JSON form of a constraint. -/
def Constraint.toJson (constraint : Constraint) : Value :=
  .object <| [("name", .text constraint.name)] ++
    presentMember "value" (constraint.value.map .text) ++
    presentMember "value2" (constraint.value2.map .text)

/-- The JSON form of a field. -/
def Field.toJson (field : Field) : Value :=
  .object <| [("name", .text field.name), ("type", .text field.typeName)] ++
    presentMember "maxLength" (field.maxLength.map fun n => .number (.integer n.toNat)) ++
    [("primaryKey", .bool field.primaryKey), ("required", .bool field.required),
      ("unique", .bool field.unique)] ++
    presentMember "jsonProperty" (field.jsonProperty.map .text) ++
    (if field.constraints.isEmpty then []
      else [("constraints", .list (field.constraints.map Constraint.toJson))])

/-- The JSON form of an entity. -/
def Entity.toJson (entity : Entity) : Value :=
  .object
    [("name", .text entity.name), ("fields", .list (entity.fields.map Field.toJson)),
      ("mappedSuperclass", .bool entity.mappedSuperclass), ("addRestEndpoints", .bool entity.addRestEndpoints),
      ("addCrudOperations", .bool entity.addCrudOperations), ("auditable", .bool entity.auditable),
      ("softDelete", .bool entity.softDelete), ("immutable", .bool entity.immutable),
      ("naturalIdCache", .bool entity.naturalIdCache)]

/-- The JSON form of a relation. -/
def Relation.toJson (relation : Relation) : Value :=
  .object <|
    [("sourceEntity", .text relation.sourceEntity), ("targetEntity", .text relation.targetEntity),
      ("sourceFieldName", .text relation.sourceFieldName),
      ("relationType", .text relation.relationType.toText)] ++
    presentMember "targetFieldName" (relation.targetFieldName.map .text) ++
    [("required", .bool relation.required)]

/-- The name of a direction. -/
def Direction.toText : Direction → String
  | .request => "request"
  | .response => "response"

/-- The JSON form of a data object. -/
def DataObject.toJson (object : DataObject) : Value :=
  .object <|
    [("name", .text object.name), ("dtoType", .text object.direction.toText),
      ("fields", .list (object.fields.map Field.toJson)), ("classMethods", .bool object.classMethods)] ++
    presentMember "responseWrapper" (object.responseWrapper.map .text) ++
    [("enableFieldProjection", .bool object.enableFieldProjection),
      ("includeHateoasLinks", .bool object.includeHateoasLinks)]

/-- The JSON form of a row. -/
def FieldMapping.toJson (mapping : FieldMapping) : Value :=
  .object [("sourceField", .text mapping.sourceField), ("targetField", .text mapping.targetField)]

/-- The JSON form of a mapper. -/
def Mapper.toJson (mapper : Mapper) : Value :=
  .object
    [("name", .text mapper.name), ("fromModel", .text mapper.fromModel), ("toModel", .text mapper.toModel),
      ("mappings", .list (mapper.mappings.map FieldMapping.toJson))]

/-- The JSON form of package coordinates. -/
def Coordinates.toJson (settings : Coordinates) : Value :=
  .object <| [("groupId", .text settings.groupId), ("artifactId", .text settings.artifactId)] ++
    presentMember "name" (settings.name.map .text)

/-- The JSON form of an import. -/
def ImportedSchema.toJson (imported : ImportedSchema) : Value :=
  .object
    [("entities", .list (imported.entities.map Entity.toJson)),
      ("relations", .list (imported.relations.map Relation.toJson))]

/-- The JSON form of a project. -/
def Project.toJson (project : Project) : Value :=
  .object <| presentMember "settings" (project.settings.map Coordinates.toJson) ++
    [("entities", .list (project.entities.map Entity.toJson)),
      ("relations", .list (project.relations.map Relation.toJson)),
      ("dataObjects", .list (project.dataObjects.map DataObject.toJson)),
      ("mappers", .list (project.mappers.map Mapper.toJson))]

end DomainModel
