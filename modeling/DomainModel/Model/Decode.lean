import DomainModel.Json.Shape
import DomainModel.Model.Basic

/-! Reading a model from JSON. The slots of a shape stand in the order in which a record is written
as a list; what a builder takes from a place is the slot of that place. -/

namespace DomainModel

open Json.Shape
open Json (Shape)

/-- A constraint. -/
def Constraint.shape : Shape Constraint :=
  .record [text.required "name", text.optional.omittable "value", text.optional.omittable "value2"] fun doc =>
    { name := text.part "" doc 0 "name"
      value := text.optional.part none doc 1 "value"
      value2 := text.optional.part none doc 2 "value2" }

/-- A field. -/
def Field.shape : Shape Field :=
  .record
    [text.required "name", text.required "type", word.optional.omittable "maxLength", flag.omittable "primaryKey",
      flag.omittable "required", flag.omittable "unique", text.optional.omittable "jsonProperty",
      Constraint.shape.listOf.omittable "constraints"] fun doc =>
    { name := text.part "" doc 0 "name"
      typeName := text.part "" doc 1 "type"
      maxLength := word.optional.part none doc 2 "maxLength"
      primaryKey := flag.part false doc 3 "primaryKey"
      required := flag.part false doc 4 "required"
      unique := flag.part false doc 5 "unique"
      jsonProperty := text.optional.part none doc 6 "jsonProperty"
      constraints := Constraint.shape.listOf.part [] doc 7 "constraints" }

/-- An entity. -/
def Entity.shape : Shape Entity :=
  .record
    [text.required "name", Field.shape.listOf.omittable "fields", flag.omittable "mappedSuperclass",
      flag.omittable "addRestEndpoints", flag.omittable "addCrudOperations", flag.omittable "auditable",
      flag.omittable "softDelete", flag.omittable "immutable", flag.omittable "naturalIdCache"] fun doc =>
    { name := text.part "" doc 0 "name"
      fields := Field.shape.listOf.part [] doc 1 "fields"
      mappedSuperclass := flag.part false doc 2 "mappedSuperclass"
      addRestEndpoints := flag.part false doc 3 "addRestEndpoints"
      addCrudOperations := flag.part false doc 4 "addCrudOperations"
      auditable := flag.part false doc 5 "auditable"
      softDelete := flag.part false doc 6 "softDelete"
      immutable := flag.part false doc 7 "immutable"
      naturalIdCache := flag.part false doc 8 "naturalIdCache" }

/-- A relation type. -/
def RelationType.shape : Shape RelationType := text.map RelationType.parse

/-- A relation. -/
def Relation.shape : Shape Relation :=
  .record
    [text.required "sourceEntity", text.required "targetEntity", text.required "sourceFieldName",
      RelationType.shape.required "relationType", text.optional.omittable "targetFieldName",
      flag.omittable "required"] fun doc =>
    { sourceEntity := text.part "" doc 0 "sourceEntity"
      targetEntity := text.part "" doc 1 "targetEntity"
      sourceFieldName := text.part "" doc 2 "sourceFieldName"
      relationType := RelationType.shape.part .manyToOne doc 3 "relationType"
      targetFieldName := text.optional.part none doc 4 "targetFieldName"
      required := flag.part false doc 5 "required" }

/-- A direction. -/
def Direction.shape : Shape Direction :=
  .oneOf [("request", .request), ("response", .response)] .request

/-- A data object. -/
def DataObject.shape : Shape DataObject :=
  .record
    [text.required "name", Direction.shape.required "dtoType", Field.shape.listOf.omittable "fields",
      flag.omittable "classMethods", text.optional.omittable "responseWrapper",
      flag.omittable "enableFieldProjection", flag.omittable "includeHateoasLinks"] fun doc =>
    { name := text.part "" doc 0 "name"
      direction := Direction.shape.part .request doc 1 "dtoType"
      fields := Field.shape.listOf.part [] doc 2 "fields"
      classMethods := flag.part false doc 3 "classMethods"
      responseWrapper := text.optional.part none doc 4 "responseWrapper"
      enableFieldProjection := flag.part false doc 5 "enableFieldProjection"
      includeHateoasLinks := flag.part false doc 6 "includeHateoasLinks" }

/-- A row of a mapper. -/
def FieldMapping.shape : Shape FieldMapping :=
  .record [text.required "sourceField", text.required "targetField"] fun doc =>
    { sourceField := text.part "" doc 0 "sourceField"
      targetField := text.part "" doc 1 "targetField" }

/-- A mapper. -/
def Mapper.shape : Shape Mapper :=
  .record
    [text.required "name", text.required "fromModel", text.required "toModel",
      FieldMapping.shape.listOf.omittable "mappings"] fun doc =>
    { name := text.part "" doc 0 "name"
      fromModel := text.part "" doc 1 "fromModel"
      toModel := text.part "" doc 2 "toModel"
      mappings := FieldMapping.shape.listOf.part [] doc 3 "mappings" }

/-- Package coordinates. -/
def Coordinates.shape : Shape Coordinates :=
  .record [text.required "groupId", text.required "artifactId", text.optional.omittable "name"] fun doc =>
    { groupId := text.part "" doc 0 "groupId"
      artifactId := text.part "" doc 1 "artifactId"
      name := text.optional.part none doc 2 "name" }

/-- An import. -/
def ImportedSchema.shape : Shape ImportedSchema :=
  .record [Entity.shape.listOf.required "entities", Relation.shape.listOf.omittable "relations"] fun doc =>
    { entities := Entity.shape.listOf.part [] doc 0 "entities"
      relations := Relation.shape.listOf.part [] doc 1 "relations" }

/-- A project. -/
def Project.shape : Shape Project :=
  .record
    [Coordinates.shape.optional.omittable "settings", Entity.shape.listOf.omittable "entities",
      Relation.shape.listOf.omittable "relations", DataObject.shape.listOf.omittable "dataObjects",
      Mapper.shape.listOf.omittable "mappers"] fun doc =>
    { settings := Coordinates.shape.optional.part none doc 0 "settings"
      entities := Entity.shape.listOf.part [] doc 1 "entities"
      relations := Relation.shape.listOf.part [] doc 2 "relations"
      dataObjects := DataObject.shape.listOf.part [] doc 3 "dataObjects"
      mappers := Mapper.shape.listOf.part [] doc 4 "mappers" }

/-- Reads a project file. -/
def Project.read (text : String) : Except Json.Fault Project := Project.shape.readText text

/-- Reads a project from a value. -/
def Project.ofJson? (value : Json.Value) : Option Project := Project.shape.ofValue? value

end DomainModel
