/-! The keys under which exports keep what they say about entities, fields, constraints and
relations. In each list the earlier keys win over the later ones. -/

namespace DomainModel.SchemaExport

/-- Where a document may keep its entities. -/
def entityPaths : List (List String) := [["entities"], ["schema", "entities"], ["model", "entities"]]

/-- Where a document may keep its relations. -/
def relationPaths : List (List String) :=
  [["relations"], ["schema", "relations"], ["model", "relations"], ["relationships"]]

def entityNameKeys : List String := ["name", "entityName", "table", "tableName", "entity"]
def entityFieldsKeys : List String := ["fields", "columns", "attributes"]
def mappedSuperclassKeys : List String :=
  ["mappedSuperclass", "mapped_superclass", "isMappedSuperclass"]
def restEndpointsKeys : List String := ["addRestEndpoints", "add_rest_endpoints", "restEndpoints"]
def crudOperationsKeys : List String := ["addCrudOperations", "add_crud_operations", "crudOperations"]
def auditableKeys : List String := ["auditable", "isAuditable"]
def softDeleteKeys : List String := ["softDelete", "soft_delete", "isSoftDelete"]
def immutableKeys : List String := ["immutable", "isImmutable"]
def naturalIdCacheKeys : List String := ["naturalIdCache", "natural_id_cache"]

def fieldNameKeys : List String := ["name", "fieldName", "column", "columnName", "attribute"]
def fieldTypeKeys : List String := ["type", "fieldType", "dataType"]
def maxLengthKeys : List String := ["maxLength", "length", "size"]
def primaryKeyKeys : List String := ["primaryKey", "pk", "isPrimaryKey", "primary_key", "primary"]
def requiredKeys : List String := ["required", "notNull", "isRequired", "not_null", "mandatory"]
def nullableKeys : List String := ["nullable", "isNullable"]
def uniqueKeys : List String := ["unique", "isUnique"]
def jsonPropertyKeys : List String := ["jsonProperty", "json_property", "jsonName"]
def constraintsKeys : List String := ["constraints", "validations"]

def constraintNameKeys : List String := ["name", "constraint", "type"]
def constraintValueKeys : List String := ["value", "value1", "min"]
def constraintValue2Keys : List String := ["value2", "secondValue", "max"]

def sourceEntityKeys : List String :=
  ["sourceEntity", "source", "from", "fromEntity", "source_entity"]
def targetEntityKeys : List String := ["targetEntity", "target", "to", "toEntity", "target_entity"]
def sourceFieldKeys : List String :=
  ["sourceFieldName", "sourceField", "fieldName", "source_field_name"]
def targetFieldKeys : List String :=
  ["targetFieldName", "targetField", "mappedBy", "target_field_name"]
def relationTypeKeys : List String :=
  ["relationType", "type", "relation", "kind", "cardinality", "relation_type"]

end DomainModel.SchemaExport
