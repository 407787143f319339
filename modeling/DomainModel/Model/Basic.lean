/-! The domain model: entities with fields and constraints, relations between entities, request and
response objects, and mappers that copy fields from one model to another. -/

namespace DomainModel

/-- A validation rule attached to a field, such as `Size` or `Pattern`, with up to two values. -/
structure Constraint where
  name : String
  value : Option String := none
  value2 : Option String := none
  deriving DecidableEq, Repr

/-- A field of an entity or a data object. -/
structure Field where
  name : String
  /-- The canonical name of a type, such as `String`, `Long` or `List<String>`. -/
  typeName : String
  maxLength : Option UInt32 := none
  primaryKey : Bool := false
  required : Bool := false
  unique : Bool := false
  /-- The name that serializers use in place of the field's own. -/
  jsonProperty : Option String := none
  constraints : List Constraint := []
  deriving DecidableEq, Repr

/-- The key that a table or an entity without one is given. -/
def Field.syntheticId : Field :=
  { name := "id", typeName := "Long", primaryKey := true, required := true }

/-- A persistent object. -/
structure Entity where
  name : String
  fields : List Field := []
  mappedSuperclass : Bool := false
  addRestEndpoints : Bool := false
  addCrudOperations : Bool := false
  auditable : Bool := false
  softDelete : Bool := false
  immutable : Bool := false
  naturalIdCache : Bool := false
  deriving DecidableEq, Repr

/-- The kind of an association. A tag that is none of the four is kept as it is. -/
inductive RelationType where
  | oneToOne
  | oneToMany
  | manyToOne
  | manyToMany
  | other (tag : String)
  deriving DecidableEq, Repr

namespace RelationType

/-- Reads a tag by its ASCII letters and digits, ignoring case. -/
def parse (tag : String) : RelationType :=
  let key := String.ofList ((tag.toList.filter Char.isAlphanum).map Char.toLower)
  if key == "onetoone" then .oneToOne
  else if key == "onetomany" then .oneToMany
  else if key == "manytoone" then .manyToOne
  else if key == "manytomany" then .manyToMany
  else .other tag

/-- The tag of a relation type. -/
def toText : RelationType → String
  | .oneToOne => "OneToOne"
  | .oneToMany => "OneToMany"
  | .manyToOne => "ManyToOne"
  | .manyToMany => "ManyToMany"
  | .other tag => tag

/-- Whether the type is one of the four. -/
def isKnown : RelationType → Bool
  | .other _ => false
  | _ => true

/-- Whether the type leads to at most one object. -/
def isSingleValued : RelationType → Bool
  | .oneToOne => true
  | .manyToOne => true
  | _ => false

end RelationType

/-- An association between two entities, held by a field of the first. -/
structure Relation where
  sourceEntity : String
  targetEntity : String
  sourceFieldName : String
  relationType : RelationType
  targetFieldName : Option String := none
  required : Bool := false
  deriving DecidableEq, Repr

/-- Which way a data object travels. -/
inductive Direction where
  | request
  | response
  deriving DecidableEq, Repr

/-- An object that carries a request or a response. -/
structure DataObject where
  name : String
  direction : Direction
  fields : List Field := []
  /-- Whether the class gets `equals`, `hashCode` and `toString`. -/
  classMethods : Bool := false
  /-- The type around a response. -/
  responseWrapper : Option String := none
  enableFieldProjection : Bool := false
  includeHateoasLinks : Bool := false
  deriving DecidableEq, Repr

/-- A row of a mapper. -/
structure FieldMapping where
  sourceField : String
  targetField : String
  deriving DecidableEq, Repr

/-- A mapping from the fields of one model to those of another. -/
structure Mapper where
  name : String
  fromModel : String
  toModel : String
  mappings : List FieldMapping := []
  deriving DecidableEq, Repr

/-- The package coordinates of the generated project. -/
structure Coordinates where
  groupId : String
  artifactId : String
  name : Option String := none
  deriving DecidableEq, Repr

/-- What an import yields. -/
structure ImportedSchema where
  entities : List Entity
  relations : List Relation := []
  deriving DecidableEq, Repr

/-- A project as it is edited. -/
structure Project where
  settings : Option Coordinates := none
  entities : List Entity := []
  relations : List Relation := []
  dataObjects : List DataObject := []
  mappers : List Mapper := []
  deriving DecidableEq, Repr

end DomainModel
