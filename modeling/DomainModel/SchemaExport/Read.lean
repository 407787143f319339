import DomainModel.Model.Basic
import DomainModel.Naming.Case
import DomainModel.SchemaExport.Alias
import DomainModel.SchemaExport.Usable

/-! Reading an export of a schema into entities and relations. Entities without a name are dropped,
and so are relations to entities that are not in the export; only an export without a list of
entities is refused as a whole. -/

namespace DomainModel.SchemaExport

open Json (Value)

/-- The list at the first of the paths that leads to one. A document that is a list has no paths. -/
def listAt? (root : Value) (paths : List (List String)) : Option (List Value) :=
  paths.findSome? fun path => (path.foldlM Value.get? root).bind Value.items?

/-- The entities of an export as it spells them. -/
def rawEntities? : Value → Option (List Value)
  | .list items => some items
  | root => listAt? root entityPaths

/-- The relations of an export as it spells them. -/
def rawRelations (root : Value) : List Value := (listAt? root relationPaths).getD []

/-- A constraint, or just its name. -/
def constraint? : Value → Option Constraint
  | .text name => some { name := Text.trim name }
  | .object members =>
    some
      { name := (firstUsable name? members constraintNameKeys).getD ""
        value := firstUsable scalar? members constraintValueKeys
        value2 := firstUsable scalar? members constraintValue2Keys }
  | _ => none

/-- Whether a field must have a value: as it says, or else unless it is nullable. -/
def isRequired (members : Members) : Bool :=
  ((firstUsable truth? members requiredKeys).or
    ((firstUsable truth? members nullableKeys).map (!·))).getD false

/-- The constraints of a field. -/
def constraintsOf (members : Members) : List Constraint :=
  match firstUsable anything? members constraintsKeys with
  | some (.list items) => items.filterMap constraint?
  | _ => []

/-- A field; without a name of its own it takes the one it is kept under. -/
def field? (members : Members) (key : Option String) : Option Field :=
  match (firstUsable name? members fieldNameKeys).or (key.bind Text.nonBlank?) with
  | none => none
  | some name =>
    some
      { name
        typeName := (firstUsable name? members fieldTypeKeys).getD "String"
        maxLength := firstUsable length? members maxLengthKeys
        primaryKey := (firstUsable truth? members primaryKeyKeys).getD false
        required := isRequired members
        unique := (firstUsable truth? members uniqueKeys).getD false
        jsonProperty := firstUsable name? members jsonPropertyKeys
        constraints := constraintsOf members }

/-- A field in a list. -/
def listedField? : Value → Option Field
  | .object members => field? members none
  | _ => none

/-- A field that is kept under its name; it may be just a type. -/
def keptField? : String × Value → Option Field
  | (key, .text typeName) => some { name := Text.trim key, typeName := Text.trim typeName }
  | (key, .object members) => field? members (some key)
  | _ => none

/-- The fields of an entity: a list, or an object that keeps each under its name. -/
def fieldsOf : Value → List Field
  | .list items => items.filterMap listedField?
  | .object members => members.filterMap keptField?
  | _ => []

/-- An entity. One without fields is given a key. -/
def entityNamed (name : String) (members : Members) : Entity :=
  let fields := ((firstUsable anything? members entityFieldsKeys).map fieldsOf).getD []
  let flag (keys : List String) : Bool := (firstUsable truth? members keys).getD false
  { name
    fields := if fields.isEmpty then [Field.syntheticId] else fields
    mappedSuperclass := flag mappedSuperclassKeys
    addRestEndpoints := flag restEndpointsKeys
    addCrudOperations := flag crudOperationsKeys
    auditable := flag auditableKeys
    softDelete := flag softDeleteKeys
    immutable := flag immutableKeys
    naturalIdCache := flag naturalIdCacheKeys }

/-- An entity; none if it has no name. -/
def entity? : Value → Option Entity
  | .object members => (firstUsable name? members entityNameKeys).map (entityNamed · members)
  | _ => none

/-- The name of the entity that is called so: exactly, or else ignoring case. -/
def resolve? (entities : List Entity) (name : String) : Option String :=
  ((entities.find? (·.name == name)).or
    (entities.find? fun entity => Text.equalIgnoringCase entity.name name)).map (·.name)

/-- The two ends of a relation. -/
def ends? (entities : List Entity) (members : Members) : Option (String × String) := do
  let source ← (firstUsable name? members sourceEntityKeys).bind (resolve? entities)
  let target ← (firstUsable name? members targetEntityKeys).bind (resolve? entities)
  return (source, target)

/-- A relation between two entities. -/
def relationBetween (source target : String) (members : Members) : Relation :=
  { sourceEntity := source
    targetEntity := target
    sourceFieldName := (firstUsable name? members sourceFieldKeys).getD (Naming.decapitalize target)
    relationType := ((firstUsable name? members relationTypeKeys).map RelationType.parse).getD .manyToOne
    targetFieldName := firstUsable name? members targetFieldKeys
    required := (firstUsable truth? members requiredKeys).getD false }

/-- A relation; none if one of its ends is unknown, or if both are one entity and that is not
allowed. -/
def relation? (allowSelfReference : Bool) (entities : List Entity) : Value → Option Relation
  | .object members =>
    match ends? entities members with
    | none => none
    | some (source, target) =>
      if !allowSelfReference && source == target then none
      else some (relationBetween source target members)
  | _ => none

/-- Reads an export; none if it has no list of entities. -/
def read? (allowSelfReference : Bool) (root : Value) : Option ImportedSchema :=
  (rawEntities? root).map fun raw =>
    let entities := raw.filterMap entity?
    { entities, relations := (rawRelations root).filterMap (relation? allowSelfReference entities) }

/-- Something that happened while an export was read. -/
inductive Note where
  | entityWithoutName
  | unknownEntity
  | selfReference (entity : String)
  | finished (entities relations : Nat)
  deriving DecidableEq, Repr

/-- What happens while an entity is read. -/
def entityNotes : Value → List Note
  | .object members => if (firstUsable name? members entityNameKeys).isSome then [] else [.entityWithoutName]
  | _ => []

/-- What happens while a relation is read. -/
def relationNotes (allowSelfReference : Bool) (entities : List Entity) : Value → List Note
  | .object members =>
    match ends? entities members with
    | none => [.unknownEntity]
    | some (source, target) =>
      if !allowSelfReference && source == target then [.selfReference source] else []
  | _ => []

/-- What happens while an export is read. -/
def notes (allowSelfReference : Bool) (root : Value) : List Note :=
  match rawEntities? root, read? allowSelfReference root with
  | some raw, some schema =>
    raw.flatMap entityNotes ++
      (rawRelations root).flatMap (relationNotes allowSelfReference schema.entities) ++
      [.finished schema.entities.length schema.relations.length]
  | _, _ => []

end DomainModel.SchemaExport
