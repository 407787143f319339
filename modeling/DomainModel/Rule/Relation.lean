import DomainModel.Model.Lookup
import DomainModel.Report
import DomainModel.Text.Blank
import DomainModel.TypeName

/-! The rule for relations. -/

namespace DomainModel.Rule

/-- An end of a relation that is no entity. -/
def endIssues (found : Option Entity) (role path name : String) : List Issue :=
  if found.isNone then
    [{ code := "unknown_" ++ role ++ "_entity", path,
       message := role ++ " entity '" ++ name ++ "' does not exist" }]
  else []

/-- A relation from an entity to itself, where that is not allowed. -/
def selfReferenceIssues (relation : Relation) (allowSelfReference : Bool) : List Issue :=
  if !allowSelfReference &&
      Text.equalIgnoringCase (Text.trim relation.sourceEntity) (Text.trim relation.targetEntity) then
    [{ code := "self_reference", path := "/targetEntity",
       message := "source and target entity must be different" }]
  else []

/-- What is wrong with the name of the field that holds the relation. -/
def sourceFieldIssues (fieldName : String) : List Issue :=
  if fieldName.isEmpty then
    [{ code := "source_field_required", path := "/sourceFieldName", message := "source field name is required" }]
  else if !fieldName.toList.all Char.isAlphanum then
    [{ code := "invalid_source_field", path := "/sourceFieldName",
       message := "'" ++ fieldName ++ "' must contain only letters and digits",
       hint := some "remove spaces and punctuation from the field name" }]
  else []

/-- A type of relation that is none of the known ones; that is a warning. -/
def relationTypeIssues (relationType : RelationType) : List Issue :=
  if relationType.isKnown then []
  else
    [{ severity := .warning, code := "unknown_relation_type", path := "/relationType",
       message := "relation type '" ++ relationType.toText ++
         "' is not one of OneToOne, OneToMany, ManyToOne, ManyToMany" }]

/-- A field on the other side that the target does not have. -/
def targetFieldIssues (target : Option Entity) (targetField : Option String) : List Issue :=
  match target, targetField with
  | some target, some name =>
    if (target.field? name).isNone then
      [{ code := "unknown_target_field", path := "/targetFieldName",
         message := "entity '" ++ target.name ++ "' has no field '" ++ name ++ "'" }]
    else []
  | _, _ => []

/-- A field of the source that holds the relation already, with another type than the key of the
target. -/
def keyTypeIssues (relationType : RelationType) (fieldName : String) (source target : Option Entity) :
    List Issue :=
  if relationType.isSingleValued && !fieldName.isEmpty then
    match source.bind (·.field? fieldName), target, target.bind (·.primaryKey?) with
    | some existing, some target, some key =>
      if TypeName.compatible existing.typeName key.typeName then []
      else
        [{ code := "incompatible_relation_type", path := "/sourceFieldName",
           message := "field '" ++ existing.name ++ "' of type '" ++ existing.typeName ++
             "' cannot reference " ++ target.name ++ "." ++ key.name ++ " of type '" ++ key.typeName ++ "'" }]
    | _, _, _ => []
  else []

/-- Whether a relation is held by the named field of the named entity. -/
def isHeldBy (entityName fieldName : String) (relation : Relation) : Bool :=
  Text.equalIgnoringCase (Text.trim relation.sourceEntity) entityName &&
    Text.equalIgnoringCase (Text.trim relation.sourceFieldName) fieldName

/-- Another relation that is held by the same field. -/
def clashIssues (relation : Relation) (fieldName : String) (others : List Relation) : List Issue :=
  if !fieldName.isEmpty && others.any (isHeldBy (Text.trim relation.sourceEntity) fieldName) then
    [{ code := "duplicate_relation_field", path := "/sourceFieldName",
       message := "entity '" ++ relation.sourceEntity ++ "' already has a relation field named '" ++
         fieldName ++ "'" }]
  else []

/-- The relations of a project but the one that is being edited. -/
def otherRelations (project : Project) (editing : Option Nat) : List Relation :=
  match editing with
  | some i => project.relations.eraseIdx i
  | none => project.relations

/-- What is wrong with a relation; `editing` is the place of the relation itself in the project. -/
def relationIssues (relation : Relation) (project : Project) (allowSelfReference : Bool) (editing : Option Nat) :
    List Issue :=
  let source := project.entity? (Text.trim relation.sourceEntity)
  let target := project.entity? (Text.trim relation.targetEntity)
  let fieldName := Text.trim relation.sourceFieldName
  endIssues source "source" "/sourceEntity" relation.sourceEntity ++
    endIssues target "target" "/targetEntity" relation.targetEntity ++
    selfReferenceIssues relation allowSelfReference ++
    sourceFieldIssues fieldName ++
    relationTypeIssues relation.relationType ++
    targetFieldIssues target (relation.targetFieldName.bind Text.nonBlank?) ++
    keyTypeIssues relation.relationType fieldName source target ++
    clashIssues relation fieldName (otherRelations project editing)

end DomainModel.Rule
