import DomainModel.Model.Basic
import DomainModel.Text.Ascii

/-! Applying an import to a project: the imported entities and relations either take the place of
those in the project, or are merged into them. -/

namespace DomainModel

/-- Puts an entity in the place of the first one of its name, or at the end. -/
def putEntity (entities : List Entity) (entity : Entity) : List Entity :=
  match entities with
  | [] => [entity]
  | first :: rest =>
    if Text.equalIgnoringCase first.name entity.name then entity :: rest else first :: putEntity rest entity

/-- Adds a relation at the end unless it is there. -/
def addRelation (relations : List Relation) (relation : Relation) : List Relation :=
  if relation ∈ relations then relations else relations ++ [relation]

/-- How an import is applied. -/
inductive ImportMode where
  /-- The project's entities and relations are dropped. -/
  | replace
  /-- Entities of the same name are replaced in place, the rest is kept. -/
  | merge
  deriving DecidableEq, Repr

namespace Project

/-- Takes over the imported entities and relations for those of the project. -/
def replaceImported (project : Project) (imported : ImportedSchema) : Project :=
  { project with entities := imported.entities, relations := imported.relations }

/-- Merges the imported entities and relations into those of the project. -/
def mergeImported (project : Project) (imported : ImportedSchema) : Project :=
  { project with
    entities := imported.entities.foldl putEntity project.entities
    relations := imported.relations.foldl addRelation project.relations }

/-- Applies an import. -/
def applyImport (project : Project) (imported : ImportedSchema) : ImportMode → Project
  | .replace => project.replaceImported imported
  | .merge => project.mergeImported imported

end Project

end DomainModel
