import DomainModel.Model.Basic
import DomainModel.Text.Ascii

/-! Finding parts of a model by name. Names are compared ignoring case, and the first match counts.
-/

namespace DomainModel

namespace Entity

/-- The first field that is marked as primary key. -/
def primaryKey? (entity : Entity) : Option Field := entity.fields.find? (·.primaryKey)

/-- The first field of that name. -/
def field? (entity : Entity) (name : String) : Option Field :=
  entity.fields.find? fun field => Text.equalIgnoringCase field.name name

end Entity

namespace Project

/-- The first entity of that name. -/
def entity? (project : Project) (name : String) : Option Entity :=
  project.entities.find? fun entity => Text.equalIgnoringCase entity.name name

/-- The first data object of that name. -/
def dataObject? (project : Project) (name : String) : Option DataObject :=
  project.dataObjects.find? fun object => Text.equalIgnoringCase object.name name

/-- The fields of the model of that name: of a data object if there is one, else of an entity. -/
def fieldsOf? (project : Project) (name : String) : Option (List Field) :=
  match project.dataObject? name with
  | some object => some object.fields
  | none => (project.entity? name).map (·.fields)

end Project

end DomainModel
