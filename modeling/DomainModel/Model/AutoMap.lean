import DomainModel.Model.Basic
import DomainModel.Text.Ascii
import DomainModel.Text.Blank
import DomainModel.Text.Case
import DomainModel.TypeName

/-! Proposing the rows of a mapper. A row that names a target keeps it; any other field is paired
with the target field of the same name and a compatible type, if there is one. -/

namespace DomainModel

/-- The first row about a source field. -/
def mappingFor? (mappings : List FieldMapping) (source : String) : Option FieldMapping :=
  mappings.find? fun mapping => Text.equalIgnoringCase (Text.trim mapping.sourceField) source

/-- The target that a source field has been given, unless it is blank. -/
def explicitTarget? (mappings : List FieldMapping) (source : String) : Option String :=
  (mappingFor? mappings source).bind fun mapping =>
    if (Text.trim mapping.targetField).isEmpty then none else some mapping.targetField

/-- Whether a target field suits a source field by name and type. -/
def suits (source target : Field) : Bool :=
  Text.lower target.name == Text.lower source.name && TypeName.compatible target.typeName source.typeName

/-- The target that is proposed for a source field; nothing if none suits. -/
def proposedTarget (target : List Field) (source : Field) : String :=
  ((target.find? (suits source)).map (·.name)).getD ""

/-- One row for each source field. -/
def autoMap (source target : List Field) (existing : List FieldMapping) : List FieldMapping :=
  source.map fun field =>
    { sourceField := field.name
      targetField := (explicitTarget? existing field.name).getD (proposedTarget target field) }

end DomainModel
