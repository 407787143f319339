import DomainModel.Rule.Field
import DomainModel.Rule.Name

/-! The rules for entities and data objects, before they are added to a project or change in it. -/

namespace DomainModel.Rule

/-- The flags of an entity that exclude each other. -/
def exclusiveFlags (entity : Entity) : List String :=
  ([(entity.mappedSuperclass, "mappedSuperclass"), (entity.addRestEndpoints, "addRestEndpoints"),
    (entity.addCrudOperations, "addCrudOperations")].filter (·.1)).map (·.2)

/-- Flags that cannot be set together; the issue is about the second of them. -/
def flagIssues (entity : Entity) : List Issue :=
  match exclusiveFlags entity with
  | first :: second :: rest =>
    [{ code := "conflicting_flags", path := "/" ++ second,
       message := " and ".intercalate (first :: second :: rest) ++ " cannot be combined" }]
  | _ => []

/-- What is wrong with an entity; `former` is the name that it had so far. -/
def entityIssues (entity : Entity) (project : Project) (former : Option String) : List Issue :=
  nameIssues entity.name .entity (project.entities.map (·.name)) former ++ flagIssues entity ++
    fieldsIssues entity.fields .entity

/-- A wrapper that is no name of a type. -/
def wrapperIssues (object : DataObject) : List Issue :=
  match object.responseWrapper.bind Text.nonBlank? with
  | some wrapper =>
    if Naming.isTypeName wrapper then []
    else
      [{ code := "invalid_response_wrapper", path := "/responseWrapper",
         message := "'" ++ wrapper ++ "' is not a valid type name" }]
  | none => []

/-- What is wrong with a data object; `former` is the name that it had so far. -/
def dataObjectIssues (object : DataObject) (project : Project) (former : Option String) :
    List Issue :=
  nameIssues object.name .dataObject (project.dataObjects.map (·.name)) former ++ wrapperIssues object ++
    fieldsIssues object.fields .dataObject

end DomainModel.Rule
