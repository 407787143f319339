import DomainModel.Rule.Entity
import DomainModel.Rule.Mapper
import DomainModel.Rule.Relation

/-! All rules over a whole project. Each element is checked as if it were saved unchanged, so none
is a duplicate of itself. -/

namespace DomainModel.Rule

/-- What is wrong with the package coordinates. -/
def coordinatesIssues (settings : Coordinates) : List Issue :=
  (if Naming.isGroupId (Text.trim settings.groupId) then []
    else
      [{ code := "invalid_group_id", path := "/settings/groupId",
         message := "'" ++ settings.groupId ++ "' is not a valid group id",
         hint := some "use lowercase dot-separated segments, e.g. com.example.shop" }]) ++
  (if Naming.isArtifactId (Text.trim settings.artifactId) then []
    else
      [{ code := "invalid_artifact_id", path := "/settings/artifactId",
         message := "'" ++ settings.artifactId ++ "' is not a valid artifact id",
         hint := some "use lowercase hyphen-separated segments, e.g. order-service" }])

/-- The issues of the elements of a list, each below the path of its element. -/
def issuesOfEach {α : Type} (path : String) (issues : Nat → α → List Issue) (elements : List α) :
    List Issue :=
  (elements.mapIdx fun i element =>
    (issues i element).map (·.nestAt (path ++ "/" ++ toString i))).flatten

/-- What is wrong with a project. -/
def projectIssues (project : Project) (allowSelfReference : Bool) : List Issue :=
  (project.settings.map coordinatesIssues).getD [] ++
    issuesOfEach "/entities" (fun _ entity => entityIssues entity project (some entity.name)) project.entities ++
    issuesOfEach "/dataObjects" (fun _ object => dataObjectIssues object project (some object.name))
      project.dataObjects ++
    issuesOfEach "/relations" (fun i relation => relationIssues relation project allowSelfReference (some i))
      project.relations ++
    issuesOfEach "/mappers" (fun _ mapper => mapperIssues mapper project (some mapper.name)) project.mappers

/-- The report on a project. -/
def validate (project : Project) (allowSelfReference : Bool) : Report :=
  .ofIssues (projectIssues project allowSelfReference)

end DomainModel.Rule
